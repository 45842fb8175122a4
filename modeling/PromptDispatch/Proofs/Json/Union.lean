import PromptDispatch.Proofs.Json.Sameness

/-!
# The union of lists

The union of two lists keeps, of every class of same values, the item that comes first in
both lists together, and nothing else.  That is so because sameness is an equivalence: an
item that is dropped is the same as one that is kept, so whatever is the same as the one
is the same as the other.  For the same reason it makes no difference whether repetitions
are dropped before another list is united.
-/

namespace PromptDispatch

namespace Json

/-- The items that nothing before them is the same as, told by their places. -/
def firstOccurrences (items : List Json) : List Json :=
  (items.zipIdx.filter fun (v, place) => !(items.take place).any (same · v)).map (·.1)

/-- What uniting two lists comes to. -/
structure Unites (xs ys united : List Json) : Prop where
  sublist : united.Sublist (xs ++ ys)
  different : united.Pairwise fun v w => same v w = false ∧ same w v = false
  covers : ∀ v ∈ xs ++ ys, ∃ w ∈ united, same w v = true ∧ same v w = true
  firsts : united = firstOccurrences (xs ++ ys)

/-! ## First occurrences -/

theorem firstOccurrences_concat (items : List Json) (v : Json) :
    firstOccurrences (items ++ [v]) =
      if items.any (same · v) then firstOccurrences items else firstOccurrences items ++ [v] := by
  have earlier : (items.zipIdx.filter fun (w, place) =>
        !((items ++ [v]).take place).any (same · w)) =
      items.zipIdx.filter fun (w, place) => !(items.take place).any (same · w) := by
    apply List.filter_congr
    rintro ⟨w, place⟩ mem
    have within : place < items.length := by simpa using List.snd_lt_of_mem_zipIdx mem
    dsimp only
    rw [List.take_append_of_le_length within.le]
  rw [firstOccurrences, List.zipIdx_append, List.filter_append, earlier, List.map_append]
  by_cases seen : items.any (same · v) = true
  · rw [if_pos seen]
    simp [seen, firstOccurrences]
  · rw [if_neg seen]
    simp [seen, firstOccurrences]

theorem firstOccurrences_sublist (items : List Json) :
    (firstOccurrences items).Sublist items := by
  have sub := (List.filter_sublist (p := fun (v, place) => !(items.take place).any (same · v))
    (l := items.zipIdx)).map (·.1)
  rwa [List.zipIdx_map_fst] at sub

/-! ## Dropping repetitions -/

theorem foldl_addNew_subset (kept items : List Json) :
    items.foldl addNew kept ⊆ kept ++ items := by
  induction items generalizing kept with
  | nil => simp
  | cons v items ih =>
      intro w mem
      have later := ih (addNew kept v) mem
      rw [addNew] at later
      split at later <;> simp at later ⊢ <;> tauto

theorem Proper.reflexive {items : List Json} (proper : ∀ v ∈ items, v.Proper) :
    ∀ v ∈ items, same v v = true :=
  fun v mem => (proper v mem).same_self

section

variable {items : List Json} (proper : ∀ v ∈ items, v.Proper)
include proper

/-- What is the same as an item is the same as one that is kept. -/
theorem any_foldl_addNew {kept : List Json} {v : Json} (keptProper : ∀ w ∈ kept, w.Proper)
    (properToo : v.Proper) (seen : items.any (same · v) = true) :
    (items.foldl addNew kept).any (same · v) = true := by
  obtain ⟨w, mem, isSame⟩ := List.any_eq_true.mp seen
  have isKept : (items.foldl addNew kept).any (same · w) = true :=
    seen_foldl_addNew (Proper.reflexive proper) w mem
  obtain ⟨u, uMem, uSame⟩ := List.any_eq_true.mp isKept
  have uProper : u.Proper :=
    List.forall_mem_append.mpr ⟨keptProper, proper⟩ u (foldl_addNew_subset kept items uMem)
  exact List.any_eq_true.mpr
    ⟨u, uMem, uProper.same_trans (proper w mem) properToo uSame isSame⟩

theorem any_foldl_addNew_nil {v : Json} (properToo : v.Proper) :
    (items.foldl addNew []).any (same · v) = items.any (same · v) := by
  rw [Bool.eq_iff_iff]
  refine ⟨fun seen => ?_, any_foldl_addNew proper (by simp) properToo⟩
  obtain ⟨w, mem, isSame⟩ := List.any_eq_true.mp seen
  exact List.any_eq_true.mpr ⟨w, foldl_addNew_subset [] items mem, isSame⟩

end

theorem foldl_addNew_eq_firstOccurrences {items : List Json} (proper : ∀ v ∈ items, v.Proper) :
    items.foldl addNew [] = firstOccurrences items := by
  induction items using List.reverseRecOn with
  | nil => rfl
  | append_singleton items v ih =>
      rw [List.forall_mem_append, List.forall_mem_singleton] at proper
      rw [List.foldl_append, List.foldl_cons, List.foldl_nil, addNew,
        any_foldl_addNew_nil proper.1 proper.2, ih proper.1, firstOccurrences_concat]

/-- It makes no difference to what is kept whether repetitions are dropped before. -/
theorem foldl_addNew_foldl_addNew {items kept : List Json} (proper : ∀ v ∈ items, v.Proper)
    (keptProper : ∀ v ∈ kept, v.Proper) :
    (items.foldl addNew []).foldl addNew kept = items.foldl addNew kept := by
  induction items using List.reverseRecOn with
  | nil => rfl
  | append_singleton items v ih =>
      rw [List.forall_mem_append, List.forall_mem_singleton] at proper
      rw [List.foldl_append, List.foldl_append, List.foldl_cons, List.foldl_nil, List.foldl_cons,
        List.foldl_nil]
      -- Without transitivity an item might be dropped before and yet be missed later.
      by_cases seen : items.any (same · v) = true
      · have dropped : (items.foldl addNew []).any (same · v) = true :=
          any_foldl_addNew proper.1 (by simp) proper.2 seen
        rw [addNew, if_pos dropped, ih proper.1, addNew,
          if_pos (any_foldl_addNew proper.1 keptProper proper.2 seen)]
      · rw [← any_foldl_addNew_nil proper.1 proper.2] at seen
        rw [addNew, if_neg seen, List.foldl_append, ih proper.1, List.foldl_cons, List.foldl_nil]

/-! ## Uniting -/

theorem unites_union {xs ys : List Json} (proper : ∀ v ∈ xs ++ ys, v.Proper) :
    Unites xs ys (union xs ys) := by
  have firsts : union xs ys = firstOccurrences (xs ++ ys) :=
    foldl_addNew_eq_firstOccurrences proper
  have sublist : (union xs ys).Sublist (xs ++ ys) := firsts ▸ firstOccurrences_sublist _
  have kept (v) (mem : v ∈ union xs ys) : v.Proper := proper v (sublist.subset mem)
  refine ⟨sublist, ?_, ?_, firsts⟩
  · refine (noRepeats_union xs ys).imp_of_mem ?_
    intro v w vMem wMem different
    refine ⟨different, ?_⟩
    rw [← Bool.not_eq_true] at different ⊢
    exact fun isSame => different ((kept w wMem).same_symm (kept v vMem) isSame)
  · intro v mem
    have isKept : (union xs ys).any (same · v) = true :=
      seen_foldl_addNew (Proper.reflexive proper) v mem
    obtain ⟨w, wMem, isSame⟩ := List.any_eq_true.mp isKept
    exact ⟨w, wMem, isSame, (kept w wMem).same_symm (proper v mem) isSame⟩

theorem union_union_left {xs ys : List Json} (zs : List Json) :
    union (union xs ys) zs = (xs ++ (ys ++ zs)).foldl addNew [] := by
  rw [union_of_noRepeats (noRepeats_union xs ys), union, ← List.foldl_append, List.append_assoc]

theorem union_union_right {xs ys zs : List Json} (proper : ∀ v ∈ xs ++ (ys ++ zs), v.Proper) :
    union xs (union ys zs) = (xs ++ (ys ++ zs)).foldl addNew [] := by
  rw [List.forall_mem_append] at proper
  have kept (v) (mem : v ∈ xs.foldl addNew []) : v.Proper :=
    proper.1 v (foldl_addNew_subset [] xs mem)
  rw [union, List.foldl_append, union, foldl_addNew_foldl_addNew proper.2 kept,
    ← List.foldl_append]

/-- Uniting lists keeps the first of every class of values of one meaning and nothing else;
so it does not matter how three lists are grouped, nor whether the second of two lists is
united once more. -/
theorem union_keepsFirsts {xs ys zs : List Json} (proper : ∀ v ∈ xs ++ ys ++ zs, v.Proper) :
    (∀ v ∈ xs ++ ys ++ zs, ∀ w ∈ xs ++ ys ++ zs,
        (same v w = true ↔ v.meaning = w.meaning)) ∧
      Unites xs ys (union xs ys) ∧ union (union xs ys) zs = union xs (union ys zs) ∧
      union (union xs ys) ys = union xs ys := by
  refine ⟨fun v mem w memToo => same_iff v w (proper v mem) (proper w memToo), ?_, ?_, ?_⟩
  · exact unites_union (List.forall_mem_append.mp proper).1
  · rw [List.append_assoc] at proper
    rw [union_union_left, union_union_right proper]
  · have ofYs := (List.forall_mem_append.mp (List.forall_mem_append.mp proper).1).2
    exact union_union xs (Proper.reflexive ofYs)

/-- One as a binary64 number. -/
def realOne : Binary64 := .finite false ⟨1023 * 2 ^ 52, by decide⟩

/-- A whole one, an object and nothing. -/
def wholeOnes : List Json := [.int 1, .obj [("a", .bool true), ("b", .float .nan)], .null]

/-- The same one and the same object in other kinds and another order, and a text. -/
def realOnes : List Json :=
  [.float realOne, .obj [("b", .float .nan), ("a", .float realOne)], .str "1"]

/-- Truth values and what is not a number. -/
def looseOnes : List Json := [.bool true, .float .nan, .bool false, .float .nan]

theorem proper_ones : ∀ v ∈ wholeOnes ++ realOnes ++ looseOnes, v.Proper := by
  have each (v : Json) (once : v.NamesOnce) (unsealed : v.Unsealed) : v.Proper := ⟨once, unsealed⟩
  simp only [wholeOnes, realOnes, looseOnes, List.cons_append, List.nil_append,
    List.forall_mem_cons]
  refine ⟨?_, ?_, ?_, ?_, ?_, ?_, ?_, ?_, ?_, ?_, by simp⟩ <;> apply each <;>
    simp [NamesOnce, FieldsNameOnce, FieldNamesOnce, Unsealed, FieldsUnsealed, FieldUnsealed]

/-- The whole one stays, and of what is not a number one is kept. -/
theorem union_keepsFirsts_ones :
    (∀ v ∈ wholeOnes ++ realOnes ++ looseOnes, v.Proper) ∧
      (union wholeOnes realOnes).map kindName = ["int", "dict", "NoneType", "str"] ∧
      (union (union wholeOnes realOnes) looseOnes).map kindName =
        ["int", "dict", "NoneType", "str", "float", "bool"] ∧
      (∀ v ∈ wholeOnes ++ realOnes ++ looseOnes, ∀ w ∈ wholeOnes ++ realOnes ++ looseOnes,
        (same v w = true ↔ v.meaning = w.meaning)) ∧
      Unites wholeOnes realOnes (union wholeOnes realOnes) ∧
      union (union wholeOnes realOnes) looseOnes = union wholeOnes (union realOnes looseOnes) ∧
      union (union wholeOnes realOnes) realOnes = union wholeOnes realOnes :=
  ⟨proper_ones, by decide +kernel, by decide +kernel, union_keepsFirsts proper_ones⟩

end Json

end PromptDispatch
