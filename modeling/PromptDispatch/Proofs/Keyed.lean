import PromptDispatch.Keyed

/-!
# Keys of association lists

Writing, erasing and dropping entries is read off the list of keys: writing a
present key leaves the keys alone, writing an absent key appends it, and no
operation makes a key occur twice.
-/

namespace PromptDispatch.Keyed

variable {κ : Type} {α β : Type}

@[simp]
theorem keys_nil : keys ([] : List (κ × α)) = [] :=
  rfl

@[simp]
theorem keys_cons (entry : κ × α) (m : List (κ × α)) :
    keys (entry :: m) = entry.1 :: keys m :=
  rfl

@[simp]
theorem keys_append (first second : List (κ × α)) :
    keys (first ++ second) = keys first ++ keys second :=
  List.map_append

@[simp]
theorem length_keys (m : List (κ × α)) : (keys m).length = m.length :=
  List.length_map ..

theorem keys_drop (n : Nat) (m : List (κ × α)) : keys (m.drop n) = (keys m).drop n :=
  List.map_drop

theorem nodup_keys_of_sublist {first second : List (κ × α)} (sub : first.Sublist second)
    (distinct : (keys second).Nodup) : (keys first).Nodup :=
  (List.Sublist.map Prod.fst sub).nodup distinct

theorem keys_map_value (f : α → β) (m : List (κ × α)) :
    keys (m.map fun entry => (entry.1, f entry.2)) = keys m := by
  simp [keys, Function.comp_def]

variable [DecidableEq κ]

/-- A key has a value exactly when it is among the keys. -/
theorem isSome_get?_iff (k : κ) (m : List (κ × α)) :
    (get? k m).isSome ↔ k ∈ keys m := by
  induction m with
  | nil => simp
  | cons entry rest ih =>
      by_cases same : k = entry.1
      · simp [get?, same]
      · simp [get?, same, ih]

theorem has_iff_mem_keys (k : κ) (m : List (κ × α)) : has k m = true ↔ k ∈ keys m :=
  isSome_get?_iff k m

/-- Writing an absent key appends it. -/
theorem put_of_not_mem {k : κ} {m : List (κ × α)} (absent : k ∉ keys m) (v : α) :
    put k v m = m ++ [(k, v)] := by
  induction m with
  | nil => rfl
  | cons entry rest ih =>
      obtain ⟨headNe, tailAbsent⟩ : k ≠ entry.1 ∧ k ∉ keys rest := by
        simpa using absent
      simp [put, headNe, ih tailAbsent]

/-- Writing a present key leaves the keys alone. -/
theorem keys_put_of_mem {k : κ} {m : List (κ × α)} (present : k ∈ keys m) (v : α) :
    keys (put k v m) = keys m := by
  induction m with
  | nil => simp at present
  | cons entry rest ih =>
      by_cases same : k = entry.1
      · simp [put, same]
      · have presentRest : k ∈ keys rest := by simpa [same] using present
        simp [put, same, ih presentRest]

theorem keys_put_of_not_mem {k : κ} {m : List (κ × α)} (absent : k ∉ keys m) (v : α) :
    keys (put k v m) = keys m ++ [k] := by
  simp [put_of_not_mem absent]

theorem mem_keys_put_self (k : κ) (v : α) (m : List (κ × α)) : k ∈ keys (put k v m) := by
  rw [← isSome_get?_iff, get?_put_self]
  rfl

theorem put_ne_nil (k : κ) (v : α) (m : List (κ × α)) : put k v m ≠ [] := by
  intro empty
  have listed := mem_keys_put_self k v m
  rw [empty] at listed
  cases listed

/-- A write adds one entry at most. -/
theorem length_put_le (k : κ) (v : α) (m : List (κ × α)) : (put k v m).length ≤ m.length + 1 := by
  rw [← length_keys, ← length_keys m]
  by_cases present : k ∈ keys m
  · rw [keys_put_of_mem present]
    exact Nat.le_succ _
  · simp [keys_put_of_not_mem present]

theorem nodup_keys_put (k : κ) (v : α) {m : List (κ × α)} (distinct : (keys m).Nodup) :
    (keys (put k v m)).Nodup := by
  by_cases present : k ∈ keys m
  · rw [keys_put_of_mem present]
    exact distinct
  · rw [keys_put_of_not_mem present, List.nodup_append]
    refine ⟨distinct, by simp, ?_⟩
    intro a aMem b bMem
    have bEq : b = k := by simpa using bMem
    intro aEq
    exact present (bEq ▸ aEq ▸ aMem)

/-- What holds of all entries and of a written one holds of all entries after
the write. -/
theorem forall_mem_put {P : κ × α → Prop} {k : κ} {v : α} {m : List (κ × α)}
    (all : ∀ entry ∈ m, P entry) (written : P (k, v)) : ∀ entry ∈ put k v m, P entry := by
  induction m with
  | nil => simpa [put] using written
  | cons entry rest ih =>
      by_cases same : k = entry.1
      · subst same
        simpa [put, written] using fun key value entryMem =>
          all (key, value) (List.mem_cons_of_mem entry entryMem)
      · have restAll := ih fun e eMem => all e (List.mem_cons_of_mem entry eMem)
        simp only [put, same, if_false, List.mem_cons]
        rintro e (rfl | eMem)
        · exact all entry List.mem_cons_self
        · exact restAll e eMem

/-- A value that is read is the value of an entry. -/
theorem mem_of_get? {k : κ} {v : α} {m : List (κ × α)} (found : get? k m = some v) :
    (k, v) ∈ m := by
  induction m with
  | nil => simp at found
  | cons entry rest ih =>
      by_cases same : k = entry.1
      · have valueEq : entry.2 = v := by simpa [get?, same] using found
        rw [same, ← valueEq]
        exact List.mem_cons_self
      · have foundRest : get? k rest = some v := by simpa [get?, same] using found
        exact List.mem_cons_of_mem entry (ih foundRest)

theorem get?_of_mem {k : κ} {v : α} {m : List (κ × α)} (distinct : (keys m).Nodup)
    (member : (k, v) ∈ m) : get? k m = some v := by
  induction m with
  | nil => cases member
  | cons entry rest ih =>
      rcases List.nodup_cons.mp distinct with ⟨newKey, restDistinct⟩
      rcases List.mem_cons.mp member with rfl | among
      · simp [get?]
      · by_cases same : k = entry.1
        · have listed : k ∈ keys rest := List.mem_map_of_mem among
          rw [same] at listed
          exact absurd listed newKey
        · simpa [get?, same] using ih restDistinct among

/-- Mappings with the same distinct keys in one order and the same values are the
same. -/
theorem eq_of_get? {m n : List (κ × α)} (distinct : (keys m).Nodup) (keys_eq : keys m = keys n)
    (values : ∀ k ∈ keys m, get? k m = get? k n) : m = n := by
  induction m generalizing n with
  | nil => exact (List.map_eq_nil_iff.mp keys_eq.symm).symm
  | cons entry m ih =>
      cases n with
      | nil => cases keys_eq
      | cons other n =>
          rw [keys_cons, keys_cons, List.cons.injEq] at keys_eq
          rw [keys_cons, List.nodup_cons] at distinct
          have sameValue : entry.2 = other.2 := by
            simpa [get?, keys_eq.1] using values entry.1 (by simp)
          have sameRest : m = n := by
            refine ih distinct.2 keys_eq.2 fun k kMem => ?_
            have different : k ≠ entry.1 := by
              rintro rfl
              exact distinct.1 kMem
            have otherDifferent : k ≠ other.1 := keys_eq.1 ▸ different
            simpa [get?, different, otherDifferent] using values k (by simp [kMem])
          rw [sameRest, Prod.ext keys_eq.1 sameValue]

/-- Of two writes of one key the second counts. -/
theorem put_put (k : κ) (v w : α) (m : List (κ × α)) : put k v (put k w m) = put k v m := by
  induction m with
  | nil => simp [put]
  | cons entry rest ih => by_cases same : k = entry.1 <;> simp [put, same, ih]

/-- Writing the value a key has changes nothing. -/
theorem put_of_get? {k : κ} {v : α} {m : List (κ × α)} (found : get? k m = some v) :
    put k v m = m := by
  induction m with
  | nil => simp at found
  | cons entry rest ih =>
      by_cases same : k = entry.1
      · have valueEq : entry.2 = v := by simpa [get?, same] using found
        simp [put, same, ← valueEq]
      · have foundRest : get? k rest = some v := by simpa [get?, same] using found
        simp [put, same, ih foundRest]

theorem get?_append_of_not_mem {k : κ} {first : List (κ × α)} (absent : k ∉ keys first)
    (second : List (κ × α)) : get? k (first ++ second) = get? k second := by
  induction first with
  | nil => rfl
  | cons entry rest ih =>
      obtain ⟨headNe, tailAbsent⟩ : k ≠ entry.1 ∧ k ∉ keys rest := by
        simpa using absent
      simp [get?, headNe, ih tailAbsent]

/-- With distinct keys, dropping the oldest entries leaves the values of the
keys that stay. -/
theorem get?_drop_of_mem {k : κ} {n : Nat} {m : List (κ × α)} (distinct : (keys m).Nodup)
    (present : k ∈ keys (m.drop n)) : get? k (m.drop n) = get? k m := by
  have split : keys (m.take n) ++ keys (m.drop n) = keys m := by
    rw [← keys_append, List.take_append_drop]
  have absent : k ∉ keys (m.take n) := by
    intro kMem
    rw [← split, List.nodup_append] at distinct
    exact distinct.2.2 k kMem k present rfl
  calc
    get? k (m.drop n) = get? k (m.take n ++ m.drop n) := (get?_append_of_not_mem absent _).symm
    _ = get? k m := by rw [List.take_append_drop]

/-- Erasing keeps a sublist. -/
theorem erase_sublist (k : κ) (m : List (κ × α)) : (erase k m).Sublist m := by
  induction m with
  | nil => exact List.Sublist.refl _
  | cons entry rest ih =>
      by_cases same : k = entry.1
      · simp [erase, same]
      · simpa [erase, same] using ih

private theorem foldl_put_of_nodup (pairs m : List (κ × α))
    (distinct : (keys (m ++ pairs)).Nodup) :
    pairs.foldl (fun m p => put p.1 p.2 m) m = m ++ pairs := by
  induction pairs generalizing m with
  | nil => simp
  | cons pair rest ih =>
      have absent : pair.1 ∉ keys m := by
        intro pairMem
        rw [keys_append, List.nodup_append] at distinct
        exact distinct.2.2 pair.1 pairMem pair.1 (by simp) rfl
      rw [List.foldl_cons, put_of_not_mem absent, ih _ (by simpa using distinct)]
      simp

/-- Pairs with distinct keys are the mapping they write. -/
theorem ofPairs_of_nodup {pairs : List (κ × α)} (distinct : (keys pairs).Nodup) :
    ofPairs pairs = pairs := by
  simpa [ofPairs] using foldl_put_of_nodup pairs [] (by simpa using distinct)

private theorem foldl_put_induction {P : List (κ × α) → Prop} (pairs m : List (κ × α))
    (step : ∀ m, P m → ∀ pair ∈ pairs, P (put pair.1 pair.2 m)) (start : P m) :
    P (pairs.foldl (fun m p => put p.1 p.2 m) m) := by
  induction pairs generalizing m with
  | nil => exact start
  | cons pair rest ih =>
      refine ih _ (fun m holds p pMem => step m holds p (List.mem_cons_of_mem pair pMem)) ?_
      exact step m start pair List.mem_cons_self

/-- A mapping written by pairs has distinct keys. -/
theorem nodup_keys_ofPairs (pairs : List (κ × α)) : (keys (ofPairs pairs)).Nodup :=
  foldl_put_induction (P := fun m => (keys m).Nodup) pairs []
    (fun _ distinct pair _ => nodup_keys_put pair.1 pair.2 distinct) (by simp)

/-- What holds of all pairs holds of the mapping they write. -/
theorem forall_mem_ofPairs {P : κ × α → Prop} {pairs : List (κ × α)}
    (all : ∀ pair ∈ pairs, P pair) : ∀ entry ∈ ofPairs pairs, P entry :=
  foldl_put_induction (P := fun m => ∀ entry ∈ m, P entry) pairs []
    (fun _ holds pair pairMem => forall_mem_put holds (all pair pairMem)) (by simp)

theorem ofPairs_ne_nil {pairs : List (κ × α)} (some_pair : pairs ≠ []) : ofPairs pairs ≠ [] := by
  rcases List.eq_nil_or_concat pairs with rfl | ⟨before, last, rfl⟩
  · exact absurd rfl some_pair
  · rw [ofPairs, List.concat_eq_append, List.foldl_append]
    exact put_ne_nil _ _ _

/-- A mapping has no more entries than pairs that write it. -/
theorem length_ofPairs_le (pairs : List (κ × α)) : (ofPairs pairs).length ≤ pairs.length := by
  have folded (m : List (κ × α)) :
      (pairs.foldl (fun m p => put p.1 p.2 m) m).length ≤ m.length + pairs.length := by
    induction pairs generalizing m with
    | nil => exact Nat.le_refl _
    | cons pair rest ih =>
        have written := length_put_le pair.1 pair.2 m
        rw [List.foldl_cons, List.length_cons]
        calc
          _ ≤ (put pair.1 pair.2 m).length + rest.length := ih _
          _ ≤ m.length + 1 + rest.length := Nat.add_le_add_right written _
          _ = m.length + (rest.length + 1) := by omega
  simpa [ofPairs] using folded []

theorem put_map_value (f : α → β) (k : κ) (v : α) (m : List (κ × α)) :
    (put k v m).map (fun entry => (entry.1, f entry.2)) =
      put k (f v) (m.map fun entry => (entry.1, f entry.2)) := by
  induction m with
  | nil => rfl
  | cons entry rest ih =>
      by_cases same : k = entry.1
      · simp [put, same]
      · simp [put, same, ih]

/-- Values may be changed before the pairs are written or after. -/
theorem ofPairs_map_value (f : α → β) (pairs : List (κ × α)) :
    (ofPairs pairs).map (fun entry => (entry.1, f entry.2)) =
      ofPairs (pairs.map fun entry => (entry.1, f entry.2)) := by
  have folded : ∀ m : List (κ × α),
      (pairs.foldl (fun m p => put p.1 p.2 m) m).map (fun entry => (entry.1, f entry.2)) =
        (pairs.map fun entry => (entry.1, f entry.2)).foldl (fun m p => put p.1 p.2 m)
          (m.map fun entry => (entry.1, f entry.2)) := by
    induction pairs with
    | nil => exact fun _ => rfl
    | cons pair rest ih =>
        intro m
        rw [List.foldl_cons, ih, put_map_value, List.map_cons, List.foldl_cons]
  exact folded []

/-! ## Items that are kept once -/

omit [DecidableEq κ] in
/-- Items are kept one after another unless the same one was kept before.  Going on
from items that are kept already adds the first of each group of others. -/
theorem foldl_keep (same : κ → κ → Bool) (kept items : List κ) :
    items.foldl (fun kept item => if kept.any (same item) then kept else kept ++ [item]) kept =
      kept ++ (items.filter fun item => !kept.any (same item)).eraseDupsBy same := by
  induction items generalizing kept with
  | nil => simp
  | cons item items ih =>
      rw [List.foldl_cons, ih]
      by_cases seen : kept.any (same item) = true
      · rw [if_pos seen, List.filter_cons_of_neg (by simpa using seen)]
      · have sameTest : (fun other => !(kept ++ [item]).any (same other)) =
            fun other => decide (same other item = false) && !kept.any (same other) := by
          funext other
          rw [List.any_append, Bool.not_or, Bool.and_comm, List.any_cons, List.any_nil,
            Bool.or_false, Bool.decide_eq_false]
        rw [if_neg seen, List.filter_cons_of_pos (by simpa using seen), List.eraseDupsBy_cons,
          List.filter_filter, List.append_assoc, List.singleton_append, sameTest]

/-! ## Keys as the distinct items of a list -/

section Distinct

variable [BEq κ] [LawfulBEq κ]

omit [DecidableEq κ] in
theorem nodup_eraseDups : (names : List κ) → names.eraseDups.Nodup
  | [] => List.nodup_nil
  | name :: names => by
      rw [List.eraseDups_cons, List.nodup_cons]
      constructor
      · simp [List.mem_eraseDups]
      · exact nodup_eraseDups _
termination_by names => names.length
decreasing_by exact Nat.lt_succ_of_le (List.length_filter_le _ _)

omit [DecidableEq κ] in
/-- A list with one item more has it as a further distinct item unless it was
among the others. -/
theorem eraseDups_concat (names : List κ) (name : κ) :
    (names ++ [name]).eraseDups =
      if name ∈ names then names.eraseDups else names.eraseDups ++ [name] := by
  rw [List.eraseDups_append, List.removeAll]
  by_cases among : name ∈ names
  · simp [among]
  · simp [among, List.eraseDups_cons]

/-- The keys after a write, where the keys before are the distinct items of a
list. -/
theorem keys_put_eraseDups {m : List (κ × α)} {names : List κ}
    (keys_eq : keys m = names.eraseDups) (key : κ) (value : α) :
    keys (put key value m) = (names ++ [key]).eraseDups := by
  rw [eraseDups_concat]
  have mem_iff : key ∈ keys m ↔ key ∈ names := by rw [keys_eq, List.mem_eraseDups]
  by_cases among : key ∈ names
  · rw [if_pos among, keys_put_of_mem (mem_iff.mpr among), keys_eq]
  · rw [if_neg among, keys_put_of_not_mem (mt mem_iff.mp among), keys_eq]

end Distinct

end PromptDispatch.Keyed
