import PromptDispatch.Proofs.Json.Merging

/-!
# Merging the same value twice

A list that is united with the one that is held has nothing new the second time.  A list
that is copied, since no list is held in its place, keeps all its items the first time and
is united with itself the second time; that changes it exactly when it repeats an item.  So
merging a value a second time changes nothing exactly when no list that is copied repeats
an item.
-/

namespace PromptDispatch

namespace Json

/-! ## Every value is the same as itself -/

mutual

/-- Nothing inside a value is sealed. -/
def Unsealed : Json → Prop
  | .arr items => AllUnsealed items
  | .obj fields => FieldsUnsealed fields
  | .sealed _ => False
  | _ => True

/-- Nothing inside list items is sealed. -/
def AllUnsealed : List Json → Prop
  | [] => True
  | v :: rest => v.Unsealed ∧ AllUnsealed rest

/-- Nothing inside object fields is sealed. -/
def FieldsUnsealed : List (String × Json) → Prop
  | [] => True
  | f :: rest => FieldUnsealed f ∧ FieldsUnsealed rest

/-- Nothing inside one field is sealed. -/
def FieldUnsealed : String × Json → Prop
  | (_, v) => v.Unsealed

end

theorem fieldsUnsealed_iff (fields : List (String × Json)) :
    FieldsUnsealed fields ↔ ∀ field ∈ fields, field.2.Unsealed := by
  induction fields with
  | nil => simp [FieldsUnsealed]
  | cons field fields ih => rw [FieldsUnsealed, FieldUnsealed, ih, List.forall_mem_cons]

/-- A value with a meaning of its own: nothing in it is sealed, and its objects name each
field once. -/
structure Proper (v : Json) : Prop where
  once : v.NamesOnce
  unsealed : v.Unsealed

theorem Proper.of_mem {fields : List (String × Json)} (proper : (Json.obj fields).Proper) :
    ∀ field ∈ fields, field.2.Proper := fun field mem =>
  ⟨proper.once.of_mem field mem, (fieldsUnsealed_iff fields).mp proper.unsealed field mem⟩

theorem Number.same_self (n : Number) : n.same n = true := by
  cases n with
  | whole n => simp [Number.same]
  | real x => cases x <;> simp [Number.same, Binary64.sameValue]

/-- Fields that are found among others under their names, with values that are the same as
themselves, are the same as those. -/
theorem sameFields_of_found {fields all : List (String × Json)}
    (found : ∀ field ∈ fields, Keyed.get? field.1 all = some field.2)
    (same_self : ∀ field ∈ fields, same field.2 field.2 = true) :
    sameFields fields all = true := by
  induction fields with
  | nil => rw [sameFields]
  | cons field fields ih =>
      rw [List.forall_mem_cons] at found same_self
      rw [sameFields, Bool.and_eq_true]
      refine ⟨?_, ih found.2 same_self.2⟩
      rw [sameField, found.1]
      exact same_self.1

mutual

theorem same_self : ∀ v : Json, v.NamesOnce → v.Unsealed → same v v = true
  | .arr items, once, unsealed => by
      rw [same]
      exact sameItems_self items once unsealed
  | .obj fields, once, unsealed => by
      rw [same, Bool.and_eq_true]
      refine ⟨beq_self_eq_true _, sameFields_of_found ?_ (same_self_of_mem fields once.2 unsealed)⟩
      intro field mem
      exact Keyed.get?_of_mem once.keys mem
  | .bool _, _, _ | .int _, _, _ | .float _, _, _ => by simp [same, number?, Number.same_self]
  | .str _, _, _ | .null, _, _ => by simp [same]
  | .sealed _, _, unsealed => unsealed.elim

theorem sameItems_self : ∀ items : List Json, AllNameOnce items → AllUnsealed items →
    sameItems items items = true
  | [], _, _ => by rw [sameItems]
  | v :: rest, once, unsealed => by
      rw [sameItems, same_self v once.1 unsealed.1, sameItems_self rest once.2 unsealed.2]
      rfl

theorem same_self_of_mem : ∀ fields : List (String × Json), FieldsNameOnce fields →
    FieldsUnsealed fields → ∀ field ∈ fields, same field.2 field.2 = true
  | [], _, _ => by simp
  | (_, v) :: rest, once, unsealed =>
      List.forall_mem_cons.mpr
        ⟨same_self v once.1 unsealed.1, same_self_of_mem rest once.2 unsealed.2⟩

end

theorem same_self_of_mem_items {items : List Json} (proper : (Json.arr items).Proper) :
    ∀ v ∈ items, same v v = true := by
  rcases proper with ⟨once, unsealed⟩
  rw [NamesOnce] at once
  rw [Unsealed] at unsealed
  induction items with
  | nil => simp
  | cons v rest ih =>
      exact List.forall_mem_cons.mpr ⟨same_self v once.1 unsealed.1, ih once.2 unsealed.2⟩

/-! ## Uniting again -/

/-- No item is the same as one before it. -/
def NoRepeats (items : List Json) : Prop := items.Pairwise fun earlier later =>
  same earlier later = false

/-- Items of which each is the same as one that is kept add nothing. -/
theorem foldl_addNew_of_seen {kept items : List Json}
    (seen : ∀ v ∈ items, kept.any (same · v) = true) : items.foldl addNew kept = kept := by
  induction items with
  | nil => rfl
  | cons v items ih =>
      rw [List.forall_mem_cons] at seen
      rw [List.foldl_cons, addNew, if_pos seen.1, ih seen.2]

/-- Items that repeat nothing, also of what is kept, are all added. -/
theorem foldl_addNew_of_noRepeats {kept items : List Json} (fresh : NoRepeats (kept ++ items)) :
    items.foldl addNew kept = kept ++ items := by
  induction items generalizing kept with
  | nil => simp
  | cons v items ih =>
      have unseen : ¬ kept.any (same · v) = true := by
        rw [List.any_eq_true]
        rintro ⟨w, mem, isSame⟩
        have different := (List.pairwise_append.mp fresh).2.2 w mem v List.mem_cons_self
        rw [different] at isSame
        cases isSame
      rw [List.append_cons] at fresh
      rw [List.foldl_cons, addNew, if_neg unseen, ih fresh, List.append_assoc]
      rfl

/-- Adding an item unless the same one is kept brings no repetition. -/
theorem noRepeats_addNew {kept : List Json} (fresh : NoRepeats kept) (v : Json) :
    NoRepeats (addNew kept v) := by
  rw [addNew]
  split
  · exact fresh
  · next unseen =>
    rw [NoRepeats, List.pairwise_append]
    refine ⟨fresh, List.pairwise_singleton _ _, ?_⟩
    intro w mem later isLater
    rw [List.mem_singleton.mp isLater, ← Bool.not_eq_true]
    intro isSame
    exact unseen (List.any_eq_true.mpr ⟨w, mem, isSame⟩)

theorem noRepeats_foldl_addNew {kept : List Json} (fresh : NoRepeats kept) (items : List Json) :
    NoRepeats (items.foldl addNew kept) := by
  induction items generalizing kept with
  | nil => exact fresh
  | cons v items ih => exact ih (noRepeats_addNew fresh v)

theorem prefix_addNew (kept : List Json) (v : Json) : kept <+: addNew kept v := by
  rw [addNew]
  split
  · exact List.prefix_rfl
  · exact List.prefix_append _ _

theorem prefix_foldl_addNew (kept items : List Json) : kept <+: items.foldl addNew kept := by
  induction items generalizing kept with
  | nil => exact List.prefix_rfl
  | cons v items ih => exact (prefix_addNew kept v).trans (ih _)

/-- Everything that came is the same as something that is kept. -/
theorem seen_foldl_addNew {kept items : List Json} (reflexive : ∀ v ∈ items, same v v = true) :
    ∀ v ∈ items, (items.foldl addNew kept).any (same · v) = true := by
  induction items generalizing kept with
  | nil => simp
  | cons v items ih =>
      rw [List.forall_mem_cons] at reflexive
      refine List.forall_mem_cons.mpr ⟨?_, ih reflexive.2⟩
      have added : (addNew kept v).any (same · v) = true := by
        rw [addNew]
        split
        · next seen => exact seen
        · simp [reflexive.1]
      obtain ⟨w, mem, isSame⟩ := List.any_eq_true.mp added
      exact List.any_eq_true.mpr ⟨w, (prefix_foldl_addNew _ items).subset mem, isSame⟩

theorem noRepeats_union (kept items : List Json) : NoRepeats (union kept items) :=
  noRepeats_foldl_addNew List.Pairwise.nil _

/-- Uniting with a list that repeats nothing keeps that list and goes on from it. -/
theorem union_of_noRepeats {kept : List Json} (fresh : NoRepeats kept) (items : List Json) :
    union kept items = items.foldl addNew kept := by
  have whole : NoRepeats ([] ++ kept) := fresh
  rw [union, List.foldl_append, foldl_addNew_of_noRepeats whole, List.nil_append]

/-- Uniting with the same list again changes nothing. -/
theorem union_union (kept : List Json) {items : List Json}
    (reflexive : ∀ v ∈ items, same v v = true) :
    union (union kept items) items = union kept items := by
  rw [union_of_noRepeats (noRepeats_union kept items)]
  apply foldl_addNew_of_seen
  rw [union, List.foldl_append]
  exact seen_foldl_addNew reflexive

/-- Uniting a list with itself changes nothing exactly when it repeats nothing. -/
theorem union_self_iff {items : List Json} (reflexive : ∀ v ∈ items, same v v = true) :
    union items items = items ↔ NoRepeats items := by
  constructor
  · intro stays
    rw [← stays]
    exact noRepeats_union items items
  · intro fresh
    rw [union_of_noRepeats fresh]
    apply foldl_addNew_of_seen
    intro v mem
    exact List.any_eq_true.mpr ⟨v, mem, reflexive v mem⟩

/-! ## Merging again -/

/-- Wherever a value has a list and none is held, its list repeats nothing. -/
def CopiesNoRepeats (held : Option Json) (v : Json) : Prop :=
  ∀ path items, v.at? path = some (.arr items) →
    (∀ kept, held.bind (·.at? path) ≠ some (.arr kept)) → NoRepeats items

theorem copiesNoRepeats_of_isScalar {v : Json} (scalar : v.IsScalar) (held : Option Json) :
    CopiesNoRepeats held v := by
  intro path items found
  cases v with
  | arr items => cases scalar
  | obj fields => cases scalar
  | _ => cases path <;> cases found

theorem copiesNoRepeats_arr_iff (held : Option Json) (items : List Json) :
    CopiesNoRepeats held (.arr items) ↔
      ((∀ kept, held ≠ some (.arr kept)) → NoRepeats items) := by
  have heldHere : held.bind (·.at? []) = held := by cases held <;> rfl
  constructor
  · intro copies none_held
    exact copies [] items rfl (by rwa [heldHere])
  · intro here path inner found none_held
    cases path with
    | nil =>
        obtain rfl : items = inner := Json.arr.inj (Option.some.inj found)
        exact here (by rwa [heldHere] at none_held)
    | cons name path => cases found

theorem copiesNoRepeats_obj_iff {fields : List (String × Json)}
    (distinct : (Keyed.keys fields).Nodup) (held : Option Json) :
    CopiesNoRepeats held (.obj fields) ↔
      ∀ field ∈ fields, CopiesNoRepeats (Keyed.get? field.1 (heldFields held)) field.2 := by
  constructor
  · rintro copies ⟨name, v⟩ mem path items found
    rw [← bind_at?_cons]
    refine copies (name :: path) items ?_
    rw [at?, field?, Keyed.get?_of_mem distinct mem]
    exact found
  · rintro each path items found
    cases path with
    | nil => cases found
    | cons name path =>
        rw [at?, field?] at found
        obtain ⟨v, isField, inner⟩ := Option.bind_eq_some_iff.mp found
        rw [bind_at?_cons]
        exact each _ (Keyed.mem_of_get? isField) path items inner

/-- Merging fields changes nothing exactly when each of them finds what it comes to. -/
theorem mergeFields_eq_self_iff {fields : List (String × Json)}
    (distinct : (Keyed.keys fields).Nodup) (into : List (String × Json)) :
    mergeFields into fields = into ↔
      ∀ field ∈ fields, Keyed.get? field.1 into =
        some (mergeSlot (Keyed.get? field.1 into) field.2) := by
  constructor
  · intro stays field mem
    have after := get?_mergeFields distinct field.1 into
    rw [stays, Keyed.get?_of_mem distinct mem] at after
    exact after
  · intro settled
    clear distinct
    induction fields with
    | nil => rw [mergeFields]
    | cons field fields ih =>
        rw [List.forall_mem_cons] at settled
        rw [mergeFields, mergeField, Keyed.put_of_get? settled.1]
        exact ih settled.2

/-- A list merged again where it was merged before. -/
theorem mergeSlot_mergeSlot_arr_iff (held : Option Json) {items : List Json}
    (reflexive : ∀ v ∈ items, same v v = true) :
    mergeSlot (some (mergeSlot held (.arr items))) (.arr items) = mergeSlot held (.arr items) ↔
      CopiesNoRepeats held (.arr items) := by
  have copied (merged : mergeSlot held (.arr items) = .arr items)
      (none_held : ∀ kept, held ≠ some (.arr kept)) :
      mergeSlot (some (mergeSlot held (.arr items))) (.arr items) = mergeSlot held (.arr items) ↔
        CopiesNoRepeats held (.arr items) := by
    rw [merged, mergeSlot, Json.arr.injEq, union_self_iff reflexive, copiesNoRepeats_arr_iff]
    exact ⟨fun fresh _ => fresh, fun here => here none_held⟩
  cases held with
  | none => exact copied rfl (by simp)
  | some v =>
      cases v with
      | arr kept =>
          have merged : mergeSlot (some (.arr kept)) (.arr items) = .arr (union kept items) := rfl
          rw [merged, mergeSlot, union_union kept reflexive, copiesNoRepeats_arr_iff]
          simp
      | _ => exact copied rfl (by simp)

/-- A value that is neither an object nor a list is taken over twice. -/
theorem mergeSlot_mergeSlot_iff_of_isScalar {v : Json} (scalar : v.IsScalar)
    (held : Option Json) :
    mergeSlot (some (mergeSlot held v)) v = mergeSlot held v ↔ CopiesNoRepeats held v := by
  rw [mergeSlot_of_isScalar scalar, mergeSlot_of_isScalar scalar]
  exact iff_of_true rfl (copiesNoRepeats_of_isScalar scalar held)

mutual

/-- A value merged again where it was merged before changes nothing exactly when no list
of it was copied with a repetition. -/
theorem mergeSlot_mergeSlot_iff : ∀ (v : Json) (held : Option Json), v.Proper →
    (mergeSlot (some (mergeSlot held v)) v = mergeSlot held v ↔ CopiesNoRepeats held v)
  | .obj fields, held, proper => by
      have each := mergeSlot_mergeSlot_iff_of_mem fields proper.of_mem
      have distinct := proper.once.keys
      have merged (field) (mem : field ∈ fields) :
          Keyed.get? field.1 (mergeFields (heldFields held) fields) =
            some (mergeSlot (Keyed.get? field.1 (heldFields held)) field.2) := by
        rw [get?_mergeFields distinct, Keyed.get?_of_mem distinct mem]
      have again : heldFields (some (.obj (mergeFields (heldFields held) fields))) =
          mergeFields (heldFields held) fields := rfl
      rw [mergeSlot_obj, mergeSlot_obj, again, Json.obj.injEq, mergeFields_eq_self_iff distinct,
        copiesNoRepeats_obj_iff distinct]
      refine forall₂_congr fun field mem => ?_
      rw [merged field mem, Option.some.injEq, eq_comm, each field mem]
  | .arr items, held, proper => mergeSlot_mergeSlot_arr_iff held (same_self_of_mem_items proper)
  | .null, held, _ | .bool _, held, _ | .int _, held, _ | .float _, held, _ | .str _, held, _
  | .sealed _, held, _ => mergeSlot_mergeSlot_iff_of_isScalar (by trivial) held

theorem mergeSlot_mergeSlot_iff_of_mem : ∀ fields : List (String × Json),
    (∀ field ∈ fields, field.2.Proper) → ∀ field ∈ fields, ∀ held : Option Json,
      (mergeSlot (some (mergeSlot held field.2)) field.2 = mergeSlot held field.2 ↔
        CopiesNoRepeats held field.2)
  | [], _ => by simp
  | (name, v) :: rest, proper => by
      rw [List.forall_mem_cons] at proper ⊢
      exact ⟨fun held => mergeSlot_mergeSlot_iff v held proper.1,
        mergeSlot_mergeSlot_iff_of_mem rest proper.2⟩

end

/-- Where a value was merged before, it finds a list for every list that it has. -/
theorem copiesNoRepeats_mergeSlot {v : Json} (once : v.NamesOnce) (held : Option Json) :
    CopiesNoRepeats (some (mergeSlot held v)) v := by
  intro path items found none_held
  exact absurd ((mergedAlong_mergeSlot once held path).list items found) (none_held _)

end Json

end PromptDispatch
