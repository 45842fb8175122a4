import PromptDispatch.Proofs.Json.Plain

/-!
# What stands in the way of a text

A value is plain exactly when its objects name each field once and nothing in it
stands in the way of a text.
-/

namespace PromptDispatch.Json

mutual

/-- Every object inside a value names each of its fields once. -/
def NamesOnce : Json → Prop
  | .arr items => AllNameOnce items
  | .obj fields => (Keyed.keys fields).Nodup ∧ FieldsNameOnce fields
  | _ => True

/-- Every object inside list items names each of its fields once. -/
def AllNameOnce : List Json → Prop
  | [] => True
  | v :: rest => v.NamesOnce ∧ AllNameOnce rest

/-- Every object inside fields names each of its fields once. -/
def FieldsNameOnce : List (String × Json) → Prop
  | [] => True
  | f :: rest => FieldNamesOnce f ∧ FieldsNameOnce rest

/-- Every object inside one field names each of its fields once. -/
def FieldNamesOnce : String × Json → Prop
  | (_, v) => v.NamesOnce

end

theorem fieldsNameOnce_iff (fields : List (String × Json)) :
    FieldsNameOnce fields ↔ ∀ field ∈ fields, field.2.NamesOnce := by
  induction fields with
  | nil => simp [FieldsNameOnce]
  | cons field fields ih => rw [FieldsNameOnce, FieldNamesOnce, ih, List.forall_mem_cons]

mutual

theorem isPlain_of_unhindered : ∀ v : Json, v.NamesOnce → v.obstacle? = none → v.IsPlain
  | .int _, _ => obstacle?_int_eq_none_iff.mp
  | .arr items, once => arePlain_of_unhindered items once
  | .obj fields, once => fun unhindered =>
      ⟨once.1, fieldsPlain_of_unhindered fields once.2 unhindered⟩
  | .sealed _, _ => fun unhindered => by cases unhindered
  | .null, _ | .bool _, _ | .float _, _ | .str _, _ => fun _ => trivial

theorem arePlain_of_unhindered : ∀ items : List Json, AllNameOnce items →
    obstacleInItems? items = none → ArePlain items
  | [], _, _ => trivial
  | v :: rest, once, unhindered => by
      rw [obstacleInItems?, Option.or_eq_none_iff] at unhindered
      exact ⟨isPlain_of_unhindered v once.1 unhindered.1,
        arePlain_of_unhindered rest once.2 unhindered.2⟩

theorem fieldsPlain_of_unhindered : ∀ fields : List (String × Json), FieldsNameOnce fields →
    obstacleInFields? fields = none → FieldsPlain fields
  | [], _, _ => trivial
  | (_, v) :: rest, once, unhindered => by
      rw [obstacleInFields?, obstacleInField?, Option.or_eq_none_iff] at unhindered
      exact ⟨isPlain_of_unhindered v once.1 unhindered.1,
        fieldsPlain_of_unhindered rest once.2 unhindered.2⟩

end

/-- A value whose objects name each field once has a text exactly when it is
plain. -/
theorem obstacle?_eq_none_iff {v : Json} (once : v.NamesOnce) :
    v.obstacle? = none ↔ v.IsPlain :=
  ⟨isPlain_of_unhindered v once, obstacle?_of_isPlain v⟩

theorem obstacleInFields?_eq_none_iff {fields : List (String × Json)} :
    obstacleInFields? fields = none ↔ ∀ field ∈ fields, field.2.obstacle? = none := by
  induction fields with
  | nil => simp [obstacleInFields?]
  | cons field fields ih =>
      rw [obstacleInFields?, obstacleInField?, Option.or_eq_none_iff, ih, List.forall_mem_cons]

end PromptDispatch.Json
