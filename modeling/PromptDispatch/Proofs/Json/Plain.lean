import PromptDispatch.Proofs.Json.Digits
import PromptDispatch.Proofs.Keyed

/-!
# Values that JSON text can carry

A value is plain when nothing in it is sealed, its whole numbers stay within
the digits that are read, and no object names a field twice.
-/

namespace PromptDispatch

/-- A computation in two parts succeeds exactly when both parts do. -/
theorem bind_eq_ok_iff {ε α β : Type} {first : Except ε α} {next : α → Except ε β} {b : β} :
    (first >>= next) = .ok b ↔ ∃ a, first = .ok a ∧ next a = .ok b := by
  cases first with
  | error e => simp [bind, Except.bind]
  | ok a => simp [bind, Except.bind]

namespace Json

mutual

/-- A value that JSON text can carry. -/
def IsPlain : Json → Prop
  | .arr items => ArePlain items
  | .obj fields => (Keyed.keys fields).Nodup ∧ FieldsPlain fields
  | .int n => n.natAbs < 10 ^ digitLimit
  | .sealed _ => False
  | _ => True

/-- List items that JSON text can carry. -/
def ArePlain : List Json → Prop
  | [] => True
  | v :: rest => v.IsPlain ∧ ArePlain rest

/-- Object fields with values that JSON text can carry. -/
def FieldsPlain : List (String × Json) → Prop
  | [] => True
  | f :: rest => FieldPlain f ∧ FieldsPlain rest

/-- One field with a value that JSON text can carry. -/
def FieldPlain : String × Json → Prop
  | (_, v) => v.IsPlain

end

theorem arePlain_iff (items : List Json) : ArePlain items ↔ ∀ v ∈ items, v.IsPlain := by
  induction items with
  | nil => simp [ArePlain]
  | cons v rest ih => simp [ArePlain, ih]

theorem fieldsPlain_iff (fields : List (String × Json)) :
    FieldsPlain fields ↔ ∀ f ∈ fields, f.2.IsPlain := by
  induction fields with
  | nil => simp [FieldsPlain]
  | cons f rest ih =>
      rcases f with ⟨name, v⟩
      simp only [FieldsPlain, FieldPlain, ih, List.forall_mem_cons]

/-- An object is plain exactly when its names are distinct and its values
plain. -/
theorem isPlain_obj_iff (fields : List (String × Json)) :
    (Json.obj fields).IsPlain ↔
      (Keyed.keys fields).Nodup ∧ ∀ f ∈ fields, f.2.IsPlain := by
  rw [IsPlain, fieldsPlain_iff]

/-- Fields read one after another make a plain object: the last one of a name
counts. -/
theorem isPlain_obj_ofPairs {pairs : List (String × Json)}
    (plain : ∀ f ∈ pairs, f.2.IsPlain) : (Json.obj (Keyed.ofPairs pairs)).IsPlain := by
  rw [isPlain_obj_iff]
  exact ⟨Keyed.nodup_keys_ofPairs pairs, Keyed.forall_mem_ofPairs plain⟩

/-! ## Nothing stands in the way of a plain value -/

theorem obstacle?_int_eq_none_iff {n : Int} :
    (Json.int n).obstacle? = none ↔ (Json.int n).IsPlain := by
  rw [obstacle?, IsPlain]
  -- The limit is hidden, since the power that it makes is too large to be computed.
  generalize digitLimit = limit
  split
  · next short => exact iff_of_true rfl short
  · next long => exact iff_of_false (by simp) long

mutual

theorem obstacle?_of_isPlain : ∀ v : Json, v.IsPlain → v.obstacle? = none
  | .int _, within => obstacle?_int_eq_none_iff.mpr within
  | .arr items, plain => obstacleInItems?_of_arePlain items plain
  | .obj fields, plain => obstacleInFields?_of_fieldsPlain fields plain.2
  | .sealed _, plain => plain.elim
  | .null, _ | .bool _, _ | .float _, _ | .str _, _ => rfl

theorem obstacleInItems?_of_arePlain : ∀ items : List Json, ArePlain items →
    obstacleInItems? items = none
  | [], _ => rfl
  | v :: rest, plain => by
      rw [obstacleInItems?, obstacle?_of_isPlain v plain.1,
        obstacleInItems?_of_arePlain rest plain.2, Option.or_none]

theorem obstacleInFields?_of_fieldsPlain : ∀ fields : List (String × Json),
    FieldsPlain fields → obstacleInFields? fields = none
  | [], _ => rfl
  | (_, v) :: rest, plain => by
      rw [obstacleInFields?, obstacleInField?, obstacle?_of_isPlain v plain.1,
        obstacleInFields?_of_fieldsPlain rest plain.2, Option.or_none]

end

end Json

end PromptDispatch
