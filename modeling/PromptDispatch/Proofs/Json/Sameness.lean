import PromptDispatch.Proofs.Binary64.Value
import PromptDispatch.Proofs.Json.Remerging

/-!
# Sameness of values

What a value means is told without the kinds of its numbers and without the order of its
fields: a number or a truth value means what it is worth exactly, a list means the list of
what its items mean, and an object means the mapping from its names to what its fields
mean.  Among values whose objects name each field once and in which nothing is sealed, the
same values are exactly those of one meaning; so sameness is an equivalence there.
-/

namespace PromptDispatch

namespace Json

/-- What a number is worth, whatever its kind is. -/
inductive Worth where
  | undefined
  | infinite (negative : Bool)
  | exactly (q : ℚ)

/-- What a binary64 number is worth. -/
def worthOf : Binary64 → Worth
  | .nan => .undefined
  | .infinite negative => .infinite negative
  | .finite negative rank => .exactly (Binary64.valueOf negative rank)

/-- What a number is worth. -/
def Number.worth : Number → Worth
  | .whole n => .exactly n
  | .real x => worthOf x

/-- What a value means. -/
inductive Meaning where
  | nothing
  | number (worth : Worth)
  | text (s : String)
  | list (items : List Meaning)
  | mapping (field? : String → Option Meaning)
  | sealed (kind : String)

mutual

/-- What a value means. -/
def meaning : Json → Meaning
  | .null => .nothing
  | .bool b => .number (.exactly (if b then 1 else 0))
  | .int n => .number (.exactly n)
  | .float x => .number (worthOf x)
  | .str s => .text s
  | .arr items => .list (itemMeanings items)
  | .obj fields => .mapping (fieldMeaning? fields)
  | .sealed kind => .sealed kind

/-- What list items mean. -/
def itemMeanings : List Json → List Meaning
  | [] => []
  | v :: rest => meaning v :: itemMeanings rest

/-- What the field of a name means. -/
def fieldMeaning? : List (String × Json) → String → Option Meaning
  | [], _ => none
  | (own, v) :: rest, name => if name = own then some (meaning v) else fieldMeaning? rest name

end

/-! ## Numbers -/

theorem worthOf_eq_exactly_iff (x : Binary64) (q : ℚ) :
    worthOf x = .exactly q ↔ x.value? = some q := by
  cases x <;> simp [worthOf, Binary64.value?]

theorem same_real_iff (x y : Binary64) :
    (Number.real x).same (.real y) = true ↔ worthOf x = worthOf y := by
  cases x with
  | nan => cases y <;> simp [Number.same, Binary64.sameValue, worthOf]
  | infinite negative => cases y <;> simp [Number.same, Binary64.sameValue, worthOf]
  | finite negative rank =>
      cases y with
      | nan => simp [Number.same, Binary64.sameValue, worthOf]
      | infinite other => simp [Number.same, Binary64.sameValue, worthOf]
      | finite other otherRank =>
          rw [worthOf, worthOf, Worth.exactly.injEq, ← Binary64.sameValue_finite_iff, Number.same]
          simp

/-- Numbers are the same exactly when they are worth the same. -/
theorem Number.same_iff (m n : Number) : m.same n = true ↔ m.worth = n.worth := by
  cases m with
  | whole m =>
      cases n with
      | whole n =>
          rw [Number.same, worth, worth, Worth.exactly.injEq, Int.cast_inj]
          exact beq_iff_eq
      | real y =>
          rw [Number.same, Binary64.isInt_iff, worth, worth, eq_comm (b := worthOf y),
            worthOf_eq_exactly_iff]
  | real x =>
      cases n with
      | whole n => rw [Number.same, Binary64.isInt_iff, worth, worth, worthOf_eq_exactly_iff]
      | real y => exact same_real_iff x y

/-! ## Fields -/

theorem sameField_iff (field : String × Json) (others : List (String × Json)) :
    sameField field others = true ↔
      ∃ v, Keyed.get? field.1 others = some v ∧ same field.2 v = true := by
  rcases field with ⟨name, v⟩
  rw [sameField]
  cases Keyed.get? name others <;> simp

theorem sameFields_iff (fields others : List (String × Json)) :
    sameFields fields others = true ↔
      ∀ field ∈ fields, ∃ v, Keyed.get? field.1 others = some v ∧ same field.2 v = true := by
  induction fields with
  | nil => simp [sameFields]
  | cons field fields ih =>
      rw [sameFields, Bool.and_eq_true, sameField_iff, ih, List.forall_mem_cons]

theorem fieldMeaning?_eq (fields : List (String × Json)) (name : String) :
    fieldMeaning? fields name = (Keyed.get? name fields).map meaning := by
  induction fields with
  | nil => rw [fieldMeaning?, Keyed.get?_nil, Option.map_none]
  | cons field fields ih =>
      rcases field with ⟨own, v⟩
      rw [fieldMeaning?, Keyed.get?, ih]
      split <;> rfl

theorem mem_keys_iff_fieldMeaning? (fields : List (String × Json)) (name : String) :
    name ∈ Keyed.keys fields ↔ (fieldMeaning? fields name).isSome = true := by
  rw [fieldMeaning?_eq, Option.isSome_map, Keyed.isSome_get?_iff]

section

variable {fields others : List (String × Json)} (distinct : (Keyed.keys fields).Nodup)
include distinct

/-- Fields that are all found in an object that has no more of them have its names. -/
theorem keys_perm_of_found (length_eq : fields.length = others.length)
    (found : ∀ field ∈ fields, ∃ w, Keyed.get? field.1 others = some w ∧ same field.2 w = true) :
    (Keyed.keys fields).Perm (Keyed.keys others) := by
  have among : Keyed.keys fields ⊆ Keyed.keys others := by
    intro name nameMem
    obtain ⟨field, mem, rfl⟩ := List.mem_map.mp nameMem
    obtain ⟨w, isFound, -⟩ := found field mem
    rw [← Keyed.isSome_get?_iff, isFound]
    rfl
  refine (List.subperm_of_subset distinct among).perm_of_length_le ?_
  rw [Keyed.length_keys, Keyed.length_keys, length_eq]

variable (othersDistinct : (Keyed.keys others).Nodup)
include othersDistinct

/-- When the fields of two objects are compared by what they mean, the objects are. -/
theorem same_obj_iff (each : ∀ field ∈ fields, ∀ other ∈ others,
      (same field.2 other.2 = true ↔ field.2.meaning = other.2.meaning)) :
    same (.obj fields) (.obj others) = true ↔ fieldMeaning? fields = fieldMeaning? others := by
  rw [same, Bool.and_eq_true, beq_iff_eq, sameFields_iff]
  constructor
  · rintro ⟨length_eq, found⟩
    -- Only one side is looked through; that there are as many fields makes up for the other.
    have sameNames := keys_perm_of_found distinct length_eq found
    funext name
    by_cases named : name ∈ Keyed.keys fields
    · obtain ⟨field, mem, rfl⟩ := List.mem_map.mp named
      obtain ⟨w, isFound, isSame⟩ := found field mem
      have means := (each field mem (field.1, w) (Keyed.mem_of_get? isFound)).mp isSame
      rw [fieldMeaning?_eq, fieldMeaning?_eq, Keyed.get?_of_mem distinct mem, isFound,
        Option.map_some, Option.map_some, means]
    · have unnamed : name ∉ Keyed.keys others := by rwa [← sameNames.mem_iff]
      rw [mem_keys_iff_fieldMeaning?, Bool.not_eq_true, Option.isSome_eq_false_iff,
        Option.isNone_iff_eq_none] at named unnamed
      rw [named, unnamed]
  · intro means
    have sameNames : (Keyed.keys fields).Perm (Keyed.keys others) := by
      rw [List.perm_ext_iff_of_nodup distinct othersDistinct]
      intro name
      rw [mem_keys_iff_fieldMeaning?, mem_keys_iff_fieldMeaning?, means]
    have length_eq := sameNames.length_eq
    rw [Keyed.length_keys, Keyed.length_keys] at length_eq
    refine ⟨length_eq, ?_⟩
    intro field mem
    have here := congrFun means field.1
    rw [fieldMeaning?_eq, fieldMeaning?_eq, Keyed.get?_of_mem distinct mem, Option.map_some] at here
    obtain ⟨w, isFound, meansToo⟩ := Option.map_eq_some_iff.mp here.symm
    exact ⟨w, isFound, (each field mem (field.1, w) (Keyed.mem_of_get? isFound)).mpr meansToo.symm⟩

end

/-! ## Values -/

theorem meaning_of_number? {v : Json} {n : Number} (number : v.number? = some n) :
    v.meaning = .number n.worth := by
  cases v with
  | bool b => cases number; cases b <;> simp [meaning, Number.worth]
  | int n => cases number; rw [meaning, Number.worth]
  | float x => cases number; rw [meaning, Number.worth]
  | _ => cases number

theorem same_number_iff {v : Json} {m : Number} (number : v.number? = some m) (w : Json) :
    same v w = true ↔ v.meaning = w.meaning := by
  rw [meaning_of_number? number]
  cases numberToo : w.number? with
  | some n =>
      rw [meaning_of_number? numberToo, Meaning.number.injEq, ← Number.same_iff]
      cases v <;> cases number <;> cases w <;> cases numberToo <;> simp [same, number?]
  | none =>
      cases v <;> cases number <;> cases w <;> cases numberToo <;> simp [same, number?, meaning]

theorem Proper.items {v : Json} {rest : List Json} (proper : (Json.arr (v :: rest)).Proper) :
    v.Proper ∧ (Json.arr rest).Proper := by
  rcases proper with ⟨once, unsealed⟩
  rw [NamesOnce, AllNameOnce] at once
  rw [Unsealed, AllUnsealed] at unsealed
  exact ⟨⟨once.1, unsealed.1⟩, once.2, unsealed.2⟩

mutual

/-- Values are the same exactly when they mean the same. -/
theorem same_iff : ∀ v w : Json, v.Proper → w.Proper → (same v w = true ↔ v.meaning = w.meaning)
  | .null, w, _, _ | .str _, w, _, _ => by cases w <;> simp [same, number?, meaning]
  | .bool _, w, _, _ | .int _, w, _, _ | .float _, w, _, _ => same_number_iff rfl w
  | .arr items, w, proper, properToo => by
      cases w with
      | arr others =>
          rw [same, meaning, meaning, Meaning.list.injEq]
          exact sameItems_iff items others proper properToo
      | _ => simp [same, number?, meaning]
  | .obj fields, w, proper, properToo => by
      cases w with
      | obj others =>
          rw [meaning, meaning, Meaning.mapping.injEq]
          refine same_obj_iff proper.once.keys properToo.once.keys ?_
          intro field mem other otherMem
          exact same_iff_of_mem fields field mem other.2 (proper.of_mem field mem)
            (properToo.of_mem other otherMem)
      | _ => simp [same, number?, meaning]
  | .sealed _, _, proper, _ => proper.unsealed.elim

theorem sameItems_iff : ∀ items others : List Json, (Json.arr items).Proper →
    (Json.arr others).Proper →
      (sameItems items others = true ↔ itemMeanings items = itemMeanings others)
  | [], others, _, _ => by cases others <;> simp [sameItems, itemMeanings]
  | v :: items, others, proper, properToo => by
      cases others with
      | nil => simp [sameItems, itemMeanings]
      | cons w others =>
          rw [sameItems, itemMeanings, itemMeanings, List.cons.injEq, Bool.and_eq_true,
            same_iff v w proper.items.1 properToo.items.1,
            sameItems_iff items others proper.items.2 properToo.items.2]

theorem same_iff_of_mem : ∀ fields : List (String × Json), ∀ field ∈ fields, ∀ w : Json,
    field.2.Proper → w.Proper → (same field.2 w = true ↔ field.2.meaning = w.meaning)
  | [], _, mem, _, _, _ => absurd mem List.not_mem_nil
  | (name, v) :: rest, field, mem, w, proper, properToo => by
      rcases List.mem_cons.mp mem with rfl | later
      · exact same_iff v w proper properToo
      · exact same_iff_of_mem rest field later w proper properToo

end

/-! ## Equivalence -/

variable {u v w : Json}

theorem Proper.same_self (proper : v.Proper) : same v v = true :=
  (same_iff v v proper proper).mpr rfl

theorem Proper.same_symm (proper : v.Proper) (properToo : w.Proper)
    (isSame : same v w = true) : same w v = true :=
  (same_iff w v properToo proper).mpr ((same_iff v w proper properToo).mp isSame).symm

theorem Proper.same_trans (first : u.Proper) (second : v.Proper) (third : w.Proper)
    (left : same u v = true) (right : same v w = true) : same u w = true :=
  (same_iff u w first third).mpr
    (((same_iff u v first second).mp left).trans ((same_iff v w second third).mp right))

end Json

end PromptDispatch
