import PromptDispatch.Json.Merge
import PromptDispatch.Proofs.Json.Obstacle

/-!
# Merging along paths

A path of field names leads through objects to what a value holds there.  At every
path, what a merged object holds follows from what its two objects hold: the second
one decides, except that two lists are united, two objects are merged, and where the
second one has no field of the next name everything stays as the first one has it.
-/

namespace PromptDispatch

namespace Json

/-! ## Paths -/

/-- What a value holds at a path; nothing but objects has fields. -/
def at? : Json → List String → Option Json
  | v, [] => some v
  | v, name :: path => (v.field? name).bind fun inner => at? inner path

/-- Neither an object nor a list. -/
def IsScalar : Json → Prop
  | .arr _ | .obj _ => False
  | .null | .bool _ | .int _ | .float _ | .str _ | .sealed _ => True

/-- The field names of what is held, if it is an object. -/
def heldNames : Option Json → List String
  | some (.obj fields) => Keyed.keys fields
  | _ => []

/-- The fields of what is held, if it is an object. -/
def heldFields : Option Json → List (String × Json)
  | some (.obj fields) => fields
  | _ => []

theorem NamesOnce.keys {fields : List (String × Json)} (once : (Json.obj fields).NamesOnce) :
    (Keyed.keys fields).Nodup :=
  once.1

theorem NamesOnce.of_mem {fields : List (String × Json)} (once : (Json.obj fields).NamesOnce) :
    ∀ field ∈ fields, field.2.NamesOnce :=
  (fieldsNameOnce_iff fields).mp once.2

/-- What is held at a path that begins with a name is held by the field of that name. -/
theorem bind_at?_cons (held : Option Json) (name : String) (path : List String) :
    held.bind (·.at? (name :: path)) =
      (Keyed.get? name (heldFields held)).bind (·.at? path) := by
  cases held with
  | none => rfl
  | some v => cases v <;> rfl

/-! ## Lists -/

/-- The first of every group of same values, in order. -/
def firsts (items : List Json) : List Json :=
  items.eraseDupsBy fun later earlier => same earlier later

theorem union_eq_firsts (xs ys : List Json) : union xs ys = firsts (xs ++ ys) := by
  have kept := Keyed.foldl_keep (fun later earlier => same earlier later) [] (xs ++ ys)
  have all : ((xs ++ ys).filter fun v => !([] : List Json).any (same · v)) = xs ++ ys :=
    List.filter_eq_self.mpr fun _ _ => rfl
  rw [all] at kept
  exact kept

/-! ## Fields -/

theorem keys_mergeFields {fields : List (String × Json)} (distinct : (Keyed.keys fields).Nodup)
    (into : List (String × Json)) :
    Keyed.keys (mergeFields into fields) =
      Keyed.keys into ++ (Keyed.keys fields).filter (· ∉ Keyed.keys into) := by
  induction fields generalizing into with
  | nil => simp [mergeFields]
  | cons field fields ih =>
      rcases field with ⟨name, v⟩
      rw [Keyed.keys_cons, List.nodup_cons] at distinct
      rw [mergeFields, mergeField, ih distinct.2, Keyed.keys_cons]
      by_cases present : name ∈ Keyed.keys into
      · rw [Keyed.keys_put_of_mem present, List.filter_cons_of_neg (by simpa using present)]
      · have others : (Keyed.keys fields).filter (· ∉ Keyed.keys into ++ [name]) =
            (Keyed.keys fields).filter (· ∉ Keyed.keys into) := by
          apply List.filter_congr
          intro other otherMem
          have different : other ≠ name := by
            rintro rfl
            exact distinct.1 otherMem
          simp [different]
        rw [Keyed.keys_put_of_not_mem present, others,
          List.filter_cons_of_pos (by simpa using present), List.append_assoc,
          List.singleton_append]

theorem get?_mergeFields {fields : List (String × Json)} (distinct : (Keyed.keys fields).Nodup)
    (name : String) (into : List (String × Json)) :
    Keyed.get? name (mergeFields into fields) =
      match Keyed.get? name fields with
      | some v => some (mergeSlot (Keyed.get? name into) v)
      | none => Keyed.get? name into := by
  induction fields generalizing into with
  | nil => rfl
  | cons field fields ih =>
      rcases field with ⟨first, v⟩
      rw [Keyed.keys_cons, List.nodup_cons] at distinct
      rw [mergeFields, mergeField, ih distinct.2, Keyed.get?]
      by_cases same : name = first
      · subst same
        have absent : Keyed.get? name fields = none := by
          rw [← Option.not_isSome_iff_eq_none, Keyed.isSome_get?_iff]
          exact distinct.1
        rw [absent, if_pos rfl, Keyed.get?_put_self]
      · rw [if_neg same, Keyed.get?_put_of_ne same]

/-! ## Values along a path -/

/-- The list that a list becomes where something may be held already. -/
def unitedWith (held : Option Json) (items : List Json) : List Json :=
  match held with
  | some (.arr kept) => firsts (kept ++ items)
  | _ => items

theorem mergeSlot_obj (held : Option Json) (fields : List (String × Json)) :
    mergeSlot held (.obj fields) = .obj (mergeFields (heldFields held) fields) := by
  cases held with
  | none => rfl
  | some v => cases v <;> rfl

theorem mergeSlot_arr (held : Option Json) (items : List Json) :
    mergeSlot held (.arr items) = .arr (unitedWith held items) := by
  cases held with
  | none => rfl
  | some v =>
      cases v with
      | arr kept => rw [mergeSlot, union_eq_firsts, unitedWith]
      | _ => rfl

theorem mergeSlot_of_isScalar {v : Json} (scalar : v.IsScalar) (held : Option Json) :
    mergeSlot held v = v := by
  cases v with
  | arr items => cases scalar
  | obj fields => cases scalar
  | _ => cases held <;> rfl

/-- What a merged value holds at a path, told by what the value that is merged holds
there and by what was held there before. -/
structure MergedAlong (held : Option Json) (source merged : Json) (path : List String) : Prop where
  /-- what is neither an object nor a list is taken over -/
  scalar : ∀ v, source.at? path = some v → v.IsScalar → merged.at? path = some v
  /-- two lists are united, and a list alone is taken over -/
  list : ∀ items, source.at? path = some (.arr items) →
    merged.at? path = some (.arr (unitedWith (held.bind (·.at? path)) items))
  /-- an object gives an object: the names held before stay in their order, and the new
  ones follow in theirs -/
  object : ∀ fields, source.at? path = some (.obj fields) →
    ∃ mergedFields, merged.at? path = some (.obj mergedFields) ∧
      Keyed.keys mergedFields = heldNames (held.bind (·.at? path)) ++
        (Keyed.keys fields).filter (· ∉ heldNames (held.bind (·.at? path)))
  /-- beyond an object without a field of the next name everything stays -/
  beyond : ∀ before name after fields, path = before ++ name :: after →
    source.at? before = some (.obj fields) → name ∉ Keyed.keys fields →
    merged.at? path = held.bind (·.at? path)
  /-- beyond what is no object there is nothing -/
  blocked : ∀ before name after v, path = before ++ name :: after →
    source.at? before = some v → (∀ fields, v ≠ .obj fields) → merged.at? path = none

theorem mergedAlong_nil {source : Json} (once : source.NamesOnce) (held : Option Json) :
    MergedAlong held source (mergeSlot held source) [] where
  scalar := by
    rintro v found scalar
    obtain rfl : source = v := Option.some.inj found
    rw [at?, mergeSlot_of_isScalar scalar]
  list := by
    rintro items found
    obtain rfl : source = .arr items := Option.some.inj found
    rw [at?, mergeSlot_arr]
    cases held <;> rfl
  object := by
    rintro fields found
    obtain rfl : source = .obj fields := Option.some.inj found
    refine ⟨mergeFields (heldFields held) fields, by rw [at?, mergeSlot_obj], ?_⟩
    have names : heldNames (held.bind (·.at? [])) = Keyed.keys (heldFields held) := by
      cases held with
      | none => rfl
      | some v => cases v <;> rfl
    rw [keys_mergeFields once.keys, names]
  beyond := by
    rintro before name after fields split
    cases before <;> cases split
  blocked := by
    rintro before name after v split
    cases before <;> cases split

/-- Along a path that begins with a field of the source, merging goes on in that field. -/
theorem MergedAlong.field {fields : List (String × Json)} {name : String} {v : Json}
    (distinct : (Keyed.keys fields).Nodup) (found : Keyed.get? name fields = some v)
    {held : Option Json} {path : List String}
    (inner : MergedAlong (Keyed.get? name (heldFields held)) v
      (mergeSlot (Keyed.get? name (heldFields held)) v) path) :
    MergedAlong held (.obj fields) (mergeSlot held (.obj fields)) (name :: path) := by
  have sourceAt (rest : List String) : (Json.obj fields).at? (name :: rest) = v.at? rest := by
    rw [at?, field?, found, Option.bind_some]
  have mergedAt : (mergeSlot held (.obj fields)).at? (name :: path) =
      (mergeSlot (Keyed.get? name (heldFields held)) v).at? path := by
    rw [mergeSlot_obj, at?, field?, get?_mergeFields distinct, found, Option.bind_some]
  have heldAt := bind_at?_cons held name path
  constructor
  · intro w
    rw [sourceAt, mergedAt]
    exact inner.scalar w
  · intro items
    rw [sourceAt, mergedAt, heldAt]
    exact inner.list items
  · intro innerFields
    rw [sourceAt, mergedAt, heldAt]
    exact inner.object innerFields
  · intro before next after others split leaves absent
    rw [mergedAt, heldAt]
    cases before with
    | nil =>
        obtain ⟨rfl, -⟩ := List.cons.inj split
        obtain rfl : fields = others := Json.obj.inj (Option.some.inj leaves)
        rw [← Keyed.isSome_get?_iff, found] at absent
        exact absurd rfl absent
    | cons first before =>
        obtain ⟨rfl, splitRest⟩ := List.cons.inj split
        rw [sourceAt] at leaves
        exact inner.beyond before next after others splitRest leaves absent
  · intro before next after w split leaves blocks
    rw [mergedAt]
    cases before with
    | nil => exact absurd (Option.some.inj leaves).symm (blocks fields)
    | cons first before =>
        obtain ⟨rfl, splitRest⟩ := List.cons.inj split
        rw [sourceAt] at leaves
        exact inner.blocked before next after w splitRest leaves blocks

/-- Along a path that begins with a name that the source does not have, everything is as
it was. -/
theorem mergedAlong_absent {fields : List (String × Json)} (distinct : (Keyed.keys fields).Nodup)
    {name : String} (absent : Keyed.get? name fields = none) (held : Option Json)
    (path : List String) :
    MergedAlong held (.obj fields) (mergeSlot held (.obj fields)) (name :: path) := by
  have sourceAt (rest : List String) : (Json.obj fields).at? (name :: rest) = none := by
    rw [at?, field?, absent, Option.bind_none]
  have stays : (mergeSlot held (.obj fields)).at? (name :: path) =
      held.bind (·.at? (name :: path)) := by
    rw [mergeSlot_obj, at?, field?, get?_mergeFields distinct, absent, bind_at?_cons]
  constructor
  · intro v found
    rw [sourceAt] at found
    cases found
  · intro items found
    rw [sourceAt] at found
    cases found
  · intro inner found
    rw [sourceAt] at found
    cases found
  · intro before next after others split leaves missing
    exact stays
  · intro before next after v split leaves blocks
    cases before with
    | nil => exact absurd (Option.some.inj leaves).symm (blocks fields)
    | cons first before =>
        obtain ⟨rfl, -⟩ := List.cons.inj split
        rw [sourceAt] at leaves
        cases leaves

/-- What is no object has nothing along a path, and leaves nothing there. -/
theorem mergedAlong_blocked {source : Json} (blocks : ∀ fields, source ≠ .obj fields)
    (held : Option Json) (name : String) (path : List String) :
    MergedAlong held source (mergeSlot held source) (name :: path) := by
  have noField (v : Json) (noObject : ∀ fields, v ≠ .obj fields) (rest : List String) :
      v.at? (name :: rest) = none := by
    cases v with
    | obj fields => exact absurd rfl (noObject fields)
    | _ => rfl
  have mergedBlocks : ∀ fields, mergeSlot held source ≠ .obj fields := by
    cases source with
    | obj fields => exact absurd rfl (blocks fields)
    | arr items => simp [mergeSlot_arr]
    | _ =>
        rw [mergeSlot_of_isScalar (by trivial)]
        exact blocks
  constructor
  · intro v found
    rw [noField source blocks] at found
    cases found
  · intro items found
    rw [noField source blocks] at found
    cases found
  · intro fields found
    rw [noField source blocks] at found
    cases found
  · intro before next after fields split leaves
    cases before with
    | nil => exact absurd (Option.some.inj leaves) (blocks fields)
    | cons first before =>
        obtain ⟨rfl, -⟩ := List.cons.inj split
        rw [noField source blocks] at leaves
        cases leaves
  · intro _ _ _ _ _ _ _
    exact noField _ mergedBlocks path

theorem mergedAlong_mergeSlot {source : Json} (once : source.NamesOnce) (held : Option Json)
    (path : List String) : MergedAlong held source (mergeSlot held source) path := by
  induction path generalizing source held with
  | nil => exact mergedAlong_nil once held
  | cons name path ih =>
      cases source with
      | obj fields =>
          cases found : Keyed.get? name fields with
          | none => exact mergedAlong_absent once.keys found held path
          | some v => exact .field once.keys found (ih (once.of_mem _ (Keyed.mem_of_get? found)) _)
      | _ => exact mergedAlong_blocked (by simp) held name path

/-! ## Merging with nothing -/

theorem mergeFields_eq_append {fields : List (String × Json)}
    (same : ∀ field ∈ fields, mergeSlot none field.2 = field.2) (into : List (String × Json))
    (distinct : (Keyed.keys (into ++ fields)).Nodup) :
    mergeFields into fields = into ++ fields := by
  induction fields generalizing into with
  | nil => simp [mergeFields]
  | cons field fields ih =>
      rcases field with ⟨name, v⟩
      have absent : name ∉ Keyed.keys into := by
        intro present
        rw [Keyed.keys_append, List.nodup_append] at distinct
        exact distinct.2.2 name present name (by simp) rfl
      have unread : Keyed.get? name into = none := by
        rw [← Option.not_isSome_iff_eq_none, Keyed.isSome_get?_iff]
        exact absent
      rw [List.forall_mem_cons] at same
      rw [mergeFields, mergeField, unread, same.1, Keyed.put_of_not_mem absent,
        ih same.2 _ (by simpa using distinct), List.append_assoc, List.singleton_append]

mutual

/-- What is merged where nothing is held is taken over. -/
theorem mergeSlot_none : ∀ v : Json, v.NamesOnce → mergeSlot none v = v
  | .obj fields, once => by
      have same := mergeSlot_none_of_mem fields once.of_mem
      have nothing : heldFields none = [] := rfl
      rw [mergeSlot_obj, nothing, mergeFields_eq_append same [] once.keys, List.nil_append]
  | .arr items, _ => mergeSlot_arr none items
  | .null, _ | .bool _, _ | .int _, _ | .float _, _ | .str _, _ | .sealed _, _ => rfl

theorem mergeSlot_none_of_mem : ∀ fields : List (String × Json),
    (∀ field ∈ fields, field.2.NamesOnce) → ∀ field ∈ fields, mergeSlot none field.2 = field.2
  | [], _ => by simp
  | (name, v) :: rest, once => by
      rw [List.forall_mem_cons] at once ⊢
      exact ⟨mergeSlot_none v once.1, mergeSlot_none_of_mem rest once.2⟩

end

/-! ## Merged objects -/

/-- An object with a list, an object and a number. -/
def storedNotes : List (String × Json) :=
  [("plan", .obj [("tags", .arr [.int 1, .str "a"]), ("owner", .str "ann")]), ("count", .int 3),
    ("links", .obj [("home", .null)])]

/-- An object with a list, an object and a number under other names. -/
def freshNotes : List (String × Json) :=
  [("plan", .obj [("state", .null), ("tags", .arr [.bool true, .str "b"])]),
    ("count", .obj [("total", .arr [.int 1, .int 1])]), ("links", .int 0)]

theorem namesOnce_freshNotes : (Json.obj freshNotes).NamesOnce := by
  simp [freshNotes, NamesOnce, AllNameOnce, FieldsNameOnce, FieldNamesOnce]

end Json

end PromptDispatch
