import PromptDispatch.Json.Basic

/-!
# Union of lists and deep merging of objects

The union of two lists keeps the first of every group of same values.  Merging
one object into another goes field by field: objects are merged, two lists are
united, and any other value replaces what was there.
-/

namespace PromptDispatch.Json

/-- Appends a value unless the list holds the same one. -/
def addNew (kept : List Json) (v : Json) : List Json :=
  if kept.any (same · v) then kept else kept ++ [v]

/-- The values of both lists in order, each group of same values once. -/
def union (xs ys : List Json) : List Json :=
  (xs ++ ys).foldl addNew []

mutual

/-- Merges the second value into the first. -/
def merge (target : Json) : Json → Json
  | .arr ys =>
    match target with
    | .arr xs => .arr (union xs ys)
    | _ => .arr ys
  | .obj fs =>
    match target with
    | .obj gs => .obj (mergeFields gs fs)
    | _ => .obj fs
  | v => v

/-- Merges fields one after another into an object's fields. -/
def mergeFields (into : List (String × Json)) :
    List (String × Json) → List (String × Json)
  | [] => into
  | f :: rest => mergeFields (mergeField into f) rest

/-- Merges one field into an object's fields. -/
def mergeField (into : List (String × Json)) :
    String × Json → List (String × Json)
  | (k, v) => Keyed.put k (mergeSlot (Keyed.get? k into) v) into

/-- The value a field takes, given what it held. -/
def mergeSlot (held : Option Json) : Json → Json
  | .arr ys =>
    match held with
    | some (.arr xs) => .arr (union xs ys)
    | _ => .arr ys
  | .obj fs =>
    match held with
    | some (.obj gs) => .obj (mergeFields gs fs)
    | _ => .obj (mergeFields [] fs)
  | v => v

end

end PromptDispatch.Json
