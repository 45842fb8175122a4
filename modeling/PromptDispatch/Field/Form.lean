import PromptDispatch.Field.Convert

/-!
# Forms

A form is read field by field in a fixed order.  All fields are looked at even
when one has an issue, so that a report lists every issue once.  Fields that
the form does not know are ignored.
-/

namespace PromptDispatch.Field

/-- Reads a field that has to be there. -/
def required {α : Type} (name : String) (check : Json → Except Cause α)
    (fields : List (String × Json)) : Except (List Issue) α :=
  match Keyed.get? name fields with
  | none => .error [⟨[name], .missing, .obj fields⟩]
  | some v =>
    match check v with
    | .ok a => .ok a
    | .error cause => .error [⟨[name], cause, v⟩]

/-- Reads a field that may be left out. -/
def optional {α : Type} (name : String) (absent : α) (check : Json → Except Cause α)
    (fields : List (String × Json)) : Except (List Issue) α :=
  match Keyed.get? name fields with
  | none => .ok absent
  | some v =>
    match check v with
    | .ok a => .ok a
    | .error cause => .error [⟨[name], cause, v⟩]

/-- Reads a list item by item; every item has its place. -/
def items {α : Type} (check : Json → Except Cause α) (place : List String) :
    Nat → List Json → Except (List Issue) (List α)
  | _, [] => .ok []
  | index, v :: rest =>
    let place' := place ++ [toString index]
    match check v, items check place (index + 1) rest with
    | .ok a, .ok as => .ok (a :: as)
    | .ok _, .error issues => .error issues
    | .error cause, .ok _ => .error [⟨place', cause, v⟩]
    | .error cause, .error issues => .error (⟨place', cause, v⟩ :: issues)

/-- Reads a list field that has to be there. -/
def requiredList {α : Type} (name : String) (check : Json → Except Cause α)
    (fields : List (String × Json)) : Except (List Issue) (List α) :=
  match Keyed.get? name fields with
  | none => .error [⟨[name], .missing, .obj fields⟩]
  | some (.arr vs) => items check [name] 0 vs
  | some v => .error [⟨[name], .notList, v⟩]

/-- Joins two readings; the issues of both are kept in order. -/
def both {α β : Type} :
    Except (List Issue) α → Except (List Issue) β → Except (List Issue) (α × β)
  | .ok a, .ok b => .ok (a, b)
  | .ok _, .error ys => .error ys
  | .error xs, .ok _ => .error xs
  | .error xs, .error ys => .error (xs ++ ys)

/-- A reading as a whole form. -/
def form {α β : Type} (name : String) (reading : Except (List Issue) α) (build : α → β) :
    Except Report β :=
  match reading with
  | .ok a => .ok (build a)
  | .error issues => .error ⟨name, issues⟩

end PromptDispatch.Field
