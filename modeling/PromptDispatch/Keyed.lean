/-!
# Association lists in insertion order

Mappings whose order is visible are lists of key and value pairs.  Writing to a
key that is present keeps its place, writing to an absent key appends it.
-/

namespace PromptDispatch.Keyed

variable {κ : Type} {α : Type} [DecidableEq κ]

/-- Value under a key. -/
def get? (k : κ) : List (κ × α) → Option α
  | [] => none
  | (k', v) :: rest => if k = k' then some v else get? k rest

/-- Whether a key is present. -/
def has (k : κ) (m : List (κ × α)) : Bool := (get? k m).isSome

/-- Writes a value: in place when the key is present, at the end otherwise. -/
def put (k : κ) (v : α) : List (κ × α) → List (κ × α)
  | [] => [(k, v)]
  | (k', w) :: rest => if k = k' then (k', v) :: rest else (k', w) :: put k v rest

/-- Removes a key. -/
def erase (k : κ) : List (κ × α) → List (κ × α)
  | [] => []
  | (k', w) :: rest => if k = k' then rest else (k', w) :: erase k rest

/-- The keys in order. -/
def keys (m : List (κ × α)) : List κ := m.map (·.1)

/-- The mapping written by a list of pairs, one after another. -/
def ofPairs (pairs : List (κ × α)) : List (κ × α) :=
  pairs.foldl (fun m p => put p.1 p.2 m) []

@[simp] theorem get?_nil (k : κ) : get? k ([] : List (κ × α)) = none := rfl

/-- A written value is read back. -/
@[simp] theorem get?_put_self (k : κ) (v : α) (m : List (κ × α)) :
    get? k (put k v m) = some v := by
  induction m with
  | nil => simp [put, get?]
  | cons p rest ih => by_cases h : k = p.1 <;> simp [put, get?, h, ih]

/-- Writing one key leaves every other value alone. -/
theorem get?_put_of_ne {k k' : κ} (h : k' ≠ k) (v : α) (m : List (κ × α)) :
    get? k' (put k v m) = get? k' m := by
  induction m with
  | nil => simp [put, get?, h]
  | cons p rest ih =>
    by_cases hk : k = p.1
    · subst hk; simp [put, get?, h]
    · by_cases hk' : k' = p.1 <;> simp [put, get?, hk, hk', ih]

end PromptDispatch.Keyed
