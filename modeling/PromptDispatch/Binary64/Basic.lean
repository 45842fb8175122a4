/-!
# Binary64 numbers by their exact values

A binary64 number is a sign and the rank of its magnitude among all finite
magnitudes, or an infinity, or the one value that is not a number.  Every
finite magnitude is a whole multiple of `2 ^ (-1074)`, so sums, differences and
comparisons are done on integers and rounded once.

Rounding goes to the nearest number, a tie goes to the even significand, and
what lies beyond the largest finite number becomes an infinity.
-/

namespace PromptDispatch

/-- Number of finite binary64 magnitudes. -/
def Binary64.magnitudes : Nat := 2047 * Nat.pow 2 52

/-- A binary64 number.  The rank counts the finite magnitudes from zero up. -/
inductive Binary64 where
  | nan
  | infinite (negative : Bool)
  | finite (negative : Bool) (rank : Fin Binary64.magnitudes)
deriving DecidableEq, Repr

namespace Binary64

/-- Positive zero. -/
def zero : Binary64 := .finite false ⟨0, by decide⟩

instance : Inhabited Binary64 := ⟨zero⟩

/-- Quotient rounded to the nearest whole number, a tie to the even one. -/
def roundDiv (num den : Nat) : Nat :=
  let q := num / den
  let r := num % den
  if den < 2 * r ∨ (2 * r = den ∧ q % 2 = 1) then q + 1 else q

/-- The number of the given rank, an infinity when there is no such magnitude. -/
def ofRank (negative : Bool) (rank : Nat) : Binary64 :=
  if h : rank < magnitudes then .finite negative ⟨rank, h⟩ else .infinite negative

/-- The exponent at which a positive ratio is rounded: its quotient by this
power of two lies below `2 ^ 53`, and not below `2 ^ 52` unless the exponent is
the least one. -/
def roundingExponent (num den : Nat) : Int :=
  let guess : Int := max (-1074) ((num.log2 : Int) - den.log2 - 53)
  let q := (num * Nat.pow 2 (-guess).toNat) / (den * Nat.pow 2 guess.toNat)
  if Nat.pow 2 53 ≤ q then guess + 1 else guess

/-- The number nearest to `num / den`, with the given sign. -/
def ofRatio (negative : Bool) (num den : Nat) : Binary64 :=
  if num = 0 then .finite negative ⟨0, by decide⟩
  else
    let e := roundingExponent num den
    let q := roundDiv (num * Nat.pow 2 (-e).toNat) (den * Nat.pow 2 e.toNat)
    ofRank negative ((e + 1074).toNat * Nat.pow 2 52 + q)

/-- Magnitude of the given rank as a multiple of `2 ^ (-1074)`. -/
def rankUnits (rank : Nat) : Nat :=
  let e := rank / Nat.pow 2 52
  let f := rank % Nat.pow 2 52
  if e = 0 then f else (Nat.pow 2 52 + f) * Nat.pow 2 (e - 1)

/-- Value of a finite number as a multiple of `2 ^ (-1074)`. -/
def units? : Binary64 → Option Int
  | .finite negative rank =>
    some (if negative then -(rankUnits rank : Int) else rankUnits rank)
  | _ => none

/-- The number nearest to `u * 2 ^ (-1074)`; zero takes the given sign. -/
def ofUnits (zeroNegative : Bool) (u : Int) : Binary64 :=
  if u = 0 then .finite zeroNegative ⟨0, by decide⟩
  else ofRatio (u < 0) u.natAbs (Nat.pow 2 1074)

/-- The number nearest to an integer. -/
def ofInt (n : Int) : Binary64 :=
  ofRatio (n < 0) n.natAbs 1

/-- The number nearest to `digits * 10 ^ exponent`.  The two outer cases answer
at once where the power of ten alone decides. -/
def ofDecimal (negative : Bool) (digits : Nat) (exponent : Int) : Binary64 :=
  if digits = 0 then .finite negative ⟨0, by decide⟩
  else
    let scale : Int := (digits.log2 : Int) * 3 / 10 + exponent
    if 400 < scale then .infinite negative
    else if scale < -800 then .finite negative ⟨0, by decide⟩
    else ofRatio negative (digits * Nat.pow 10 exponent.toNat) (Nat.pow 10 (-exponent).toNat)

/-- Whether the sign is set. -/
def isNegative : Binary64 → Bool
  | .nan => false
  | .infinite negative => negative
  | .finite negative _ => negative

/-- The number with its sign turned. -/
def neg : Binary64 → Binary64
  | .nan => .nan
  | .infinite negative => .infinite (!negative)
  | .finite negative rank => .finite (!negative) rank

/-- Rounded sum. -/
def add : Binary64 → Binary64 → Binary64
  | .nan, _ => .nan
  | _, .nan => .nan
  | .infinite a, .infinite b => if a = b then .infinite a else .nan
  | .infinite a, .finite _ _ => .infinite a
  | .finite _ _, .infinite b => .infinite b
  | .finite a r, .finite b s =>
    let value (negative : Bool) (rank : Nat) : Int :=
      if negative then -(rankUnits rank : Int) else rankUnits rank
    ofUnits (a && b) (value a r + value b s)

/-- Rounded difference. -/
def sub (x y : Binary64) : Binary64 := add x (neg y)

/-- Strict order of values; nothing compares with what is not a number. -/
def lt : Binary64 → Binary64 → Bool
  | .nan, _ => false
  | _, .nan => false
  | .infinite a, .infinite b => a && !b
  | .infinite a, .finite _ _ => a
  | .finite _ _, .infinite b => !b
  | x@(.finite _ _), y@(.finite _ _) =>
    match x.units?, y.units? with
    | some u, some v => u < v
    | _, _ => false

/-- Equality of values: both zeros are one value. -/
def sameValue : Binary64 → Binary64 → Bool
  | .infinite a, .infinite b => a == b
  | .finite a r, .finite b s => r == s && (a == b || r.val == 0)
  | _, _ => false

/-- Whether the number is the given integer. -/
def isInt (x : Binary64) (n : Int) : Bool :=
  match x.units? with
  | some u => u == n * Int.pow 2 1074
  | none => false

/-- The integer a finite number is, when it is one. -/
def toInt? (x : Binary64) : Option Int :=
  match x.units? with
  | some u => if u % Int.pow 2 1074 = 0 then some (u / Int.pow 2 1074) else none
  | none => none

/-- Least integer that is not below a finite number. -/
def ceil? (x : Binary64) : Option Int :=
  x.units?.map fun u => -((-u) / Int.pow 2 1074)

instance : Add Binary64 := ⟨add⟩
instance : Sub Binary64 := ⟨sub⟩
instance : Zero Binary64 := ⟨zero⟩
instance : LT Binary64 := ⟨fun x y => x.lt y = true⟩
instance (x y : Binary64) : Decidable (x < y) :=
  inferInstanceAs (Decidable (x.lt y = true))

end Binary64

end PromptDispatch
