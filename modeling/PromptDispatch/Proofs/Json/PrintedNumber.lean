import PromptDispatch.Json.Printer
import PromptDispatch.Proofs.Binary64.Decimal
import PromptDispatch.Proofs.Json.Numeral

/-!
# Printed numbers are numerals

A whole number is printed as its digits.  A finite binary64 number is printed
in one of four shapes: zeros before its digits, zeros after them, a point
between them, or an exponent.  Each shape is a lawful numeral with the value
that was laid out, so it is read as the number whose shortest digits these are.
-/

namespace PromptDispatch.Json

/-- The text of a numeral that stands for a value. -/
def IsNumeral (v : Json) (text : List Char) : Prop :=
  ∃ n : Numeral, n.Lawful ∧ n.json = v ∧ ∀ rest, n.chars rest = text ++ rest

theorem toList_toString_nat (n : Nat) : (toString n).toList = Nat.toDigits 10 n := by
  rw [Nat.toString_eq_repr, Nat.toList_repr]

theorem toList_toString_int (n : Int) :
    (toString n).toList =
      if n < 0 then '-' :: Nat.toDigits 10 n.natAbs else Nat.toDigits 10 n.natAbs := by
  rw [Int.toString_eq_repr, Int.repr_eq_if]
  by_cases negative : n < 0
  · have natAbs_eq : (-n).toNat = n.natAbs := by omega
    rw [if_neg (by omega), if_pos negative, String.toList_append, Nat.toList_repr, natAbs_eq]
    rfl
  · have natAbs_eq : n.toNat = n.natAbs := by omega
    rw [if_pos (by omega), if_neg negative, Nat.toList_repr, natAbs_eq]

/-- The digits of a number begin with a zero only when it is zero. -/
theorem toDigits_leading (n : Nat) :
    Nat.toDigits 10 n = ['0'] ∨ ∃ c more, Nat.toDigits 10 n = c :: more ∧ c ≠ '0' := by
  by_cases zero : n = 0
  · exact .inl (by rw [zero]; rfl)
  · exact .inr (exists_toDigits_cons zero)

/-- A whole number within the limit of digits is printed as its numeral. -/
theorem isNumeral_int {n : Int} (within : n.natAbs < 10 ^ digitLimit) :
    IsNumeral (.int n) (toString n).toList := by
  refine ⟨⟨n < 0, Nat.toDigits 10 n.natAbs, [], none⟩, ?_, ?_, ?_⟩
  · exact {
      whole := fun c member => isDigit_of_mem_toDigits member
      leading := toDigits_leading n.natAbs
      fraction := by simp
      exponent := by simp
      length := fun _ _ =>
        (Nat.length_toDigits_le_iff (by decide) (by decide)).mpr within }
  · simp only [Numeral.json, and_self, if_true, digitsValue_toDigits, decide_eq_true_eq]
    split <;> simp only [Json.int.injEq] <;> omega
  · intro rest
    rw [toList_toString_int]
    by_cases negative : n < 0
    · simp [Numeral.chars, Numeral.fractionChars, Numeral.exponentChars, negative]
    · simp [Numeral.chars, Numeral.fractionChars, Numeral.exponentChars, negative]

/-! ## Finite numbers -/

/-- The minus sign of a negative number. -/
def signChars (negative : Bool) : List Char := if negative then ['-'] else []

/-- A numeral with a point or an exponent that has a given text and the value
of a given decimal. -/
structure LaysOut (n : Numeral) (negative : Bool) (d : Nat) (e : Int) (text : List Char) :
    Prop where
  lawful : n.Lawful
  sign : n.negative = negative
  notWhole : ¬ (n.fraction = [] ∧ n.exponent = none)
  value : (digitsValue (n.whole ++ n.fraction) : ℚ) * 10 ^ (n.power - n.fraction.length) =
    d * 10 ^ e
  small : digitsValue (n.whole ++ n.fraction) ≤ d * 10 ^ 17
  chars : ∀ rest, n.chars rest = signChars negative ++ (text ++ rest)

/-- A numeral whose digits and exponent are the decimal's own has its value. -/
theorem LaysOut.of_value_eq {n : Numeral} {d : Nat} {e : Int} {text : List Char}
    (lawful : n.Lawful) (notWhole : ¬ (n.fraction = [] ∧ n.exponent = none))
    (value_eq : digitsValue (n.whole ++ n.fraction) = d)
    (exponent_eq : n.power - n.fraction.length = e)
    (chars : ∀ rest, n.chars rest = signChars n.negative ++ (text ++ rest)) :
    LaysOut n n.negative d e text where
  lawful := lawful
  sign := rfl
  notWhole := notWhole
  value := by rw [value_eq, exponent_eq]
  small := by
    rw [value_eq]
    exact Nat.le_mul_of_pos_right d (Nat.pow_pos (by decide))
  chars := chars

/-- Where the decimal point stands, counted from the first digit. -/
def pointPlace (d : Nat) (e : Int) : Int := (Nat.toDigits 10 d).length + e

theorem length_toString (d : Nat) : (toString d).length = (Nat.toDigits 10 d).length := by
  rw [← String.length_toList, toList_toString_nat]

/-- The digits of a number after zeros up to a width. -/
def paddedDigits (width n : Nat) : List Char :=
  List.replicate (width - (Nat.toDigits 10 n).length) '0' ++ Nat.toDigits 10 n

theorem digitsValue_paddedDigits (width n : Nat) : digitsValue (paddedDigits width n) = n := by
  rw [paddedDigits, digitsValue_zeros_append, digitsValue_toDigits]

theorem isDigit_of_mem_paddedDigits {width n : Nat} :
    ∀ c ∈ paddedDigits width n, isDigit c = true :=
  isDigit_of_mem_zeros_append fun _ member => isDigit_of_mem_toDigits member

theorem toList_padZeros (width n : Nat) :
    (Binary64.padZeros width (toString n)).toList = paddedDigits width n := by
  rw [Binary64.padZeros, String.toList_append, String.toList_ofList, length_toString,
    toList_toString_nat, paddedDigits]

open Binary64 (layOut Layout jsonLayout) in
/-- The text of a decimal in the four shapes. -/
theorem toList_layOut (layout : Layout) (d : Nat) (e : Int) :
    (layOut layout d e).toList =
      if layout.pointAbove < pointPlace d e ∧ pointPlace d e ≤ layout.pointUpTo then
        if pointPlace d e ≤ 0 then
          '0' :: '.' :: (List.replicate (-pointPlace d e).toNat '0' ++ Nat.toDigits 10 d)
        else if 0 ≤ e then
          Nat.toDigits 10 d ++ (List.replicate e.toNat '0' ++ ['.', '0'])
        else
          (Nat.toDigits 10 d).take (pointPlace d e).toNat ++
            '.' :: (Nat.toDigits 10 d).drop (pointPlace d e).toNat
      else
        (match Nat.toDigits 10 d with
          | [c] => [c]
          | c :: rest => c :: '.' :: rest
          | [] => []) ++
          'e' :: (if pointPlace d e - 1 < 0 then '-' else '+') ::
            paddedDigits layout.exponentDigits (pointPlace d e - 1).natAbs := by
  have pointEq : ((Nat.toDigits 10 d).length : Int) + e = pointPlace d e := rfl
  rw [layOut, length_toString, toList_toString_nat]
  simp only [pointEq]
  split
  · split
    · simp
    · split <;> simp
  · simp only [String.toList_append, toList_padZeros, List.append_assoc]
    generalize Nat.toDigits 10 d = ds
    congr 1
    · rcases ds with - | ⟨c, - | ⟨c', rest⟩⟩ <;> simp
    · split <;> simp

variable (negative : Bool) {d : Nat} (nonzero : d ≠ 0) {e : Int}

/-- Zeros between the point and the digits. -/
theorem laysOut_zerosBefore (beforePoint : pointPlace d e ≤ 0) :
    ∃ n : Numeral, LaysOut n negative d e
      ('0' :: '.' :: (List.replicate (-pointPlace d e).toNat '0' ++ Nat.toDigits 10 d)) := by
  have digits : ∀ c ∈ Nat.toDigits 10 d, isDigit c = true :=
    fun c member => isDigit_of_mem_toDigits member
  have value_eq : digitsValue (['0'] ++
      (List.replicate (-pointPlace d e).toNat '0' ++ Nat.toDigits 10 d)) = d := by
    have zero : ['0'] = List.replicate 1 '0' := rfl
    rw [zero, digitsValue_zeros_append, digitsValue_zeros_append, digitsValue_toDigits]
  have length_eq : (0 : Int) -
      (List.replicate (-pointPlace d e).toNat '0' ++ Nat.toDigits 10 d).length = e := by
    rw [List.length_append, List.length_replicate]
    unfold pointPlace at beforePoint ⊢
    omega
  have someDigits : List.replicate (-pointPlace d e).toNat '0' ++ Nat.toDigits 10 d ≠ [] := by
    simp
  refine ⟨⟨negative, ['0'],
    List.replicate (-pointPlace d e).toNat '0' ++ Nat.toDigits 10 d, none⟩, ?_⟩
  refine LaysOut.of_value_eq ?_ (fun whole => someDigits whole.1) value_eq length_eq ?_
  · exact {
      whole := by simp [isDigit]
      leading := .inl rfl
      fraction := isDigit_of_mem_zeros_append digits
      exponent := by simp
      length := fun noDigits _ => absurd noDigits someDigits }
  · intro rest
    rw [Numeral.chars, Numeral.fractionChars, if_neg someDigits]
    cases negative <;> simp [signChars, Numeral.exponentChars]

include nonzero in
/-- Zeros between the digits and the point. -/
theorem laysOut_zerosAfter (whole : 0 ≤ e) (within : e ≤ 16) :
    ∃ n : Numeral, LaysOut n negative d e
      (Nat.toDigits 10 d ++ (List.replicate e.toNat '0' ++ ['.', '0'])) := by
  rcases Int.eq_ofNat_of_zero_le whole with ⟨k, rfl⟩
  rw [Int.toNat_natCast]
  have value_eq : digitsValue ((Nat.toDigits 10 d ++ List.replicate k '0') ++ ['0']) =
      d * 10 ^ (k + 1) := by
    have zeros : ['0'] = List.replicate 1 '0' := rfl
    rw [zeros, digitsValue_append_zeros, digitsValue_append_zeros, digitsValue_toDigits,
      Nat.pow_add, Nat.mul_assoc]
  refine ⟨⟨negative, Nat.toDigits 10 d ++ List.replicate k '0', ['0'], none⟩, ?_⟩
  exact {
    lawful := {
      whole := by
        intro c member
        rcases List.mem_append.mp member with digit | zero
        · exact isDigit_of_mem_toDigits digit
        · exact isDigit_of_mem_zeros zero
      leading := by
        rcases exists_toDigits_cons nonzero with ⟨c, more, isCons, notZero⟩
        exact .inr ⟨c, more ++ List.replicate k '0', by rw [isCons]; rfl, notZero⟩
      fraction := by simp [isDigit]
      exponent := by simp
      length := by simp }
    sign := rfl
    notWhole := by simp
    value := by
      dsimp only [Numeral.power]
      rw [value_eq, Nat.cast_mul, Nat.cast_pow, mul_assoc]
      congr 1
      have shift : (0 : Int) - (['0'].length : Nat) = -1 := rfl
      rw [shift, pow_succ, zpow_natCast, zpow_neg_one, mul_assoc]
      norm_num
    small := by
      dsimp only
      rw [value_eq]
      exact Nat.mul_le_mul_left d (Nat.pow_le_pow_right (by decide) (by omega))
    chars := by
      intro rest
      cases negative <;>
        simp [Numeral.chars, Numeral.fractionChars, Numeral.exponentChars, signChars] }

include nonzero in
/-- The point between two digits. -/
theorem laysOut_pointBetween (afterFirst : 0 < pointPlace d e) (beforeLast : e < 0) :
    ∃ n : Numeral, LaysOut n negative d e
      ((Nat.toDigits 10 d).take (pointPlace d e).toNat ++
        '.' :: (Nat.toDigits 10 d).drop (pointPlace d e).toNat) := by
  have digits : ∀ c ∈ Nat.toDigits 10 d, isDigit c = true :=
    fun c member => isDigit_of_mem_toDigits member
  have length_eq : (0 : Int) -
      ((Nat.toDigits 10 d).drop (pointPlace d e).toNat).length = e := by
    rw [List.length_drop]
    unfold pointPlace at afterFirst ⊢
    omega
  obtain ⟨k, point_eq⟩ : ∃ k, (pointPlace d e).toNat = k + 1 :=
    Nat.exists_eq_succ_of_ne_zero (by omega)
  rw [point_eq] at length_eq ⊢
  have value_eq : digitsValue ((Nat.toDigits 10 d).take (k + 1) ++
      (Nat.toDigits 10 d).drop (k + 1)) = d := by
    rw [List.take_append_drop, digitsValue_toDigits]
  have someDigits : (Nat.toDigits 10 d).drop (k + 1) ≠ [] := by
    intro none
    rw [none, List.length_nil] at length_eq
    omega
  refine ⟨⟨negative, (Nat.toDigits 10 d).take (k + 1), (Nat.toDigits 10 d).drop (k + 1),
    none⟩, ?_⟩
  refine LaysOut.of_value_eq ?_ (fun whole => someDigits whole.1) value_eq length_eq ?_
  · exact {
      whole := fun c member => digits c (List.mem_of_mem_take member)
      leading := by
        rcases exists_toDigits_cons nonzero with ⟨c, more, isCons, notZero⟩
        exact .inr ⟨c, more.take k, by rw [isCons, List.take_succ_cons], notZero⟩
      fraction := fun c member => digits c (List.mem_of_mem_drop member)
      exponent := by simp
      length := fun noDigits _ => absurd noDigits someDigits }
  · intro rest
    rw [Numeral.chars, Numeral.fractionChars, if_neg someDigits]
    cases negative <;> simp [signChars, Numeral.exponentChars]

include nonzero in
/-- One digit before the point, and an exponent. -/
theorem laysOut_exponent (width : Nat) :
    ∃ n : Numeral, LaysOut n negative d e
      ((match Nat.toDigits 10 d with
          | [c] => [c]
          | c :: rest => c :: '.' :: rest
          | [] => []) ++
          'e' :: (if pointPlace d e - 1 < 0 then '-' else '+') ::
            paddedDigits width (pointPlace d e - 1).natAbs) := by
  have digits : ∀ c ∈ Nat.toDigits 10 d, isDigit c = true :=
    fun c member => isDigit_of_mem_toDigits member
  have value_eq : digitsValue (Nat.toDigits 10 d) = d := digitsValue_toDigits d
  rcases exists_toDigits_cons nonzero with ⟨c, more, isCons, notZero⟩
  have point_eq : pointPlace d e = more.length + 1 + e := by
    rw [pointPlace, isCons, List.length_cons, Nat.cast_succ]
  rw [isCons] at digits value_eq ⊢
  generalize shift_eq : pointPlace d e - 1 = shift
  refine ⟨⟨negative, [c], more,
    some (decide (shift < 0), paddedDigits width shift.natAbs)⟩, ?_⟩
  refine LaysOut.of_value_eq ?_ (by simp) value_eq ?_ ?_
  · exact {
      whole := by simpa using digits c List.mem_cons_self
      leading := .inr ⟨c, [], rfl, notZero⟩
      fraction := fun c' member => digits c' (List.mem_cons_of_mem c member)
      exponent := by
        intro sign exponentDigits same
        obtain ⟨-, rfl⟩ := Prod.mk.inj (Option.some.inj same)
        exact ⟨by simp [paddedDigits], isDigit_of_mem_paddedDigits⟩
      length := by simp }
  · simp only [Numeral.power, decide_eq_true_eq, digitsValue_paddedDigits]
    omega
  · intro rest
    cases negative <;> cases more <;>
      simp [Numeral.chars, Numeral.fractionChars, Numeral.exponentChars, signChars]

include nonzero in
/-- The layout of numbers in JSON text is a numeral with the number's value. -/
theorem exists_laysOut (e : Int) :
    ∃ n : Numeral, LaysOut n negative d e (Binary64.layOut Binary64.jsonLayout d e).toList := by
  rw [toList_layOut]
  split
  · next positional =>
    split
    · next beforePoint => exact laysOut_zerosBefore negative beforePoint
    · next afterFirst =>
      split
      · next whole =>
        have within : pointPlace d e ≤ 16 := positional.2
        rw [pointPlace] at within
        exact laysOut_zerosAfter negative nonzero whole (by omega)
      · next beforeLast =>
        exact laysOut_pointBetween negative nonzero (by omega) (by omega)
  · exact laysOut_exponent negative nonzero _

theorem log2_le_of_le_mul {n d : Nat} (le : n ≤ d * 10 ^ 17) : n.log2 ≤ d.log2 + 57 := by
  by_cases zero : n = 0
  · rw [zero]
    exact Nat.zero_le _
  · have lt : n < 2 ^ (d.log2 + 58) := by
      calc
        n ≤ d * 10 ^ 17 := le
        _ ≤ d * 2 ^ 57 := Nat.mul_le_mul_left d (by decide)
        _ < 2 ^ (d.log2 + 1) * 2 ^ 57 :=
          Nat.mul_lt_mul_of_pos_right Nat.lt_log2_self (by decide)
        _ = 2 ^ (d.log2 + 58) := by rw [← Nat.pow_add]
    have below := (Nat.log2_lt zero).mpr lt
    omega

/-- Zero is printed with one decimal place. -/
theorem isNumeral_zero {rank : Fin Binary64.magnitudes} (isZero : rank.val = 0) :
    IsNumeral (.float (.finite negative rank)) (signChars negative ++ "0.0".toList) := by
  obtain rfl : rank = ⟨0, by decide⟩ := Fin.ext isZero
  refine ⟨⟨negative, ['0'], ['0'], none⟩, ?_, ?_, ?_⟩
  · exact {
      whole := by simp [isDigit]
      leading := .inl rfl
      fraction := by simp [isDigit]
      exponent := by simp
      length := by simp }
  · have value_eq : digitsValue (['0'] ++ ['0']) = 0 := rfl
    rw [Numeral.json, if_neg (by simp)]
    dsimp only
    rw [value_eq, Binary64.ofDecimal, if_pos rfl]
  · intro rest
    cases negative <;>
      simp [Numeral.chars, Numeral.fractionChars, Numeral.exponentChars, signChars]

/-- A finite number other than zero is printed as its shortest digits. -/
theorem isNumeral_nonzero {rank : Fin Binary64.magnitudes} (nonzero : rank.val ≠ 0) :
    IsNumeral (.float (.finite negative rank))
      (signChars negative ++ (Binary64.layOut Binary64.jsonLayout
        (Binary64.shortestDecimal rank).1 (Binary64.shortestDecimal rank).2).toList) := by
  rcases Binary64.ofDecimal_shortestDecimal nonzero with ⟨positive, short, reads⟩
  obtain ⟨n, laysOut⟩ := exists_laysOut negative (Nat.ne_of_gt positive)
    (Binary64.shortestDecimal rank).2
  have small : (digitsValue (n.whole ++ n.fraction)).log2 ≤ 10000 := by
    have bounded := log2_le_of_le_mul laysOut.small
    omega
  refine ⟨n, laysOut.lawful, ?_, ?_⟩
  · rw [Numeral.json, if_neg laysOut.notWhole, laysOut.sign,
      reads negative _ _ small laysOut.value]
  · intro rest
    rw [laysOut.chars rest, List.append_assoc]

/-- A finite number is printed as its numeral. -/
theorem isNumeral_finite (rank : Fin Binary64.magnitudes) :
    IsNumeral (.float (.finite negative rank))
      ((Binary64.finite negative rank).text Binary64.jsonLayout).toList := by
  have sign_eq : (if negative = true then "-" else "").toList = signChars negative := by
    cases negative <;> rfl
  rw [Binary64.text, String.toList_append, sign_eq]
  by_cases isZero : rank.val = 0
  · rw [Binary64.shortestDecimal, if_pos isZero, if_pos rfl]
    exact isNumeral_zero negative isZero
  · have positive := (Binary64.ofDecimal_shortestDecimal isZero).1
    rw [if_neg (Nat.ne_of_gt positive)]
    exact isNumeral_nonzero negative isZero

end PromptDispatch.Json
