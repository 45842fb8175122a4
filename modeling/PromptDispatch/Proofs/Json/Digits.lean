import Mathlib.Tactic.Ring
import PromptDispatch.Json.Reader

/-!
# Decimal digits

The reader's value of a run of digits, and the digits of a whole number as they
are printed.  A run of digits is taken up to the first character that is no
digit, so printed digits are taken whole.
-/

namespace PromptDispatch.Json

/-- A digit is none of the characters that are no digits. -/
theorem ne_of_isDigit {d c : Char} (digit : isDigit d = true) (noDigit : isDigit c = false) :
    d ≠ c := by
  rintro rfl
  simp [digit] at noDigit

/-- A text that does not go on with a digit. -/
def NoDigitAhead (rest : List Char) : Prop := ∀ c, rest.head? = some c → isDigit c = false

theorem noDigitAhead_cons {c : Char} {rest : List Char} (noDigit : isDigit c = false) :
    NoDigitAhead (c :: rest) := by
  intro c' isHead
  have cEq : c = c' := by simpa using isHead
  exact cEq ▸ noDigit

/-- The reader's value of digits is the library's. -/
theorem digitsValue_eq (cs : List Char) : digitsValue cs = Nat.ofDigitChars 10 cs 0 := by
  simp [digitsValue, Nat.ofDigitChars_eq_foldl, Nat.mul_comm]

theorem digitsValue_append (first second : List Char) :
    digitsValue (first ++ second) =
      digitsValue first * 10 ^ second.length + digitsValue second := by
  rw [digitsValue_eq, Nat.ofDigitChars_append, Nat.ofDigitChars_eq_ofDigitChars_zero,
    digitsValue_eq, digitsValue_eq, Nat.mul_comm]

@[simp]
theorem digitsValue_toDigits (n : Nat) : digitsValue (Nat.toDigits 10 n) = n := by
  rw [digitsValue_eq, Nat.ofDigitChars_ten_toDigits]

@[simp]
theorem digitsValue_zeros (n : Nat) : digitsValue (List.replicate n '0') = 0 := by
  simp [digitsValue_eq]

theorem digitValue_lt {c : Char} (digit : isDigit c = true) : c.toNat - 48 < 10 := by
  have bounds : '0' ≤ c ∧ c ≤ '9' := by simpa [isDigit] using digit
  have upper : c.toNat ≤ 57 := bounds.2
  omega

/-- A run of digits is worth less than the power of ten of its length. -/
theorem digitsValue_lt {cs : List Char} (digits : ∀ c ∈ cs, isDigit c = true) :
    digitsValue cs < 10 ^ cs.length := by
  induction cs with
  | nil => simp [digitsValue]
  | cons c rest ih =>
      have headLt := digitValue_lt (digits c List.mem_cons_self)
      have restLt := ih fun d dMem => digits d (List.mem_cons_of_mem c dMem)
      have split := digitsValue_append [c] rest
      have headValue : digitsValue [c] = c.toNat - 48 := by simp [digitsValue]
      rw [List.singleton_append, headValue] at split
      rw [split, List.length_cons, Nat.pow_succ]
      have headLe : (c.toNat - 48) * 10 ^ rest.length ≤ 9 * 10 ^ rest.length :=
        Nat.mul_le_mul_right _ (by omega)
      omega

theorem isDigit_of_mem_toDigits {n : Nat} {c : Char} (member : c ∈ Nat.toDigits 10 n) :
    isDigit c = true := by
  have digit := Nat.isDigit_of_mem_toDigits (by decide) (by decide) member
  have bounds : 48 ≤ c.val ∧ c.val ≤ 57 := by simpa [Char.isDigit] using digit
  simp only [isDigit, Bool.and_eq_true, decide_eq_true_eq]
  exact bounds

theorem isDigit_of_mem_zeros {n : Nat} {c : Char} (member : c ∈ List.replicate n '0') :
    isDigit c = true := by
  rw [List.eq_of_mem_replicate member]
  decide

theorem digitsValue_zeros_append (n : Nat) (cs : List Char) :
    digitsValue (List.replicate n '0' ++ cs) = digitsValue cs := by
  rw [digitsValue_append, digitsValue_zeros, Nat.zero_mul, Nat.zero_add]

theorem digitsValue_append_zeros (n : Nat) (cs : List Char) :
    digitsValue (cs ++ List.replicate n '0') = digitsValue cs * 10 ^ n := by
  rw [digitsValue_append, digitsValue_zeros, List.length_replicate, Nat.add_zero]

theorem isDigit_of_mem_zeros_append {n : Nat} {cs : List Char}
    (digits : ∀ c ∈ cs, isDigit c = true) :
    ∀ c ∈ List.replicate n '0' ++ cs, isDigit c = true := by
  intro c member
  rcases List.mem_append.mp member with zero | digit
  · exact isDigit_of_mem_zeros zero
  · exact digits c digit

/-- The digits of a positive number do not begin with a zero. -/
theorem exists_toDigits_cons {n : Nat} (positive : n ≠ 0) :
    ∃ c rest, Nat.toDigits 10 n = c :: rest ∧ c ≠ '0' := by
  induction n using Nat.strongRecOn with
  | _ n ih =>
      by_cases small : n < 10
      · refine ⟨n.digitChar, [], Nat.toDigits_of_lt_base small, ?_⟩
        simpa using positive
      · rcases ih (n / 10) (by omega) (by omega) with ⟨c, rest, digitsEq, cNe⟩
        refine ⟨c, rest ++ [Nat.digitChar (n % 10)], ?_, cNe⟩
        rw [Nat.toDigits_of_base_le (by decide) (by omega), digitsEq, List.cons_append]

/-- A run of digits is taken whole when no digit follows. -/
theorem takeDigits_append {digits rest : List Char}
    (areDigits : ∀ c ∈ digits, isDigit c = true) (ends : NoDigitAhead rest) :
    takeDigits (digits ++ rest) = (digits, rest) := by
  have restStops : rest.takeWhile isDigit = [] ∧ rest.dropWhile isDigit = rest := by
    cases rest with
    | nil => simp
    | cons c more => simp [ends c rfl]
  rw [takeDigits, List.takeWhile_append_of_pos areDigits,
    List.dropWhile_append_of_pos areDigits, restStops.1, restStops.2, List.append_nil]

end PromptDispatch.Json
