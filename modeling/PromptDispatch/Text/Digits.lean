/-!
# Numbers with too many digits

A text of decimal digits is turned into a whole number, and a whole number into its
digits, only up to a limit.
-/

namespace PromptDispatch.Text

/-- Most digits a whole number may be written with. -/
def digitLimit : Nat := 4300

/-- What is said of a limit that is exceeded. -/
def digitsExceeded : String :=
  s!"Exceeds the limit ({digitLimit} digits) for integer string conversion"

/-- What can be done about it. -/
def digitsAdvice : String := "use sys.set_int_max_str_digits() to increase the limit"

/-- Message about a text of too many digits. -/
def tooManyDigits (count : Nat) : String :=
  digitsExceeded ++ s!": value has {count} digits; " ++ digitsAdvice

/-- Message about a number of too many digits. -/
def tooLargeForText : String := digitsExceeded ++ "; " ++ digitsAdvice

end PromptDispatch.Text
