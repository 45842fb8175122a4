import PromptDispatch.Field.Issue
import PromptDispatch.Json.Literal

/-!
# Reports in words

A report names the form and the number of its issues, then every issue with its
place, its wording, the value and the value's kind.  Long values are shown by
their first 25 and their last 24 bytes.
-/

namespace PromptDispatch.Field

/-- The leading characters that fit into a number of bytes. -/
def takeBytes : Nat → List Char → List Char
  | _, [] => []
  | n, c :: cs => if c.utf8Size ≤ n then c :: takeBytes (n - c.utf8Size) cs else []

/-- A text of more than 50 bytes cut in the middle. -/
def shortened (s : String) : String :=
  if s.utf8ByteSize ≤ 50 then s
  else
    let cs := s.toList
    String.ofList (takeBytes 25 cs ++ "...".toList ++ (takeBytes 24 cs.reverse).reverse)

/-- The text that stands for the address of the catalogue of issues. -/
def catalogue : String := "<CATALOGUE>"

/-- Where the catalogue of issues tells more about a cause. -/
def Cause.address (cause : Cause) : String := catalogue ++ "/" ++ cause.code

/-- The lines of one issue. -/
def Issue.lines (issue : Issue) : List String :=
  let place := if issue.place.isEmpty then [] else [String.intercalate "." issue.place]
  place ++
    [s!"  {issue.cause.wording} [type={issue.cause.code}, " ++
       s!"input_value={shortened issue.value.literal}, input_type={issue.value.kindName}]",
     "    For further information visit " ++ issue.cause.address]

/-- A report in words. -/
def Report.message (report : Report) : String :=
  let count := report.issues.length
  let heading := toString count ++
    (if count = 1 then " validation error for " else " validation errors for ") ++ report.form
  String.intercalate "\n" (heading :: report.issues.flatMap Issue.lines)

end PromptDispatch.Field
