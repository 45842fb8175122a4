import PromptDispatch.CommandLine.Form

/-!
# Pages of the command line

The page of a form tells how a command is called, what it does, and which
options it has.  The notice of a refusal repeats how the command is called and
says what is wrong.
-/

namespace PromptDispatch.CommandLine

/-- Lines with a line end each. -/
def unlines (lines : List String) : String :=
  String.join (lines.map (· ++ "\n"))

/-- Word for the value of a kind. -/
def Kind.word : Kind → String
  | .flag => ""
  | .text => "TEXT"
  | .whole => "INTEGER"
  | .real => "FLOAT"

/-- An option as it is written in a call. -/
def Choice.usage (choice : Choice) : String :=
  if choice.kind = .flag then choice.name else choice.name ++ " " ++ choice.kind.word

/-- How a command is called. -/
def Form.usage (form : Form) : String :=
  "Usage: " ++ String.intercalate " " (form.call :: "[OPTIONS]" :: form.arguments)

/-- A line moved to the right; the empty line stays empty. -/
def indented (line : String) : String := if line = "" then "" else "  " ++ line

/-- A text filled with blanks to a width. -/
def padded (width : Nat) (s : String) : String :=
  s ++ String.ofList (List.replicate (width - s.length) ' ')

/-- Two columns, the first as wide as its longest entry. -/
def columns (rows : List (String × String)) : List String :=
  let width := rows.foldl (fun w (left, _) => max w left.length) 0
  rows.map fun (left, right) => indented (padded (width + 2) left ++ right)

/-- The first line of a form's description. -/
def Form.summary (form : Form) : String := form.about.headD ""

/-- The lines of a form's page. -/
def Form.lines (form : Form) : List String :=
  [form.usage, ""] ++ form.about.map indented ++ ["", "Options:"] ++
    columns (form.options.map fun choice => (choice.usage, choice.about))

/-- The page of a form. -/
def Form.page (form : Form) : String := unlines form.lines

/-- Words that may have been meant. -/
def suggestion : List String → String
  | [] => ""
  | [word] => " Did you mean " ++ Text.quoted word ++ "?"
  | words =>
    let sorted := words.mergeSort fun a b => !(b < a)
    " (Did you mean one of: " ++ String.intercalate ", " (sorted.map Text.quoted) ++ "?)"

/-- What values of a kind are called in refusals. -/
def Kind.called : Kind → String
  | .whole => "integer"
  | .real => "float"
  | _ => "text"

/-- Wording of a refusal. -/
def Refusal.message : Refusal → String
  | .unknownOption name similar =>
    "No such option " ++ Text.quoted name ++ "." ++ suggestion similar
  | .needsValue name => "Option " ++ Text.quoted name ++ " requires an argument."
  | .takesNoValue name => "Option " ++ Text.quoted name ++ " does not take a value."
  | .unreadable name value kind =>
    "Invalid value for '" ++ name ++ "': " ++ Text.quoted value ++
      " is not a valid " ++ kind.called ++ "."
  | .missingArgument name => "Missing argument '" ++ name ++ "'."
  | .extraArguments arguments =>
    "Got unexpected extra " ++
      (if arguments.length = 1 then "argument" else "arguments") ++
      " (" ++ String.intercalate " " arguments ++ ")"
  | .missingCommand => "Missing command."
  | .unknownCommand name similar =>
    "No such command " ++ Text.quoted name ++ "." ++ suggestion similar

/-- Whether the notice of a refusal tells how the command is called. -/
def Refusal.tellsUsage : Refusal → Bool
  | .needsValue _ => false
  | .takesNoValue _ => false
  | _ => true

/-- The line of an error. -/
def errorLine (message : String) : String := "Error: " ++ message ++ "\n"

/-- The notice of a refusal. -/
def Refusal.notice (form : Form) (refusal : Refusal) : String :=
  let usage :=
    if refusal.tellsUsage then
      unlines [form.usage, "Try '" ++ form.call ++ " --help' for help.", ""]
    else ""
  usage ++ errorLine refusal.message

end PromptDispatch.CommandLine
