import PromptDispatch.Binary64.Basic
import PromptDispatch.Keyed
import PromptDispatch.Text.Quoted
import PromptDispatch.Text.Real
import PromptDispatch.Text.Similarity

/-!
# Forms of commands

A form says what a command may be called with: options, which are flags or take
a value of some kind, and arguments, which are told by their order.  Arguments
of a call are read in two passes.  The first finds the options by their names;
it ends at two dashes that stand alone.  The second gives every option its
value, in the order in which options were first named, and then deals out the
arguments.
-/

namespace PromptDispatch.CommandLine

/-- What an option takes. -/
inductive Kind where
  | flag
  | text
  | whole
  | real
deriving DecidableEq, Repr

/-- An option by its name, which begins with two dashes. -/
structure Choice where
  name : String
  kind : Kind
  about : String

/-- What a command may be called with. -/
structure Form where
  /-- the words that call the command -/
  call : String
  /-- lines that describe the command; the first stands alone -/
  about : List String
  options : List Choice
  /-- names of the arguments, in order -/
  arguments : List String
  /-- whether options may stand after arguments -/
  mixed : Bool := true

/-- Why a call is refused. -/
inductive Refusal where
  | unknownOption (name : String) (similar : List String)
  | needsValue (name : String)
  | takesNoValue (name : String)
  | unreadable (name : String) (value : String) (kind : Kind)
  | missingArgument (name : String)
  | extraArguments (arguments : List String)
  | missingCommand
  | unknownCommand (name : String) (similar : List String)
deriving DecidableEq, Repr

/-- The value of an option. -/
inductive Value where
  | on
  | text (s : String)
  | whole (n : Int)
  | real (x : Binary64)
deriving DecidableEq, Repr

/-! ## Finding options -/

/-- Options that were named, in order, each with the text it was given, and the
other arguments. -/
structure Found where
  named : List (Choice × String)
  others : List String

/-- What a call has in front: an option's name or an argument. -/
def looksLikeOption (argument : String) : Bool :=
  match argument.toList with
  | '-' :: _ :: _ => true
  | _ => false

/-- The option of a name. -/
def Form.choice? (form : Form) (name : String) : Option Choice :=
  form.options.find? fun choice => choice.name = name

/-- Name of an option and the text after the equals sign, if there is one. -/
def splitOption (argument : String) : String × Option String :=
  let cs := argument.toList
  let name := String.ofList (cs.takeWhile (· ≠ '='))
  match cs.dropWhile (· ≠ '=') with
  | _ :: text => (name, some (String.ofList text))
  | [] => (name, none)

/-- The refusal of an option that the form does not have.  A name with one dash
is refused by its first letter. -/
def Form.unknown (form : Form) (argument : String) : Refusal :=
  match argument.toList with
  | '-' :: '-' :: _ =>
    let name := (splitOption argument).1
    .unknownOption name (Text.closest name (form.options.map (·.name)))
  | cs => .unknownOption (String.ofList (cs.take 2)) []

/-- Adds an option in front. -/
def Found.name (choice : Choice) (text : String) (found : Found) : Found :=
  { found with named := (choice, text) :: found.named }

/-- Adds another argument in front. -/
def Found.other (argument : String) (found : Found) : Found :=
  { found with others := argument :: found.others }

/-- Finds the options among arguments. -/
def Form.find (form : Form) : List String → Except Refusal Found
  | [] => .ok ⟨[], []⟩
  | argument :: rest =>
    if argument = "--" then .ok ⟨[], rest⟩
    else if looksLikeOption argument then
      let (name, text) := splitOption argument
      match form.choice? name with
      | none => .error (form.unknown argument)
      | some choice =>
        match choice.kind, text with
        | .flag, some _ => .error (.takesNoValue name)
        | .flag, none => (form.find rest).map (Found.name choice "")
        | _, some text => (form.find rest).map (Found.name choice text)
        | _, none =>
          match rest with
          | [] => .error (.needsValue name)
          | text :: rest => (form.find rest).map (Found.name choice text)
    else if form.mixed then (form.find rest).map (Found.other argument)
    else .ok ⟨[], argument :: rest⟩

/-- The first of the given options that was named. -/
def Found.firstOf? (found : Found) (names : List String) : Option String :=
  (found.named.find? fun (choice, _) => names.contains choice.name).map (·.1.name)

/-! ## Reading values -/

/-- Most characters of a whole number. -/
def longestWhole : Nat := 4300

/-- The value of a text for an option. -/
def Kind.value? (kind : Kind) (text : String) : Option Value :=
  match kind with
  | .flag => some .on
  | .text => some (.text text)
  | .whole =>
    if longestWhole < text.toList.countP fun c => (Text.digitValue? c).isSome then none
    else (Text.integer? text).map .whole
  | .real => (Text.real? text).map .real

/-- What a call gives a command. -/
structure Answers where
  /-- values of options by name -/
  values : List (String × Value)
  /-- the arguments, as many as the form has -/
  arguments : List String

/-- The text that an option was given last. -/
def Found.lastText (found : Found) (choice : Choice) : String :=
  match found.named.reverse.find? fun (c, _) => c.name = choice.name with
  | some (_, text) => text
  | none => ""

/-- The options that were named, each once, in the order in which they were
first named. -/
def distinctChoices : List (Choice × String) → List String → List Choice
  | [], _ => []
  | (choice, _) :: rest, seen =>
    if seen.contains choice.name then distinctChoices rest seen
    else choice :: distinctChoices rest (choice.name :: seen)

/-- Gives every named option its value. -/
def Found.values (found : Found) : List Choice → Except Refusal (List (String × Value))
  | [] => .ok []
  | choice :: choices =>
    let text := found.lastText choice
    match choice.kind.value? text with
    | none => .error (.unreadable choice.name text choice.kind)
    | some value => (found.values choices).map ((choice.name, value) :: ·)

/-- Deals out the arguments that are not options. -/
def deal : List String → List String → Except Refusal (List String)
  | [], [] => .ok []
  | [], extra => .error (.extraArguments extra)
  | name :: _, [] => .error (.missingArgument name)
  | _ :: names, argument :: others => (deal names others).map (argument :: ·)

/-- Reads what a call gives a command. -/
def Form.answers (form : Form) (found : Found) : Except Refusal Answers := do
  let values ← found.values (distinctChoices found.named [])
  let arguments ← deal form.arguments found.others
  return ⟨values, arguments⟩

namespace Answers

/-- Whether a flag was set. -/
def isOn (answers : Answers) (name : String) : Bool := Keyed.has name answers.values

/-- The text of an option. -/
def textOr (answers : Answers) (name standard : String) : String :=
  match Keyed.get? name answers.values with
  | some (.text s) => s
  | _ => standard

/-- The whole number of an option. -/
def wholeOr (answers : Answers) (name : String) (standard : Int) : Int :=
  match Keyed.get? name answers.values with
  | some (.whole n) => n
  | _ => standard

/-- The real number of an option. -/
def realOr (answers : Answers) (name : String) (standard : Binary64) : Binary64 :=
  match Keyed.get? name answers.values with
  | some (.real x) => x
  | _ => standard

/-- An argument by its place; the form has made sure that it is there. -/
def argument (answers : Answers) (place : Nat) : String := (answers.arguments[place]?).getD ""

end Answers

end PromptDispatch.CommandLine
