import PromptDispatch.Disk.Basic
import PromptDispatch.Json.Reader
import PromptDispatch.Route.Basic

/-!
# Routes from a file

The file holds a JSON list of objects, each with an agent and a pattern and
perhaps a description.  The first fault of the list is the fault of the file.
-/

namespace PromptDispatch.Route

/-- Why a routes file is refused. -/
inductive FileFault where
  | read (fault : Disk.ReadFault)
  | json (text : String) (error : Json.ReadError)
  | notList
  | incomplete (index : Nat)
  | route (index : Nat) (fault : Fault)

/-- Name of the kind of a file's fault.  A route's fault is told as one of the file,
except for a count beyond all bounds. -/
def FileFault.kindName : FileFault → String
  | .read fault => fault.kindName
  | .json _ error => error.kindName
  | .notList => "ValueError"
  | .incomplete _ => "ValueError"
  | .route _ fault =>
    match fault with
    | .pattern _ patternFault =>
      match patternFault.kind with
      | .count => fault.kindName
      | _ => "ValueError"
    | _ => "ValueError"

/-- Message of a file's fault.  A count beyond all bounds is reported as it
is. -/
def FileFault.message : FileFault → String
  | .read fault => fault.message
  | .json text error => error.message text.toList
  | .notList => "routes file must contain a JSON list"
  | .incomplete index => s!"route #{index} needs 'agent' and 'pattern'"
  | .route index fault =>
    match fault with
    | .pattern _ patternFault =>
      match patternFault.kind with
      | .form => s!"route #{index} has an invalid pattern: {fault.message}"
      | .digits => s!"route #{index} is invalid: {fault.message}"
      | .flags => s!"route #{index} is invalid: {fault.message}"
      | .count => fault.message
    | _ => s!"route #{index} is invalid: {fault.message}"

/-- The route of one list item. -/
def ofItem (index : Nat) (item : Json) : Except FileFault Route :=
  match item.field? "agent", item.field? "pattern" with
  | some agent, some pattern =>
    match make agent pattern ((item.field? "description").getD (.str "")) with
    | .ok route => .ok route
    | .error fault => .error (.route index fault)
  | _, _ => .error (.incomplete index)

/-- The routes of list items, counted from a number. -/
def ofItems : Nat → List Json → Except FileFault (List Route)
  | _, [] => .ok []
  | index, item :: items => do
    let route ← ofItem index item
    let routes ← ofItems (index + 1) items
    return route :: routes

/-- The routes of a JSON value. -/
def ofJson : Json → Except FileFault (List Route)
  | .arr items => ofItems 0 items
  | _ => .error .notList

/-- The routes of a file. -/
def load (disk : Disk) (path : Disk.Path) : Except FileFault (List Route) :=
  match disk.readText path with
  | .error fault => .error (.read fault)
  | .ok text =>
    match Json.read text with
    | .error error => .error (.json text error)
    | .ok value => ofJson value

end PromptDispatch.Route
