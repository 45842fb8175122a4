import PromptDispatch.Fault
import PromptDispatch.Json.Nesting

/-!
# Machines

What follows values into their depth, or a path into the folders above, takes room for
every step, and a machine has only so much of it.  It refuses what goes deeper by a
fault that stands beside those of the files, the texts and the agents, so whoever
is ready for these is not ready for it.

How deep a machine goes differs from operation to operation, and it depends on what
called for the operation.  A machine here is told by what is left to each of them.
It is also told by the sealed values that cannot be copied.
-/

namespace PromptDispatch

/-- How deep a machine goes, and what it cannot copy. -/
structure Machine where
  /-- lists and objects inside one another that a text is read with -/
  reading : Nat
  /-- those that a value is printed with on one line -/
  writing : Nat
  /-- those that a value is printed with on a page -/
  paging : Nat
  /-- those that a value is copied with -/
  copying : Nat
  /-- missing folders above one another that are made -/
  climbing : Nat
  /-- why a sealed value of a kind cannot be copied -/
  sealedFault : String → Option Fault

namespace Machine

/-- The fault of a machine that is asked to go too deep. -/
def overtaxed (doing : String) : Fault :=
  .foreign "RecursionError" ("maximum recursion depth exceeded while " ++ doing)

/-- The fault of an operation that is made of smaller ones. -/
def calling : Fault := overtaxed "calling a Python object"

/-- A sealed value that cannot be copied, by what is said of its kind. -/
def uncopied (told : String) : Option Fault :=
  some (.badKind ("cannot pickle '" ++ told ++ "' object"))

/-- A machine with room for a thousand steps, thirty of which its caller has
taken.  A copy takes two for every level. -/
def standard : Machine where
  reading := 970
  writing := 970
  paging := 960
  copying := 485
  climbing := 960
  sealedFault
    | "lock" => uncopied "_thread.lock"
    | "generator" => uncopied "generator"
    | "socket" => uncopied "socket"
    | _ => none

/-- Why a machine does not get to the end of what is read of a text. -/
def readFault? (machine : Machine) (text : String) : Option Fault :=
  (Json.openedBeyond? machine.reading text).map fun holder =>
    overtaxed ("decoding a JSON " ++ holder.text ++ " from a unicode string")

/-- What ends the printing of a value: it is too deep, or it has no text. -/
inductive Hindrance where
  | overtaxed (fault : Fault)
  | obstacle (obstacle : Json.Obstacle)

/-- What hinders a machine to print a value at a level. -/
def hindrance? (machine : Machine) (level : Nat) (v : Json) : Option Hindrance :=
  match Json.beyond? machine.writing level v with
  | some _ => some (.overtaxed (overtaxed "encoding a JSON object"))
  | none =>
    match v with
    | .arr _ | .obj _ => none
    | v => v.obstacle?.map .obstacle

/-- Why a machine does not get to the end of a value on one line. -/
def writeFault? (machine : Machine) (v : Json) : Option Fault :=
  match v.firstMet machine.hindrance? 0 with
  | some (.overtaxed fault) => some fault
  | _ => none

/-- Why a machine does not get to the end of a value on a page. -/
def pageFault? (machine : Machine) (v : Json) : Option Fault :=
  (v.nestedBeyond? machine.paging).map fun _ => calling

/-- Why a machine cannot copy a value at a level. -/
def obstruction? (machine : Machine) (level : Nat) (v : Json) : Option Fault :=
  match Json.beyond? machine.copying level v with
  | some _ => some calling
  | none =>
    match v with
    | .sealed kind => machine.sealedFault kind
    | _ => none

/-- Why a machine cannot copy a value. -/
def copyFault? (machine : Machine) (v : Json) : Option Fault :=
  v.firstMet machine.obstruction? 0

end Machine

end PromptDispatch
