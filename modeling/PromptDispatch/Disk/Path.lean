/-!
# Paths

A path is written with slashes.  Its normal form drops repeated slashes and
steps that stay where they are; steps to the parent are kept, since what they
mean depends on the disk.  The working folder is written `<CWD>`.
-/

namespace PromptDispatch.Disk

/-- The text that stands for the working folder. -/
def workingFolder : String := "<CWD>"

/-- Parts of a path between slashes. -/
def splitSlashes : List Char → List Char → List String
  | part, [] => [String.ofList part.reverse]
  | part, c :: cs =>
    if c = '/' then String.ofList part.reverse :: splitSlashes [] cs
    else splitSlashes (c :: part) cs

/-- A path in normal form. -/
structure Path where
  /-- slashes at the beginning: none, one, or two -/
  root : Nat
  /-- names and steps to the parent -/
  steps : List String
deriving DecidableEq, Repr

namespace Path

/-- The path a text names. -/
def ofString (text : String) : Path :=
  let slashes := (text.toList.takeWhile (· = '/')).length
  { root := if slashes = 2 then 2 else min slashes 1
    steps := (splitSlashes [] text.toList).filter fun s => s != "" && s != "." }

/-- Text of a path. -/
def text (p : Path) : String :=
  let body := String.intercalate "/" p.steps
  if p.root = 0 && p.steps.isEmpty then "."
  else String.ofList (List.replicate p.root '/') ++ body

/-- The folder a path lies in; a path without steps is its own. -/
def parent (p : Path) : Path := { p with steps := p.steps.dropLast }

/-- A path inside the working folder. -/
def inWorkingFolder (name : String) : Path := ⟨0, [workingFolder, name]⟩

end Path

end PromptDispatch.Disk
