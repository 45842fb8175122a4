/-!
# Patterns

A pattern is a tree of nodes over characters, groups, repetitions and
assertions.  Characters are kept by code point, since a pattern may name code
points that no text holds.  Which letters are the same, what a line is and which
characters form the classes is decided by the flags in force at a node.
-/

namespace PromptDispatch.Pattern

/-- Flags of a pattern or of a part of it. -/
structure Flags where
  ignoreCase : Bool := false
  multiline : Bool := false
  dotAll : Bool := false
  verbose : Bool := false
  /-- classes and letter case know the basic characters only -/
  basic : Bool := false
  /-- classes and letter case know all characters -/
  full : Bool := false
  /-- the flag of the unsupported template dialect -/
  template : Bool := false
deriving DecidableEq, Repr, Inhabited

namespace Flags

/-- Flags set in either. -/
def union (a b : Flags) : Flags where
  ignoreCase := a.ignoreCase || b.ignoreCase
  multiline := a.multiline || b.multiline
  dotAll := a.dotAll || b.dotAll
  verbose := a.verbose || b.verbose
  basic := a.basic || b.basic
  full := a.full || b.full
  template := a.template || b.template

/-- Flags set in both. -/
def inter (a b : Flags) : Flags where
  ignoreCase := a.ignoreCase && b.ignoreCase
  multiline := a.multiline && b.multiline
  dotAll := a.dotAll && b.dotAll
  verbose := a.verbose && b.verbose
  basic := a.basic && b.basic
  full := a.full && b.full
  template := a.template && b.template

/-- Flags of the first that are not in the second. -/
def without (a b : Flags) : Flags where
  ignoreCase := a.ignoreCase && !b.ignoreCase
  multiline := a.multiline && !b.multiline
  dotAll := a.dotAll && !b.dotAll
  verbose := a.verbose && !b.verbose
  basic := a.basic && !b.basic
  full := a.full && !b.full
  template := a.template && !b.template

/-- Whether no flag is set. -/
def isEmpty (a : Flags) : Bool := a == {}

/-- Flags in force inside a part that turns some on and some off.  Choosing a
character repertoire there replaces the one outside. -/
def within (outer on off : Flags) : Flags :=
  let outer := if on.basic || on.full then { outer with basic := false, full := false } else outer
  (outer.union on).without off

end Flags

/-- Character classes. -/
inductive Category where
  | digit
  | blank
  | word
deriving DecidableEq, Repr

/-- One item of a character set. -/
inductive SetItem where
  | char (code : Nat)
  | range (lo hi : Nat)
  | category (cat : Category) (negated : Bool)
deriving DecidableEq, Repr

/-- Positions that match without taking a character. -/
inductive Anchor where
  | lineStart
  | lineEnd
  | textStart
  | textEnd
  | boundary
  | noBoundary
deriving DecidableEq, Repr

/-- How a repetition chooses the number of its rounds. -/
inductive Greed where
  | greedy
  | lazy
  | possessive
deriving DecidableEq, Repr

/-- A pattern's tree. -/
inductive Node where
  | empty
  | char (code : Nat)
  | notChar (code : Nat)
  | set (negated : Bool) (items : List SetItem)
  | any
  | anchor (a : Anchor)
  | seq (first second : Node)
  | alt (first second : Node)
  | group (index : Nat) (body : Node)
  | scope (on off : Flags) (body : Node)
  | atomic (body : Node)
  | look (ahead : Bool) (negated : Bool) (body : Node)
  | rounds (least : Nat) (most : Option Nat) (greed : Greed) (body : Node)
  | backref (index : Nat)
  | conditional (index : Nat) (yes no : Node) (hasNo : Bool)
deriving DecidableEq, Repr, Inhabited

namespace Node

/-- Nodes one after another. -/
def ofList : List Node → Node
  | [] => .empty
  | [n] => n
  | n :: ns => .seq n (ofList ns)

/-- Nodes of which one has to match, tried in order. -/
def alternatives : List Node → Node
  | [] => .empty
  | [n] => n
  | n :: ns => .alt n (alternatives ns)

end Node

/-- Least and greatest number of characters a node covers. -/
structure Width where
  least : Nat
  most : Nat
deriving DecidableEq, Repr

/-- Widths are counted up to here. -/
def widthLimit : Nat := Nat.pow 2 64

/-- A width within the limit. -/
def Width.clamp (w : Width) : Width := ⟨min w.least widthLimit, min w.most widthLimit⟩

/-- Width of a node, given the widths of the groups before it. -/
def Node.width (groups : Nat → Width) : Node → Width
  | .empty => ⟨0, 0⟩
  | .char _ | .notChar _ | .set _ _ | .any => ⟨1, 1⟩
  | .anchor _ => ⟨0, 0⟩
  | .seq a b =>
    let v := a.width groups
    let w := b.width groups
    Width.clamp ⟨v.least + w.least, v.most + w.most⟩
  | .alt a b =>
    let v := a.width groups
    let w := b.width groups
    ⟨min v.least w.least, max v.most w.most⟩
  | .group _ body => body.width groups
  | .scope _ _ body => body.width groups
  | .atomic body => body.width groups
  | .look _ _ _ => ⟨0, 0⟩
  | .rounds least most _ body =>
    let w := body.width groups
    let top := match most with
      | none => if w.most = 0 then 0 else widthLimit
      | some m => w.most * m
    Width.clamp ⟨w.least * least, top⟩
  | .backref index => groups index
  | .conditional _ yes no hasNo =>
    let v := yes.width groups
    let w := no.width groups
    if hasNo then ⟨min v.least w.least, max v.most w.most⟩ else ⟨0, v.most⟩

end PromptDispatch.Pattern
