import PromptDispatch.Pattern.Letter
import PromptDispatch.Keyed

/-!
# Matching by backtracking

A node is matched at a spot of a text, and what comes after it is a
continuation: a node tries its ways in order and takes the first for which the
continuation succeeds.  Matching recurses on the tree.  A repetition counts its
rounds down from a bound that the text sets, since a round beyond the least
number has to begin at another place than the round before.
-/

namespace PromptDispatch.Pattern

/-- Where the last visit to a group began and ended, as the rests of the text
there. -/
structure Visit where
  opened : Option (List Char)
  closed : Option (List Char)

/-- A place in a text: what stands before it, newest first, what comes after
it, how much that is, and the groups visited so far. -/
structure Spot where
  before : List Char
  after : List Char
  /-- number of the characters after the place -/
  left : Nat
  groups : List (Nat × Visit)

/-- The rest of a match: given a spot, the spot where the whole match ends. -/
abbrev Continuation := Spot → Option Spot

namespace Spot

/-- The spot after the next character, if that is accepted. -/
def step? (s : Spot) (accepts : Char → Bool) : Option Spot :=
  match s.after with
  | c :: rest =>
    if accepts c then
      some { s with before := c :: s.before, after := rest, left := s.left - 1 }
    else none
  | [] => none

/-- The visit to a group. -/
def visit (s : Spot) (index : Nat) : Visit :=
  (Keyed.get? index s.groups).getD ⟨none, none⟩

/-- Notes that a group opens here. -/
def opening (s : Spot) (index : Nat) : Spot :=
  { s with groups := Keyed.put index { s.visit index with opened := some s.after } s.groups }

/-- Notes that a group closes here. -/
def closing (s : Spot) (index : Nat) : Spot :=
  { s with groups := Keyed.put index { s.visit index with closed := some s.after } s.groups }

/-- The text a group covered, once it has been closed. -/
def covered? (s : Spot) (index : Nat) : Option (List Char) :=
  match s.visit index with
  | ⟨some opened, some closed⟩ =>
    if closed.length ≤ opened.length then
      some (opened.take (opened.length - closed.length))
    else none
  | _ => none

/-- The spot a number of characters back. -/
def back? : Nat → Spot → Option Spot
  | 0, s => some s
  | n + 1, s =>
    match s.before with
    | c :: before => back? n { s with before := before, after := c :: s.after, left := s.left + 1 }
    | [] => none

/-- The spot after the characters of a text. -/
def past? (flags : Flags) : List Char → Spot → Option Spot
  | [], s => some s
  | c :: cs, s =>
    match s.step? (sameInReference flags c) with
    | some s => past? flags cs s
    | none => none

/-- Whether a word begins or ends here; nothing does in an empty text. -/
def atBoundary (flags : Flags) (s : Spot) : Bool :=
  let word (cs : List Char) : Bool := (cs.head?.map (Category.holds flags · .word)).getD false
  word s.before != word s.after

end Spot

/-- Whether an anchor holds at a spot. -/
def Anchor.holds (flags : Flags) (s : Spot) : Anchor → Bool
  | .lineStart =>
    s.before.isEmpty || (flags.multiline && s.before.head? == some '\n')
  | .lineEnd =>
    s.after.isEmpty || s.after == ['\n'] ||
      (flags.multiline && s.after.head? == some '\n')
  | .textStart => s.before.isEmpty
  | .textEnd => s.after.isEmpty
  | .boundary => s.atBoundary flags
  | .noBoundary => !(s.before.isEmpty && s.after.isEmpty) && !s.atBoundary flags

/-- A body to be repeated: it runs at a spot and goes on with a continuation. -/
abbrev Body := Spot → Continuation → Option Spot

/-- Whether another round is allowed: the most number is not reached, and the
place is not the one where the latest optional round began. -/
def mayRepeat (most : Option Nat) (count : Nat) (last : Option Nat) (s : Spot) : Bool :=
  (most.all (count < ·)) && last != some s.left

/-- Rounds, as many as possible first.  `last` is the place where the latest
optional round began, counted from the end of the text. -/
def greedyRounds (body : Body) (least : Nat) (most : Option Nat) :
    Nat → Nat → Option Nat → Body
  | 0, _, _, s, k => k s
  | fuel + 1, count, last, s, k =>
    if count < least then
      body s fun s => greedyRounds body least most fuel (count + 1) last s k
    else
      let more :=
        if mayRepeat most count last s then
          body s fun s' =>
            greedyRounds body least most fuel (count + 1) (some s.left) s' k
        else none
      match more with
      | some found => some found
      | none => k s

/-- Rounds, as few as possible first. -/
def lazyRounds (body : Body) (least : Nat) (most : Option Nat) :
    Nat → Nat → Option Nat → Body
  | 0, _, _, s, k => k s
  | fuel + 1, count, last, s, k =>
    if count < least then
      body s fun s => lazyRounds body least most fuel (count + 1) last s k
    else
      match k s with
      | some found => some found
      | none =>
        if mayRepeat most count last s then
          body s fun s' =>
            lazyRounds body least most fuel (count + 1) (some s.left) s' k
        else none

/-- Rounds, as many as possible and never given back. -/
def possessiveRounds (body : Body) (least : Nat) (most : Option Nat) :
    Nat → Nat → Option Nat → Spot → Option Spot
  | 0, _, _, s => some s
  | fuel + 1, count, last, s =>
    if count < least then
      match body s some with
      | some s => possessiveRounds body least most fuel (count + 1) last s
      | none => none
    else if mayRepeat most count last s then
      match body s some with
      | some s' =>
        possessiveRounds body least most fuel (count + 1) (some s.left) s'
      | none => some s
    else some s

/-- Matches a node at a spot and goes on with a continuation. -/
def Node.run (widths : Nat → Width) (flags : Flags) : Node → Body
  | .empty, s, k => k s
  | .char code, s, k => (s.step? (matchesChar flags code)).bind k
  | .notChar code, s, k => (s.step? (!matchesChar flags code ·)).bind k
  | .set negated items, s, k => (s.step? (matchesSet flags negated items)).bind k
  | .any, s, k => (s.step? fun c => flags.dotAll || c != '\n').bind k
  | .anchor a, s, k => if a.holds flags s then k s else none
  | .seq a b, s, k => a.run widths flags s fun s => b.run widths flags s k
  | .alt a b, s, k =>
    match a.run widths flags s k with
    | some found => some found
    | none => b.run widths flags s k
  | .group index body, s, k =>
    body.run widths flags (s.opening index) fun s => k (s.closing index)
  | .scope on off body, s, k => body.run widths (flags.within on off) s k
  | .atomic body, s, k => (body.run widths flags s some).bind k
  | .look ahead negated body, s, k =>
    let from? := if ahead then some s else s.back? (body.width widths).least
    let found := from?.bind fun s => body.run widths flags s some
    match negated, found with
    | false, some t => k { s with groups := t.groups }
    | false, none => none
    | true, some _ => none
    | true, none => k s
  | .rounds least most greed body, s, k =>
    let fuel := least + s.left + 2
    match greed with
    | .greedy => greedyRounds (body.run widths flags) least most fuel 0 none s k
    | .lazy => lazyRounds (body.run widths flags) least most fuel 0 none s k
    | .possessive =>
      (possessiveRounds (body.run widths flags) least most fuel 0 none s).bind k
  | .backref index, s, k =>
    match s.covered? index with
    | some text => (s.past? flags text).bind k
    | none => none
  | .conditional index yes no _, s, k =>
    if (s.covered? index).isSome then yes.run widths flags s k
    else no.run widths flags s k

namespace Compiled

/-- Whether a pattern matches at some place of a text, from a given place on and
where the next character may begin it; `left` is the number of characters from
there. -/
def foundFrom (mayBegin : Char → Bool) (root : Body) (left : Nat) (before : List Char) :
    List Char → Bool
  | [] => (root ⟨before, [], left, []⟩ some).isSome
  | c :: cs =>
    (mayBegin c && (root ⟨before, c :: cs, left, []⟩ some).isSome) ||
      foundFrom mayBegin root (left - 1) (c :: before) cs

end Compiled

end PromptDispatch.Pattern
