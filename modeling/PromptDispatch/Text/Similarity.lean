/-!
# Similar words

Two words are similar when much of them agrees: the longest stretch they share
is set aside, and what stands before it and what stands after it is compared in
the same way.  Twice the number of shared characters, over the characters of
both, is the ratio of the words; words from three fifths on are close.
-/

namespace PromptDispatch.Text

/-- Length of the common beginning of two words. -/
def commonStart : List Char → List Char → Nat
  | a :: as, b :: bs => if a = b then commonStart as bs + 1 else 0
  | _, _ => 0

/-- A stretch that two words share: where it begins in each, and its length. -/
structure Stretch where
  first : Nat
  second : Nat
  length : Nat

/-- The longer of two stretches; of equally long ones the first. -/
def Stretch.longer (s t : Stretch) : Stretch := if s.length < t.length then t else s

/-- The longest stretch of the second word, from an index on, that begins the
first word. -/
def stretchAtStart (first : Nat) (as : List Char) : Nat → List Char → Stretch
  | second, [] => ⟨first, second, 0⟩
  | second, b :: bs =>
    Stretch.longer ⟨first, second, commonStart as (b :: bs)⟩
      (stretchAtStart first as (second + 1) bs)

/-- The longest stretch of two words, with the first word from an index on; of
equally long ones the one that begins first. -/
def longestStretch (bs : List Char) : Nat → List Char → Stretch
  | first, [] => ⟨first, 0, 0⟩
  | first, a :: as =>
    Stretch.longer (stretchAtStart first (a :: as) 0 bs) (longestStretch bs (first + 1) as)

/-- Characters that two words share, with a bound on how often the words are
divided. -/
def sharedWithin : Nat → List Char → List Char → Nat
  | 0, _, _ => 0
  | fuel + 1, as, bs =>
    let s := longestStretch bs 0 as
    if s.length = 0 then 0
    else
      sharedWithin fuel (as.take s.first) (bs.take s.second) + s.length +
        sharedWithin fuel (as.drop (s.first + s.length)) (bs.drop (s.second + s.length))

/-- Characters that two words share.  Every division shortens the first word. -/
def shared (as bs : List Char) : Nat := sharedWithin as.length as bs

/-- Whether two words are close. -/
def isClose (word other : String) : Bool :=
  3 * (other.length + word.length) ≤ 10 * shared other.toList word.toList

/-- Whether a word comes before another among words close to a third: by the
greater ratio, then by the greater word. -/
def comesFirst (word x y : String) : Bool :=
  let left := shared x.toList word.toList * (y.length + word.length)
  let right := shared y.toList word.toList * (x.length + word.length)
  right < left || (left = right && !(x < y))

/-- Most close words that are told. -/
def closeWords : Nat := 3

/-- The words closest to a word, closest first. -/
def closest (word : String) (others : List String) : List String :=
  ((others.filter (isClose word)).mergeSort (comesFirst word)).take closeWords

end PromptDispatch.Text
