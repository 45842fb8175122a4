import PromptDispatch.Json.Printer
import PromptDispatch.Text.Quoted

/-!
# UTF-8

Decoding refuses the first sequence of bytes that is not the shortest form of a
character, and tells the range of bytes it could not use.
-/

namespace PromptDispatch.Text

/-- Why bytes are not UTF-8. -/
inductive Utf8Cause where
  | unexpectedEnd
  | badStart
  | badContinuation
deriving DecidableEq, Repr

/-- Wording of a cause. -/
def Utf8Cause.wording : Utf8Cause → String
  | .unexpectedEnd => "unexpected end of data"
  | .badStart => "invalid start byte"
  | .badContinuation => "invalid continuation byte"

/-- A refusal: its cause, the position and number of the bytes refused, and the
first of them. -/
structure Utf8Fault where
  cause : Utf8Cause
  position : Nat
  count : Nat
  byte : Nat
deriving DecidableEq, Repr

/-- Message of a refusal. -/
def Utf8Fault.message (fault : Utf8Fault) : String :=
  let place :=
    if fault.count = 1 then
      "byte 0x" ++ String.ofList (hexDigits 2 fault.byte) ++
        s!" in position {fault.position}"
    else s!"bytes in position {fault.position}-{fault.position + fault.count - 1}"
  s!"'utf-8' codec can't decode {place}: {fault.cause.wording}"

/-- Bytes that continue a sequence. -/
def isContinuation (b : Nat) : Bool := 128 ≤ b && b < 192

/-- Whether a second byte fits the first: shortest form, no surrogate, within
the code space. -/
def secondFits (a b : Nat) : Bool :=
  isContinuation b &&
    !(a == 224 && b < 160) && !(a == 237 && 160 ≤ b) &&
    !(a == 240 && b < 144) && !(a == 244 && 144 ≤ b)

/-- The character at the beginning of the bytes and its number of bytes, or the
cause and number of the bytes refused. -/
def decodeStep (bytes : List Nat) : Except (Utf8Cause × Nat) (Char × Nat) :=
  match bytes with
  | [] => .error (.unexpectedEnd, 0)
  | a :: rest =>
    if a < 128 then .ok (Char.ofNat a, 1)
    else if a < 194 || 245 ≤ a then .error (.badStart, 1)
    else
      match rest with
      | [] => .error (.unexpectedEnd, 1)
      | b :: rest =>
        if !secondFits a b then .error (.badContinuation, 1)
        else if a < 224 then .ok (Char.ofNat ((a - 192) * 64 + (b - 128)), 2)
        else
          match rest with
          | [] => .error (.unexpectedEnd, 2)
          | c :: rest =>
            if !isContinuation c then .error (.badContinuation, 2)
            else if a < 240 then
              .ok (Char.ofNat ((a - 224) * 4096 + (b - 128) * 64 + (c - 128)), 3)
            else
              match rest with
              | [] => .error (.unexpectedEnd, 3)
              | d :: _ =>
                if !isContinuation d then .error (.badContinuation, 3)
                else
                  .ok (Char.ofNat ((a - 240) * 262144 + (b - 128) * 4096 +
                    (c - 128) * 64 + (d - 128)), 4)

/-- The characters of bytes from a position on.  The first number counts bytes
of a character that are still to be passed over. -/
def decodeFrom : Nat → Nat → List Nat → Except Utf8Fault (List Char)
  | _, _, [] => .ok []
  | skip + 1, position, _ :: bytes => decodeFrom skip (position + 1) bytes
  | 0, position, a :: bytes =>
    match decodeStep (a :: bytes) with
    | .ok (c, used) => do
      let cs ← decodeFrom (used - 1) (position + 1) bytes
      return c :: cs
    | .error (cause, count) => .error ⟨cause, position, count, a⟩

/-- The text of bytes. -/
def decodeUtf8 (bytes : List UInt8) : Except Utf8Fault String := do
  return String.ofList (← decodeFrom 0 0 (bytes.map UInt8.toNat))

/-- Line ends of every convention as a line feed. -/
def unifyLineEnds : List Char → List Char
  | [] => []
  | '\r' :: '\n' :: cs => '\n' :: unifyLineEnds cs
  | '\r' :: cs => '\n' :: unifyLineEnds cs
  | c :: cs => c :: unifyLineEnds cs

end PromptDispatch.Text
