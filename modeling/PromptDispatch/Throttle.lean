/-!
# The throttle

Calls are accepted or rejected by the time of the last accepted call: a call is
rejected while less than a window has passed since then, and a rejected call
leaves no trace.  A window that is not positive accepts every call.

Times may be of any kind that has a zero, differences and a decidable order.
-/

namespace PromptDispatch

/-- A throttle: its window, and the time of the last accepted call. -/
structure Throttle (τ : Type) where
  window : τ
  accepted : Option τ
deriving Repr

namespace Throttle

variable {τ : Type}

/-- A throttle that has accepted nothing yet. -/
def fresh (window : τ) : Throttle τ := ⟨window, none⟩

/-- Forgets the last accepted call. -/
def reset (t : Throttle τ) : Throttle τ := { t with accepted := none }

variable [Zero τ] [Sub τ] [LT τ] [DecidableLT τ]

/-- How long a call at a time still has to wait, when it is rejected. -/
def wait? (t : Throttle τ) (now : τ) : Option τ :=
  match t.accepted with
  | none => none
  | some before =>
    if 0 < t.window then
      let elapsed := now - before
      if elapsed < t.window then some (t.window - elapsed) else none
    else none

/-- A call at a time: the throttle after it when it is accepted, the time to
wait when it is rejected. -/
def acquire (t : Throttle τ) (now : τ) : Except τ (Throttle τ) :=
  match t.wait? now with
  | some wait => .error wait
  | none => .ok { t with accepted := some now }

end Throttle

end PromptDispatch
