import ChipEight.Console

/-!
# Sessions

A host runs a console for a number of cycles, letting time pass after every so
many instructions. It stops early when an instruction waits for a key, since
no key changes during a session.

## Main definitions

* `Summary`: What happened over a session.
* `Session`: A console on its way through a session.
* `Session.cycle`: One instruction, and the tick that may be due after it.
* `Console.run`: A whole session.
* `Session.log`: What a finished session leaves in the log.
-/

namespace ChipEight

/-- What happened over a session. -/
structure Summary where
  /-- Instructions run. -/
  executed : Nat := 0
  /-- Sixtieths of a second passed. -/
  ticks : Nat := 0
  /-- Instructions that reported a fault. -/
  faults : Nat := 0
  /-- Whether the session stopped at an instruction waiting for a key. -/
  stalled : Bool := false
  deriving DecidableEq, Repr

/-- A summary as told to a user. -/
def Summary.text (s : Summary) : String :=
  let ending := if s.stalled then ", stalled waiting for a key" else ""
  s!"executed {s.executed} instructions over {s.ticks} ticks, {s.faults} faults" ++ ending

/-- A console on its way through a session. -/
structure Session where
  console : Console
  summary : Summary := {}
  /-- The records of the instructions run so far, newest first. -/
  trail : List Decoded := []
  deriving DecidableEq, Repr

namespace Session

/-- Lets time pass if a tick is due after the instruction just run. -/
def tickIfDue (interval : Nat) (s : Session) : Session :=
  if s.summary.executed % interval = 0 then
    { s with
      console := s.console.tick
      summary := { s.summary with ticks := s.summary.ticks + 1 } }
  else s

/-- Runs one instruction and counts it. -/
def step (s : Session) : Session :=
  let (decoded, console) := s.console.step
  { console := console
    summary := { s.summary with
      executed := s.summary.executed + 1
      faults := s.summary.faults + (if decoded.effect.fault.isSome then 1 else 0)
      stalled := decoded.effect.waiting }
    trail := decoded :: s.trail }

/-- Runs one instruction, and the tick that may be due after it. -/
def cycle (interval : Nat) (s : Session) : Session :=
  s.step.tickIfDue interval

/-- Runs a number of cycles, or fewer if an instruction waits for a key. -/
def advance (interval : Nat) : Nat → Session → Session
  | 0, s => s
  | n + 1, s => if s.summary.stalled then s else advance interval n (s.cycle interval)

/-- What a finished session leaves in the log. -/
def log (s : Session) : List Entry :=
  let stall := match s.summary.stalled, s.trail with
    | true, last :: _ => [⟨.warn, s!"{last.trace} with no key held, stopping"⟩]
    | _, _ => []
  s.trail.reverse.flatMap Decoded.log ++ stall ++ [⟨.info, s.summary.text⟩]

end Session

namespace Console

/-- Runs a session: a number of cycles, with a tick after every `perTick`
    instructions, or after every one if that is zero. -/
def run (c : Console) (cycles perTick : Nat) : Session :=
  Session.advance (max perTick 1) cycles { console := c }

end Console

end ChipEight
