import ChipEight.Log
import ChipEight.Machine

/-!
# Steps and Traces

A step fetches the word at the program counter and executes it. It leaves a
record with a trace: the text of the word, which could have been given without
executing it, and after it the values the instruction met.

## Main definitions

* `Decoded`: A word, its instruction, its trace and its effect.
* `Decoded.ofWord`: The record of a word that is not executed.
* `Machine.execute`: Executes a word.
* `Machine.step`: Fetches a word and executes it.
* `Decoded.log`: What an executed instruction leaves in the log.
-/

namespace ChipEight

/-- The record of one word, executed or not. -/
structure Decoded where
  word : Word
  instruction : Instruction
  trace : String
  effect : Effect
  deriving DecidableEq, Repr

namespace Decoded

/-- The record of a word that is not executed. -/
def ofWord (dialect : Dialect) (w : Word) : Decoded :=
  ⟨w, .decode w, Instruction.describe dialect w, {}⟩

/-- What follows the text of a word in the trace of its execution. -/
def suffix (detail : Detail) : String :=
  if detail.text = "" then "" else " ; " ++ detail.text

/-- The record of a word after execution. -/
def withOutcome (d : Decoded) (o : Outcome) : Decoded :=
  { d with trace := d.trace ++ suffix o.detail, effect := o.effect }

/-- What some instructions announce before their trace. -/
def announcement : Instruction → List Entry
  | .standardResolution => [⟨.debug, "switching to standard resolution"⟩]
  | .extendedResolution => [⟨.debug, "switching to extended resolution"⟩]
  | .selectPlanes n => [⟨.debug, s!"selecting planes {(Selection.ofBits n.val).name}"⟩]
  | _ => []

/-- What an executed instruction leaves in the log: an announcement, the trace,
    and a warning if there was a fault. -/
def log (d : Decoded) : List Entry :=
  let warning := match d.effect.fault with
    | some fault => [⟨.warn, s!"{fault.message} ({d.trace})"⟩]
    | none => []
  announcement d.instruction ++ [⟨.trace, d.trace⟩] ++ warning

end Decoded

namespace Machine

/-- Describes a word without executing it. -/
def explain (m : Machine) (w : Word) : Decoded :=
  .ofWord m.dialect w

/-- Executes a word. The program counter is expected to stand past it. -/
def execute (m : Machine) (w : Word) : Decoded × Machine :=
  let dry := m.explain w
  let (outcome, m) := m.perform dry.instruction
  (dry.withOutcome outcome, m)

/-- Fetches the word at the program counter and executes it. -/
def step (m : Machine) : Decoded × Machine :=
  let (word, memory) := m.memory.fetch
  { m with memory := memory }.execute word

/-- The sixtieth of a second: both timers count down and the fade decays. -/
def tick (m : Machine) : Machine :=
  { m with memory := m.memory.tickTimers, display := m.display.tickFade }

end Machine

end ChipEight
