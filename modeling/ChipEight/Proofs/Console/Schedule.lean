import ChipEight.Proofs.Console.Events

/-!
# Schedules

What a session is meant to do, without the loop that does it.

A session of so many cycles follows a schedule: so many instructions, with a
tick after each whose number is a multiple of the interval. Nothing in it
depends on the console, so a schedule is a history like any other. The loop
leaves it early, after the first instruction that waits, and
`Console.firstWait?` is the number of that instruction. It is a question about
the schedule as well, since whether an instruction waits is in its record.

Schedules grow at their end while the loop recurses from its beginning. The
lemmas here are therefore about one more cycle at the end of a schedule, and
one cycle of a session is put in the same form.

## Main definitions

* `Console.schedule`: The events of so many cycles.
* `Console.firstWait?`: The number of the first instruction in a schedule that
  waits.

## Theorems

* `Session.cycle_eq`: A cycle as a single record.
* `Session.mem_trail_advance`: Records stay in the trail.
* `Console.replay_schedule_succ`, `Console.records_schedule_succ`: One more
  cycle at the end of a schedule.
* `Console.firstWait?_succ`, `Console.firstWait?_add`: What a longer schedule
  has for its first wait.
-/

namespace ChipEight

namespace Session

/-- A cycle as a single record, with the question whether a tick is due inside
    the two fields that depend on it. -/
theorem cycle_eq (interval : Nat) (s : Session) :
    s.cycle interval =
      { console :=
          if (s.summary.executed + 1) % interval = 0 then s.console.step.2.tick
          else s.console.step.2
        summary :=
          { executed := s.summary.executed + 1
            ticks := s.summary.ticks + if (s.summary.executed + 1) % interval = 0 then 1 else 0
            faults := s.summary.faults + if s.console.step.1.effect.fault.isSome then 1 else 0
            stalled := s.console.step.1.effect.waiting }
        trail := s.console.step.1 :: s.trail } := by
  have hnumber : s.step.summary.executed = s.summary.executed + 1 := rfl
  by_cases due : (s.summary.executed + 1) % interval = 0
  · rw [cycle, tickIfDue, hnumber, if_pos due, if_pos due, if_pos due]
    rfl
  · rw [cycle, tickIfDue, hnumber, if_neg due, if_neg due, if_neg due]
    rfl

theorem advance_of_stalled {s : Session} (stalled : s.summary.stalled = true) (interval n : Nat) :
    s.advance interval n = s := by
  cases n with
  | zero => rfl
  | succ n => rw [advance, if_pos stalled]

theorem advance_succ {s : Session} (running : s.summary.stalled = false) (interval n : Nat) :
    s.advance interval (n + 1) = (s.cycle interval).advance interval n := by
  rw [advance, if_neg (Bool.eq_false_iff.mp running)]

/-- What a session has met, it has met in every session that goes on from it. -/
theorem mem_trail_advance {s : Session} {d : Decoded} (member : d ∈ s.trail) (interval n : Nat) :
    d ∈ (s.advance interval n).trail := by
  induction n generalizing s with
  | zero => exact member
  | succ n ih =>
      cases hstalled : s.summary.stalled with
      | true => rwa [advance_of_stalled hstalled]
      | false =>
          rw [advance_succ hstalled]
          refine ih ?_
          rw [cycle_eq]
          exact List.mem_cons_of_mem _ member

end Session

namespace Console

/-- The events of the cycle with a number: an instruction, and a tick if the
    number is a multiple of the interval. -/
def cycleEvents (interval number : Nat) : List Event :=
  if number % interval = 0 then [.step, .tick] else [.step]

/-- The events of a number of cycles, which are numbered from one. -/
def schedule (interval cycles : Nat) : List Event :=
  (List.range cycles).flatMap fun k => cycleEvents interval (k + 1)

/-- The number of the first instruction in a schedule that waits for a key. -/
def firstWait? (c : Console) (interval cycles : Nat) : Option Nat :=
  ((c.records (schedule interval cycles)).findIdx? (·.effect.waiting)).map (· + 1)

variable (c : Console) (interval n : Nat)

theorem schedule_succ :
    schedule interval (n + 1) = schedule interval n ++ cycleEvents interval (n + 1) := by
  simp only [schedule, List.range_succ, List.flatMap_append, List.flatMap_singleton]

theorem replay_schedule_succ :
    c.replay (schedule interval (n + 1)) =
      if (n + 1) % interval = 0 then (c.replay (schedule interval n)).step.2.tick
      else (c.replay (schedule interval n)).step.2 := by
  rw [schedule_succ, replay_append, cycleEvents]
  split <;> rfl

theorem records_schedule_succ :
    c.records (schedule interval (n + 1)) =
      c.records (schedule interval n) ++ [(c.replay (schedule interval n)).step.1] := by
  rw [schedule_succ, records_append, cycleEvents]
  split <;> rfl

theorem length_records_schedule : (c.records (schedule interval n)).length = n := by
  induction n with
  | zero => rfl
  | succ n ih => rw [records_schedule_succ, List.length_append, ih, List.length_singleton]

/-- The first wait is the one there was already, or else the last instruction
    if that one waits. -/
theorem firstWait?_succ :
    c.firstWait? interval (n + 1) = (c.firstWait? interval n).or
      (if (c.replay (schedule interval n)).step.1.effect.waiting then some (n + 1) else none) := by
  simp only [firstWait?, records_schedule_succ, List.findIdx?_append, length_records_schedule]
  cases (c.records (schedule interval n)).findIdx? (·.effect.waiting) with
  | some k => rfl
  | none => cases hwait : (c.replay (schedule interval n)).step.1.effect.waiting <;> simp [hwait]

/-- A first wait stays the first however long the schedule goes on. -/
theorem firstWait?_add {w : Nat} (wait : c.firstWait? interval n = some w) (m : Nat) :
    c.firstWait? interval (n + m) = some w := by
  induction m with
  | zero => exact wait
  | succ m ih => rw [← Nat.add_assoc, firstWait?_succ, ih, Option.some_or]

end Console

end ChipEight
