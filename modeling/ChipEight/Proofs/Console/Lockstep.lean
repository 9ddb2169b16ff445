import ChipEight.Proofs.Console.Schedule
import Mathlib.Data.List.Forall2

/-!
# Two Consoles in Lockstep

Statements about two runs at once: two consoles that differ in something are
put through the same history, and the question is what of the difference can
be seen, in the consoles they end as or in what their steps report.

`Console.Lockstep` collects what has to be known about one event. Related
consoles stay related after it, and if it is a step, the two records are alike.
A step may be exempt: whatever the relation cannot survive is kept out by
`Allowed`, which looks at the record of the step. The induction over a history
is then the same for every relation, and so are the ones over a number of
steps and over a session. In the last two the records have to be equal rather
than alike, since they are what comes out.

## Main definitions

* `Console.Lockstep`: What one event does to related consoles.
* `Console.Lockstep.Sessions`: Two sessions with related consoles and the same
  account of them.

## Theorems

* `Console.related_load`: What putting in a program does to them.
* `Console.Lockstep.replay`: What a history does to them.
* `Console.Lockstep.steps`, `Console.Lockstep.run_of_allowed`: What a number of
  steps and what a session does to them.
-/

namespace ChipEight

namespace Console

/-- Events keep consoles related, and the records of the steps that are allowed
    are alike. -/
structure Lockstep (Related : Console → Console → Prop) (Allowed : Decoded → Prop)
    (Alike : Decoded → Decoded → Prop) : Prop where
  step {c d : Console} : Related c d → Allowed c.step.1 →
    Alike c.step.1 d.step.1 ∧ Related c.step.2 d.step.2
  idle {c d : Console} : Related c d → ∀ e : Event, e ≠ .step → Related (c.after e) (d.after e)

/-- Whether a program is accepted is not a matter of the console: it replaces
    what was in both, or it is refused by both. -/
theorem related_load {Related : Console → Console → Prop} {c d : Console} (related : Related c d)
    (inserted : ∀ rom, Related (c.insert rom) (d.insert rom)) (bytes : List UInt8) :
    Related (c.after (.load bytes)) (d.after (.load bytes)) := by
  unfold after
  cases h : Rom.ofBytes bytes with
  | error =>
      simp only [load, h, Except.map]
      exact related
  | ok rom =>
      simp only [load, h, Except.map]
      exact inserted rom

namespace Lockstep

variable {Related : Console → Console → Prop} {Allowed : Decoded → Prop}
  {Alike : Decoded → Decoded → Prop} {c d : Console}

theorem after (lockstep : Lockstep Related Allowed Alike) (related : Related c d) {e : Event}
    (allowed : ∀ r ∈ c.record? e, Allowed r) :
    Related (c.after e) (d.after e) ∧
      List.Forall₂ Alike (c.record? e).toList (d.record? e).toList := by
  cases e with
  | step =>
      rcases lockstep.step related (allowed _ rfl) with ⟨alike, hstep⟩
      exact ⟨hstep, .cons alike .nil⟩
  | _ => exact ⟨lockstep.idle related _ Event.noConfusion, .nil⟩

theorem replay (lockstep : Lockstep Related Allowed Alike) (related : Related c d)
    {history : List Event} (allowed : ∀ r ∈ c.records history, Allowed r) :
    Related (c.replay history) (d.replay history) ∧
      List.Forall₂ Alike (c.records history) (d.records history) := by
  induction history generalizing c d with
  | nil => exact ⟨related, .nil⟩
  | cons e rest ih =>
      simp only [records, List.mem_append, Option.mem_toList] at allowed
      rcases lockstep.after related (fun r hr => allowed r (.inl hr)) with ⟨hevent, hrecord⟩
      rcases ih hevent (fun r hr => allowed r (.inr hr)) with ⟨hreplay, hrecords⟩
      exact ⟨hreplay, List.rel_append hrecord hrecords⟩

end Lockstep

/-! ### Equal records -/

namespace Lockstep

variable {Related : Console → Console → Prop} {Allowed : Decoded → Prop} {c d : Console}

theorem steps (lockstep : Lockstep Related (fun _ => True) Eq) (related : Related c d) (n : Nat) :
    (d.steps n).1 = (c.steps n).1 ∧ Related (c.steps n).2 (d.steps n).2 := by
  have hallowed : ∀ r ∈ c.records (.replicate n .step), True := fun _ _ => trivial
  rcases lockstep.replay related hallowed with ⟨hreplay, hrecords⟩
  rw [List.forall₂_eq_eq_eq] at hrecords
  rw [steps_eq_replay, steps_eq_replay]
  exact ⟨hrecords.symm, hreplay⟩

/-- Two sessions with related consoles have counted the same and left the same
    trail behind. -/
structure Sessions (Related : Console → Console → Prop) (s t : Session) : Prop where
  console : Related s.console t.console
  summary : t.summary = s.summary
  trail : t.trail = s.trail

theorem cycle (lockstep : Lockstep Related Allowed Eq) {s t : Session}
    (sessions : Sessions Related s t) (interval : Nat) (allowed : Allowed s.console.step.1) :
    Sessions Related (s.cycle interval) (t.cycle interval) := by
  rcases lockstep.step sessions.console allowed with ⟨hrecord, hconsole⟩
  have hstep : Sessions Related s.step t.step := by
    constructor
    case console => exact hconsole
    case summary => simp only [Session.step, sessions.summary, hrecord]
    case trail => simp only [Session.step, sessions.trail, hrecord]
  unfold Session.cycle Session.tickIfDue
  rw [hstep.summary]
  split
  · exact ⟨lockstep.idle hconsole .tick Event.noConfusion, rfl, hstep.trail⟩
  · exact hstep

/-- What has to be allowed of a session is what it leaves in its trail. -/
theorem advance (lockstep : Lockstep Related Allowed Eq) {s t : Session}
    (sessions : Sessions Related s t) (interval n : Nat)
    (allowed : ∀ r ∈ (s.advance interval n).trail, Allowed r) :
    Sessions Related (s.advance interval n) (t.advance interval n) := by
  induction n generalizing s t with
  | zero => exact sessions
  | succ n ih =>
      cases hstalled : s.summary.stalled with
      | true =>
          have hother : t.summary.stalled = true := by rw [sessions.summary, hstalled]
          rw [Session.advance_of_stalled hstalled, Session.advance_of_stalled hother]
          exact sessions
      | false =>
          have hother : t.summary.stalled = false := by rw [sessions.summary, hstalled]
          rw [Session.advance_succ hstalled] at allowed ⊢
          rw [Session.advance_succ hother]
          -- The record of the first cycle is in the trail until the end.
          have hfirst : s.console.step.1 ∈ (s.cycle interval).trail := by
            rw [Session.cycle_eq]
            exact List.mem_cons_self
          have hcycle := lockstep.cycle sessions interval
            (allowed _ (Session.mem_trail_advance hfirst interval n))
          exact ih hcycle allowed

theorem run_of_allowed (lockstep : Lockstep Related Allowed Eq) (related : Related c d)
    (cycles perTick : Nat) (allowed : ∀ r ∈ (c.run cycles perTick).trail, Allowed r) :
    Sessions Related (c.run cycles perTick) (d.run cycles perTick) := by
  have hstart : Sessions Related { console := c } { console := d } := ⟨related, rfl, rfl⟩
  exact lockstep.advance hstart (max perTick 1) cycles allowed

theorem run (lockstep : Lockstep Related (fun _ => True) Eq) (related : Related c d)
    (cycles perTick : Nat) : Sessions Related (c.run cycles perTick) (d.run cycles perTick) :=
  lockstep.run_of_allowed related cycles perTick fun _ _ => trivial

end Lockstep

end Console

end ChipEight
