import ChipEight.Proofs.Encoding
import ChipEight.Proofs.Frame

/-!
# When to Draw Again

An effect tells the host whether a pixel, the resolution or the selection may
have changed, so that a host may leave the screen alone when it says no.

For pixels and for the resolution this can be relied on. For the selection it
cannot: selecting planes is reported like an assignment, without asking for a
repaint. `redraw_sound_unless_reselected` draws the line exactly. An
instruction that asks for no repaint keeps pixels, resolution and selection if
and only if it is not `FN01` with planes other than the ones selected.

Everything but the last step is read off the frame of an instruction: what it
may paint or switch is among what repaints.

## Main definitions

* `Display.SameScreen`: Two displays agree on all that a host draws.
* `Machine.Reselects`: A word selects other planes.

## Theorems

* `Machine.sameScreen_iff`: When an instruction without a repaint keeps the
  screen.
* `redraw_sound_unless_reselected`: When a missing repaint can be relied on.
* `reselection_not_reported`: A change of the selection that is not reported.
-/

namespace ChipEight

/-- Two displays look the same to a host that draws them: they agree on every
    pixel of both planes, on the resolution and on the selection. -/
def Display.SameScreen (d after : Display) : Prop :=
  (∀ p x y, after.pixel p x y = d.pixel p x y) ∧
    after.resolution = d.resolution ∧ after.selection = d.selection

namespace Instruction

theorem repaints_of_paints {i : Instruction} (painted : i.Paints) : i.repaints = true := by
  cases i with
  | clearScreen | scrollRight | scrollLeft | scrollDown | scrollUp | draw => rfl
  | _ => exact painted.elim

end Instruction

namespace Machine

variable {m : Machine} {i : Instruction}

/-- What is not repainted keeps its pixels and its resolution. -/
theorem pixels_of_not_repainted (quiet : i.repaints = false) (p : Plane) (x y : Nat) :
    (m.perform i).2.display.pixel p x y = m.display.pixel p x y := by
  by_contra changed
  have hpaint := Instruction.repaints_of_paints ((m.perform_frame i).pixels p x y changed)
  rw [quiet] at hpaint
  exact Bool.false_ne_true hpaint

theorem resolution_of_not_repainted (quiet : i.repaints = false) :
    (m.perform i).2.display.resolution = m.display.resolution := by
  by_contra changed
  rcases (m.perform_frame i).resolution changed with rfl | rfl
  · exact Bool.false_ne_true quiet.symm
  · exact Bool.false_ne_true quiet.symm

/-- An instruction that asks for no repaint leaves the screen as it was, unless
    it selects other planes. -/
theorem sameScreen_iff (quiet : i.repaints = false) :
    m.display.SameScreen (m.perform i).2.display ↔
      ¬ ∃ n, i = .selectPlanes n ∧ Selection.ofBits n.val ≠ m.display.selection := by
  constructor
  · rintro ⟨-, -, same⟩ ⟨n, rfl, other⟩
    exact other same
  · intro kept
    refine ⟨pixels_of_not_repainted quiet, resolution_of_not_repainted quiet, ?_⟩
    by_contra changed
    rcases (m.perform_frame i).selection changed with ⟨n, rfl⟩
    exact kept ⟨n, rfl, changed⟩

theorem execute_redraw (m : Machine) (w : Word) :
    (m.execute w).1.effect.redraw = (Instruction.decode w).repaints :=
  congrArg Effect.redraw (m.perform_effect (.decode w))

/-- Whether a word selects planes other than the ones selected now. -/
def Reselects (m : Machine) (w : Word) : Prop :=
  ∃ n, w = .ofDigits 0xF n 0x0 0x1 ∧ Selection.ofBits n.val ≠ m.display.selection

theorem reselects_iff (m : Machine) (w : Word) :
    m.Reselects w ↔
      ∃ n, Instruction.decode w = .selectPlanes n ∧
        Selection.ofBits n.val ≠ m.display.selection := by
  have hword : ∀ n, w = .ofDigits 0xF n 0x0 0x1 ↔ Instruction.decode w = .selectPlanes n := by
    intro n
    rw [Instruction.decode_eq_iff w (.selectPlanes n) trivial, Instruction.word, eq_comm]
  simp only [Reselects, hword]

theorem execute_sameScreen_iff (m : Machine) (w : Word) :
    ((m.execute w).1.effect.redraw = false → m.display.SameScreen (m.execute w).2.display) ↔
      ¬ m.Reselects w := by
  rw [execute_redraw, reselects_iff]
  constructor
  · rintro sound ⟨n, hn, other⟩
    -- Selecting planes never asks for a repaint, so the promise applies to it.
    have quiet : (Instruction.decode w).repaints = false := by
      rw [hn]
      rfl
    exact (sameScreen_iff quiet).mp (sound quiet) ⟨n, hn, other⟩
  · intro kept quiet
    exact (sameScreen_iff quiet).mpr kept

end Machine

/-- An instruction that asks for no repaint changes no pixel and not the
    resolution. It leaves the selection alone as well exactly when it is not
    `FN01` with planes other than the ones selected: that one changes the
    selection and does not say so. A step of a console is no different. -/
theorem redraw_sound_unless_reselected (m : Machine) (w : Word) (c : Console) :
    ((m.execute w).1.effect.redraw = false →
      (∀ p x y, (m.execute w).2.display.pixel p x y = m.display.pixel p x y) ∧
        (m.execute w).2.display.resolution = m.display.resolution) ∧
    (((m.execute w).1.effect.redraw = false → m.display.SameScreen (m.execute w).2.display) ↔
      ¬ m.Reselects w) ∧
    ((c.step.1.effect.redraw = false →
        c.machine.display.SameScreen c.step.2.machine.display) ↔
      ¬ c.machine.Reselects c.machine.nextWord) := by
  refine ⟨?_, m.execute_sameScreen_iff w, c.machine.fetched.execute_sameScreen_iff _⟩
  intro quiet
  rw [Machine.execute_redraw] at quiet
  exact ⟨Machine.pixels_of_not_repainted quiet, Machine.resolution_of_not_repainted quiet⟩

/-- `F201` selects plane B where plane A was selected, and asks for no
    repaint. -/
theorem reselection_not_reported :
    ¬ ∀ (m : Machine) (w : Word), (m.execute w).1.effect.redraw = false →
      m.display.SameScreen (m.execute w).2.display := by
  intro sound
  have h := (sound (Console.new {} 0).machine 0xF201 rfl).2.2
  exact absurd h (by decide)

end ChipEight
