import ChipEight.Proofs.Display.Respect
import ChipEight.Proofs.Machine.Step

/-!
# The Same Machine with Another Display

What becomes of an instruction if the display is exchanged.

The display is where instructions leave marks and almost never what they
decide by. Only two things about it come back: a drawing tells whether it hit
a lit pixel, and a scroll names the selected planes in its detail. If another
display agrees on both, the instruction does to the rest of the machine what
it did before and tells the same (`Machine.perform_withDisplay`).

Together with a relation that drawing respects this turns into a statement
about whole machines. Two that differ in related displays have equal records
and still differ in related displays after the instruction. Switching the
resolution is left to the relation at hand: it changes which pixels are in
use, and with it what the two displays have to agree on.

## Main definitions

* `Machine.withDisplay`: A machine with another display.
* `Instruction.resolution?`: The resolution an instruction switches to.

## Theorems

* `Machine.perform_withDisplay`: An instruction on another display.
* `Machine.drawPlanes_related`: Drawing a sprite on related displays.
* `Instruction.displayAfter_related`: What becomes of related displays.
* `Machine.step_related`: A step on related displays.
-/

namespace ChipEight

namespace Instruction

/-- The resolution that an instruction switches to. -/
def resolution? : Instruction → Option Resolution
  | standardResolution => some .standard
  | extendedResolution => some .extended
  | _ => none

theorem eq_of_resolution?_extended {i : Instruction} (switch : i.resolution? = some .extended) :
    i = .extendedResolution := by
  cases i with
  | extendedResolution => rfl
  | _ => cases switch

end Instruction

namespace Machine

/-- A machine with another display. -/
def withDisplay (m : Machine) (d : Display) : Machine :=
  { m with display := d }

/-- An instruction on another display that shows the same selection and would
    be hit by the same sprites: nothing but the display comes out differently.
    Most cases hold by computation, and the instructions with several endings
    do so as single records. -/
theorem perform_withDisplay (m : Machine) {d : Display} (i : Instruction)
    (selection : d.selection = m.display.selection)
    (hits : ∀ x y rows,
      (drawPlanes m.memory d x y rows).1 = (drawPlanes m.memory m.display x y rows).1) :
    (m.withDisplay d).perform i =
      ((m.perform i).1, (m.perform i).2.withDisplay (i.displayAfter (m.withDisplay d))) := by
  cases i with
  | ret =>
      rw [perform, perform, ret_eq, ret_eq]
      rfl
  | skipIfByte | skipUnlessByte | skipIfSame | skipUnlessSame =>
      rw [perform, perform, skipOn, skipOn, skipIf_eq, skipIf_eq]
      rfl
  | skipIfKey | skipUnlessKey =>
      rw [perform, perform, skipOnKey, skipOnKey, skipIf_eq, skipIf_eq]
      rfl
  | subtract | subtractFrom =>
      rw [perform, perform, difference_eq, difference_eq]
      rfl
  | awaitKey =>
      rw [perform, perform, awaitKey_eq, awaitKey_eq]
      rfl
  | scrollRight | scrollLeft | scrollDown | scrollUp =>
      have hplanes : Outcome.redraw (.planes d.selection) =
          .redraw (.planes m.display.selection) := by
        rw [selection]
      exact congrArg (Prod.mk · _) hplanes
  | draw x y n =>
      -- The registers are the same, so both sprites are drawn at the same place.
      have hhit : (drawPlanes (m.withDisplay d).memory (m.withDisplay d).display
            ((m.withDisplay d).reg x).toNat ((m.withDisplay d).reg y).toNat n.val).1 =
          (drawPlanes m.memory m.display (m.reg x).toNat (m.reg y).toNat n.val).1 :=
        hits (m.reg x).toNat (m.reg y).toNat n.val
      simp only [perform, draw, hhit]
      rfl
  | _ => rfl

variable {R : Display → Display → Prop} {d e : Display}

/-- A sprite hits the same on related displays, over all selected planes. The
    displays are related again after each plane, and what was hit before is
    carried along. -/
theorem drawPlanes_related (respected : Display.Respected R) (related : R d e) (m : Memory)
    (x y rows : Nat) :
    (drawPlanes m e x y rows).1 = (drawPlanes m d x y rows).1 ∧
      R (drawPlanes m d x y rows).2 (drawPlanes m e x y rows).2 := by
  unfold drawPlanes
  rw [respected.selection related]
  refine List.foldl_rel (r := fun s t : Bool × Display => t.1 = s.1 ∧ R s.2 t.2)
    ⟨rfl, related⟩ ?_
  rintro ⟨p, turn⟩ - ⟨hit, d'⟩ ⟨hit', e'⟩ ⟨same, h⟩
  have hsprite := respected.drawSprite h p x y (spriteRows m turn rows)
  simp only at same ⊢
  rw [same, hsprite.1]
  exact ⟨rfl, hsprite.2⟩

end Machine

/-- What becomes of related displays is related, given that a switch of the
    resolution keeps them so. -/
theorem Instruction.displayAfter_related {R : Display → Display → Prop} {e : Display}
    (respected : Display.Respected R) {m : Machine} {i : Instruction} (related : R m.display e)
    (switch : ∀ r, i.resolution? = some r →
      R { m.display with resolution := r } { e with resolution := r }) :
    R (i.displayAfter m) (i.displayAfter (m.withDisplay e)) := by
  cases i with
  | clearScreen => exact respected.clear related
  | scrollRight =>
      exact respected.scroll related (fun r => r.reach Display.horizontalScroll) (fun _ => 0)
  | scrollLeft =>
      exact respected.scroll related (fun r => -r.reach Display.horizontalScroll) (fun _ => 0)
  | scrollDown n => exact respected.scroll related (fun _ => 0) (fun r => r.reach (.ofNat n.val))
  | scrollUp n => exact respected.scroll related (fun _ => 0) (fun r => -r.reach (.ofNat n.val))
  | standardResolution | extendedResolution => exact switch _ rfl
  | draw x y n => exact (Machine.drawPlanes_related respected related m.memory _ _ n.val).2
  | selectPlanes n => exact respected.select related _
  | _ => exact related

namespace Machine

/-- A step on related displays gives the same record, and leaves machines that
    differ in nothing but related displays. -/
theorem step_related {R : Display → Display → Prop} {e : Display}
    (respected : Display.Respected R) {m : Machine} (related : R m.display e)
    (switch : ∀ r, m.next.resolution? = some r →
      R { m.display with resolution := r } { e with resolution := r }) :
    (m.withDisplay e).step.1 = m.step.1 ∧
      ∃ e', R m.step.2.display e' ∧ (m.withDisplay e).step.2 = m.step.2.withDisplay e' := by
  have hperform := m.fetched.perform_withDisplay m.next (respected.selection related)
    (fun x y rows => (drawPlanes_related respected related m.fetched.memory x y rows).1)
  have hdisplay : m.step.2.display = m.next.displayAfter m.fetched := by
    rw [step_eq, perform_eq]
  have hstep : (m.withDisplay e).step = (m.step.1,
      m.step.2.withDisplay (m.next.displayAfter (m.fetched.withDisplay e))) := by
    rw [step_eq_perform, step_eq_perform]
    -- Fetching and decoding do not look at the display.
    change ((Decoded.ofWord m.dialect m.nextWord).withOutcome
        ((m.fetched.withDisplay e).perform m.next).1,
      ((m.fetched.withDisplay e).perform m.next).2) = _
    rw [hperform]
  have hrelated : R m.step.2.display (m.next.displayAfter (m.fetched.withDisplay e)) := by
    rw [hdisplay]
    exact Instruction.displayAfter_related (m := m.fetched) (e := e) respected related switch
  rw [hstep]
  exact ⟨rfl, _, hrelated, rfl⟩

end Machine

end ChipEight
