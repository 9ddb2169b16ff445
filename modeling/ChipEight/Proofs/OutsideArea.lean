import ChipEight.Proofs.Console.Lockstep
import ChipEight.Proofs.Encoding
import ChipEight.Proofs.Machine.OtherDisplay

/-!
# Beyond the Standard Area

The planes keep their full size in standard resolution, and whatever was drawn
in extended resolution stays there, beyond the area in use. None of it comes
back: as long as no program switches to extended resolution, two consoles that
differ out there cannot be told apart.

Sprites wrap around the active area and scrolls stay within it, so for them the
relation `Display.SameInside` is one that drawing respects by its very
conditions. Clearing is the exception. It goes over the planes in full and
toggles different cells on the two displays. `Display.sameInside_toggleAll_filter`
is what settles it: the cells outside may be struck from the list of those to
toggle, and the cells inside are the same for both.

Loading a program ends the matter rather than continuing it. The settings may
ask for extended resolution, and the relation would be lost if the displays
still differed; but both are replaced by the same empty one, so that the two
consoles are equal from then on.

## Main definitions

* `Display.SameInside`, `Console.SameInside`: Equal but for pixels and fading
  cells outside the standard area.

## Theorems

* `Display.sameInside_toggle_of_outside`: Toggling outside changes nothing
  inside.
* `Display.respected_sameInside`: Drawing in standard resolution respects the
  standard area.
* `Console.lockstep_sameInside`: So does every event but a switch to extended
  resolution.
* `outside_never_leaks_back`: Consoles that differ outside report the same and
  look the same.
-/

namespace ChipEight

namespace Display

/-- Two displays differ at most in pixels and fading cells outside the standard
    area. -/
structure SameInside (d e : Display) : Prop where
  modes : e.modes = d.modes
  pixel : ∀ p x y, x < 64 → y < 32 → e.pixel p x y = d.pixel p x y
  fade : ∀ x y, x < 64 → y < 32 → e.fade.get x y = d.fade.get x y

namespace SameInside

variable {d e f : Display}

theorem refl (d : Display) : d.SameInside d :=
  ⟨rfl, fun _ _ _ _ _ => rfl, fun _ _ _ _ => rfl⟩

theorem symm (same : d.SameInside e) : e.SameInside d :=
  ⟨same.modes.symm, fun p x y hx hy => (same.pixel p x y hx hy).symm,
    fun x y hx hy => (same.fade x y hx hy).symm⟩

theorem trans (first : d.SameInside e) (second : e.SameInside f) : d.SameInside f where
  modes := second.modes.trans first.modes
  pixel p x y hx hy := (second.pixel p x y hx hy).trans (first.pixel p x y hx hy)
  fade x y hx hy := (second.fade x y hx hy).trans (first.fade x y hx hy)

/-- Toggling changes at most one pixel and one fading cell, and if these lie
    inside, it looks at nothing outside either. -/
theorem toggle (same : d.SameInside e) (p : Plane) (x y : Nat) :
    (d.toggle p x y).SameInside (e.toggle p x y) where
  modes := by
    rw [modes_toggle, modes_toggle, same.modes]
  pixel q x' y' hx hy := by
    rw [pixel_toggle, pixel_toggle, same.pixel q x' y' hx hy]
  fade x' y' hx hy := by
    rw [fade_toggle, fade_toggle, same.fade x' y' hx hy]
    have hfading : e.fading = d.fading := congrArg Modes.fading same.modes
    by_cases struck : x % planeWidth = x' % planeWidth ∧ y % planeHeight = y' % planeHeight
    · -- The grid is seeded if the pixel was lit, and that pixel lies inside.
      have hlit : e.pixel p x y = d.pixel p x y := by
        rw [pixel_wrapped struck.1 struck.2, pixel_wrapped struck.1 struck.2,
          same.pixel p x' y' hx hy]
      rw [hfading, hlit]
    · rw [if_neg (fun h => struck h.2.2), if_neg (fun h => struck h.2.2)]

end SameInside

/-! ### Clearing -/

/-- Whether a cell lies within the standard area. -/
def within (cell : Nat × Nat) : Bool :=
  decide (cell.1 < 64 ∧ cell.2 < 32)

/-- Toggling a cell outside changes nothing inside. The cell must lie on the
    plane, since coordinates beyond it would wrap back inside. -/
theorem sameInside_toggle_of_outside (d : Display) (p : Plane) {cell : Nat × Nat}
    (onPlane : cell ∈ Resolution.extended.cells) (outside : within cell = false) :
    d.SameInside (d.toggle p cell.1 cell.2) := by
  rcases Resolution.mem_cells.mp onPlane with ⟨hcolumn, hrow⟩
  -- A cell inside is another one, also after wrapping.
  have hother : ∀ x y, x < 64 → y < 32 →
      ¬ (cell.1 % planeWidth = x % planeWidth ∧ cell.2 % planeHeight = y % planeHeight) := by
    intro x y hx hy
    have hout : ¬ (cell.1 < 64 ∧ cell.2 < 32) := of_decide_eq_false outside
    simp only [Resolution.width, Resolution.height, planeWidth, planeHeight] at hcolumn hrow ⊢
    omega
  constructor
  case modes => exact modes_toggle d p cell.1 cell.2
  case pixel =>
    intro q x y hx hy
    rw [pixel_toggle, if_neg (fun h => hother x y hx hy h.2)]
  case fade =>
    intro x y hx hy
    rw [fade_toggle, if_neg (fun h => hother x y hx hy h.2.2)]

/-- As far as the standard area goes, the cells outside need not be toggled. -/
theorem sameInside_toggleAll_filter (d : Display) (p : Plane) (cells : List (Nat × Nat))
    (onPlane : ∀ cell ∈ cells, cell ∈ Resolution.extended.cells) :
    (d.toggleAll p (cells.filter within)).SameInside (d.toggleAll p cells) := by
  induction cells generalizing d with
  | nil => exact .refl d
  | cons cell rest ih =>
      rcases List.forall_mem_cons.mp onPlane with ⟨hcell, hrest⟩
      cases hwithin : within cell with
      | true =>
          rw [List.filter_cons_of_pos hwithin]
          exact ih (d.toggle p cell.1 cell.2) hrest
      | false =>
          rw [List.filter_cons_of_neg (by rw [hwithin]; exact Bool.false_ne_true)]
          have htoggle := d.sameInside_toggle_of_outside p hcell hwithin
          exact (ih d hrest).trans (toggleAll_related SameInside.toggle htoggle p rest)

theorem mem_litCells {d : Display} {p : Plane} {cell : Nat × Nat} (lit : cell ∈ d.litCells p) :
    cell ∈ Resolution.extended.cells :=
  List.mem_of_mem_filter lit

/-- The lit cells of a plane are the same inside. -/
theorem SameInside.litCells {d e : Display} (same : d.SameInside e) (p : Plane) :
    (e.litCells p).filter within = (d.litCells p).filter within := by
  rw [Display.litCells, Display.litCells, List.filter_filter, List.filter_filter]
  apply List.filter_congr
  intro cell _
  cases hwithin : within cell with
  | false => rfl
  | true =>
      have hinside : cell.1 < 64 ∧ cell.2 < 32 := of_decide_eq_true hwithin
      rw [same.pixel p cell.1 cell.2 hinside.1 hinside.2]

/-- Turning off all lit cells of a plane: the lists differ outside alone. -/
theorem SameInside.toggleLit {d e : Display} (same : d.SameInside e) (p : Plane) :
    (d.toggleAll p (d.litCells p)).SameInside (e.toggleAll p (e.litCells p)) := by
  have hd := d.sameInside_toggleAll_filter p (d.litCells p) fun _ => mem_litCells
  have he := e.sameInside_toggleAll_filter p (e.litCells p) fun _ => mem_litCells
  have hinside := toggleAll_related SameInside.toggle same p ((d.litCells p).filter within)
  rw [same.litCells p] at he
  exact (hd.symm.trans hinside).trans he

theorem SameInside.clear {d e : Display} (same : d.SameInside e) : d.clear.SameInside e.clear :=
  (same.toggleLit .a).toggleLit .b

/-- Drawing in standard resolution respects the standard area. -/
theorem respected_sameInside :
    Respected fun d e => d.resolution = .standard ∧ d.SameInside e where
  resolution h := congrArg Modes.resolution h.2.modes
  selection h := congrArg Modes.selection h.2.modes
  pixel := by
    rintro d e ⟨standard, same⟩ p x y hx hy
    rw [width, standard] at hx
    rw [height, standard] at hy
    exact same.pixel p x y hx hy
  toggle := by
    rintro d e ⟨standard, same⟩ p x y
    have hresolution := congrArg Modes.resolution (modes_toggle d p x y)
    exact ⟨hresolution.trans standard, same.toggle p x y⟩
  clear := by
    rintro d e ⟨standard, same⟩
    have hresolution := congrArg Modes.resolution (modes_clear d)
    exact ⟨hresolution.trans standard, same.clear⟩
  select := by
    rintro d e ⟨standard, same⟩ s
    have hmodes := congrArg (fun m : Modes => { m with selection := s }) same.modes
    exact ⟨standard, hmodes, same.pixel, same.fade⟩
  snapshot := by
    rintro d e ⟨standard, same⟩ s
    have hmodes := congrArg (fun m : Modes => { m with lastSprite := s }) same.modes
    exact ⟨standard, hmodes, same.pixel, same.fade⟩

theorem SameInside.tickFade {d e : Display} (same : d.SameInside e) :
    d.tickFade.SameInside e.tickFade where
  modes := same.modes
  pixel := same.pixel
  fade x y hx hy := by
    have hfading : e.fading = d.fading := congrArg Modes.fading same.modes
    simp only [Display.tickFade, Grid.get_map, hfading, same.fade x y hx hy]

end Display

/-! ### Consoles -/

namespace Console

/-- Two consoles differ at most in pixels and fading cells outside the standard
    area. -/
def SameInside (c d : Console) : Prop :=
  ∃ display, c.machine.display.SameInside display ∧
    d = { c with machine := { c.machine with display := display } }

/-- What is kept while no step switches to extended resolution: the consoles
    are equal, or they are in standard resolution and differ outside alone. -/
def Inseparable (c d : Console) : Prop :=
  d = c ∨ c.machine.display.resolution = .standard ∧ c.SameInside d

theorem Inseparable.sameInside {c d : Console} (inseparable : c.Inseparable d) :
    c.SameInside d := by
  rcases inseparable with rfl | ⟨-, same⟩
  · exact ⟨_, .refl _, rfl⟩
  · exact same

theorem Inseparable.render {c d : Console} (inseparable : c.Inseparable d) :
    d.render = c.render := by
  rcases inseparable with rfl | ⟨standard, display, same, rfl⟩
  · rfl
  · exact Display.respected_sameInside.render ⟨standard, same⟩

/-- The only word that switches to extended resolution is `00FF`. -/
theorem standard_of_switch {c : Console} {r : Resolution} (allowed : c.step.1.word ≠ 0x00FF)
    (switch : c.machine.next.resolution? = some r) : r = .standard := by
  cases r with
  | standard => rfl
  | extended =>
      have hnext : Instruction.decode c.machine.nextWord = .extendedResolution :=
        Instruction.eq_of_resolution?_extended switch
      rw [Instruction.decode_eq_iff _ .extendedResolution trivial] at hnext
      exact absurd hnext.symm allowed

/-- Every event keeps consoles inseparable, and their steps report the same, as
    long as they do not execute `00FF`. -/
theorem lockstep_sameInside :
    Lockstep Inseparable (fun r => r.word ≠ 0x00FF) Eq where
  step := by
    rintro c d (rfl | ⟨standard, display, same, rfl⟩) allowed
    · exact ⟨rfl, .inl rfl⟩
    · have hswitch : ∀ r, c.machine.next.resolution? = some r →
          ({ c.machine.display with resolution := r } : Display).resolution = .standard ∧
            Display.SameInside { c.machine.display with resolution := r }
              { display with resolution := r } := by
        intro r switch
        have hr : r = .standard := standard_of_switch allowed switch
        have hmodes := congrArg (fun m : Modes => { m with resolution := r }) same.modes
        exact ⟨hr, hmodes, same.pixel, same.fade⟩
      rcases Machine.step_related Display.respected_sameInside ⟨standard, same⟩ hswitch with
        ⟨hrecord, display', ⟨hstandard, hsame⟩, hmachine⟩
      refine ⟨hrecord.symm, .inr ⟨hstandard, display', hsame, ?_⟩⟩
      exact congrArg (fun machine => { c with machine := machine }) hmachine
  idle := by
    rintro c d (rfl | ⟨standard, display, same, rfl⟩) e running
    · exact .inl rfl
    · cases e with
      | step => exact absurd rfl running
      | tick => exact .inr ⟨standard, _, same.tickFade, rfl⟩
      | keys | setDialect => exact .inr ⟨standard, _, same, rfl⟩
      | setFading fading =>
          have hmodes := congrArg (fun m : Modes => { m with fading := fading }) same.modes
          have hsame : Display.SameInside { c.machine.display with fading := fading }
              { display with fading := fading } := ⟨hmodes, same.pixel, same.fade⟩
          exact .inr ⟨standard, _, hsame, rfl⟩
      | load bytes =>
          have hbefore : c.Inseparable
              { c with machine := { c.machine with display := display } } :=
            .inr ⟨standard, display, same, rfl⟩
          -- Both displays give way to the same empty one.
          exact related_load hbefore (fun _ => .inl rfl) bytes

end Console

/-- Two consoles in standard resolution that differ at most in pixels and
    fading cells outside the standard area go on differing there alone and look
    the same after every event of a history, and their steps report the same,
    as long as none of the steps executes `00FF`. -/
theorem outside_never_leaks_back {c d : Console} (same : c.SameInside d)
    (standard : c.machine.display.resolution = .standard) {history : List Console.Event}
    (never : ∀ r ∈ c.records history, r.word ≠ 0x00FF) :
    d.records history = c.records history ∧
      ∀ n, (c.replay (history.take n)).SameInside (d.replay (history.take n)) ∧
        (d.replay (history.take n)).render = (c.replay (history.take n)).render := by
  have hinseparable : c.Inseparable d := .inr ⟨standard, same⟩
  constructor
  · have hrecords := (Console.lockstep_sameInside.replay hinseparable never).2
    rw [List.forall₂_eq_eq_eq] at hrecords
    exact hrecords.symm
  · intro n
    have hnever : ∀ r ∈ c.records (history.take n), r.word ≠ 0x00FF :=
      fun r hr => never r (Console.mem_records_of_mem_take hr)
    have hreplay := (Console.lockstep_sameInside.replay hinseparable hnever).1
    exact ⟨hreplay.sameInside, hreplay.render⟩

namespace Console

/-- A console whose program scrolls right and up and then clears the screen. -/
def clearing : Console :=
  (Console.new {} 0).replay [.load [0x00, 0xFB, 0x00, 0xD2, 0x00, 0xE0]]

/-- The same console with a pixel on beyond the standard area. -/
def clearingStray : Console :=
  { clearing with machine := { clearing.machine with
    display := clearing.machine.display.toggle .a 100 50 } }

/-- The program in full, with time passing before the screen is cleared. -/
def clearingRun : List Event :=
  [.step, .step, .tick, .step]

end Console

open Console in
/-- The stray pixel makes no difference to a program that scrolls and clears. -/
theorem outside_never_leaks_back_when_clearing :
    clearing.SameInside clearingStray ∧
      clearing.machine.display.resolution = .standard ∧
      (∀ r ∈ clearing.records clearingRun, r.word ≠ 0x00FF) ∧
      clearingStray.machine.display.pixel .a 100 50 ≠ clearing.machine.display.pixel .a 100 50 ∧
      clearingStray.records clearingRun = clearing.records clearingRun ∧
      ∀ n, (clearing.replay (clearingRun.take n)).SameInside
          (clearingStray.replay (clearingRun.take n)) ∧
        (clearingStray.replay (clearingRun.take n)).render =
          (clearing.replay (clearingRun.take n)).render := by
  have honPlane : (100, 50) ∈ Resolution.extended.cells := Resolution.mem_cells.mpr (by decide)
  have same : clearing.SameInside clearingStray :=
    ⟨_, clearing.machine.display.sameInside_toggle_of_outside .a honPlane rfl, rfl⟩
  have standard : clearing.machine.display.resolution = .standard := by decide +kernel
  have never : ∀ r ∈ clearing.records clearingRun, r.word ≠ 0x00FF := by decide +kernel
  have hdiffer : clearingStray.machine.display.pixel .a 100 50 ≠
      clearing.machine.display.pixel .a 100 50 := by
    rw [clearingStray, Display.pixel_toggle, if_pos ⟨rfl, rfl, rfl⟩]
    exact Bool.not_not_eq.mpr rfl
  rcases outside_never_leaks_back same standard never with ⟨hrecords, hlater⟩
  exact ⟨same, standard, never, hdiffer, hrecords, hlater⟩

end ChipEight
