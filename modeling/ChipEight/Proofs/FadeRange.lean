import ChipEight.Proofs.Consistency
import ChipEight.Proofs.Machine.OtherDisplay
import ChipEight.Proofs.Single.Differences

/-!
# The Range of the Fade Grid

A cell of the fade grid is a number between zero and the ceiling, and time makes none
of them larger.

Cells are written in two ways. A pixel that goes out sets its cell to the ceiling,
and a tick takes the speed away from every cell above zero. The first is harmless
wherever it happens; since whatever is drawn comes down to turning over pixels, a
property of the grid that one of these keeps is kept by every step
(`Machine.fade_step`). The second is harmless only if the speed is not below zero, for
a cell would rise without end otherwise. So a host has to choose such speeds, but
among them it may choose as it likes. An infinite speed ends every fade at once, and
so does one that is not a number, because nothing is left that could be compared with
zero.

Cells are never negative zero. A cell that is zero is left alone by a tick, so that the
sign would stay, and it is because none is ever written that zero can be told by its
bits (`Single.Faint.eq_zero`).

## Main definitions

* `Fading.Falls`: The speed is not below zero.
* `Single.Faint`: A number between positive zero and the ceiling.
* `Console.Fades`: The grid is in range and the speed keeps it there.

## Theorems

* `Display.decay_atMost`, `Display.decay_of_isNaN`: What a tick makes of a cell.
* `Machine.fade_step`: A step keeps what turning over a pixel keeps.
* `Console.Fades.after`, `Console.Fades.replay`: So do all events, if no speed below
  zero is chosen.
* `Console.mem_of_mem_history`: The speeds chosen over a history are those the host
  chose.
* `fades_stay_in_range`: The grid stays in range.
-/

namespace ChipEight

/-- The speed is not below zero. It may be negative zero, infinite or not a number. -/
def Fading.Falls (f : Fading) : Prop :=
  Single.lt f.speed .zero = false

/-! ### Cells -/

/-- A number between positive zero and the ceiling. -/
structure Single.Faint (a : Single) : Prop where
  unsigned : a.isNegative = false
  le : a.AtMost fadeCeiling

namespace Single.Faint

variable {a : Single}

theorem zero : Single.zero.Faint :=
  ⟨rfl, by decide⟩

theorem ceiling : fadeCeiling.Faint :=
  ⟨by decide, by decide⟩

theorem zero_atMost (faint : a.Faint) : Single.zero.AtMost a := by
  refine ⟨rfl, faint.le.1, ?_⟩
  rw [rank_of_unsigned faint.unsigned]
  exact Int.natCast_nonneg _

theorem isFinite (faint : a.Faint) : a.isFinite = true := by
  have hle := faint.le.2.2
  have hceiling : fadeCeiling.rank < infinityBits := by decide
  rw [rank_of_unsigned faint.unsigned] at hle
  exact decide_eq_true (by omega)

/-- Without a sign there is only one zero. -/
theorem eq_zero (faint : a.Faint) (dark : lt .zero a = false) : a = .zero := by
  have hrank : ¬0 < a.rank := by
    rw [← rank_pos_iff faint.le.1, dark]
    exact Bool.false_ne_true
  have hsmall : a.bits.toNat < 0x80000000 := Nat.not_le.mp (of_decide_eq_false faint.unsigned)
  rw [rank_of_unsigned faint.unsigned, magnitude] at hrank
  have hbits : a.bits = 0 := UInt32.toNat_inj.mp (by rw [UInt32.toNat_zero]; omega)
  cases a
  exact congrArg Single.mk hbits

end Single.Faint

namespace Display

variable {speed cell : Single}

/-- Time makes no cell larger. -/
theorem decay_atMost (faint : cell.Faint) (falls : Single.lt speed .zero = false) :
    (decay speed cell).AtMost cell := by
  unfold decay
  split
  · rename_i positive
    cases hnumber : speed.isNaN with
    | true =>
        rw [Single.sub_of_isNaN hnumber]
        exact faint.zero_atMost
    | false =>
        exact Single.clampNegative_atMost
          (Single.sub_atMost faint.isFinite positive hnumber falls) positive
  · exact ⟨faint.le.1, faint.le.1, Int.le_refl _⟩

theorem faint_decay (faint : cell.Faint) (falls : Single.lt speed .zero = false) :
    (decay speed cell).Faint := by
  refine ⟨?_, (decay_atMost faint falls).trans faint.le⟩
  unfold decay
  split
  · exact Single.isNegative_clampNegative _
  · exact faint.unsigned

/-- Taking away what is no number leaves nothing. -/
theorem decay_of_isNaN (faint : cell.Faint) (nothing : speed.isNaN = true) :
    decay speed cell = .zero := by
  unfold decay
  split
  · rw [Single.sub_of_isNaN nothing]
    exact Single.clampNegative_of_isNaN rfl
  · rename_i dark
    exact faint.eq_zero (Bool.eq_false_iff.mpr dark)

/-! ### Steps -/

/-- A property of the fade grid that is kept when one pixel is turned over is respected
    by drawing. It is a relation here between a display and itself. -/
theorem respected_fade {P : Grid Single → Prop}
    (toggle : ∀ (d : Display) p x y, P d.fade → P (d.toggle p x y).fade) :
    Respected fun d e => d = e ∧ P d.fade where
  resolution := by
    rintro d _ ⟨rfl, -⟩
    rfl
  selection := by
    rintro d _ ⟨rfl, -⟩
    rfl
  pixel := by
    rintro d _ ⟨rfl, -⟩ p x y - -
    rfl
  toggle := by
    rintro d _ ⟨rfl, kept⟩ p x y
    exact ⟨rfl, toggle d p x y kept⟩
  clear := by
    rintro d _ ⟨rfl, kept⟩
    have hall : ∀ (d : Display) p cells, P d.fade → P (d.toggleAll p cells).fade := by
      intro d p cells kept
      exact (toggleAll_related (R := fun d e => d = e ∧ P d.fade)
        (fun h p x y => ⟨by rw [h.1], toggle _ p x y h.2⟩) ⟨rfl, kept⟩ p cells).2
    exact ⟨rfl, hall _ .b _ (hall d .a _ kept)⟩
  select := by
    rintro d _ ⟨rfl, kept⟩ s
    exact ⟨rfl, kept⟩
  snapshot := by
    rintro d _ ⟨rfl, kept⟩ s
    exact ⟨rfl, kept⟩

theorem faint_toggle (d : Display) (p : Plane) (x y : Nat)
    (faint : ∀ x y, (d.fade.get x y).Faint) (x' y' : Nat) :
    ((d.toggle p x y).fade.get x' y').Faint := by
  rw [fade_toggle]
  split
  · exact .ceiling
  · exact faint x' y'

end Display

namespace Machine

/-- A step does nothing to the fade grid but turn over pixels. -/
theorem fade_step {P : Grid Single → Prop}
    (toggle : ∀ (d : Display) p x y, P d.fade → P (d.toggle p x y).fade) {m : Machine}
    (kept : P m.display.fade) : P m.step.2.display.fade := by
  have hdisplay : m.step.2.display = m.next.displayAfter m.fetched := by
    rw [step_eq, perform_eq]
  rw [hdisplay]
  exact (Instruction.displayAfter_related (m := m.fetched) (e := m.display)
    (Display.respected_fade toggle) ⟨rfl, kept⟩ fun r _ => ⟨rfl, kept⟩).2

end Machine

/-! ### Consoles -/

namespace Console

/-- What a cell of the fade grid holds. -/
def fade (c : Console) (x y : Nat) : Single :=
  c.machine.display.fade.get x y

/-- The fade grid is in range, and the speed that was chosen keeps it there. -/
structure Fades (c : Console) : Prop where
  consistent : c.Consistent
  falls : c.settings.fading.Falls
  faint : ∀ x y, (c.fade x y).Faint

theorem fades_fresh {settings : Settings} (falls : settings.fading.Falls)
    (key : Vector UInt32 8) : (fresh settings key).Fades where
  consistent := consistent_fresh settings key
  falls := falls
  faint x y := by
    have hcell : (fresh settings key).fade x y = .zero := Grid.get_fill ..
    rw [hcell]
    exact .zero

theorem fade_tick {c : Console} (consistent : c.Consistent) (x y : Nat) :
    c.tick.fade x y = Display.decay c.settings.fading.speed (c.fade x y) := by
  rw [← consistent.fading]
  exact Grid.get_map ..

namespace Fades

variable {c : Console}

/-- Every event keeps the grid in range, unless it chooses a speed below zero. -/
theorem after (fades : c.Fades) {e : Event} (falls : ∀ f, e = .setFading f → f.Falls) :
    (c.after e).Fades := by
  have hconsistent := fades.consistent.after e
  cases e with
  | step =>
      refine ⟨hconsistent, fades.falls, ?_⟩
      exact Machine.fade_step (P := fun g => ∀ x y, (g.get x y).Faint) Display.faint_toggle
        fades.faint
  | tick =>
      refine ⟨hconsistent, fades.falls, fun x y => ?_⟩
      rw [Console.after, fade_tick fades.consistent]
      exact Display.faint_decay (fades.faint x y) fades.falls
  | keys | setDialect => exact ⟨hconsistent, fades.falls, fades.faint⟩
  | setFading f => exact ⟨hconsistent, falls f rfl, fades.faint⟩
  | load bytes =>
      rcases c.after_load bytes with ⟨rom, h⟩ | h
      · -- The new display is empty, and so is its fade grid.
        rw [h] at hconsistent ⊢
        refine ⟨hconsistent, fades.falls, fun x y => ?_⟩
        have hcell : (c.insert rom).fade x y = .zero := Grid.get_fill ..
        rw [hcell]
        exact .zero
      · rwa [h]

theorem replay (fades : c.Fades) {history : List Event}
    (falls : ∀ f, .setFading f ∈ history → f.Falls) : (c.replay history).Fades := by
  induction history generalizing c with
  | nil => exact fades
  | cons e rest ih =>
      refine ih (fades.after ?_) fun f later => falls f (List.mem_cons_of_mem e later)
      rintro f rfl
      exact falls f List.mem_cons_self

end Fades

/-! ### Histories -/

theorem setFading_not_mem_schedule (interval cycles : Nat) (f : Fading) :
    .setFading f ∉ schedule interval cycles := by
  intro member
  rcases List.mem_flatMap.mp member with ⟨k, -, hevent⟩
  unfold cycleEvents at hevent
  split at hevent <;> simp at hevent

/-- A fading that is chosen over a history was chosen by the host. -/
theorem mem_of_mem_history {c : Console} {actions : List Action} {f : Fading}
    (member : .setFading f ∈ c.history actions) : .setFading f ∈ actions := by
  induction actions generalizing c with
  | nil => cases member
  | cons a rest ih =>
      rw [history, List.mem_append] at member
      rcases member with hfirst | hrest
      · cases a with
        | setFading g =>
            have hsame : Event.setFading f = .setFading g := List.mem_singleton.mp hfirst
            rw [Event.setFading.injEq] at hsame
            rw [hsame]
            exact List.mem_cons_self
        | steps count => cases List.eq_of_mem_replicate hfirst
        | run cycles perTick => exact absurd hfirst (setFading_not_mem_schedule _ _ f)
        | explain | disassemble => cases hfirst
        | _ => cases List.mem_singleton.mp hfirst
      · exact List.mem_cons_of_mem a (ih hrest)

end Console

/-- A host begins a console and does anything to it, but never chooses a speed that is
    below zero. Then after every event on the way every cell of the fade grid is a
    number between zero and the ceiling, a tick makes none of them larger, and if the
    speed is not a number it makes all of them zero. -/
theorem fades_stay_in_range (settings : Settings) (key : Vector UInt32 8)
    {actions : List Console.Action} (start : settings.fading.Falls)
    (later : ∀ f, .setFading f ∈ actions → f.Falls) :
    let begun := Console.fresh settings key
    ∀ past, past <+: begun.history actions → ∀ x y,
      let c := begun.replay past
      Single.AtMost .zero (c.fade x y) ∧ (c.fade x y).AtMost fadeCeiling ∧
        (c.tick.fade x y).AtMost (c.fade x y) ∧
        (c.settings.fading.speed.isNaN = true → c.tick.fade x y = .zero) := by
  intro begun past reached x y c
  have fades : c.Fades :=
    (Console.fades_fresh start key).replay fun f member =>
      later f (Console.mem_of_mem_history (reached.subset member))
  have faint := fades.faint x y
  rw [Console.fade_tick fades.consistent]
  exact ⟨faint.zero_atMost, faint.le, Display.decay_atMost faint fades.falls,
    fun nothing => Display.decay_of_isNaN faint nothing⟩

namespace Console

/-- A console whose cells do not fade, by a speed of negative zero. -/
def unfading : Console :=
  fresh { fading := { speed := ⟨0x80000000⟩ } } (.replicate 8 0)

/-- A program that draws a row twice runs, and then the speed is set to something that
    is no number. -/
def flickering : List Action :=
  [.load [0xA0, 0x50, 0xD0, 0x01, 0xD0, 0x01], .run 3 9, .setFading { speed := .nan }]

end Console

open Console in
/-- The row that was erased is at the ceiling when the speed is set, and gone after the
    next tick. -/
theorem fades_stay_in_range_when_not_a_number :
    unfading.settings.fading.Falls ∧ (∀ f, .setFading f ∈ flickering → f.Falls) ∧
      (unfading.act flickering).fade 0 0 = fadeCeiling ∧
      ((unfading.act flickering).fade 0 0).AtMost fadeCeiling ∧
      (unfading.act flickering).tick.fade 0 0 = .zero := by
  have start : unfading.settings.fading.Falls := rfl
  have later : ∀ f, .setFading f ∈ flickering → f.Falls := by
    intro f member
    simp only [flickering, List.mem_cons, reduceCtorEq, false_or, List.not_mem_nil, or_false,
      Action.setFading.injEq] at member
    rw [member]
    rfl
  rcases fades_stay_in_range _ (.replicate 8 0) start later _ List.prefix_rfl 0 0 with
    ⟨-, hle, -, hnothing⟩
  rw [← act_eq_replay] at hle hnothing
  exact ⟨start, later, by decide +kernel, hle, hnothing (by decide +kernel)⟩

end ChipEight
