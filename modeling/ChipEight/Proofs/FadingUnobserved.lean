import ChipEight.Proofs.Console.Lockstep
import ChipEight.Proofs.Console.Requests
import ChipEight.Proofs.Machine.OtherDisplay

/-!
# Fading is for the Eye

The fade grid is written by every operation that erases a pixel and read by
none. Its cells are there for whoever draws the screen, and how fast they decay
is the business of the host alone.

So two consoles that differ in the fade grid and in the fading settings cannot
be told apart by anything else: not by a program, and not by a host that looks
at answers, records and the screen as text. The host may even give the two
different settings on the way. That the writes of the fade grid stand in
between the toggles of pixels is what makes this worth proving; the relation is
one that drawing respects because a toggle reads only the pixel it turns over
(`Display.SameButFading.toggle`).

## Main definitions

* `Display.SameButFading`, `Console.SameButFading`: Equal but for the fade grid
  and the fading settings.
* `Console.Request.SameButFading`: Equal but for the fading settings given.

## Theorems

* `Display.respected_sameButFading`: Drawing respects the relation.
* `Console.lockstep_sameButFading`: So does every event.
* `Console.sameButFading_following`: So does every request, with the same answer.
* `fading_never_observed`: Fading influences nothing but itself.
-/

namespace ChipEight

/-! ### Displays -/

namespace Display

/-- Two displays differ at most in the fade grid and the fading settings. -/
def SameButFading (d e : Display) : Prop :=
  ∃ fade fading, e = { d with fade := fade, fading := fading }

variable {d e : Display}

/-- Toggling turns a pixel over and touches the fade grid, and nothing about
    the pixel depends on the grid. -/
theorem toggle_eq (d : Display) (p : Plane) (x y : Nat) :
    d.toggle p x y = { d.setPixel p x y (!d.pixel p x y) with fade := (d.toggle p x y).fade } := by
  cases hlit : d.pixel p x y with
  | false =>
      rw [toggle, hlit, if_neg Bool.false_ne_true]
      rfl
  | true =>
      rw [toggle, hlit, if_pos rfl, seedFade]
      split
      · cases p <;> rfl
      · rfl

theorem SameButFading.toggle (same : d.SameButFading e) (p : Plane) (x y : Nat) :
    (d.toggle p x y).SameButFading (e.toggle p x y) := by
  rcases same with ⟨fade, fading, rfl⟩
  refine ⟨(Display.toggle { d with fade := fade, fading := fading } p x y).fade, fading, ?_⟩
  rw [toggle_eq, d.toggle_eq]
  cases p <;> rfl

theorem SameButFading.clear (same : d.SameButFading e) : d.clear.SameButFading e.clear := by
  have hplane : ∀ {d e : Display} p, d.SameButFading e →
      (d.toggleAll p (d.litCells p)).SameButFading (e.toggleAll p (e.litCells p)) := by
    intro d e p same
    have hlit : e.litCells p = d.litCells p := by
      rcases same with ⟨_, _, rfl⟩
      rfl
    rw [hlit]
    exact toggleAll_related SameButFading.toggle same p _
  exact hplane .b (hplane .a same)

/-- Drawing respects fading: it looks at no cell of the fade grid. -/
theorem respected_sameButFading : Respected SameButFading where
  resolution := by
    rintro d _ ⟨_, _, rfl⟩
    rfl
  selection := by
    rintro d _ ⟨_, _, rfl⟩
    rfl
  pixel := by
    rintro d _ ⟨_, _, rfl⟩ p x y - -
    rfl
  toggle := SameButFading.toggle
  clear := SameButFading.clear
  select := by
    rintro d _ ⟨fade, fading, rfl⟩ s
    exact ⟨fade, fading, rfl⟩
  snapshot := by
    rintro d _ ⟨fade, fading, rfl⟩ s
    exact ⟨fade, fading, rfl⟩

end Display

/-! ### Consoles -/

namespace Console

/-- Two consoles differ at most in the fade grid and in the fading settings, of
    the display and of the console. -/
def SameButFading (c d : Console) : Prop :=
  ∃ fading display, c.machine.display.SameButFading display ∧
    d = { settings := { c.settings with fading := fading }
          machine := { c.machine with display := display } }

variable {c d : Console}

theorem SameButFading.insert (same : c.SameButFading d) (rom : Rom) :
    (c.insert rom).SameButFading (d.insert rom) := by
  rcases same with ⟨fading, display, -, rfl⟩
  exact ⟨fading, _, ⟨_, fading, rfl⟩, rfl⟩

/-- The host may choose different fading for the two. -/
theorem SameButFading.setFading (same : c.SameButFading d) (f g : Fading) :
    (c.setFading f).SameButFading (d.setFading g) := by
  rcases same with ⟨_, _, ⟨fade, _, rfl⟩, rfl⟩
  exact ⟨g, _, ⟨fade, g, rfl⟩, rfl⟩

/-- Every event keeps consoles equal but for fading, and their steps report the
    same. -/
theorem lockstep_sameButFading : Lockstep SameButFading (fun _ => True) Eq where
  step := by
    rintro c d ⟨fading, display, same, rfl⟩ -
    have hswitch : ∀ r, c.machine.next.resolution? = some r →
        Display.SameButFading { c.machine.display with resolution := r }
          { display with resolution := r } := by
      intro r _
      rcases same with ⟨fade, fading, rfl⟩
      exact ⟨fade, fading, rfl⟩
    rcases Machine.step_related Display.respected_sameButFading same hswitch with
      ⟨hrecord, display', hsame, hmachine⟩
    refine ⟨hrecord.symm, fading, display', hsame, ?_⟩
    exact congrArg (Console.mk { c.settings with fading := fading }) hmachine
  idle := by
    intro c d same e running
    cases e with
    | step => exact absurd rfl running
    | tick =>
        rcases same with ⟨fading, _, ⟨fade, fading', rfl⟩, rfl⟩
        exact ⟨fading, _, ⟨_, fading', rfl⟩, rfl⟩
    | keys | setDialect =>
        rcases same with ⟨fading, display, hsame, rfl⟩
        exact ⟨fading, display, hsame, rfl⟩
    | setFading fading => exact same.setFading fading fading
    | load bytes => exact related_load same same.insert bytes

/-! ### Requests -/

/-- Two requests are the same, or both set the fading, each its own way. -/
inductive Request.SameButFading : Request → Request → Prop where
  | same (r : Request) : SameButFading r r
  | setFading (f g : Fading) : SameButFading (.event (.setFading f)) (.event (.setFading g))

theorem SameButFading.answer_event (same : c.SameButFading d) (e : Event) :
    d.answer (.event e) = c.answer (.event e) := by
  cases e with
  | step => exact congrArg Answer.record (lockstep_sameButFading.step same trivial).1.symm
  | keys operation =>
      rcases same with ⟨_, _, -, rfl⟩
      rfl
  | load bytes =>
      -- Whether a program is accepted is not a matter of the console.
      cases h : Rom.ofBytes bytes with
      | error => simp only [answer, load, h, Except.map]
      | ok => simp only [answer, load, h, Except.map]
  | _ => rfl

/-- A request keeps consoles equal but for fading, and is answered the same. -/
theorem sameButFading_following {r s : Request} (same : c.SameButFading d)
    (alike : r.SameButFading s) :
    d.answer s = c.answer r ∧ (c.following r).SameButFading (d.following s) := by
  cases alike with
  | setFading f g => exact ⟨rfl, same.setFading f g⟩
  | same r =>
      cases r with
      | event e =>
          have hafter := (lockstep_sameButFading.after same (e := e) fun _ _ => trivial).1
          exact ⟨same.answer_event e, hafter⟩
      | steps count =>
          have hsteps := lockstep_sameButFading.steps same count
          refine ⟨?_, hsteps.2⟩
          rw [answer, answer, hsteps.1]
      | run cycles perTick =>
          have hrun := lockstep_sameButFading.run same cycles perTick
          refine ⟨?_, hrun.console⟩
          rw [answer, answer, hrun.summary, hrun.trail]

theorem sameButFading_serve (same : c.SameButFading d) {requests requests' : List Request}
    (alike : List.Forall₂ Request.SameButFading requests requests') :
    d.answers requests' = c.answers requests ∧
      (c.serve requests).SameButFading (d.serve requests') := by
  induction alike generalizing c d with
  | nil => exact ⟨rfl, same⟩
  | cons first _ ih =>
      rcases sameButFading_following same first with ⟨hanswer, hfollowing⟩
      rcases ih hfollowing with ⟨hanswers, hserve⟩
      refine ⟨?_, hserve⟩
      rw [answers, answers, hanswer, hanswers]

/-- A host sees nothing of fading, unless it draws the fade grid itself. -/
theorem SameButFading.view (same : c.SameButFading d) : d.view = c.view := by
  have hscreen : d.render = c.render := by
    rcases same with ⟨_, _, hdisplay, rfl⟩
    exact Display.respected_sameButFading.render hdisplay
  rcases same with ⟨_, _, -, rfl⟩
  rw [Console.view, hscreen]
  rfl

end Console

/-- Two consoles that differ at most in the fade grid and in the fading settings
    are put through the same requests, except that each may be given fading
    settings of its own. Then all answers are the same, the consoles differ at
    most in fading afterwards, and a host that looks at them sees the same. -/
theorem fading_never_observed {c d : Console} (same : c.SameButFading d)
    {requests requests' : List Console.Request}
    (alike : List.Forall₂ Console.Request.SameButFading requests requests') :
    d.answers requests' = c.answers requests ∧
      (c.serve requests).SameButFading (d.serve requests') ∧
      (d.serve requests').view = (c.serve requests).view := by
  rcases Console.sameButFading_serve same alike with ⟨hanswers, hserve⟩
  exact ⟨hanswers, hserve, hserve.view⟩

/-- A host that loads a program which draws a row twice and waits for a key, runs
    a session, chooses a fading, lets time pass and presses a key. -/
def Console.blinking (fading : Fading) : List Console.Request :=
  [.event (.load [0xA0, 0x50, 0xD0, 0x01, 0xD0, 0x01, 0xF1, 0x0A]), .run 9 5,
    .event (.setFading fading), .event .tick, .event (.keys (.pressCode 'q')), .steps 1]

/-- A console as it comes, and one that was told not to fade. -/
def Console.fadeful : Console := .new {} 0

def Console.fadeless : Console := .new { fading := { enabled := false } } 0

open Console in
/-- After the session the row erased is in the fade grid of one of them alone,
    and the host cannot tell. -/
theorem fading_never_observed_when_blinking :
    fadeful.SameButFading fadeless ∧
      List.Forall₂ Request.SameButFading (blinking {}) (blinking { speed := .nan }) ∧
      (fadeful.serve ((blinking {}).take 2)).machine.display.fade.get 0 0 ≠
        (fadeless.serve ((blinking {}).take 2)).machine.display.fade.get 0 0 ∧
      fadeless.answers (blinking { speed := .nan }) = fadeful.answers (blinking {}) ∧
      (fadeful.serve (blinking {})).SameButFading
        (fadeless.serve (blinking { speed := .nan })) ∧
      (fadeless.serve (blinking { speed := .nan })).view =
        (fadeful.serve (blinking {})).view := by
  have same : fadeful.SameButFading fadeless := ⟨_, _, ⟨_, _, rfl⟩, rfl⟩
  have alike : List.Forall₂ Request.SameButFading (blinking {}) (blinking { speed := .nan }) :=
    .cons (.same _) (.cons (.same _) (.cons (.setFading _ _)
      (.cons (.same _) (.cons (.same _) (.cons (.same _) .nil)))))
  refine ⟨same, alike, ?_, fading_never_observed same alike⟩
  decide +kernel

end ChipEight
