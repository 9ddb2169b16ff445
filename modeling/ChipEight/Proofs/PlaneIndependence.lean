import ChipEight.Proofs.Display.Commands

/-!
# Planes Apart

What happens on one plane is no business of the other.

The planes share a resolution, a selection and a fade grid, and a command that
goes over both of them takes its cells from both. Still, what a command makes of
a plane depends on that plane, the resolution and the selection alone, and so
does its answer if it is for that plane. The strokes it makes elsewhere do not
matter, whatever they are (`Display.AgreeOn.strokes`).

So two displays that agree on a plane, the resolution and the selection go on
doing so, and a command that names the other plane may be given to one of them
and not to the other. It changes neither of the three. A sequence of commands
therefore comes to the same as the sequence without those
(`Display.AgreeOn.obeyAll_filter`), and two sequences that differ in nothing else
can be compared through what is left of them.

## Main definitions

* `Display.AgreeOn`: Two displays agree on a plane and on what all planes share.
* `Display.Command.plane?`: The plane that a command names.
* `Display.Command.concerns`: Whether a command may change a plane.
* `Display.obeyAll`, `Display.answersOn`: A sequence of commands, and what it is
  told about a plane.

## Theorems

* `Display.AgreeOn.obey`: Displays that agree on a plane go on doing so.
* `Display.AgreeOn.answer`: They answer the same for it.
* `Display.agreeOn_obey_of_not_concerns`: Commands for the other plane leave it
  alone.
* `Display.AgreeOn.obeyAll_filter`: Such commands may be left out.
* `Display.plane_clear`: Clearing empties both planes in full.
* `planes_independent`: All of this for sequences of commands.
-/

namespace ChipEight

namespace Display

/-- Two displays agree on a plane, and on the modes that say where drawing and
    scrolling take place. -/
structure AgreeOn (p : Plane) (d e : Display) : Prop where
  plane : d.plane p = e.plane p
  resolution : d.resolution = e.resolution
  selection : d.selection = e.selection

namespace Command

/-- The plane that a command names, if it is for one plane only. -/
def plane? : Command → Option Plane
  | .toggle p _ _ | .erase p _ _ | .drawSprite p _ _ _ => some p
  | _ => none

/-- Whether a command may change a plane: it names this plane or none. -/
def concerns (p : Plane) (c : Command) : Bool :=
  c.plane? = none ∨ c.plane? = some p

theorem not_concerns_iff {p : Plane} {c : Command} :
    c.concerns p = false ↔ ∃ q, c.plane? = some q ∧ q ≠ p := by
  unfold concerns
  cases c.plane? <;> simp

theorem plane_of_mem_strokes {d : Display} {c : Command} {q : Plane} (named : c.plane? = some q)
    {s : Stroke} (hs : s ∈ c.strokes d) : s.plane = q := by
  cases c with
  | toggle p x y =>
      rw [plane?, Option.some.injEq] at named
      rw [List.mem_singleton.mp hs, named]
  | erase p x y =>
      rw [plane?, Option.some.injEq] at named
      rw [strokes] at hs
      split at hs
      · rw [List.mem_singleton.mp hs, named]
      · exact absurd hs List.not_mem_nil
  | drawSprite p x y rows =>
      rw [plane?, Option.some.injEq] at named
      rw [(Plane.mem_strokes.mp hs).1, named]
  | _ => exact absurd named.symm (Option.some_ne_none q)

/-- A command that names a plane leaves everything as it is that displays are to
    agree on, the planes aside. -/
theorem modesAfter_of_named {c : Command} {q : Plane} (named : c.plane? = some q) (m : Modes) :
    (c.modesAfter m).resolution = m.resolution ∧ (c.modesAfter m).selection = m.selection := by
  cases c with
  | toggle | erase | drawSprite => simp only [modesAfter, and_self]
  | _ => exact absurd named.symm (Option.some_ne_none q)

end Command

/-- The strokes on a plane depend on the cells that are chosen there. -/
theorem filter_strokesOn_congr {planes : List Plane} {cells others : Plane → List (Nat × Nat)}
    {p : Plane} (same : cells p = others p) :
    (strokesOn planes cells).filter (·.plane = p) =
      (strokesOn planes others).filter (·.plane = p) := by
  rw [strokesOn, strokesOn, List.filter_flatMap, List.filter_flatMap]
  refine List.flatMap_congr fun q _ => ?_
  by_cases own : q = p
  · rw [own, same]
  · -- Another plane adds nothing to either side.
    have hother : ∀ cells, ∀ s ∈ q.strokes cells, s.plane ≠ p :=
      fun cells s hs => (Plane.mem_strokes.mp hs).1.trans_ne own
    rw [Stroke.filter_plane_eq_nil (hother _), Stroke.filter_plane_eq_nil (hother _)]

namespace AgreeOn

variable {p : Plane} {d e f : Display}

theorem refl (p : Plane) (d : Display) : d.AgreeOn p d :=
  ⟨rfl, rfl, rfl⟩

theorem symm (agree : d.AgreeOn p e) : e.AgreeOn p d :=
  ⟨agree.plane.symm, agree.resolution.symm, agree.selection.symm⟩

theorem trans (first : d.AgreeOn p e) (second : e.AgreeOn p f) : d.AgreeOn p f :=
  ⟨first.plane.trans second.plane, first.resolution.trans second.resolution,
    first.selection.trans second.selection⟩

/-- The strokes of a command on a plane depend on what displays agree on. The
    strokes elsewhere need not be the same ones. -/
theorem strokes (agree : d.AgreeOn p e) (c : Command) :
    (c.strokes d).filter (·.plane = p) = (c.strokes e).filter (·.plane = p) := by
  -- How far to scroll depends on the resolution, which is the same for both.
  have hscroll : ∀ dx dy : Resolution → Int64,
      (strokesOn d.selection.planes fun q =>
          d.differing q (dx d.resolution) (dy d.resolution)).filter (·.plane = p) =
        (strokesOn e.selection.planes fun q =>
          e.differing q (dx e.resolution) (dy e.resolution)).filter (·.plane = p) := by
    intro dx dy
    rw [agree.selection, agree.resolution]
    exact filter_strokesOn_congr (differing_congr agree.resolution agree.plane _ _)
  cases c with
  | toggle q x y => rfl
  | erase q x y =>
      by_cases own : q = p
      · have hpixel : d.pixel q x y = e.pixel q x y := by
          rw [own, pixel, pixel, agree.plane]
        rw [Command.strokes, Command.strokes, hpixel]
      · -- Both may be struck or not, but neither on this plane.
        have hother : ∀ d : Display, ∀ s ∈ Command.strokes d (.erase q x y), s.plane ≠ p :=
          fun d s hs => (Command.plane_of_mem_strokes rfl hs).trans_ne own
        rw [Stroke.filter_plane_eq_nil (hother d), Stroke.filter_plane_eq_nil (hother e)]
  | drawSprite q x y rows => rw [Command.strokes, Command.strokes, agree.resolution]
  | clear => exact filter_strokesOn_congr (litCells_congr agree.plane)
  | scrollUp n => exact hscroll (fun _ => 0) fun area => -area.reach n
  | scrollDown n => exact hscroll (fun _ => 0) fun area => area.reach n
  | scrollLeft => exact hscroll (fun area => -area.reach horizontalScroll) fun _ => 0
  | scrollRight => exact hscroll (fun area => area.reach horizontalScroll) fun _ => 0
  | tickFade | setResolution | setSelection | setFading => rfl

/-- Displays that agree on a plane go on doing so, whatever they are told. -/
theorem obey (agree : d.AgreeOn p e) (c : Command) : (d.obey c).2.AgreeOn p (e.obey c).2 where
  plane := by
    rw [plane_obey, plane_obey, plane_strokeAll, plane_strokeAll, agree.strokes c, agree.plane]
  resolution := by
    have hd := congrArg Modes.resolution (d.modes_obey c)
    have he := congrArg Modes.resolution (e.modes_obey c)
    refine hd.trans (Eq.trans ?_ he.symm)
    cases c with
    | setResolution => rfl
    | _ => exact agree.resolution
  selection := by
    have hd := congrArg Modes.selection (d.modes_obey c)
    have he := congrArg Modes.selection (e.modes_obey c)
    refine hd.trans (Eq.trans ?_ he.symm)
    cases c with
    | setSelection => rfl
    | _ => exact agree.selection

/-- They answer the same for the plane. -/
theorem answer (agree : d.AgreeOn p e) {c : Command} (named : c.plane? = some p) :
    (d.obey c).1 = (e.obey c).1 := by
  have hpixel : ∀ x y, d.pixel p x y = e.pixel p x y := by
    intro x y
    rw [pixel, pixel, agree.plane]
  cases c with
  | toggle q x y | erase q x y =>
      rw [Command.plane?, Option.some.injEq] at named
      rw [Display.obey, Display.obey, named, hpixel]
  | drawSprite q x y rows =>
      rw [Command.plane?, Option.some.injEq] at named
      have herases := erases_congr agree.plane
        fun s (hs : s ∈ spriteStrokes d.resolution p x y rows) => (Plane.mem_strokes.mp hs).1
      rw [Display.obey, Display.obey, drawSprite_eq, drawSprite_eq, named, herases,
        agree.resolution]
  | _ => exact absurd named.symm (Option.some_ne_none p)

end AgreeOn

/-- A command for the other plane leaves everything as it is that displays are to
    agree on. -/
theorem agreeOn_obey_of_not_concerns (d : Display) {p : Plane} {c : Command}
    (other : c.concerns p = false) : d.AgreeOn p (d.obey c).2 := by
  rcases Command.not_concerns_iff.mp other with ⟨q, named, hne⟩
  rcases Command.modesAfter_of_named named d.modes with ⟨hresolution, hselection⟩
  constructor
  case plane =>
    rw [plane_obey]
    exact (d.plane_strokeAll_of_ne fun s hs =>
      (Command.plane_of_mem_strokes named hs).trans_ne hne).symm
  case resolution => exact ((congrArg Modes.resolution (d.modes_obey c)).trans hresolution).symm
  case selection => exact ((congrArg Modes.selection (d.modes_obey c)).trans hselection).symm

/-! ### Sequences of commands -/

/-- Follows commands, one after another. -/
def obeyAll (d : Display) (commands : List Command) : Display :=
  commands.foldl (fun d c => (d.obey c).2) d

/-- The answers to those of the commands that name a plane. -/
def answersOn (p : Plane) (d : Display) : List Command → List (Option Bool)
  | [] => []
  | c :: rest =>
    if c.plane? = some p then (d.obey c).1 :: answersOn p (d.obey c).2 rest
    else answersOn p (d.obey c).2 rest

/-- Commands for the other plane may be left out. -/
theorem AgreeOn.obeyAll_filter {p : Plane} {d e : Display} (agree : d.AgreeOn p e)
    (commands : List Command) :
    (d.obeyAll commands).AgreeOn p (e.obeyAll (commands.filter (·.concerns p))) ∧
      d.answersOn p commands = e.answersOn p (commands.filter (·.concerns p)) := by
  induction commands generalizing d e with
  | nil => exact ⟨agree, rfl⟩
  | cons c rest ih =>
      cases concerned : c.concerns p with
      | true =>
          rcases ih (agree.obey c) with ⟨hagree, hanswers⟩
          rw [List.filter_cons_of_pos concerned]
          refine ⟨hagree, ?_⟩
          rw [answersOn, answersOn, hanswers]
          by_cases named : c.plane? = some p
          · rw [if_pos named, if_pos named, agree.answer named]
          · rw [if_neg named, if_neg named]
      | false =>
          -- Only one of the two displays is told, and does not change for it.
          have hskipped := (d.agreeOn_obey_of_not_concerns concerned).symm.trans agree
          rcases ih hskipped with ⟨hagree, hanswers⟩
          rcases Command.not_concerns_iff.mp concerned with ⟨q, named, hne⟩
          have hother : c.plane? ≠ some p := by
            rw [named, Ne, Option.some.injEq]
            exact hne
          rw [List.filter_cons_of_neg (by rw [concerned]; exact Bool.false_ne_true)]
          refine ⟨hagree, ?_⟩
          rw [answersOn, if_neg hother, hanswers]

/-- Clearing empties a plane in full, whatever the resolution and the selection. -/
theorem plane_clear (d : Display) (p : Plane) : d.clear.plane p = .fill false := by
  refine Grid.ext_of_lt fun x y column row => ?_
  have hstruck : ⟨p, x, y⟩ ∈ Command.clear.strokes d ↔ d.pixel p x y = true := by
    have hplane : p ∈ Selection.both.planes := by cases p <;> decide
    rw [Command.strokes, mem_strokesOn, and_iff_right hplane, litCells, List.mem_filter,
      Resolution.mem_cells]
    exact and_iff_right ⟨column, row⟩
  have hpixel := d.pixel_strokeAll_of_nodup (Command.clear.onPlane_strokes d)
    (Command.nodup_strokes d trivial) (p := p) column row
  rw [Grid.get_fill, clear_eq]
  refine hpixel.trans ?_
  by_cases hlit : d.pixel p x y = true
  · rw [if_pos (hstruck.mpr hlit), hlit, Bool.not_true]
  · rw [if_neg fun struck => hlit (hstruck.mp struck)]
    exact Bool.eq_false_iff.mpr hlit

theorem plane_scroll_of_not_mem (d : Display) {p : Plane} (unselected : p ∉ d.selection.planes)
    (dx dy : Int64) : (d.scroll dx dy).plane p = d.plane p := by
  rw [plane_scroll, copied, if_neg unselected]

end Display

/-- The planes are independent. Displays that agree on a plane, the resolution and
    the selection do so after any two sequences of commands that differ at most in
    commands for single pixels and sprites of the other plane, and have answered
    the same for this one. Clearing empties a plane in full even if it is not
    selected, and scrolling leaves it alone in that case. -/
theorem planes_independent (p : Plane) :
    (∀ d e : Display, d.AgreeOn p e → ∀ first second : List Display.Command,
      first.filter (·.concerns p) = second.filter (·.concerns p) →
        (d.obeyAll first).AgreeOn p (e.obeyAll second) ∧
          d.answersOn p first = e.answersOn p second) ∧
    (∀ d : Display, d.clear.plane p = .fill false) ∧
    (∀ d : Display, p ∉ d.selection.planes →
      (∀ n, (d.scrollUp n).plane p = d.plane p) ∧
      (∀ n, (d.scrollDown n).plane p = d.plane p) ∧
      d.scrollLeft.plane p = d.plane p ∧ d.scrollRight.plane p = d.plane p) := by
  refine ⟨fun d e agree first second alike => ?_, fun d => d.plane_clear p,
    fun d unselected => ?_⟩
  · -- Both sequences come to the one that is left of them, on the second display.
    rcases agree.obeyAll_filter first with ⟨hfirst, hanswers⟩
    rcases (Display.AgreeOn.refl p e).obeyAll_filter second with ⟨hsecond, hanswers'⟩
    rw [alike] at hfirst hanswers
    exact ⟨hfirst.trans hsecond.symm, hanswers.trans hanswers'.symm⟩
  · have hscroll := d.plane_scroll_of_not_mem unselected
    exact ⟨fun n => hscroll _ _, fun n => hscroll _ _, hscroll _ _, hscroll _ _⟩

/-- A blank display and one whose plane B is full draw and scroll the same on plane
    A, while different things are done to their planes B. A plane that is not
    selected stays where it is. -/
theorem planes_independent_when_scrolling :
    let d : Display := {}
    let e : Display := { planeB := .fill true, fading := { enabled := false } }
    let sprite : Display.Command := .drawSprite .a 60 30 [0xFF, 0x81, 0xFF]
    let first : List Display.Command := [sprite, .toggle .b 3 4, .scrollDown 4, sprite]
    let second : List Display.Command := [sprite, .scrollDown 4, .erase .b 3 4, sprite]
    ((d.obeyAll first).plane .a = (e.obeyAll second).plane .a ∧
      d.answersOn .a first = e.answersOn .a second) ∧
    (Display.scrollUp { d with selection := .b } 3).plane .a = d.plane .a := by
  intro d e sprite first second
  rcases planes_independent .a with ⟨hsequence, -, hunselected⟩
  rcases hsequence d e ⟨rfl, rfl, rfl⟩ first second (by decide) with ⟨hagree, hanswers⟩
  exact ⟨⟨hagree.plane, hanswers⟩, (hunselected { d with selection := .b } (by decide)).1 3⟩

end ChipEight
