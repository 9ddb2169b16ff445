import ChipEight.Proofs.Display.Commands

/-!
# What Starts a Fade

A cell of the fade grid is set when a pixel of it goes out, and only then.

There is one fade grid for two planes, and pixels go out in several ways: one by
one, under a sprite, by clearing and by scrolling. All of them turn pixels over,
and turning over a pixel that was on is what sets the cell. This comes to the
same as a pixel going out if nothing is turned over that comes on again
afterwards. A sprite that runs into itself may do that, and would leave a fade
under a pixel that is still on. The other commands turn over each pixel at most
once, so a pixel that is on when its turn comes was on before and stays off
(`Display.fade_strokeAll_of_nodup`).

## Main definitions

* `Display.Extinguished`: Whether a pixel of a cell has gone out.

## Theorems

* `Display.fade_strokeAll_of_nodup`: The fade grid after strokes that are all
  distinct.
* `Display.extinguished_strokeAll_iff`: Which cells such strokes leave without a
  pixel they had.
* `Display.fade_obey`: The fade grid after a command.
* `Display.decay_of_zero`: What has faded stays as it is.
* `fade_starts_where_pixels_go_out`: What every command does to the fade grid.
-/

namespace ChipEight

namespace Display

/-- Whether a pixel of a cell, on either plane, was on and is off now. -/
def Extinguished (before after : Display) (x y : Nat) : Prop :=
  ∃ p, before.pixel p x y = true ∧ after.pixel p x y = false

theorem extinguished_iff (before after : Display) (x y : Nat) :
    Extinguished before after x y ↔
      (before.pixel .a x y = true ∧ after.pixel .a x y = false) ∨
        (before.pixel .b x y = true ∧ after.pixel .b x y = false) := by
  constructor
  · rintro ⟨p, out⟩
    cases p with
    | a => exact .inl out
    | b => exact .inr out
  · rintro (out | out)
    · exact ⟨.a, out⟩
    · exact ⟨.b, out⟩

instance (before after : Display) (x y : Nat) : Decidable (Extinguished before after x y) :=
  decidable_of_iff _ (extinguished_iff before after x y).symm

variable {x y : Nat}

/-! ### Strokes -/

theorem fade_stroke (d : Display) {s : Stroke} (hs : s.OnPlane) (column : x < planeWidth)
    (row : y < planeHeight) :
    (d.stroke s).fade.get x y =
      if d.fading.enabled = true ∧ d.lit s = true ∧ s.x = x ∧ s.y = y then fadeCeiling
      else d.fade.get x y := by
  have h := d.fade_toggle s.plane s.x s.y x y
  rw [Nat.mod_eq_of_lt hs.1, Nat.mod_eq_of_lt hs.2, Nat.mod_eq_of_lt column,
    Nat.mod_eq_of_lt row] at h
  exact h

/-- Strokes that are all distinct start the fade of the cells whose pixels they
    turn off. -/
theorem fade_strokeAll_of_nodup (d : Display) {strokes : List Stroke}
    (inside : ∀ s ∈ strokes, s.OnPlane) (distinct : strokes.Nodup) (column : x < planeWidth)
    (row : y < planeHeight) :
    (d.strokeAll strokes).fade.get x y =
      if d.fading.enabled = true ∧ ∃ s ∈ strokes, d.lit s = true ∧ s.x = x ∧ s.y = y
      then fadeCeiling else d.fade.get x y := by
  induction strokes generalizing d with
  | nil => simp
  | cons s rest ih =>
      rcases List.forall_mem_cons.mp inside with ⟨hs, hrest⟩
      rcases List.nodup_cons.mp distinct with ⟨hfirst, hlater⟩
      have henabled : (d.stroke s).fading = d.fading :=
        congrArg Modes.fading (modes_strokeAll d [s])
      -- The first stroke changes no pixel that a later one is for.
      have hkept : ∀ t ∈ rest, (d.stroke s).lit t = d.lit t := by
        intro t ht
        have hother : s ≠ t := fun same => hfirst (same ▸ ht)
        rw [d.lit_stroke hs (hrest t ht), if_neg hother]
      have hcause : (∃ t ∈ rest, (d.stroke s).lit t = true ∧ t.x = x ∧ t.y = y) ↔
          ∃ t ∈ rest, d.lit t = true ∧ t.x = x ∧ t.y = y :=
        exists_congr fun t => and_congr_right fun ht => by rw [hkept t ht]
      rw [strokeAll_cons, ih _ hrest hlater, d.fade_stroke hs column row, henabled]
      rw [← ite_or]
      refine if_congr ?_ rfl rfl
      rw [hcause, List.exists_mem_cons_iff, and_or_left, or_comm]

/-- Such strokes put out the pixels that they find on. -/
theorem extinguished_strokeAll_iff (d : Display) {strokes : List Stroke}
    (inside : ∀ s ∈ strokes, s.OnPlane) (distinct : strokes.Nodup) (column : x < planeWidth)
    (row : y < planeHeight) :
    Extinguished d (d.strokeAll strokes) x y ↔
      ∃ s ∈ strokes, d.lit s = true ∧ s.x = x ∧ s.y = y := by
  have hafter : ∀ p, (d.strokeAll strokes).pixel p x y =
      if ⟨p, x, y⟩ ∈ strokes then !d.pixel p x y else d.pixel p x y :=
    fun p => d.pixel_strokeAll_of_nodup inside distinct column row
  constructor
  · rintro ⟨p, hon, hoff⟩
    -- A pixel that is not struck does not go out.
    have hstruck : ⟨p, x, y⟩ ∈ strokes := by
      by_contra spared
      rw [hafter, if_neg spared, hon] at hoff
      exact Bool.noConfusion hoff
    exact ⟨⟨p, x, y⟩, hstruck, hon, rfl, rfl⟩
  · rintro ⟨⟨p, x, y⟩, hstruck, hon, rfl, rfl⟩
    refine ⟨p, hon, ?_⟩
    rw [hafter, if_pos hstruck]
    exact congrArg not hon

/-! ### Commands -/

/-- A command that turns over each pixel at most once starts the fade of the cells
    whose pixels it puts out. -/
theorem fade_obey (d : Display) {c : Command} (running : c ≠ .tickFade)
    (fits : c.Fits d.resolution) (column : x < planeWidth) (row : y < planeHeight) :
    (d.obey c).2.fade.get x y =
      if d.fading.enabled = true ∧ Extinguished d (d.obey c).2 x y then fadeCeiling
      else d.fade.get x y := by
  have inside := c.onPlane_strokes d
  have distinct := Command.nodup_strokes d fits
  have hplanes : ∀ p, (d.obey c).2.pixel p x y = (d.strokeAll (c.strokes d)).pixel p x y :=
    fun p => congrArg (Grid.get · x y) (d.plane_obey c p)
  have hcause : Extinguished d (d.obey c).2 x y ↔
      ∃ s ∈ c.strokes d, d.lit s = true ∧ s.x = x ∧ s.y = y := by
    rw [← d.extinguished_strokeAll_iff inside distinct column row]
    exact exists_congr fun p => by rw [hplanes]
  have hfade : (d.obey c).2.fade = (d.strokeAll (c.strokes d)).fade := by
    rw [d.obey_eq running]
    rfl
  rw [hfade, d.fade_strokeAll_of_nodup inside distinct column row]
  exact if_congr (and_congr_right fun _ => hcause.symm) rfl rfl

/-- What has faded stays as it is, down to the sign of its zero. -/
theorem decay_of_zero (speed : Single) {cell : Single} (faded : cell.magnitude = 0) :
    decay speed cell = cell := by
  have hrank : cell.rank = 0 := by
    rw [Single.rank, faded]
    split <;> rfl
  have hnot : Single.lt .zero cell = false := by
    rw [Single.lt, hrank]
    exact Bool.and_false _
  rw [decay, hnot, if_neg Bool.false_ne_true]

end Display

/-- Whatever puts out a pixel, on whichever plane, starts the fade of its cell at
    the number nearest to 0.95, and no other cell changes. This is so for every
    command but the decay itself, which changes no pixel and leaves what has faded
    alone. Modes can be set without touching the fade grid. -/
theorem fade_starts_where_pixels_go_out (d : Display) :
    fadeCeiling = .ofRatio false (95 <<< 149) 100 ∧
    (∀ c : Display.Command, c ≠ .tickFade → c.Fits d.resolution →
      ∀ x < planeWidth, ∀ y < planeHeight,
        (d.obey c).2.fade.get x y =
          if d.fading.enabled = true ∧ Display.Extinguished d (d.obey c).2 x y then fadeCeiling
          else d.fade.get x y) ∧
    (∀ r, (d.obey (.setResolution r)).2.fade = d.fade) ∧
    (∀ s, (d.obey (.setSelection s)).2.fade = d.fade) ∧
    (∀ f, (d.obey (.setFading f)).2.fade = d.fade) ∧
    (∀ p, (d.obey .tickFade).2.plane p = d.plane p) ∧
    (∀ x y, (d.fade.get x y).magnitude = 0 →
      (d.obey .tickFade).2.fade.get x y = d.fade.get x y) := by
  refine ⟨by decide +kernel, fun c running fits x column y row => ?_, fun r => rfl, fun s => rfl,
    fun f => rfl, fun p => ?_, fun x y faded => ?_⟩
  · exact d.fade_obey running fits column row
  · exact d.plane_obey .tickFade p
  · rw [Display.obey, Display.tickFade, Grid.get_map]
    exact Display.decay_of_zero d.fading.speed faded

/-- Two dots, one below the other and on different planes, are scrolled down by a
    row. The lower cell fades, because its dot has moved on, although the dot of
    the other plane has arrived there. -/
theorem fade_starts_where_pixels_go_out_when_other_plane_arrives :
    let d : Display :=
      { planeA := (Grid.fill false).set 5 0 true
        planeB := (Grid.fill false).set 5 1 true
        selection := .both }
    (d.obey (.scrollDown 2)).2.pixel .a 5 1 = true ∧
      (d.obey (.scrollDown 2)).2.fade.get 5 1 = fadeCeiling ∧
      (d.obey .tickFade).2.fade.get 5 1 = d.fade.get 5 1 := by
  intro d
  rcases fade_starts_where_pixels_go_out d with ⟨-, hcommand, -, -, -, -, hfaded⟩
  have hscrolled : ∀ p, (d.obey (.scrollDown 2)).2.pixel p 5 1 = d.pixel p 5 0 := by
    intro p
    have hselected : p ∈ d.selection.planes := by cases p <;> decide
    rw [Display.obey, Display.pixel, d.plane_scrollDown, Display.copied, if_pos hselected,
      Grid.get_moved_of_inside (by decide)]
    exact Grid.seen_of_inside (by decide)
  have harrives : d.pixel .a 5 0 = true := (Grid.get_set ..).trans (if_pos ⟨rfl, rfl⟩)
  have hleaves : d.pixel .b 5 1 = true := (Grid.get_set ..).trans (if_pos ⟨rfl, rfl⟩)
  have hblank : d.pixel .b 5 0 = false :=
    (Grid.get_set ..).trans ((if_neg (by decide)).trans (Grid.get_fill false 5 0))
  have hout : Display.Extinguished d (d.obey (.scrollDown 2)).2 5 1 :=
    ⟨.b, hleaves, (hscrolled .b).trans hblank⟩
  have hdark : (d.fade.get 5 1).magnitude = 0 := by
    rw [Grid.get_fill]
    rfl
  refine ⟨(hscrolled .a).trans harrives, ?_, hfaded 5 1 hdark⟩
  rw [hcommand (.scrollDown 2) (by decide) trivial 5 (by decide) 1 (by decide)]
  exact if_pos ⟨rfl, hout⟩

end ChipEight
