import SmartHome.Inverter.Energyflow
import SmartHome.Machine.Run

/-!
# What is seen of a power

A component has two things to keep right. The chevrons are to point and to
run the way the power flows, and the ends of the line are set in two places
for that, when the component is mounted and when its power changes. They are
set alike for every component that the pages have, so wherever a run has led,
the line is that of the power as it is now (`Aimed`).

And the chevrons are to stay on the line. Their distance is the line's length
divided by their number, which is at least `chevronSpace`, and the offset that
they are all moved by goes back before it comes to that. So no chevron ever
gets past the end, and the opacity, by which it fades out before that, stays
between nothing and one.

The offset is also all there is to the pace. Of the time that the frames have
taken it only loses whole chevron spaces (`paced`).
-/

namespace SmartHome.Inverter

open Machine

/-! ## The line -/

namespace FlowProps

/-- Where the flow of a power comes from. -/
noncomputable def source (props : FlowProps) (power : Int) : Point :=
  if props.vertical then ⟨(20 : ℕ), if power > 0 then 0 else props.height⟩
  else ⟨if power > 0 then props.width else 0, (50 : ℕ)⟩

noncomputable def sink (props : FlowProps) (power : Int) : Point :=
  if props.vertical then ⟨(20 : ℕ), if power > 0 then props.height else 0⟩
  else ⟨if power > 0 then 0 else props.width, (50 : ℕ)⟩

def span (props : FlowProps) : Int :=
  if props.vertical then props.height else props.width

/-- A positive power is shown the way `mounted` shows it. -/
def Regular (page : FlowPage) (props : FlowProps) : Prop :=
  page = .henley → props.vertical = false → props.positiveLeft = true

end FlowProps

namespace Energyflow

/-- The line is that of the power, and the chevrons are as large as it. -/
structure Aimed (e : Energyflow) : Prop where
  source : (⟨e.x0, e.y0⟩ : Point) = e.props.source e.power
  sink : (⟨e.x1, e.y1⟩ : Point) = e.props.sink e.power
  angle : e.angle = atan2 (e.y1 - e.y0) (e.x1 - e.x0)
  length : e.length = |(e.props.span : ℝ)|
  size : 5 ≤ e.chevronLength ∧ e.chevronLength ≤ 30
  first : e.startX ^ 2 + e.startY ^ 2 = e.chevronLength ^ 2
  last : e.endX ^ 2 + e.endY ^ 2 = e.chevronLength ^ 2

theorem aimed_computeDirection {e : Energyflow}
    (hsource : (⟨e.x0, e.y0⟩ : Point) = e.props.source e.power)
    (hsink : (⟨e.x1, e.y1⟩ : Point) = e.props.sink e.power)
    (hlength : e.length = |(e.props.span : ℝ)|) :
    Aimed e.computeDirection := by
  have hlegs (a l : ℝ) : (Real.cos a * l) ^ 2 + (Real.sin a * l) ^ 2 = l ^ 2 := by
    rw [mul_pow, mul_pow, ← add_mul, Real.cos_sq_add_sin_sq, one_mul]
  refine ⟨hsource, hsink, rfl, hlength, ?_, hlegs _ _, hlegs _ _⟩
  dsimp only [computeDirection]
  split
  · norm_num
  · split
    · norm_num
    · constructor <;> linarith

theorem aimed_mounted (props : FlowProps) (power : Int) :
    Aimed (mounted props power) := by
  apply aimed_computeDirection
  all_goals
    cases hvertical : props.vertical <;> by_cases hpower : power > 0 <;>
      simp [hvertical, hpower, aimVertically, aimHorizontally,
        FlowProps.source, FlowProps.sink, FlowProps.span,
        Real.sqrt_mul_self_eq_abs]

theorem Aimed.level {e : Energyflow} (h : Aimed e)
    (hvertical : e.props.vertical = false) : e.y0 = 50 ∧ e.y1 = 50 := by
  have hsource := congrArg Point.y h.source
  have hsink := congrArg Point.y h.sink
  simp only [FlowProps.source, FlowProps.sink, hvertical] at hsource hsink
  exact ⟨hsource, hsink⟩

theorem Aimed.watchPower {e : Energyflow} (h : Aimed e) {left : Bool}
    (hleft : e.props.vertical = false → left = true) (newValue : Int) :
    Aimed (e.watchPower left newValue) := by
  have hlength := h.length
  rw [FlowProps.span] at hlength
  cases hvertical : e.props.vertical with
  | true =>
      rw [hvertical] at hlength
      apply aimed_computeDirection <;>
        by_cases hpower : newValue > 0 <;>
        simp [hvertical, hpower, aimVertically, FlowProps.source,
          FlowProps.sink, FlowProps.span, hlength]
  | false =>
      obtain ⟨hy0, hy1⟩ := h.level hvertical
      rw [hvertical] at hlength
      rw [hleft hvertical]
      apply aimed_computeDirection <;>
        by_cases hpower : newValue > 0 <;>
        simp [hvertical, hpower, aimHorizontally, FlowProps.source,
          FlowProps.sink, FlowProps.span, hlength, hy0, hy1]

theorem Aimed.power {e : Energyflow} (h : Aimed e) {page : FlowPage}
    (hregular : e.props.Regular page) (newValue : Int) :
    Aimed (page.power newValue e) := by
  cases page with
  | standard => exact h.watchPower (fun _ => rfl) newValue
  | henley => exact h.watchPower (hregular rfl) newValue

theorem Aimed.render {e : Energyflow} (h : Aimed e) (timestamp : ℝ) :
    Aimed (e.render timestamp) :=
  ⟨h.source, h.sink, h.angle, h.length, h.size, h.first, h.last⟩

theorem Aimed.span_sq {e : Energyflow} (h : Aimed e) :
    (e.x1 - e.x0) * (e.x1 - e.x0) + (e.y1 - e.y0) * (e.y1 - e.y0) =
      (e.props.span : ℝ) * e.props.span := by
  have hsource := h.source
  have hsink := h.sink
  cases hvertical : e.props.vertical <;> by_cases hpower : e.power > 0 <;>
    simp only [FlowProps.source, FlowProps.sink, hvertical, hpower, if_true,
      if_false, Bool.false_eq_true, Point.mk.injEq] at hsource hsink <;>
    simp only [hsource, hsink, FlowProps.span, hvertical, if_true, if_false,
      Bool.false_eq_true] <;>
    ring

theorem Aimed.direction {e : Energyflow} (h : Aimed e) :
    e.length * Real.cos e.angle = e.x1 - e.x0 ∧
      e.length * Real.sin e.angle = e.y1 - e.y0 := by
  have hnorm : e.length = ‖(⟨e.x1 - e.x0, e.y1 - e.y0⟩ : ℂ)‖ := by
    rw [h.length, Complex.norm_def, Complex.normSq_mk, h.span_sq,
      Real.sqrt_mul_self_eq_abs]
  rw [hnorm, h.angle, atan2]
  exact ⟨Complex.norm_mul_cos_arg _, Complex.norm_mul_sin_arg _⟩

/-! ## The chevrons -/

def Rolls (e : Energyflow) : Prop := 0 ≤ e.offset ∧ e.offset < chevronSpace

/-- On the line from `source` to `sink`, and of this power. -/
structure Depicts (props : FlowProps) (power : Int) (c : Chevron) :
    Prop where
  onLine : ∃ r : ℝ, 0 ≤ r ∧ r < 1 ∧
    c.center.x = (props.source power).x +
      ((props.sink power).x - (props.source power).x) * r ∧
    c.center.y = (props.source power).y +
      ((props.sink power).y - (props.source power).y) * r
  legs : ∃ l : ℝ, 5 ≤ l ∧ l ≤ 30 ∧
    (c.first.x - c.center.x) ^ 2 + (c.first.y - c.center.y) ^ 2 = l ^ 2 ∧
    (c.last.x - c.center.x) ^ 2 + (c.last.y - c.center.y) ^ 2 = l ^ 2
  opacity : 0 ≤ c.opacity ∧ c.opacity ≤ 1
  colour : (c.red, c.green) =
    if props.alwaysNegative ∨ power < 0 then (200, 0) else (0, 200)
  watts : c.watts = power.natAbs

/-- What there is to be on the canvas. -/
structure Shows (e : Energyflow) : Prop where
  nothing : e.power = 0 → e.canvas = []
  count : e.power ≠ 0 → e.canvas.length = e.props.span.natAbs / 12
  each : ∀ c ∈ e.canvas, Depicts e.props e.power c

section Chevron

variable {e : Energyflow} {n i : Nat}

theorem Aimed.chevron_onLine (h : Aimed e) (hrolls : Rolls e)
    (hn : n * chevronSpace ≤ e.length) (hi : i < n) :
    ∃ r : ℝ, 0 ≤ r ∧ r < 1 ∧
      (e.chevron n i).center.x = e.x0 + (e.x1 - e.x0) * r ∧
      (e.chevron n i).center.y = e.y0 + (e.y1 - e.y0) * r := by
  obtain ⟨hoffset, hspace⟩ := hrolls
  obtain ⟨hcos, hsin⟩ := h.direction
  have hi' : (i : ℝ) + 1 ≤ n := by exact_mod_cast hi
  have hnpos : (0 : ℝ) < n := by
    have := Nat.cast_nonneg (α := ℝ) i
    linarith
  have hspace' : (0 : ℝ) < chevronSpace := by norm_num [chevronSpace]
  have hlength : 0 < e.length := lt_of_lt_of_le (mul_pos hnpos hspace') hn
  -- Each of the `n` parts of the line is longer than the offset.
  have hpart : e.offset / e.length < 1 / n := by
    rw [div_lt_div_iff₀ hlength hnpos]
    nlinarith
  refine ⟨i / n + e.offset / e.length, by positivity, ?_, ?_, ?_⟩
  · have hparts : (i : ℝ) / n + 1 / n ≤ 1 := by
      rw [← add_div, div_le_one hnpos]
      exact hi'
    linarith
  · rw [chevron, ← hcos]
    dsimp only
    field_simp
    ring
  · rw [chevron, ← hsin]
    dsimp only
    field_simp
    ring

theorem opacity_chevron (hrolls : Rolls e) (hi : i < n) :
    0 ≤ (e.chevron n i).opacity ∧ (e.chevron n i).opacity ≤ 1 := by
  obtain ⟨hoffset, hspace⟩ := hrolls
  have hi' : (i : ℝ) + 1 ≤ n := by exact_mod_cast hi
  have hi₀ : (0 : ℝ) ≤ i := Nat.cast_nonneg i
  refine ⟨le_min zero_le_one (div_nonneg (le_min ?_ ?_) ?_), min_le_left _ _⟩
  · rw [chevronSpace]
    linarith
  · rw [chevronSpace] at hspace ⊢
    linarith
  · norm_num [fadeLength]

theorem depicts_chevron (h : Aimed e) (hrolls : Rolls e)
    (hn : n * chevronSpace ≤ e.length) (hi : i < n) (hpower : e.power ≠ 0) :
    Depicts e.props e.power (e.chevron n i) := by
  refine ⟨?_, ⟨e.chevronLength, h.size.1, h.size.2, ?_, ?_⟩,
    opacity_chevron hrolls hi, ?_, rfl⟩
  · rw [← h.source, ← h.sink]
    exact h.chevron_onLine hrolls hn hi
  · simpa only [chevron, add_sub_cancel_left] using h.first
  · simpa only [chevron, add_sub_cancel_left] using h.last
  · rw [chevron]
    dsimp only
    rcases lt_or_gt_of_ne hpower with hneg | hpos
    · have hnotpos : ¬ e.power > 0 := by omega
      cases e.props.alwaysNegative <;> simp [hneg, hnotpos]
    · have hnotneg : ¬ e.power < 0 := by omega
      cases e.props.alwaysNegative <;> simp [hpos, hnotneg]

end Chevron

/-! ## A frame -/

section Frame

variable {e : Energyflow}

theorem room (h : Aimed e) :
    (⌊e.length / chevronSpace⌋₊ : ℝ) * chevronSpace ≤ e.length := by
  have hspace : (0 : ℝ) < chevronSpace := by norm_num [chevronSpace]
  have hlength : 0 ≤ e.length := h.length ▸ abs_nonneg _
  rw [← le_div_iff₀ hspace]
  exact Nat.floor_le (div_nonneg hlength hspace.le)

theorem count_chevrons (h : Aimed e) :
    ⌊e.length / chevronSpace⌋₊ = e.props.span.natAbs / 12 := by
  have hnat : e.length = (e.props.span.natAbs : ℝ) := by
    rw [h.length, Nat.cast_natAbs, Int.cast_abs]
  rw [hnat, chevronSpace]
  exact_mod_cast Nat.floor_div_eq_div _ 12

theorem shows_render (h : Aimed e) (hrolls : Rolls e) (timestamp : ℝ) :
    Shows (e.render timestamp) := by
  constructor
  case nothing =>
    intro hpower
    exact if_pos hpower
  case count =>
    intro (hpower : e.power ≠ 0)
    rw [render]
    dsimp only
    rw [if_neg hpower, List.length_map, List.length_range, count_chevrons h]
  case each =>
    intro c hc
    rw [render] at hc ⊢
    dsimp only at hc ⊢
    by_cases hpower : e.power = 0
    · rw [if_pos hpower] at hc
      cases hc
    · rw [if_neg hpower] at hc
      obtain ⟨i, hi, rfl⟩ := List.mem_map.mp hc
      exact depicts_chevron h hrolls (room h) (List.mem_range.mp hi) hpower

theorem remainder_spec {x : ℝ} (hx : 0 ≤ x) :
    0 ≤ remainder x chevronSpace ∧ remainder x chevronSpace < chevronSpace ∧
      ∃ k : ℕ, remainder x chevronSpace + chevronSpace * k = x := by
  have hspace : (0 : ℝ) < chevronSpace := by norm_num [chevronSpace]
  refine ⟨Int.sub_floor_div_mul_nonneg x hspace,
    Int.sub_floor_div_mul_lt x hspace,
    ⌊x / chevronSpace⌋₊, ?_⟩
  rw [remainder, natCast_floor_eq_intCast_floor (div_nonneg hx hspace.le)]
  ring

theorem advance_spec (hrolls : Rolls e) {delta : ℝ} (hdelta : 0 ≤ delta) :
    0 ≤ e.advance delta ∧ e.advance delta < chevronSpace ∧
      ∃ k : ℕ, e.advance delta + chevronSpace * k =
        e.offset + pixelsPerSecond * delta / 1000 := by
  have hsum : 0 ≤ e.offset + pixelsPerSecond * delta / 1000 := by
    have hoffset := hrolls.1
    rw [pixelsPerSecond]
    positivity
  rw [advance]
  split
  · exact remainder_spec hsum
  · next hless => exact ⟨hsum, not_le.mp hless, 0, by simp⟩

end Frame

/-! ## Runs -/

def OnTime (e : Energyflow) : FlowInput → Prop
  | .power _ => True
  | .frame timestamp =>
      0 < timestamp ∧ ∀ prev ∈ e.prevTimestamp, prev ≤ timestamp

/-- What is known of a component, whatever has come to it. -/
structure Flowing (page : FlowPage) (e : Energyflow) : Prop where
  aimed : Aimed e
  rolls : Rolls e
  regular : e.props.Regular page
  started : ∀ prev ∈ e.prevTimestamp, 0 < prev

theorem Flowing.delta {page : FlowPage} {e : Energyflow}
    (h : Flowing page e) {timestamp : ℝ} (htime : OnTime e (.frame timestamp)) :
    e.delta timestamp =
      (e.prevTimestamp.map (timestamp - ·)).getD 0 ∧
      0 ≤ e.delta timestamp := by
  obtain ⟨-, hlater⟩ := htime
  have hstarted := h.started
  rw [Energyflow.delta]
  cases hprev : e.prevTimestamp with
  | none => exact ⟨rfl, le_refl _⟩
  | some prev =>
      rw [hprev] at hlater hstarted
      dsimp only
      rw [if_neg (hstarted prev rfl).ne']
      exact ⟨rfl, sub_nonneg.mpr (hlater prev rfl)⟩

theorem frame_power (page : FlowPage) (e : Energyflow) (newValue : Int) :
    (page.power newValue e).props = e.props ∧
      (page.power newValue e).power = newValue ∧
      (page.power newValue e).offset = e.offset ∧
      (page.power newValue e).prevTimestamp = e.prevTimestamp := by
  have hwatch (left : Bool) : (e.watchPower left newValue).props = e.props ∧
      (e.watchPower left newValue).power = newValue ∧
      (e.watchPower left newValue).offset = e.offset ∧
      (e.watchPower left newValue).prevTimestamp = e.prevTimestamp := by
    unfold watchPower computeDirection aimVertically aimHorizontally
    cases hvertical : e.props.vertical <;>
      by_cases hpower : newValue > 0 <;> cases left <;>
      simp [hvertical, hpower]
  cases page <;> exact hwatch _

theorem Flowing.step {page : FlowPage} {e : Energyflow} (h : Flowing page e)
    {i : FlowInput} (htime : OnTime e i) : Flowing page (page.step e i) := by
  cases i with
  | power newValue =>
      obtain ⟨hprops, -, hoffset, hprev⟩ := frame_power page e newValue
      refine ⟨h.aimed.power h.regular newValue, ?_, ?_, ?_⟩
      · rw [Rolls, FlowPage.step, hoffset]
        exact h.rolls
      · rw [FlowPage.step, hprops]
        exact h.regular
      · rw [FlowPage.step, hprev]
        exact h.started
  | frame timestamp =>
      obtain ⟨hnonneg, hless, -⟩ := advance_spec h.rolls (h.delta htime).2
      refine ⟨h.aimed.render timestamp, ⟨hnonneg, hless⟩, h.regular, ?_⟩
      intro prev hprev
      rw [← Option.some.inj hprev]
      exact htime.1

/-- Between two moments the offset advances by the time between the frames
ahead of them, up to whole chevron spaces. -/
def Paced (page : FlowPage) (e : Energyflow) (inputs : List FlowInput) :
    Prop :=
  ∀ prev ∈ e.prevTimestamp, ∃ last ∈ (run page.step e inputs).prevTimestamp,
    ∃ k : ℕ, (run page.step e inputs).offset + chevronSpace * k =
      e.offset + pixelsPerSecond * (last - prev) / (1000 : ℕ)

theorem Flowing.paced {page : FlowPage} {e : Energyflow} (h : Flowing page e)
    {inputs : List FlowInput} (htime : Along page.step OnTime e inputs) :
    Paced page e inputs := by
  intro prev hprev
  induction inputs generalizing e prev with
  | nil => exact ⟨prev, hprev, 0, by simp⟩
  | cons i inputs ih =>
      obtain ⟨hi, hinputs⟩ := htime
      have hstep := ih (h.step hi) hinputs
      rw [run_cons]
      cases i with
      | power newValue =>
          obtain ⟨-, -, hoffset, hsame⟩ := frame_power page e newValue
          obtain ⟨last, hlast, k, hk⟩ := hstep prev (hsame ▸ hprev)
          exact ⟨last, hlast, k, hk.trans (by rw [FlowPage.step, hoffset])⟩
      | frame timestamp =>
          obtain ⟨last, hlast, k, hk⟩ := hstep timestamp rfl
          obtain ⟨hdelta, hnonneg⟩ := h.delta hi
          obtain ⟨-, -, j, hj⟩ := advance_spec h.rolls hnonneg
          rw [hprev] at hdelta
          have hoffset : (page.step e (.frame timestamp)).offset =
              e.advance (e.delta timestamp) := rfl
          refine ⟨last, hlast, j + k, ?_⟩
          rw [hoffset] at hk
          rw [hdelta] at hj hk
          push_cast
          simp only [Option.map_some, Option.getD_some] at hj hk
          linarith

end Energyflow

/-! ## The components of the pages -/

open Energyflow

theorem regular_of_mem {page : FlowPage} {props : FlowProps}
    (h : props ∈ page.flows) : props.Regular page := by
  intro hpage
  subst hpage
  have hall : ∀ props ∈ FlowPage.henley.flows,
      props.vertical = false → props.positiveLeft = true := by decide
  exact hall props h

theorem frame_mounted (props : FlowProps) (power : Int) :
    (mounted props power).props = props ∧
      (mounted props power).offset = 0 ∧
      (mounted props power).prevTimestamp = none := by
  unfold mounted computeDirection aimVertically aimHorizontally
  cases hvertical : props.vertical <;> by_cases hpower : power > 0 <;>
    simp [hpower]

theorem flowing_mounted {page : FlowPage} {props : FlowProps}
    (h : props ∈ page.flows) (power : Int) :
    Flowing page (mounted props power) := by
  obtain ⟨hprops, hoffset, hprev⟩ := frame_mounted props power
  refine ⟨aimed_mounted props power, ?_, ?_, ?_⟩
  · rw [Rolls, hoffset]
    norm_num [chevronSpace]
  · rw [hprops]
    exact regular_of_mem h
  · rw [hprev]
    intro prev hmem
    cases hmem

/-- Every component of the pages, whatever its power does: each frame shows
the power as it is then, on the line and in the direction it has by its sign,
and between any two moments the chevrons have moved by the time that has
passed. -/
theorem flows_are_shown (page : FlowPage) {props : FlowProps}
    (hprops : props ∈ page.flows) (power : Int) (inputs : List FlowInput)
    (htime : Along page.step OnTime (mounted props power) inputs) :
    Along page.step
        (fun e i => ∀ timestamp, i = .frame timestamp →
          Shows (page.step e i)) (mounted props power) inputs ∧
      ∀ pre post, inputs = pre ++ post →
        Paced page (run page.step (mounted props power) pre) post := by
  have hmounted := flowing_mounted hprops power
  have hstep (e : Energyflow) (i : FlowInput) (h : Flowing page e)
      (hi : OnTime e i) : Flowing page (page.step e i) := h.step hi
  refine ⟨?_, ?_⟩
  · refine Along.of_inv hstep ?_ hmounted htime
    intro e i h _ timestamp hframe
    rw [hframe]
    exact shows_render h.aimed h.rolls timestamp
  · intro pre post hsplit
    rw [hsplit, along_append] at htime
    exact (run_inv_along hstep hmounted htime.1).paced htime.2

/-- The grid's component, when the house starts to draw from it. -/
theorem flows_are_shown_import :
    let props : FlowProps := { vertical := false, width := 150 }
    let e := run FlowPage.standard.step (mounted props 0)
      [.frame 16, .power (-500), .frame 1016]
    e.canvas.length = 12 ∧
      ∀ c ∈ e.canvas, (c.red, c.green) = (200, 0) ∧ c.watts = 500 := by
  intro props e
  have hmounted := frame_mounted props 0
  have hturned := frame_power .standard ((mounted props 0).render 16) (-500)
  have htime : Along FlowPage.standard.step OnTime (mounted props 0)
      [.frame 16, .power (-500), .frame 1016] := by
    refine ⟨⟨by norm_num, ?_⟩, trivial, ⟨by norm_num, ?_⟩, trivial⟩
    · rw [hmounted.2.2]
      intro prev hprev
      cases hprev
    · intro prev hprev
      have hsame : some prev = some 16 := hprev.symm.trans hturned.2.2.2
      rw [Option.some.inj hsame]
      norm_num
  obtain ⟨-, -, hshows, -⟩ :=
    (flows_are_shown .standard (by decide) 0 _ htime).1
  replace hshows : Shows e := hshows 1016 rfl
  have hpower : e.power = -500 := hturned.2.1
  have hprops : e.props = props := hturned.1.trans hmounted.1
  refine ⟨?_, ?_⟩
  · rw [hshows.count (by rw [hpower]; decide), hprops]
    simp [props, FlowProps.span]
  · intro c hc
    have hdepicts := hshows.each c hc
    rw [hprops, hpower] at hdepicts
    exact ⟨hdepicts.colour, hdepicts.watts⟩

end SmartHome.Inverter
