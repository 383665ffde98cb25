import GhostBlade.Firmware.PeripheralPower
import GhostBlade.Library.Supply

/-!
The order of the SDR supplies during the power sequences, in a call whose
notifications are answered with no further call. Both sequences switch in an
order that keeps it. What a refused step switches off is every rail of the steps
before, also one that was on before the call, and the rail that refuses is
ramping, so it is on: the second and the third step take away what their own
rail needs.
-/

namespace GhostBlade.Firmware

open GhostBlade.Library

/-- What the rails of the SDR need: the PLL its core, the PA and LNA the PLL. -/
inductive SupplyNeeds : PowerRail → PowerRail → Prop where
  | pll : SupplyNeeds .sdr1v1 .sdr1v8
  | rf : SupplyNeeds .sdr3v3 .sdr1v1

/-- The enable of a rail of the SDR is high only with that of the rail before. -/
def PeripheralPower.Ordered (s : PeripheralPower) : Prop :=
  (s.level .sdr3v3 = true → s.level .sdr1v1 = true) ∧
    (s.level .sdr1v1 = true → s.level .sdr1v8 = true)

/-- With a callback that sees every change of a line. -/
def PeripheralPower.observed (s : PeripheralPower) : PeripheralPower :=
  { s with eventCallback := true }

/-- Both sequences keep the order throughout; the first returns 0 only with all
rails stable, and after an error nothing is on that was not on before. -/
structure PeripheralPower.KeepsOrder (s : PeripheralPower) : Prop where
  onSequence : (peripheralPowerOnSequence s.observed).Silently PeripheralPower.Ordered
    fun result t => t.Ordered ∧ (result = 0 → ∀ rail, t.states rail = .stable) ∧
      (result ≠ 0 → ∀ rail, t.level rail = true → s.level rail = true)
  offSequence : (peripheralPowerOffSequence s.observed).Silently PeripheralPower.Ordered
    fun _ t => t.Ordered

theorem ordered_iff {s : PeripheralPower} : s.Ordered ↔ Supported SupplyNeeds s.level := by
  constructor
  · rintro ⟨hrf, hpll⟩ a b ⟨⟩ ha
    · exact hpll ha
    · exact hrf ha
  · intro h
    exact ⟨h _ _ .rf, h _ _ .pll⟩

/-- The module is initialised, its callback registered, and the lines follow the
states. -/
structure PeripheralPower.Watched (s : PeripheralPower) : Prop where
  initialized : s.initialized = true
  registered : s.eventCallback = true
  gpio : ∀ rail, s.level rail = true ↔ s.states rail = .ramping ∨ s.states rail = .stable

/-- A rail is switched and recorded; lines and states move together. -/
theorem PeripheralPower.Watched.switch {s t : PeripheralPower} (h : s.Watched) {rail : PowerRail}
    {on : Bool} {state : PowerRailState}
    (hstate : on = true ↔ state = .ramping ∨ state = .stable)
    (hinit : t.initialized = s.initialized) (hcb : t.eventCallback = s.eventCallback)
    (hstates : t.states = Function.update s.states rail state)
    (hlevel : t.level = Function.update s.level rail on) : t.Watched where
  initialized := hinit.trans h.initialized
  registered := hcb.trans h.registered
  gpio := by
    intro rail'
    rw [hstates, hlevel]
    by_cases hrail : rail' = rail
    · subst hrail
      rw [Function.update_self, Function.update_self]
      exact hstate
    · rw [Function.update_of_ne hrail, Function.update_of_ne hrail]
      exact h.gpio rail'

theorem setRailGpio_levels (rail : PowerRail) (on : Bool) (s : PeripheralPower) :
    (setRailGpio rail on s).level = Function.update s.level rail on := by
  funext rail'
  rw [setRailGpio_level, Function.update_apply]

/-- Where the states of one rail differ, so do the lines. -/
theorem PeripheralPower.Watched.level_eq {s t : PeripheralPower} (h : s.Watched) (ht : t.Watched)
    {rail : PowerRail} {b : Bool} {state : PowerRailState}
    (hstate : b = true ↔ state = .ramping ∨ state = .stable)
    (hstates : t.states = Function.update s.states rail state) :
    t.level = Function.update s.level rail b := by
  funext rail'
  rw [Bool.eq_iff_iff, ht.gpio, hstates]
  by_cases hrail : rail' = rail
  · subst hrail
    rw [Function.update_self, Function.update_self]
    exact hstate.symm
  · rw [Function.update_of_ne hrail, Function.update_of_ne hrail]
    exact (h.gpio rail').symm

theorem PeripheralPower.Watched.level_same {s t : PeripheralPower} (h : s.Watched) (ht : t.Watched)
    (hstates : t.states = s.states) : t.level = s.level := by
  funext rail
  rw [Bool.eq_iff_iff, ht.gpio, h.gpio, hstates]

/-! ### One rail -/

theorem notifyEvent_silently {rail : PowerRail} {state : PowerRailState} {s : PeripheralPower}
    {G : PeripheralPower → Prop} {Q : PUnit → PeripheralPower → Prop}
    (hcb : s.eventCallback = true) (hG : G s) (hQ : Q ⟨⟩ s) :
    (notifyEvent rail state s).Silently G Q := by
  refine silently_get (silently_ite (fun _ => ⟨hG, hQ⟩) fun hnone => ?_)
  exact absurd hcb hnone

/-- The call refuses a ramping rail and has every other stable at the end. -/
theorem railOn_silently {s : PeripheralPower} (h : s.Watched) (rail : PowerRail) :
    (railOn rail s).Silently (fun u => u.level = Function.update s.level rail true)
      fun result t => t.Watched ∧
        (s.states rail = .ramping ∧ result ≠ 0 ∧ t.states = s.states ∨
          s.states rail ≠ .ramping ∧ result = 0 ∧
            t.states = Function.update s.states rail .stable) := by
  refine silently_get (silently_ite (fun hinit => ?_) fun _ => silently_ite (fun hstable => ?_)
    fun _ => silently_ite (fun hramping => ?_) fun hramping => ?_)
  · rw [h.initialized] at hinit
    exact absurd hinit (by decide)
  · refine ⟨⟨h.initialized, h.registered, h.gpio⟩, .inr ⟨?_, rfl, ?_⟩⟩
    · rw [hstable]
      decide
    · exact (Function.update_eq_self_iff.mpr hstable.symm).symm
  · exact ⟨⟨h.initialized, h.registered, h.gpio⟩, .inl ⟨hramping, by decide, rfl⟩⟩
  · let u := setRailState rail .ramping (setRailGpio rail true s)
    have hlevel : u.level = Function.update s.level rail true := setRailGpio_levels rail true s
    refine silently_modify (silently_modify ?_)
    refine (notifyEvent_silently (s := u) (Q := fun _ t => t = u) h.registered hlevel rfl).bind ?_
    rintro _ _ rfl
    let v := setRailState rail .stable (sleepMs (railConfigs rail).rampMs u)
    refine silently_modify (silently_modify ?_)
    refine (notifyEvent_silently (s := v) (Q := fun _ t => t = v) h.registered hlevel rfl).bind ?_
    rintro _ _ rfl
    have hstates : v.states = Function.update s.states rail .stable := Function.update_idem ..
    have hwatched : v.Watched := h.switch (by decide) rfl rfl hstates hlevel
    exact ⟨⟨hwatched.initialized, hwatched.registered, hwatched.gpio⟩,
      .inr ⟨hramping, rfl, hstates⟩⟩

/-- The call has the rail off at the end. -/
theorem railOff_silently {s : PeripheralPower} (h : s.Watched) (rail : PowerRail) :
    (railOff rail s).Silently (fun u => u.level = Function.update s.level rail false)
      fun _ t => t.Watched ∧ t.states = Function.update s.states rail .off := by
  refine silently_get (silently_ite (fun hinit => ?_) fun _ => silently_ite (fun hoff => ?_)
    fun _ => ?_)
  · rw [h.initialized] at hinit
    exact absurd hinit (by decide)
  · exact ⟨h, (Function.update_eq_self_iff.mpr hoff.symm).symm⟩
  · let u := setRailState rail .off (setRailGpio rail false s)
    have hlevel : u.level = Function.update s.level rail false := setRailGpio_levels rail false s
    refine silently_modify (silently_modify ?_)
    refine (notifyEvent_silently (s := u) (Q := fun _ t => t = u) h.registered hlevel rfl).bind ?_
    rintro _ _ rfl
    exact ⟨h.switch (by decide) rfl rfl rfl hlevel, rfl⟩

/-! ### Several rails -/

theorem railsOff_silently (rails : List PowerRail) {s : PeripheralPower} (h : s.Watched) :
    (railsOff rails s).Silently (fun _ => True)
      fun _ t => t.Watched ∧
        ∀ rail, t.level rail = if rail ∈ rails then false else s.level rail := by
  induction rails generalizing s with
  | nil => exact ⟨h, fun _ => (if_neg (by simp)).symm⟩
  | cons rail rails ih =>
      refine ((railOff_silently h rail).mono (fun _ _ => trivial) fun _ _ hu => hu).bind ?_
      rintro _ u ⟨hu, hstates⟩
      have hlevel := h.level_eq hu (b := false) (by decide) hstates
      refine (ih hu).mono (fun _ ht => ht) ?_
      rintro _ t ⟨ht, hlow⟩
      refine ⟨ht, fun rail' => ?_⟩
      rw [hlow, hlevel]
      by_cases hrail : rail' = rail
      · simp [hrail]
      · simp [hrail]

/-- One rail is switched off after those that need it. -/
theorem railOff_ordered {gone : List PowerRail} {rail : PowerRail} {s : PeripheralPower}
    (h : s.Watched) (horder : s.Ordered) (hfree : ∀ rail', SupplyNeeds rail' rail → rail' ∈ gone)
    (hgone : ∀ rail' ∈ gone, s.level rail' = false) :
    (railOff rail s).Silently PeripheralPower.Ordered fun _ u =>
      u.Watched ∧ u.Ordered ∧ ∀ rail' ∈ rail :: gone, u.level rail' = false := by
  have hlow : Supported SupplyNeeds (Function.update s.level rail false) :=
    ((ordered_iff.mp horder).switchOff_iff (by rintro ⟨⟩)).mpr
      fun rail' hneeds => hgone rail' (hfree rail' hneeds)
  refine (railOff_silently h rail).mono ?_ ?_
  · intro u hu
    rw [ordered_iff, hu]
    exact hlow
  · rintro _ u ⟨hu, hstates⟩
    have hlevel := h.level_eq hu (b := false) (by decide) hstates
    rw [ordered_iff, hlevel]
    refine ⟨hu, hlow, ?_⟩
    intro rail' hmem
    rw [Function.update_apply]
    split_ifs with hrail
    · rfl
    · exact hgone rail' ((List.mem_cons.mp hmem).resolve_left hrail)

theorem railsOff_ordered {gone rails : List PowerRail} {s : PeripheralPower} (h : s.Watched)
    (horder : s.Ordered) (hunwind : Unwinds SupplyNeeds gone rails)
    (hgone : ∀ rail ∈ gone, s.level rail = false) :
    (railsOff rails s).Silently PeripheralPower.Ordered fun _ t => t.Ordered := by
  induction rails generalizing gone s with
  | nil => exact horder
  | cons rail rails ih =>
      refine (railOff_ordered h horder hunwind.1 hgone).bind ?_
      rintro _ u ⟨hu, huorder, hlow⟩
      exact ih hu huorder hunwind.2 hlow

theorem offSequenceFrom_ordered {gone rails : List PowerRail} {s : PeripheralPower}
    (h : s.Watched) (horder : s.Ordered) (hunwind : Unwinds SupplyNeeds gone rails)
    (hgone : ∀ rail ∈ gone, s.level rail = false) :
    (offSequenceFrom rails s).Silently PeripheralPower.Ordered fun _ t => t.Ordered := by
  induction rails generalizing gone s with
  | nil => exact horder
  | cons rail rails ih =>
      have hstep := railOff_ordered h horder hunwind.1 hgone
      cases rails with
      | nil => exact hstep.bind fun _ _ hu => hu.2.1
      | cons next rails =>
          refine hstep.bind ?_
          rintro _ u ⟨hu, huorder, hlow⟩
          refine silently_modify (ih ?_ huorder hunwind.2 hlow)
          exact ⟨hu.initialized, hu.registered, hu.gpio⟩

/-- How the steps end: all rails are stable, or one refuses and those of the
steps before are off. -/
theorem onSequenceFrom_ends (enabled rails : List PowerRail) {s : PeripheralPower}
    (h : s.Watched) :
    (onSequenceFrom enabled rails s).Silently (fun _ => True) fun result t =>
      (result = 0 ∧ (∀ rail ∈ rails, s.states rail ≠ .ramping) ∧
        ∀ rail, t.states rail = if rail ∈ rails then .stable else s.states rail) ∨
      (result ≠ 0 ∧ ∃ pre rail post, rails = pre ++ rail :: post ∧ s.states rail = .ramping ∧
        (∀ rail' ∈ pre, s.states rail' ≠ .ramping) ∧
        ∀ rail', t.level rail' =
          if rail' ∈ enabled ∨ rail' ∈ pre then false else s.level rail') := by
  induction rails generalizing enabled s with
  | nil => exact .inl ⟨rfl, by simp, fun _ => (if_neg (by simp)).symm⟩
  | cons rail rails ih =>
      refine ((railOn_silently h rail).mono (fun _ _ => trivial) fun _ _ hu => hu).bind ?_
      rintro result u ⟨hu, ⟨hramping, hfailed, hstates⟩ | ⟨hready, rfl, hstates⟩⟩
      · refine silently_ite (fun _ => ?_) fun hok => absurd hfailed hok
        refine (railsOff_silently enabled hu).bind ?_
        rintro _ t ⟨ht, hlow⟩
        refine .inr ⟨hfailed, [], rail, rails, rfl, hramping, by simp, fun rail' => ?_⟩
        rw [hlow, h.level_same hu hstates]
        simp
      · refine silently_ite (fun hfailed => absurd rfl hfailed) fun _ => ?_
        have hramping (rail' : PowerRail) :
            u.states rail' = .ramping ↔ s.states rail' = .ramping := by
          rw [hstates, Function.update_apply]
          split_ifs with hrail
          · simp [hrail, hready]
          · rfl
        refine (ih (rail :: enabled) hu).mono (fun _ ht => ht) ?_
        rintro result t (⟨hzero, hnone, hall⟩ |
          ⟨hfailed, pre, rail', post, rfl, hrefuses, hpre, hlow⟩)
        · refine .inl ⟨hzero, ?_, fun rail' => ?_⟩
          · rintro rail' hmem
            rcases List.mem_cons.mp hmem with rfl | hrest
            · exact hready
            · exact fun h' => hnone rail' hrest ((hramping rail').mpr h')
          · rw [hall, hstates, Function.update_apply]
            by_cases hrail : rail' = rail
            · simp [hrail]
            · simp [hrail]
        · refine .inr ⟨hfailed, rail :: pre, rail', post, rfl, (hramping rail').mp hrefuses, ?_, ?_⟩
          · rintro x hmem
            rcases List.mem_cons.mp hmem with rfl | hrest
            · exact hready
            · exact fun h' => hpre x hrest ((hramping x).mpr h')
          · intro x
            rw [hlow, h.level_eq hu (b := true) (by decide) hstates, Function.update_apply]
            by_cases hx : x = rail
            · simp [hx]
            · simp [hx]

/-- Where a step refuses, the steps before can be undone in their order. -/
def SafeRefusal (states : PowerRail → PowerRailState) : List PowerRail → List PowerRail → Prop
  | _, [] => True
  | enabled, rail :: rails =>
      if states rail = .ramping then Unwinds SupplyNeeds [] enabled
      else SafeRefusal states (rail :: enabled) rails

theorem safeRefusal_congr {states states' : PowerRail → PowerRailState}
    (h : ∀ rail, states' rail = .ramping ↔ states rail = .ramping)
    (enabled rails : List PowerRail) :
    SafeRefusal states' enabled rails ↔ SafeRefusal states enabled rails := by
  induction rails generalizing enabled with
  | nil => exact Iff.rfl
  | cons rail rails ih =>
      unfold SafeRefusal
      by_cases hramping : states rail = .ramping
      · rw [if_pos hramping, if_pos ((h rail).mpr hramping)]
      · rw [if_neg hramping, if_neg (mt (h rail).mp hramping)]
        exact ih (rail :: enabled)

/-- Rails that are switched on after those they need. -/
theorem onSequenceFrom_ordered {enabled rails : List PowerRail} {s : PeripheralPower}
    (h : s.Watched) (horder : s.Ordered) (hbuild : Builds SupplyNeeds enabled rails)
    (hon : ∀ rail ∈ enabled, s.level rail = true) (hsafe : SafeRefusal s.states enabled rails) :
    (onSequenceFrom enabled rails s).Silently PeripheralPower.Ordered fun _ t => t.Ordered := by
  induction rails generalizing enabled s with
  | nil => exact horder
  | cons rail rails ih =>
      have hhigh : Supported SupplyNeeds (Function.update s.level rail true) :=
        (ordered_iff.mp horder).switchOn fun rail' hneeds => hon rail' (hbuild.1 rail' hneeds)
      refine ((railOn_silently h rail).mono ?_ fun _ _ hu => hu).bind ?_
      · intro u hu
        rw [ordered_iff, hu]
        exact hhigh
      rintro result u ⟨hu, ⟨hramping, hfailed, hstates⟩ | ⟨hready, rfl, hstates⟩⟩
      · rw [SafeRefusal, if_pos hramping] at hsafe
        refine silently_ite (fun _ => ?_) fun hok => absurd hfailed hok
        have huorder : u.Ordered := by
          rw [ordered_iff, h.level_same hu hstates]
          exact ordered_iff.mp horder
        exact (railsOff_ordered hu huorder hsafe (by simp)).bind fun _ _ ht => ht
      · rw [SafeRefusal, if_neg hready] at hsafe
        have hlevel := h.level_eq hu (b := true) (by decide) hstates
        refine silently_ite (fun hfailed => absurd rfl hfailed) fun _ => ?_
        refine ih hu ?_ hbuild.2 ?_ ?_
        · rw [ordered_iff, hlevel]
          exact hhigh
        · intro rail' hmem
          rw [hlevel, Function.update_apply]
          split_ifs with hrail
          · rfl
          · exact hon rail' ((List.mem_cons.mp hmem).resolve_left hrail)
        · refine (safeRefusal_congr (fun rail' => ?_) _ _).mpr hsafe
          rw [hstates, Function.update_apply]
          split_ifs with hrail
          · simp [hrail, hready]
          · rfl

/-! ### The sequences -/

theorem all_builds : Builds SupplyNeeds [] PowerRail.all := by
  refine ⟨?_, ?_, ?_, ?_, ?_, ?_, trivial⟩ <;> rintro b ⟨⟩ <;> simp

theorem all_unwinds : Unwinds SupplyNeeds [] PowerRail.all.reverse := by
  refine ⟨?_, ?_, ?_, ?_, ?_, ?_, trivial⟩ <;> rintro b ⟨⟩ <;> simp

/-- A rail of the SDR that refuses is safe only if it is the first. -/
theorem safeRefusal_all (states : PowerRail → PowerRailState) :
    SafeRefusal states [] PowerRail.all ↔
      states .sdr1v8 = .ramping ∨ states .sdr1v1 ≠ .ramping ∧ states .sdr3v3 ≠ .ramping := by
  have hcore : ¬ Unwinds SupplyNeeds [] [.sdr1v8] := fun h => by simpa using h.1 _ .pll
  have hpll : ¬ Unwinds SupplyNeeds [] [.sdr1v1, .sdr1v8] := fun h => by simpa using h.1 _ .rf
  have hrf : Unwinds SupplyNeeds [] [.sdr3v3, .sdr1v1, .sdr1v8] := by
    refine ⟨?_, ?_, ?_, trivial⟩ <;> rintro b ⟨⟩ <;> simp
  have hnfc : Unwinds SupplyNeeds [] [.nfc, .sdr3v3, .sdr1v1, .sdr1v8] := by
    refine ⟨?_, ?_, ?_, ?_, trivial⟩ <;> rintro b ⟨⟩ <;> simp
  have hsubghz : Unwinds SupplyNeeds [] [.subghz, .nfc, .sdr3v3, .sdr1v1, .sdr1v8] := by
    refine ⟨?_, ?_, ?_, ?_, ?_, trivial⟩ <;> rintro b ⟨⟩ <;> simp
  simp only [PowerRail.all, SafeRefusal]
  by_cases h1v8 : states .sdr1v8 = .ramping
  · simp [h1v8, Unwinds]
  · by_cases h1v1 : states .sdr1v1 = .ramping
    · simp [h1v8, h1v1, hcore]
    · by_cases h3v3 : states .sdr3v3 = .ramping
      · simp [h1v8, h1v1, h3v3, hpll]
      · simp [h1v8, h1v1, h3v3, hrf, hnfc, hsubghz]

section

variable {s : PeripheralPower}

theorem observed_watched
    (hgpio : ∀ rail, s.level rail = true ↔ s.states rail = .ramping ∨ s.states rail = .stable)
    (hinit : s.initialized = true) : s.observed.Watched :=
  ⟨hinit, rfl, hgpio⟩

/-- Before `peripheral_power_init` both sequences return at once. -/
theorem keepsOrder_of_uninitialized (horder : s.Ordered) (hinit : s.initialized = false) :
    s.KeepsOrder where
  onSequence := by
    refine silently_get (silently_ite (fun _ => ?_) fun hno => absurd hinit hno)
    exact ⟨horder, fun hzero => absurd hzero (by decide), fun _ _ hon => hon⟩
  offSequence := by
    refine silently_get (silently_ite (fun _ => ?_) fun hno => absurd hinit hno)
    exact horder

theorem mem_all (rail : PowerRail) : rail ∈ PowerRail.all := by
  cases rail <;> decide

/-- How `peripheral_power_on_sequence` ends. -/
theorem onSequence_ends (h : s.Watched) :
    (peripheralPowerOnSequence s).Silently (fun _ => True) fun result t =>
      (result = 0 ∧ (∀ rail, s.states rail ≠ .ramping) ∧ ∀ rail, t.states rail = .stable) ∨
      (result ≠ 0 ∧ ∃ pre rail post, PowerRail.all = pre ++ rail :: post ∧
        s.states rail = .ramping ∧ (∀ rail' ∈ pre, s.states rail' ≠ .ramping) ∧
        ∀ rail', t.level rail' = if rail' ∈ pre then false else s.level rail') := by
  refine silently_get (silently_ite (fun hno => ?_) fun _ => ?_)
  · rw [h.initialized] at hno
    exact absurd hno (by decide)
  refine (onSequenceFrom_ends [] PowerRail.all h).mono (fun _ ht => ht) ?_
  rintro result t (⟨hzero, hnone, hall⟩ | ⟨hfailed, pre, rail, post, heq, hrefuses, hpre, hlow⟩)
  · refine .inl ⟨hzero, fun rail => hnone rail (mem_all rail), fun rail => ?_⟩
    rw [hall, if_pos (mem_all rail)]
  · refine .inr ⟨hfailed, pre, rail, post, heq, hrefuses, hpre, fun rail' => ?_⟩
    simp [hlow]

/-- A sequence refused by a rail of the SDR behind the first ends with that rail
on and the one it needs off. -/
theorem refused_disorders (h : s.Watched) (h1v8 : s.states .sdr1v8 ≠ .ramping)
    (hramping : s.states .sdr1v1 = .ramping ∨ s.states .sdr3v3 = .ramping)
    {G : PeripheralPower → Prop} {Q : Int → PeripheralPower → Prop} :
    ¬ (peripheralPowerOnSequence s).Silently G fun result t => t.Ordered ∧ Q result t := by
  intro hall
  obtain ⟨horder, -⟩ := hall.last
  have hends := (onSequence_ends h).last
  generalize (peripheralPowerOnSequence s).last = last at horder hends
  obtain ⟨t, result⟩ := last
  rcases hends with ⟨-, hnone, -⟩ | ⟨-, pre, rail, post, heq, hrefuses, hpre, hlow⟩
  · rcases hramping with h1v1 | h3v3
    · exact hnone _ h1v1
    · exact hnone _ h3v3
  · have hhigh : s.level rail = true := (h.gpio rail).mpr (.inl hrefuses)
    dsimp only at horder hlow
    match pre, heq with
    | [], heq =>
        obtain ⟨rfl, -⟩ := List.cons.inj heq
        exact h1v8 hrefuses
    | [_], heq =>
        simp only [PowerRail.all, List.singleton_append, List.cons.injEq] at heq
        obtain ⟨rfl, rfl, -⟩ := heq
        have hon := hlow .sdr1v1
        have hoff := hlow .sdr1v8
        simp [hhigh] at hon hoff
        exact absurd (horder.2 hon) (by simp [hoff])
    | [_, _], heq =>
        simp only [PowerRail.all, List.cons_append, List.nil_append, List.cons.injEq] at heq
        obtain ⟨rfl, rfl, rfl, -⟩ := heq
        have hon := hlow .sdr3v3
        have hoff := hlow .sdr1v1
        simp [hhigh] at hon hoff
        exact absurd (horder.1 hon) (by simp [hoff])
    | _ :: _ :: _ :: pre, heq =>
        simp only [PowerRail.all, List.cons_append, List.cons.injEq] at heq
        obtain ⟨rfl, rfl, rfl, -⟩ := heq
        rcases hramping with h1v1 | h3v3
        · exact hpre _ (by simp) h1v1
        · exact hpre _ (by simp) h3v3

/-- Both sequences keep the order of the SDR supplies exactly when the first does
not run into a ramping rail of the SDR behind the first. -/
theorem sdr_order_iff
    (hgpio : ∀ rail, s.level rail = true ↔ s.states rail = .ramping ∨ s.states rail = .stable)
    (horder : s.Ordered) :
    s.KeepsOrder ↔ (s.initialized = true → s.states .sdr1v8 = .ramping ∨
      s.states .sdr1v1 ≠ .ramping ∧ s.states .sdr3v3 ≠ .ramping) := by
  cases hinit : s.initialized with
  | false => exact iff_of_true (keepsOrder_of_uninitialized horder hinit) (by simp)
  | true =>
      have h := observed_watched hgpio hinit
      rw [← safeRefusal_all]
      constructor
      · intro hkeeps _
        rw [safeRefusal_all]
        by_contra hunsafe
        simp only [not_or, not_and_or, ne_eq, not_not] at hunsafe
        exact refused_disorders h hunsafe.1 hunsafe.2 hkeeps.onSequence
      · intro hsafe
        constructor
        · have hrun : (peripheralPowerOnSequence s.observed).Silently PeripheralPower.Ordered
              fun _ t => t.Ordered := by
            refine silently_get (silently_ite (fun hno => ?_) fun _ => ?_)
            · exact absurd (hinit.symm.trans hno) (by decide)
            · exact onSequenceFrom_ordered h horder all_builds (by simp) (hsafe rfl)
          refine (hrun.and (onSequence_ends h)).mono (fun _ ht => ht.1) ?_
          rintro result t ⟨ht, ⟨hzero, -, hstable⟩ | ⟨hfailed, pre, _, _, -, -, -, hlow⟩⟩
          · exact ⟨ht, fun _ => hstable, fun hne => absurd hzero hne⟩
          · refine ⟨ht, fun hzero => absurd hzero hfailed, fun _ rail hon => ?_⟩
            rw [hlow] at hon
            split_ifs at hon
            exact hon
        · refine silently_get (silently_ite (fun hno => ?_) fun _ => ?_)
          · exact absurd (hinit.symm.trans hno) (by decide)
          · exact offSequenceFrom_ordered h horder all_unwinds (by simp)

end

/-- Right after `peripheral_power_init`. -/
theorem sdr_order_initialized :
    PeripheralPower.KeepsOrder { PeripheralPower.reset with initialized := true } := by
  refine (sdr_order_iff ?_ ?_).mpr fun _ => .inr ⟨by decide, by decide⟩
  · intro rail
    simp [PeripheralPower.reset, PeripheralPower.level]
  · simp [PeripheralPower.Ordered, PeripheralPower.reset, PeripheralPower.level]

/-- Told that SDR_1V1 is ramping, the callback asks for the whole sequence: it is
refused, and SDR_1V8 goes off under SDR_1V1. -/
theorem ramping_1v1_disorders :
    let s := (run (Suspended.step powerProgram) ⟨.reset, []⟩ [.call .init,
      .call (.setEventCallback true), .call (.on 0), .back, .back, .call (.on 1)]).state
    let t := (peripheralPowerOnSequence s).last.1
    s.Ordered ∧ t.level .sdr1v1 = true ∧ t.level .sdr1v8 = false ∧ ¬ s.KeepsOrder := by
  intro s t
  have hon : t.level .sdr1v1 = true := by decide
  have hoff : t.level .sdr1v8 = false := by decide
  refine ⟨by unfold PeripheralPower.Ordered; decide, hon, hoff, fun hkeeps => ?_⟩
  have horder : t.Ordered := hkeeps.onSequence.last.1
  rw [horder.2 hon] at hoff
  exact absurd hoff (by decide)

/-! ### Without a callback -/

/-- Whether the callback is registered makes no difference to what the program
does. -/
def Unheard {α : Type} (m : PowerProgram α) : Prop :=
  ∀ s, (m s.observed).last = ((m s).last.1.observed, (m s).last.2)

section

variable {α β : Type} {m n : PowerProgram α} {f : α → PowerProgram β}

theorem unheard_pure (a : α) : Unheard (pure a : PowerProgram α) := fun _ => rfl

theorem unheard_bind (hm : Unheard m) (hf : ∀ a, Unheard (f a)) : Unheard (m >>= f) := by
  intro s
  have hobserved : ((m >>= f) s.observed).last =
      (f (m s.observed).last.2 (m s.observed).last.1).last := last_bind _
  have hlast : ((m >>= f) s).last = (f (m s).last.2 (m s).last.1).last := last_bind _
  rw [hobserved, hlast, hm s]
  exact hf _ _

theorem unheard_modify {g : PeripheralPower → PeripheralPower}
    (hg : ∀ s, g s.observed = (g s).observed) : Unheard (Reactive.modify g) :=
  fun s => congrArg (·, PUnit.unit) (hg s)

/-- A program that reads no more than the rest of the state. -/
theorem unheard_get {g : PeripheralPower → PowerProgram α} (hg : ∀ s, g s.observed = g s)
    (h : ∀ s, Unheard (g s)) : Unheard (Reactive.get >>= g) := by
  intro s
  change (g s.observed s.observed).last = ((g s s).last.1.observed, (g s s).last.2)
  rw [hg]
  exact h s s

theorem unheard_ite {c : Prop} [Decidable c] (hm : Unheard m) (hn : Unheard n) :
    Unheard (if c then m else n) := by
  split_ifs
  · exact hm
  · exact hn

end

theorem notifyEvent_unheard (rail : PowerRail) (state : PowerRailState) :
    Unheard (notifyEvent rail state) := by
  intro s
  unfold notifyEvent
  cases hcb : s.eventCallback with
  | false => simp only [Reactive.get, bind, Resumption.bind, hcb]; rfl
  | true => simp only [Reactive.get, bind, Resumption.bind, hcb]; rfl

theorem returnOn_unheard (rail : PowerRail) (result : Int) : Unheard (returnOn rail result) :=
  unheard_bind (unheard_modify fun _ => rfl) fun _ => unheard_pure result

theorem railOn_unheard (rail : PowerRail) : Unheard (railOn rail) := by
  refine unheard_get (fun _ => rfl) fun s => unheard_ite (returnOn_unheard rail _)
    (unheard_ite (returnOn_unheard rail _) (unheard_ite (returnOn_unheard rail _) ?_))
  refine unheard_bind (unheard_modify fun _ => rfl) fun _ => ?_
  refine unheard_bind (unheard_modify fun _ => rfl) fun _ => ?_
  refine unheard_bind (notifyEvent_unheard rail .ramping) fun _ => ?_
  refine unheard_bind (unheard_modify fun _ => rfl) fun _ => ?_
  refine unheard_bind (unheard_modify fun _ => rfl) fun _ => ?_
  exact unheard_bind (notifyEvent_unheard rail .stable) fun _ => returnOn_unheard rail 0

theorem railOff_unheard (rail : PowerRail) : Unheard (railOff rail) := by
  refine unheard_get (fun _ => rfl) fun s => unheard_ite (unheard_pure _)
    (unheard_ite (unheard_pure _) ?_)
  refine unheard_bind (unheard_modify fun _ => rfl) fun _ => ?_
  refine unheard_bind (unheard_modify fun _ => rfl) fun _ => ?_
  exact unheard_bind (notifyEvent_unheard rail .off) fun _ => unheard_pure 0

theorem railsOff_unheard (rails : List PowerRail) : Unheard (railsOff rails) := by
  induction rails with
  | nil => exact unheard_pure _
  | cons rail rails ih => exact unheard_bind (railOff_unheard rail) fun _ => ih

theorem onSequenceFrom_unheard (enabled rails : List PowerRail) :
    Unheard (onSequenceFrom enabled rails) := by
  induction rails generalizing enabled with
  | nil => exact unheard_pure 0
  | cons rail rails ih =>
      refine unheard_bind (railOn_unheard rail) fun result => unheard_ite ?_ (ih _)
      exact unheard_bind (railsOff_unheard enabled) fun _ => unheard_pure result

theorem offSequenceFrom_unheard (rails : List PowerRail) : Unheard (offSequenceFrom rails) := by
  induction rails with
  | nil => exact unheard_pure 0
  | cons rail rails ih =>
      cases rails with
      | nil => exact unheard_bind (railOff_unheard rail) fun _ => unheard_pure 0
      | cons next rails =>
          refine unheard_bind (railOff_unheard rail) fun _ => ?_
          exact unheard_bind (unheard_modify fun _ => rfl) fun _ => ih

/-- A callback that does nothing may as well be registered: the sequences end the
same way. -/
theorem sequences_unheard :
    Unheard peripheralPowerOnSequence ∧ Unheard peripheralPowerOffSequence :=
  ⟨unheard_get (fun _ => rfl) fun _ => unheard_ite (unheard_pure _) (onSequenceFrom_unheard _ _),
    unheard_get (fun _ => rfl) fun _ => unheard_ite (unheard_pure _) (offSequenceFrom_unheard _)⟩

end GhostBlade.Firmware
