import Mathlib.Tactic
import GhostBlade.Library.Resumption

/-!
Power rails of the firmware (`peripheral_power.c`). Every change of a rail's
state is notified to a callback, which may call the module again: on its own
rail too, and while the rail it is told about is still ramping.
-/

namespace GhostBlade.Firmware

open GhostBlade.Library

inductive PowerRail where
  | sdr1v8
  | sdr1v1
  | sdr3v3
  | nfc
  | subghz
  | sdio
deriving DecidableEq, Repr

/-- In the order of `enum power_rail_id`. -/
def PowerRail.all : List PowerRail := [.sdr1v8, .sdr1v1, .sdr3v3, .nfc, .subghz, .sdio]

structure PowerRailConfig where
  gpioPin : Nat
  activeHigh : Bool
  rampMs : Nat
deriving DecidableEq, Repr

def railConfigs : PowerRail → PowerRailConfig
  | .sdr1v8 => ⟨18, true, 5⟩
  | .sdr1v1 => ⟨19, true, 5⟩
  | .sdr3v3 => ⟨20, true, 5⟩
  | .nfc => ⟨22, true, 50⟩
  | .subghz => ⟨23, true, 50⟩
  | .sdio => ⟨24, true, 20⟩

inductive PowerRailState where
  | off
  | ramping
  | stable
  | fault
deriving DecidableEq, Repr

/-- What `peripheral_power_on` returned, and how it left the rail. -/
structure OnReturn where
  rail : PowerRail
  result : Int
  state : PowerRailState
  level : Bool
deriving DecidableEq, Repr

/-- `pp_state` and the levels of the GPIOs; the time slept and the record of
what `peripheral_power_on` returned are not in the source. -/
structure PeripheralPower where
  states : PowerRail → PowerRailState
  gpio : Nat → Bool
  eventCallback : Bool
  initialized : Bool
  sleptMs : Nat
  onReturns : List OnReturn

/-- After a reset; pull-downs keep the rails off. -/
def PeripheralPower.reset : PeripheralPower :=
  ⟨fun _ => .off, fun _ => false, false, false, 0, []⟩

def PeripheralPower.level (s : PeripheralPower) (rail : PowerRail) : Bool :=
  s.gpio (railConfigs rail).gpioPin

def setRailGpio (rail : PowerRail) (on : Bool) (s : PeripheralPower) : PeripheralPower :=
  let cfg := railConfigs rail
  let level := if cfg.activeHigh then on else !on
  { s with gpio := Function.update s.gpio cfg.gpioPin level }

def setRailState (rail : PowerRail) (state : PowerRailState) (s : PeripheralPower) :
    PeripheralPower :=
  { s with states := Function.update s.states rail state }

def sleepMs (ms : Nat) (s : PeripheralPower) : PeripheralPower :=
  { s with sleptMs := s.sleptMs + ms }

/-- Functions of the module, which notify the callback of a rail and its state. -/
abbrev PowerProgram := Reactive PeripheralPower (PowerRail × PowerRailState)

def notifyEvent (rail : PowerRail) (state : PowerRailState) : PowerProgram PUnit := do
  let s ← Reactive.get
  if s.eventCallback then Reactive.notify (rail, state)

def peripheralPowerInit : PowerProgram Int := do
  Reactive.modify fun s =>
    PowerRail.all.foldl (fun s rail => setRailState rail .off (setRailGpio rail false s)) s
  Reactive.modify fun s => { s with eventCallback := false, initialized := true }
  pure 0

/-- A `return` of `peripheral_power_on`. -/
def returnOn (rail : PowerRail) (result : Int) : PowerProgram Int := do
  Reactive.modify fun s =>
    { s with onReturns := s.onReturns ++ [⟨rail, result, s.states rail, s.level rail⟩] }
  pure result

/-- `peripheral_power_on` behind the check of its argument. -/
def railOn (rail : PowerRail) : PowerProgram Int := do
  let s ← Reactive.get
  if s.initialized = false then returnOn rail (-1)
  else if s.states rail = .stable then returnOn rail 0
  else if s.states rail = .ramping then returnOn rail (-1)
  else
    Reactive.modify (setRailGpio rail true)
    Reactive.modify (setRailState rail .ramping)
    notifyEvent rail .ramping
    Reactive.modify (sleepMs (railConfigs rail).rampMs)
    Reactive.modify (setRailState rail .stable)
    notifyEvent rail .stable
    returnOn rail 0

/-- `peripheral_power_off` behind the check of its argument. -/
def railOff (rail : PowerRail) : PowerProgram Int := do
  let s ← Reactive.get
  if s.initialized = false then pure (-1)
  else if s.states rail = .off then pure 0
  else
    Reactive.modify (setRailGpio rail false)
    Reactive.modify (setRailState rail .off)
    notifyEvent rail .off
    pure 0

def railOf (rail : Int) : Option PowerRail :=
  if rail < 0 ∨ rail ≥ 6 then none else PowerRail.all[rail.toNat]?

def peripheralPowerOn (rail : Int) : PowerProgram Int :=
  match railOf rail with
  | none => pure (-1)
  | some rail => railOn rail

def peripheralPowerOff (rail : Int) : PowerProgram Int :=
  match railOf rail with
  | none => pure (-1)
  | some rail => railOff rail

/-- What a failed step of the sequence switches off again. -/
def railsOff : List PowerRail → PowerProgram PUnit
  | [] => pure ⟨⟩
  | rail :: rails => do
      let _ ← railOff rail
      railsOff rails

/-- The steps of `peripheral_power_on_sequence`; `enabled` lists the rails of
the steps before, the last one first. -/
def onSequenceFrom (enabled : List PowerRail) : List PowerRail → PowerProgram Int
  | [] => pure 0
  | rail :: rails => do
      let result ← railOn rail
      if result ≠ 0 then
        railsOff enabled
        pure result
      else onSequenceFrom (rail :: enabled) rails

def peripheralPowerOnSequence : PowerProgram Int := do
  let s ← Reactive.get
  if s.initialized = false then pure (-1)
  else onSequenceFrom [] PowerRail.all

/-- The steps of `peripheral_power_off_sequence`, with a delay between them. -/
def offSequenceFrom : List PowerRail → PowerProgram Int
  | [] => pure 0
  | [rail] => do
      let _ ← railOff rail
      pure 0
  | rail :: rails => do
      let _ ← railOff rail
      Reactive.modify (sleepMs 5)
      offSequenceFrom rails

def peripheralPowerOffSequence : PowerProgram Int := do
  let s ← Reactive.get
  if s.initialized = false then pure (-1)
  else offSequenceFrom PowerRail.all.reverse

/-- Which callback is registered does not matter: it may do anything. -/
def peripheralPowerSetEventCallback (registered : Bool) : PowerProgram Int := do
  Reactive.modify fun s => { s with eventCallback := registered }
  pure 0

inductive PowerCall where
  | init
  | on (rail : Int)
  | off (rail : Int)
  | onSequence
  | offSequence
  | setEventCallback (registered : Bool)
deriving DecidableEq, Repr

def powerProgram : PowerCall → PowerProgram Int
  | .init => peripheralPowerInit
  | .on rail => peripheralPowerOn rail
  | .off rail => peripheralPowerOff rail
  | .onSequence => peripheralPowerOnSequence
  | .offSequence => peripheralPowerOffSequence
  | .setEventCallback registered => peripheralPowerSetEventCallback registered

/-! ### What the states say -/

/-- The enable GPIOs follow the states, and a return of 0 left the rail on. -/
structure PeripheralPower.Matches (s : PeripheralPower) : Prop where
  gpio : ∀ rail, s.level rail = true ↔ s.states rail = .ramping ∨ s.states rail = .stable
  onReturns : ∀ x ∈ s.onReturns, x.result = 0 → x.state = .stable ∧ x.level = true

/-- How the callback may leave the rail it was told about. -/
def CallbackLeaves : PowerRail × PowerRailState → PeripheralPower → Prop
  | (rail, .ramping), s => s.states rail ≠ .off
  | (rail, .stable), s => s.states rail = .stable
  | _, _ => True

/-- No rail is ever found faulty. -/
structure PeripheralPower.Consistent (s : PeripheralPower) : Prop extends s.Matches where
  known : ∀ rail, s.states rail ≠ .fault

theorem gpioPin_inj {rail rail' : PowerRail} :
    (railConfigs rail).gpioPin = (railConfigs rail').gpioPin ↔ rail = rail' := by
  cases rail <;> cases rail' <;> simp [railConfigs]

theorem setRailGpio_level (rail rail' : PowerRail) (on : Bool) (s : PeripheralPower) :
    (setRailGpio rail on s).level rail' = if rail' = rail then on else s.level rail' := by
  have hhigh : (railConfigs rail).activeHigh = true := by cases rail <;> rfl
  unfold PeripheralPower.level setRailGpio
  simp only [Function.update_apply, gpioPin_inj, hhigh, if_true]

theorem setRailState_states (rail rail' : PowerRail) (state : PowerRailState)
    (s : PeripheralPower) :
    (setRailState rail state s).states rail' = if rail' = rail then state else s.states rail' :=
  Function.update_apply _ _ _ _

/-- Switching a rail on or off and recording it. -/
theorem switched_consistent {rail : PowerRail} {on : Bool} {state : PowerRailState}
    (hstate : on = true ↔ state = .ramping ∨ state = .stable) (hknown : state ≠ .fault)
    {s : PeripheralPower} (h : s.Consistent) :
    (setRailState rail state (setRailGpio rail on s)).Consistent := by
  refine ⟨⟨fun rail' => ?_, h.onReturns⟩, fun rail' => ?_⟩
  · change (setRailGpio rail on s).level rail' = true ↔ _
    rw [setRailGpio_level, setRailState_states]
    by_cases hrail : rail' = rail
    · simp only [if_pos hrail]
      exact hstate
    · simp only [if_neg hrail]
      exact h.gpio rail'
  · rw [setRailState_states]
    split_ifs
    · exact hknown
    · exact h.known rail'

/-- What touches neither the rails nor the record. -/
theorem PeripheralPower.Consistent.frame {s t : PeripheralPower} (h : s.Consistent)
    (hstates : t.states = s.states) (hgpio : t.gpio = s.gpio)
    (hreturns : t.onReturns = s.onReturns) : t.Consistent := by
  refine ⟨⟨?_, ?_⟩, ?_⟩
  · unfold PeripheralPower.level
    rw [hgpio, hstates]
    exact h.gpio
  · rw [hreturns]
    exact h.onReturns
  · rw [hstates]
    exact h.known

/-- A rail that is on may be recorded as stable. -/
theorem stable_consistent {rail : PowerRail} {s : PeripheralPower} (h : s.Consistent)
    (hon : s.states rail ≠ .off) : (setRailState rail .stable s).Consistent := by
  have hlevel : s.level rail = true := by
    rw [h.gpio]
    cases hs : s.states rail with
    | off => exact absurd hs hon
    | ramping => exact .inl rfl
    | stable => exact .inr rfl
    | fault => exact absurd hs (h.known rail)
  refine ⟨⟨fun rail' => ?_, h.onReturns⟩, fun rail' => ?_⟩
  · change s.level rail' = true ↔ _
    rw [setRailState_states]
    by_cases hrail : rail' = rail
    · simp [hrail, hlevel]
    · simp only [if_neg hrail]
      exact h.gpio rail'
  · rw [setRailState_states]
    split_ifs
    · rintro ⟨⟩
    · exact h.known rail'

/-! ### One function at a time -/

abbrev PowerTriple {α : Type} (P : PeripheralPower → Prop) (m : PowerProgram α)
    (Q : α → PeripheralPower → Prop) : Prop :=
  Reactive.Triple PeripheralPower.Consistent CallbackLeaves P m Q

theorem notifyEvent_keeps (rail : PowerRail) (state : PowerRailState) :
    PowerTriple (fun s => s.Consistent ∧ CallbackLeaves (rail, state) s) (notifyEvent rail state)
      fun _ s => s.Consistent ∧ CallbackLeaves (rail, state) s := by
  refine triple_get fun s hs => triple_ite (fun _ => ?_) (fun _ => ?_)
  · exact triple_notify _ (fun t ht => ht ▸ hs.1) fun t hI hR => ⟨hI, hR⟩
  · exact triple_pure _ fun t ht => ht ▸ hs

theorem returnOn_keeps {P : PeripheralPower → Prop} {rail : PowerRail} {result : Int}
    (hP : ∀ s, P s → s.Consistent ∧ (result = 0 → s.states rail = .stable)) :
    PowerTriple P (returnOn rail result) fun _ s => s.Consistent := by
  refine triple_modify (M := PeripheralPower.Consistent) _ ?_ (triple_pure _ fun _ hs => hs)
  intro s hsP
  obtain ⟨hs, hresult⟩ := hP s hsP
  refine ⟨⟨hs.gpio, ?_⟩, hs.known⟩
  intro x hx hzero
  rcases List.mem_append.mp hx with hold | hnew
  · exact hs.onReturns x hold hzero
  · obtain rfl := List.mem_singleton.mp hnew
    have hstable := hresult hzero
    exact ⟨hstable, (hs.gpio rail).mpr (.inr hstable)⟩

theorem railOn_keeps (rail : PowerRail) :
    PowerTriple PeripheralPower.Consistent (railOn rail) fun _ s => s.Consistent := by
  refine triple_get fun s hs => ?_
  refine triple_ite (fun _ => ?_) fun _ => triple_ite (fun hstable => ?_) fun _ =>
    triple_ite (fun _ => ?_) fun _ => ?_
  · exact returnOn_keeps (by rintro t rfl; exact ⟨hs, by simp⟩)
  · exact returnOn_keeps (by rintro t rfl; exact ⟨hs, fun _ => hstable⟩)
  · exact returnOn_keeps (by rintro t rfl; exact ⟨hs, by simp⟩)
  · -- between the two writes the rail is only half switched on
    refine triple_modify (M := (· = setRailGpio rail true s)) _ (by rintro t rfl; rfl) ?_
    refine triple_modify _ ?_ (triple_bind (notifyEvent_keeps rail .ramping) fun _ => ?_)
    · rintro t rfl
      refine ⟨switched_consistent (by simp) (by simp) hs, ?_⟩
      change (setRailState rail .ramping _).states rail ≠ .off
      simp [setRailState_states]
    · refine triple_modify (M := fun t => t.Consistent ∧ t.states rail ≠ .off) _ ?_ ?_
      · rintro t ⟨ht, hon⟩
        exact ⟨ht.frame rfl rfl rfl, hon⟩
      · refine triple_modify _ ?_ (triple_bind (notifyEvent_keeps rail .stable) fun _ => ?_)
        · rintro t ⟨ht, hon⟩
          refine ⟨stable_consistent ht hon, ?_⟩
          change (setRailState rail .stable t).states rail = .stable
          simp [setRailState_states]
        · exact returnOn_keeps fun t ht => ⟨ht.1, fun _ => ht.2⟩

theorem railOff_keeps (rail : PowerRail) :
    PowerTriple PeripheralPower.Consistent (railOff rail) fun _ s => s.Consistent := by
  refine triple_get fun s hs => ?_
  refine triple_ite (fun _ => ?_) fun _ => triple_ite (fun _ => ?_) fun _ => ?_
  · exact triple_pure _ (by rintro t rfl; exact hs)
  · exact triple_pure _ (by rintro t rfl; exact hs)
  · refine triple_modify (M := (· = setRailGpio rail false s)) _ (by rintro t rfl; rfl) ?_
    refine triple_modify _ ?_ (triple_bind (notifyEvent_keeps rail .off) fun _ => ?_)
    · rintro t rfl
      exact ⟨switched_consistent (by simp) (by simp) hs, trivial⟩
    · exact triple_pure _ fun t ht => ht.1

theorem railsOff_keeps (rails : List PowerRail) :
    PowerTriple PeripheralPower.Consistent (railsOff rails) fun _ s => s.Consistent := by
  induction rails with
  | nil => exact triple_pure _ fun _ hs => hs
  | cons rail rails ih => exact triple_bind (railOff_keeps rail) fun _ => ih

theorem onSequenceFrom_keeps (enabled rails : List PowerRail) :
    PowerTriple PeripheralPower.Consistent (onSequenceFrom enabled rails)
      fun _ s => s.Consistent := by
  induction rails generalizing enabled with
  | nil => exact triple_pure _ fun _ hs => hs
  | cons rail rails ih =>
      refine triple_bind (railOn_keeps rail) fun result => triple_ite (fun _ => ?_) fun _ => ?_
      · exact triple_bind (railsOff_keeps enabled) fun _ => triple_pure _ fun _ hs => hs
      · exact ih (rail :: enabled)

theorem offSequenceFrom_keeps (rails : List PowerRail) :
    PowerTriple PeripheralPower.Consistent (offSequenceFrom rails) fun _ s => s.Consistent := by
  induction rails with
  | nil => exact triple_pure _ fun _ hs => hs
  | cons rail rails ih =>
      cases rails with
      | nil => exact triple_bind (railOff_keeps rail) fun _ => triple_pure _ fun _ hs => hs
      | cons next rails =>
          refine triple_bind (railOff_keeps rail) fun _ => ?_
          refine triple_modify (M := PeripheralPower.Consistent) _ ?_ ih
          exact fun t ht => ht.frame rfl rfl rfl

theorem init_keeps :
    PowerTriple PeripheralPower.Consistent peripheralPowerInit fun _ s => s.Consistent := by
  refine triple_modify (M := PeripheralPower.Consistent) _ ?_ ?_
  · intro s hs
    refine List.foldlRecOn PowerRail.all _ hs fun t ht rail _ => ?_
    exact switched_consistent (by simp) (by simp) ht
  · refine triple_modify (M := PeripheralPower.Consistent) _ ?_ (triple_pure _ fun _ hs => hs)
    exact fun t ht => ht.frame rfl rfl rfl

theorem powerProgram_keeps (call : PowerCall) :
    PowerTriple PeripheralPower.Consistent (powerProgram call) fun _ s => s.Consistent := by
  cases call with
  | init => exact init_keeps
  | on rail =>
      change PowerTriple _ (peripheralPowerOn rail) _
      unfold peripheralPowerOn
      split
      · exact triple_pure _ fun _ hs => hs
      · exact railOn_keeps _
  | off rail =>
      change PowerTriple _ (peripheralPowerOff rail) _
      unfold peripheralPowerOff
      split
      · exact triple_pure _ fun _ hs => hs
      · exact railOff_keeps _
  | onSequence =>
      refine triple_get fun s hs => triple_ite (fun _ => ?_) fun _ => ?_
      · exact triple_pure _ (by rintro t rfl; exact hs)
      · exact triple_conseq (by rintro t rfl; exact hs) (fun _ _ h => h)
          (onSequenceFrom_keeps [] PowerRail.all)
  | offSequence =>
      refine triple_get fun s hs => triple_ite (fun _ => ?_) fun _ => ?_
      · exact triple_pure _ (by rintro t rfl; exact hs)
      · exact triple_conseq (by rintro t rfl; exact hs) (fun _ _ h => h)
          (offSequenceFrom_keeps PowerRail.all.reverse)
  | setEventCallback registered =>
      refine triple_modify (M := PeripheralPower.Consistent) _ ?_ (triple_pure _ fun _ hs => hs)
      exact fun t ht => ht.frame rfl rfl rfl

/-! ### All nestings -/

theorem reset_consistent : PeripheralPower.reset.Consistent :=
  ⟨⟨fun _ => by simp [PeripheralPower.reset, PeripheralPower.level], by rintro x ⟨⟩⟩,
    fun _ => by rintro ⟨⟩⟩

/-- At every notification and whenever a call is back, as long as the callback
has left each rail it was told about as it may. -/
theorem rails_match (es : List (EnvEvent PowerCall))
    (h : Along (Suspended.step powerProgram) (Suspended.Relied CallbackLeaves)
      ⟨.reset, []⟩ es) :
    ∀ us, us <+: es → (run (Suspended.step powerProgram) ⟨.reset, []⟩ us).state.Matches := by
  rintro us ⟨vs, rfl⟩
  have hsound := sound_run powerProgram_keeps reset_consistent (along_append.mp h).1
  exact hsound.state.toMatches

/-- While the NFC rail is ramping the callback switches on the first SDR rail. -/
theorem rails_match_nested :
    (run (Suspended.step powerProgram) ⟨.reset, []⟩ [.call .init, .call (.setEventCallback true),
      .call (.on 3), .call (.on 0), .back, .back, .back, .back]).state.Matches := by
  refine rails_match _ ?_ _ List.prefix_rfl
  refine ⟨trivial, trivial, trivial, trivial, ?_, ?_, ?_, ?_, trivial⟩
  · rintro f ⟨⟩
    exact fun h : PowerRailState.ramping = .off => by cases h
  · rintro f ⟨⟩
    exact (rfl : PowerRailState.stable = .stable)
  · rintro f ⟨⟩
    exact fun h : PowerRailState.ramping = .off => by cases h
  · rintro f ⟨⟩
    exact (rfl : PowerRailState.stable = .stable)

/-- Told that a rail is ramping, the callback switches it off; it is recorded as
stable all the same, and the call that switched it on returns 0. -/
theorem ramping_rail_switched_off :
    ¬ ∀ us, us <+: [.call .init, .call (.setEventCallback true), .call (.on 0), .call (.off 0),
        .back, .back, .back] →
      (run (Suspended.step powerProgram) ⟨.reset, []⟩ us).state.Matches := by
  intro h
  have hmatches := h _ List.prefix_rfl
  have hlow := hmatches.onReturns ⟨.sdr1v8, 0, .stable, false⟩ List.mem_cons_self rfl
  cases hlow.2

end GhostBlade.Firmware
