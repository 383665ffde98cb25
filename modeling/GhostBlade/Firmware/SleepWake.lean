import Mathlib.Tactic
import GhostBlade.Library.Run
import GhostBlade.Firmware.RxRing

/-!
The sleep state machine of the firmware (`sleep_wake.c`), one statement at a
time. Activity is a change of `spi_rx_head` since the last look at it. A call of
`sleep_wake_process` looks once when it starts and once more, for nothing but to
forget what it sees, when it enters a sleep state; the handler moves the index
at any time.
-/

namespace GhostBlade.Firmware

open GhostBlade.Library

/-- `enum sleep_state` with its last member, the number of the others. -/
inductive SleepState where
  | idle
  | light
  | deep
  | count
deriving DecidableEq, Repr

/-- The next statement of `sleep_wake_process`, with the values of its variables
and of those of `check_spi_activity`; `enter` is the look of `enter_light_sleep`
and `enter_deep_sleep`. -/
inductive SleepPc where
  | outside
  | check (now idleMs : BitVec 32)
  | compare (now idleMs currentHead : BitVec 32)
  | forced (now idleMs : BitVec 32) (hasActivity : Bool)
  | clear (now : BitVec 32)
  | forcedExit (now : BitVec 32)
  | active (now : BitVec 32)
  | quiet (now idleMs : BitVec 32)
  | enter (now : BitVec 32) (target : SleepState)
  | enterCompare (now : BitVec 32) (target : SleepState) (currentHead : BitVec 32)
  | entered (now : BitVec 32) (target : SleepState)
  | finish (now : BitVec 32)
deriving DecidableEq, Repr

/-- `sw_state`, the static `last_head` and the shared index. The last component
counts the bytes accepted since the last look at the index. -/
structure SleepWake where
  state : SleepState
  lastActivityMs : BitVec 32
  lastProcessMs : BitVec 32
  idleCount : BitVec 32
  forceWakePending : Bool
  lastHead : BitVec 32
  spiRxHead : BitVec 32
  pc : SleepPc
  unseen : Nat
deriving DecidableEq, Repr

/-- `sleep_wake_init` after a reset. -/
def sleepWakeInit (nowMs : BitVec 32) : SleepWake :=
  ⟨.idle, nowMs, nowMs, 0, false, 0, 0, .outside, 0⟩

inductive SleepEvent where
  | statement (nowMs : BitVec 32)
  | byte
  | forceWake
deriving DecidableEq, Repr

/-- The next statement of `sleep_wake_process`; outside a call it reads the
clock and thereby starts one. -/
def SleepWake.statement (nowMs : BitVec 32) (s : SleepWake) : SleepWake :=
  match s.pc with
  | .outside => { s with pc := .check nowMs (nowMs - s.lastActivityMs) }
  | .check now idleMs => { s with pc := .compare now idleMs s.spiRxHead, unseen := 0 }
  | .compare now idleMs currentHead =>
      if currentHead ≠ s.lastHead then
        { s with lastHead := currentHead, pc := .forced now idleMs true }
      else { s with pc := .forced now idleMs false }
  | .forced now idleMs hasActivity =>
      if s.forceWakePending then { s with pc := .clear now }
      else if hasActivity then { s with pc := .active now }
      else { s with pc := .quiet now idleMs }
  | .clear now => { s with forceWakePending := false, pc := .forcedExit now }
  | .forcedExit now =>
      { s with state := .idle, idleCount := 0, lastActivityMs := now, pc := .outside }
  | .active now =>
      let s := { s with lastActivityMs := now, idleCount := 0, pc := .outside }
      match s.state with
      | .deep | .light => { s with state := .idle }
      | _ => s
  | .quiet now idleMs =>
      let s := { s with idleCount := s.idleCount + 1 }
      match s.state with
      | .idle =>
          if idleMs ≥ 5000#32 then { s with pc := .enter now .light }
          else { s with pc := .finish now }
      | .light =>
          if idleMs ≥ 30000#32 then { s with pc := .enter now .deep }
          else { s with pc := .finish now }
      | .deep => { s with pc := .finish now }
      | .count => { s with state := .idle, pc := .finish now }
  | .enter now target => { s with pc := .enterCompare now target s.spiRxHead, unseen := 0 }
  | .enterCompare now target currentHead =>
      if currentHead ≠ s.lastHead then
        { s with lastHead := currentHead, pc := .entered now target }
      else { s with pc := .entered now target }
  | .entered now target => { s with state := target, idleCount := 0, pc := .finish now }
  | .finish now => { s with lastProcessMs := now, pc := .outside }

/-- A statement of the module, a byte the handler accepts, or a call of
`sleep_wake_force_wake`. -/
def SleepWake.step (s : SleepWake) : SleepEvent → SleepWake
  | .statement nowMs => s.statement nowMs
  | .byte => { s with spiRxHead := (s.spiRxHead + 1#32) % 8192#32, unseen := s.unseen + 1 }
  | .forceWake => { s with forceWakePending := true }

/-- The event is what the weak `spi0_handler` does to the index. -/
theorem accepted_byte_moves (s : SleepWake) (fw : Mcu) (byte : Byte)
    (hroom : fw.spiRx.head + 1 ≠ fw.spiRx.tail) (hhead : s.spiRxHead = index32 fw.spiRx.head) :
    (s.step .byte).spiRxHead = index32 (storeRxByte fw byte).spiRx.head := by
  rw [storeRxByte, if_pos hroom]
  change (s.spiRxHead + 1#32) % 8192#32 = index32 (fw.spiRx.head + 1)
  rw [hhead, index32_succ]

/-- What the statement that ends a call returns. -/
def SleepWake.returned (s : SleepWake) : SleepEvent → List SleepState
  | .statement nowMs =>
      if s.pc ≠ .outside ∧ (s.statement nowMs).pc = .outside then [(s.statement nowMs).state]
      else []
  | _ => []

/-- After every byte the call in progress or the next one returns `idle`, and
where no call is in progress the next one does. -/
def SleepWake.NoLostWake (s : SleepWake) (es : List SleepEvent) : Prop :=
  ∀ us vs, es = us ++ .byte :: vs →
    let t := run SleepWake.step s us
    let returns := observe SleepWake.step SleepWake.returned (t.step .byte) vs
    (t.pc = .outside → 1 ≤ returns.length → .idle ∈ returns.take 1) ∧
      (t.pc ≠ .outside → 2 ≤ returns.length → .idle ∈ returns.take 2)

/-- Without activity the call returns `idle` all the same. -/
def SleepWake.StaysIdle (s : SleepWake) (idleMs : BitVec 32) : Prop :=
  s.forceWakePending = true ∨ s.state = .idle ∧ idleMs < 5000#32

/-- The first look of a call does not find the index where it was after once
around the ring or more, and the look at the entry into a sleep state finds
nothing new. -/
def SleepWake.Sees (s : SleepWake) : SleepEvent → Prop
  | .statement _ =>
      match s.pc with
      | .check _ idleMs => s.unseen = 0 ∨ s.unseen % 8192 ≠ 0 ∨ s.StaysIdle idleMs
      | .enter _ _ => s.unseen = 0
      | _ => True
  | _ => True

/-! ### The index -/

/-- The index as the last look found it. -/
def SleepWake.lastLook (s : SleepWake) : BitVec 32 :=
  match s.pc with
  | .compare _ _ currentHead => currentHead
  | .enterCompare _ _ currentHead => currentHead
  | _ => s.lastHead

/-- The state a call is about to enter. -/
def SleepPc.target : SleepPc → Option SleepState
  | .enter _ target => some target
  | .enterCompare _ target _ => some target
  | .entered _ target => some target
  | _ => none

/-- The index has moved by the unseen bytes, and the state is never the number
of states. -/
structure SleepWake.Tracks (s : SleepWake) : Prop where
  last : s.lastLook.toNat < 8192
  head : s.spiRxHead.toNat = (s.lastLook.toNat + s.unseen) % 8192
  state : s.state ≠ .count
  target : ∀ t ∈ s.pc.target, t ≠ .count

theorem tracks_init (nowMs : BitVec 32) : (sleepWakeInit nowMs).Tracks :=
  ⟨Nat.zero_lt_succ _, rfl, by rintro ⟨⟩, by rintro t ⟨⟩⟩

/-- A look at the index. -/
theorem tracks_look {s : SleepWake} (h : s.Tracks) {pc : SleepPc}
    (hlook : ({ s with pc := pc, unseen := 0 } : SleepWake).lastLook = s.spiRxHead)
    (htarget : ∀ t ∈ pc.target, t ≠ .count) :
    ({ s with pc := pc, unseen := 0 } : SleepWake).Tracks := by
  have hlt : s.spiRxHead.toNat < 8192 := by
    rw [h.head]
    exact Nat.mod_lt _ (by decide)
  refine ⟨by rwa [hlook], ?_, h.state, htarget⟩
  rw [hlook]
  exact (Nat.mod_eq_of_lt hlt).symm

theorem tracks_statement (nowMs : BitVec 32) (s : SleepWake) (h : s.Tracks) :
    (s.statement nowMs).Tracks := by
  have hlook := @tracks_look s h
  obtain ⟨hlast, hhead, hstate, htarget⟩ := h
  unfold SleepWake.lastLook at hlast hhead
  unfold SleepWake.statement
  generalize s.pc = pc at hlast hhead htarget ⊢
  cases pc with
  | outside => exact ⟨hlast, hhead, hstate, by rintro t ⟨⟩⟩
  | check now idleMs => exact hlook rfl (by rintro t ⟨⟩)
  | compare now idleMs currentHead =>
      dsimp only at hlast hhead ⊢
      split_ifs with hsame
      · exact ⟨hlast, hhead, hstate, by rintro t ⟨⟩⟩
      · rw [not_not.mp hsame] at hlast hhead
        exact ⟨hlast, hhead, hstate, by rintro t ⟨⟩⟩
  | forced now idleMs hasActivity =>
      dsimp only
      split_ifs <;> exact ⟨hlast, hhead, hstate, by rintro t ⟨⟩⟩
  | clear now => exact ⟨hlast, hhead, hstate, by rintro t ⟨⟩⟩
  | forcedExit now => exact ⟨hlast, hhead, by rintro ⟨⟩, by rintro t ⟨⟩⟩
  | active now =>
      dsimp only
      split
      · exact ⟨hlast, hhead, by rintro ⟨⟩, by rintro t ⟨⟩⟩
      · exact ⟨hlast, hhead, by rintro ⟨⟩, by rintro t ⟨⟩⟩
      · exact ⟨hlast, hhead, hstate, by rintro t ⟨⟩⟩
  | quiet now idleMs =>
      dsimp only
      split
      · split_ifs
        · exact ⟨hlast, hhead, hstate, by rintro t ⟨⟩ ⟨⟩⟩
        · exact ⟨hlast, hhead, hstate, by rintro t ⟨⟩⟩
      · split_ifs
        · exact ⟨hlast, hhead, hstate, by rintro t ⟨⟩ ⟨⟩⟩
        · exact ⟨hlast, hhead, hstate, by rintro t ⟨⟩⟩
      · exact ⟨hlast, hhead, hstate, by rintro t ⟨⟩⟩
      · exact ⟨hlast, hhead, by rintro ⟨⟩, by rintro t ⟨⟩⟩
  | enter now target => exact hlook rfl htarget
  | enterCompare now target currentHead =>
      dsimp only at hlast hhead ⊢
      split_ifs with hsame
      · exact ⟨hlast, hhead, hstate, htarget⟩
      · rw [not_not.mp hsame] at hlast hhead
        exact ⟨hlast, hhead, hstate, htarget⟩
  | entered now target => exact ⟨hlast, hhead, htarget target rfl, by rintro t ⟨⟩⟩
  | finish now => exact ⟨hlast, hhead, hstate, by rintro t ⟨⟩⟩

theorem tracks_step (s : SleepWake) (e : SleepEvent) (h : s.Tracks) : (s.step e).Tracks := by
  cases e with
  | statement nowMs => exact tracks_statement nowMs s h
  | byte =>
      obtain ⟨hlast, hhead, hstate, htarget⟩ := h
      refine ⟨hlast, ?_, hstate, htarget⟩
      change ((s.spiRxHead + 1#32) % 8192#32).toNat = (s.lastLook.toNat + (s.unseen + 1)) % 8192
      rw [BitVec.toNat_umod, BitVec.toNat_add, hhead]
      simp only [BitVec.toNat_ofNat, Nat.reducePow, Nat.reduceMod]
      omega
  | forceWake => exact ⟨h.last, h.head, h.state, h.target⟩

/-- A look finds the index moved unless the bytes have taken it around. -/
theorem moved_of_unseen {s : SleepWake} (h : s.Tracks) (hunseen : s.unseen % 8192 ≠ 0) :
    s.spiRxHead ≠ s.lastLook := by
  intro heq
  have hlast := h.last
  have hhead := h.head
  rw [heq] at hhead
  omega

/-! ### Waiting for the byte to be seen -/

/-- The call in progress, or the next one where there is none, will return `idle`. -/
def SleepWake.WakesAt (s : SleepWake) : SleepPc → Prop
  | .outside => 0 < s.unseen
  | .check _ _ => 0 < s.unseen
  | .compare _ idleMs currentHead => currentHead ≠ s.lastHead ∨ s.StaysIdle idleMs
  | .forced _ idleMs hasActivity => hasActivity = true ∨ s.StaysIdle idleMs
  | .clear _ => True
  | .forcedExit _ => True
  | .active _ => True
  | .quiet _ idleMs => s.state = .idle ∧ idleMs < 5000#32
  | .enter _ _ => False
  | .enterCompare _ _ _ => False
  | .entered _ _ => False
  | .finish _ => s.state = .idle

def SleepWake.Wakes (s : SleepWake) : Prop := s.Tracks ∧ s.WakesAt s.pc

/-- A call is in progress that may have missed a byte. -/
def SleepWake.Late (s : SleepWake) : Prop := s.Tracks ∧ s.pc ≠ .outside ∧ 0 < s.unseen

/-- What the next statement makes of it: the call goes on, or it returns `idle`. -/
theorem wakesAt_statement (nowMs : BitVec 32) (s : SleepWake) (h : s.Wakes)
    (hsees : s.Sees (.statement nowMs)) :
    ¬ (s.pc ≠ .outside ∧ (s.statement nowMs).pc = .outside) ∧
        (s.statement nowMs).WakesAt (s.statement nowMs).pc ∨
      (s.pc ≠ .outside ∧ (s.statement nowMs).pc = .outside) ∧
        (s.statement nowMs).state = .idle := by
  obtain ⟨htracks, hwakes⟩ := h
  have hmoved := @moved_of_unseen s htracks
  have hstate := htracks.state
  unfold SleepWake.Sees at hsees
  unfold SleepWake.lastLook at hmoved
  unfold SleepWake.statement
  generalize s.pc = pc at hwakes hsees hmoved ⊢
  cases pc with
  | outside => exact .inl ⟨by simp, hwakes⟩
  | check now idleMs =>
      refine .inl ⟨by simp, ?_⟩
      rcases hsees with hnone | hsome | hstays
      · exact absurd hnone (Nat.ne_of_gt hwakes)
      · exact .inl (hmoved hsome)
      · exact .inr hstays
  | compare now idleMs currentHead =>
      dsimp only
      by_cases hsame : currentHead ≠ s.lastHead
      · rw [if_pos hsame]
        exact .inl ⟨by simp, .inl rfl⟩
      · rw [if_neg hsame]
        exact .inl ⟨by simp, .inr (hwakes.resolve_left hsame)⟩
  | forced now idleMs hasActivity =>
      dsimp only
      by_cases hforce : s.forceWakePending = true
      · rw [if_pos hforce]
        exact .inl ⟨by simp, trivial⟩
      · rw [if_neg hforce]
        by_cases hactive : hasActivity = true
        · rw [if_pos hactive]
          exact .inl ⟨by simp, trivial⟩
        · rw [if_neg hactive]
          exact .inl ⟨by simp, (hwakes.resolve_left hactive).resolve_left hforce⟩
  | clear now => exact .inl ⟨by simp, trivial⟩
  | forcedExit now => exact .inr ⟨⟨by simp, rfl⟩, rfl⟩
  | active now =>
      right
      dsimp only
      cases hs : s.state with
      | idle => exact ⟨⟨by simp, rfl⟩, rfl⟩
      | light => exact ⟨⟨by simp, rfl⟩, rfl⟩
      | deep => exact ⟨⟨by simp, rfl⟩, rfl⟩
      | count => exact absurd hs hstate
  | quiet now idleMs =>
      obtain ⟨hidle, hshort⟩ := hwakes
      dsimp only
      rw [hidle]
      dsimp only
      rw [if_neg (BitVec.not_le.mpr hshort)]
      exact .inl ⟨by simp, rfl⟩
  | enter now target => exact hwakes.elim
  | enterCompare now target currentHead => exact hwakes.elim
  | entered now target => exact hwakes.elim
  | finish now => exact .inr ⟨⟨by simp, rfl⟩, hwakes⟩

theorem wakes_step (s : SleepWake) (e : SleepEvent) (h : s.Wakes) (hsees : s.Sees e) :
    s.returned e = [] ∧ (s.step e).Wakes ∨ s.returned e = [.idle] := by
  cases e with
  | statement nowMs =>
      rcases wakesAt_statement nowMs s h hsees with ⟨hon, hwakes⟩ | ⟨hback, hidle⟩
      · exact .inl ⟨if_neg hon, tracks_statement nowMs s h.1, hwakes⟩
      · exact .inr ((if_pos hback).trans (congrArg ([·]) hidle))
  | byte =>
      refine .inl ⟨rfl, tracks_step s .byte h.1, ?_⟩
      have hwakes := h.2
      change SleepWake.WakesAt _ s.pc
      cases hpc : s.pc with
      | outside => exact Nat.succ_pos _
      | check now idleMs => exact Nat.succ_pos _
      | _ => rwa [hpc] at hwakes
  | forceWake =>
      refine .inl ⟨rfl, tracks_step s .forceWake h.1, ?_⟩
      have hwakes := h.2
      change SleepWake.WakesAt _ s.pc
      cases hpc : s.pc with
      | compare now idleMs currentHead => exact .inr (.inl rfl)
      | forced now idleMs hasActivity => exact .inr (.inl rfl)
      | _ => rwa [hpc] at hwakes

/-- Only the looks forget bytes. -/
theorem unseen_statement (nowMs : BitVec 32) (s : SleepWake)
    (hcheck : ∀ now idleMs, s.pc ≠ .check now idleMs)
    (henter : ∀ now target, s.pc ≠ .enter now target) :
    (s.statement nowMs).unseen = s.unseen := by
  unfold SleepWake.statement
  split
  · rfl
  · next now idleMs hpc => exact absurd hpc (hcheck now idleMs)
  · split_ifs <;> rfl
  · split_ifs <;> rfl
  · rfl
  · rfl
  · dsimp only
    split <;> rfl
  · dsimp only
    split
    · split_ifs <;> rfl
    · split_ifs <;> rfl
    · rfl
    · rfl
  · next now target hpc => exact absurd hpc (henter now target)
  · split_ifs <;> rfl
  · rfl
  · rfl

theorem late_step (s : SleepWake) (e : SleepEvent) (h : s.Late) (hsees : s.Sees e) :
    s.returned e = [] ∧ ((s.step e).Late ∨ (s.step e).Wakes) ∨
      ∃ b, s.returned e = [b] ∧ (s.step e).Wakes := by
  obtain ⟨htracks, hin, hunseen⟩ := h
  cases e with
  | byte => exact .inl ⟨rfl, .inl ⟨tracks_step s .byte htracks, hin, Nat.succ_pos _⟩⟩
  | forceWake => exact .inl ⟨rfl, .inl ⟨tracks_step s .forceWake htracks, hin, hunseen⟩⟩
  | statement nowMs =>
      by_cases hcheck : ∃ now idleMs, s.pc = .check now idleMs
      · obtain ⟨now, idleMs, hpc⟩ := hcheck
        have hwakes : s.Wakes := ⟨htracks, by rw [hpc]; exact hunseen⟩
        rcases wakes_step s (.statement nowMs) hwakes hsees with ⟨hnone, hnext⟩ | hidle
        · exact .inl ⟨hnone, .inr hnext⟩
        · simp [SleepWake.returned, SleepWake.statement, hpc] at hidle
      · have henter : ∀ now target, s.pc ≠ .enter now target := by
          intro now target hpc
          simp only [SleepWake.Sees, hpc] at hsees
          omega
        have hsame := unseen_statement nowMs s (fun now idleMs hpc => hcheck ⟨now, idleMs, hpc⟩)
          henter
        have hnext := tracks_statement nowMs s htracks
        have hstill : 0 < (s.statement nowMs).unseen := by rwa [hsame]
        by_cases hout : (s.statement nowMs).pc = .outside
        · refine .inr ⟨_, if_pos ⟨hin, hout⟩, hnext, ?_⟩
          change SleepWake.WakesAt _ (s.statement nowMs).pc
          rw [hout]
          exact hstill
        · exact .inl ⟨if_neg (fun hback => hout hback.2), .inl ⟨hnext, hout, hstill⟩⟩

/-! ### No lost wake-up -/

/-- If the looks see what there is to see, no wake-up is lost. -/
theorem no_lost_wake (nowMs : BitVec 32) (es : List SleepEvent)
    (h : Along SleepWake.step SleepWake.Sees (sleepWakeInit nowMs) es) :
    (sleepWakeInit nowMs).NoLostWake es := by
  rintro us vs rfl
  intro t returns
  have htracks : (t.step .byte).Tracks :=
    tracks_step t .byte (run_invariant tracks_step (tracks_init nowMs) us)
  have hrest : Along SleepWake.step SleepWake.Sees (t.step .byte) vs := (along_append.mp h).2.2
  constructor
  · intro hout
    have hwakes : (t.step .byte).Wakes := by
      refine ⟨htracks, ?_⟩
      change SleepWake.WakesAt _ t.pc
      rw [hout]
      exact Nat.succ_pos _
    exact answered wakes_step hwakes hrest
  · intro hin
    exact answered_next wakes_step late_step ⟨htracks, hin, Nat.succ_pos _⟩ hrest

/-- A byte lands behind the first look of a call that does not sleep yet. -/
theorem no_lost_wake_behind_look :
    (sleepWakeInit 0).NoLostWake ([.statement 100, .statement 100, .byte] ++
      List.replicate 8 (.statement 200)) :=
  no_lost_wake 0 _ (by simp [Along, SleepWake.Sees, SleepWake.step, SleepWake.statement,
    sleepWakeInit])

/-- Five seconds after the last activity a byte lands between the two looks. The
call returns `light`, and so does the next one. -/
theorem byte_between_looks_lost :
    ¬ (sleepWakeInit 0).NoLostWake (List.replicate 3 (.statement 5000) ++ .byte ::
      List.replicate 12 (.statement 5100)) := by
  intro h
  obtain ⟨-, hsecond⟩ := h _ _ rfl
  exact absurd (hsecond (by decide) (by decide)) (by decide)

end GhostBlade.Firmware
