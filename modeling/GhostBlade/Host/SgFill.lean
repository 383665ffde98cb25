import GhostBlade.Host.SgSystem

/-!
What a READY buffer of the scatter-gather engine stands for. The callback finds
its buffer through `current_idx` alone, so everything rests on the worker not
going on while a transfer is under way. It does go on when it gives up a transfer
that is still in flight, or whose callback has not signalled; in a run without
that the buffers are filled in turn, and `Phase` says how far the current one is.
-/

namespace GhostBlade.Host

open GhostBlade.Library

/-- The part of the system that filling buffers depends on. -/
structure SgFill where
  bufs : Option SgBufs
  bufCount : BitVec 32
  currentIdx : BitVec 32
  sequence : BitVec 32
  continuous : Bool
  inFlight : List SgTransfer
  callback : Option SgCallback
  completion : Nat
  completed : List SgTransfer

def SgSystem.fill (s : SgSystem) : SgFill where
  bufs := s.bufs
  bufCount := s.eng.bufCount
  currentIdx := s.eng.currentIdx
  sequence := s.eng.sequence
  continuous := s.eng.continuous
  inFlight := s.inFlight
  callback := s.callback
  completion := s.completion
  completed := s.completed

namespace SgFill

/-- The transfer for the buffer whose turn it is after `n` others. -/
def target (b : SgBufs) (count n : Nat) : SgTransfer := ⟨b.start, n % count⟩

/-- The array `b` after `n` callbacks have taken their sequence number, of which
`m` have moved the index on. -/
structure Session (v : SgFill) (b : SgBufs) (n m : Nat) : Prop where
  bufs : v.bufs = some b
  whole : b.descs.length = v.bufCount.toNat
  pos : 0 < v.bufCount.toNat
  current : v.currentIdx.toNat = m % v.bufCount.toNat
  sequence : v.sequence = BitVec.ofNat 32 n
  batch : v.continuous = false → n ≤ v.bufCount.toNat
  numbered : v.continuous = false → ∀ i < n,
    b.descs[i]?.map SgBufDesc.sequence = some (BitVec.ofNat 32 i)

/-- Between two transfers. -/
structure Resting (v : SgFill) (b : SgBufs) (n : Nat) : Prop extends Session v b n n where
  inFlight : v.inFlight = []
  callback : v.callback = none
  completed : v.completed = (List.range n).map (target b v.bufCount.toNat)

/-- Before the next transfer, which a batch must have room for. -/
structure Ready (v : SgFill) (b : SgBufs) (n : Nat) : Prop extends Resting v b n where
  completion : v.completion = 0
  more : v.continuous = false → n < v.bufCount.toNat

/-- From the submission of a transfer to the signal of its callback. -/
inductive Flight (v : SgFill) (b : SgBufs) (n : Nat) : Prop where
  | writing (hs : Session v b n n) (hf : v.inFlight = [target b v.bufCount.toNat n])
      (hc : v.callback = none)
      (hd : v.completed = (List.range n).map (target b v.bufCount.toNat))
      (hw : v.completion = 0)
      (ha : b.descs[n % v.bufCount.toNat]?.map SgBufDesc.state = some .dmaActive)
  | loading (hs : Session v b n n) (hf : v.inFlight = [])
      (hc : v.callback = some (.load (target b v.bufCount.toNat n)))
      (hd : v.completed = (List.range (n + 1)).map (target b v.bufCount.toNat))
      (hw : v.completion = 0)
  | numbering (idx bufSize : BitVec 32) (hs : Session v b n n) (hf : v.inFlight = [])
      (hc : v.callback = some (.number (target b v.bufCount.toNat n) idx bufSize))
      (hidx : idx.toNat = n % v.bufCount.toNat)
      (hd : v.completed = (List.range (n + 1)).map (target b v.bufCount.toNat))
      (hw : v.completion = 0)
  | marking (idx bufSize : BitVec 32) (hs : Session v b (n + 1) n) (hf : v.inFlight = [])
      (hc : v.callback = some (.ready (target b v.bufCount.toNat n) idx bufSize))
      (hidx : idx.toNat = n % v.bufCount.toNat)
      (hd : v.completed = (List.range (n + 1)).map (target b v.bufCount.toNat))
      (hw : v.completion = 0)
  | advancing (hs : Session v b (n + 1) n) (hf : v.inFlight = [])
      (hc : v.callback = some (.advance (target b v.bufCount.toNat n)))
      (hd : v.completed = (List.range (n + 1)).map (target b v.bufCount.toNat))
      (hw : v.completion = 0)
  | signalling (hs : Session v b (n + 1) (n + 1)) (hf : v.inFlight = [])
      (hc : v.callback = some (.signal (target b v.bufCount.toNat n)))
      (hd : v.completed = (List.range (n + 1)).map (target b v.bufCount.toNat))
      (hw : v.completion = 0)
  | signalled (hr : Resting v b (n + 1)) (hw : v.completion = 1)

/-- What the place of the worker says about the buffers. -/
def Phase (v : SgFill) : SgWork → Prop
  | .idle => v.inFlight = [] ∧ v.callback = none
  | .queued => ∃ b n, Ready v b n
  | .loop => ∃ b n, Ready v b n
  | .pick => ∃ b n, Ready v b n
  | .examine idx => ∃ b n, Ready v b n ∧ idx.toNat = n % v.bufCount.toNat
  | .activate idx => ∃ b n, Ready v b n ∧ idx.toNat = n % v.bufCount.toNat
  | .submit idx => ∃ b n, Ready v b n ∧ idx.toNat = n % v.bufCount.toNat ∧
      b.descs[n % v.bufCount.toNat]?.map SgBufDesc.state = some .dmaActive
  | .failed _ => ∃ b n, Ready v b n
  | .waiting _ => ∃ b n, Flight v b n ∧ (v.continuous = false → n < v.bufCount.toNat)
  | .timedOut _ => ∃ b n, Flight v b n ∧ (v.continuous = false → n < v.bufCount.toNat)
  | .reinit => ∃ b n, Resting v b n
  | .check => ∃ b n, Resting v b n ∧ v.completion = 0

variable {v : SgFill} {b : SgBufs} {n m : Nat}

/-- A write to one descriptor that keeps its sequence number. -/
theorem Session.modify (h : Session v b n m) (i : Nat) {f : SgBufDesc → SgBufDesc}
    (hf : ∀ d, (f d).sequence = d.sequence) :
    Session { v with bufs := some { b with descs := b.descs.modify i f } }
      { b with descs := b.descs.modify i f } n m where
  bufs := rfl
  whole := by rw [List.length_modify, h.whole]
  pos := h.pos
  current := h.current
  sequence := h.sequence
  batch := h.batch
  numbered := by
    intro hcont j hj
    rw [← h.numbered hcont j hj, List.getElem?_modify]
    cases b.descs[j]? with
    | none => rfl
    | some d =>
        refine congrArg some ?_
        dsimp only
        split
        · exact hf d
        · rfl

theorem Resting.modify (h : Resting v b n) (i : Nat) {f : SgBufDesc → SgBufDesc}
    (hf : ∀ d, (f d).sequence = d.sequence) :
    Resting { v with bufs := some { b with descs := b.descs.modify i f } }
      { b with descs := b.descs.modify i f } n :=
  { h.toSession.modify i hf with
    inFlight := h.inFlight
    callback := h.callback
    completed := h.completed }

theorem Ready.modify (h : Ready v b n) (i : Nat) {f : SgBufDesc → SgBufDesc}
    (hf : ∀ d, (f d).sequence = d.sequence) :
    Ready { v with bufs := some { b with descs := b.descs.modify i f } }
      { b with descs := b.descs.modify i f } n :=
  { h.toResting.modify i hf with
    completion := h.completion
    more := h.more }

/-- The callback takes the next sequence number. -/
theorem Session.number (h : Session v b n n) (hmore : v.continuous = false → n < v.bufCount.toNat)
    {f : SgBufDesc → SgBufDesc} (hf : ∀ d, (f d).sequence = v.sequence) :
    Session
      { v with
        bufs := some { b with descs := b.descs.modify (n % v.bufCount.toNat) f }
        sequence := v.sequence + 1 }
      { b with descs := b.descs.modify (n % v.bufCount.toNat) f } (n + 1) n where
  bufs := rfl
  whole := by rw [List.length_modify, h.whole]
  pos := h.pos
  current := h.current
  sequence := by
    rw [BitVec.ofNat_add, ← h.sequence]
    rfl
  batch := hmore
  numbered := by
    intro hcont j hj
    have hlt := hmore hcont
    rw [List.getElem?_modify, Nat.mod_eq_of_lt hlt]
    rcases Nat.lt_succ_iff_lt_or_eq.mp hj with hold | rfl
    · rw [← h.numbered hcont j hold]
      simp [hold.ne']
    · have hin : j < b.descs.length := h.whole ▸ hlt
      simp [List.getElem?_eq_getElem hin, hf, h.sequence]

/-- The callback moves the index on. -/
theorem Session.advance (h : Session v b n m) :
    Session { v with currentIdx := (v.currentIdx + 1) % v.bufCount } b n (m + 1) := by
  have hlt := Nat.mod_lt m h.pos
  have hbound := v.bufCount.isLt
  refine { h with current := ?_ }
  rw [BitVec.toNat_umod, BitVec.toNat_add, h.current]
  have hsum : m % v.bufCount.toNat + 1 < 2 ^ 32 := by omega
  change (m % v.bufCount.toNat + 1) % 2 ^ 32 % _ = _
  rw [Nat.mod_eq_of_lt hsum, Nat.mod_add_mod]

theorem Flight.of_quiet (h : Flight v b n)
    (hf : v.inFlight = []) (hc : v.callback = none) : Resting v b (n + 1) := by
  cases h with
  | signalled hr hw => exact hr
  | writing hs hf' => exact absurd (hf'.symm.trans hf) (List.cons_ne_nil _ _)
  | loading hs hf' hc' => exact nomatch hc'.symm.trans hc
  | numbering idx bufSize hs hf' hc' => exact nomatch hc'.symm.trans hc
  | marking idx bufSize hs hf' hc' => exact nomatch hc'.symm.trans hc
  | advancing hs hf' hc' => exact nomatch hc'.symm.trans hc
  | signalling hs hf' hc' => exact nomatch hc'.symm.trans hc

/-- Completions and callbacks only matter while the worker waits. -/
theorem Phase.quiet_or_flight {w : SgWork} (h : Phase v w) :
    (v.inFlight = [] ∧ v.callback = none) ∨
      ∃ b n, Flight v b n ∧ (v.continuous = false → n < v.bufCount.toNat) ∧
        ∀ v' b', v'.continuous = v.continuous → v'.bufCount = v.bufCount → Flight v' b' n →
          Phase v' w := by
  cases w with
  | idle => exact .inl h
  | queued | loop | pick | failed idx | reinit =>
      obtain ⟨b, n, hr⟩ := h
      exact .inl ⟨hr.inFlight, hr.callback⟩
  | examine idx | activate idx | submit idx | check =>
      obtain ⟨b, n, hr, -⟩ := h
      exact .inl ⟨hr.inFlight, hr.callback⟩
  | waiting idx | timedOut idx =>
      obtain ⟨b, n, hf, hmore⟩ := h
      refine .inr ⟨b, n, hf, hmore, ?_⟩
      intro v' b' hcont hcount hf'
      exact ⟨b', n, hf', hcont ▸ hcount ▸ hmore⟩

/-- The callback that marks a buffer READY was called for a transfer into it. -/
theorem Flight.of_marking (h : Flight v b n) {t : SgTransfer} {idx bufSize : BitVec 32}
    (hc : v.callback = some (.ready t idx bufSize)) :
    v.bufs = some b ∧ t = ⟨b.start, idx.toNat⟩ ∧ t ∈ v.completed := by
  cases h with
  | marking idx' bufSize' hs hf hc' hidx hd hw =>
      obtain ⟨rfl, rfl, rfl⟩ := SgCallback.ready.inj (Option.some.inj (hc'.symm.trans hc))
      refine ⟨hs.bufs, by rw [target, hidx], ?_⟩
      rw [hd, List.range_succ, List.map_append]
      exact List.mem_append_right _ (List.mem_singleton_self _)
  | writing hs hf hc' => exact nomatch hc'.symm.trans hc
  | loading hs hf hc' => exact nomatch hc'.symm.trans hc
  | numbering idx bufSize hs hf hc' => exact nomatch hc'.symm.trans hc
  | advancing hs hf hc' => exact nomatch hc'.symm.trans hc
  | signalling hs hf hc' => exact nomatch hc'.symm.trans hc
  | signalled hr => exact nomatch hr.callback.symm.trans hc

/-- What is in flight goes into one active buffer of the current array. -/
theorem Phase.writing {w : SgWork} (h : Phase v w) :
    v.inFlight = [] ∨ ∃ b i, v.bufs = some b ∧ v.inFlight = [⟨b.start, i⟩] ∧
      b.descs[i]?.map SgBufDesc.state = some .dmaActive := by
  rcases h.quiet_or_flight with hquiet | ⟨b, n, hflight, -, -⟩
  · exact .inl hquiet.1
  · cases hflight with
    | writing hs hf hc hd hw ha => exact .inr ⟨b, _, hs.bufs, hf, ha⟩
    | loading hs hf | advancing hs hf | signalling hs hf => exact .inl hf
    | numbering idx bufSize hs hf | marking idx bufSize hs hf => exact .inl hf
    | signalled hr => exact .inl hr.inFlight

/-- A full batch has completed each of its buffers once. -/
theorem Resting.full (h : Resting v b n) (hcont : v.continuous = false)
    (hdone : v.bufCount ≤ v.sequence) {i : Nat} (hi : i < v.bufCount.toNat) :
    v.completed.count ⟨b.start, i⟩ = 1 ∧
      b.descs[i]?.map SgBufDesc.sequence = some (BitVec.ofNat 32 i) := by
  have hle := h.batch hcont
  have hbound := v.bufCount.isLt
  have hn : n = v.bufCount.toNat := by
    rw [BitVec.le_def, h.sequence, BitVec.toNat_ofNat, Nat.mod_eq_of_lt (by omega)] at hdone
    omega
  refine ⟨?_, h.numbered hcont i (by omega)⟩
  have hturns : v.completed = (List.range n).map (SgTransfer.mk b.start) := by
    rw [h.completed]
    refine List.map_congr_left ?_
    intro k hk
    rw [target, Nat.mod_eq_of_lt (hn ▸ List.mem_range.mp hk)]
  rw [hturns, List.count_map_of_injective _ _ (fun _ _ h => (SgTransfer.mk.inj h).2)]
  exact List.count_eq_one_of_mem List.nodup_range (List.mem_range.mpr (by omega))

end SgFill

/-- The wait has timed out, and the buffer is about to be marked FREE. -/
def SgWork.givesUp : SgWork → Bool
  | .timedOut _ => true
  | _ => false

namespace SgSystem

open SgFill

/-- The worker gives up a transfer only when it is over, its signal included. -/
def Patient (s : SgSystem) : SgEvent → Prop
  | .worker _ => s.work.givesUp = true → s.Quiet
  | _ => True

instance Patient.decidable (s : SgSystem) (e : SgEvent) : Decidable (s.Patient e) :=
  match e with
  | .worker _ => inferInstanceAs (Decidable (_ → _))
  | .startBegin _ _ _ | .startDma _ | .startRun | .stopBegin | .stopEnd | .removeBegin
  | .removeEnd | .finish _ | .callback _ => isTrue trivial

/-- The driver has handed no buffer to userspace. -/
def Owned (s : SgSystem) : Prop := ∀ b, s.bufs = some b → ∀ d ∈ b.descs, d.state ≠ .userspace

structure FillInv (s : SgSystem) : Prop where
  running : s.lock = .free → s.work ≠ .idle → s.eng.state = .running
  starting : ∀ config, s.lock = .starting config → s.work = .idle ∧ config.Valid
  owned : s.Owned
  phase : Phase s.fill s.work

theorem Owned.setDesc {s : SgSystem} (h : s.Owned) (idx : BitVec 32) {f : SgBufDesc → SgBufDesc}
    (hf : ∀ d, d.state ≠ .userspace → (f d).state ≠ .userspace) : (s.setDesc idx f).Owned := by
  intro b' hb' d' hd'
  obtain ⟨b, hb, rfl⟩ := Option.map_eq_some_iff.mp hb'
  obtain ⟨j, hj⟩ := List.mem_iff_getElem?.mp hd'
  rw [List.getElem?_modify] at hj
  obtain ⟨d, hd, rfl⟩ := Option.map_eq_some_iff.mp hj
  have hold := h b hb d (List.mem_of_getElem? hd)
  split
  · exact hf d hold
  · exact hold

theorem Owned.setState {s : SgSystem} (h : s.Owned) (idx : BitVec 32) {state : SgBufState}
    (hstate : state ≠ .userspace) : (s.apexSgBufSetState idx state).Owned := by
  unfold apexSgBufSetState
  split
  · exact h.setDesc idx fun _ _ => hstate
  · exact h

theorem Owned.not_inUse {s : SgSystem} (h : s.Owned) (idx : BitVec 32) : ¬ s.inUse idx := by
  intro huse
  obtain ⟨b, hb, hd⟩ := Option.bind_eq_some_iff.mp huse
  obtain ⟨d, hd, hstate⟩ := Option.map_eq_some_iff.mp hd
  exact h b hb d (List.mem_of_getElem? hd) hstate

theorem Owned.congr {s s' : SgSystem} (h : s.Owned) (hb : s'.bufs = s.bufs) : s'.Owned := by
  rw [Owned, hb]
  exact h

theorem Owned.worker {s : SgSystem} (h : s.Owned) (ok : Bool) : (s.worker ok).Owned := by
  rcases s.worker_bufs ok with hb | ⟨idx, state, hstate, hb⟩
  · exact h.congr hb
  · refine Owned.congr (h.setState idx ?_) hb
    rcases hstate with rfl | rfl <;> nofun

theorem Owned.callback {s : SgSystem} (h : s.Owned) (now : BitVec 64) :
    (s.apexSgDmaCallback now).Owned := by
  unfold apexSgDmaCallback
  split
  case h_3 t idx bufSize hc => exact h.setDesc idx fun _ hd => hd
  case h_4 t idx bufSize hc => exact h.setDesc idx fun _ _ => nofun
  all_goals exact h

theorem setDesc_bufs {s : SgSystem} {b : SgBufs} (hb : s.bufs = some b) (idx : BitVec 32)
    (f : SgBufDesc → SgBufDesc) :
    (s.setDesc idx f).bufs = some { b with descs := b.descs.modify idx.toNat f } := by
  simp only [setDesc, hb, Option.map_some]

/-- A write to the state of a buffer, in or behind the array. -/
theorem setState_fill {s : SgSystem} {b : SgBufs} (hb : s.bufs = some b) (idx : BitVec 32)
    (state : SgBufState) :
    (s.apexSgBufSetState idx state).fill =
      if idx < s.eng.bufCount then
        { s.fill with
          bufs := some
            { b with descs := b.descs.modify idx.toNat fun d => { d with state := state } } }
      else s.fill := by
  unfold apexSgBufSetState
  split
  · simp only [fill, setDesc, hb, Option.map_some]
  · rfl

theorem ready_setState {s : SgSystem} {b : SgBufs} {n : Nat} (h : Ready s.fill b n)
    (idx : BitVec 32) (state : SgBufState) :
    ∃ b', Ready (s.apexSgBufSetState idx state).fill b' n := by
  rw [setState_fill h.bufs]
  split
  · exact ⟨_, h.modify _ fun _ => rfl⟩
  · exact ⟨b, h⟩

theorem resting_setState {s : SgSystem} {b : SgBufs} {n : Nat} (h : Resting s.fill b n)
    (idx : BitVec 32) (state : SgBufState) :
    ∃ b', Resting (s.apexSgBufSetState idx state).fill b' n := by
  rw [setState_fill h.bufs]
  split
  · exact ⟨_, h.modify _ fun _ => rfl⟩
  · exact ⟨b, h⟩

section Worker

variable {s : SgSystem} {ok : Bool} {idx : BitVec 32}

theorem phase_activate (h : Phase s.fill s.work) (hw : s.work = .activate idx) :
    Phase (s.worker ok).fill (s.worker ok).work := by
  rw [hw] at h
  obtain ⟨b, n, hr, hidx⟩ := h
  have hlt : idx < s.eng.bufCount := by
    rw [BitVec.lt_def, hidx]
    exact Nat.mod_lt n hr.pos
  have hin : n % s.eng.bufCount.toNat < b.descs.length := by
    rw [hr.whole]
    exact Nat.mod_lt n hr.pos
  have hfill : (s.worker ok).fill = (s.apexSgBufSetState idx .dmaActive).fill := by
    simp only [worker, hw]
    rfl
  rw [hfill, setState_fill hr.bufs, if_pos hlt]
  simp only [worker, hw]
  refine ⟨_, n, hr.modify _ fun _ => rfl, hidx, ?_⟩
  have hidx' : idx.toNat = n % s.eng.bufCount.toNat := hidx
  simp [fill, hidx', List.getElem?_eq_getElem hin]

theorem phase_submit (h : Phase s.fill s.work) (hw : s.work = .submit idx) :
    Phase (s.worker ok).fill (s.worker ok).work := by
  rw [hw] at h
  obtain ⟨b, n, hr, hidx, hactive⟩ := h
  cases ok with
  | false =>
      simp only [worker, hw]
      exact ⟨b, n, hr⟩
  | true =>
      have hb : s.bufs = some b := hr.bufs
      have hf : s.inFlight = [] := hr.inFlight
      simp only [worker, hw, if_true]
      refine ⟨b, n, .writing { hr with } ?_ hr.callback hr.completed hr.completion hactive, hr.more⟩
      simp only [fill, hf, hb, Option.map_some, Option.toList_some, List.nil_append, hidx, target]

theorem phase_failed (h : Phase s.fill s.work) (hw : s.work = .failed idx) :
    Phase (s.worker ok).fill (s.worker ok).work := by
  rw [hw] at h
  obtain ⟨b, n, hr⟩ := h
  obtain ⟨b', hr'⟩ := ready_setState hr idx .free
  have hfill : (s.worker ok).fill = (s.apexSgBufSetState idx .free).fill := by
    simp only [worker, hw, fill, apexSgBufSetState_eng]
  rw [hfill]
  simp only [worker, hw]
  split
  · exact ⟨hr'.inFlight, hr'.callback⟩
  · exact ⟨b', n, hr'⟩

theorem phase_waiting (h : Phase s.fill s.work) (hw : s.work = .waiting idx) :
    Phase (s.worker ok).fill (s.worker ok).work := by
  rw [hw] at h
  obtain ⟨b, n, hflight, hmore⟩ := h
  simp only [worker, hw]
  split
  next hsignal =>
      have hpos : s.fill.completion ≠ 0 := hsignal.ne'
      cases hflight with
      | signalled hr hw => exact ⟨b, n + 1, { hr with }⟩
      | writing hs hf hc hd hz ha => exact absurd hz hpos
      | loading hs hf hc hd hz => exact absurd hz hpos
      | numbering idx bufSize hs hf hc hidx hd hz => exact absurd hz hpos
      | marking idx bufSize hs hf hc hidx hd hz => exact absurd hz hpos
      | advancing hs hf hc hd hz => exact absurd hz hpos
      | signalling hs hf hc hd hz => exact absurd hz hpos
  · split
    · exact ⟨b, n, hflight, hmore⟩
    · rw [hw]
      exact ⟨b, n, hflight, hmore⟩

theorem phase_timedOut (h : Phase s.fill s.work) (hw : s.work = .timedOut idx) (hq : s.Quiet) :
    Phase (s.worker ok).fill (s.worker ok).work := by
  rw [hw] at h
  obtain ⟨b, n, hflight, hmore⟩ := h
  obtain ⟨b', hr⟩ := resting_setState (hflight.of_quiet hq.1 hq.2) idx .free
  have hfill : (s.worker ok).fill = (s.apexSgBufSetState idx .free).fill := by
    simp only [worker, hw, fill, apexSgBufSetState_eng]
  rw [hfill]
  simp only [worker, hw]
  exact ⟨b', n + 1, hr⟩

theorem phase_check (h : Phase s.fill s.work) (hw : s.work = .check) :
    Phase (s.worker ok).fill (s.worker ok).work := by
  rw [hw] at h
  obtain ⟨b, n, hr, hz⟩ := h
  simp only [worker, hw]
  split
  · exact ⟨hr.inFlight, hr.callback⟩
  next hgoes =>
      refine ⟨b, n, { hr with completion := hz, more := ?_ }⟩
      intro hcont
      have hle := hr.batch hcont
      have hbound := s.fill.bufCount.isLt
      have hlt : ¬ s.fill.bufCount ≤ s.fill.sequence := fun hdone => hgoes ⟨hcont, hdone⟩
      rw [BitVec.le_def, hr.sequence, BitVec.toNat_ofNat, Nat.mod_eq_of_lt (by omega)] at hlt
      exact lt_of_not_ge hlt

theorem phase_worker (h : Phase s.fill s.work) (howned : s.Owned)
    (hpatient : s.Patient (.worker ok)) : Phase (s.worker ok).fill (s.worker ok).work := by
  cases hw : s.work with
  | activate idx => exact phase_activate h hw
  | submit idx => exact phase_submit h hw
  | failed idx => exact phase_failed h hw
  | waiting idx => exact phase_waiting h hw
  | timedOut idx => exact phase_timedOut h hw (hpatient (hw ▸ rfl))
  | check => exact phase_check h hw
  | idle =>
      rw [worker, hw]
      exact h
  | queued =>
      rw [hw] at h
      rw [worker, hw]
      exact h
  | loop =>
      rw [hw] at h
      rw [worker, hw]
      obtain ⟨b, n, hr⟩ := h
      dsimp only
      split
      · exact ⟨b, n, hr⟩
      · exact ⟨hr.inFlight, hr.callback⟩
  | pick =>
      rw [hw] at h
      rw [worker, hw]
      obtain ⟨b, n, hr⟩ := h
      exact ⟨b, n, hr, hr.current⟩
  | examine idx =>
      rw [hw] at h
      simp only [worker, hw, if_neg (howned.not_inUse idx)]
      exact h
  | reinit =>
      rw [hw] at h
      rw [worker, hw]
      obtain ⟨b, n, hr⟩ := h
      exact ⟨b, n, { hr with }, rfl⟩

end Worker

theorem phase_finish {s : SgSystem} (h : Phase s.fill s.work) (k : Nat) :
    Phase (s.finish k).fill (s.finish k).work := by
  unfold finish
  split
  next t hc ht =>
      rcases h.quiet_or_flight with hquiet | ⟨b, n, hflight, hmore, hback⟩
      · have hf : s.inFlight = [] := hquiet.1
        rw [hf] at ht
        cases ht
      · refine hback _ b rfl rfl ?_
        cases hflight with
        | writing hs hf hc' hd hz ha =>
            have hf' : s.inFlight = [target b s.fill.bufCount.toNat n] := hf
            have hd' : s.completed = (List.range n).map (target b s.fill.bufCount.toNat) := hd
            rw [hf', List.getElem?_singleton] at ht
            split at ht
            next hk =>
                obtain rfl := Option.some.inj ht
                refine .loading { hs with } ?_ rfl ?_ hz
                · change s.inFlight.eraseIdx k = []
                  rw [hf', hk]
                  rfl
                · change s.completed ++ [_] = _
                  rw [hd', List.range_succ, List.map_append]
                  rfl
            next => cases ht
        | loading hs hf | advancing hs hf | signalling hs hf =>
            have hf' : s.inFlight = [] := hf
            rw [hf'] at ht
            cases ht
        | numbering idx bufSize hs hf | marking idx bufSize hs hf =>
            have hf' : s.inFlight = [] := hf
            rw [hf'] at ht
            cases ht
        | signalled hr =>
            have hf' : s.inFlight = [] := hr.inFlight
            rw [hf'] at ht
            cases ht
  next => exact h

theorem phase_callback {s : SgSystem} (h : Phase s.fill s.work) (now : BitVec 64) :
    Phase (s.apexSgDmaCallback now).fill (s.apexSgDmaCallback now).work := by
  rw [(s.callback_state now).1]
  rcases h.quiet_or_flight with hquiet | ⟨b, n, hflight, hmore, hback⟩
  · have hc : s.callback = none := hquiet.2
    rw [apexSgDmaCallback, hc]
    exact h
  · cases hflight with
    | writing hs hf hc =>
        have hc' : s.callback = none := hc
        rw [apexSgDmaCallback, hc']
        exact h
    | signalled hr =>
        have hc : s.callback = none := hr.callback
        rw [apexSgDmaCallback, hc]
        exact h
    | loading hs hf hc hd hz =>
        have hc' : s.callback = some (.load (target b s.fill.bufCount.toNat n)) := hc
        rw [apexSgDmaCallback, hc']
        exact hback _ b rfl rfl (.numbering _ _ { hs with } hf rfl hs.current hd hz)
    | numbering idx bufSize hs hf hc hidx hd hz =>
        have hc' : s.callback =
          some (.number (target b s.fill.bufCount.toNat n) idx bufSize) := hc
        have hnumber := hs.number hmore
          (f := fun d =>
            { d with dataLen := bufSize, timestampNs := now, sequence := s.eng.sequence })
          fun _ => rfl
        rw [← hidx] at hnumber
        have hb := setDesc_bufs hs.bufs idx fun d =>
          { d with dataLen := bufSize, timestampNs := now, sequence := s.eng.sequence }
        rw [apexSgDmaCallback, hc']
        exact hback _ _ rfl rfl
          (.marking idx bufSize { hnumber with bufs := hb } hf rfl hidx hd hz)
    | marking idx bufSize hs hf hc hidx hd hz =>
        have hc' : s.callback =
          some (.ready (target b s.fill.bufCount.toNat n) idx bufSize) := hc
        have hmark := hs.modify idx.toNat (f := fun d => { d with state := .ready }) fun _ => rfl
        have hb := setDesc_bufs hs.bufs idx fun d => { d with state := .ready }
        rw [apexSgDmaCallback, hc']
        exact hback _ _ rfl rfl (.advancing { hmark with bufs := hb } hf rfl hd hz)
    | advancing hs hf hc hd hz =>
        have hc' : s.callback = some (.advance (target b s.fill.bufCount.toNat n)) := hc
        rw [apexSgDmaCallback, hc']
        exact hback _ b rfl rfl (.signalling { hs.advance with } hf rfl hd hz)
    | signalling hs hf hc hd hz =>
        have hc' : s.callback = some (.signal (target b s.fill.bufCount.toNat n)) := hc
        rw [apexSgDmaCallback, hc']
        refine hback _ b rfl rfl
          (.signalled { hs with inFlight := hf, callback := rfl, completed := hd } ?_)
        exact congrArg (· + 1) hz

namespace FillInv

variable {s s' : SgSystem}

theorem init : FillInv .init where
  running := fun _ h => absurd rfl h
  starting := nofun
  owned := nofun
  phase := ⟨rfl, rfl⟩

theorem rests (h : FillInv s) (hlock : s.lock = .free) (hidle : s.eng.state = .idle) :
    s.work = .idle := by
  by_contra hwork
  exact nomatch hidle.symm.trans (h.running hlock hwork)

theorem quiet (h : FillInv s) (hwork : s.work = .idle) : s.Quiet := by
  have hphase := h.phase
  rwa [hwork] at hphase

/-- A request that finds the worker idle and leaves it so. -/
theorem of_idle (h : FillInv s) (hwork : s.work = .idle) (hwork' : s'.work = .idle)
    (hf : s'.inFlight = s.inFlight) (hc : s'.callback = s.callback)
    (hstart : ∀ config, s'.lock = .starting config → config.Valid) (howned : s'.Owned) :
    FillInv s' where
  running := fun _ hbusy => absurd hwork' hbusy
  starting := fun config hlock => ⟨hwork', hstart config hlock⟩
  owned := howned
  phase := by
    have hquiet := h.quiet hwork
    rw [hwork']
    exact ⟨hf.trans hquiet.1, hc.trans hquiet.2⟩

theorem control {e : SgEvent} (h : FillInv s) (hc : Control s e s') : FillInv s' := by
  cases hc with
  | refused => exact h
  | noBufs hlock hidle =>
      have hwork := h.rests hlock hidle
      exact h.of_idle hwork hwork rfl rfl (fun _ hl => nomatch hlock.symm.trans hl) nofun
  | noSgl hlock hidle =>
      have hwork := h.rests hlock hidle
      exact h.of_idle hwork hwork rfl rfl (fun _ hl => nomatch hlock.symm.trans hl) nofun
  | began config hvalid hlock hremove hidle =>
      have hwork := h.rests hlock hidle
      refine h.of_idle hwork hwork rfl rfl ?_ ?_
      · rintro _ ⟨⟩
        exact hvalid
      · rintro _ ⟨⟩ d hd
        cases hd
  | dma config b hlock hbufs hlt =>
      have hwork := (h.starting config hlock).1
      refine h.of_idle hwork hwork rfl rfl (fun config' hl => (h.starting config' hl).2) ?_
      rintro _ ⟨⟩ d hd
      rcases List.mem_append.mp hd with hold | hnew
      · exact h.owned b hbufs d hold
      · rw [List.mem_singleton.mp hnew]
        exact nofun
  | rolledBack config b hlock hbufs =>
      have hwork := (h.starting config hlock).1
      exact h.of_idle hwork hwork rfl rfl nofun nofun
  | ran config b hlock hbufs hlen =>
      obtain ⟨hwork, hvalid⟩ := h.starting config hlock
      have hquiet := h.quiet hwork
      refine ⟨fun _ _ => rfl, nofun, h.owned, b, 0, ?_⟩
      exact
        { bufs := hbufs
          whole := hlen
          pos := lt_of_lt_of_le (by decide) hvalid.1
          current := rfl
          sequence := rfl
          batch := fun _ => Nat.zero_le _
          numbered := fun _ i hi => absurd hi (Nat.not_lt_zero i)
          inFlight := hquiet.1
          callback := hquiet.2
          completed := rfl
          completion := rfl
          more := fun _ => lt_of_lt_of_le (by decide) hvalid.1 }
  | stopping remove hlock hstate hremove => exact ⟨nofun, nofun, h.owned, h.phase⟩
  | stopped remove hcancels hremove =>
      refine ⟨fun _ hbusy => absurd rfl hbusy, nofun, nofun, ?_⟩
      rcases hcancels.2 with hwork | hwork
      · exact h.quiet hwork
      · have hphase := h.phase
        rw [hwork] at hphase
        obtain ⟨b, n, hr⟩ := hphase
        exact ⟨hr.inFlight, hr.callback⟩
  | removed hlock hidle => exact ⟨h.running, h.starting, h.owned, h.phase⟩
  | gone hstopped => exact ⟨h.running, h.starting, h.owned, h.phase⟩

theorem worker {ok : Bool} (h : FillInv s) (hpatient : s.Patient (.worker ok)) :
    FillInv (s.worker ok) where
  running := by
    intro hlock hwork
    obtain ⟨hbefore, hstate⟩ := worker_state hwork
    exact hstate.trans (h.running ((s.worker_memory ok).lock ▸ hlock) hbefore)
  starting := by
    intro config hlock
    obtain ⟨hwork, hvalid⟩ := h.starting config ((s.worker_memory ok).lock ▸ hlock)
    refine ⟨?_, hvalid⟩
    rw [SgSystem.worker, hwork]
    exact hwork
  owned := h.owned.worker ok
  phase := phase_worker h.phase h.owned hpatient

theorem finish (h : FillInv s) (k : Nat) : FillInv (s.finish k) := by
  have hphase := phase_finish h.phase k
  obtain ⟨hwork, heng, hbufs⟩ := s.finish_state k
  refine ⟨?_, ?_, ?_, hphase⟩
  · rw [hwork, heng, (s.finish_memory k).lock]
    exact h.running
  · rw [hwork, (s.finish_memory k).lock]
    exact h.starting
  · exact h.owned.congr hbufs

theorem callback (h : FillInv s) (now : BitVec 64) : FillInv (s.apexSgDmaCallback now) where
  running := by
    obtain ⟨hwork, hstate⟩ := s.callback_state now
    rw [hwork, hstate, (s.callback_memory now).lock]
    exact h.running
  starting := by
    rw [(s.callback_state now).1, (s.callback_memory now).lock]
    exact h.starting
  owned := h.owned.callback now
  phase := phase_callback h.phase now

theorem step (h : FillInv s) {e : SgEvent} (hpatient : s.Patient e) : FillInv (s.step e) := by
  refine step_cases e ?_ ?_ h.finish h.callback
  · exact fun s' hc => h.control hc
  · rintro ok rfl
    exact h.worker hpatient

end FillInv

/-- A buffer becomes READY only through the callback of a transfer into that
buffer; at most one transfer is in flight into a buffer, which is then neither
READY nor FREE; and a batch that is about to stop itself has completed each
buffer once, with its own sequence number. -/
structure Filled (s : SgSystem) (e : SgEvent) : Prop where
  marked : ∀ start i, (s.step e).bufState start i = some .ready →
    s.bufState start i = some .ready ∨
      ⟨start, i⟩ ∈ s.completed ∧ ∃ now idx bufSize,
        e = .callback now ∧ s.callback = some (.ready ⟨start, i⟩ idx bufSize)
  single : s.inFlight.Nodup
  writing : ∀ t ∈ s.inFlight, s.bufState t.start t.idx = some .dmaActive
  batch : s.work = .check → s.BatchDone → ∃ b, s.bufs = some b ∧
    ∀ i < s.eng.bufCount.toNat, s.completed.count ⟨b.start, i⟩ = 1 ∧
      b.descs[i]?.map SgBufDesc.sequence = some (BitVec.ofNat 32 i)

section Marked

variable {s s' : SgSystem} {start i : Nat} {state : SgBufState}

theorem bufState_congr (h : s'.bufs = s.bufs) : s'.bufState start i = s.bufState start i := by
  rw [bufState, h]
  rfl

theorem bufState_none (h : s.bufs = none) : s.bufState start i ≠ some state := by
  rw [bufState, h]
  nofun

theorem bufState_some {b : SgBufs} (hb : s.bufs = some b) :
    s.bufState start i = some state ↔
      b.start = start ∧ b.descs[i]?.map SgBufDesc.state = some state := by
  simp only [bufState, hb]
  split
  next h => simp [h]
  next h => simp [h]

theorem setDesc_bufState {idx : BitVec 32} {f : SgBufDesc → SgBufDesc}
    (h : (s.setDesc idx f).bufState start i = some state) :
    s.bufState start i = some state ∨ ∃ b d, s.bufs = some b ∧ b.start = start ∧
      idx.toNat = i ∧ b.descs[i]? = some d ∧ (f d).state = state := by
  cases hb : s.bufs with
  | none => exact absurd h (bufState_none (by rw [setDesc, hb]; rfl))
  | some b =>
      rw [bufState_some (setDesc_bufs hb idx f), List.getElem?_modify] at h
      obtain ⟨hstart, hd⟩ := h
      cases hget : b.descs[i]? with
      | none => simp [hget] at hd
      | some d =>
          by_cases hi : idx.toNat = i
          · exact .inr ⟨b, d, rfl, hstart, hi, hget, by simpa [hget, hi] using hd⟩
          · exact .inl ((bufState_some hb).mpr ⟨hstart, by simpa [hget, hi] using hd⟩)

theorem setState_bufState {idx : BitVec 32} (hne : state ≠ .ready)
    (h : (s.apexSgBufSetState idx state).bufState start i = some .ready) :
    s.bufState start i = some .ready := by
  unfold apexSgBufSetState at h
  split at h
  · rcases setDesc_bufState h with hold | ⟨b, d, -, -, -, -, hstate⟩
    · exact hold
    · exact absurd hstate hne
  · exact h

theorem control_bufState {e : SgEvent} (hc : Control s e s')
    (h : s'.bufState start i = some .ready) : s.bufState start i = some .ready := by
  cases hc with
  | noBufs | noSgl | rolledBack | stopped => exact absurd h (bufState_none rfl)
  | began => simp [bufState] at h
  | dma config b hlock hbufs hlt =>
      obtain ⟨hstart, hd⟩ := (bufState_some rfl).mp h
      rw [List.getElem?_append] at hd
      split at hd
      next => exact (bufState_some hbufs).mpr ⟨hstart, hd⟩
      next =>
          obtain ⟨d, hd, hready⟩ := Option.map_eq_some_iff.mp hd
          rw [List.mem_singleton.mp (List.mem_of_getElem? hd)] at hready
          cases hready
  | _ => exact h

theorem worker_bufState {ok : Bool} (h : (s.worker ok).bufState start i = some .ready) :
    s.bufState start i = some .ready := by
  rcases s.worker_bufs ok with hb | ⟨idx, state, hstate, hb⟩
  · rwa [bufState_congr hb] at h
  · rw [bufState_congr hb] at h
    refine setState_bufState ?_ h
    rcases hstate with rfl | rfl <;> nofun

/-- The callback marks the buffer its transfer went into. -/
theorem callback_bufState {now : BitVec 64} (hphase : Phase s.fill s.work)
    (h : (s.apexSgDmaCallback now).bufState start i = some .ready) :
    s.bufState start i = some .ready ∨
      ⟨start, i⟩ ∈ s.completed ∧
        ∃ idx bufSize, s.callback = some (.ready ⟨start, i⟩ idx bufSize) := by
  unfold apexSgDmaCallback at h
  split at h
  next => exact .inl h
  next => exact .inl h
  next t idx bufSize hc =>
      rcases setDesc_bufState h with hold | ⟨b, d, hb, hstart, hidx, hd, hstate⟩
      · exact .inl hold
      · exact .inl ((bufState_some hb).mpr ⟨hstart, by rw [hd]; exact congrArg some hstate⟩)
  next t idx bufSize hc =>
      rcases setDesc_bufState h with hold | ⟨b, d, hb, hstart, hidx, hd, hstate⟩
      · exact .inl hold
      · rcases hphase.quiet_or_flight with hquiet | ⟨b', n, hflight, -, -⟩
        · exact nomatch hc.symm.trans hquiet.2
        · obtain ⟨hb', rfl, hdone⟩ := hflight.of_marking hc
          obtain rfl : b = b' := Option.some.inj (hb.symm.trans hb')
          rw [hidx, hstart] at hdone hc
          exact .inr ⟨hdone, idx, bufSize, hc⟩
  next => exact .inl h
  next => exact .inl h

end Marked

theorem FillInv.writing {s : SgSystem} (h : FillInv s) :
    s.inFlight = [] ∨ ∃ b i, s.bufs = some b ∧ s.inFlight = [⟨b.start, i⟩] ∧
      b.descs[i]?.map SgBufDesc.state = some .dmaActive :=
  h.phase.writing

theorem FillInv.filled {s : SgSystem} (h : FillInv s) (e : SgEvent) : Filled s e where
  marked := by
    intro start i hready
    cases e with
    | callback now =>
        rcases callback_bufState h.phase hready with hold | ⟨hdone, idx, bufSize, hc⟩
        · exact .inl hold
        · exact .inr ⟨hdone, now, idx, bufSize, rfl, hc⟩
    | worker ok => exact .inl (worker_bufState hready)
    | finish k => exact .inl (bufState_congr (s.finish_state k).2.2 ▸ hready)
    | startBegin config bufsOk sglOk =>
        exact .inl (control_bufState (s.startBegin_control config bufsOk sglOk) hready)
    | startDma ok => exact .inl (control_bufState (s.startDma_control ok) hready)
    | startRun => exact .inl (control_bufState s.startRun_control hready)
    | stopBegin => exact .inl (control_bufState s.stopBegin_control hready)
    | stopEnd => exact .inl (control_bufState s.stopEnd_control hready)
    | removeBegin => exact .inl (control_bufState s.removeBegin_control hready)
    | removeEnd => exact .inl (control_bufState s.removeEnd_control hready)
  single := by
    rcases h.writing with hf | ⟨b, i, -, hf, -⟩
    · exact hf ▸ List.nodup_nil
    · exact hf ▸ List.nodup_singleton _
  writing := by
    intro t ht
    rcases h.writing with hf | ⟨b, i, hb, hf, hactive⟩
    · rw [hf] at ht
      cases ht
    · rw [hf] at ht
      rw [List.mem_singleton.mp ht]
      exact (bufState_some hb).mpr ⟨rfl, hactive⟩
  batch := by
    intro hcheck hdone
    have hphase := h.phase
    rw [hcheck] at hphase
    obtain ⟨b, n, hr, -⟩ := hphase
    exact ⟨b, hr.bufs, fun i hi => hr.full hdone.1 hdone.2 hi⟩

/-- In a run whose worker never gives up a transfer before it is over, every
READY buffer has been filled. -/
theorem ready_is_filled {es : List SgEvent} (h : Along step Patient .init es) :
    Along step Filled .init es :=
  along_mono (fun _ _ hI hp => hI.step hp) (fun _ e hI _ => hI.filled e) FillInv.init h

theorem ready_is_filled_batch : Along step Filled .init (started ++ filled ++ filled) :=
  ready_is_filled (by decide +kernel)

/-- The first transfer into buffer 0 times out and is submitted again. Both
complete, and the second callback marks buffer 1, which nothing was written to. -/
def late : List SgEvent :=
  List.flatten
    [started, List.replicate 5 (.worker true), [.worker false], List.replicate 8 (.worker true),
      [.finish 0], List.replicate 5 (.callback 0), [.finish 0], List.replicate 2 (.callback 0)]

theorem late_marks_unfilled : ¬ Filled (run step .init late) (.callback 0) := by
  intro h
  have hrun : ((run step .init late).step (.callback 0)).bufState 0 1 = some .ready ∧
      (run step .init late).bufState 0 1 ≠ some .ready ∧
        ⟨0, 1⟩ ∉ (run step .init late).completed := by decide +kernel
  rcases h.marked 0 1 hrun.1 with hold | ⟨hdone, -⟩
  · exact hrun.2.1 hold
  · exact hrun.2.2 hdone

end SgSystem

end GhostBlade.Host
