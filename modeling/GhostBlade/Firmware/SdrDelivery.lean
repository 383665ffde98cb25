import GhostBlade.Firmware.SdrDma

/-!
The ring of `sdr_dma.c` with the interrupt between any two accesses of the
functions it preempts. A block handed out is the oldest of the session, it
stays whole until it is released, and the counts add up, as long as no
completed block finds the ring full, nothing is taken from a stopped ring that
was not emptied, and the engine is not stopped under the reader.
-/

namespace GhostBlade.Firmware

open GhostBlade.Library

/-- Where the preempted code stands: outside the functions of `sdr_dma.c`, or
before one of their accesses. The channel may complete its transfer until
`sdr_dma_stop` aborts it. -/
inductive SdrPc where
  | loop
  | getIdx
  | relRead
  | relWrite (idx : Byte)
  | relCount
  | relSent
  | startWrite
  | startRead
  | startFilled
  | startRunning
  | startChannel
  | stopRunning
  | stopAbort
  | wiping (i : Nat)
deriving DecidableEq, Repr

/-- The ring and the code that works on it. The code does not keep the rest: the
block handed out and not yet released, the number of the first transfer of the
session and the statistics at its start, and the transfers whose blocks have
been released, in order. -/
structure Delivery where
  dma : SdrDma
  pc : SdrPc
  held : Option Byte
  first : Nat
  base : DmaStats
  released : List Nat

/-- The interrupt of a completed block, a call, or the next access. -/
inductive DeliveryEvent where
  | blockDone
  | getBlock
  | releaseBlock
  | start
  | stop
  | step
deriving DecidableEq, Repr

def Delivery.zero : Delivery := ⟨SdrDma.zero, .loop, none, 0, ⟨0, 0, 0, 0⟩, []⟩

/-- The next access of the function that was called. -/
def Delivery.advance (s : Delivery) : Delivery :=
  match s.pc with
  | .loop => s
  | .getIdx =>
      let idx := s.dma.protoReadBlock
      if idx ≥ 8 then
        { s with
          dma :=
            { s.dma with stats := { s.dma.stats with underruns := s.dma.stats.underruns + 1 } }
          pc := .loop }
      else { s with held := some idx, pc := .loop }
  | .relRead => { s with pc := .relWrite s.dma.protoReadBlock }
  | .relWrite idx =>
      { s with
        dma := { s.dma with protoReadBlock := nextBlock idx }
        pc := .relCount
        released := s.released ++ [(s.dma.ring idx.toNat).stamp] }
  | .relCount =>
      { s with dma := { s.dma with blocksFilled := s.dma.blocksFilled - 1 }, pc := .relSent }
  | .relSent =>
      { s with
        dma :=
          { s.dma with
            stats := { s.dma.stats with totalBlocksSent := s.dma.stats.totalBlocksSent + 1 } }
        pc := .loop }
  | .startWrite => { s with dma := { s.dma with dmaWriteBlock := 0 }, pc := .startRead }
  | .startRead => { s with dma := { s.dma with protoReadBlock := 0 }, pc := .startFilled }
  | .startFilled => { s with dma := { s.dma with blocksFilled := 0 }, pc := .startRunning }
  | .startRunning => { s with dma := { s.dma with dmaRunning := true }, pc := .startChannel }
  | .startChannel =>
      { s with
        dma := sdrDmaStartBlock 0 s.dma
        pc := .loop
        first := s.dma.transfers
        base := s.dma.stats }
  | .stopRunning => { s with dma := { s.dma with dmaRunning := false }, pc := .stopAbort }
  | .stopAbort => { s with dma := { s.dma with target := none }, pc := .wiping 0 }
  | .wiping i =>
      if i < 8 * sdrRingBlockSize then
        let b := i / sdrRingBlockSize
        { s with
          dma := { s.dma with ring := Function.update s.dma.ring b (s.dma.ring b).spoil }
          pc := .wiping (i + 1) }
      else { s with pc := .loop }

/-- A block is completed only while the channel fills one; a call with the test
it makes first starts only outside the others. -/
def Delivery.step (s : Delivery) : DeliveryEvent → Delivery
  | .blockDone =>
      if s.dma.target.isSome then { s with dma := sdrDmaIrqHandler true s.dma.transferDone } else s
  | .getBlock =>
      if s.pc = .loop then
        if s.dma.blocksFilled = 0 then
          { s with
            dma :=
              { s.dma with
                stats := { s.dma.stats with underruns := s.dma.stats.underruns + 1 } } }
        else { s with pc := .getIdx }
      else s
  | .releaseBlock =>
      if s.pc = .loop then
        if s.dma.blocksFilled > 0 then { s with pc := .relRead, held := none }
        else { s with held := none }
      else s
  | .start =>
      if s.pc = .loop then if s.dma.dmaRunning then s else { s with pc := .startWrite } else s
  | .stop => if s.pc = .loop then { s with pc := .stopRunning } else s
  | .step => s.advance

/-- A block handed out was completely written in this session and is not being
written; blocks are released in capture order, each at most once; and all that
was captured is released, overrun or available. -/
structure Delivery.Sound (s : Delivery) : Prop where
  held : ∀ idx, s.held = some idx →
    (s.dma.ring idx.toNat).whole = true ∧ s.first ≤ (s.dma.ring idx.toNat).stamp ∧
      s.dma.target ≠ some idx
  released : s.released.Pairwise (· < ·)
  account : s.pc = .loop →
    s.dma.stats.totalBlocksCaptured - s.base.totalBlocksCaptured =
      (s.dma.stats.totalBlocksSent - s.base.totalBlocksSent) +
        (s.dma.stats.overruns - s.base.overruns) + s.dma.blocksFilled.setWidth 32

/-- The steps that go well: a completed block leaves the ring short of full,
nothing is taken from a stopped ring that still counts blocks, and the engine
is not stopped while a block is out. -/
def Delivery.Untroubled (s : Delivery) : DeliveryEvent → Prop
  | .blockDone => s.dma.target.isSome → nextBlock s.dma.dmaWriteBlock ≠ s.dma.protoReadBlock
  | .getBlock => s.pc = .loop → s.dma.dmaRunning = true ∨ s.dma.blocksFilled = 0
  | .stop => s.pc = .loop → s.held = none
  | .releaseBlock | .start | .step => True

instance Delivery.Untroubled.decidable (s : Delivery) (e : DeliveryEvent) :
    Decidable (s.Untroubled e) :=
  match e with
  | .blockDone => inferInstanceAs (Decidable (_ → _ ≠ _))
  | .getBlock => inferInstanceAs (Decidable (_ → _ ∨ _))
  | .stop => inferInstanceAs (Decidable (_ → _ = _))
  | .releaseBlock => inferInstanceAs (Decidable True)
  | .start => inferInstanceAs (Decidable True)
  | .step => inferInstanceAs (Decidable True)

/-! ### Without interrupts the accesses are the functions -/

theorem getBlock_alone (s : Delivery) (hpc : s.pc = .loop) :
    let t := run Delivery.step s [.getBlock, .step]
    t.dma = (sdrDmaGetBlock s.dma).2 ∧ t.pc = .loop ∧
      t.held = (sdrDmaGetBlock s.dma).1.or s.held := by
  by_cases hempty : s.dma.blocksFilled = 0#8
  · simp [Delivery.step, Delivery.advance, sdrDmaGetBlock, hpc, hempty]
  · by_cases hout : s.dma.protoReadBlock ≥ 8#8
    · simp [Delivery.step, Delivery.advance, sdrDmaGetBlock, hpc, hempty, hout]
    · simp [Delivery.step, Delivery.advance, sdrDmaGetBlock, hpc, hempty, hout]

theorem releaseBlock_alone (s : Delivery) (hpc : s.pc = .loop) :
    let t := run Delivery.step s [.releaseBlock, .step, .step, .step, .step]
    t.dma = sdrDmaReleaseBlock s.dma ∧ t.pc = .loop ∧ t.held = none := by
  by_cases hsome : s.dma.blocksFilled > 0#8
  · simp [Delivery.step, Delivery.advance, sdrDmaReleaseBlock, hpc, hsome]
  · simp [Delivery.step, Delivery.advance, sdrDmaReleaseBlock, hpc, hsome]

theorem start_alone (s : Delivery) (hpc : s.pc = .loop) :
    let t := run Delivery.step s [.start, .step, .step, .step, .step, .step]
    t.dma = sdrDmaStart s.dma ∧ t.pc = .loop ∧ t.held = s.held := by
  by_cases hrun : s.dma.dmaRunning = true
  · simp [Delivery.step, Delivery.advance, sdrDmaStart, hpc, hrun]
  · simp [Delivery.step, Delivery.advance, sdrDmaStart, sdrDmaStartBlock, hpc, hrun]

theorem wipeRing_succ (ring : Nat → IqBlock) (i : Nat) :
    Function.update (wipeRing ring i) (i / sdrRingBlockSize)
      (wipeRing ring i (i / sdrRingBlockSize)).spoil = wipeRing ring (i + 1) := by
  have hsize : sdrRingBlockSize = 512 := rfl
  funext b
  rw [Function.update_apply]
  simp only [wipeRing, hsize]
  split
  · next heq =>
    rw [heq, if_pos (by omega : i / 512 * 512 < i + 1)]
    split <;> rfl
  · next hne =>
    have hiff : b * 512 < i + 1 ↔ b * 512 < i := by omega
    simp only [hiff]

theorem wipe_run (s : Delivery) (ring : Nat → IqBlock) (i n : Nat) (hpc : s.pc = .wiping i)
    (hring : s.dma.ring = wipeRing ring i) (hlen : i + n = 8 * sdrRingBlockSize) :
    run Delivery.step s (List.replicate (n + 1) .step) =
      { s with
        dma := { s.dma with ring := wipeRing ring (8 * sdrRingBlockSize) }
        pc := .loop } := by
  induction n generalizing s i with
  | zero =>
      have hend : i = 8 * sdrRingBlockSize := hlen
      rw [← hend, ← hring]
      simp [Delivery.step, Delivery.advance, hpc, hend]
  | succ n ih =>
      have hone : s.step .step =
          { s with
            dma := { s.dma with ring := wipeRing ring (i + 1) }
            pc := .wiping (i + 1) } := by
        have hlt : i < 8 * sdrRingBlockSize := by omega
        simp [Delivery.step, Delivery.advance, hpc, hlt, hring, wipeRing_succ]
      have hrest := ih (s.step .step) (i + 1) (by rw [hone]) (by rw [hone]) (by omega)
      rw [List.replicate_succ, run_cons, hrest, hone]

theorem wipeRing_zero (ring : Nat → IqBlock) : wipeRing ring 0 = ring := by
  funext b
  simp [wipeRing]

theorem stop_alone (s : Delivery) (hpc : s.pc = .loop) :
    let t := run Delivery.step s
      (.stop :: .step :: .step :: List.replicate (8 * sdrRingBlockSize + 1) .step)
    t.dma = sdrDmaStop s.dma ∧ t.pc = .loop ∧ t.held = s.held := by
  have hbegun : run Delivery.step s [.stop, .step, .step] =
      { s with dma := { s.dma with dmaRunning := false, target := none }, pc := .wiping 0 } := by
    simp [Delivery.step, Delivery.advance, hpc]
  have hsplit (es : List DeliveryEvent) : run Delivery.step s (.stop :: .step :: .step :: es) =
      run Delivery.step (run Delivery.step s [.stop, .step, .step]) es := rfl
  have hwiped := wipe_run (run Delivery.step s [.stop, .step, .step]) s.dma.ring 0
    (8 * sdrRingBlockSize) (by rw [hbegun]) (by rw [hbegun, wipeRing_zero]) (Nat.zero_add _)
  rw [hsplit, hwiped, hbegun]
  exact ⟨rfl, rfl, rfl⟩

/-! ### The invariant -/

/-- How many blocks lie between the two indices. -/
def SdrDma.avail (d : SdrDma) : Nat := (d.dmaWriteBlock.toNat + 8 - d.protoReadBlock.toNat) % 8

/-- The ring in order: the blocks from the read index on are those of the last
transfers. In the middle of a release the count is `extra` too high, or the
statistics lack the `owed` block. -/
structure Delivery.Ready (s : Delivery) (extra owed : Nat) : Prop where
  write : s.dma.dmaWriteBlock.toNat < 8
  read : s.dma.protoReadBlock.toNat < 8
  filled : s.dma.blocksFilled.toNat = s.dma.avail + extra
  channel : s.dma.target = none ∨ s.dma.target = some s.dma.dmaWriteBlock
  stamps : ∀ j < s.dma.avail,
    (s.dma.ring ((s.dma.protoReadBlock.toNat + j) % 8)).stamp + s.dma.avail = s.dma.transfers + j
  session : s.dma.dmaRunning = true → s.first + s.dma.avail ≤ s.dma.transfers
  whole : s.dma.dmaRunning = true →
    ∀ j < s.dma.avail, (s.dma.ring ((s.dma.protoReadBlock.toNat + j) % 8)).whole = true
  past : ∀ x ∈ s.released, x + s.dma.avail < s.dma.transfers
  sorted : s.released.Pairwise (· < ·)
  account : s.dma.stats.totalBlocksCaptured - s.base.totalBlocksCaptured =
    (s.dma.stats.totalBlocksSent - s.base.totalBlocksSent) +
      (s.dma.stats.overruns - s.base.overruns) + s.dma.blocksFilled.setWidth 32 +
        BitVec.ofNat 32 owed

/-- What a completed block does when the ring has room for it. -/
theorem blockDone_eq (d : SdrDma) (htarget : d.target = some d.dmaWriteBlock)
    (hroom : nextBlock d.dmaWriteBlock ≠ d.protoReadBlock) :
    sdrDmaIrqHandler true d.transferDone =
      let next := nextBlock d.dmaWriteBlock
      let ring := Function.update d.ring d.dmaWriteBlock.toNat ⟨d.transfers, true⟩
      { d with
        ring :=
          if d.dmaRunning then Function.update ring next.toNat (ring next.toNat).spoil else ring
        dmaWriteBlock := next
        blocksFilled := d.blocksFilled + 1
        dmaIrqCount := d.dmaIrqCount + 1
        stats := { d.stats with totalBlocksCaptured := d.stats.totalBlocksCaptured + 1 }
        target := if d.dmaRunning then some next else none
        transfers := d.transfers + 1 } := by
  simp only [SdrDma.transferDone, htarget, sdrDmaIrqHandler, sdrDmaBlockDone, if_true,
    if_neg hroom]
  cases d.dmaRunning <;> rfl

/-- Short of full the blocks from the read index up to the write index lie apart
from the one written next. -/
theorem Delivery.Ready.indices {s : Delivery} {extra owed : Nat} (h : s.Ready extra owed)
    (hroom : nextBlock s.dma.dmaWriteBlock ≠ s.dma.protoReadBlock) :
    (∀ j ≤ s.dma.avail,
      (s.dma.protoReadBlock.toNat + j) % 8 ≠ (nextBlock s.dma.dmaWriteBlock).toNat ∧
        (j = s.dma.avail ↔
          (s.dma.protoReadBlock.toNat + j) % 8 = s.dma.dmaWriteBlock.toNat)) ∧
      ((nextBlock s.dma.dmaWriteBlock).toNat + 8 - s.dma.protoReadBlock.toNat) % 8 =
        s.dma.avail + 1 := by
  have hwrite := h.write
  have hread := h.read
  have hnext := nextBlock_toNat s.dma.dmaWriteBlock
  have hapart : (nextBlock s.dma.dmaWriteBlock).toNat ≠ s.dma.protoReadBlock.toNat :=
    fun he => hroom (BitVec.eq_of_toNat_eq he)
  unfold SdrDma.avail
  constructor
  · intro j hj
    constructor
    · omega
    · omega
  · omega

/-- The cells of the filled blocks after one more: the new one is whole, and the
one to be written next is none of them. -/
theorem blockDone_ring {s : Delivery} {extra owed : Nat} (h : s.Ready extra owed)
    (htarget : s.dma.target = some s.dma.dmaWriteBlock)
    (hroom : nextBlock s.dma.dmaWriteBlock ≠ s.dma.protoReadBlock) (j : Nat)
    (hj : j ≤ s.dma.avail) :
    (sdrDmaIrqHandler true s.dma.transferDone).ring ((s.dma.protoReadBlock.toNat + j) % 8) =
      if j = s.dma.avail then ⟨s.dma.transfers, true⟩
      else s.dma.ring ((s.dma.protoReadBlock.toNat + j) % 8) := by
  rw [blockDone_eq s.dma htarget hroom]
  obtain ⟨hne, hlast⟩ := (h.indices hroom).1 j hj
  cases hrun : s.dma.dmaRunning with
  | false => simp [Function.update_apply, hlast]
  | true => simp [Function.update_apply, hne, hlast]

theorem blockDone_frame {s : Delivery} {extra owed : Nat} (h : s.Ready extra owed)
    (htarget : s.dma.target = some s.dma.dmaWriteBlock)
    (hroom : nextBlock s.dma.dmaWriteBlock ≠ s.dma.protoReadBlock) :
    let d := sdrDmaIrqHandler true s.dma.transferDone
    d.protoReadBlock = s.dma.protoReadBlock ∧ d.dmaRunning = s.dma.dmaRunning ∧
      d.avail = s.dma.avail + 1 ∧ (s.dma.dmaRunning = false → d.target = none) := by
  have heq := blockDone_eq s.dma htarget hroom
  generalize sdrDmaIrqHandler true s.dma.transferDone = d at heq
  refine ⟨by rw [heq], by rw [heq], ?_, fun hoff => by rw [heq, hoff]; rfl⟩
  rw [heq]
  exact (h.indices hroom).2

/-- A completed block joins the ring behind the others. -/
theorem Delivery.Ready.blockDone {s : Delivery} {extra owed : Nat} (h : s.Ready extra owed)
    (hextra : extra ≤ 1) (htarget : s.dma.target = some s.dma.dmaWriteBlock)
    (hroom : nextBlock s.dma.dmaWriteBlock ≠ s.dma.protoReadBlock) :
    ({ s with dma := sdrDmaIrqHandler true s.dma.transferDone } : Delivery).Ready extra owed := by
  have hring := blockDone_ring h htarget hroom
  have heq := blockDone_eq s.dma htarget hroom
  obtain ⟨hreads, hruns, hmore, _⟩ := blockDone_frame h htarget hroom
  generalize sdrDmaIrqHandler true s.dma.transferDone = d at heq hring hreads hruns hmore
  have htransfers : d.transfers = s.dma.transfers + 1 := by rw [heq]
  have hsize : s.dma.avail < 8 := Nat.mod_lt _ (by decide)
  have hcount := h.filled
  refine ⟨?_, ?_, ?_, ?_, ?_, ?_, ?_, ?_, h.sorted, ?_⟩
  · rw [heq]
    change (nextBlock s.dma.dmaWriteBlock).toNat < 8
    rw [nextBlock_toNat]
    omega
  · rw [hreads]
    exact h.read
  · rw [hmore, heq]
    change (s.dma.blocksFilled + 1).toNat = _
    rw [BitVec.toNat_add]
    change (s.dma.blocksFilled.toNat + 1) % 256 = _
    omega
  · rw [heq]
    cases s.dma.dmaRunning with
    | false => exact .inl rfl
    | true => exact .inr rfl
  · intro j hj
    have hj' : j < s.dma.avail + 1 := hmore ▸ hj
    rw [hreads, hring j (by omega), hmore, htransfers]
    split
    · next hlast =>
      change s.dma.transfers + _ = _
      omega
    · next hlast =>
      have hstamp := h.stamps j (by omega)
      omega
  · intro hrun
    have hsession := h.session (hruns ▸ hrun)
    change s.first + d.avail ≤ d.transfers
    omega
  · intro hrun j hj
    have hj' : j < s.dma.avail + 1 := hmore ▸ hj
    rw [hreads, hring j (by omega)]
    split
    · rfl
    · next hlast => exact h.whole (hruns ▸ hrun) j (by omega)
  · intro x hx
    have hpast := h.past x hx
    rw [hmore, htransfers]
    omega
  · have haccount := h.account
    have hwide : (s.dma.blocksFilled + 1).setWidth 32 = s.dma.blocksFilled.setWidth 32 + 1#32 := by
      bv_omega
    rw [heq]
    change s.dma.stats.totalBlocksCaptured + 1 - s.base.totalBlocksCaptured =
      (s.dma.stats.totalBlocksSent - s.base.totalBlocksSent) +
        (s.dma.stats.overruns - s.base.overruns) + (s.dma.blocksFilled + 1).setWidth 32 +
          BitVec.ofNat 32 owed
    rw [hwide]
    bv_omega

/-- A stopped engine fills no block. -/
def Delivery.Driven (s : Delivery) : Prop := s.dma.dmaRunning = false → s.dma.target = none

/-- The block handed out is the oldest of a running session. -/
def Delivery.Holds (s : Delivery) : Prop :=
  ∀ idx, s.held = some idx →
    s.dma.dmaRunning = true ∧ idx = s.dma.protoReadBlock ∧ 1 ≤ s.dma.avail

/-- Between two sessions, with nothing to come and nothing out. -/
structure Delivery.Between (s : Delivery) : Prop where
  target : s.dma.target = none
  held : s.held = none
  past : ∀ x ∈ s.released, x < s.dma.transfers
  sorted : s.released.Pairwise (· < ·)

def Delivery.InvAt (s : Delivery) : SdrPc → Prop
  | .loop => s.Ready 0 0 ∧ s.Driven ∧ s.Holds
  | .getIdx => s.Ready 0 0 ∧ s.Driven ∧ s.Holds ∧ s.dma.dmaRunning = true ∧ 1 ≤ s.dma.avail
  | .relRead => s.Ready 0 0 ∧ s.Driven ∧ s.held = none ∧ 1 ≤ s.dma.avail
  | .relWrite idx =>
      s.Ready 0 0 ∧ s.Driven ∧ s.held = none ∧ 1 ≤ s.dma.avail ∧ idx = s.dma.protoReadBlock
  | .relCount => s.Ready 1 0 ∧ s.Driven ∧ s.held = none
  | .relSent => s.Ready 0 1 ∧ s.Driven ∧ s.held = none
  | .startWrite => s.Between ∧ s.dma.dmaRunning = false
  | .startRead => s.Between ∧ s.dma.dmaRunning = false ∧ s.dma.dmaWriteBlock = 0
  | .startFilled =>
      s.Between ∧ s.dma.dmaRunning = false ∧ s.dma.dmaWriteBlock = 0 ∧ s.dma.protoReadBlock = 0
  | .startRunning =>
      s.Between ∧ s.dma.dmaWriteBlock = 0 ∧ s.dma.protoReadBlock = 0 ∧ s.dma.blocksFilled = 0
  | .startChannel =>
      s.Between ∧ s.dma.dmaWriteBlock = 0 ∧ s.dma.protoReadBlock = 0 ∧
        s.dma.blocksFilled = 0 ∧ s.dma.dmaRunning = true
  | .stopRunning => s.Ready 0 0 ∧ s.held = none
  | .stopAbort => s.Ready 0 0 ∧ s.dma.dmaRunning = false ∧ s.held = none
  | .wiping _ =>
      s.Ready 0 0 ∧ s.dma.dmaRunning = false ∧ s.held = none ∧ s.dma.target = none

def Delivery.Inv (s : Delivery) : Prop := s.InvAt s.pc

theorem Delivery.inv_at {s : Delivery} {pc : SdrPc} (hpc : s.pc = pc) : s.Inv ↔ s.InvAt pc := by
  rw [Delivery.Inv, hpc]

theorem Delivery.inv_zero : Delivery.zero.Inv := by
  refine ⟨⟨by decide, by decide, rfl, .inl rfl, ?_, ?_, ?_, ?_, .nil, rfl⟩, fun _ => rfl, ?_⟩
  · intro j hj
    exact absurd hj (Nat.not_lt_zero j)
  · rintro ⟨⟩
  · rintro ⟨⟩
  · intro x hx
    cases hx
  · rintro idx ⟨⟩

theorem Delivery.InvAt.blockDone {s : Delivery} {pc : SdrPc} (h : s.InvAt pc)
    (hbusy : s.dma.target.isSome = true)
    (hroom : nextBlock s.dma.dmaWriteBlock ≠ s.dma.protoReadBlock) :
    ({ s with dma := sdrDmaIrqHandler true s.dma.transferDone } : Delivery).InvAt pc := by
  have hnone {p : Prop} (hn : s.dma.target = none) : p := by
    rw [hn] at hbusy
    cases hbusy
  have hnext {extra owed : Nat} (hready : s.Ready extra owed) (hextra : extra ≤ 1) :
      let t : Delivery := { s with dma := sdrDmaIrqHandler true s.dma.transferDone }
      t.Ready extra owed ∧ t.Driven ∧ t.dma.protoReadBlock = s.dma.protoReadBlock ∧
        t.dma.dmaRunning = s.dma.dmaRunning ∧ 1 ≤ t.dma.avail := by
    have htarget := hready.channel.resolve_left hnone
    obtain ⟨hreads, hruns, hmore, hoff⟩ := blockDone_frame hready htarget hroom
    exact ⟨hready.blockDone hextra htarget hroom, fun hstop => hoff (hruns.symm.trans hstop),
      hreads, hruns, hmore.ge.trans' (by omega)⟩
  cases pc with
  | loop =>
      obtain ⟨hready, hdriven, hreads, hruns, hpos⟩ := hnext h.1 (by omega)
      refine ⟨hready, hdriven, fun idx hidx => ?_⟩
      obtain ⟨hrun, hr, _⟩ := h.2.2 idx hidx
      exact ⟨hruns.trans hrun, hr.trans hreads.symm, hpos⟩
  | getIdx =>
      obtain ⟨hready, hdriven, hreads, hruns, hpos⟩ := hnext h.1 (by omega)
      refine ⟨hready, hdriven, fun idx hidx => ?_, hruns.trans h.2.2.2.1, hpos⟩
      obtain ⟨hrun, hr, _⟩ := h.2.2.1 idx hidx
      exact ⟨hruns.trans hrun, hr.trans hreads.symm, hpos⟩
  | relRead =>
      obtain ⟨hready, hdriven, _, _, hpos⟩ := hnext h.1 (by omega)
      exact ⟨hready, hdriven, h.2.2.1, hpos⟩
  | relWrite idx =>
      obtain ⟨hready, hdriven, hreads, _, hpos⟩ := hnext h.1 (by omega)
      exact ⟨hready, hdriven, h.2.2.1, hpos, h.2.2.2.2.trans hreads.symm⟩
  | relCount =>
      obtain ⟨hready, hdriven, _⟩ := hnext h.1 (by omega)
      exact ⟨hready, hdriven, h.2.2⟩
  | relSent =>
      obtain ⟨hready, hdriven, _⟩ := hnext h.1 (by omega)
      exact ⟨hready, hdriven, h.2.2⟩
  | startWrite | startRead | startFilled | startRunning | startChannel => exact hnone h.1.target
  | stopRunning => exact ⟨(hnext h.1 (by omega)).1, h.2⟩
  | stopAbort =>
      obtain ⟨hready, _, _, hruns, _⟩ := hnext h.1 (by omega)
      exact ⟨hready, hruns.trans h.2.1, h.2.2⟩
  | wiping i => exact hnone h.2.2.2

/-- Past the oldest block one less is available, and each has moved up by one. -/
theorem avail_next {d : SdrDma} (hpos : 1 ≤ d.avail) :
    ({ d with protoReadBlock := nextBlock d.protoReadBlock } : SdrDma).avail + 1 = d.avail ∧
      ∀ j, ((nextBlock d.protoReadBlock).toNat + j) % 8 =
        (d.protoReadBlock.toNat + (j + 1)) % 8 := by
  have hnext := nextBlock_toNat d.protoReadBlock
  unfold SdrDma.avail at hpos ⊢
  dsimp only
  constructor
  · omega
  · intro j
    omega

theorem Delivery.Ready.oldest_stamp {s : Delivery} {extra owed : Nat} (h : s.Ready extra owed)
    (hpos : 1 ≤ s.dma.avail) :
    (s.dma.ring s.dma.protoReadBlock.toNat).stamp + s.dma.avail = s.dma.transfers := by
  have hstamp := h.stamps 0 hpos
  rwa [Nat.add_zero, Nat.mod_eq_of_lt h.read, Nat.add_zero] at hstamp

/-- The read index has moved on: the oldest block is given back. -/
theorem Delivery.Ready.released {s : Delivery} (h : s.Ready 0 0) (hpos : 1 ≤ s.dma.avail) :
    ({ s with
        dma := { s.dma with protoReadBlock := nextBlock s.dma.protoReadBlock }
        pc := .relCount
        released := s.released ++ [(s.dma.ring s.dma.protoReadBlock.toNat).stamp] } :
          Delivery).Ready 1 0 := by
  have holdest := h.oldest_stamp hpos
  obtain ⟨hfewer, hslot⟩ := avail_next hpos
  let d : SdrDma := { s.dma with protoReadBlock := nextBlock s.dma.protoReadBlock }
  change d.avail + 1 = s.dma.avail at hfewer
  refine ⟨h.write, ?_, ?_, h.channel, ?_, ?_, ?_, ?_, ?_, h.account⟩
  · rw [nextBlock_toNat]
    exact Nat.mod_lt _ (by decide)
  · exact h.filled.trans hfewer.symm
  · intro j hj
    change j < d.avail at hj
    have hstamp := h.stamps (j + 1) (by omega)
    rw [← hslot] at hstamp
    change (s.dma.ring (((nextBlock s.dma.protoReadBlock).toNat + j) % 8)).stamp + d.avail =
      s.dma.transfers + j
    omega
  · intro hrun
    have hsession := h.session hrun
    change s.first + d.avail ≤ s.dma.transfers
    omega
  · intro hrun j hj
    change j < d.avail at hj
    have hwhole := h.whole hrun (j + 1) (by omega)
    rwa [← hslot] at hwhole
  · intro x hx
    change x + d.avail < s.dma.transfers
    rcases List.mem_append.mp hx with hx | hx
    · have hpast := h.past x hx
      omega
    · have hlast := List.mem_singleton.mp hx
      omega
  · refine List.pairwise_append.mpr ⟨h.sorted, List.pairwise_singleton _ _, ?_⟩
    intro x hx y hy
    have hpast := h.past x hx
    have hlast := List.mem_singleton.mp hy
    omega

/-- The count follows; the statistics still owe the block. -/
theorem Delivery.Ready.counted {s : Delivery} (h : s.Ready 1 0) :
    ({ s with
        dma := { s.dma with blocksFilled := s.dma.blocksFilled - 1 }
        pc := .relSent } : Delivery).Ready 0 1 := by
  have hfilled := h.filled
  have hsub : (s.dma.blocksFilled - 1).toNat + 1 = s.dma.blocksFilled.toNat := by
    rw [BitVec.toNat_sub]
    change (256 - 1 + s.dma.blocksFilled.toNat) % 256 + 1 = _
    have := s.dma.blocksFilled.isLt
    omega
  have haccount := h.account
  refine { h with filled := ?_, account := ?_ }
  · change (s.dma.blocksFilled - 1).toNat = s.dma.avail + 0
    omega
  · change _ = _ + _ + (s.dma.blocksFilled - 1).setWidth 32 + 1#32
    have hwide : s.dma.blocksFilled.setWidth 32 =
        (s.dma.blocksFilled - 1).setWidth 32 + 1#32 := by bv_omega
    rw [hwide] at haccount
    bv_omega

/-- One more block sent. -/
theorem Delivery.Ready.sent {s : Delivery} (h : s.Ready 0 1) :
    ({ s with
        dma :=
          { s.dma with
            stats := { s.dma.stats with totalBlocksSent := s.dma.stats.totalBlocksSent + 1 } }
        pc := .loop } : Delivery).Ready 0 0 := by
  have haccount := h.account
  refine { h with account := ?_ }
  change _ = (s.dma.stats.totalBlocksSent + 1 - s.base.totalBlocksSent) + _ + _ + 0#32
  bv_omega

/-- A new session begins with an empty ring. -/
theorem Delivery.Between.begin {s : Delivery} (h : s.Between) (hw : s.dma.dmaWriteBlock = 0)
    (hr : s.dma.protoReadBlock = 0) (hf : s.dma.blocksFilled = 0) :
    ({ s with
        dma := sdrDmaStartBlock 0 s.dma
        pc := .loop
        first := s.dma.transfers
        base := s.dma.stats } : Delivery).Ready 0 0 := by
  have havail : (sdrDmaStartBlock 0 s.dma).avail = 0 := by
    change (s.dma.dmaWriteBlock.toNat + 8 - s.dma.protoReadBlock.toNat) % 8 = 0
    rw [hw, hr]
    rfl
  refine ⟨?_, ?_, ?_, .inr (congrArg some hw.symm), ?_, ?_, ?_, ?_, h.sorted, ?_⟩
  · change s.dma.dmaWriteBlock.toNat < 8
    rw [hw]
    decide
  · change s.dma.protoReadBlock.toNat < 8
    rw [hr]
    decide
  · rw [havail]
    exact congrArg BitVec.toNat hf
  · intro j hj
    rw [havail] at hj
    exact absurd hj (Nat.not_lt_zero j)
  · intro _
    rw [havail]
    exact le_refl s.dma.transfers
  · intro _ j hj
    rw [havail] at hj
    exact absurd hj (Nat.not_lt_zero j)
  · intro x hx
    rw [havail]
    exact h.past x hx
  · change s.dma.stats.totalBlocksCaptured - s.dma.stats.totalBlocksCaptured =
      (s.dma.stats.totalBlocksSent - s.dma.stats.totalBlocksSent) +
        (s.dma.stats.overruns - s.dma.stats.overruns) + s.dma.blocksFilled.setWidth 32 + 0#32
    rw [hf]
    simp

theorem Delivery.inv_advance {s : Delivery} (h : s.Inv) : s.advance.Inv := by
  unfold Delivery.Inv at h
  unfold Delivery.advance
  generalize hpc : s.pc = pc at h ⊢
  cases pc with
  | loop => exact (Delivery.inv_at hpc).mpr h
  | getIdx =>
      obtain ⟨hready, hdriven, _, hrun, hpos⟩ := h
      have hread := hready.read
      have hvalid : ¬ s.dma.protoReadBlock ≥ 8 := fun hge => by
        have : 8 ≤ s.dma.protoReadBlock.toNat := hge
        omega
      dsimp only
      rw [if_neg hvalid]
      refine ⟨{ hready with }, hdriven, ?_⟩
      rintro idx ⟨rfl⟩
      exact ⟨hrun, rfl, hpos⟩
  | relRead =>
      obtain ⟨hready, hdriven, hheld, hpos⟩ := h
      exact ⟨{ hready with }, hdriven, hheld, hpos, rfl⟩
  | relWrite idx =>
      obtain ⟨hready, hdriven, hheld, hpos, rfl⟩ := h
      exact ⟨hready.released hpos, hdriven, hheld⟩
  | relCount => exact ⟨h.1.counted, h.2.1, h.2.2⟩
  | relSent =>
      refine ⟨h.1.sent, h.2.1, fun idx hidx => ?_⟩
      have hnone : s.held = some idx := hidx
      rw [h.2.2] at hnone
      cases hnone
  | startWrite => exact ⟨{ h.1 with }, h.2, rfl⟩
  | startRead => exact ⟨{ h.1 with }, h.2.1, h.2.2, rfl⟩
  | startFilled => exact ⟨{ h.1 with }, h.2.2.1, h.2.2.2, rfl⟩
  | startRunning => exact ⟨{ h.1 with }, h.2.1, h.2.2.1, h.2.2.2, rfl⟩
  | startChannel =>
      obtain ⟨hbetween, hw, hr, hf, hrun⟩ := h
      refine ⟨hbetween.begin hw hr hf, fun hstop => ?_, fun idx hidx => ?_⟩
      · exact absurd (hrun.symm.trans hstop) Bool.noConfusion
      · have hnone : s.held = some idx := hidx
        rw [hbetween.held] at hnone
        cases hnone
  | stopRunning =>
      exact ⟨{ h.1 with session := by rintro ⟨⟩, whole := by rintro ⟨⟩ }, rfl, h.2⟩
  | stopAbort => exact ⟨{ h.1 with channel := .inl rfl }, h.2.1, h.2.2, rfl⟩
  | wiping i =>
      obtain ⟨hready, hstop, hheld, htarget⟩ := h
      dsimp only
      split
      · refine ⟨{ hready with stamps := ?_, whole := ?_ }, hstop, hheld, htarget⟩
        · intro j hj
          have hstamp := hready.stamps j hj
          dsimp only
          rw [Function.update_apply]
          split
          · next heq => rwa [← heq]
          · exact hstamp
        · intro hrun
          exact absurd (hstop.symm.trans hrun) Bool.noConfusion
      · refine ⟨{ hready with }, fun _ => htarget, fun idx hidx => ?_⟩
        have hnone : s.held = some idx := hidx
        rw [hheld] at hnone
        cases hnone

theorem Delivery.inv_start {s : Delivery} (h : s.Inv) : (s.step .start).Inv := by
  dsimp only [Delivery.step]
  split
  · next hpc =>
    split
    · exact h
    · next hidle =>
      obtain ⟨hready, hdriven, hholds⟩ := (Delivery.inv_at hpc).mp h
      have hoff : s.dma.dmaRunning = false := by simpa using hidle
      have hheld : s.held = none := by
        cases hh : s.held with
        | none => rfl
        | some idx => exact absurd (hoff.symm.trans (hholds idx hh).1) Bool.noConfusion
      refine ⟨⟨hdriven hoff, hheld, fun x hx => ?_, hready.sorted⟩, hoff⟩
      have hpast := hready.past x hx
      change x < s.dma.transfers
      omega
  · exact h

theorem Delivery.inv_step (s : Delivery) (e : DeliveryEvent) (h : s.Inv) (hok : s.Untroubled e) :
    (s.step e).Inv := by
  cases e with
  | blockDone =>
      dsimp only [Delivery.step]
      split
      · next hbusy => exact Delivery.InvAt.blockDone h hbusy (hok hbusy)
      · exact h
  | getBlock =>
      dsimp only [Delivery.step]
      split
      · next hpc =>
        obtain ⟨hready, hdriven, hholds⟩ := (Delivery.inv_at hpc).mp h
        have hfilled := hready.filled
        split
        · change Delivery.InvAt _ s.pc
          rw [hpc]
          exact ⟨{ hready with }, hdriven, hholds⟩
        · next hsome =>
          have hpos : s.dma.blocksFilled.toNat ≠ 0 := fun hz => hsome (BitVec.eq_of_toNat_eq hz)
          refine ⟨{ hready with }, hdriven, hholds, (hok hpc).resolve_right hsome, ?_⟩
          change 1 ≤ s.dma.avail
          omega
      · exact h
  | releaseBlock =>
      dsimp only [Delivery.step]
      split
      · next hpc =>
        obtain ⟨hready, hdriven, hholds⟩ := (Delivery.inv_at hpc).mp h
        have hfilled := hready.filled
        split
        · next hsome =>
          have hpos : 0 < s.dma.blocksFilled.toNat := hsome
          refine ⟨{ hready with }, hdriven, rfl, ?_⟩
          change 1 ≤ s.dma.avail
          omega
        · change Delivery.InvAt _ s.pc
          rw [hpc]
          exact ⟨{ hready with }, hdriven, by rintro idx ⟨⟩⟩
      · exact h
  | start => exact Delivery.inv_start h
  | stop =>
      dsimp only [Delivery.step]
      split
      · next hpc =>
        obtain ⟨hready, _, _⟩ := (Delivery.inv_at hpc).mp h
        exact ⟨{ hready with }, hok hpc⟩
      · exact h
  | step => exact Delivery.inv_advance h

/-- The oldest block of a running session is whole and out of the channel's way. -/
theorem Delivery.Ready.oldest {s : Delivery} (h : s.Ready 0 0) (hrun : s.dma.dmaRunning = true)
    (hpos : 1 ≤ s.dma.avail) :
    (s.dma.ring s.dma.protoReadBlock.toNat).whole = true ∧
      s.first ≤ (s.dma.ring s.dma.protoReadBlock.toNat).stamp ∧
        s.dma.target ≠ some s.dma.protoReadBlock := by
  have hwhole := h.whole hrun 0 hpos
  have hstamp := h.oldest_stamp hpos
  have hsession := h.session hrun
  rw [Nat.add_zero, Nat.mod_eq_of_lt h.read] at hwhole
  refine ⟨hwhole, by omega, fun htarget => ?_⟩
  rcases h.channel with hnone | hsome
  · rw [hnone] at htarget
    cases htarget
  · have heq : s.dma.dmaWriteBlock = s.dma.protoReadBlock :=
      Option.some.inj (hsome.symm.trans htarget)
    have havail : s.dma.avail =
        (s.dma.dmaWriteBlock.toNat + 8 - s.dma.protoReadBlock.toNat) % 8 := rfl
    rw [heq] at havail
    omega

theorem Delivery.Inv.holds {s : Delivery} (h : s.Inv) {idx : Byte} (hheld : s.held = some idx) :
    s.Ready 0 0 ∧ s.dma.dmaRunning = true ∧ idx = s.dma.protoReadBlock ∧ 1 ≤ s.dma.avail := by
  have hnot {p : Prop} (hnone : s.held = none) : p := by
    rw [hnone] at hheld
    cases hheld
  unfold Delivery.Inv at h
  generalize s.pc = pc at h
  cases pc with
  | loop => exact ⟨h.1, h.2.2 idx hheld⟩
  | getIdx => exact ⟨h.1, h.2.2.1 idx hheld⟩
  | relRead | relWrite => exact hnot h.2.2.1
  | relCount | relSent => exact hnot h.2.2
  | startWrite | startRead | startFilled | startRunning | startChannel => exact hnot h.1.held
  | stopRunning => exact hnot h.2
  | stopAbort => exact hnot h.2.2
  | wiping i => exact hnot h.2.2.1

theorem Delivery.Inv.sorted {s : Delivery} (h : s.Inv) : s.released.Pairwise (· < ·) := by
  unfold Delivery.Inv at h
  generalize s.pc = pc at h
  cases pc with
  | startWrite | startRead | startFilled | startRunning | startChannel => exact h.1.sorted
  | loop | getIdx | relRead | relWrite | relCount | relSent | stopRunning | stopAbort | wiping =>
      exact h.1.sorted

theorem Delivery.Inv.sound {s : Delivery} (h : s.Inv) : s.Sound where
  held := by
    intro idx hidx
    obtain ⟨hready, hrun, rfl, hpos⟩ := h.holds hidx
    exact hready.oldest hrun hpos
  released := h.sorted
  account := by
    intro hpc
    have haccount := ((Delivery.inv_at hpc).mp h).1.account
    rwa [BitVec.add_zero] at haccount

/-- Blocks are delivered as captured in every run in which no completed block
finds the ring full, nothing is asked of a stopped ring that still counts
blocks, and the engine is not stopped while a block is out. -/
theorem iq_delivery (es : List DeliveryEvent)
    (hes : Along Delivery.step Delivery.Untroubled Delivery.zero es) :
    (run Delivery.step Delivery.zero es).Sound :=
  (run_invariant_along Delivery.inv_step Delivery.inv_zero hes).sound

/-- Two blocks captured, one taken and given back while a third comes in. -/
theorem iq_delivery_three_blocks :
    let es := [.start, .step, .step, .step, .step, .step, .blockDone, .blockDone, .getBlock,
      .blockDone, .step, .releaseBlock, .step, .step, .step, .step]
    (run Delivery.step Delivery.zero es).Sound ∧
      (run Delivery.step Delivery.zero es).released = [0] ∧
      (run Delivery.step Delivery.zero es).dma.blocksFilled = 2 :=
  ⟨iq_delivery _ (by decide), by decide⟩

/-- A reader takes the first block and keeps it while seven more are completed. -/
def heldTooLong : List DeliveryEvent :=
  [.start, .step, .step, .step, .step, .step, .blockDone, .getBlock, .step] ++
    List.replicate 7 .blockDone

/-- The channel is now writing into the block that is out. -/
theorem held_block_overwritten :
    (run Delivery.step Delivery.zero heldTooLong).held = some 0 ∧
      (run Delivery.step Delivery.zero heldTooLong).dma.target = some 0 ∧
      ¬ (run Delivery.step Delivery.zero heldTooLong).Sound := by
  have hheld : (run Delivery.step Delivery.zero heldTooLong).held = some 0 := by decide
  have htarget : (run Delivery.step Delivery.zero heldTooLong).dma.target = some 0 := by decide
  exact ⟨hheld, htarget, fun h => (h.held 0 hheld).2.2 htarget⟩

end GhostBlade.Firmware
