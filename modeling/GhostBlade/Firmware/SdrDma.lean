import GhostBlade.Library.Bytes
import GhostBlade.Library.Run

/-!
The ring of IQ blocks (`sdr_dma.c`). A DMA channel fills one block after the
other and interrupts after each; the protocol side takes the blocks out. Write
index, read index and the count of filled blocks are three variables. They agree
until the interrupt finds the ring full: it then moves the read index as well,
and still counts the new block.
-/

namespace GhostBlade.Firmware

open GhostBlade.Library

/-- What a block of the ring holds: the number of the transfer last completed
in it, and whether all of its bytes are still those of that transfer. -/
structure IqBlock where
  stamp : Nat
  whole : Bool
deriving DecidableEq, Repr

structure DmaStats where
  totalBlocksCaptured : BitVec 32
  totalBlocksSent : BitVec 32
  overruns : BitVec 32
  underruns : BitVec 32
deriving DecidableEq, Repr

/-- The static variables of the file, the block DMA channel 0 is filling, and
how many transfers it has completed. -/
structure SdrDma where
  ring : Nat → IqBlock
  dmaWriteBlock : Byte
  protoReadBlock : Byte
  blocksFilled : Byte
  dmaRunning : Bool
  dmaIrqCount : BitVec 32
  stats : DmaStats
  target : Option Byte
  transfers : Nat

/-- `(b + 1) % SDR_RING_NUM_BLOCKS` -/
def nextBlock (b : Byte) : Byte := (b + 1) % 8

def IqBlock.spoil (b : IqBlock) : IqBlock := { b with whole := false }

def sdrRingBlockSize : Nat := 512

/-- The ring once its first `n` bytes are cleared. -/
def wipeRing (ring : Nat → IqBlock) (n : Nat) : Nat → IqBlock :=
  fun b => if b * sdrRingBlockSize < n then (ring b).spoil else ring b

/-- `sdr_dma_start_block`: from now on the block is being overwritten. -/
def sdrDmaStartBlock (blockIdx : Byte) (d : SdrDma) : SdrDma :=
  { d with
    ring := Function.update d.ring blockIdx.toNat (d.ring blockIdx.toNat).spoil
    target := some blockIdx }

/-- The branch of the handler for channel 0. -/
def sdrDmaBlockDone (d : SdrDma) : SdrDma :=
  let nextWrite := nextBlock d.dmaWriteBlock
  let d :=
    if nextWrite = d.protoReadBlock then
      { d with
        stats := { d.stats with overruns := d.stats.overruns + 1 }
        protoReadBlock := nextBlock d.protoReadBlock }
    else d
  let d :=
    { d with
      dmaWriteBlock := nextWrite
      blocksFilled := d.blocksFilled + 1
      stats := { d.stats with totalBlocksCaptured := d.stats.totalBlocksCaptured + 1 } }
  if d.dmaRunning then sdrDmaStartBlock nextWrite d else d

/-- `sdr_dma_irq_handler` with the bit of channel 0 in `DMA_INTS0`. -/
def sdrDmaIrqHandler (channel0 : Bool) (d : SdrDma) : SdrDma :=
  let d := { d with dmaIrqCount := d.dmaIrqCount + 1 }
  if channel0 then sdrDmaBlockDone d else d

/-- The channel has filled its block. -/
def SdrDma.transferDone (d : SdrDma) : SdrDma :=
  match d.target with
  | none => d
  | some b =>
      { d with
        ring := Function.update d.ring b.toNat ⟨d.transfers, true⟩
        target := none
        transfers := d.transfers + 1 }

def sdrDmaInit (d : SdrDma) : SdrDma :=
  { d with
    ring := wipeRing d.ring (8 * sdrRingBlockSize)
    dmaWriteBlock := 0
    protoReadBlock := 0
    blocksFilled := 0
    dmaRunning := false
    dmaIrqCount := 0
    stats := ⟨0, 0, 0, 0⟩
    target := none }

def sdrDmaStart (d : SdrDma) : SdrDma :=
  if d.dmaRunning then d
  else
    sdrDmaStartBlock 0
      { d with dmaWriteBlock := 0, protoReadBlock := 0, blocksFilled := 0, dmaRunning := true }

def sdrDmaStop (d : SdrDma) : SdrDma :=
  { d with
    dmaRunning := false
    target := none
    ring := wipeRing d.ring (8 * sdrRingBlockSize) }

/-- The index of the block handed out, and the state afterwards. -/
def sdrDmaGetBlock (d : SdrDma) : Option Byte × SdrDma :=
  let underrun := { d with stats := { d.stats with underruns := d.stats.underruns + 1 } }
  if d.blocksFilled = 0 then (none, underrun)
  else if d.protoReadBlock ≥ 8 then (none, underrun)
  else (some d.protoReadBlock, d)

def sdrDmaReleaseBlock (d : SdrDma) : SdrDma :=
  if d.blocksFilled > 0 then
    { d with
      protoReadBlock := nextBlock d.protoReadBlock
      blocksFilled := d.blocksFilled - 1
      stats := { d.stats with totalBlocksSent := d.stats.totalBlocksSent + 1 } }
  else d

def SdrDma.zero : SdrDma := ⟨fun _ => ⟨0, false⟩, 0, 0, 0, false, 0, ⟨0, 0, 0, 0⟩, none, 0⟩

inductive SdrOp where
  | init
  | start
  | blockDone
  | getBlock
  | releaseBlock
  | stop
deriving DecidableEq, Repr

/-- The operations one after another; `blockDone` is the interrupt of a
completed block. -/
def SdrDma.apply (d : SdrDma) : SdrOp → SdrDma
  | .init => sdrDmaInit d
  | .start => sdrDmaStart d
  | .blockDone => sdrDmaIrqHandler true d.transferDone
  | .getBlock => (sdrDmaGetBlock d).2
  | .releaseBlock => sdrDmaReleaseBlock d
  | .stop => sdrDmaStop d

/-- The three variables say the same: the blocks from the read index up to the
write index are filled. -/
structure SdrDma.Counted (d : SdrDma) : Prop where
  write : d.dmaWriteBlock.toNat < 8
  read : d.protoReadBlock.toNat < 8
  filled : d.blocksFilled.toNat = (d.dmaWriteBlock.toNat + 8 - d.protoReadBlock.toNat) % 8

theorem nextBlock_toNat (b : Byte) : (nextBlock b).toNat = (b.toNat + 1) % 8 := by
  rw [nextBlock, BitVec.toNat_umod, BitVec.toNat_add]
  change (b.toNat + 1) % 256 % 8 = _
  omega

theorem nextBlock_eq_iff (b c : Byte) : nextBlock b = c ↔ (b.toNat + 1) % 8 = c.toNat := by
  rw [← BitVec.toNat_inj, nextBlock_toNat]

/-- What a completed block does to the three variables. -/
theorem blockDone_counts (d : SdrDma) :
    (d.apply .blockDone).dmaWriteBlock = nextBlock d.dmaWriteBlock ∧
    (d.apply .blockDone).protoReadBlock =
      (if nextBlock d.dmaWriteBlock = d.protoReadBlock then nextBlock d.protoReadBlock
        else d.protoReadBlock) ∧
    (d.apply .blockDone).blocksFilled = d.blocksFilled + 1 := by
  have hdone (e : SdrDma) :
      (sdrDmaIrqHandler true e).dmaWriteBlock = nextBlock e.dmaWriteBlock ∧
      (sdrDmaIrqHandler true e).protoReadBlock =
        (if nextBlock e.dmaWriteBlock = e.protoReadBlock then nextBlock e.protoReadBlock
          else e.protoReadBlock) ∧
      (sdrDmaIrqHandler true e).blocksFilled = e.blocksFilled + 1 := by
    simp only [sdrDmaIrqHandler, sdrDmaBlockDone, if_true]
    split <;> split <;> exact ⟨rfl, rfl, rfl⟩
  have hkeep : d.transferDone.dmaWriteBlock = d.dmaWriteBlock ∧
      d.transferDone.protoReadBlock = d.protoReadBlock ∧
        d.transferDone.blocksFilled = d.blocksFilled := by
    unfold SdrDma.transferDone
    split <;> exact ⟨rfl, rfl, rfl⟩
  have h := hdone d.transferDone
  rw [hkeep.1, hkeep.2.1, hkeep.2.2] at h
  exact h

/-- A completed block is counted rightly exactly when the ring has room for it. -/
theorem SdrDma.Counted.blockDone_iff {d : SdrDma} (h : d.Counted) :
    (d.apply .blockDone).Counted ↔ nextBlock d.dmaWriteBlock ≠ d.protoReadBlock := by
  obtain ⟨hw, hr, hf⟩ := blockDone_counts d
  have hwrite := h.write
  have hread := h.read
  have hfilled := h.filled
  have hnext : (nextBlock d.dmaWriteBlock).toNat = (d.dmaWriteBlock.toNat + 1) % 8 :=
    nextBlock_toNat d.dmaWriteBlock
  have hsum : (d.blocksFilled + 1).toNat = d.blocksFilled.toNat + 1 := by
    rw [BitVec.toNat_add]
    change (d.blocksFilled.toNat + 1) % 256 = _
    omega
  constructor
  · intro hcounted hfull
    have hcount := hcounted.filled
    have hfull' := (nextBlock_eq_iff _ _).mp hfull
    rw [hw, hr, hf, if_pos hfull, hsum, hnext, nextBlock_toNat] at hcount
    omega
  · intro hroom
    have hroom' : (d.dmaWriteBlock.toNat + 1) % 8 ≠ d.protoReadBlock.toNat :=
      fun heq => hroom ((nextBlock_eq_iff _ _).mpr heq)
    rw [if_neg hroom] at hr
    constructor
    · rw [hw, hnext]
      omega
    · rw [hr]
      exact hread
    · rw [hw, hr, hf, hsum, hnext]
      omega

theorem SdrDma.Counted.releaseBlock {d : SdrDma} (h : d.Counted) :
    (sdrDmaReleaseBlock d).Counted := by
  have hwrite := h.write
  have hread := h.read
  have hfilled := h.filled
  unfold sdrDmaReleaseBlock
  split
  · next hpos =>
    have hpos' : 0 < d.blocksFilled.toNat := hpos
    have hsub : (d.blocksFilled - 1).toNat = d.blocksFilled.toNat - 1 := by
      rw [BitVec.toNat_sub]
      change (256 - 1 + d.blocksFilled.toNat) % 256 = _
      omega
    constructor
    · exact hwrite
    · rw [nextBlock_toNat]
      omega
    · have hnext := nextBlock_toNat d.protoReadBlock
      change (d.blocksFilled - 1).toNat =
        (d.dmaWriteBlock.toNat + 8 - (nextBlock d.protoReadBlock).toNat) % 8
      omega
  · exact h

/-- Of all operations only the interrupt that finds the ring full breaks the count. -/
theorem SdrDma.Counted.apply_iff {d : SdrDma} (h : d.Counted) (op : SdrOp) :
    (d.apply op).Counted ↔
      (op = .blockDone → nextBlock d.dmaWriteBlock ≠ d.protoReadBlock) := by
  have hempty (e : SdrDma) (hw : e.dmaWriteBlock = 0) (hr : e.protoReadBlock = 0)
      (hf : e.blocksFilled = 0) : e.Counted := by
    constructor
    · simp [hw]
    · simp [hr]
    · simp [hw, hr, hf]
  cases op with
  | init =>
      exact iff_of_true (hempty _ rfl rfl rfl) (by rintro ⟨⟩)
  | start =>
      refine iff_of_true ?_ (by rintro ⟨⟩)
      change (sdrDmaStart d).Counted
      unfold sdrDmaStart
      split
      · exact h
      · exact hempty _ rfl rfl rfl
  | blockDone => exact h.blockDone_iff.trans (by simp)
  | getBlock =>
      refine iff_of_true ?_ (by rintro ⟨⟩)
      change (sdrDmaGetBlock d).2.Counted
      unfold sdrDmaGetBlock
      dsimp only
      split
      · exact ⟨h.write, h.read, h.filled⟩
      · split
        · exact ⟨h.write, h.read, h.filled⟩
        · exact h
  | releaseBlock => exact iff_of_true h.releaseBlock (by rintro ⟨⟩)
  | stop => exact iff_of_true ⟨h.write, h.read, h.filled⟩ (by rintro ⟨⟩)

theorem counted_zero : SdrDma.zero.Counted := ⟨by decide, by decide, by decide⟩

/-- The indices and the count agree in every state of a run exactly when no
completed block of the run finds the ring full. -/
theorem ring_counted_iff (ops : List SdrOp) :
    (∀ us, us <+: ops → (run SdrDma.apply SdrDma.zero us).Counted) ↔
      Along SdrDma.apply
        (fun d op => op = .blockDone → nextBlock d.dmaWriteBlock ≠ d.protoReadBlock)
        SdrDma.zero ops :=
  states_iff_along (fun _ op h => h.apply_iff op) counted_zero ops

/-- Eight blocks and nobody takes one: the count passes the ring size. -/
theorem eight_blocks_counted :
    let d := run SdrDma.apply SdrDma.zero (.init :: .start :: List.replicate 8 .blockDone)
    d.blocksFilled = 8 ∧ d.dmaWriteBlock = 0 ∧ d.protoReadBlock = 1 ∧ d.stats.overruns = 1 ∧
      ¬ d.Counted := by
  have hrun : let d := run SdrDma.apply SdrDma.zero (.init :: .start :: List.replicate 8 .blockDone)
      d.blocksFilled = 8 ∧ d.dmaWriteBlock = 0 ∧ d.protoReadBlock = 1 ∧ d.stats.overruns = 1 := by
    decide
  refine ⟨hrun.1, hrun.2.1, hrun.2.2.1, hrun.2.2.2, fun h => ?_⟩
  have hfilled := h.filled
  rw [hrun.1, hrun.2.1, hrun.2.2.1] at hfilled
  exact absurd hfilled (by decide)

end GhostBlade.Firmware
