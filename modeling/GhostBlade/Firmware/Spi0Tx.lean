import GhostBlade.Firmware.Spi0Isr
import GhostBlade.Library.Run

/-!
The transmit side of `spi0_isr.c`. The main loop queues a response statement by
statement, and the interrupt handler loads the transmit FIFO from the start of
the buffer every time it runs. A response goes out as it was queued exactly
when one interrupt takes all of it.
-/

namespace GhostBlade.Firmware

open GhostBlade.Library GhostBlade.Protocol

/-- Where the main loop stands: outside, or before a statement of
`spi0_tx_queue_response`. The request line is read, then written back. -/
inductive TxPc where
  | loop
  | copying (frame : List Byte) (i : Nat)
  | setLen (frame : List Byte)
  | setPending
  | loadInt
  | storeInt (value : BitVec 32)
deriving DecidableEq

/-- The transmit side with what the code does not keep: the responses queued so
far and the bytes written to the FIFO so far. -/
structure TxQueue where
  spi : Spi0
  board : Board
  pc : TxPc
  queued : List (List Byte)
  written : List Byte

/-- The main loop calls the queue function or goes on in it; the interrupt
finds bytes in the receive FIFO and polls the transmit FIFO for room. -/
inductive TxEvent where
  | queue (frame : List Byte)
  | step
  | interrupt (rxFifo : List Byte) (tnf : Nat → Bool)

/-- `spi0_tx_reset`. -/
def Spi0.txReset (s : Spi0) (board : Board) : Spi0 × Board :=
  ({ s with tx := Spi0Tx.zero }, intReqDeassert board)

def TxQueue.start (s : Spi0) (board : Board) : TxQueue :=
  ⟨(s.txReset board).1, (s.txReset board).2, .loop, [], []⟩

/-- The next statement of `spi0_tx_queue_response`. -/
def TxQueue.advance (t : TxQueue) : TxQueue :=
  match t.pc with
  | .loop => t
  | .copying frame i =>
      if i < frame.length then
        let buf := t.spi.tx.buf.setIfInBounds i (frame.getD i 0)
        { t with
          spi := { t.spi with tx := { t.spi.tx with buf := buf } }
          pc := .copying frame (i + 1) }
      else { t with pc := .setLen frame }
  | .setLen frame =>
      let len := BitVec.ofNat 16 frame.length
      { t with spi := { t.spi with tx := { t.spi.tx with len := len } }, pc := .setPending }
  | .setPending =>
      { t with
        spi := { t.spi with tx := { t.spi.tx with responsePending := true } }
        pc := .loadInt }
  | .loadInt => { t with pc := .storeInt t.board.gpioOut }
  | .storeInt value =>
      { t with board := t.board.writeGpioOut (value &&& ~~~pinMask pinIntReq), pc := .loop }

def TxQueue.step (t : TxQueue) : TxEvent → TxQueue
  | .queue frame =>
      if t.pc = .loop ∧ frame.length ≤ frameSizeMax then
        { t with queued := t.queued ++ [frame], pc := .copying frame 0 }
      else t
  | .step => t.advance
  | .interrupt rxFifo tnf =>
      let (spi, board, sent) := spi0Handler rxFifo tnf t.spi t.board
      { t with spi := spi, board := board, written := t.written ++ sent }

/-- The buffer once the rest of the response, from byte `i` on, is copied. -/
def copied (buf : Vector Byte 4112) (frame : List Byte) (i : Nat) : Vector Byte 4112 :=
  Vector.ofFn fun k => if i ≤ k.val then frame.getD k.val (buf.get k) else buf.get k

theorem getElem_copied (buf : Vector Byte 4112) (frame : List Byte) (i k : Nat) (hk : k < 4112) :
    (copied buf frame i)[k] = if i ≤ k then frame.getD k buf[k] else buf[k] :=
  Vector.getElem_ofFn hk

theorem copied_length (buf : Vector Byte 4112) (frame : List Byte) :
    copied buf frame frame.length = buf := by
  apply Vector.ext
  intro k hk
  rw [getElem_copied]
  split
  · next hle => simp [List.getElem?_eq_none hle]
  · rfl

theorem copied_succ (buf : Vector Byte 4112) (frame : List Byte) (i : Nat)
    (hi : i < frame.length) :
    copied (buf.setIfInBounds i (frame.getD i 0)) frame (i + 1) = copied buf frame i := by
  apply Vector.ext
  intro k hk
  rw [getElem_copied, getElem_copied, Vector.getElem_setIfInBounds hk]
  by_cases hik : i = k
  · subst hik
    simp [hi]
  · have hiff : i + 1 ≤ k ↔ i ≤ k := by omega
    simp [hik, hiff]

/-- The statements of a call that has `n` bytes left to copy. -/
theorem queue_run (t : TxQueue) (frame : List Byte) (i n : Nat) (hpc : t.pc = .copying frame i)
    (hlen : frame.length = i + n) :
    run TxQueue.step t (List.replicate (n + 5) .step) =
      ⟨{ t.spi with tx := ⟨copied t.spi.tx.buf frame i, BitVec.ofNat 16 frame.length, true⟩ },
        intReqAssert t.board, .loop, t.queued, t.written⟩ := by
  induction n generalizing t i with
  | zero =>
      have hend : t.step .step = { t with pc := .setLen frame } := by
        simp [TxQueue.step, TxQueue.advance, hpc, hlen]
      have hall : copied t.spi.tx.buf frame i = t.spi.tx.buf := by
        rw [show i = frame.length by omega, copied_length]
      rw [Nat.zero_add, List.replicate_succ, run_cons, hend, hall]
      rfl
  | succ n ih =>
      have hone : t.step .step =
          { t with
            spi :=
              { t.spi with
                tx := { t.spi.tx with buf := t.spi.tx.buf.setIfInBounds i (frame.getD i 0) } }
            pc := .copying frame (i + 1) } := by
        simp [TxQueue.step, TxQueue.advance, hpc, hlen]
      have hrest := ih (t.step .step) (i + 1) (by rw [hone]) (by omega)
      rw [Nat.add_right_comm, List.replicate_succ, run_cons, hrest, hone,
        copied_succ _ _ _ (by omega)]

/-- Without interrupts the statements of the call are `spi0_tx_queue_response`. -/
theorem queue_alone (t : TxQueue) (frame : List Byte) (hpc : t.pc = .loop)
    (hlen : frame.length ≤ frameSizeMax) :
    run TxQueue.step t (.queue frame :: List.replicate (frame.length + 5) .step) =
      ⟨(t.spi.txQueueResponse frame t.board).1, (t.spi.txQueueResponse frame t.board).2, .loop,
        t.queued ++ [frame], t.written⟩ := by
  have hcall : t.step (.queue frame) =
      { t with queued := t.queued ++ [frame], pc := .copying frame 0 } := by
    simp [TxQueue.step, hpc, hlen]
  have hresponse : t.spi.txQueueResponse frame t.board =
      ({ t.spi with tx := ⟨copied t.spi.tx.buf frame 0, BitVec.ofNat 16 frame.length, true⟩ },
        intReqAssert t.board) := by
    simp [Spi0.txQueueResponse, copied, Nat.not_lt.mpr hlen]
  rw [run_cons, queue_run _ frame 0 frame.length (by rw [hcall]) (Nat.zero_add _).symm,
    hcall, hresponse]

/-- Every response is sent as it was queued: in order, each byte once, none
given up for another, with the flag and the request line up to the last byte
and no longer. -/
structure TxQueue.Faithful (t : TxQueue) : Prop where
  inOrder : t.written <+: t.queued.flatten
  kept : t.spi.tx.responsePending = true →
    ∃ rest, rest <:+ t.spi.tx.buf.toList.take t.spi.tx.len.toNat ∧
      t.written ++ rest = t.queued.flatten
  pending : t.pc = .loop →
    (t.spi.tx.responsePending = true ↔ t.written ≠ t.queued.flatten)
  intReq : t.pc = .loop → (t.board.intReqLow = true ↔ t.spi.tx.responsePending = true)

/-- The steps that go well: a response of at most 16 bytes is queued when none
is pending, and an interrupt that finds one pending finds room for all of it or
for nothing, and for nothing before the request line is asserted. -/
def TxQueue.Untroubled (t : TxQueue) : TxEvent → Prop
  | .queue frame =>
      1 ≤ frame.length ∧
        (t.pc = .loop → frame.length ≤ 16 ∧ t.spi.tx.responsePending = false)
  | .step => True
  | .interrupt _ tnf =>
      t.spi.tx.responsePending = true →
        tnf 0 = false ∨ t.pc = .loop ∧ ∀ i < t.spi.tx.len.toNat, tnf i = true

/-! ### The interrupt -/

theorem txLoaded_of_full (len : Nat) (tnf : Nat → Bool) (fuel txPos : Nat)
    (h : txPos < len → tnf txPos = false) : txLoaded len tnf fuel txPos = txPos := by
  cases fuel with
  | zero => rfl
  | succ fuel =>
      have hstop : ¬ (txPos < len ∧ tnf txPos = true) := by
        rintro ⟨hlt, hroom⟩
        rw [h hlt] at hroom
        cases hroom
      rw [txLoaded, if_neg hstop]

/-- With room throughout, the loop runs to the end or to its cap. -/
theorem txLoaded_of_room (len : Nat) (tnf : Nat → Bool) (fuel txPos : Nat)
    (hle : txPos ≤ len) (h : ∀ i < len, tnf i = true) :
    txLoaded len tnf fuel txPos = min len (txPos + fuel) := by
  induction fuel generalizing txPos with
  | zero =>
      rw [txLoaded]
      omega
  | succ fuel ih =>
      rw [txLoaded]
      split
      · next hgo =>
        rw [ih (txPos + 1) hgo.1]
        omega
      · next hstop =>
        have hend : ¬ txPos < len := fun hlt => hstop ⟨hlt, h txPos hlt⟩
        omega

/-- What the handler does to the transmit side when a response is pending. -/
theorem spi0Handler_of_pending (rxFifo : List Byte) (tnf : Nat → Bool) (s : Spi0) (board : Board)
    (h : s.tx.responsePending = true) :
    let n := txLoaded s.tx.len.toNat tnf 16 0
    ∃ s', spi0Handler rxFifo tnf s board =
        (s', if s.tx.len.toNat ≤ n then intReqDeassert board else board,
          s.tx.buf.toList.take n) ∧
      s'.tx =
        if s.tx.len.toNat ≤ n then { s.tx with responsePending := false } else s.tx := by
  have htx := processBytes_tx s (rxFifo.take 256)
  generalize hreceived : (rxFifo.take 256).foldl Spi0.processByte s = r at htx
  simp only [spi0Handler, hreceived, htx, h, if_true, ge_iff_le]
  split
  · exact ⟨_, rfl, rfl⟩
  · exact ⟨_, rfl, htx⟩

section

variable (t : TxQueue) (rxFifo : List Byte) (tnf : Nat → Bool)

theorem interrupt_of_idle (h : t.spi.tx.responsePending = false) :
    ∃ s', s'.tx = t.spi.tx ∧ t.step (.interrupt rxFifo tnf) = { t with spi := s' } := by
  refine ⟨_, processBytes_tx t.spi (rxFifo.take 256), ?_⟩
  simp [TxQueue.step, spi0Handler_of_idle_tx rxFifo tnf t.spi t.board h]

theorem interrupt_of_full (h : t.spi.tx.responsePending = true)
    (hlen : 1 ≤ t.spi.tx.len.toNat) (hfull : tnf 0 = false) :
    ∃ s', s'.tx = t.spi.tx ∧ t.step (.interrupt rxFifo tnf) = { t with spi := s' } := by
  obtain ⟨s', heq, htx⟩ := spi0Handler_of_pending rxFifo tnf t.spi t.board h
  rw [txLoaded_of_full _ tnf 16 0 fun _ => hfull, if_neg (by omega)] at heq htx
  exact ⟨s', htx, by simp [TxQueue.step, heq]⟩

/-- An interrupt with room throughout starts over and sends at most 16 bytes. -/
theorem interrupt_of_room (h : t.spi.tx.responsePending = true)
    (hroom : ∀ i < t.spi.tx.len.toNat, tnf i = true) :
    ∃ s', s'.tx = { t.spi.tx with responsePending := decide (16 < t.spi.tx.len.toNat) } ∧
      t.step (.interrupt rxFifo tnf) =
        { t with
          spi := s'
          board := if 16 < t.spi.tx.len.toNat then t.board else intReqDeassert t.board
          written := t.written ++ t.spi.tx.buf.toList.take (min t.spi.tx.len.toNat 16) } := by
  obtain ⟨s', heq, htx⟩ := spi0Handler_of_pending rxFifo tnf t.spi t.board h
  rw [txLoaded_of_room _ tnf 16 0 (Nat.zero_le _) hroom, Nat.zero_add] at heq htx
  refine ⟨s', ?_, ?_⟩
  · rw [htx]
    split
    · next hle => simp [show ¬ 16 < t.spi.tx.len.toNat by omega]
    · next hle => simp [show 16 < t.spi.tx.len.toNat by omega, ← h]
  · simp only [TxQueue.step, heq]
    split
    · next hle => rw [if_neg (by omega)]
    · next hle => rw [if_pos (by omega)]

end

/-! ### Runs without trouble -/

/-- Everything queued has been sent. -/
structure TxQueue.Idle (t : TxQueue) : Prop where
  pending : t.spi.tx.responsePending = false
  sent : t.written = t.queued.flatten
  intReq : t.board.intReqLow = false

/-- All but the response in the buffer has been sent. -/
structure TxQueue.Sending (t : TxQueue) : Prop where
  pending : t.spi.tx.responsePending = true
  rest : t.written ++ t.spi.tx.buf.toList.take t.spi.tx.len.toNat = t.queued.flatten
  pos : 1 ≤ t.spi.tx.len.toNat
  fits : t.spi.tx.len.toNat ≤ 16

/-- A response is on its way into the buffer. -/
structure TxQueue.Loading (t : TxQueue) (frame : List Byte) : Prop where
  pending : t.spi.tx.responsePending = false
  rest : t.written ++ frame = t.queued.flatten
  intReq : t.board.intReqLow = false
  pos : 1 ≤ frame.length
  fits : frame.length ≤ 16

def TxQueue.InvAt (t : TxQueue) : TxPc → Prop
  | .loop => t.Idle ∨ t.Sending ∧ t.board.intReqLow = true
  | .copying frame i =>
      t.Loading frame ∧ i ≤ frame.length ∧ t.spi.tx.buf.toList.take i = frame.take i
  | .setLen frame => t.Loading frame ∧ t.spi.tx.buf.toList.take frame.length = frame
  | .setPending => t.Loading (t.spi.tx.buf.toList.take t.spi.tx.len.toNat)
  | .loadInt | .storeInt _ => t.Sending

def TxQueue.Inv (t : TxQueue) : Prop := t.InvAt t.pc

theorem TxQueue.inv_at {t : TxQueue} {pc : TxPc} (hpc : t.pc = pc) : t.Inv ↔ t.InvAt pc := by
  rw [TxQueue.Inv, hpc]

theorem TxQueue.inv_start (s : Spi0) (board : Board) : (TxQueue.start s board).Inv :=
  .inl ⟨rfl, rfl, intReqLow_deassert board⟩

/-- The invariant looks at the receive side nowhere. -/
theorem TxQueue.InvAt.congr {t : TxQueue} {pc : TxPc} (h : t.InvAt pc) {s' : Spi0}
    (htx : s'.tx = t.spi.tx) : ({ t with spi := s' } : TxQueue).InvAt pc := by
  cases pc with
  | loop =>
      rcases h with h | h
      · exact .inl ⟨htx ▸ h.pending, h.sent, h.intReq⟩
      · exact .inr ⟨⟨htx ▸ h.1.pending, htx ▸ h.1.rest, htx ▸ h.1.pos, htx ▸ h.1.fits⟩, h.2⟩
  | copying frame i =>
      exact ⟨⟨htx ▸ h.1.pending, h.1.rest, h.1.intReq, h.1.pos, h.1.fits⟩, h.2.1, htx ▸ h.2.2⟩
  | setLen frame =>
      exact ⟨⟨htx ▸ h.1.pending, h.1.rest, h.1.intReq, h.1.pos, h.1.fits⟩, htx ▸ h.2⟩
  | setPending =>
      exact ⟨htx ▸ h.pending, htx ▸ h.rest, h.intReq, htx ▸ h.pos, htx ▸ h.fits⟩
  | loadInt => exact ⟨htx ▸ h.pending, htx ▸ h.rest, htx ▸ h.pos, htx ▸ h.fits⟩
  | storeInt value => exact ⟨htx ▸ h.pending, htx ▸ h.rest, htx ▸ h.pos, htx ▸ h.fits⟩

theorem TxQueue.Inv.sending {t : TxQueue} (h : t.Inv)
    (hpending : t.spi.tx.responsePending = true) : t.Sending := by
  have hnot {p : Prop} (hfalse : t.spi.tx.responsePending = false) : p := by
    rw [hpending] at hfalse
    cases hfalse
  unfold TxQueue.Inv at h
  generalize t.pc = pc at h
  cases pc with
  | loop =>
      rcases h with hidle | hsending
      · exact hnot hidle.pending
      · exact hsending.1
  | copying frame i => exact hnot h.1.pending
  | setLen frame => exact hnot h.1.pending
  | setPending => exact hnot h.pending
  | loadInt => exact h
  | storeInt value => exact h

theorem TxQueue.inv_interrupt {t : TxQueue} {rxFifo : List Byte} {tnf : Nat → Bool} (h : t.Inv)
    (hok : t.Untroubled (.interrupt rxFifo tnf)) : (t.step (.interrupt rxFifo tnf)).Inv := by
  cases hpending : t.spi.tx.responsePending with
  | false =>
      obtain ⟨s', htx, heq⟩ := interrupt_of_idle t rxFifo tnf hpending
      rw [heq]
      exact h.congr htx
  | true =>
      have hsending := h.sending hpending
      rcases hok hpending with hfull | ⟨hpc, hroom⟩
      · obtain ⟨s', htx, heq⟩ := interrupt_of_full t rxFifo tnf hpending hsending.pos hfull
        rw [heq]
        exact h.congr htx
      · obtain ⟨s', htx, heq⟩ := interrupt_of_room t rxFifo tnf hpending hroom
        have hfits := hsending.fits
        rw [if_neg (by omega), Nat.min_eq_left hfits, hsending.rest] at heq
        rw [heq]
        change TxQueue.InvAt _ t.pc
        rw [hpc]
        have hidle : s'.tx.responsePending = false := by simp [htx, hfits]
        exact .inl ⟨hidle, rfl, intReqLow_deassert t.board⟩

theorem take_succ_getD {frame : List Byte} {i : Nat} (h : i < frame.length) :
    frame.take (i + 1) = frame.take i ++ [frame.getD i 0] := by
  rw [List.take_succ_eq_append_getElem h, List.getElem_eq_getD 0]

theorem TxQueue.inv_advance {t : TxQueue} (h : t.Inv) : t.advance.Inv := by
  unfold TxQueue.Inv at h
  unfold TxQueue.advance
  generalize hpc : t.pc = pc at h ⊢
  cases pc with
  | loop => exact (TxQueue.inv_at hpc).mpr h
  | copying frame i =>
      obtain ⟨hload, hi, htake⟩ := h
      dsimp only
      split
      · next hlt =>
        have hfits := hload.fits
        refine ⟨⟨hload.pending, hload.rest, hload.intReq, hload.pos, hfits⟩, hlt, ?_⟩
        rw [take_succ_getD hlt, ← htake]
        exact take_setIfInBounds_succ t.spi.tx.buf i _ (by omega)
      · next hge =>
        have hend : i = frame.length := by omega
        refine ⟨⟨hload.pending, hload.rest, hload.intReq, hload.pos, hload.fits⟩, ?_⟩
        rw [hend, List.take_length] at htake
        exact htake
  | setLen frame =>
      obtain ⟨hload, htake⟩ := h
      have hfits := hload.fits
      have hlen : (BitVec.ofNat 16 frame.length).toNat = frame.length := by
        rw [BitVec.toNat_ofNat]
        omega
      have hbuf : t.spi.tx.buf.toList.take (BitVec.ofNat 16 frame.length).toNat = frame := by
        rw [hlen, htake]
      change TxQueue.Loading _ (t.spi.tx.buf.toList.take (BitVec.ofNat 16 frame.length).toNat)
      rw [hbuf]
      exact ⟨hload.pending, hload.rest, hload.intReq, hload.pos, hload.fits⟩
  | setPending =>
      have hpos := h.pos
      have hfits := h.fits
      rw [List.length_take, Vector.length_toList] at hpos hfits
      exact ⟨rfl, h.rest, show 1 ≤ t.spi.tx.len.toNat by omega,
        show t.spi.tx.len.toNat ≤ 16 by omega⟩
  | loadInt =>
      exact ⟨h.pending, h.rest, h.pos, h.fits⟩
  | storeInt value =>
      refine .inr ⟨⟨h.pending, h.rest, h.pos, h.fits⟩, ?_⟩
      exact intReqLow_assert ⟨value, t.board.writes⟩

theorem TxQueue.inv_step (t : TxQueue) (e : TxEvent) (h : t.Inv) (hok : t.Untroubled e) :
    (t.step e).Inv := by
  cases e with
  | queue frame =>
      dsimp only [TxQueue.step]
      split
      · next hcall =>
        obtain ⟨hfits, hpending⟩ := hok.2 hcall.1
        rcases (TxQueue.inv_at hcall.1).mp h with hidle | hsending
        · refine ⟨⟨hpending, ?_, hidle.intReq, hok.1, hfits⟩, Nat.zero_le _, rfl⟩
          simp [hidle.sent]
        · have hset := hsending.1.pending
          rw [hpending] at hset
          cases hset
      · exact h
  | step => exact TxQueue.inv_advance h
  | interrupt rxFifo tnf => exact TxQueue.inv_interrupt h hok

theorem TxQueue.Idle.faithful {t : TxQueue} (h : t.Idle) : t.Faithful where
  inOrder := by rw [h.sent]
  kept := by simp [h.pending]
  pending := by simp [h.pending, h.sent]
  intReq := by simp [h.pending, h.intReq]

theorem TxQueue.Sending.unsent {t : TxQueue} (h : t.Sending) : t.written ≠ t.queued.flatten := by
  intro heq
  have hlen := congrArg List.length (h.rest.trans heq.symm)
  have hpos := h.pos
  rw [List.length_append, List.length_take, Vector.length_toList] at hlen
  omega

theorem TxQueue.Sending.faithful {t : TxQueue} (h : t.Sending)
    (hint : t.pc = .loop → t.board.intReqLow = true) : t.Faithful where
  inOrder := ⟨_, h.rest⟩
  kept := fun _ => ⟨_, List.suffix_rfl, h.rest⟩
  pending := fun _ => iff_of_true h.pending h.unsent
  intReq := fun hpc => iff_of_true (hint hpc) h.pending

theorem TxQueue.Loading.faithful {t : TxQueue} {frame : List Byte} (h : t.Loading frame)
    (hpc : t.pc ≠ .loop) : t.Faithful where
  inOrder := ⟨_, h.rest⟩
  kept := by simp [h.pending]
  pending := fun hloop => absurd hloop hpc
  intReq := fun hloop => absurd hloop hpc

theorem TxQueue.Inv.faithful {t : TxQueue} (h : t.Inv) : t.Faithful := by
  unfold TxQueue.Inv at h
  generalize hpc : t.pc = pc at h
  cases pc with
  | loop =>
      rcases h with hidle | hsending
      · exact hidle.faithful
      · exact hsending.1.faithful fun _ => hsending.2
  | copying frame i => exact h.1.faithful (by simp [hpc])
  | setLen frame => exact h.1.faithful (by simp [hpc])
  | setPending => exact h.faithful (by simp [hpc])
  | loadInt => exact h.faithful (by simp [hpc])
  | storeInt value => exact h.faithful (by simp [hpc])

/-! ### Progress -/

/-- How many statements of the call are left. -/
def TxPc.left : TxPc → Nat
  | .loop => 0
  | .copying frame i => frame.length - i + 5
  | .setLen _ => 4
  | .setPending => 3
  | .loadInt => 2
  | .storeInt _ => 1

/-- An interrupt that finds room in the transmit FIFO. -/
def TxEvent.HasRoom : TxEvent → Prop
  | .interrupt _ tnf => tnf 0 = true
  | _ => False

theorem TxQueue.advance_queued (t : TxQueue) : t.advance.queued = t.queued := by
  unfold TxQueue.advance
  cases t.pc with
  | copying frame i =>
      dsimp only
      split <;> rfl
  | loop | setLen frame | setPending | loadInt | storeInt value => rfl

/-- A statement of the call brings it nearer to its end. -/
theorem TxQueue.advance_left (t : TxQueue) (hpc : t.pc ≠ .loop) :
    t.advance.pc.left < t.pc.left := by
  unfold TxQueue.advance
  cases h : t.pc with
  | loop => exact absurd h hpc
  | copying frame i =>
      dsimp only
      split
      · simp only [TxPc.left]
        omega
      · simp only [TxPc.left]
        omega
  | setLen frame | setPending | loadInt | storeInt value => simp [TxPc.left]

/-- During a call nothing else is queued, and each event leaves the call where
it is or brings it nearer to its end. -/
theorem TxQueue.step_calling (t : TxQueue) (e : TxEvent) (hpc : t.pc ≠ .loop) :
    (t.step e).queued = t.queued ∧ (t.step e).pc.left ≤ t.pc.left := by
  cases e with
  | queue frame => simp [TxQueue.step, hpc]
  | step => exact ⟨t.advance_queued, (t.advance_left hpc).le⟩
  | interrupt rxFifo tnf => exact ⟨rfl, le_refl _⟩

/-- With nothing going on in the main loop, an interrupt with room empties the
queue, and any other event leaves it alone. -/
theorem TxQueue.step_sending (t : TxQueue) (e : TxEvent) (h : t.Inv) (hpc : t.pc = .loop)
    (hok : t.Untroubled e) (hpending : t.spi.tx.responsePending = true) :
    (t.step e).queued = t.queued ∧
      ((t.step e).written = t.queued.flatten ∨
        ¬ e.HasRoom ∧ (t.step e).pc = .loop ∧ (t.step e).spi.tx.responsePending = true) := by
  have hsending := h.sending hpending
  cases e with
  | queue frame =>
      have hidle := (hok.2 hpc).2
      rw [hpending] at hidle
      cases hidle
  | step =>
      have hstay : t.step .step = t := by simp [TxQueue.step, TxQueue.advance, hpc]
      rw [hstay]
      exact ⟨rfl, .inr ⟨not_false, hpc, hpending⟩⟩
  | interrupt rxFifo tnf =>
      refine ⟨rfl, ?_⟩
      rcases hok hpending with hfull | ⟨_, hroom⟩
      · obtain ⟨s', htx, heq⟩ := interrupt_of_full t rxFifo tnf hpending hsending.pos hfull
        rw [heq]
        exact .inr ⟨by simp [TxEvent.HasRoom, hfull], hpc, htx ▸ hpending⟩
      · obtain ⟨s', htx, heq⟩ := interrupt_of_room t rxFifo tnf hpending hroom
        rw [heq, Nat.min_eq_left hsending.fits]
        exact .inl hsending.rest

section

variable {t : TxQueue} {es : ℕ → TxEvent}

/-- A call that has begun ends, with its response pending. -/
theorem call_ends (hstart : t.Inv)
    (hok : ∀ n, (stateAt TxQueue.step t es n).Untroubled (es n))
    (hsteps : InfinitelyOften (· = TxEvent.step) es) (n : ℕ)
    (hpc : (stateAt TxQueue.step t es n).pc ≠ .loop) :
    ∃ m, n ≤ m ∧ (stateAt TxQueue.step t es m).pc = .loop ∧
      (stateAt TxQueue.step t es m).queued = (stateAt TxQueue.step t es n).queued := by
  have hinv := stateAt_invariant TxQueue.inv_step hstart hok n
  generalize hq : (stateAt TxQueue.step t es n).queued = q
  refine reaches_of_rank (C := TxQueue.Untroubled) (P := fun u => u.pc ≠ .loop ∧ u.queued = q)
    (Q := fun u => u.pc = .loop ∧ u.queued = q) (fun u => u.pc.left) ?_ ?_ hok hsteps ⟨hpc, hq⟩
  · rintro u e ⟨hcall, hqueued⟩ _
    obtain ⟨hsame, hleft⟩ := u.step_calling e hcall
    by_cases hend : (u.step e).pc = .loop
    · exact .inl ⟨hend, hsame.trans hqueued⟩
    · exact .inr ⟨⟨hend, hsame.trans hqueued⟩, hleft⟩
  · rintro u e ⟨hcall, hqueued⟩ _ rfl
    by_cases hend : (u.step .step).pc = .loop
    · exact .inl ⟨hend, (u.advance_queued).trans hqueued⟩
    · exact .inr ⟨⟨hend, (u.advance_queued).trans hqueued⟩, u.advance_left hcall⟩

/-- A pending response goes out with the next room. -/
theorem response_sent (hstart : t.Inv)
    (hok : ∀ n, (stateAt TxQueue.step t es n).Untroubled (es n))
    (hroom : InfinitelyOften TxEvent.HasRoom es) (n : ℕ)
    (hpc : (stateAt TxQueue.step t es n).pc = .loop) :
    ∃ m, n ≤ m ∧
      (stateAt TxQueue.step t es m).written = (stateAt TxQueue.step t es n).queued.flatten := by
  have hinv := stateAt_invariant TxQueue.inv_step hstart hok n
  generalize hq : (stateAt TxQueue.step t es n).queued = q
  rcases (TxQueue.inv_at hpc).mp hinv with hidle | ⟨hsending, _⟩
  · exact ⟨n, le_refl n, hq ▸ hidle.sent⟩
  · have hkeep (u : TxQueue) (e : TxEvent)
        (hu : u.Inv ∧ u.pc = .loop ∧ u.queued = q ∧ u.spi.tx.responsePending = true)
        (he : u.Untroubled e) :
        (u.step e).written = q.flatten ∨ ¬ e.HasRoom ∧ ((u.step e).Inv ∧
          (u.step e).pc = .loop ∧ (u.step e).queued = q ∧
            (u.step e).spi.tx.responsePending = true) := by
      obtain ⟨hi, hloop, hqueued, hpending⟩ := hu
      obtain ⟨hsame, hsent | ⟨hnot, hloop', hpending'⟩⟩ :=
        u.step_sending e hi hloop he hpending
      · exact .inl (hqueued ▸ hsent)
      · exact .inr ⟨hnot, u.inv_step e hi he, hloop', hsame.trans hqueued, hpending'⟩
    refine reaches_of_rank (C := TxQueue.Untroubled)
      (P := fun u => u.Inv ∧ u.pc = .loop ∧ u.queued = q ∧ u.spi.tx.responsePending = true)
      (Q := fun u => u.written = q.flatten) (fun _ => 0) ?_ ?_ hok hroom
      ⟨hinv, hpc, hq, hsending.pending⟩
    · intro u e hu he
      exact (hkeep u e hu he).imp_right fun h => ⟨h.2, le_refl 0⟩
    · intro u e hu he hhas
      exact (hkeep u e hu he).imp_right fun h => absurd hhas h.1

end

/-- Responses of at most 16 bytes, queued when none is pending and taken whole
by one interrupt, are sent exactly once: so it is after every run, and in an
endless run everything queued goes out. -/
theorem tx_exactly_once (s : Spi0) (board : Board) :
    (∀ es, Along TxQueue.step TxQueue.Untroubled (TxQueue.start s board) es →
      (run TxQueue.step (TxQueue.start s board) es).Faithful) ∧
    (∀ es : ℕ → TxEvent,
      (∀ n, (stateAt TxQueue.step (TxQueue.start s board) es n).Untroubled (es n)) →
      InfinitelyOften (· = TxEvent.step) es → InfinitelyOften TxEvent.HasRoom es →
      ∀ n, ∃ m, n ≤ m ∧
        (stateAt TxQueue.step (TxQueue.start s board) es n).queued.flatten <+:
          (stateAt TxQueue.step (TxQueue.start s board) es m).written) := by
  have hstart := TxQueue.inv_start s board
  constructor
  · intro es hes
    exact (run_invariant_along TxQueue.inv_step hstart hes).faithful
  · intro es hok hsteps hroom n
    by_cases hpc : (stateAt TxQueue.step (TxQueue.start s board) es n).pc = .loop
    · obtain ⟨m, hm, hsent⟩ := response_sent hstart hok hroom n hpc
      exact ⟨m, hm, hsent ▸ List.prefix_rfl⟩
    · obtain ⟨k, hk, hloop, hqueued⟩ := call_ends hstart hok hsteps n hpc
      obtain ⟨m, hm, hsent⟩ := response_sent hstart hok hroom k hloop
      exact ⟨m, hk.trans hm, by rw [hsent, hqueued]⟩

/-! ### A response longer than the FIFO -/

theorem copied_take (buf : Vector Byte 4112) (frame : List Byte) (n : Nat)
    (hn : n ≤ frame.length) (hmax : n ≤ frameSizeMax) :
    (copied buf frame 0).toList.take n = frame.take n := by
  have hsize : frameSizeMax = 4112 := rfl
  apply List.ext_getElem
  · simp only [List.length_take, Vector.length_toList]
    omega
  · intro k hk _
    have hlt : k < n := by
      rw [List.length_take] at hk
      omega
    rw [List.getElem_take, List.getElem_take, Vector.getElem_toList, getElem_copied _ _ _ _
      (by omega), if_pos (Nat.zero_le k), ← List.getElem_eq_getD]

/-- It never ends: every interrupt sends its first 16 bytes again. -/
theorem overlong_repeats (t : TxQueue) (hpending : t.spi.tx.responsePending = true)
    (hlen : 16 < t.spi.tx.len.toNat) (k : Nat) :
    let u := run TxQueue.step t (List.replicate k (.interrupt [] fun _ => true))
    u.written = t.written ++ (List.replicate k (t.spi.tx.buf.toList.take 16)).flatten ∧
      u.spi.tx = t.spi.tx := by
  induction k generalizing t with
  | zero => simp
  | succ k ih =>
      obtain ⟨s', htx, heq⟩ := interrupt_of_room t [] (fun _ => true) hpending fun _ _ => rfl
      have hsame : s'.tx = t.spi.tx := by simp [htx, hlen, ← hpending]
      rw [Nat.min_eq_right hlen.le] at heq
      have hrest := ih (t.step (.interrupt [] fun _ => true)) (by rw [heq, hsame, hpending])
        (by rw [heq, hsame]; exact hlen)
      rw [List.replicate_succ, run_cons]
      refine ⟨hrest.1.trans ?_, hrest.2.trans ?_⟩
      · simp [heq, hsame, List.replicate_succ]
      · rw [heq, hsame]

theorem overlong_interrupts (t : TxQueue) (frame : List Byte) (k : Nat) (hpc : t.pc = .loop)
    (hlong : 16 < frame.length) (hlen : frame.length ≤ frameSizeMax) :
    let u := run TxQueue.step t
      ((.queue frame :: List.replicate (frame.length + 5) .step) ++
        List.replicate k (.interrupt [] fun _ => true))
    u.queued = t.queued ++ [frame] ∧
      u.written = t.written ++ (List.replicate k (frame.take 16)).flatten := by
  have hmax : frameSizeMax = 4112 := rfl
  have hqueued := queue_alone t frame hpc hlen
  have hresponse : (t.spi.txQueueResponse frame t.board).1.tx =
      ⟨copied t.spi.tx.buf frame 0, BitVec.ofNat 16 frame.length, true⟩ := by
    simp [Spi0.txQueueResponse, copied, Nat.not_lt.mpr hlen]
  have hkeep (u : TxQueue) : (run TxQueue.step u
      (List.replicate k (.interrupt [] fun _ => true))).queued = u.queued := by
    induction k generalizing u with
    | zero => rfl
    | succ k ih => exact ih (u.step _)
  rw [run_append, hqueued]
  refine ⟨hkeep _, ?_⟩
  have hrepeat := overlong_repeats
    ⟨(t.spi.txQueueResponse frame t.board).1, (t.spi.txQueueResponse frame t.board).2, .loop,
      t.queued ++ [frame], t.written⟩ (by rw [hresponse]) (by
        rw [hresponse]
        change 16 < (BitVec.ofNat 16 frame.length).toNat
        rw [BitVec.toNat_ofNat]
        omega) k
  refine hrepeat.1.trans ?_
  rw [hresponse]
  dsimp only
  rw [copied_take _ _ 16 hlong.le (by omega)]

/-- Twenty bytes and two interrupts with room: the first sixteen go out twice. -/
theorem twenty_bytes_resent :
    let t := run TxQueue.step (TxQueue.start Spi0.zero ⟨0, []⟩)
      ((.queue (List.replicate 20 1) :: List.replicate 25 .step) ++
        List.replicate 2 (.interrupt [] fun _ => true))
    t.queued = [List.replicate 20 1] ∧ t.written = List.replicate 32 1 ∧ ¬ t.Faithful := by
  have hlen : (List.replicate 20 (1 : Byte)).length = 20 := rfl
  obtain ⟨hqueued, hwritten⟩ := overlong_interrupts (TxQueue.start Spi0.zero ⟨0, []⟩)
    (List.replicate 20 1) 2 rfl (by decide) (by decide)
  rw [hlen] at hqueued hwritten
  generalize run TxQueue.step (TxQueue.start Spi0.zero ⟨0, []⟩) _ = t at hqueued hwritten ⊢
  refine ⟨hqueued, hwritten, fun h => ?_⟩
  have hle := h.inOrder.length_le
  rw [hqueued, hwritten] at hle
  exact absurd hle (by decide)

end GhostBlade.Firmware
