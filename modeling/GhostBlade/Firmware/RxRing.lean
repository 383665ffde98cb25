import GhostBlade.Firmware.MainLoop
import GhostBlade.Library.Spsc

/-!
The RX ring one memory access at a time. `spi_rx_head`, `spi_rx_tail` and
`spi_rx_buf` are shared between the weak `spi0_handler`, which wraps the head
with a modulo, and `spi_protocol_process`, which wraps the tail with a mask;
each step below is one load or one store of them. The steps are those of the
shared ring of the library on the 32-bit representation of its indices.
-/

namespace GhostBlade.Firmware

open GhostBlade.Library

structure RxRing where
  spiRxBuf : Vector Byte 8192
  spiRxHead : BitVec 32
  spiRxTail : BitVec 32
  spiRxOverrun : BitVec 32
  producer : Producer Byte (BitVec 32)
  consumer : Consumer Byte (BitVec 32)
  received : List Byte
  accepted : List Byte
  obtained : List Byte
  seen : Nat

/-- The handler reads a byte from `SSPDR`, unless it still has one. -/
def RxRing.receive (s : RxRing) (byte : Byte) : RxRing :=
  match s.producer with
  | .idle => { s with producer := .received byte, received := s.received ++ [byte] }
  | _ => s

/-- The next access of the loop body of the weak `spi0_handler`. -/
def RxRing.produce (s : RxRing) : RxRing :=
  match s.producer with
  | .idle => s
  | .received byte => { s with producer := .compare byte ((s.spiRxHead + 1#32) % 8192#32) }
  | .compare byte nextHead =>
      if nextHead ≠ s.spiRxTail then { s with producer := .index byte nextHead }
      else { s with producer := .overrun }
  | .index byte nextHead => { s with producer := .write byte nextHead s.spiRxHead }
  | .write byte nextHead i =>
      { s with
        spiRxBuf := s.spiRxBuf.setIfInBounds i.toNat byte
        producer := .publish byte nextHead }
  | .publish byte nextHead =>
      { s with
        spiRxHead := nextHead
        producer := .idle
        accepted := s.accepted ++ [byte] }
  | .overrun => { s with producer := .idle, spiRxOverrun := s.spiRxOverrun + 1 }

/-- The next access of the loop of `spi_protocol_process`; leaving the loop and
coming back to it in the next call are one. -/
def RxRing.consume (s : RxRing) : RxRing :=
  match s.consumer with
  | .test =>
      { s with
        consumer := .compare s.spiRxHead
        seen := s.accepted.length - s.obtained.length }
  | .compare head =>
      if head ≠ s.spiRxTail then { s with consumer := .index }
      else { s with consumer := .test }
  | .index => { s with consumer := .read s.spiRxTail }
  | .read tail => { s with consumer := .bump (s.spiRxBuf.toList.getD tail.toNat 0) }
  | .bump byte => { s with consumer := .release byte ((s.spiRxTail + 1#32) &&& (8192#32 - 1#32)) }
  | .release byte tail =>
      { s with
        spiRxTail := tail
        consumer := .test
        obtained := s.obtained ++ [byte] }

def RxRing.step (s : RxRing) : SpscEvent Byte → RxRing
  | .receive byte => s.receive byte
  | .produce => s.produce
  | .consume => s.consume

/-- The variables before the first byte, whatever the buffer holds. -/
def RxRing.start (spiRxBuf : Vector Byte 8192) : RxRing :=
  ⟨spiRxBuf, 0, 0, 0, .idle, .test, [], [], [], 0⟩

/-- The bytes from the tail up to the head. -/
def RxRing.stored (s : RxRing) : List Byte :=
  (List.range ((s.spiRxHead - s.spiRxTail) % 8192#32).toNat).map fun i =>
    s.spiRxBuf.toList.getD ((s.spiRxTail.toNat + i) % 8192) 0

/-- How an index is kept in its 32-bit variable. -/
def index32 (i : Fin 8192) : BitVec 32 := BitVec.ofNat 32 i.val

theorem index32_toNat (i : Fin 8192) : (index32 i).toNat = i.val := by
  rw [index32, BitVec.toNat_ofNat, Nat.mod_eq_of_lt (by omega)]

theorem index32_inj {i j : Fin 8192} : index32 i = index32 j ↔ i = j := by
  rw [← BitVec.toNat_inj, index32_toNat, index32_toNat, Fin.ext_iff]

/-- The modulo and the mask are both the successor of the ring. -/
theorem index32_succ (i : Fin 8192) : (index32 i + 1#32) % 8192#32 = index32 (i + 1) := by
  apply BitVec.eq_of_toNat_eq
  rw [index32_toNat, BitVec.toNat_umod, BitVec.toNat_add, index32_toNat, Fin.val_add]
  have hlt := i.isLt
  have hone : ((1 : Fin 8192) : Nat) = 1 := rfl
  simp only [BitVec.toNat_ofNat, hone, Nat.reducePow, Nat.reduceMod]
  omega

theorem index32_mask (i : Fin 8192) :
    (index32 i + 1#32) &&& (8192#32 - 1#32) = index32 (i + 1) := by
  have hmask : (8192#32 - 1#32).toNat = 2 ^ 13 - 1 := by decide
  have hsucc := congrArg BitVec.toNat (index32_succ i)
  rw [BitVec.toNat_umod] at hsucc
  apply BitVec.eq_of_toNat_eq
  rw [BitVec.toNat_and, hmask, Nat.and_two_pow_sub_one_eq_mod]
  exact hsucc

/-- The variables that represent a shared ring. -/
def represent (a : Spsc Byte 8192) : RxRing where
  spiRxBuf := Vector.ofFn a.ring.cells
  spiRxHead := index32 a.ring.head
  spiRxTail := index32 a.ring.tail
  spiRxOverrun := BitVec.ofNat 32 a.lost
  producer := a.producer.map index32
  consumer := a.consumer.map index32
  received := a.received
  accepted := a.accepted
  obtained := a.obtained
  seen := a.seen

theorem represent_cell (cells : Fin 8192 → Byte) (i : Fin 8192) :
    (Vector.ofFn cells).toList.getD (index32 i).toNat 0 = cells i := by
  rw [index32_toNat, List.getD_eq_getElem?_getD, List.getElem?_eq_getElem (by simp)]
  simp

theorem represent_write (cells : Fin 8192 → Byte) (i : Fin 8192) (x : Byte) :
    (Vector.ofFn cells).setIfInBounds (index32 i).toNat x =
      Vector.ofFn (Function.update cells i x) := by
  rw [index32_toNat]
  apply Vector.ext
  intro j hj
  rw [Vector.getElem_setIfInBounds, Vector.getElem_ofFn, Vector.getElem_ofFn]
  by_cases hij : i.val = j
  · subst hij
    rw [if_pos rfl, Function.update_self]
  · rw [if_neg hij, Function.update_of_ne]
    exact fun heq => hij (congrArg Fin.val heq).symm

theorem represent_produce (a : Spsc Byte 8192) :
    (represent a).produce = represent a.produce := by
  unfold RxRing.produce Spsc.produce
  cases hp : a.producer with
  | idle => simp [represent, hp, Producer.map]
  | received x => simp [represent, hp, Producer.map, index32_succ]
  | compare x next =>
      by_cases hroom : next = a.ring.tail
      · simp [represent, hp, Producer.map, hroom]
      · simp [represent, hp, Producer.map, hroom, index32_inj]
  | index x next => simp [represent, hp, Producer.map]
  | write x next i => simp [represent, hp, Producer.map, represent_write]
  | publish x next => simp [represent, hp, Producer.map]
  | overrun => simp [represent, hp, Producer.map, BitVec.ofNat_add]

theorem represent_consume (a : Spsc Byte 8192) :
    (represent a).consume = represent a.consume := by
  unfold RxRing.consume Spsc.consume
  cases hc : a.consumer with
  | test => simp [represent, hc, Consumer.map]
  | compare head =>
      by_cases hempty : head = a.ring.tail
      · simp [represent, hc, Consumer.map, hempty]
      · simp [represent, hc, Consumer.map, hempty, index32_inj]
  | index => simp [represent, hc, Consumer.map]
  | read tail =>
      have hcell := represent_cell a.ring.cells tail
      simp only [represent, hc, Consumer.map, hcell]
  | bump x =>
      have hmask := index32_mask a.ring.tail
      simp only [represent, hc, Consumer.map, hmask]
  | release x tail => simp [represent, hc, Consumer.map]

theorem represent_receive (a : Spsc Byte 8192) (x : Byte) :
    (represent a).receive x = represent (a.receive x) := by
  unfold RxRing.receive Spsc.receive
  cases hp : a.producer <;> simp [represent, hp, Producer.map]

/-- Each access of the firmware is the step of the shared ring. -/
theorem represent_step (a : Spsc Byte 8192) (e : SpscEvent Byte) :
    (represent a).step e = represent (a.step e) := by
  cases e with
  | receive x => exact represent_receive a x
  | produce => exact represent_produce a
  | consume => exact represent_consume a

theorem represent_start (spiRxBuf : Vector Byte 8192) :
    RxRing.start spiRxBuf = represent (Spsc.start spiRxBuf.get) := by
  have hbuf : Vector.ofFn spiRxBuf.get = spiRxBuf := by
    apply Vector.ext
    intro i hi
    simp [Vector.get]
  have hzero : index32 0 = 0 := rfl
  simp only [RxRing.start, represent, Spsc.start, hbuf, hzero]
  rfl

theorem represent_run (spiRxBuf : Vector Byte 8192) (es : List (SpscEvent Byte)) :
    run RxRing.step (RxRing.start spiRxBuf) es =
      represent (run Spsc.step (Spsc.start spiRxBuf.get) es) := by
  have general (a : Spsc Byte 8192) :
      run RxRing.step (represent a) es = represent (run Spsc.step a es) := by
    induction es generalizing a with
    | nil => rfl
    | cons e es ih =>
        rw [run_cons, run_cons, represent_step]
        exact ih (a.step e)
  rw [represent_start]
  exact general _

theorem represent_stored (a : Spsc Byte 8192) : (represent a).stored = a.ring.unread := by
  have hused : ((index32 a.ring.head - index32 a.ring.tail) % 8192#32).toNat = a.ring.used := by
    have hhead := a.ring.head.isLt
    have htail := a.ring.tail.isLt
    rw [BitVec.toNat_umod, BitVec.toNat_sub, index32_toNat, index32_toNat, Ring.used, Fin.sub_def]
    simp only [BitVec.toNat_ofNat, Nat.reducePow, Nat.reduceMod]
    omega
  unfold RxRing.stored Ring.unread
  change List.map _ (List.range ((index32 a.ring.head - index32 a.ring.tail) %
    8192#32).toNat) = _
  rw [hused]
  apply List.map_congr_left
  intro i _
  have hindex : ((represent a).spiRxTail.toNat + i) % 8192 =
      (index32 (a.ring.tail + Fin.ofNat 8192 i)).toNat := by
    change ((index32 a.ring.tail).toNat + i) % 8192 = _
    rw [index32_toNat, index32_toNat, Fin.val_add, Fin.val_ofNat, Nat.add_mod_mod]
  rw [hindex]
  exact represent_cell a.ring.cells _

/-- The byte the consumer has read and not yet released. -/
def RxRing.inHand (s : RxRing) : Option Byte :=
  match s.consumer with
  | .bump byte | .release byte _ => some byte
  | _ => none

theorem represent_inHand {a : Spsc Byte 8192} (h : a.Inv) {byte : Byte}
    (hhand : (represent a).inHand = some byte) : a.ring.unread.head? = some byte := by
  have hok := h.consumer
  have holdest (hcell : a.ring.cells a.ring.tail = byte) (hne : a.ring.head ≠ a.ring.tail) :
      a.ring.unread.head? = some byte := by
    rw [a.ring.unread_cons hne, hcell, List.head?_cons]
  cases hc : a.consumer with
  | bump x =>
      rw [hc] at hok
      have hx : x = byte := by simpa [RxRing.inHand, represent, hc, Consumer.map] using hhand
      exact holdest (hok.1.trans hx) hok.2
  | release x tail =>
      rw [hc] at hok
      have hx : x = byte := by simpa [RxRing.inHand, represent, hc, Consumer.map] using hhand
      exact holdest (hok.2.1.trans hx) hok.2.2
  | _ => simp [RxRing.inHand, represent, hc, Consumer.map] at hhand

/-- The consumer gets the accepted bytes in order, at most 8191 are stored at
once, a test finds the ring empty exactly when nothing was stored as it loaded
the head, and every byte received is accepted or counted as an overrun. -/
theorem rx_ring_spsc (spiRxBuf : Vector Byte 8192) (es : List (SpscEvent Byte)) :
    let s := run RxRing.step (RxRing.start spiRxBuf) es
    s.obtained ++ s.stored = s.accepted ∧
      (∀ byte, s.inHand = some byte → s.stored.head? = some byte) ∧
      s.stored.length ≤ 8191 ∧
      (∀ head, s.consumer = .compare head → (head = s.spiRxTail ↔ s.seen = 0)) ∧
      BitVec.ofNat 32 s.accepted.length + s.spiRxOverrun +
        BitVec.ofNat 32 s.producer.pending = BitVec.ofNat 32 s.received.length := by
  intro s
  let a := run Spsc.step (Spsc.start spiRxBuf.get) es
  have hs : s = represent a := represent_run spiRxBuf es
  have h : a.Inv := Spsc.run_inv spiRxBuf.get es
  rw [hs, represent_stored]
  refine ⟨h.fifo, fun _ => represent_inHand h, ?_, ?_, ?_⟩
  · have hlt := a.ring.used_lt
    rw [Ring.unread_length]
    omega
  · intro head hc
    have hok := h.consumer
    cases hac : a.consumer with
    | compare head' =>
        have hhead : index32 head' = head := by
          simpa [represent, hac, Consumer.map] using hc
        rw [hac] at hok
        rw [← hhead]
        exact index32_inj.trans hok.1
    | _ => simp [represent, hac, Consumer.map] at hc
  · have hpending : (represent a).producer.pending = a.producer.pending := by
      cases hp : a.producer <;> simp [represent, hp, Producer.map, Producer.pending]
    rw [hpending]
    change BitVec.ofNat 32 a.accepted.length + BitVec.ofNat 32 a.lost + _ =
      BitVec.ofNat 32 a.received.length
    rw [← BitVec.ofNat_add, ← BitVec.ofNat_add, h.count]

end GhostBlade.Firmware
