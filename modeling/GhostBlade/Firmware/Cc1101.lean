import GhostBlade.Firmware.Effects
import GhostBlade.Library.Run

/-!
The CC1101 behind the SPI1 bus. The chip is selected by a low level of its
select line; the first byte of an access is a header with a read bit, a burst
bit and a register address, and in a burst each further byte goes to the next
register. `handle_cmd_cc1101_cfg` is described by the burst it writes, if any.
-/

namespace GhostBlade.Firmware

open GhostBlade.Library GhostBlade.Protocol

/-- The configuration registers are those below `0x2F`. -/
def cc1101ConfigRegs : Nat := 0x2F

structure Cc1101Access where
  write : Bool
  burst : Bool
  addr : Nat

structure Cc1101 where
  regs : Nat → Byte
  selected : Bool
  access : Option Cc1101Access

def Cc1101.onByte (c : Cc1101) (b : Byte) : Cc1101 :=
  match c.access with
  | none => { c with access := some ⟨!b.getLsbD 7, b.getLsbD 6, (b &&& 0x3F#8).toNat⟩ }
  | some a =>
      { c with
        regs :=
          if a.write ∧ a.addr < cc1101ConfigRegs then Function.update c.regs a.addr b
          else c.regs
        access := if a.burst then some { a with addr := a.addr + 1 } else none }

def Cc1101.onBus (c : Cc1101) : BusWrite → Cc1101
  | .gpioOut value =>
      if value.getLsbD pinCcSpiCsn then { c with selected := false, access := none }
      else { c with selected := true }
  | .pio0Txf0 _ => c
  | .spi1 b => if c.selected then c.onByte b else c

/-- What has been written since an earlier state of the board. -/
def Board.since (b' b : Board) : List BusWrite := b'.writes.drop b.writes.length

/-- The configuration registers after a burst of data. -/
def burstRegs (regs : Nat → Byte) (addr : Nat) (data : List Byte) : Nat → Byte := fun x =>
  if addr ≤ x ∧ x < addr + data.length ∧ x < cc1101ConfigRegs then data.getD (x - addr) 0
  else regs x

theorem burstRegs_cons (regs : Nat → Byte) (addr : Nat) (b : Byte) (data : List Byte) :
    burstRegs (if addr < cc1101ConfigRegs then Function.update regs addr b else regs)
      (addr + 1) data = burstRegs regs addr (b :: data) := by
  funext x
  have hskip (h : x ≠ addr) : (if addr < cc1101ConfigRegs then Function.update regs addr b
      else regs) x = regs x := by
    split
    · exact Function.update_of_ne h _ _
    · rfl
  unfold burstRegs
  rw [List.length_cons]
  rcases lt_trichotomy x addr with hlow | heq | hhigh
  · rw [hskip (by omega), if_neg (by omega), if_neg (by omega)]
  · subst heq
    have hbelow : ¬ (x + 1 ≤ x ∧ x < x + 1 + data.length ∧ x < cc1101ConfigRegs) := by omega
    rw [if_neg hbelow, Nat.sub_self, List.getD_cons_zero]
    by_cases hreg : x < cc1101ConfigRegs
    · rw [if_pos hreg, if_pos ⟨le_refl _, by omega, hreg⟩, Function.update_self]
    · rw [if_neg hreg, if_neg (fun h => hreg h.2.2)]
  · have hsub : x - addr = (x - (addr + 1)) + 1 := by omega
    have hrange : (addr + 1 ≤ x ∧ x < addr + 1 + data.length ∧ x < cc1101ConfigRegs) ↔
        (addr ≤ x ∧ x < addr + (data.length + 1) ∧ x < cc1101ConfigRegs) := by omega
    rw [hsub, List.getD_cons_succ, hskip (by omega)]
    exact if_congr hrange rfl rfl

/-- Data bytes of a burst. -/
theorem Cc1101.burst_data (c : Cc1101) (addr : Nat) (data : List Byte)
    (hselected : c.selected = true) (haccess : c.access = some ⟨true, true, addr⟩) :
    ((data.map BusWrite.spi1).foldl Cc1101.onBus c).regs = burstRegs c.regs addr data := by
  induction data generalizing c addr with
  | nil =>
      funext x
      exact (if_neg (by simp; omega)).symm
  | cons b data ih =>
      have hstep : c.onBus (.spi1 b) =
          { regs :=
              if addr < cc1101ConfigRegs then Function.update c.regs addr b else c.regs
            selected := true
            access := some ⟨true, true, addr + 1⟩ } := by
        simp [Cc1101.onBus, Cc1101.onByte, hselected, haccess]
      rw [List.map_cons, List.foldl_cons, hstep, ih _ (addr + 1) rfl rfl]
      exact burstRegs_cons c.regs addr b data

/-- The header of a burst write. -/
theorem burst_header (addr : Byte) (h : addr.toNat < 0x40) :
    (addr ||| 0x40#8).getLsbD 7 = false ∧ (addr ||| 0x40#8).getLsbD 6 = true ∧
      ((addr ||| 0x40#8) &&& 0x3F#8).toNat = addr.toNat := by
  have hall : ∀ n < 0x40, ((BitVec.ofNat 8 n ||| 0x40#8).getLsbD 7 = false ∧
      (BitVec.ofNat 8 n ||| 0x40#8).getLsbD 6 = true ∧
        ((BitVec.ofNat 8 n ||| 0x40#8) &&& 0x3F#8).toNat = n) := by decide
  have haddr := hall addr.toNat h
  rwa [BitVec.ofNat_toNat, BitVec.setWidth_eq] at haddr

theorem spiXfers_writes (data : List Byte) (b : Board) :
    (data.foldl (fun b x => apexCc1101SpiXfer x b) b).writes =
      b.writes ++ data.map BusWrite.spi1 := by
  induction data generalizing b with
  | nil => exact (List.append_nil _).symm
  | cons x data ih =>
      rw [List.foldl_cons, ih, List.map_cons]
      exact List.append_assoc ..

theorem spiXfers_gpioOut (data : List Byte) (b : Board) :
    (data.foldl (fun b x => apexCc1101SpiXfer x b) b).gpioOut = b.gpioOut := by
  induction data generalizing b with
  | nil => rfl
  | cons x data ih => exact ih (apexCc1101SpiXfer x b)

/-- The output register with the chip selected and with it released. -/
def selectedOut (out : BitVec 32) : BitVec 32 := out &&& ~~~pinMask pinCcSpiCsn
def releasedOut (out : BitVec 32) : BitVec 32 := selectedOut out ||| pinMask pinCcSpiCsn

/-- One chip-select window: the select line goes low, a header and some data
follow, and the line goes high again. -/
def burstWindow (out : BitVec 32) (addr : Byte) (data : List Byte) : List BusWrite :=
  [.gpioOut (selectedOut out), .spi1 (addr ||| 0x40#8)] ++ data.map .spi1 ++
    [.gpioOut (releasedOut out)]

/-- Nothing but the select line changes, and it is high behind the window. -/
theorem window_levels (out : BitVec 32) (n : Nat) (hn : n < 32) :
    (selectedOut out).getLsbD n = (out.getLsbD n && n != pinCcSpiCsn) ∧
      (releasedOut out).getLsbD n = (out.getLsbD n || n == pinCcSpiCsn) := by
  have hcs : pinCcSpiCsn = 10 := rfl
  simp only [selectedOut, releasedOut, BitVec.getLsbD_or, BitVec.getLsbD_and, BitVec.getLsbD_not,
    pinMask_getLsbD, hcs, hn]
  rcases eq_or_ne n 10 with rfl | hne
  · simp
  · have hleft : (10 == n) = false := beq_false_of_ne hne.symm
    have hright : (n == 10) = false := beq_false_of_ne hne
    simp [hleft, hright, bne]

theorem since_writeBurst (addr : Byte) (data : List Byte) (b : Board) :
    (apexCc1101WriteBurst addr data b).since b = burstWindow b.gpioOut addr data := by
  let opened := apexCc1101SpiXfer (addr ||| 0x40#8) (apexCc1101CsAssert b)
  have hwrites := spiXfers_writes data opened
  have hout : (data.foldl (fun b x => apexCc1101SpiXfer x b) opened).gpioOut =
      selectedOut b.gpioOut := spiXfers_gpioOut data opened
  have hall : (apexCc1101WriteBurst addr data b).writes =
      (data.foldl (fun b x => apexCc1101SpiXfer x b) opened).writes ++
        [.gpioOut ((data.foldl (fun b x => apexCc1101SpiXfer x b) opened).gpioOut |||
          pinMask pinCcSpiCsn)] := rfl
  have hopened : opened.writes =
      b.writes ++ [.gpioOut (selectedOut b.gpioOut), .spi1 (addr ||| 0x40#8)] :=
    List.append_assoc ..
  rw [Board.since, hall, hwrites, hout, hopened]
  simp only [List.append_assoc, List.drop_left]
  rfl

/-- The header of a window selects the chip and opens a burst write. -/
theorem Cc1101.open_burst (c : Cc1101) (out : BitVec 32) (addr : Byte) (hidle : c.access = none)
    (haddr : addr.toNat < 0x40) :
    run Cc1101.onBus c [.gpioOut (selectedOut out), .spi1 (addr ||| 0x40#8)] =
      { regs := c.regs, selected := true, access := some ⟨true, true, addr.toNat⟩ } := by
  obtain ⟨hread, hburst, hreg⟩ := burst_header addr haddr
  have hlow : (selectedOut out).getLsbD pinCcSpiCsn = false := by
    rw [(window_levels out pinCcSpiCsn (by decide)).1, bne_self_eq_false, Bool.and_false]
  simp only [run_cons, run_nil, Cc1101.onBus, Cc1101.onByte, hlow, hidle, hread, hburst, hreg,
    Bool.false_eq_true, if_false, if_true, Bool.not_false]

/-- A burst write puts its data into the registers. -/
theorem Cc1101.write_burst (c : Cc1101) (addr : Byte) (data : List Byte) (b : Board)
    (hidle : c.access = none) (haddr : addr.toNat < cc1101ConfigRegs) :
    (((apexCc1101WriteBurst addr data b).since b).foldl Cc1101.onBus c).regs =
      burstRegs c.regs addr.toNat data := by
  have hregs : cc1101ConfigRegs = 0x2F := rfl
  have hopen := c.open_burst b.gpioOut addr hidle (by omega)
  have hhigh : (releasedOut b.gpioOut).getLsbD pinCcSpiCsn = true := by
    rw [(window_levels b.gpioOut pinCcSpiCsn (by decide)).2, beq_self_eq_true, Bool.or_true]
  have hdata := Cc1101.burst_data
    { regs := c.regs, selected := true, access := some ⟨true, true, addr.toNat⟩ }
    addr.toNat data rfl rfl
  rw [run] at hopen
  rw [since_writeBurst, burstWindow, List.foldl_append, List.foldl_append, hopen,
    List.foldl_cons, List.foldl_nil, Cc1101.onBus, if_pos hhigh]
  exact hdata

/-- The address that a byte on the bus writes data to. -/
def Cc1101.touches (c : Cc1101) : BusWrite → List Nat
  | .spi1 _ => if c.selected then (c.access.map Cc1101Access.addr).toList else []
  | .gpioOut _ | .pio0Txf0 _ => []

theorem Cc1101.burst_touches (c : Cc1101) (addr : Nat) (data : List Byte)
    (hselected : c.selected = true) (haccess : c.access = some ⟨true, true, addr⟩) :
    observe Cc1101.onBus Cc1101.touches c (data.map BusWrite.spi1) =
      List.range' addr data.length := by
  induction data generalizing c addr with
  | nil => rfl
  | cons b data ih =>
      have hnow : c.touches (.spi1 b) = [addr] := by
        simp [Cc1101.touches, hselected, haccess]
      have hnext := ih (c.onBus (.spi1 b)) (addr + 1)
        (by simp [Cc1101.onBus, Cc1101.onByte, hselected, haccess])
        (by simp [Cc1101.onBus, Cc1101.onByte, hselected, haccess])
      rw [List.map_cons, observe, hnow, hnext, List.length_cons, List.range'_succ]
      rfl

/-- A window writes data to consecutive addresses and to nothing else. -/
theorem Cc1101.window_touches (c : Cc1101) (out : BitVec 32) (addr : Byte) (data : List Byte)
    (hidle : c.access = none) (haddr : addr.toNat < 0x40) :
    observe Cc1101.onBus Cc1101.touches c (burstWindow out addr data) =
      List.range' addr.toNat data.length := by
  have hopen := c.open_burst out addr hidle haddr
  have hheader : observe Cc1101.onBus Cc1101.touches c
      [.gpioOut (selectedOut out), .spi1 (addr ||| 0x40#8)] = [] := by
    have hlow : (selectedOut out).getLsbD pinCcSpiCsn = false := by
      rw [(window_levels out pinCcSpiCsn (by decide)).1, bne_self_eq_false, Bool.and_false]
    simp [observe, Cc1101.touches, Cc1101.onBus, hlow, hidle]
  have hdata := Cc1101.burst_touches
    { regs := c.regs, selected := true, access := some ⟨true, true, addr.toNat⟩ }
    addr.toNat data rfl rfl
  rw [burstWindow, List.append_assoc, observe_append, hopen, hheader, List.nil_append,
    observe_append, hdata]
  exact List.append_nil _

theorem handleCmdCc1101Cfg_board (payload : List Byte) (len : BitVec 16) (p : SpiProtocol) :
    (handleCmdCc1101Cfg payload len p).board =
      match cc1101Burst payload len with
      | none => p.board
      | some (addr, data) => apexCc1101WriteBurst addr data p.board := by
  unfold handleCmdCc1101Cfg cc1101Burst
  dsimp only
  split_ifs <;> rfl

/-- The addresses `addr`, `addr + 1`, … of a burst keep to one side of `0x2F`
and below `0x3E`. -/
def Confined (addr len : Nat) : Prop :=
  addr ≤ 0x2E ∧ addr + len ≤ 0x2F ∨ 0x30 ≤ addr ∧ addr ≤ 0x3D ∧ addr + len ≤ 0x3E

theorem Confined.lt {addr len : Nat} (h : Confined addr len) : addr < 0x40 := by
  unfold Confined at h
  omega

/-- What the four checks leave of a request. -/
theorem cc1101Burst_some {payload : List Byte} {len : BitVec 16} {addr : Byte} {data : List Byte}
    (h : cc1101Burst payload len = some (addr, data)) :
    addr = payload.getD 0 0 ∧ data = (payload.drop 2).take (payload.getD 1 0).toNat ∧
      2 + (payload.getD 1 0).toNat ≤ len.toNat ∧
      Confined addr.toNat (payload.getD 1 0).toNat := by
  unfold cc1101Burst at h
  dsimp only at h
  split_ifs at h with hshort haddr hlen hconfig hcommand
  obtain ⟨rfl, rfl⟩ := Prod.mk.inj (Option.some.inj h)
  refine ⟨rfl, rfl, by omega, ?_⟩
  obtain ⟨hmax, hgap⟩ := not_or.mp haddr
  have hgap' : (payload.getD 0 0).toNat ≠ 0x2F := fun heq => hgap (BitVec.eq_of_toNat_eq heq)
  rw [gt_iff_lt, BitVec.lt_def] at hmax
  rw [BitVec.le_def] at hconfig
  rw [ge_iff_le, BitVec.le_def] at hcommand
  simp only [BitVec.toNat_ofNat] at hmax hconfig hcommand
  unfold Confined
  omega

/-- A request whose addresses keep to their side is accepted as it is. -/
theorem cc1101Burst_confined {regAddr regLen : Byte} {data : List Byte}
    (hlen : data.length = regLen.toNat) (h : Confined regAddr.toNat regLen.toNat) :
    cc1101Burst ([regAddr, regLen] ++ data)
      (BitVec.ofNat 16 ([regAddr, regLen] ++ data).length) = some (regAddr, data) := by
  unfold Confined at h
  have htotal : (BitVec.ofNat 16 ([regAddr, regLen] ++ data).length).toNat =
      2 + regLen.toNat := by
    have hbyte := regLen.isLt
    rw [BitVec.toNat_ofNat, List.length_append, hlen]
    simp only [List.length_cons, List.length_nil]
    omega
  have hshort : ¬ BitVec.ofNat 16 ([regAddr, regLen] ++ data).length < 2#16 := by
    rw [BitVec.lt_def, htotal, BitVec.toNat_ofNat]
    omega
  have haddr : ¬ (regAddr > 0x3D#8 ∨ regAddr = 0x2F#8) := by
    rw [gt_iff_lt, BitVec.lt_def, ← BitVec.toNat_inj]
    simp only [BitVec.toNat_ofNat]
    omega
  have hconfig : ¬ (regAddr ≤ 0x2E#8 ∧ regAddr.toNat + regLen.toNat > 0x2F) := by
    rw [BitVec.le_def, BitVec.toNat_ofNat]
    omega
  have hcommand : ¬ (regAddr ≥ 0x30#8 ∧ regAddr.toNat + regLen.toNat > 0x3E) := by
    rw [ge_iff_le, BitVec.le_def, BitVec.toNat_ofNat]
    omega
  unfold cc1101Burst
  simp only [List.cons_append, List.nil_append, List.getD_cons_zero, List.getD_cons_succ,
    List.drop_succ_cons, List.drop_zero] at hshort htotal ⊢
  rw [if_neg hshort, if_neg haddr, htotal, if_neg (lt_irrefl _), if_neg hconfig, if_neg hcommand,
    ← hlen, List.take_length]

/-- The request for a burst is accepted exactly when the burst is confined. -/
theorem cc1101Burst_request_iff (regAddr : Byte) {regLen : Byte} {data : List Byte}
    (hlen : data.length = regLen.toNat) :
    cc1101Burst ([regAddr, regLen] ++ data)
      (BitVec.ofNat 16 ([regAddr, regLen] ++ data).length) = some (regAddr, data) ↔
      Confined regAddr.toNat regLen.toNat := by
  constructor
  · intro haccepted
    exact (cc1101Burst_some haccepted).2.2.2
  · exact cc1101Burst_confined hlen

/-- A request is dropped, or it becomes one window that reads only the payload
and reaches only the addresses it may. -/
theorem cc1101_cfg_confined (p : SpiProtocol)
    (hcmd : p.rx.hdrBuf.toList.getD 1 0 = cmdCc1101Cfg)
    (hlen : p.rx.expectedPayloadLen.toNat ≤ maxPayload) :
    let payload := p.rx.payloadBuf.toList.take p.rx.expectedPayloadLen.toNat
    let addr := payload.getD 0 0
    let regLen := (payload.getD 1 0).toNat
    let data := (payload.drop 2).take regLen
    let writes := (dispatchFrame p).board.since p.board
    payload.length = p.rx.expectedPayloadLen.toNat ∧
      (writes = [] ∨
        writes = burstWindow p.board.gpioOut addr data ∧ data.length = regLen ∧
          2 + regLen ≤ payload.length ∧ Confined addr.toNat regLen ∧
          ∀ c : Cc1101, c.access = none →
            observe Cc1101.onBus Cc1101.touches c writes = List.range' addr.toNat regLen) := by
  intro payload addr regLen data writes
  have hmax : maxPayload = 4092 := rfl
  have hpayload : payload.length = p.rx.expectedPayloadLen.toNat := by
    rw [List.length_take, Vector.length_toList]
    omega
  have hhandle : p.handle p.rx.pending =
      handleCmdCc1101Cfg payload p.rx.expectedPayloadLen p := by
    unfold SpiProtocol.handle handleCmd RxCtx.pending
    dsimp only
    rw [hcmd]
    rfl
  have hboard := (dispatchFrame_devices p).board
  rw [hhandle, handleCmdCc1101Cfg_board] at hboard
  refine ⟨hpayload, ?_⟩
  cases hburst : cc1101Burst payload p.rx.expectedPayloadLen with
  | none =>
      rw [hburst] at hboard
      have hnone : writes = p.board.since p.board := congrArg (Board.since · p.board) hboard
      exact .inl (hnone.trans List.drop_length)
  | some burst =>
      obtain ⟨addr', data'⟩ := burst
      obtain ⟨rfl, rfl, hroom, hconfined⟩ := cc1101Burst_some hburst
      rw [hburst] at hboard
      have hwrites : writes = burstWindow p.board.gpioOut addr data :=
        (congrArg (Board.since · p.board) hboard).trans (since_writeBurst addr data p.board)
      have hdata : data.length = regLen := by
        rw [List.length_take, List.length_drop, hpayload]
        omega
      refine .inr ⟨hwrites, hdata, by omega, hconfined, ?_⟩
      intro c hidle
      rw [hwrites, c.window_touches p.board.gpioOut addr data hidle hconfined.lt, hdata]

/-- Three configuration registers from `0x0D` on. -/
def frequencyRequest : SpiProtocol where
  rx :=
    { RxCtx.zero with
      hdrBuf := (RxCtx.zero.hdrBuf.setIfInBounds 1 cmdCc1101Cfg)
      payloadBuf := ((((RxCtx.zero.payloadBuf.setIfInBounds 0 0x0D).setIfInBounds 1 3).setIfInBounds
        2 0x10).setIfInBounds 3 0xB0).setIfInBounds 4 0x71
      expectedPayloadLen := 5 }
  stats := ProtoStats.zero
  device := DeviceState.zero
  tx := ⟨fun _ => 0, 0, 0⟩
  board := ⟨pinMask pinCcSpiCsn, []⟩
  dispatched := []

theorem cc1101_cfg_confined_frequency :
    (dispatchFrame frequencyRequest).board.since frequencyRequest.board =
      burstWindow (pinMask pinCcSpiCsn) 0x0D [0x10, 0xB0, 0x71] := by
  have hpayload : frequencyRequest.rx.payloadBuf.toList.take 5 =
      [0x0D, 3, 0x10, 0xB0, 0x71] := by decide +kernel
  obtain ⟨-, hnone | ⟨hwindow, -⟩⟩ :=
    cc1101_cfg_confined frequencyRequest (by decide) (by decide)
  · exact absurd hnone (by decide +kernel)
  · rw [show frequencyRequest.rx.expectedPayloadLen.toNat = 5 from rfl, hpayload] at hwindow
    exact hwindow

end GhostBlade.Firmware
