import GhostBlade.Firmware.RadioBoard

/-!
The radios behind the bridge as their user thinks of them, and the command
handlers that drive them. A radio obeys one command after another; commands it
does not know, and those whose payload is short or out of range, it only counts.
-/

namespace GhostBlade.Bridge

open GhostBlade.Library GhostBlade.Protocol GhostBlade.Firmware

/-- A command with its payload. -/
structure Command where
  cmd : Byte
  payload : List Byte

def Command.dispatched (c : Command) : Dispatched :=
  ⟨c.cmd, BitVec.ofNat 16 c.payload.length, c.payload⟩

inductive RadioOrder where
  | stream (on : Bool)
  | antenna (id : Byte)
  | registers (addr : Byte) (data : List Byte)
  | nfc

def streamOrder : List Byte → Option RadioOrder
  | enable :: _ => some (.stream (enable ≠ 0))
  | [] => none

def antennaOrder : List Byte → Option RadioOrder
  | id :: _ => if id.toNat ≤ 3 then some (.antenna id) else none
  | [] => none

def registersOrder : List Byte → Option RadioOrder
  | addr :: len :: data =>
      if Confined addr.toNat len.toNat ∧ len.toNat ≤ data.length then
        some (.registers addr (data.take len.toNat))
      else none
  | _ => none

def nfcOrder : List Byte → Option RadioOrder
  | _ :: _ :: low :: high :: data =>
      if leValue [low, high] ≤ 256 ∧ leValue [low, high] ≤ data.length then some .nfc else none
  | _ => none

/-- What a command orders, if anything. -/
def Command.order (c : Command) : Option RadioOrder :=
  if c.cmd = cmdSdrStream then streamOrder c.payload
  else if c.cmd = cmdAntSelect then antennaOrder c.payload
  else if c.cmd = cmdCc1101Cfg then registersOrder c.payload
  else if c.cmd = cmdNfcTransact then nfcOrder c.payload
  else none

structure Radio where
  streaming : Bool
  antenna : Option Byte
  regs : Nat → Byte
  nfcActive : Bool
  served : List Command

def Radio.obey (r : Radio) : Option RadioOrder → Radio
  | none => r
  | some (.stream on) => { r with streaming := on }
  | some (.antenna id) => { r with antenna := some id }
  | some (.registers addr data) => { r with regs := burstRegs r.regs addr.toNat data }
  | some .nfc => { r with nfcActive := true }

def Radio.serve (r : Radio) (c : Command) : Radio :=
  { r.obey c.order with served := r.served ++ [c] }

/-- The radios of an MCU that has just initialised the CC1101. -/
def Radio.start (regs : Nat → Byte) : Radio := ⟨false, none, regs, false, []⟩

/-- The commands of a kind that have been served. -/
def Radio.count (r : Radio) (cmd : Byte) : Nat := r.served.countP (·.cmd = cmd)

/-- The counter of a command. -/
def receivedCount (s : ProtoStats) (cmd : Byte) : Option (BitVec 32) :=
  if cmd = cmdNop then some s.cmdNopRx
  else if cmd = cmdSdrTune then some s.cmdSdrTuneRx
  else if cmd = cmdSdrStream then some s.cmdSdrStreamRx
  else if cmd = cmdAntSelect then some s.cmdAntSelectRx
  else if cmd = cmdCc1101Cfg then some s.cmdCc1101CfgRx
  else if cmd = cmdNfcTransact then some s.cmdNfcTransactRx
  else none

/-- The device variables and the board, as the radios they drive. -/
structure Drives (p : SpiProtocol) (regs : Nat → Byte) (r : Radio) : Prop where
  streaming : p.device.sdrStreaming = r.streaming
  rxEnabled : p.device.sdrRxEnabled = r.streaming
  nfcActive : p.device.nfcActive = r.nfcActive
  antenna : p.board.antenna = r.antenna
  chip : (p.board.chip regs).Holds r.regs

/-- The counters, as what has been served. -/
def Counts (p : SpiProtocol) (r : Radio) : Prop :=
  ∀ cmd n, receivedCount p.stats cmd = some n → n = BitVec.ofNat 32 (r.count cmd)

section

variable {p : SpiProtocol} {regs : Nat → Byte} {r : Radio} {payload : List Byte}

theorem length_toNat (hlen : payload.length ≤ maxPayload) :
    (BitVec.ofNat 16 payload.length).toNat = payload.length := by
  have hmax : maxPayload = 4092 := rfl
  rw [BitVec.toNat_ofNat]
  omega

/-- The length check of a handler. -/
theorem length_lt_iff (hlen : payload.length ≤ maxPayload) {n : Nat} (hn : n < 65536) :
    BitVec.ofNat 16 payload.length < BitVec.ofNat 16 n ↔ payload.length < n := by
  rw [BitVec.lt_def, length_toNat hlen, BitVec.toNat_ofNat, Nat.mod_eq_of_lt hn]

/-- Drives for the radio of the same orders. -/
theorem Drives.congr {q : SpiProtocol} (h : Drives p regs r) (hdevice : q.device = p.device)
    (hboard : q.board = p.board) : Drives q regs r := by
  refine ⟨?_, ?_, ?_, ?_, ?_⟩
  · rw [hdevice]
    exact h.streaming
  · rw [hdevice]
    exact h.rxEnabled
  · rw [hdevice]
    exact h.nfcActive
  · rw [hboard]
    exact h.antenna
  · rw [hboard]
    exact h.chip

/-- The receive path and the amplifier, switched together. -/
theorem Drives.switch (h : Drives p regs r) (on : Bool) {q : SpiProtocol}
    (hdevice : q.device = { p.device with sdrStreaming := on, sdrRxEnabled := on })
    (hboard : q.board = apexSdrLnaEnable on (apexSdrRxEnable on p.board)) :
    Drives q regs { r with streaming := on } := by
  obtain ⟨rx, hrx⟩ := (SdrCall.rxEnable on).onBoard_eq p.board
  obtain ⟨lna, hlna⟩ := (SdrCall.lnaEnable on).onBoard_eq (p.board.writeGpioOut rx)
  have hwrites : q.board = (p.board.writeGpioOut rx).writeGpioOut lna := by
    rw [hboard, ← hlna, ← hrx]
    rfl
  refine ⟨?_, ?_, ?_, ?_, ?_⟩
  · rw [hdevice]
  · rw [hdevice]
  · rw [hdevice]
    exact h.nfcActive
  · rw [hwrites, antenna_writeGpioOut, antenna_writeGpioOut]
    exact h.antenna
  · rw [hwrites]
    exact chip_writeGpioOut _ regs (chip_writeGpioOut _ regs h.chip rx) lna

theorem Drives.sdrStream (h : Drives p regs r) (hlen : payload.length ≤ maxPayload) :
    Drives (handleCmdSdrStream payload (BitVec.ofNat 16 payload.length) p) regs
      (r.obey (streamOrder payload)) := by
  unfold handleCmdSdrStream
  dsimp only
  rw [if_congr (length_lt_iff hlen (n := 1) (by decide)) rfl rfl]
  cases payload with
  | nil => exact h.congr rfl rfl
  | cons enable rest =>
      rw [if_neg (by simp), List.getD_cons_zero, streamOrder, Radio.obey]
      split_ifs with hstart hstop
      · rw [decide_eq_true hstart.1]
        exact h.switch true rfl rfl
      · rw [decide_eq_false (not_not.mpr hstop.1)]
        exact h.switch false rfl rfl
      · -- the receiver is already as it is ordered to be
        have hsame : decide (enable ≠ 0) = r.streaming := by
          have hnow := h.streaming
          by_cases hzero : enable = 0
          · rw [decide_eq_false (not_not.mpr hzero), ← hnow]
            exact (Bool.eq_false_of_not_eq_true fun hon => hstop ⟨hzero, hon⟩).symm
          · rw [decide_eq_true hzero, ← hnow]
            exact (Bool.eq_true_of_not_eq_false fun hoff => hstart ⟨hzero, hoff⟩).symm
        rw [hsame]
        exact h.congr rfl rfl

theorem Drives.antSelect (h : Drives p regs r) (hlen : payload.length ≤ maxPayload) :
    Drives (handleCmdAntSelect payload (BitVec.ofNat 16 payload.length) p) regs
      (r.obey (antennaOrder payload)) := by
  unfold handleCmdAntSelect
  dsimp only
  rw [if_congr (length_lt_iff hlen (n := 1) (by decide)) rfl rfl]
  cases payload with
  | nil => exact h.congr rfl rfl
  | cons id rest =>
      have hrange : id > 3#8 ↔ ¬ id.toNat ≤ 3 := by
        rw [gt_iff_lt, BitVec.lt_def, not_le]
        rfl
      rw [if_neg (by simp), List.getD_cons_zero, antennaOrder, if_congr hrange rfl rfl]
      split_ifs with hid
      · have hmask : id &&& 3#8 = id := by
          apply BitVec.eq_of_toNat_eq
          rw [BitVec.toNat_and]
          exact (Nat.and_two_pow_sub_one_eq_mod _ 2).trans (Nat.mod_eq_of_lt (by omega))
        refine ⟨h.streaming, h.rxEnabled, h.nfcActive, ?_, ?_⟩
        · exact (antenna_select p.board id).trans (congrArg some hmask)
        · change ((apexAntennaSelect id p.board).chip regs).Holds r.regs
          rw [chip_select]
          exact h.chip
      · exact h.congr rfl rfl

/-- The burst that `handle_cmd_cc1101_cfg` writes is the one ordered. -/
theorem cc1101Burst_order (hlen : payload.length ≤ maxPayload) :
    (cc1101Burst payload (BitVec.ofNat 16 payload.length)).map
      (fun burst => RadioOrder.registers burst.1 burst.2) = registersOrder payload := by
  unfold cc1101Burst
  dsimp only
  rw [if_congr (length_lt_iff hlen (n := 2) (by decide)) rfl rfl, length_toNat hlen]
  match payload with
  | [] => rfl
  | [_] => rfl
  | addr :: len :: data =>
      have hgap : addr = 0x2F#8 ↔ addr.toNat = 0x2F :=
        ⟨fun h => congrArg BitVec.toNat h, fun h => BitVec.eq_of_toNat_eq h⟩
      simp only [List.length_cons, List.getD_cons_zero, List.getD_cons_succ, List.drop_succ_cons,
        List.drop_zero, gt_iff_lt, ge_iff_le, BitVec.lt_def, BitVec.le_def, BitVec.toNat_ofNat,
        hgap, registersOrder]
      by_cases hfits : Confined addr.toNat len.toNat ∧ len.toNat ≤ data.length
      · rw [if_pos hfits]
        unfold Confined at hfits
        rw [if_neg (by omega), if_neg (by omega), if_neg (by omega), if_neg (by omega),
          if_neg (by omega)]
        rfl
      · rw [if_neg hfits]
        unfold Confined at hfits
        split_ifs <;> first | rfl | omega

theorem Drives.cc1101Cfg (h : Drives p regs r) (hlen : payload.length ≤ maxPayload) :
    Drives (handleCmdCc1101Cfg payload (BitVec.ofNat 16 payload.length) p) regs
      (r.obey (registersOrder payload)) := by
  have hboard := handleCmdCc1101Cfg_board payload (BitVec.ofNat 16 payload.length) p
  have hdevice : (handleCmdCc1101Cfg payload (BitVec.ofNat 16 payload.length) p).device =
      p.device := by
    rw [handleCmdCc1101Cfg_eq]
  rw [← cc1101Burst_order hlen]
  cases hburst : cc1101Burst payload (BitVec.ofNat 16 payload.length) with
  | none =>
      rw [hburst] at hboard
      exact h.congr hdevice hboard
  | some burst =>
      obtain ⟨addr, data⟩ := burst
      obtain ⟨-, -, -, hconfined⟩ := cc1101Burst_some hburst
      rw [hburst] at hboard
      refine ⟨?_, ?_, ?_, ?_, ?_⟩
      · rw [hdevice]
        exact h.streaming
      · rw [hdevice]
        exact h.rxEnabled
      · rw [hdevice]
        exact h.nfcActive
      · rw [hboard]
        exact (antenna_writeBurst p.board addr data).trans h.antenna
      · rw [hboard]
        exact chip_writeBurst p.board regs h.chip hconfined.lt data

theorem Drives.nfcTransact (h : Drives p regs r) (hlen : payload.length ≤ maxPayload) :
    Drives (handleCmdNfcTransact payload (BitVec.ofNat 16 payload.length) p) regs
      (r.obey (nfcOrder payload)) := by
  unfold handleCmdNfcTransact
  dsimp only
  rw [if_congr (length_lt_iff hlen (n := 4) (by decide)) rfl rfl]
  match payload with
  | [] => exact h.congr rfl rfl
  | [_] => exact h.congr rfl rfl
  | [_, _] => exact h.congr rfl rfl
  | [_, _, _] => exact h.congr rfl rfl
  | cmd :: flags :: low :: high :: data =>
      have hfield : (readLe16 (low :: high :: data)).toNat = leValue [low, high] :=
        readLe16_toNat _
      have hmax : maxPayload = 4092 := rfl
      have hsize := length_toNat hlen
      have hlong : readLe16 (low :: high :: data) > 256#16 ↔ 256 < leValue [low, high] := by
        rw [gt_iff_lt, BitVec.lt_def, hfield]
        rfl
      have hshort (h : ¬ 256 < leValue [low, high]) :
          BitVec.ofNat 16 (cmd :: flags :: low :: high :: data).length <
              4#16 + readLe16 (low :: high :: data) ↔
            data.length < leValue [low, high] := by
        rw [BitVec.lt_def, hsize, BitVec.toNat_add, hfield]
        simp only [List.length_cons, BitVec.toNat_ofNat]
        omega
      rw [if_neg (by simp), List.drop_succ_cons, List.drop_succ_cons, List.drop_zero,
        if_congr hlong rfl rfl, nfcOrder]
      by_cases hover : 256 < leValue [low, high]
      · rw [if_pos hover, if_neg (by omega)]
        exact h.congr rfl rfl
      · rw [if_neg hover, if_congr (hshort hover) rfl rfl]
        by_cases hcut : data.length < leValue [low, high]
        · rw [if_pos hcut, if_neg (by omega)]
          exact h.congr rfl rfl
        · rw [if_neg hcut, if_pos ⟨by omega, by omega⟩]
          exact ⟨h.streaming, h.rxEnabled, rfl, h.antenna, h.chip⟩

/-- The handler of a command drives the radios as the command orders. -/
theorem Drives.handle (h : Drives p regs r) {c : Command} (hlen : c.payload.length ≤ maxPayload) :
    Drives (p.handle c.dispatched) regs (r.obey c.order) := by
  unfold SpiProtocol.handle handleCmd Command.dispatched
  dsimp only
  split_ifs with hnop htune hstream hant hcc hnfc
  · have horder : c.order = none := by rw [Command.order, hnop]; rfl
    rw [horder]
    exact h.congr rfl rfl
  · have horder : c.order = none := by rw [Command.order, htune]; rfl
    rw [horder]
    exact h.congr rfl rfl
  · have horder : c.order = streamOrder c.payload := by rw [Command.order, hstream]; rfl
    rw [horder]
    exact h.sdrStream hlen
  · have horder : c.order = antennaOrder c.payload := by rw [Command.order, hant]; rfl
    rw [horder]
    exact h.antSelect hlen
  · have horder : c.order = registersOrder c.payload := by rw [Command.order, hcc]; rfl
    rw [horder]
    exact h.cc1101Cfg hlen
  · have horder : c.order = nfcOrder c.payload := by rw [Command.order, hnfc]; rfl
    rw [horder]
    exact h.nfcTransact hlen
  · have horder : c.order = none := by
      rw [Command.order, if_neg hstream, if_neg hant, if_neg hcc, if_neg hnfc]
    rw [horder]
    exact h

end

/-- The counters after one more command. -/
def counted (s : ProtoStats) (cmd : Byte) : ProtoStats :=
  if cmd = cmdNop then { s with cmdNopRx := s.cmdNopRx + 1 }
  else if cmd = cmdSdrTune then { s with cmdSdrTuneRx := s.cmdSdrTuneRx + 1 }
  else if cmd = cmdSdrStream then { s with cmdSdrStreamRx := s.cmdSdrStreamRx + 1 }
  else if cmd = cmdAntSelect then { s with cmdAntSelectRx := s.cmdAntSelectRx + 1 }
  else if cmd = cmdCc1101Cfg then { s with cmdCc1101CfgRx := s.cmdCc1101CfgRx + 1 }
  else if cmd = cmdNfcTransact then { s with cmdNfcTransactRx := s.cmdNfcTransactRx + 1 }
  else s

/-- Every handler counts its command, whatever the payload. -/
theorem handle_stats (p : SpiProtocol) (d : Dispatched) :
    (p.handle d).stats = counted p.stats d.cmd := by
  unfold SpiProtocol.handle handleCmd counted
  split_ifs
  · rfl
  · rfl
  · unfold handleCmdSdrStream
    dsimp only
    split_ifs <;> rfl
  · rw [handleCmdAntSelect_eq]
  · rw [handleCmdCc1101Cfg_eq]
  · unfold handleCmdNfcTransact
    dsimp only
    split_ifs <;> rfl
  · rfl

theorem received_counted (s : ProtoStats) (cmd cmd' : Byte) :
    receivedCount (counted s cmd) cmd' =
      if cmd' = cmd then (receivedCount s cmd').map (· + 1) else receivedCount s cmd' := by
  by_cases hcmd : cmd' = cmd
  · rw [if_pos hcmd, hcmd]
    unfold receivedCount counted
    split_ifs <;> rfl
  · rw [if_neg hcmd]
    unfold counted
    split_ifs with hnop htune hstream hant hcc hnfc
    · rw [hnop] at hcmd
      simp only [receivedCount, if_neg hcmd]
    · rw [htune] at hcmd
      simp only [receivedCount, if_neg hcmd]
    · rw [hstream] at hcmd
      simp only [receivedCount, if_neg hcmd]
    · rw [hant] at hcmd
      simp only [receivedCount, if_neg hcmd]
    · rw [hcc] at hcmd
      simp only [receivedCount, if_neg hcmd]
    · rw [hnfc] at hcmd
      simp only [receivedCount, if_neg hcmd]
    · rfl

theorem Counts.handle {p : SpiProtocol} {r : Radio} (h : Counts p r) (c : Command) :
    Counts (p.handle c.dispatched) (r.serve c) := by
  intro cmd n hn
  have hcount : (r.serve c).count cmd = r.count cmd + if cmd = c.cmd then 1 else 0 := by
    simp [Radio.count, Radio.serve, List.countP_append, List.countP_singleton, eq_comm]
  rw [handle_stats, received_counted] at hn
  rw [hcount]
  split_ifs at hn ⊢ with hcmd hcmd
  · obtain ⟨m, hm, rfl⟩ := Option.map_eq_some_iff.mp hn
    rw [h cmd m hm, BitVec.ofNat_add]
    rfl
  · exact absurd ‹_› hcmd
  · exact absurd ‹_› hcmd
  · exact h cmd n hn

/-- What the firmware has served, and the board and the variables behind it. -/
structure Mirrors (p : SpiProtocol) (regs : Nat → Byte) (r : Radio) : Prop where
  drives : Drives p regs r
  counts : Counts p r

theorem Mirrors.handle {p : SpiProtocol} {regs : Nat → Byte} {r : Radio} (h : Mirrors p regs r)
    {c : Command} (hlen : c.payload.length ≤ maxPayload) :
    Mirrors (p.handle c.dispatched) regs (r.serve c) := by
  have hdrives := h.drives.handle hlen
  exact ⟨⟨hdrives.streaming, hdrives.rxEnabled, hdrives.nfcActive, hdrives.antenna, hdrives.chip⟩,
    h.counts.handle c⟩

theorem Mirrors.handleAll {p : SpiProtocol} {regs : Nat → Byte} {r : Radio}
    (h : Mirrors p regs r) {cs : List Command} (hlen : ∀ c ∈ cs, c.payload.length ≤ maxPayload) :
    Mirrors ((cs.map Command.dispatched).foldl SpiProtocol.handle p) regs
      (cs.foldl Radio.serve r) := by
  induction cs generalizing p r with
  | nil => exact h
  | cons c cs ih =>
      exact ih (h.handle (hlen c List.mem_cons_self)) fun c' hc' =>
        hlen c' (List.mem_cons_of_mem c hc')

/-- Only the counters of the commands, the device variables and the board matter. -/
theorem Mirrors.congr {p q : SpiProtocol} {regs : Nat → Byte} {r : Radio} (h : Mirrors p regs r)
    (hsame : SameDevices q p) : Mirrors q regs r := by
  refine ⟨h.drives.congr hsame.device hsame.board, ?_⟩
  rw [Counts, hsame.stats]
  exact h.counts

end GhostBlade.Bridge
