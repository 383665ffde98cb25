import GhostBlade.Firmware.SpiProtocolScan

/-!
What received bytes do to everything but the frame assembly: the counters, the
device state, the TX ring and the board are those the command handlers leave
when they are given the dispatched frames one after another.
-/

namespace GhostBlade.Firmware

open GhostBlade.Library GhostBlade.Library.Framing GhostBlade.Protocol

/-- The handler of a dispatched frame. -/
def SpiProtocol.handle (p : SpiProtocol) (d : Dispatched) : SpiProtocol :=
  handleCmd d.cmd d.payload d.len p

/-- Agreement in everything but the frame assembly and the dispatch log. -/
structure SameDevices (p q : SpiProtocol) : Prop where
  stats : p.stats = q.stats
  device : p.device = q.device
  tx : p.tx = q.tx
  board : p.board = q.board

theorem SameDevices.refl (p : SpiProtocol) : SameDevices p p := ⟨rfl, rfl, rfl, rfl⟩

theorem SameDevices.trans {p q r : SpiProtocol} (h : SameDevices p q) (h' : SameDevices q r) :
    SameDevices p r :=
  ⟨h.stats.trans h'.stats, h.device.trans h'.device, h.tx.trans h'.tx, h.board.trans h'.board⟩

section

variable (payload : List Byte) (len : BitVec 16) (c : RxCtx) (t : Ring Byte 4096)
  (log : List Dispatched) (p : SpiProtocol)

theorem handleCmdSdrStream_frame :
    handleCmdSdrStream payload len { p with rx := c, tx := t, dispatched := log } =
      { handleCmdSdrStream payload len p with rx := c, tx := t, dispatched := log } := by
  unfold handleCmdSdrStream
  dsimp only
  split_ifs <;> rfl

theorem handleCmdAntSelect_frame :
    handleCmdAntSelect payload len { p with rx := c, tx := t, dispatched := log } =
      { handleCmdAntSelect payload len p with rx := c, tx := t, dispatched := log } := by
  unfold handleCmdAntSelect
  dsimp only
  split_ifs <;> rfl

theorem handleCmdCc1101Cfg_frame :
    handleCmdCc1101Cfg payload len { p with rx := c, tx := t, dispatched := log } =
      { handleCmdCc1101Cfg payload len p with rx := c, tx := t, dispatched := log } := by
  unfold handleCmdCc1101Cfg
  dsimp only
  split_ifs <;> rfl

theorem handleCmdNfcTransact_frame :
    handleCmdNfcTransact payload len { p with rx := c, tx := t, dispatched := log } =
      { handleCmdNfcTransact payload len p with rx := c, tx := t, dispatched := log } := by
  unfold handleCmdNfcTransact
  dsimp only
  split_ifs <;> rfl

/-- No handler looks at the frame assembly, the TX ring or the dispatch log. -/
theorem handleCmd_frame (cmd : Byte) :
    handleCmd cmd payload len { p with rx := c, tx := t, dispatched := log } =
      { handleCmd cmd payload len p with rx := c, tx := t, dispatched := log } := by
  unfold handleCmd
  split_ifs
  · rfl
  · rfl
  · exact handleCmdSdrStream_frame ..
  · exact handleCmdAntSelect_frame ..
  · exact handleCmdCc1101Cfg_frame ..
  · exact handleCmdNfcTransact_frame ..
  · rfl

end

theorem SameDevices.handleCmd {p q : SpiProtocol} (h : SameDevices p q) (cmd : Byte)
    (payload : List Byte) (len : BitVec 16) :
    SameDevices (handleCmd cmd payload len p) (handleCmd cmd payload len q) := by
  have hp : p = { q with rx := p.rx, tx := q.tx, dispatched := p.dispatched } := by
    obtain ⟨rx, stats, device, tx, board, dispatched⟩ := p
    obtain ⟨hstats, hdevice, htx, hboard⟩ := h
    simp only at hstats hdevice htx hboard
    subst hstats hdevice htx hboard
    rfl
  rw [hp, handleCmd_frame]
  exact ⟨rfl, rfl, (handleCmd_preserves cmd payload len q).tx.symm, rfl⟩

theorem SameDevices.handleAll {p q : SpiProtocol} (h : SameDevices p q) (ds : List Dispatched) :
    SameDevices (ds.foldl SpiProtocol.handle p) (ds.foldl SpiProtocol.handle q) := by
  induction ds generalizing p q with
  | nil => exact h
  | cons d ds ih => exact ih (h.handleCmd d.cmd d.payload d.len)

/-- A call of `apex_sdr_rx_enable` or `apex_sdr_lna_enable`. -/
inductive SdrCall where
  | rxEnable (enable : Bool)
  | lnaEnable (enable : Bool)
deriving DecidableEq, Repr

def SdrCall.onBoard (b : Board) : SdrCall → Board
  | .rxEnable enable => apexSdrRxEnable enable b
  | .lnaEnable enable => apexSdrLnaEnable enable b

/-- The calls of `handle_cmd_sdr_stream`, in order. -/
def sdrStreamCalls (payload : List Byte) (len : BitVec 16) (d : DeviceState) : List SdrCall :=
  if len < 1#16 then []
  else
    let enable := payload.getD 0 0
    if enable ≠ 0 ∧ d.sdrStreaming = false then [.rxEnable true, .lnaEnable true]
    else if enable = 0 ∧ d.sdrStreaming = true then [.rxEnable false, .lnaEnable false]
    else []

/-- A call of a command handler to the device layer. -/
inductive DeviceCall where
  | sdr (call : SdrCall)
  | antennaSelect (antId : Byte)
  | cc1101WriteBurst (addr : Byte) (data : List Byte)
deriving DecidableEq, Repr

def DeviceCall.run : Board → DeviceCall → Board
  | board, .sdr call => call.onBoard board
  | board, .antennaSelect antId => apexAntennaSelect antId board
  | board, .cc1101WriteBurst addr data => apexCc1101WriteBurst addr data board

/-- The calls of `handle_cmd_ant_select`. -/
def antSelectCalls (payload : List Byte) (len : BitVec 16) : List DeviceCall :=
  if len < 1#16 then []
  else
    let antId := payload.getD 0 0
    if antId > 3#8 then [] else [.antennaSelect antId]

/-- The address and the data `handle_cmd_cc1101_cfg` hands to
`apex_cc1101_write_burst`, if it accepts the request. -/
def cc1101Burst (payload : List Byte) (len : BitVec 16) : Option (Byte × List Byte) :=
  if len < 2#16 then none
  else
    let regAddr := payload.getD 0 0
    let regLen := payload.getD 1 0
    if regAddr > 0x3D#8 ∨ regAddr = 0x2F#8 then none
    else if len.toNat < 2 + regLen.toNat then none
    else if regAddr ≤ 0x2E#8 ∧ regAddr.toNat + regLen.toNat > 0x2F then none
    else if regAddr ≥ 0x30#8 ∧ regAddr.toNat + regLen.toNat > 0x3E then none
    else some (regAddr, (payload.drop 2).take regLen.toNat)

/-- The calls of `handle_cmd_cc1101_cfg`. -/
def cc1101CfgCalls (payload : List Byte) (len : BitVec 16) : List DeviceCall :=
  match cc1101Burst payload len with
  | none => []
  | some (regAddr, data) => [.cc1101WriteBurst regAddr data]

/-- The calls a command makes. -/
def deviceCalls (cmd : Byte) (payload : List Byte) (len : BitVec 16) (device : DeviceState) :
    List DeviceCall :=
  if cmd = cmdNop then []
  else if cmd = cmdSdrTune then []
  else if cmd = cmdSdrStream then (sdrStreamCalls payload len device).map .sdr
  else if cmd = cmdAntSelect then antSelectCalls payload len
  else if cmd = cmdCc1101Cfg then cc1101CfgCalls payload len
  else []

section

variable (payload : List Byte) (len : BitVec 16) (p : SpiProtocol)

/-- The calls are those the handler makes on the board. -/
theorem handleCmdSdrStream_board :
    (handleCmdSdrStream payload len p).board =
      (sdrStreamCalls payload len p.device).foldl SdrCall.onBoard p.board := by
  unfold handleCmdSdrStream sdrStreamCalls
  dsimp only
  split_ifs <;> rfl

/-- Selecting an antenna and configuring the CC1101 are their calls and a counter. -/
theorem handleCmdAntSelect_eq :
    handleCmdAntSelect payload len p =
      { p with
        stats := { p.stats with cmdAntSelectRx := p.stats.cmdAntSelectRx + 1 }
        board := (antSelectCalls payload len).foldl DeviceCall.run p.board } := by
  unfold handleCmdAntSelect antSelectCalls
  dsimp only
  split_ifs <;> rfl

theorem handleCmdCc1101Cfg_eq :
    handleCmdCc1101Cfg payload len p =
      { p with
        stats := { p.stats with cmdCc1101CfgRx := p.stats.cmdCc1101CfgRx + 1 }
        board := (cc1101CfgCalls payload len).foldl DeviceCall.run p.board } := by
  unfold handleCmdCc1101Cfg cc1101CfgCalls cc1101Burst
  dsimp only
  split_ifs <;> rfl

theorem handleCmdNfcTransact_board : (handleCmdNfcTransact payload len p).board = p.board := by
  unfold handleCmdNfcTransact
  dsimp only
  split_ifs <;> rfl

/-- The calls are all a command does to the board. -/
theorem handleCmd_board (cmd : Byte) :
    (handleCmd cmd payload len p).board =
      (deviceCalls cmd payload len p.device).foldl DeviceCall.run p.board := by
  unfold handleCmd deviceCalls
  split_ifs
  · rfl
  · rfl
  · rw [handleCmdSdrStream_board, List.foldl_map]
    rfl
  · exact congrArg SpiProtocol.board (handleCmdAntSelect_eq payload len p)
  · exact congrArg SpiProtocol.board (handleCmdCc1101Cfg_eq payload len p)
  · exact handleCmdNfcTransact_board payload len p
  · rfl

end

theorem toNat_of_not_lt (len : BitVec 16) {n : Nat} (hn : n < 65536)
    (h : ¬ len < BitVec.ofNat 16 n) : n ≤ len.toNat := by
  rw [BitVec.lt_def, BitVec.toNat_ofNat, Nat.mod_eq_of_lt hn] at h
  omega

/-- The payload indices `handle_cmd_sdr_tune` copies. -/
def sdrTuneReads (len : BitVec 16) : List Nat := if len < 8#16 then [] else List.range 8

/-- The indices of the handlers that look at the first byte only. -/
def firstByteReads (len : BitVec 16) : List Nat := if len < 1#16 then [] else [0]

/-- The indices `handle_cmd_cc1101_cfg` and the burst it starts read. -/
def cc1101CfgReads (payload : List Byte) (len : BitVec 16) : List Nat :=
  if len < 2#16 then []
  else
    let regAddr := payload.getD 0 0
    let regLen := payload.getD 1 0
    if regAddr > 0x3D#8 ∨ regAddr = 0x2F#8 then [0]
    else if len.toNat < 2 + regLen.toNat then [0, 1]
    else if regAddr ≤ 0x2E#8 ∧ regAddr.toNat + regLen.toNat > 0x2F then [0, 1]
    else if regAddr ≥ 0x30#8 ∧ regAddr.toNat + regLen.toNat > 0x3E then [0, 1]
    else [0, 1] ++ List.range' 2 regLen.toNat

/-- The indices of the length field `handle_cmd_nfc_transact` reads. -/
def nfcTransactReads (len : BitVec 16) : List Nat := if len < 4#16 then [] else [2, 3]

/-- The payload indices the handler of a command reads. -/
def payloadReads (cmd : Byte) (payload : List Byte) (len : BitVec 16) : List Nat :=
  if cmd = cmdNop then []
  else if cmd = cmdSdrTune then sdrTuneReads len
  else if cmd = cmdSdrStream then firstByteReads len
  else if cmd = cmdAntSelect then firstByteReads len
  else if cmd = cmdCc1101Cfg then cc1101CfgReads payload len
  else if cmd = cmdNfcTransact then nfcTransactReads len
  else []

section

variable (payload : List Byte) (len : BitVec 16)

theorem sdrTuneReads_lt : ∀ i ∈ sdrTuneReads len, i < len.toNat := by
  intro i hi
  unfold sdrTuneReads at hi
  split_ifs at hi with hshort
  · exact absurd hi List.not_mem_nil
  · have hlen := toNat_of_not_lt len (n := 8) (by omega) hshort
    have hlt := List.mem_range.mp hi
    omega

theorem firstByteReads_lt : ∀ i ∈ firstByteReads len, i < len.toNat := by
  intro i hi
  unfold firstByteReads at hi
  split_ifs at hi with hshort
  · exact absurd hi List.not_mem_nil
  · have hlen := toNat_of_not_lt len (n := 1) (by omega) hshort
    have hzero := List.mem_singleton.mp hi
    omega

theorem cc1101CfgReads_lt : ∀ i ∈ cc1101CfgReads payload len, i < len.toNat := by
  intro i hi
  by_cases hshort : len < 2#16
  · rw [cc1101CfgReads, if_pos hshort] at hi
    exact absurd hi List.not_mem_nil
  · have hlen := toNat_of_not_lt len (n := 2) (by omega) hshort
    unfold cc1101CfgReads at hi
    dsimp only at hi
    split_ifs at hi with hbad hroom
    -- behind the first two bytes it reads only what the length check has covered
    all_goals
      simp only [List.mem_append, List.mem_cons, List.not_mem_nil, or_false,
        List.mem_range'_1] at hi
      omega

theorem nfcTransactReads_lt : ∀ i ∈ nfcTransactReads len, i < len.toNat := by
  intro i hi
  unfold nfcTransactReads at hi
  split_ifs at hi with hshort
  · exact absurd hi List.not_mem_nil
  · have hlen := toNat_of_not_lt len (n := 4) (by omega) hshort
    simp only [List.mem_cons, List.not_mem_nil, or_false] at hi
    omega

/-- No handler reads behind the frame's payload. -/
theorem payloadReads_lt (cmd : Byte) : ∀ i ∈ payloadReads cmd payload len, i < len.toNat := by
  unfold payloadReads
  split_ifs
  · simp
  · exact sdrTuneReads_lt len
  · exact firstByteReads_lt len
  · exact firstByteReads_lt len
  · exact cc1101CfgReads_lt payload len
  · exact nfcTransactReads_lt len
  · simp

end

section

variable (payload payload' : List Byte) (len : BitVec 16) (device : DeviceState)
  (p : SpiProtocol)

theorem getD_congr {i : Nat} (h : payload[i]? = payload'[i]?) :
    payload.getD i 0 = payload'.getD i 0 := by
  rw [List.getD_eq_getElem?_getD, List.getD_eq_getElem?_getD, h]

theorem handleCmdSdrStream_of_reads
    (h : ∀ i ∈ firstByteReads len, payload[i]? = payload'[i]?) :
    handleCmdSdrStream payload len p = handleCmdSdrStream payload' len p := by
  unfold handleCmdSdrStream
  by_cases hshort : len < 1#16
  · simp only [if_pos hshort]
  · have henable : payload.getD 0 0 = payload'.getD 0 0 := by
      apply getD_congr
      apply h
      simp [firstByteReads, hshort]
    rw [henable]

theorem sdrStreamCalls_of_reads (h : ∀ i ∈ firstByteReads len, payload[i]? = payload'[i]?) :
    sdrStreamCalls payload len device = sdrStreamCalls payload' len device := by
  unfold sdrStreamCalls
  by_cases hshort : len < 1#16
  · rw [if_pos hshort, if_pos hshort]
  · have henable : payload.getD 0 0 = payload'.getD 0 0 := by
      apply getD_congr
      apply h
      simp [firstByteReads, hshort]
    rw [henable]

theorem antSelectCalls_of_reads (h : ∀ i ∈ firstByteReads len, payload[i]? = payload'[i]?) :
    antSelectCalls payload len = antSelectCalls payload' len := by
  unfold antSelectCalls
  by_cases hshort : len < 1#16
  · rw [if_pos hshort, if_pos hshort]
  · have hant : payload.getD 0 0 = payload'.getD 0 0 := by
      apply getD_congr
      apply h
      simp [firstByteReads, hshort]
    rw [hant]

theorem cc1101Burst_of_reads
    (h : ∀ i ∈ cc1101CfgReads payload len, payload[i]? = payload'[i]?) :
    cc1101Burst payload len = cc1101Burst payload' len := by
  unfold cc1101Burst
  dsimp only
  unfold cc1101CfgReads at h
  dsimp only at h
  by_cases hshort : len < 2#16
  · simp only [if_pos hshort]
  · simp only [if_neg hshort] at h ⊢
    have haddr : payload.getD 0 0 = payload'.getD 0 0 := by
      apply getD_congr
      apply h
      split_ifs <;> simp
    rw [haddr] at h ⊢
    by_cases hbad : payload'.getD 0 0 > 0x3D#8 ∨ payload'.getD 0 0 = 0x2F#8
    · rw [if_pos hbad, if_pos hbad]
    · simp only [if_neg hbad] at h ⊢
      have hregs : payload.getD 1 0 = payload'.getD 1 0 := by
        apply getD_congr
        apply h
        split_ifs <;> simp
      rw [hregs] at h ⊢
      split_ifs with hroom hlow hhigh
      · rfl
      · rfl
      · rfl
      · have hdata : (payload.drop 2).take (payload'.getD 1 0).toNat =
            (payload'.drop 2).take (payload'.getD 1 0).toNat := by
          apply drop_take_congr 2 _
          intro i hi
          apply h
          rw [if_neg hroom, if_neg hlow, if_neg hhigh]
          exact List.mem_append_right _ hi
        rw [hdata]

theorem cc1101CfgCalls_of_reads
    (h : ∀ i ∈ cc1101CfgReads payload len, payload[i]? = payload'[i]?) :
    cc1101CfgCalls payload len = cc1101CfgCalls payload' len := by
  rw [cc1101CfgCalls, cc1101CfgCalls, cc1101Burst_of_reads payload payload' len h]

/-- The reads are all the calls and their arguments depend on. -/
theorem deviceCalls_of_reads (cmd : Byte)
    (h : ∀ i ∈ payloadReads cmd payload len, payload[i]? = payload'[i]?) :
    deviceCalls cmd payload len device = deviceCalls cmd payload' len device := by
  unfold deviceCalls
  unfold payloadReads at h
  split_ifs at h ⊢
  · rfl
  · rfl
  · rw [sdrStreamCalls_of_reads payload payload' len device h]
  · exact antSelectCalls_of_reads payload payload' len h
  · exact cc1101CfgCalls_of_reads payload payload' len h
  · rfl
  · rfl

theorem handleCmdAntSelect_of_reads
    (h : ∀ i ∈ firstByteReads len, payload[i]? = payload'[i]?) :
    handleCmdAntSelect payload len p = handleCmdAntSelect payload' len p := by
  rw [handleCmdAntSelect_eq, handleCmdAntSelect_eq, antSelectCalls_of_reads payload payload' len h]

theorem handleCmdCc1101Cfg_of_reads
    (h : ∀ i ∈ cc1101CfgReads payload len, payload[i]? = payload'[i]?) :
    handleCmdCc1101Cfg payload len p = handleCmdCc1101Cfg payload' len p := by
  rw [handleCmdCc1101Cfg_eq, handleCmdCc1101Cfg_eq, cc1101CfgCalls_of_reads payload payload' len h]

theorem handleCmdNfcTransact_of_reads
    (h : ∀ i ∈ nfcTransactReads len, payload[i]? = payload'[i]?) :
    handleCmdNfcTransact payload len p = handleCmdNfcTransact payload' len p := by
  unfold handleCmdNfcTransact
  dsimp only
  by_cases hshort : len < 4#16
  · simp only [if_pos hshort]
  · have hfield : readLe16 (payload.drop 2) = readLe16 (payload'.drop 2) := by
      rw [readLe16, readLe16, drop_take_congr 2 2]
      intro i hi
      apply h
      simpa [nfcTransactReads, hshort, List.range'] using hi
    rw [hfield]

/-- The reads are all a handler's effect depends on. -/
theorem handleCmd_of_reads (cmd : Byte)
    (h : ∀ i ∈ payloadReads cmd payload len, payload[i]? = payload'[i]?) :
    handleCmd cmd payload len p = handleCmd cmd payload' len p := by
  unfold handleCmd
  unfold payloadReads at h
  split_ifs at h ⊢
  · rfl
  · rfl
  · exact handleCmdSdrStream_of_reads payload payload' len p h
  · exact handleCmdAntSelect_of_reads payload payload' len p h
  · exact handleCmdCc1101Cfg_of_reads payload payload' len p h
  · exact handleCmdNfcTransact_of_reads payload payload' len p h
  · rfl

end

/-- The calls and their arguments come from the frame's payload alone. -/
theorem deviceCalls_take (cmd : Byte) (payload : List Byte) (len : BitVec 16)
    (device : DeviceState) :
    deviceCalls cmd (payload.take len.toNat) len device =
      deviceCalls cmd payload len device := by
  apply deviceCalls_of_reads
  intro i hi
  exact List.getElem?_take_of_lt (payloadReads_lt _ len cmd i hi)

/-- A handler does not look behind the length it is given. -/
theorem handleCmd_take (cmd : Byte) (payload : List Byte) (len : BitVec 16) (p : SpiProtocol) :
    handleCmd cmd (payload.take len.toNat) len p = handleCmd cmd payload len p := by
  apply handleCmd_of_reads
  intro i hi
  exact List.getElem?_take_of_lt (payloadReads_lt _ len cmd i hi)

/-- Dispatching is handling the pending frame. -/
theorem dispatchFrame_devices (p : SpiProtocol) :
    SameDevices (dispatchFrame p) (p.handle p.rx.pending) := by
  have htake := handleCmd_take (p.rx.hdrBuf.toList.getD 1 0) p.rx.payloadBuf.toList
    p.rx.expectedPayloadLen p
  have hrx := handleCmd_frame p.rx.payloadBuf.toList p.rx.expectedPayloadLen
    { p.rx with framesDispatched := p.rx.framesDispatched + 1 } p.tx
    (p.dispatched ++ [p.rx.pending]) p (p.rx.hdrBuf.toList.getD 1 0)
  have hhandle : p.handle p.rx.pending = handleCmd (p.rx.hdrBuf.toList.getD 1 0)
      p.rx.payloadBuf.toList p.rx.expectedPayloadLen p := htake
  rw [hhandle]
  unfold dispatchFrame
  dsimp only
  unfold RxCtx.pending at hrx
  rw [hrx]
  exact ⟨rfl, rfl, (handleCmd_preserves _ _ _ p).tx.symm, rfl⟩

/-- The dispatches of some bytes and what their handlers do. -/
def Handles (p p' : SpiProtocol) : Prop :=
  ∃ ds, p'.dispatched = p.dispatched ++ ds ∧ SameDevices p' (ds.foldl SpiProtocol.handle p)

theorem Handles.of_rx (p : SpiProtocol) (c : RxCtx) : Handles p { p with rx := c } :=
  ⟨[], (List.append_nil _).symm, rfl, rfl, rfl, rfl⟩

theorem Handles.trans {p q r : SpiProtocol} (h : Handles p q) (h' : Handles q r) :
    Handles p r := by
  obtain ⟨ds, hlog, hsame⟩ := h
  obtain ⟨es, hlog', hsame'⟩ := h'
  refine ⟨ds ++ es, by rw [hlog', hlog, List.append_assoc], ?_⟩
  rw [List.foldl_append]
  exact hsame'.trans (hsame.handleAll es)

/-- A dispatch, with the context set before and after it. -/
theorem Handles.of_dispatch (p q : SpiProtocol) (c : RxCtx)
    (hstep : DispatchStep { p with rx := c } q)
    (hsame : SameDevices q (SpiProtocol.handle { p with rx := c } c.pending)) :
    Handles p { q with rx := { q.rx with state := .idle } } := by
  refine ⟨[c.pending], hstep.dispatched, ?_⟩
  have hbase : SameDevices { p with rx := c } p := ⟨rfl, rfl, rfl, rfl⟩
  have hcongr : SameDevices (SpiProtocol.handle { p with rx := c } c.pending)
      (p.handle c.pending) := hbase.handleCmd _ _ _
  have hall := hsame.trans hcongr
  exact ⟨hall.stats, hall.device, hall.tx, hall.board⟩

theorem frameComplete_handles (p : SpiProtocol) : Handles p p.frameComplete.1 := by
  by_cases hok : p.rx.validateFramePayload.1 = 0
  · rw [frameComplete_ok hok]
    exact Handles.of_dispatch p _ p.rx.received (dispatchFrame_step _) (dispatchFrame_devices _)
  · rw [frameComplete_bad hok]
    exact Handles.of_rx p _

theorem rxByte_handles (p : SpiProtocol) (b : Byte) : Handles p (p.rxByte b).1 := by
  unfold SpiProtocol.rxByte
  cases p.rx.state with
  | idle => exact Handles.of_rx p _
  | header => exact Handles.of_rx p _
  | payload => exact Handles.of_rx p _
  | complete => exact Handles.of_rx p _
  | error => exact Handles.of_rx p _
  | crc32 =>
      dsimp only
      unfold SpiProtocol.onCrc32
      dsimp only
      split
      · exact (Handles.of_rx p _).trans (frameComplete_handles _)
      · exact Handles.of_rx p _

theorem feed_handles (p : SpiProtocol) (w : List Byte) : Handles p (p.feed w) := by
  induction w generalizing p with
  | nil => exact ⟨[], (List.append_nil _).symm, .refl p⟩
  | cons b w ih => exact (rxByte_handles p b).trans (ih (p.rxByte b).1)

/-- The device side of the handler after a word, from what the word dispatches. -/
theorem feed_devices (p : SpiProtocol) (w : List Byte) (ds : List Dispatched)
    (h : (p.feed w).dispatched = p.dispatched ++ ds) :
    SameDevices (p.feed w) (ds.foldl SpiProtocol.handle p) := by
  obtain ⟨es, hlog, hsame⟩ := feed_handles p w
  rwa [List.append_cancel_left (h.symm.trans hlog)]

end GhostBlade.Firmware
