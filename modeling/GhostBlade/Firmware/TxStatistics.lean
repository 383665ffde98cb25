import GhostBlade.Firmware.Telemetry

/-!
The TX ring against the frames offered to it. One slot of the ring stays free,
so that a frame of 4096 bytes or more never fits, although the longest payload
makes one of 4112. `tx_overruns` counts the frames that were dropped; the
counters of sent frames count the dropped ones as well.
-/

namespace GhostBlade.Firmware

open GhostBlade.Library GhostBlade.Protocol

/-- A frame for the host, before it is encoded. -/
structure Response where
  cmd : Byte
  payload : List Byte
deriving DecidableEq

def Response.encoding (f : Response) : List Byte := encode f.cmd f.payload

/-- Whether the frame fits behind the unread bytes. -/
def Response.Fits (f : Response) (tx : Ring Byte 4096) : Prop :=
  tx.used + (20 + f.payload.length) < 4096

instance Response.Fits.decidable (f : Response) (tx : Ring Byte 4096) : Decidable (f.Fits tx) :=
  inferInstanceAs (Decidable (tx.used + (20 + f.payload.length) < 4096))

theorem buildResponseFrame_ret (f : Response) (p : SpiProtocol)
    (hlen : f.payload.length ≤ maxPayload) :
    (buildResponseFrame f.cmd f.payload p).1 = 0 ↔ f.Fits p.tx := by
  constructor
  · intro hret
    by_contra hfull
    rw [buildResponseFrame_full f.cmd f.payload p hlen hfull] at hret
    have hneg : (-1 : Int) = 0 := hret
    omega
  · intro hfit
    rw [buildResponseFrame_fits f.cmd f.payload p hlen hfit]

theorem sendTelemetry_eq (p : SpiProtocol) :
    let built := (buildResponseFrame cmdTelemetry p.device.telemetry p).2
    spiProtocolSendTelemetry p =
      { built with
        stats := { built.stats with telemetrySent := built.stats.telemetrySent + 1 } } := rfl

theorem sendIqChunk_off {p : SpiProtocol} (h : p.device.sdrStreaming = false) (data : List Byte) :
    spiProtocolSendIqChunk data p = p := if_pos h

theorem sendIqChunk_on {p : SpiProtocol} (h : ¬ p.device.sdrStreaming = false)
    (data : List Byte) :
    let built := (buildResponseFrame cmdSdrIqChunk (data.take maxPayload) p).2
    spiProtocolSendIqChunk data p =
      { built with
        stats := { built.stats with iqChunksSent := built.stats.iqChunksSent + 1 } } :=
  if_neg h

/-- An empty ring takes payloads of up to 4075 bytes, and IQ chunks of up to
4075 bytes; what is longer is dropped, although up to 4092 bytes are allowed. -/
theorem empty_ring_admits (p : SpiProtocol) (hempty : p.tx.head = p.tx.tail) :
    (∀ cmd payload, payload.length ≤ maxPayload →
      ((buildResponseFrame cmd payload p).1 = 0 ↔ payload.length ≤ 4075)) ∧
    (p.device.sdrStreaming = true → ∀ data,
      ((spiProtocolSendIqChunk data p).tx.unread =
          encode cmdSdrIqChunk (data.take maxPayload) ↔ data.length ≤ 4075)) := by
  have hmax : maxPayload = 4092 := rfl
  have hused : p.tx.used = 0 := p.tx.used_eq_zero_iff.mpr hempty
  have hunread : p.tx.unread = [] := p.tx.unread_eq_nil_iff.mpr hempty
  have hfits (f : Response) : f.Fits p.tx ↔ f.payload.length ≤ 4075 := by
    unfold Response.Fits
    omega
  constructor
  · intro cmd payload hlen
    exact (buildResponseFrame_ret ⟨cmd, payload⟩ p hlen).trans (hfits ⟨cmd, payload⟩)
  · intro hstreaming data
    have hlen : (data.take maxPayload).length ≤ maxPayload := List.length_take_le ..
    have hlen' : (data.take maxPayload).length ≤ 4075 ↔ data.length ≤ 4075 := by
      rw [List.length_take]
      omega
    have hnow : (spiProtocolSendIqChunk data p).tx =
        (buildResponseFrame cmdSdrIqChunk (data.take maxPayload) p).2.tx := by
      rw [sendIqChunk_on (by rw [hstreaming]; decide)]
    have hsmall := hfits ⟨cmdSdrIqChunk, data.take maxPayload⟩
    rw [hnow, ← hlen', ← hsmall]
    constructor
    · intro hqueued
      by_contra hfull
      rw [buildResponseFrame_full _ _ p hlen hfull] at hqueued
      exact encode_ne_nil _ _ (hqueued.symm.trans hunread)
    · intro hfit
      have hput := (putAll_encode_unread p.tx cmdSdrIqChunk (data.take maxPayload) hfit).1
      rw [hunread, List.nil_append] at hput
      rw [buildResponseFrame_fits _ _ p hlen hfit]
      dsimp only
      exact hput

/-- A handler after reset, streaming and with an empty TX ring. -/
def freshProtocol : SpiProtocol :=
  ⟨RxCtx.zero, ProtoStats.zero, { DeviceState.zero with sdrStreaming := true },
    ⟨fun _ => 0, 0, 0⟩, ⟨0, []⟩, []⟩

theorem empty_ring_admits_fresh :
    (buildResponseFrame cmdSdrIqChunk (List.replicate 4075 0) freshProtocol).1 = 0 := by
  have hlen : (List.replicate 4075 (0 : Byte)).length = 4075 := List.length_replicate
  have hmax : maxPayload = 4092 := rfl
  exact ((empty_ring_admits freshProtocol rfl).1 cmdSdrIqChunk (List.replicate 4075 0)
    (by omega)).mpr (by omega)

/-- A chunk of 4076 bytes is refused by an empty ring. -/
theorem empty_ring_refuses :
    let data : List Byte := List.replicate 4076 0
    data.length ≤ maxPayload ∧ freshProtocol.tx.unread = [] ∧
      (buildResponseFrame cmdSdrIqChunk data freshProtocol).1 = -1 ∧
      (spiProtocolSendIqChunk data freshProtocol).tx.unread = [] := by
  intro data
  have hdata : data.length = 4076 := List.length_replicate
  have hmax : maxPayload = 4092 := rfl
  have hlen : data.length ≤ maxPayload := by omega
  have hunread : freshProtocol.tx.unread = [] := (Ring.unread_eq_nil_iff _).mpr rfl
  have hused : freshProtocol.tx.used = 0 := (Ring.used_eq_zero_iff _).mpr rfl
  have hfull := buildResponseFrame_full cmdSdrIqChunk data freshProtocol hlen (by omega)
  refine ⟨hlen, hunread, by rw [hfull], ?_⟩
  rw [sendIqChunk_on (by decide), List.take_of_length_le hlen, hfull]
  exact hunread

/-! ### The counters over a run -/

/-- Agreement in the TX ring and in the counters of what it was offered. -/
structure SameTx (p q : SpiProtocol) : Prop where
  tx : p.tx = q.tx
  telemetrySent : p.stats.telemetrySent = q.stats.telemetrySent
  iqChunksSent : p.stats.iqChunksSent = q.stats.iqChunksSent
  txOverruns : p.stats.txOverruns = q.stats.txOverruns

theorem SameTx.refl (p : SpiProtocol) : SameTx p p := ⟨rfl, rfl, rfl, rfl⟩

theorem SameTx.trans {p q r : SpiProtocol} (h : SameTx p q) (h' : SameTx q r) : SameTx p r where
  tx := h.tx.trans h'.tx
  telemetrySent := h.telemetrySent.trans h'.telemetrySent
  iqChunksSent := h.iqChunksSent.trans h'.iqChunksSent
  txOverruns := h.txOverruns.trans h'.txOverruns

theorem SameDevices.sameTx {p q : SpiProtocol} (h : SameDevices p q) : SameTx p q where
  tx := h.tx
  telemetrySent := by rw [h.stats]
  iqChunksSent := by rw [h.stats]
  txOverruns := by rw [h.stats]

section

variable (p : SpiProtocol)

/-- No command handler sends anything. -/
theorem handle_sameTx (d : Dispatched) : SameTx (p.handle d) p := by
  unfold SpiProtocol.handle handleCmd
  split_ifs
  · exact ⟨rfl, rfl, rfl, rfl⟩
  · exact ⟨rfl, rfl, rfl, rfl⟩
  · unfold handleCmdSdrStream
    dsimp only
    split_ifs <;> exact ⟨rfl, rfl, rfl, rfl⟩
  · rw [handleCmdAntSelect_eq]
    exact ⟨rfl, rfl, rfl, rfl⟩
  · rw [handleCmdCc1101Cfg_eq]
    exact ⟨rfl, rfl, rfl, rfl⟩
  · unfold handleCmdNfcTransact
    dsimp only
    split_ifs <;> exact ⟨rfl, rfl, rfl, rfl⟩
  · exact .refl p

theorem handleAll_sameTx (ds : List Dispatched) : SameTx (ds.foldl SpiProtocol.handle p) p := by
  induction ds generalizing p with
  | nil => exact .refl p
  | cons d ds ih => exact (ih (p.handle d)).trans (handle_sameTx p d)

theorem rxByte_sameTx (byte : Byte) : SameTx (p.rxByte byte).1 p := by
  obtain ⟨ds, -, hsame⟩ := rxByte_handles p byte
  exact hsame.sameTx.trans (handleAll_sameTx p ds)

/-- The frame a call asks `build_response_frame` for. -/
def SpiProtocol.offers : ProtocolCall → Option Response
  | .sendTelemetry => some ⟨cmdTelemetry, p.device.telemetry⟩
  | .sendIqChunk data =>
      if p.device.sdrStreaming = false then none
      else some ⟨cmdSdrIqChunk, data.take maxPayload⟩
  | .byte _ | .updateTelemetry .. | .setBrownout _ | .tick => none

theorem offers_iqChunk {p : SpiProtocol} (h : ¬ p.device.sdrStreaming = false)
    (data : List Byte) :
    p.offers (.sendIqChunk data) = some ⟨cmdSdrIqChunk, data.take maxPayload⟩ := if_neg h

theorem offers_length {p : SpiProtocol} {c : ProtocolCall} {f : Response}
    (h : p.offers c = some f) : f.payload.length ≤ maxPayload := by
  have hmax : maxPayload = 4092 := rfl
  cases c with
  | sendTelemetry =>
      obtain rfl := Option.some.inj h
      have hlen := telemetry_length p.device
      simp only
      omega
  | sendIqChunk data =>
      unfold SpiProtocol.offers at h
      split_ifs at h
      obtain rfl := Option.some.inj h
      exact List.length_take_le ..
  | byte _ => cases h
  | updateTelemetry _ _ _ _ _ => cases h
  | setBrownout _ => cases h
  | tick => cases h

/-- A call that offers nothing does not touch the ring or its counters. -/
theorem call_quiet {p : SpiProtocol} {c : ProtocolCall} (h : p.offers c = none) :
    SameTx (p.call c) p := by
  cases c with
  | byte byte => exact rxByte_sameTx p byte
  | updateTelemetry _ _ _ _ _ => exact ⟨rfl, rfl, rfl, rfl⟩
  | setBrownout _ => exact ⟨rfl, rfl, rfl, rfl⟩
  | tick => exact ⟨rfl, rfl, rfl, rfl⟩
  | sendTelemetry => cases h
  | sendIqChunk data =>
      unfold SpiProtocol.offers at h
      split_ifs at h with hoff
      have hnone : p.call (.sendIqChunk data) = p := sendIqChunk_off hoff data
      rw [hnone]
      exact .refl p

/-- One if the frame carries the command. -/
def Response.weight (f : Response) (cmd : Byte) : Nat := if f.cmd = cmd then 1 else 0

/-- An offered frame is counted as sent whatever becomes of it. -/
structure CountsSent (p : SpiProtocol) (f : Response) (p' : SpiProtocol) : Prop where
  tx : p'.tx = (buildResponseFrame f.cmd f.payload p).2.tx
  telemetrySent : p'.stats.telemetrySent =
    p.stats.telemetrySent + BitVec.ofNat 32 (f.weight cmdTelemetry)
  iqChunksSent : p'.stats.iqChunksSent =
    p.stats.iqChunksSent + BitVec.ofNat 32 (f.weight cmdSdrIqChunk)
  txOverruns : p'.stats.txOverruns =
    (buildResponseFrame f.cmd f.payload p).2.stats.txOverruns
  known : f.cmd = cmdTelemetry ∨ f.cmd = cmdSdrIqChunk

/-- Building a frame does not count it as sent. -/
theorem buildResponseFrame_sent (cmd : Byte) (payload : List Byte) :
    (buildResponseFrame cmd payload p).2.stats.telemetrySent = p.stats.telemetrySent ∧
      (buildResponseFrame cmd payload p).2.stats.iqChunksSent = p.stats.iqChunksSent := by
  unfold buildResponseFrame
  dsimp only
  split_ifs
  · exact ⟨rfl, rfl⟩
  · exact ⟨rfl, rfl⟩
  · exact ⟨rfl, rfl⟩

theorem countsSent_telemetry (payload : List Byte) :
    let built := (buildResponseFrame cmdTelemetry payload p).2
    CountsSent p ⟨cmdTelemetry, payload⟩
      { built with
        stats := { built.stats with telemetrySent := built.stats.telemetrySent + 1 } } := by
  obtain ⟨hsent, hchunks⟩ := buildResponseFrame_sent p cmdTelemetry payload
  have hother : Response.weight ⟨cmdTelemetry, payload⟩ cmdSdrIqChunk = 0 :=
    if_neg (show cmdTelemetry ≠ cmdSdrIqChunk by decide)
  constructor
  · rfl
  · exact congrArg (· + 1) hsent
  · rw [hother, BitVec.add_zero]
    exact hchunks
  · rfl
  · exact .inl rfl

theorem countsSent_iqChunk (payload : List Byte) :
    let built := (buildResponseFrame cmdSdrIqChunk payload p).2
    CountsSent p ⟨cmdSdrIqChunk, payload⟩
      { built with
        stats := { built.stats with iqChunksSent := built.stats.iqChunksSent + 1 } } := by
  obtain ⟨hsent, hchunks⟩ := buildResponseFrame_sent p cmdSdrIqChunk payload
  have hother : Response.weight ⟨cmdSdrIqChunk, payload⟩ cmdTelemetry = 0 :=
    if_neg (show cmdSdrIqChunk ≠ cmdTelemetry by decide)
  constructor
  · rfl
  · rw [hother, BitVec.add_zero]
    exact hsent
  · exact congrArg (· + 1) hchunks
  · rfl
  · exact .inr rfl

theorem call_offers {p : SpiProtocol} {c : ProtocolCall} {f : Response}
    (h : p.offers c = some f) : CountsSent p f (p.call c) := by
  cases c with
  | sendTelemetry =>
      obtain rfl := Option.some.inj h
      exact countsSent_telemetry p p.device.telemetry
  | sendIqChunk data =>
      unfold SpiProtocol.offers at h
      split_ifs at h with hoff
      obtain rfl := Option.some.inj h
      have hcall : p.call (.sendIqChunk data) = spiProtocolSendIqChunk data p := rfl
      rw [hcall, sendIqChunk_on hoff]
      exact countsSent_iqChunk p (data.take maxPayload)
  | byte _ => cases h
  | updateTelemetry _ _ _ _ _ => cases h
  | setBrownout _ => cases h
  | tick => cases h

end

/-- The protocol handler, the bytes taken out of its TX ring, and the frames
that were placed in it and dropped since `spi_protocol_init`. -/
structure TxHistory where
  proto : SpiProtocol
  consumed : List Byte
  placed : List Response
  dropped : List Response

inductive TxStep where
  | call (c : ProtocolCall)
  | consume

def TxHistory.init (p : SpiProtocol) : TxHistory := ⟨spiProtocolInit p, [], [], []⟩

/-- A frame is placed when `build_response_frame` returns 0. -/
def TxHistory.step (s : TxHistory) : TxStep → TxHistory
  | .call c =>
      let offered := (s.proto.offers c).toList
      let taken (f : Response) : Bool := (buildResponseFrame f.cmd f.payload s.proto).1 = 0
      { s with
        proto := s.proto.call c
        placed := s.placed ++ offered.filter taken
        dropped := s.dropped ++ offered.filter fun f => !taken f }
  | .consume =>
      if s.proto.tx.head = s.proto.tx.tail then s
      else
        { s with
          proto := { s.proto with tx := s.proto.tx.advance }
          consumed := s.consumed ++ [s.proto.tx.cells s.proto.tx.tail] }

/-- How many of the frames carry the command. -/
def countCmd (cmd : Byte) (fs : List Response) : Nat := fs.countP fun f => f.cmd = cmd

/-- The three counters say what has happened. -/
structure TxHistory.Exact (s : TxHistory) : Prop where
  telemetrySent : s.proto.stats.telemetrySent = BitVec.ofNat 32 (countCmd cmdTelemetry s.placed)
  iqChunksSent : s.proto.stats.iqChunksSent = BitVec.ofNat 32 (countCmd cmdSdrIqChunk s.placed)
  txOverruns : s.proto.stats.txOverruns = BitVec.ofNat 32 s.dropped.length

/-- Every frame offered finds room. -/
def TxHistory.Roomy (s : TxHistory) : TxStep → Prop
  | .call c => ∀ f ∈ s.proto.offers c, f.Fits s.proto.tx
  | .consume => True

/-- The ring holds what was placed and not yet taken out, and the counters of
sent frames count dropped frames too. -/
structure TxHistory.Accounts (s : TxHistory) : Prop where
  bytes : s.consumed ++ s.proto.tx.unread = s.placed.flatMap Response.encoding
  telemetrySent : s.proto.stats.telemetrySent =
    BitVec.ofNat 32 (countCmd cmdTelemetry s.placed + countCmd cmdTelemetry s.dropped)
  iqChunksSent : s.proto.stats.iqChunksSent =
    BitVec.ofNat 32 (countCmd cmdSdrIqChunk s.placed + countCmd cmdSdrIqChunk s.dropped)
  txOverruns : s.proto.stats.txOverruns = BitVec.ofNat 32 s.dropped.length
  known : ∀ f ∈ s.dropped, f.cmd = cmdTelemetry ∨ f.cmd = cmdSdrIqChunk

theorem countCmd_snoc (cmd : Byte) (fs : List Response) (f : Response) :
    countCmd cmd (fs ++ [f]) = countCmd cmd fs + f.weight cmd := by
  simp [countCmd, Response.weight, List.countP_append, List.countP_singleton]

theorem TxHistory.step_quiet {s : TxHistory} {c : ProtocolCall} (h : s.proto.offers c = none) :
    s.step (.call c) = { s with proto := s.proto.call c } := by
  simp [TxHistory.step, h]

theorem TxHistory.step_fits {s : TxHistory} {c : ProtocolCall} {f : Response}
    (h : s.proto.offers c = some f) (hfit : f.Fits s.proto.tx) :
    s.step (.call c) = { s with proto := s.proto.call c, placed := s.placed ++ [f] } := by
  have hret := (buildResponseFrame_ret f s.proto (offers_length h)).mpr hfit
  simp [TxHistory.step, h, hret]

theorem TxHistory.step_full {s : TxHistory} {c : ProtocolCall} {f : Response}
    (h : s.proto.offers c = some f) (hfull : ¬ f.Fits s.proto.tx) :
    s.step (.call c) = { s with proto := s.proto.call c, dropped := s.dropped ++ [f] } := by
  have hret := mt (buildResponseFrame_ret f s.proto (offers_length h)).mp hfull
  simp [TxHistory.step, h, hret]

section

variable {s : TxHistory}

theorem TxHistory.Accounts.quiet (h : s.Accounts) {p : SpiProtocol} (hp : SameTx p s.proto) :
    TxHistory.Accounts { s with proto := p } where
  bytes := by
    rw [hp.tx]
    exact h.bytes
  telemetrySent := hp.telemetrySent.trans h.telemetrySent
  iqChunksSent := hp.iqChunksSent.trans h.iqChunksSent
  txOverruns := hp.txOverruns.trans h.txOverruns
  known := h.known

theorem TxHistory.Accounts.place (h : s.Accounts) {c : ProtocolCall} {f : Response}
    (hoffer : s.proto.offers c = some f) (hfit : f.Fits s.proto.tx) :
    TxHistory.Accounts { s with proto := s.proto.call c, placed := s.placed ++ [f] } := by
  have hcount := call_offers hoffer
  have hbuilt := buildResponseFrame_fits f.cmd f.payload s.proto (offers_length hoffer) hfit
  have hunread : (s.proto.call c).tx.unread = s.proto.tx.unread ++ f.encoding := by
    rw [hcount.tx, hbuilt, Response.encoding]
    dsimp only
    exact (putAll_encode_unread s.proto.tx f.cmd f.payload hfit).1
  constructor
  · simp only [hunread, ← List.append_assoc, h.bytes, List.flatMap_append, List.flatMap_singleton]
  · simp only [hcount.telemetrySent, h.telemetrySent, ← BitVec.ofNat_add, countCmd_snoc]
    congr 1
    omega
  · simp only [hcount.iqChunksSent, h.iqChunksSent, ← BitVec.ofNat_add, countCmd_snoc]
    congr 1
    omega
  · simp only [hcount.txOverruns, hbuilt]
    exact h.txOverruns
  · exact h.known

theorem TxHistory.Accounts.drop (h : s.Accounts) {c : ProtocolCall} {f : Response}
    (hoffer : s.proto.offers c = some f) (hfull : ¬ f.Fits s.proto.tx) :
    TxHistory.Accounts { s with proto := s.proto.call c, dropped := s.dropped ++ [f] } := by
  have hcount := call_offers hoffer
  have hbuilt := buildResponseFrame_full f.cmd f.payload s.proto (offers_length hoffer) hfull
  constructor
  · simp only [hcount.tx, hbuilt]
    exact h.bytes
  · simp only [hcount.telemetrySent, h.telemetrySent, ← BitVec.ofNat_add, countCmd_snoc,
      Nat.add_assoc]
  · simp only [hcount.iqChunksSent, h.iqChunksSent, ← BitVec.ofNat_add, countCmd_snoc,
      Nat.add_assoc]
  · simp only [hcount.txOverruns, hbuilt, h.txOverruns, List.length_append, BitVec.ofNat_add]
    rfl
  · intro g hg
    rcases List.mem_append.mp hg with hold | hnew
    · exact h.known g hold
    · rw [List.mem_singleton.mp hnew]
      exact hcount.known

theorem TxHistory.Accounts.step (h : s.Accounts) (e : TxStep) : (s.step e).Accounts := by
  cases e with
  | consume =>
      unfold TxHistory.step
      dsimp only
      split_ifs with hempty
      · exact h
      · constructor
        · have hread := s.proto.tx.unread_cons hempty
          have hbytes := h.bytes
          rw [hread] at hbytes
          simpa using hbytes
        · exact h.telemetrySent
        · exact h.iqChunksSent
        · exact h.txOverruns
        · exact h.known
  | call c =>
      cases hoffer : s.proto.offers c with
      | none =>
          rw [TxHistory.step_quiet hoffer]
          exact h.quiet (call_quiet hoffer)
      | some f =>
          by_cases hfit : f.Fits s.proto.tx
          · rw [TxHistory.step_fits hoffer hfit]
            exact h.place hoffer hfit
          · rw [TxHistory.step_full hoffer hfit]
            exact h.drop hoffer hfit

theorem TxHistory.Accounts.init (p : SpiProtocol) : (TxHistory.init p).Accounts where
  bytes := (Ring.unread_eq_nil_iff _).mpr rfl
  telemetrySent := rfl
  iqChunksSent := rfl
  txOverruns := rfl
  known := by simp [TxHistory.init]

/-- The counters of sent frames are right modulo 2^32 exactly when the dropped
frames of each kind are a multiple of 2^32. -/
theorem TxHistory.Accounts.exact_iff (h : s.Accounts) :
    s.Exact ↔ 2 ^ 32 ∣ countCmd cmdTelemetry s.dropped ∧
      2 ^ 32 ∣ countCmd cmdSdrIqChunk s.dropped := by
  have hdvd (n k : Nat) : BitVec.ofNat 32 (n + k) = BitVec.ofNat 32 n ↔ 2 ^ 32 ∣ k := by
    rw [BitVec.ofNat_add, Nat.dvd_iff_mod_eq_zero]
    constructor
    · intro heq
      have hzero : BitVec.ofNat 32 k = 0#32 := by simpa using heq
      simpa using congrArg BitVec.toNat hzero
    · intro hmod
      have hzero : BitVec.ofNat 32 k = 0#32 := by
        apply BitVec.eq_of_toNat_eq
        simpa using hmod
      rw [hzero, BitVec.add_zero]
  rw [← hdvd (countCmd cmdTelemetry s.placed), ← hdvd (countCmd cmdSdrIqChunk s.placed),
    ← h.telemetrySent, ← h.iqChunksSent]
  constructor
  · exact fun hexact => ⟨hexact.telemetrySent, hexact.iqChunksSent⟩
  · exact fun ⟨htelemetry, hiq⟩ => ⟨htelemetry, hiq, h.txOverruns⟩

/-- A first dropped frame makes a counter wrong. -/
theorem TxHistory.Accounts.roomy (h : s.Accounts) (hnone : s.dropped = []) {e : TxStep}
    (hexact : (s.step e).Exact) : s.Roomy e := by
  cases e with
  | consume => trivial
  | call c =>
      intro f hoffer
      by_contra hfull
      have hnext := h.step (.call c)
      have hdropped : (s.step (.call c)).dropped = [] ++ [f] := by
        rw [TxHistory.step_full hoffer hfull, hnone]
      obtain ⟨htelemetry, hiq⟩ := hnext.exact_iff.mp hexact
      rw [hdropped, countCmd_snoc, countCmd, List.countP_nil, Nat.zero_add,
        Response.weight] at htelemetry hiq
      rcases (call_offers hoffer).known with hcmd | hcmd
      · rw [if_pos hcmd] at htelemetry
        omega
      · rw [if_pos hcmd] at hiq
        omega

theorem TxHistory.step_dropped {e : TxStep} (hroomy : s.Roomy e) :
    (s.step e).dropped = s.dropped := by
  cases e with
  | consume =>
      unfold TxHistory.step
      dsimp only
      split_ifs <;> rfl
  | call c =>
      cases hoffer : s.proto.offers c with
      | none => rw [TxHistory.step_quiet hoffer]
      | some f => rw [TxHistory.step_fits hoffer (hroomy f hoffer)]

end

/-- The bytes of the ring and `tx_overruns` are always right. All three counters
are right after every call exactly when every offered frame finds room. -/
theorem tx_statistics_exact_iff (p : SpiProtocol) (es : List TxStep) :
    let s := run TxHistory.step (TxHistory.init p) es
    (s.consumed ++ s.proto.tx.unread = s.placed.flatMap Response.encoding ∧
      s.proto.stats.txOverruns = BitVec.ofNat 32 s.dropped.length) ∧
    ((∀ us, us <+: es → (run TxHistory.step (TxHistory.init p) us).Exact) ↔
      Along TxHistory.step TxHistory.Roomy (TxHistory.init p) es) := by
  intro s
  constructor
  · have haccounts := run_invariant (I := TxHistory.Accounts) (fun _ e h => h.step e)
      (TxHistory.Accounts.init p) es
    exact ⟨haccounts.bytes, haccounts.txOverruns⟩
  · apply property_iff_along (I := fun s => s.Accounts ∧ s.dropped = [])
    · rintro s ⟨h, hnone⟩
      rw [h.exact_iff, hnone]
      exact ⟨dvd_zero _, dvd_zero _⟩
    · rintro s e ⟨h, hnone⟩ hroomy
      exact ⟨h.step e, (TxHistory.step_dropped hroomy).trans hnone⟩
    · rintro s e ⟨h, hnone⟩ hexact
      exact h.roomy hnone hexact
    · exact ⟨TxHistory.Accounts.init p, rfl⟩

/-- A stream command switches the receiver on; then comes a chunk of the largest
size. -/
def startStreaming : List TxStep := (encode cmdSdrStream [1]).map fun b => .call (.byte b)
def largestChunk : TxStep := .call (.sendIqChunk (List.replicate 4092 0))

/-- The chunk finds no room in the empty ring and is counted as sent. -/
theorem dropped_chunk_counted :
    ¬ (run TxHistory.step (TxHistory.init freshProtocol)
      (startStreaming ++ [largestChunk])).Exact := by
  let s := run TxHistory.step (TxHistory.init freshProtocol) startStreaming
  obtain ⟨hon, hempty, hnone⟩ : s.proto.device.sdrStreaming = true ∧
      s.proto.tx.head = s.proto.tx.tail ∧ s.dropped = [] := by decide +kernel
  have haccounts : s.Accounts := run_invariant (I := TxHistory.Accounts) (fun _ e h => h.step e)
    (TxHistory.Accounts.init freshProtocol) startStreaming
  have hlen : (List.replicate 4092 (0 : Byte)).length = 4092 := List.length_replicate
  intro hexact
  rw [run_append, run_cons, run_nil] at hexact
  have hroomy := haccounts.roomy hnone hexact
  have hoffer := offers_iqChunk (p := s.proto) (by rw [hon]; decide) (List.replicate 4092 0)
  have hfit := hroomy _ hoffer
  have hused := s.proto.tx.used_eq_zero_iff.mpr hempty
  have hmax : maxPayload = 4092 := rfl
  unfold Response.Fits at hfit
  dsimp only at hfit
  rw [List.length_take, hlen, hmax, hused] at hfit
  omega

end GhostBlade.Firmware
