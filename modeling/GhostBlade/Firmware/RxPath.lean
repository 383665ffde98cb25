import GhostBlade.Firmware.MainLoop
import GhostBlade.Firmware.SpiProtocolScan

/-!
The fallback receive path in time: the weak `spi0_handler` stores bytes while
`spi_protocol_process` takes them, and an interrupt may come between any two
passes through the loop of the latter. `RxPath` adds to the firmware where the
main loop is in a call, and keeps account of what the calls have returned, of
the bytes they have taken from the ring and of the headers they have rejected.
-/

namespace GhostBlade.Firmware

open GhostBlade.Library GhostBlade.Library.Framing GhostBlade.Protocol

/-- `frames` is `frames_processed` while a call is in progress. -/
structure RxPath where
  fw : Mcu
  frames : Option Nat
  returned : List Nat
  taken : List Byte
  rejected : Nat

inductive RxEvent where
  | interrupt (rxFifo : List Byte)
  | proceed

def RxPath.start (fw : Mcu) : RxPath := ⟨fw, none, [], [], 0⟩

/-- Only a complete header that is thrown away leads from header to idle. -/
def headersRejected (before after : RxState) : Nat :=
  if before = .header ∧ after = .idle then 1 else 0

/-- The loop condition of `spi_protocol_process` and, if it holds, one pass
through the body. -/
def RxPath.pass (s : RxPath) (frames : Nat) : RxPath :=
  if s.fw.spiRx.head = s.fw.spiRx.tail then
    { s with frames := none, returned := s.returned ++ [frames] }
  else
    let byte := s.fw.spiRx.cells s.fw.spiRx.tail
    let (p, done) := s.fw.proto.rxByte byte
    { fw := { s.fw with proto := p, spiRx := s.fw.spiRx.advance }
      frames := some (frames + done)
      returned := s.returned
      taken := s.taken ++ [byte]
      rejected := s.rejected + headersRejected s.fw.proto.rx.state p.rx.state }

/-- `proceed` calls `spi_protocol_process` or takes its loop one pass on. -/
def RxPath.step (s : RxPath) : RxEvent → RxPath
  | .interrupt rxFifo => { s with fw := weakSpi0Handler rxFifo s.fw }
  | .proceed =>
      match s.frames with
      | none => { s with frames := some 0 }
      | some frames => s.pass frames

/-- The bytes that arrive on the bus. -/
def arrivals (es : List RxEvent) : List Byte :=
  es.flatMap fun
    | .interrupt rxFifo => rxFifo
    | .proceed => []

/-- What an interrupt finds fits into the ring. -/
def RxPath.Room (s : RxPath) : RxEvent → Prop
  | .interrupt rxFifo => s.fw.spiRx.used + rxFifo.length < 8192
  | .proceed => True

instance RxPath.room_decidable (s : RxPath) (e : RxEvent) : Decidable (s.Room e) :=
  match e with
  | .interrupt rxFifo => inferInstanceAs (Decidable (s.fw.spiRx.used + rxFifo.length < 8192))
  | .proceed => inferInstanceAs (Decidable True)

theorem weakSpi0Handler_proto (rxFifo : List Byte) (fw : Mcu) :
    (weakSpi0Handler rxFifo fw).proto = fw.proto := by
  induction rxFifo generalizing fw with
  | nil => rfl
  | cons b rxFifo ih =>
      refine (ih (storeRxByte fw b)).trans ?_
      rw [storeRxByte]
      split
      · rfl
      · rfl

/-- Without an overflow the handler appends what it reads. -/
theorem weakSpi0Handler_unread (rxFifo : List Byte) (fw : Mcu)
    (hroom : fw.spiRx.used + rxFifo.length < 8192) :
    (weakSpi0Handler rxFifo fw).spiRx.unread = fw.spiRx.unread ++ rxFifo ∧
      (weakSpi0Handler rxFifo fw).spiRxOverrun = fw.spiRxOverrun := by
  induction rxFifo generalizing fw with
  | nil => exact ⟨(List.append_nil _).symm, rfl⟩
  | cons b rxFifo ih =>
      rw [List.length_cons] at hroom
      obtain ⟨hstore, hput⟩ := storeRxByte_unread fw b (by omega)
      have hused : (fw.spiRx.put b).used = fw.spiRx.used + 1 :=
        fw.spiRx.put_used b (by omega)
      have hrest := ih { fw with spiRx := fw.spiRx.put b } (by
        change (fw.spiRx.put b).used + rxFifo.length < 8192
        omega)
      have hfold : weakSpi0Handler (b :: rxFifo) fw =
          weakSpi0Handler rxFifo { fw with spiRx := fw.spiRx.put b } :=
        congrArg (weakSpi0Handler rxFifo) hstore
      rw [hfold]
      refine ⟨hrest.1.trans ?_, hrest.2⟩
      rw [hput, List.append_assoc]
      rfl

/-- A pass with something to read: the byte at the tail goes to the handler. -/
def RxPath.takeByte (s : RxPath) (frames : Nat) : RxPath :=
  let next := s.fw.proto.rxByte (s.fw.spiRx.cells s.fw.spiRx.tail)
  { fw := { s.fw with proto := next.1, spiRx := s.fw.spiRx.advance }
    frames := some (frames + next.2)
    returned := s.returned
    taken := s.taken ++ [s.fw.spiRx.cells s.fw.spiRx.tail]
    rejected := s.rejected + headersRejected s.fw.proto.rx.state next.1.rx.state }

/-- All a step can be: an interrupt, the begin or end of a call, or a byte. -/
theorem RxPath.step_cases (s : RxPath) (e : RxEvent) :
    (∃ rxFifo, e = .interrupt rxFifo ∧
      s.step e = { s with fw := weakSpi0Handler rxFifo s.fw }) ∨
    (e = .proceed ∧ s.frames = none ∧ s.step e = { s with frames := some 0 }) ∨
    (∃ frames, e = .proceed ∧ s.frames = some frames ∧ s.fw.spiRx.head = s.fw.spiRx.tail ∧
      s.step e = { s with frames := none, returned := s.returned ++ [frames] }) ∨
    (∃ frames, e = .proceed ∧ s.frames = some frames ∧ s.fw.spiRx.head ≠ s.fw.spiRx.tail ∧
      s.step e = s.takeByte frames) := by
  cases e with
  | interrupt rxFifo => exact .inl ⟨rxFifo, rfl, rfl⟩
  | proceed =>
      cases hf : s.frames with
      | none => exact .inr (.inl ⟨rfl, rfl, by simp only [RxPath.step, hf]⟩)
      | some frames =>
          have hstep : s.step .proceed = s.pass frames := by
            simp only [RxPath.step, hf]
          by_cases hempty : s.fw.spiRx.head = s.fw.spiRx.tail
          · refine .inr (.inr (.inl ⟨frames, rfl, rfl, hempty, hstep.trans ?_⟩))
            exact if_pos hempty
          · refine .inr (.inr (.inr ⟨frames, rfl, rfl, hempty, hstep.trans ?_⟩))
            exact if_neg hempty

/-- What has been taken from the ring and what is left in it make up what was
in it at first and what has arrived; the handler has seen what has been taken. -/
structure RxPath.Accounts (fw : Mcu) (arrived : List Byte) (s : RxPath) : Prop where
  proto : s.fw.proto = fw.proto.feed s.taken
  bytes : s.taken ++ s.fw.spiRx.unread = fw.spiRx.unread ++ arrived

theorem RxPath.Accounts.start (fw : Mcu) : (RxPath.start fw).Accounts fw [] where
  proto := rfl
  bytes := (List.append_nil _).symm

theorem RxPath.Accounts.step {fw : Mcu} {arrived : List Byte} {s : RxPath}
    (h : s.Accounts fw arrived) (e : RxEvent) (hroom : s.Room e) :
    (s.step e).Accounts fw (arrived ++ arrivals [e]) := by
  have hnone (he : e = .proceed) : arrived ++ arrivals [e] = arrived := by
    rw [he]
    exact List.append_nil _
  rcases s.step_cases e with ⟨rxFifo, he, hstep⟩ | ⟨he, -, hstep⟩ | ⟨frames, he, -, -, hstep⟩ |
    ⟨frames, he, -, hne, hstep⟩
  · subst he
    have hunread := (weakSpi0Handler_unread rxFifo s.fw hroom).1
    rw [hstep]
    refine ⟨(weakSpi0Handler_proto rxFifo s.fw).trans h.proto, ?_⟩
    change s.taken ++ (weakSpi0Handler rxFifo s.fw).spiRx.unread = _
    rw [hunread, ← List.append_assoc, h.bytes, List.append_assoc]
    simp [arrivals]
  · rw [hstep, hnone he]
    exact ⟨h.proto, h.bytes⟩
  · rw [hstep, hnone he]
    exact ⟨h.proto, h.bytes⟩
  · rw [hstep, hnone he]
    refine ⟨?_, ?_⟩
    · change (s.fw.proto.rxByte _).1 = fw.proto.feed (s.taken ++ [_])
      rw [feed_append, ← h.proto]
      rfl
    · rw [← h.bytes, s.fw.spiRx.unread_cons hne]
      exact List.append_assoc ..

theorem RxPath.run_accounts (fw : Mcu) (es : List RxEvent)
    (hroom : Along RxPath.step RxPath.Room (RxPath.start fw) es) :
    (run RxPath.step (RxPath.start fw) es).Accounts fw (arrivals es) := by
  have general (es : List RxEvent) (s : RxPath) (arrived : List Byte)
      (h : s.Accounts fw arrived) (hes : Along RxPath.step RxPath.Room s es) :
      (run RxPath.step s es).Accounts fw (arrived ++ arrivals es) := by
    induction es generalizing s arrived with
    | nil =>
        rw [arrivals, List.flatMap_nil, List.append_nil]
        exact h
    | cons e es ih =>
        have hrest := ih (s.step e) _ (h.step e hes.1) hes.2
        rw [List.append_assoc] at hrest
        have hcons : arrivals [e] ++ arrivals es = arrivals (e :: es) := by
          simp [arrivals]
        rwa [hcons] at hrest
  exact general es _ [] (RxPath.Accounts.start fw) hroom

/-- With nothing arriving in between, a call is the one of the main loop. -/
theorem RxPath.process_run (s : RxPath) (hidle : s.frames = none) :
    let s' := run RxPath.step s (List.replicate (s.fw.spiRx.used + 2) .proceed)
    let result := spiProtocolProcess s.fw.proto s.fw.spiRx
    s'.fw = { s.fw with proto := result.1, spiRx := result.2.1 } ∧ s'.frames = none ∧
      s'.returned = s.returned ++ [result.2.2] := by
  have loop (fuel : Nat) (s : RxPath) (frames : Nat) (hf : s.frames = some frames)
      (hfuel : fuel = s.fw.spiRx.used) :
      let s' := run RxPath.step s (List.replicate (fuel + 1) .proceed)
      let result := drain fuel s.fw.proto s.fw.spiRx frames
      s'.fw = { s.fw with proto := result.1, spiRx := result.2.1 } ∧ s'.frames = none ∧
        s'.returned = s.returned ++ [result.2.2] := by
    induction fuel generalizing s frames with
    | zero =>
        have hempty := s.fw.spiRx.used_eq_zero_iff.mp hfuel.symm
        simp [RxPath.step, hf, RxPath.pass, hempty, drain]
    | succ fuel ih =>
        have hne : s.fw.spiRx.head ≠ s.fw.spiRx.tail := by
          intro heq
          have hzero := s.fw.spiRx.used_eq_zero_iff.mpr heq
          omega
        have hused := s.fw.spiRx.advance_used hne
        have hstep : s.step .proceed = s.takeByte frames := by
          simp only [RxPath.step, hf]
          exact if_neg hne
        have hrest := ih (s.takeByte frames) _ rfl (by
          change fuel = s.fw.spiRx.advance.used
          omega)
        rw [List.replicate_succ, run_cons, hstep, drain, if_neg hne]
        exact hrest
  have hcall : s.step .proceed = { s with frames := some 0 } := by
    simp only [RxPath.step, hidle]
  rw [List.replicate_succ, run_cons, hcall]
  exact loop s.fw.spiRx.used { s with frames := some 0 } 0 rfl rfl

/-- The schedule on which each call takes the given bytes, each as it arrives. -/
def callsTaking (calls : List (List Byte)) : List RxEvent :=
  calls.flatMap fun w =>
    .proceed :: (w.flatMap fun b => [.interrupt [b], .proceed]) ++ [.proceed]

theorem RxPath.byte_taken (s : RxPath) (b : Byte) (hcall : s.frames.isSome)
    (hempty : s.fw.spiRx.unread = []) :
    let s' := run RxPath.step s [.interrupt [b], .proceed]
    s'.taken = s.taken ++ [b] ∧ s'.returned = s.returned ∧ s'.frames.isSome ∧
      s'.fw.spiRx.unread = [] := by
  obtain ⟨frames, hf⟩ := Option.isSome_iff_exists.mp hcall
  have hused : s.fw.spiRx.used = 0 := by rw [← Ring.unread_length, hempty, List.length_nil]
  have hroom : s.fw.spiRx.used + [b].length < 8192 := by
    rw [hused, List.length_singleton]
    omega
  obtain ⟨hunread, -⟩ := weakSpi0Handler_unread [b] s.fw hroom
  rw [hempty, List.nil_append] at hunread
  let arrived : RxPath := { s with fw := weakSpi0Handler [b] s.fw }
  have hne : arrived.fw.spiRx.head ≠ arrived.fw.spiRx.tail := by
    intro heq
    have hnil := (Ring.unread_eq_nil_iff _).mpr heq
    exact List.cons_ne_nil b [] (hunread.symm.trans hnil)
  have hcons := arrived.fw.spiRx.unread_cons hne
  obtain ⟨htail, hrest⟩ := List.cons_eq_cons.mp (hunread.symm.trans hcons)
  have hstep : arrived.step .proceed = arrived.takeByte frames := by
    simp only [RxPath.step, arrived, hf]
    exact if_neg hne
  change (arrived.step .proceed).taken = _ ∧ (arrived.step .proceed).returned = _ ∧
    (arrived.step .proceed).frames.isSome ∧ (arrived.step .proceed).fw.spiRx.unread = []
  rw [hstep]
  exact ⟨congrArg (fun x => s.taken ++ [x]) htail.symm, rfl, rfl, hrest.symm⟩

theorem RxPath.bytes_taken (s : RxPath) (w : List Byte) (hcall : s.frames.isSome)
    (hempty : s.fw.spiRx.unread = []) :
    let s' := run RxPath.step s (w.flatMap fun b => [.interrupt [b], .proceed])
    s'.taken = s.taken ++ w ∧ s'.returned = s.returned ∧ s'.frames.isSome ∧
      s'.fw.spiRx.unread = [] := by
  induction w generalizing s with
  | nil => exact ⟨(List.append_nil _).symm, rfl, hcall, hempty⟩
  | cons b w ih =>
      obtain ⟨htaken, hreturned, hcall', hempty'⟩ := s.byte_taken b hcall hempty
      obtain ⟨htaken', hreturned', hrest⟩ := ih _ hcall' hempty'
      rw [List.flatMap_cons, run_append]
      refine ⟨htaken'.trans ?_, hreturned'.trans hreturned, hrest⟩
      rw [htaken, List.append_assoc]
      rfl

/-- Every word is taken on some schedule, however it is divided into calls. -/
theorem RxPath.calls_taken (s : RxPath) (calls : List (List Byte)) (hidle : s.frames = none)
    (hempty : s.fw.spiRx.unread = []) :
    let s' := run RxPath.step s (callsTaking calls)
    s'.taken = s.taken ++ calls.flatten ∧
      s'.returned.length = s.returned.length + calls.length ∧ s'.frames = none := by
  induction calls generalizing s with
  | nil => exact ⟨(List.append_nil _).symm, rfl, hidle⟩
  | cons w calls ih =>
      have hcalled : s.step .proceed = { s with frames := some 0 } := by
        simp only [RxPath.step, hidle]
      obtain ⟨htaken, hreturned, hcall, hempty'⟩ :=
        RxPath.bytes_taken { s with frames := some 0 } w rfl hempty
      generalize hloop : run RxPath.step { s with frames := some 0 }
        (w.flatMap fun b => [.interrupt [b], .proceed]) = loop at htaken hreturned hcall hempty'
      obtain ⟨frames, hf⟩ := Option.isSome_iff_exists.mp hcall
      have hdone : loop.step .proceed =
          { loop with frames := none, returned := loop.returned ++ [frames] } := by
        simp only [RxPath.step, hf]
        exact if_pos ((Ring.unread_eq_nil_iff _).mp hempty')
      have hrun : run RxPath.step s (callsTaking (w :: calls)) =
          run RxPath.step (loop.step .proceed) (callsTaking calls) := by
        rw [callsTaking, List.flatMap_cons, run_append, run_append]
        change run RxPath.step ((run RxPath.step (s.step .proceed) _).step .proceed) _ = _
        rw [hcalled, hloop]
        rfl
      obtain ⟨htaken', hreturned', hidle'⟩ := ih (loop.step .proceed) (by rw [hdone])
        (by rw [hdone]; exact hempty')
      rw [hdone] at htaken' hreturned'
      rw [hrun]
      refine ⟨?_, ?_, hidle'⟩
      · rw [hdone, htaken', htaken, List.flatten_cons, List.append_assoc]
      · rw [hdone, hreturned', hreturned]
        simp only [List.length_append, List.length_cons, List.length_nil]
        omega

/-- Two schedules that deliver the same bytes without an overflow and have
drained them lead to the same dispatch log, parser state, counters and device
calls. -/
theorem delivery_timing (fw : Mcu) (es fs : List RxEvent)
    (hsame : arrivals es = arrivals fs)
    (hes : Along RxPath.step RxPath.Room (RxPath.start fw) es)
    (hfs : Along RxPath.step RxPath.Room (RxPath.start fw) fs)
    (hdrained : (run RxPath.step (RxPath.start fw) es).fw.spiRx.unread = [])
    (hdrained' : (run RxPath.step (RxPath.start fw) fs).fw.spiRx.unread = []) :
    (run RxPath.step (RxPath.start fw) es).fw.proto =
      (run RxPath.step (RxPath.start fw) fs).fw.proto := by
  have h := RxPath.run_accounts fw es hes
  have h' := RxPath.run_accounts fw fs hfs
  have hbytes := h.bytes
  have hbytes' := h'.bytes
  rw [hdrained, List.append_nil] at hbytes
  rw [hdrained', List.append_nil] at hbytes'
  rw [h.proto, h'.proto, hbytes, hbytes', hsame]

/-- The start of a frame in one interrupt, and cut behind the sync byte while a
call is already running. -/
theorem delivery_timing_header :
    (run RxPath.step (RxPath.start (boot true true true))
      [.interrupt [syncByte, cmdAntSelect, 1], .proceed, .proceed, .proceed,
        .proceed]).fw.proto =
    (run RxPath.step (RxPath.start (boot true true true))
      [.proceed, .interrupt [syncByte], .proceed, .interrupt [cmdAntSelect, 1], .proceed,
        .proceed]).fw.proto := by
  apply delivery_timing
  · rfl
  · decide +kernel
  · decide +kernel
  · apply (Ring.unread_eq_nil_iff _).mpr
    rfl
  · apply (Ring.unread_eq_nil_iff _).mpr
    rfl

end GhostBlade.Firmware
