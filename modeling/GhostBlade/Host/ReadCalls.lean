import GhostBlade.Host.Driver
import GhostBlade.Library.Run

/-!
Threads that read through one open file. The emptiness test, the wait, the
locked section and the copy to the user of `apex_bridge_read` are separate
steps, and between them other threads read and payloads arrive. A call whose
locked section finds nothing returns 0, and one whose copy fails has already
taken its bytes out of the FIFO.
-/

namespace GhostBlade.Host

open GhostBlade.Library GhostBlade.Protocol

def erestartsys : Int := 512

structure ReadArgs where
  count : Nat
  nonblock : Bool
  pos : 1 ≤ count

/-- Where a call of `apex_bridge_read` is. Behind the locked section it holds the
bytes it has taken; the FIFO before and behind is remembered for the record. -/
inductive ReadPc where
  | test
  | waiting
  | lock
  | copying (kbuf found left : List Byte)

/-- A call that has returned: its result, the FIFO around its locked section (at
its return, where it has none), and the bytes that reached the user. -/
structure ReadCall where
  ret : Int
  found : List Byte
  left : List Byte
  received : List Byte
deriving DecidableEq

/-- The bytes returned are the oldest ones and have left the FIFO, or the call
has failed and taken nothing. -/
def ReadCall.AllOrNothing (c : ReadCall) : Prop :=
  (1 ≤ c.ret ∧ c.received.length = c.ret ∧ c.found = c.received ++ c.left) ∨
    (c.ret < 0 ∧ c.left = c.found)

structure Readers where
  fifo : Fifo Byte apexRxFifoSize
  reader : Nat → Option (ReadArgs × ReadPc)
  finished : List ReadCall

inductive ReadEvent where
  | produce (payload : List Byte)
  | call (t : Nat) (args : ReadArgs)
  | test (t : Nat)
  /-- The waiting thread is woken up, or gets a signal. -/
  | wake (t : Nat) (signal : Bool)
  | take (t : Nat) (allocOk : Bool)
  /-- The copy to the user gets to the byte `reached`. -/
  | copyOut (t reached : Nat)

namespace Readers

def start (fifo : Fifo Byte apexRxFifoSize) : Readers := ⟨fifo, fun _ => none, []⟩

def goto (s : Readers) (t : Nat) (args : ReadArgs) (pc : ReadPc) : Readers :=
  { s with reader := Function.update s.reader t (some (args, pc)) }

def finish (s : Readers) (t : Nat) (c : ReadCall) : Readers :=
  { s with reader := Function.update s.reader t none, finished := s.finished ++ [c] }

/-- Return without having touched the FIFO. -/
def refuse (s : Readers) (t : Nat) (ret : Int) : Readers :=
  s.finish t ⟨ret, s.fifo.items, s.fifo.items, []⟩

section

variable (s : Readers) (t : Nat) (args : ReadArgs) (pc : ReadPc) (c : ReadCall)

@[simp] theorem goto_fifo : (s.goto t args pc).fifo = s.fifo := rfl

@[simp] theorem goto_finished : (s.goto t args pc).finished = s.finished := rfl

@[simp] theorem goto_reader : (s.goto t args pc).reader t = some (args, pc) :=
  Function.update_self ..

@[simp] theorem finish_fifo : (s.finish t c).fifo = s.fifo := rfl

@[simp] theorem finish_finished : (s.finish t c).finished = s.finished ++ [c] := rfl

@[simp] theorem finish_reader : (s.finish t c).reader t = none := Function.update_self ..

end

/-- The locked section. -/
def takeLocked (s : Readers) (t : Nat) (args : ReadArgs) (allocOk : Bool) : Readers :=
  let toCopy := min args.count s.fifo.items.length
  if toCopy = 0 then s.refuse t 0
  else if allocOk = false then s.refuse t (-enomem)
  else
    { s with fifo := s.fifo.pop toCopy }.goto t args
      (.copying (s.fifo.front toCopy) s.fifo.items (s.fifo.pop toCopy).items)

def step (s : Readers) : ReadEvent → Readers
  | .produce payload => { s with fifo := s.fifo.push payload }
  | .call t args =>
      match s.reader t with
      | none => s.goto t args .test
      | some _ => s
  | .test t =>
      match s.reader t with
      | some (args, .test) =>
          if s.fifo.items = [] then
            if args.nonblock then s.refuse t (-eagain) else s.goto t args .waiting
          else s.goto t args .lock
      | _ => s
  | .wake t signal =>
      match s.reader t with
      | some (args, .waiting) =>
          if s.fifo.items ≠ [] then s.goto t args .lock
          else if signal then s.refuse t (-erestartsys)
          else s
      | _ => s
  | .take t allocOk =>
      match s.reader t with
      | some (args, .lock) => s.takeLocked t args allocOk
      | _ => s
  | .copyOut t reached =>
      match s.reader t with
      | some (_, .copying kbuf found left) =>
          if reached < kbuf.length then s.finish t ⟨-efault, found, left, kbuf.take reached⟩
          else s.finish t ⟨kbuf.length, found, left, kbuf⟩
      | _ => s

/-- A locked section finds something in the FIFO, and a copy to the user
succeeds. -/
def Served (s : Readers) : ReadEvent → Prop
  | .take t _ => ∀ args, s.reader t = some (args, .lock) → s.fifo.items ≠ []
  | .copyOut t reached => ∀ args kbuf found left,
      s.reader t = some (args, .copying kbuf found left) → kbuf.length ≤ reached
  | .produce _ | .call .. | .test _ | .wake .. => True

/-- What a call can hold when it is here. -/
def PcOk : ReadPc → Prop
  | .copying kbuf found left => kbuf ≠ [] ∧ found = kbuf ++ left
  | .test | .waiting | .lock => True

/-- All calls that have returned are all or nothing, and those behind their
locked section hold the oldest bytes. -/
structure Sound (s : Readers) : Prop where
  finished : ∀ c ∈ s.finished, c.AllOrNothing
  held : ∀ t args pc, s.reader t = some (args, pc) → PcOk pc

variable {s : Readers}

theorem sound_start (fifo : Fifo Byte apexRxFifoSize) : (start fifo).Sound where
  finished := by simp [start]
  held := by simp [start]

theorem Sound.of_fifo (h : s.Sound) (fifo : Fifo Byte apexRxFifoSize) :
    { s with fifo := fifo }.Sound :=
  ⟨h.finished, h.held⟩

theorem Sound.held_update (h : s.Sound) (t : Nat) {r : Option (ReadArgs × ReadPc)}
    (hr : ∀ args pc, r = some (args, pc) → PcOk pc) (t' : Nat) (args : ReadArgs) (pc : ReadPc)
    (hreader : Function.update s.reader t r t' = some (args, pc)) : PcOk pc := by
  by_cases ht : t' = t
  · subst ht
    rw [Function.update_self] at hreader
    exact hr args pc hreader
  · rw [Function.update_of_ne ht] at hreader
    exact h.held t' args pc hreader

theorem Sound.goto (h : s.Sound) (t : Nat) (args : ReadArgs) {pc : ReadPc} (hpc : PcOk pc) :
    (s.goto t args pc).Sound where
  finished := h.finished
  held := by
    apply h.held_update t
    intro args' pc' heq
    cases heq
    exact hpc

theorem Sound.finish (h : s.Sound) (t : Nat) {c : ReadCall} (hc : c.AllOrNothing) :
    (s.finish t c).Sound where
  finished := by
    intro c' hmem
    rcases List.mem_append.mp hmem with hold | hnew
    · exact h.finished c' hold
    · rw [List.mem_singleton.mp hnew]
      exact hc
  held := by
    apply h.held_update t
    intro args pc heq
    cases heq

theorem Sound.refuse (h : s.Sound) (t : Nat) {ret : Int} (hret : ret < 0) :
    (s.refuse t ret).Sound :=
  h.finish t (.inr ⟨hret, rfl⟩)

/-- A locked section that finds something takes the oldest bytes, or nothing. -/
theorem Sound.takeLocked (h : s.Sound) (t : Nat) (args : ReadArgs) (allocOk : Bool)
    (hitems : s.fifo.items ≠ []) : (s.takeLocked t args allocOk).Sound := by
  have hpos : 0 < s.fifo.items.length := List.length_pos_of_ne_nil hitems
  have hcount := args.pos
  have hsome : min args.count s.fifo.items.length ≠ 0 := by omega
  unfold Readers.takeLocked
  dsimp only
  rw [if_neg hsome]
  split
  · exact h.refuse t (by decide)
  · apply (h.of_fifo _).goto
    refine ⟨?_, (s.fifo.front_append_pop _).symm⟩
    have hlen : (s.fifo.front (min args.count s.fifo.items.length)).length ≠ 0 := by
      unfold Fifo.front
      rw [List.length_take]
      omega
    exact fun hnil => hlen (by rw [hnil]; rfl)

theorem Sound.step (h : s.Sound) (e : ReadEvent) (he : s.Served e) : (s.step e).Sound := by
  cases e with
  | produce payload => exact h.of_fifo _
  | call t args =>
      unfold Readers.step
      dsimp only
      split
      · exact h.goto t args trivial
      · exact h
  | test t =>
      unfold Readers.step
      dsimp only
      split
      next args _ =>
        split
        · split
          · exact h.refuse t (by decide)
          · exact h.goto t args trivial
        · exact h.goto t args trivial
      · exact h
  | wake t signal =>
      unfold Readers.step
      dsimp only
      split
      next args _ =>
        split
        · exact h.goto t args trivial
        split
        · exact h.refuse t (by decide)
        · exact h
      · exact h
  | take t allocOk =>
      unfold Readers.step
      dsimp only
      split
      next args hlock => exact h.takeLocked t args allocOk (he args hlock)
      · exact h
  | copyOut t reached =>
      unfold Readers.step
      dsimp only
      split
      next args kbuf found left hcopying =>
        obtain ⟨hne, hfound⟩ := h.held t args _ hcopying
        have hpos : 0 < kbuf.length := List.length_pos_of_ne_nil hne
        have hreached := he args kbuf found left hcopying
        rw [if_neg (by omega)]
        exact h.finish t (.inl ⟨by show (1 : Int) ≤ kbuf.length; omega, rfl, hfound⟩)
      · exact h

/-- A locked section that finds nothing and a copy that fails finish a call that
is neither all nor nothing. -/
theorem Sound.broken (h : s.Sound) (e : ReadEvent)
    (hnext : ∀ c ∈ (s.step e).finished, c.AllOrNothing) : s.Served e := by
  cases e with
  | produce _ => trivial
  | call _ _ => trivial
  | test _ => trivial
  | wake _ _ => trivial
  | take t allocOk =>
      intro args hlock hempty
      have hstep : s.step (.take t allocOk) = s.refuse t 0 := by
        simp only [Readers.step, hlock, Readers.takeLocked, hempty, List.length_nil,
          Nat.min_zero, if_true]
      rw [hstep] at hnext
      rcases hnext _ (List.mem_append_right _ (List.mem_singleton_self _)) with
        ⟨hret, _⟩ | ⟨hret, _⟩
      · exact absurd hret (show ¬ 1 ≤ (0 : Int) by decide)
      · exact absurd hret (show ¬ (0 : Int) < 0 by decide)
  | copyOut t reached =>
      intro args kbuf found left hcopying
      by_contra hshort
      obtain ⟨hne, hfound⟩ := h.held t args _ hcopying
      have hstep : s.step (.copyOut t reached) =
          s.finish t ⟨-efault, found, left, kbuf.take reached⟩ := by
        simp only [Readers.step, hcopying, if_pos (show reached < kbuf.length by omega)]
      rw [hstep] at hnext
      rcases hnext _ (List.mem_append_right _ (List.mem_singleton_self _)) with
        ⟨hret, _⟩ | ⟨_, hleft⟩
      · exact absurd hret (show ¬ 1 ≤ -efault by decide)
      · have hleft' : left = kbuf ++ left := hleft.trans hfound
        exact hne (List.self_eq_append_left.mp hleft')

end Readers

/-- A thread that reads alone does what `apexBridgeRead` says; when it has to wait,
only a signal wakes it. -/
theorem read_alone {s : Readers} {t : Nat} (args : ReadArgs) (env : Env) {dev : Dev}
    (hfifo : s.fifo = dev.rxFifo) (hidle : s.reader t = none) :
    let s' := run Readers.step s [.call t args, .test t, .wake t true, .take t (env.allocOk 0),
      .copyOut t (if env.userCopy 0 then args.count else 0)]
    let r := apexBridgeRead (dev.rxFifo.items = []) args.nonblock (-erestartsys) args.count env dev
    s'.fifo = r.dev.rxFifo ∧ s'.reader t = none ∧
      ∃ c, s'.finished = s.finished ++ [c] ∧ c.ret = r.ret ∧ c.received = r.out := by
  intro s' r
  by_cases hempty : dev.rxFifo.items = []
  · cases hblock : args.nonblock with
    | true =>
        simp [s', r, Readers.step, Readers.refuse, hidle, hfifo, hempty, hblock, apexBridgeRead,
          Result.done]
    | false =>
        simp [s', r, Readers.step, Readers.refuse, hidle, hfifo, hempty, hblock, apexBridgeRead,
          Result.done, erestartsys]
  · have hpos : 0 < dev.rxFifo.items.length := List.length_pos_of_ne_nil hempty
    have hcount : 0 < args.count := args.pos
    have hsome : min args.count dev.rxFifo.items.length ≠ 0 := by omega
    cases halloc : env.allocOk 0 with
    | false =>
        simp [s', r, Readers.step, Readers.takeLocked, Readers.refuse, hidle, hfifo, hempty,
          apexBridgeRead, Result.done, Env.kmalloc, halloc, hsome]
    | true =>
        cases hcopy : env.userCopy 0 with
        | true =>
            simp [s', r, Readers.step, Readers.takeLocked, hidle, hfifo, hempty, apexBridgeRead,
              Env.kmalloc, halloc, hsome, hcopy, Fifo.front]
        | false =>
            simp [s', r, Readers.step, Readers.takeLocked, hidle, hfifo, hempty, apexBridgeRead,
              Result.done, Env.kmalloc, halloc, hsome, hcopy, Fifo.front, hpos, hcount]

/-- With any number of readers, whatever the FIFO holds at first: all calls that
return are all or nothing exactly when every locked section finds something and
every copy to the user succeeds. -/
theorem reads_all_or_nothing_iff (fifo : Fifo Byte apexRxFifoSize) (es : List ReadEvent) :
    (∀ us, us <+: es → ∀ c ∈ (run Readers.step (.start fifo) us).finished, c.AllOrNothing) ↔
      Along Readers.step Readers.Served (.start fifo) es :=
  property_iff_along (I := Readers.Sound) (fun _ h => h.finished) (fun _ e h he => h.step e he)
    (fun _ e h hnext => h.broken e hnext) (Readers.sound_start fifo) es

def readArgs : ReadArgs := ⟨4, false, by decide⟩

/-- Two threads see the one byte there is: the slower one gets 0, which is the end
of the file. A call with a bad buffer throws the byte away. -/
theorem competing_read_returns_zero :
    let fifo : Fifo Byte apexRxFifoSize := ⟨[7], by decide⟩
    (run Readers.step (.start fifo) [.call 0 readArgs, .call 1 readArgs, .test 0, .test 1,
        .take 0 true, .take 1 true]).finished = [⟨0, [], [], []⟩] ∧
      (run Readers.step (.start fifo) [.call 0 readArgs, .test 0, .take 0 true,
        .copyOut 0 0]).finished = [⟨-efault, [7], [], []⟩] ∧
      ¬ ReadCall.AllOrNothing ⟨0, [], [], []⟩ ∧
      ¬ ReadCall.AllOrNothing ⟨-efault, [7], [], []⟩ := by
  refine ⟨by decide, by decide, ?_, ?_⟩
  · simp [ReadCall.AllOrNothing]
  · simp [ReadCall.AllOrNothing, efault]

end GhostBlade.Host
