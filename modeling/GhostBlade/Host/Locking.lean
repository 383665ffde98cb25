import GhostBlade.Host.KernelCalls
import GhostBlade.Library.LockOrder

/-!
The locking of the driver. Its locks are taken in one order, nothing that may sleep
is done under a spin lock, the RX FIFO is changed under its lock only, and every way
out of an operation gives back what it has taken. So whatever runs at the same time,
somebody can always go on. The cached telemetry, the flags and the engine are not so
well kept: the release wipes the first, and the worker changes the last, without a lock.
-/

namespace GhostBlade.Host

open GhostBlade.Library GhostBlade.Protocol

inductive KernelResource where
  | buffer (k : Nat)
  /-- A reference that keeps the device from suspending. -/
  | pmRef
deriving DecidableEq

def BridgeLock.rank : BridgeLock → Nat
  | .mmapLock => 0
  | .sgLock => 1
  | .sgWork => 2
  | .rxWork => 3
  | .busLock => 4
  | .rxLock => 5
  | .txLock => 6

/-- Nobody sleeps while it is taken. -/
def BridgeLock.spins : BridgeLock → Bool
  | .rxLock | .txLock => true
  | .mmapLock | .sgLock | .sgWork | .rxWork | .busLock => false

/-- The call may put its thread to sleep. All locks but the spin locks do. -/
def KernelCall.sleeps : KernelCall → Bool
  | .lock l => !l.spins
  | .kmalloc _ _ atomic => !atomic
  | .copyUser _ | .pmGet | .pmPut | .spiSync _ | .waitRx | .msleep | .engineAlloc _ | .waitDma
  | .dmaMmap => true
  | .unlock _ | .kfree _ | .accessOk | .fifoIsEmpty | .wakeRx | .cmpxchgOpen | .load _ | .store ..
  | .engineFree | .scheduleSgWork | .scheduleRxWork | .bufInUse | .spiAsync => false

/-- The lock that the call names for its access to the device structure. -/
def KernelCall.guard : KernelCall → Option BridgeLock
  | .load l | .store l _ => l
  | _ => none

/-- The call puts something into the RX FIFO or takes something out of it. -/
def KernelCall.ChangesFifo : KernelCall → Prop
  | .store _ change => ∃ dev, (change dev).rxFifo ≠ dev.rxFifo
  | _ => False

def KernelCall.use : KernelCall → LockUse BridgeLock KernelResource
  | .lock l => .lock l
  | .unlock l => .unlock l
  | .kmalloc k _ _ => .acquire (.buffer k)
  | .kfree k => .release (.buffer k)
  | .pmGet => .acquire .pmRef
  | .pmPut => .release .pmRef
  | _ => .plain

open Classical in
/-- What the calls name as their guard they have, and a change of the RX FIFO has its lock
whatever it names. -/
noncomputable def bridgeDiscipline :
    LockDiscipline KernelCall KernelCall.Answer BridgeLock KernelResource where
  use := KernelCall.use
  granted op x :=
    match op, x with
    | .kmalloc .., x => Option.isSome x
    | _, _ => true
  rank := BridgeLock.rank
  allowed locks op :=
    (op.sleeps → ∀ l ∈ locks, l.spins = false) ∧ (∀ l, op.guard = some l → l ∈ locks) ∧
      (op.ChangesFifo → .rxLock ∈ locks)

/-- From these holdings the calls keep the discipline and end with what `Q` says. -/
def Keeps {α : Type} (h : Holdings BridgeLock KernelResource) (p : KernelProg α)
    (Q : α → Holdings BridgeLock KernelResource → Prop) : Prop := bridgeDiscipline.Keeps h p Q

/-- The calls give back what they take. -/
def Restores {α : Type} (h : Holdings BridgeLock KernelResource) (p : KernelProg α) : Prop :=
  Keeps h p fun _ h' => h' = h

/-- A lock of this rank may be taken. -/
def Below (n : Nat) (h : Holdings BridgeLock KernelResource) : Prop := ∀ l ∈ h.locks, l.rank < n

/-- No spin lock is taken. -/
def MaySleep (h : Holdings BridgeLock KernelResource) : Prop := ∀ l ∈ h.locks, l.spins = false

variable {h : Holdings BridgeLock KernelResource}

theorem Below.may_sleep {n : Nat} (hbelow : Below n h) (hn : n ≤ 5) : MaySleep h := by
  intro l hl
  have hrank : l.rank < n := hbelow l hl
  cases l with
  | rxLock | txLock =>
      simp only [BridgeLock.rank] at hrank
      omega
  | mmapLock | sgLock | sgWork | rxWork | busLock => rfl

/-- Behind a lock that is no spin lock. -/
theorem MaySleep.cons {l : BridgeLock} (hspin : MaySleep h) (hl : l.spins = false)
    (resources : List KernelResource) : MaySleep ⟨l :: h.locks, resources⟩ := by
  intro m hm
  rcases List.mem_cons.mp hm with rfl | hm
  · exact hl
  · exact hspin m hm

theorem Below.mono {m n : Nat} (hbelow : Below m h) (hmn : m ≤ n) : Below n h :=
  fun l hl => (hbelow l hl).trans_le hmn

theorem Below.cons {n : Nat} (l : BridgeLock) {resources : List KernelResource}
    (hbelow : Below l.rank h) (hl : l.rank < n) : Below n ⟨l :: h.locks, resources⟩ := by
  intro m hm
  rcases List.mem_cons.mp hm with rfl | hm
  · exact hl
  · exact (hbelow m hm).trans hl

theorem bridgeDiscipline_allowed {locks : List BridgeLock} {op : KernelCall} :
    bridgeDiscipline.allowed locks op = true ↔
      (op.sleeps = true → ∀ l ∈ locks, l.spins = false) ∧ (∀ l, op.guard = some l → l ∈ locks) ∧
        (op.ChangesFifo → .rxLock ∈ locks) := by
  simp only [bridgeDiscipline, decide_eq_true_eq]

namespace Calls

variable {α β : Type} {Q : β → Holdings BridgeLock KernelResource → Prop}

theorem keeps_pure {b : β} (hQ : Q b h) : Keeps h (pure b : KernelProg β) Q := hQ

theorem restores_pure (b : β) : Restores h (pure b : KernelProg β) := rfl

theorem keeps_then {p : KernelProg α} {f : α → KernelProg β} (hp : Restores h p)
    (hf : ∀ a, Keeps h (f a) Q) : Keeps h (p >>= f) Q :=
  LockDiscipline.Restores.bind hp hf

theorem keeps_ite {c : Prop} [Decidable c] {p q : KernelProg β} (hp : c → Keeps h p Q)
    (hq : ¬ c → Keeps h q Q) : Keeps h (if c then p else q) Q := by
  split
  · next hc => exact hp hc
  · next hc => exact hq hc

/-- A call that takes nothing and gives nothing back. -/
theorem restores_perform {op : KernelCall} (huse : op.use = .plain)
    (hsleeps : op.sleeps = true → MaySleep h) (hguard : ∀ l, op.guard = some l → l ∈ h.locks)
    (hfifo : op.ChangesFifo → .rxLock ∈ h.locks) : Restores h (.perform op) := by
  intro x
  refine ⟨h, ?_, rfl⟩
  have hallowed := bridgeDiscipline_allowed.mpr ⟨hsleeps, hguard, hfifo⟩
  have huse' : bridgeDiscipline.use op = .plain := huse
  rw [LockDiscipline.after, if_pos hallowed, huse']

theorem keeps_locked {l : BridgeLock} {p : KernelProg β} (hbelow : Below l.rank h)
    (hp : Keeps { h with locks := l :: h.locks } p fun b h' =>
      h'.locks = l :: h.locks ∧ Q b { h' with locks := h.locks }) :
    Keeps h (locked l p) Q := by
  intro x
  refine ⟨{ h with locks := l :: h.locks }, ?_, ?_⟩
  · have hallowed : bridgeDiscipline.allowed h.locks (.lock l) = true := by
      refine bridgeDiscipline_allowed.mpr ⟨fun hsleeps => ?_, nofun, nofun⟩
      refine Below.may_sleep hbelow ?_
      cases l with
      | rxLock | txLock => cases hsleeps
      | mmapLock | sgLock | sgWork | rxWork | busLock => decide
    have hranks : ∀ m ∈ h.locks, bridgeDiscipline.rank m < bridgeDiscipline.rank l := hbelow
    have huse : bridgeDiscipline.use (.lock l) = .lock l := rfl
    simp only [LockDiscipline.after, if_pos hallowed, huse, if_pos hranks]
  · apply Prog.tracks_bind hp
    rintro b h' ⟨hlocks, hQ⟩ y
    refine ⟨{ h' with locks := h.locks }, ?_, hQ⟩
    have hallowed : bridgeDiscipline.allowed (l :: h.locks) (.unlock l) = true :=
      bridgeDiscipline_allowed.mpr ⟨nofun, nofun, nofun⟩
    have huse : bridgeDiscipline.use (.unlock l) = .unlock l := rfl
    simp only [LockDiscipline.after, hlocks, if_pos hallowed, huse, List.mem_cons_self, if_true,
      List.erase_cons_head]

theorem restores_locked {l : BridgeLock} {p : KernelProg β} (hbelow : Below l.rank h)
    (hp : Restores { h with locks := l :: h.locks } p) : Restores h (locked l p) := by
  apply keeps_locked hbelow
  apply Prog.Tracks.mono hp
  rintro b h' rfl
  exact ⟨rfl, rfl⟩

/-- A call that takes nothing, never sleeps and needs no lock. -/
theorem restores_quiet {op : KernelCall} (huse : op.use = .plain) (hsleeps : op.sleeps = false)
    (hguard : op.guard = none) (hfifo : ¬ op.ChangesFifo) : Restores h (.perform op) := by
  apply restores_perform huse
  · rw [hsleeps]
    nofun
  · rw [hguard]
    nofun
  · exact fun hchanges => absurd hchanges hfifo

/-- A call that may sleep. -/
theorem restores_sleeping {op : KernelCall} (huse : op.use = .plain) (hguard : op.guard = none)
    (hfifo : ¬ op.ChangesFifo) (hspin : MaySleep h) : Restores h (.perform op) := by
  apply restores_perform huse (fun _ => hspin)
  · rw [hguard]
    nofun
  · exact fun hchanges => absurd hchanges hfifo

/-- A change of anything but the RX FIFO. -/
theorem restores_store {change : Dev → Dev} (hfifo : ∀ dev, (change dev).rxFifo = dev.rxFifo) :
    Restores h (store change) :=
  restores_quiet rfl rfl rfl fun ⟨dev, hne⟩ => hne (hfifo dev)

theorem restores_load : Restores h load := restores_quiet rfl rfl rfl not_false

theorem restores_loadUnder {l : BridgeLock} (hl : l ∈ h.locks) : Restores h (loadUnder l) := by
  refine restores_perform rfl nofun (fun m hm => ?_) nofun
  obtain rfl := Option.some.inj hm
  exact hl

theorem restores_storeUnder {l : BridgeLock} {change : Dev → Dev} (hl : l ∈ h.locks)
    (hfifo : KernelCall.ChangesFifo (.store (some l) change) → .rxLock ∈ h.locks) :
    Restores h (storeUnder l change) := by
  refine restores_perform rfl nofun (fun m hm => ?_) hfifo
  obtain rfl := Option.some.inj hm
  exact hl

/-- A resource that is there from the call on. -/
theorem keeps_acquire (op : KernelCall) {r : KernelResource} (huse : op.use = .acquire r)
    (hallowed : bridgeDiscipline.allowed h.locks op = true) (hnew : r ∉ h.resources)
    {f : op.Answer → KernelProg β}
    (hf : ∀ x, Keeps (if bridgeDiscipline.granted op x then
      { h with resources := r :: h.resources } else h) (f x) Q) :
    Keeps h (.perform op >>= f) Q := by
  intro x
  refine ⟨_, ?_, hf x⟩
  have huse' : bridgeDiscipline.use op = .acquire r := huse
  simp only [LockDiscipline.after, if_pos hallowed, huse', if_neg hnew]

theorem keeps_release (op : KernelCall) {r : KernelResource} (huse : op.use = .release r)
    (hallowed : bridgeDiscipline.allowed h.locks op = true) (hmem : r ∈ h.resources)
    {f : op.Answer → KernelProg β}
    (hf : ∀ x, Keeps { h with resources := h.resources.erase r } (f x) Q) :
    Keeps h (.perform op >>= f) Q := by
  intro x
  refine ⟨_, ?_, hf x⟩
  have huse' : bridgeDiscipline.use op = .release r := huse
  simp only [LockDiscipline.after, if_pos hallowed, huse', if_pos hmem]

theorem keeps_kmalloc {k size : Nat} {f : Option (List Byte) → KernelProg β}
    (hspin : MaySleep h) (hnew : .buffer k ∉ h.resources) (hnone : Keeps h (f none) Q)
    (hsome : ∀ buf, Keeps { h with resources := .buffer k :: h.resources } (f (some buf)) Q) :
    Keeps h (kmalloc k size >>= f) Q := by
  refine keeps_acquire (.kmalloc k size false) rfl ?_ hnew ?_
  · exact bridgeDiscipline_allowed.mpr ⟨fun _ => hspin, nofun, nofun⟩
  · intro x
    cases x with
    | none => exact hnone
    | some buf => exact hsome buf

theorem keeps_kfree {k : Nat} {f : Unit → KernelProg β} (hmem : .buffer k ∈ h.resources)
    (hf : Keeps { h with resources := h.resources.erase (.buffer k) } (f ()) Q) :
    Keeps h (kfree k >>= f) Q := by
  refine keeps_release (.kfree k) rfl ?_ hmem fun _ => hf
  exact bridgeDiscipline_allowed.mpr ⟨nofun, nofun, nofun⟩

theorem keeps_pmGet {f : Int → KernelProg β} (hspin : MaySleep h)
    (hnew : .pmRef ∉ h.resources)
    (hf : ∀ ret, Keeps { h with resources := .pmRef :: h.resources } (f ret) Q) :
    Keeps h (pmGet >>= f) Q := by
  refine keeps_acquire .pmGet rfl ?_ hnew hf
  exact bridgeDiscipline_allowed.mpr ⟨fun _ => hspin, nofun, nofun⟩

theorem keeps_pmPut {f : Unit → KernelProg β} (hspin : MaySleep h)
    (hmem : .pmRef ∈ h.resources)
    (hf : Keeps { h with resources := h.resources.erase .pmRef } (f ()) Q) :
    Keeps h (pmPut >>= f) Q := by
  refine keeps_release .pmPut rfl ?_ hmem fun _ => hf
  exact bridgeDiscipline_allowed.mpr ⟨fun _ => hspin, nofun, nofun⟩

/-! ### Transfers and answers -/

theorem restores_apexSpiXfer {tx rxBuf : List Byte} (hbelow : Below 4 h) :
    Restores h (apexSpiXfer tx rxBuf) := by
  unfold apexSpiXfer
  refine keeps_ite (fun _ => restores_pure _) fun _ => ?_
  refine keeps_then (restores_locked hbelow ?_) fun x => ?_
  · refine restores_sleeping rfl rfl not_false ?_
    have hspin := hbelow.may_sleep (by omega)
    exact hspin.cons rfl _
  refine keeps_ite (fun _ => ?_) fun _ => restores_pure _
  exact keeps_then (restores_store fun _ => rfl) fun _ => restores_pure _

theorem restores_copyUser {k : Nat} (hbelow : Below 0 h) : Restores h (copyUser k) := by
  refine restores_locked hbelow (restores_sleeping rfl rfl not_false ?_)
  exact (hbelow.may_sleep (by omega)).cons rfl _

theorem restores_pushRx {change : Dev → Dev} (hbelow : Below 5 h) :
    Restores h (pushRx change) := by
  refine keeps_then (restores_locked hbelow ?_) fun _ => restores_quiet rfl rfl rfl not_false
  exact restores_storeUnder List.mem_cons_self fun _ => List.mem_cons_self

theorem restores_takeResponse {r : Received} (hbelow : Below 5 h) :
    Restores h (takeResponse r) := by
  unfold takeResponse
  refine keeps_ite (fun _ => ?_) fun _ => ?_
  · exact keeps_ite (fun _ => restores_pushRx hbelow) fun _ => restores_pure _
  · exact keeps_ite (fun _ => restores_pushRx hbelow) fun _ => restores_pushRx hbelow

theorem restores_rxWorkFinish {rxLen : Int} {rxFrame : List Byte} (hbelow : Below 5 h) :
    Restores h (rxWorkFinish rxLen rxFrame) := by
  unfold rxWorkFinish
  refine keeps_ite (fun _ => restores_pure _) fun _ => ?_
  cases apexValidateFrame (rxFrame.take rxLen.toNat) with
  | error code => exact restores_pure _
  | ok r => exact restores_takeResponse hbelow

theorem restores_writeFinish {ret : Int} {rxBuf : List Byte} (hbelow : Below 5 h) :
    Restores h (writeFinish ret rxBuf) := by
  unfold writeFinish
  refine keeps_ite (fun _ => ?_) fun _ => restores_pure _
  cases apexValidateFrame (rxBuf.take ret.toNat) with
  | error code => exact restores_pure _
  | ok r => exact keeps_ite (fun _ => restores_pushRx hbelow) fun _ => restores_pure _

/-- The two frames of an operation. -/
theorem restores_frames {i j size : Nat} {fail : β} {p : List Byte → List Byte → KernelProg β}
    (hspin : MaySleep h) (hi : .buffer i ∉ h.resources) (hj : .buffer j ∉ h.resources)
    (hij : i ≠ j)
    (hp : ∀ a b, Restores { h with resources := .buffer j :: .buffer i :: h.resources } (p a b)) :
    Restores h do
      match ← kmalloc i size with
      | none => return fail
      | some a =>
        match ← kmalloc j size with
        | none =>
          kfree i
          return fail
        | some b =>
          let result ← p a b
          kfree i
          kfree j
          return result := by
  have hne : ¬ (KernelResource.buffer j == .buffer i) = true := by simpa using Ne.symm hij
  refine keeps_kmalloc hspin hi (restores_pure _) fun a => ?_
  refine keeps_kmalloc hspin (by simpa using ⟨Ne.symm hij, hj⟩) ?_ fun b => ?_
  · refine keeps_kfree List.mem_cons_self (keeps_pure ?_)
    rw [List.erase_cons_head]
  · refine keeps_then (hp a b) fun result => ?_
    refine keeps_kfree (List.mem_cons_of_mem _ List.mem_cons_self) ?_
    rw [List.erase_cons_tail hne, List.erase_cons_head]
    refine keeps_kfree List.mem_cons_self (keeps_pure ?_)
    rw [List.erase_cons_head]

theorem restores_rxWorkFrames (hbelow : Below 4 h) (h0 : .buffer 0 ∉ h.resources)
    (h1 : .buffer 1 ∉ h.resources) : Restores h rxWorkFrames := by
  refine restores_frames (hbelow.may_sleep (by omega)) h0 h1 (by omega) fun rxFrame txFrame => ?_
  unfold rxWorkXfer
  refine keeps_ite (fun _ => restores_pure _) fun _ => ?_
  refine keeps_then (restores_apexSpiXfer hbelow) fun x => ?_
  exact keeps_then (restores_rxWorkFinish (hbelow.mono (by omega))) fun _ => restores_pure _

theorem restores_apexRxWorkHandler (hbelow : Below 3 h) (hpm : .pmRef ∉ h.resources)
    (h0 : .buffer 0 ∉ h.resources) (h1 : .buffer 1 ∉ h.resources) :
    Restores h apexRxWorkHandler := by
  have hinner : Below 4 { h with locks := .rxWork :: h.locks } :=
    Below.cons .rxWork hbelow (Nat.lt_succ_self 3)
  refine restores_locked hbelow (keeps_pmGet (hinner.may_sleep (by omega)) hpm fun _ => ?_)
  have hframes : Restores
      { locks := .rxWork :: h.locks, resources := .pmRef :: h.resources } rxWorkFrames :=
    restores_rxWorkFrames hinner (by simpa using h0) (by simpa using h1)
  refine keeps_then hframes fun sent => ?_
  refine keeps_pmPut (hinner.may_sleep (by omega)) List.mem_cons_self (keeps_pure ?_)
  rw [List.erase_cons_head]

/-! ### The file's operations -/

theorem keeps_apexBridgeOpen (hspin : MaySleep h) (hpm : .pmRef ∉ h.resources) :
    Keeps h apexBridgeOpen fun r h' =>
      h' = if r.ret < 0 then h else { h with resources := .pmRef :: h.resources } := by
  unfold apexBridgeOpen
  refine keeps_then (restores_quiet rfl rfl rfl not_false) fun free => ?_
  refine keeps_ite (fun _ => keeps_pure rfl) fun _ => ?_
  refine keeps_pmGet hspin hpm fun ret => ?_
  refine keeps_ite (fun hneg => ?_) fun hpos => keeps_pure rfl
  refine keeps_then (restores_store fun _ => rfl) fun _ => ?_
  refine keeps_pmPut hspin List.mem_cons_self (keeps_pure ?_)
  show _ = if ret < 0 then h else _
  rw [if_pos hneg, List.erase_cons_head]

theorem keeps_apexBridgeRelease (hspin : MaySleep h) (hpm : .pmRef ∈ h.resources) :
    Keeps h apexBridgeRelease fun _ h' =>
      h' = { h with resources := h.resources.erase .pmRef } := by
  refine keeps_pmPut hspin hpm (keeps_then (restores_store fun _ => rfl) fun _ => ?_)
  exact keeps_pure rfl

/-- The copy that the read makes under the lock outlives the lock. -/
theorem keeps_takeRx (count : Nat) (hlock : .rxLock ∈ h.locks) (h0 : .buffer 0 ∉ h.resources) :
    Keeps h (takeRx count) fun r h' =>
      match r with
      | .error _ => h' = h
      | .ok _ => h' = { h with resources := .buffer 0 :: h.resources } := by
  unfold takeRx
  refine keeps_then (restores_loadUnder hlock) fun dev => ?_
  refine keeps_ite (fun _ => keeps_pure rfl) fun _ => ?_
  refine keeps_acquire (.kmalloc 0 _ true) rfl ?_ h0 fun copy => ?_
  · exact bridgeDiscipline_allowed.mpr ⟨nofun, nofun, nofun⟩
  · cases copy with
    | none => exact keeps_pure rfl
    | some copy =>
        exact keeps_then (restores_storeUnder hlock fun _ => hlock) fun _ => keeps_pure rfl

theorem restores_readRx {count : Nat} (hbelow : Below 0 h) (h0 : .buffer 0 ∉ h.resources) :
    Restores h (readRx count) := by
  have htake : Keeps h (locked .rxLock (takeRx count)) fun r h' =>
      match r with
      | .error _ => h' = h
      | .ok _ => h' = { h with resources := .buffer 0 :: h.resources } := by
    apply keeps_locked
    · exact hbelow.mono (Nat.zero_le 5)
    · have hinner := keeps_takeRx (h := { h with locks := .rxLock :: h.locks }) count
        List.mem_cons_self h0
      apply Prog.Tracks.mono hinner
      intro r h' hr
      cases r with
      | error ret => exact hr ▸ ⟨rfl, rfl⟩
      | ok copied => exact hr ▸ ⟨rfl, rfl⟩
  apply Prog.tracks_bind htake
  intro r h' hr
  cases r with
  | error ret => exact keeps_pure hr
  | ok copied =>
      dsimp only at hr
      subst hr
      show Keeps ⟨h.locks, .buffer 0 :: h.resources⟩ (copyUser 0 >>= _) _
      refine keeps_then (restores_copyUser hbelow) fun ok => ?_
      refine keeps_kfree List.mem_cons_self (keeps_pure ?_)
      rw [List.erase_cons_head]

theorem restores_apexBridgeRead {nonblock : Bool} {count : Nat} (hbelow : Below 0 h)
    (h0 : .buffer 0 ∉ h.resources) : Restores h (apexBridgeRead nonblock count) := by
  have hread : Restores h (readRx count) := restores_readRx hbelow h0
  unfold apexBridgeRead
  refine keeps_then (restores_quiet rfl rfl rfl not_false) fun empty => ?_
  refine keeps_ite (fun _ => ?_) fun _ => hread
  refine keeps_ite (fun _ => restores_pure _) fun _ => ?_
  refine keeps_then (restores_sleeping rfl rfl not_false (hbelow.may_sleep (by omega)))
    fun waited => ?_
  exact keeps_ite (fun _ => restores_pure _) fun _ => hread

theorem restores_writeXfer {data frame rxBuf : List Byte} (hbelow : Below 4 h) :
    Restores h (writeXfer data frame rxBuf) := by
  unfold writeXfer
  refine keeps_ite (fun _ => restores_pure _) fun _ => ?_
  refine keeps_then (restores_apexSpiXfer hbelow) fun x => ?_
  exact keeps_then (restores_writeFinish (hbelow.mono (by omega))) fun _ => restores_pure _

theorem restores_apexBridgeWrite {data : List Byte} (hbelow : Below 0 h)
    (hnew : ∀ k, .buffer k ∉ h.resources) : Restores h (apexBridgeWrite data) := by
  have hspin := hbelow.may_sleep (by omega)
  unfold apexBridgeWrite
  refine keeps_ite (fun _ => restores_pure _) fun _ => ?_
  refine keeps_ite (fun _ => restores_pure _) fun _ => ?_
  refine keeps_kmalloc hspin (hnew 0) (restores_pure _) fun copy => ?_
  have hframes :
      Restores { h with resources := .buffer 0 :: h.resources } (writeFrames data) := by
    refine keeps_then (restores_copyUser hbelow) fun ok => ?_
    refine keeps_ite (fun _ => restores_pure _) fun _ => ?_
    refine restores_frames hspin ?_ ?_ (by omega) fun frame rxBuf => ?_
    · simpa using hnew 1
    · simpa using hnew 2
    · exact restores_writeXfer (hbelow.mono (by omega))
  refine keeps_then hframes fun result => keeps_kfree List.mem_cons_self (keeps_pure ?_)
  rw [List.erase_cons_head]

/-! ### Requests -/

theorem restores_buildAndXfer {cmd : Byte} {payload frame rxBuf : List Byte}
    (hbelow : Below 4 h) : Restores h (buildAndXfer cmd payload frame rxBuf) := by
  unfold buildAndXfer
  refine keeps_ite (fun _ => restores_pure _) fun _ => ?_
  exact keeps_then (restores_apexSpiXfer hbelow) fun _ => restores_pure _

/-- A request that starts with a copy of its argument. -/
theorem restores_copied {k : Nat} {p : KernelProg Outcome} (hbelow : Below 0 h)
    (hp : Restores h p) :
    Restores h (copyUser k >>= fun ok => if ok = false then pure (.done (-efault)) else p) :=
  keeps_then (restores_copyUser hbelow) fun _ => keeps_ite (fun _ => restores_pure _) fun _ => hp

theorem restores_gathered {copied : KernelProg Bool} {size : Nat} {cmd : Byte}
    {payload frame rxBuf : List Byte} (hbelow : Below 4 h) (h2 : .buffer 2 ∉ h.resources)
    (hcopied : Restores { h with resources := .buffer 2 :: h.resources } copied) :
    Restores h (gathered copied size cmd payload frame rxBuf) := by
  refine keeps_kmalloc (hbelow.may_sleep (by omega)) h2 (restores_pure _) fun buf => ?_
  refine keeps_then hcopied fun ok => keeps_kfree List.mem_cons_self ?_
  rw [List.erase_cons_head]
  exact keeps_ite (fun _ => restores_buildAndXfer hbelow) fun _ => restores_pure _

theorem restores_copyOut {bytes : List Byte} (hbelow : Below 0 h) : Restores h (copyOut bytes) :=
  restores_copied hbelow (restores_pure _)

/-- A look at what the lock guards. -/
theorem restores_lookUnder {l : BridgeLock} (hbelow : Below l.rank h) :
    Restores h (locked l (loadUnder l)) :=
  restores_locked hbelow (restores_loadUnder List.mem_cons_self)

theorem restores_apexMcuResetAssert (hspin : MaySleep h) :
    Restores h apexMcuResetAssert :=
  keeps_then (restores_store fun _ => rfl) fun _ => restores_sleeping rfl rfl not_false hspin

theorem restores_apexMcuResetRelease (hspin : MaySleep h) :
    Restores h apexMcuResetRelease := by
  refine keeps_then (restores_store fun _ => rfl) fun _ => ?_
  exact keeps_then (restores_sleeping rfl rfl not_false hspin) fun _ => restores_store fun _ => rfl

/-! ### The scatter-gather engine -/

theorem restores_sgStreamXfer {enable : Byte} {frame rx : Option (List Byte)}
    (hbelow : Below 4 h) : Restores h (sgStreamXfer enable frame rx) := by
  unfold sgStreamXfer
  split
  · refine keeps_ite (fun _ => ?_) fun _ => restores_pure _
    exact keeps_then (restores_apexSpiXfer hbelow) fun _ => restores_pure _
  · exact restores_pure _

theorem restores_sgSendStream {enable : Byte} {k : Nat} (hbelow : Below 4 h)
    (hnew : ∀ i, k ≤ i → .buffer i ∉ h.resources) : Restores h (sgSendStream enable k) := by
  have hspin := hbelow.may_sleep (by omega)
  have hne : ¬ (KernelResource.buffer (k + 1) == .buffer k) = true := by simp
  unfold sgSendStream
  refine keeps_kmalloc hspin (hnew k le_rfl) ?_ fun frame => ?_
  · refine keeps_kmalloc hspin (hnew (k + 1) (by omega)) ?_ fun rx => ?_
    · exact keeps_then (restores_sgStreamXfer hbelow) fun sent => restores_pure _
    · refine keeps_then (restores_sgStreamXfer hbelow) fun sent => ?_
      refine keeps_kfree List.mem_cons_self (keeps_pure ?_)
      rw [List.erase_cons_head]
  · refine keeps_kmalloc hspin (by simpa using hnew (k + 1) (by omega)) ?_ fun rx => ?_
    · refine keeps_then (restores_sgStreamXfer hbelow) fun sent => ?_
      refine keeps_kfree List.mem_cons_self (keeps_pure ?_)
      rw [List.erase_cons_head]
    · refine keeps_then (restores_sgStreamXfer hbelow) fun sent => ?_
      refine keeps_kfree (List.mem_cons_of_mem _ List.mem_cons_self) ?_
      rw [List.erase_cons_tail hne, List.erase_cons_head]
      refine keeps_kfree List.mem_cons_self (keeps_pure ?_)
      rw [List.erase_cons_head]

theorem restores_engineFrees (n : Nat) : Restores h (engineFrees n) := by
  induction n with
  | zero => exact restores_pure _
  | succ n ih => exact keeps_then (restores_quiet rfl rfl rfl not_false) fun _ => ih

theorem restores_dmaBuffers (hspin : MaySleep h) (done left : Nat) :
    Restores h (dmaBuffers done left) := by
  induction left generalizing done with
  | zero => exact restores_pure _
  | succ left ih =>
      refine keeps_then (restores_sleeping rfl rfl not_false hspin) fun ok => ?_
      refine keeps_ite (fun _ => ih (done + 1)) fun _ => ?_
      exact keeps_then (restores_engineFrees done) fun _ => restores_pure _

theorem restores_sgStart {config : SgConfig} (hbelow : Below 4 h) (hlock : .sgLock ∈ h.locks)
    (hnew : ∀ k, 2 ≤ k → .buffer k ∉ h.resources) : Restores h (sgStart config) := by
  have hspin := hbelow.may_sleep (by omega)
  unfold sgStart
  refine keeps_then (restores_loadUnder hlock) fun dev => ?_
  refine keeps_ite (fun _ => restores_pure _) fun _ => ?_
  refine keeps_then (restores_sleeping rfl rfl not_false hspin) fun _ => ?_
  refine keeps_ite (fun _ => restores_pure _) fun _ => ?_
  refine keeps_then (restores_sleeping rfl rfl not_false hspin) fun _ => ?_
  refine keeps_ite (fun _ => ?_) fun _ => ?_
  · exact keeps_then (restores_quiet rfl rfl rfl not_false) fun _ => restores_pure _
  refine keeps_then (restores_dmaBuffers hspin _ _) fun _ => ?_
  refine keeps_ite (fun _ => ?_) fun _ => ?_
  · exact keeps_then (restores_engineFrees 2) fun _ => restores_pure _
  have hkeeps : ¬ KernelCall.ChangesFifo (.store (some .sgLock) _) := fun ⟨_, hne⟩ => hne rfl
  refine keeps_then (restores_storeUnder hlock fun h => absurd h hkeeps) fun _ => ?_
  have hsend : Restores h (sgSendStream 1 (4 + config.bufCount.toNat)) :=
    restores_sgSendStream hbelow fun i hi => hnew i (by omega)
  refine keeps_then hsend fun _ => ?_
  exact keeps_then (restores_quiet rfl rfl rfl not_false) fun _ => restores_pure _

theorem restores_apexSgEngineStart {config : SgConfig} (hbelow : Below 1 h)
    (hnew : ∀ k, 2 ≤ k → .buffer k ∉ h.resources) : Restores h (apexSgEngineStart config) := by
  unfold apexSgEngineStart
  refine keeps_ite (fun _ => restores_pure _) fun _ => ?_
  refine keeps_ite (fun _ => restores_pure _) fun _ => ?_
  refine keeps_ite (fun _ => restores_pure _) fun _ => ?_
  refine restores_locked hbelow (restores_sgStart ?_ List.mem_cons_self hnew)
  exact Below.cons .sgLock hbelow (show 1 < 4 by omega)

/-- The stop waits for the worker with the engine's lock taken. -/
theorem restores_apexSgEngineStop (hbelow : Below 1 h)
    (hnew : ∀ k, 2 ≤ k → .buffer k ∉ h.resources) : Restores h apexSgEngineStop := by
  have hinner : Below 2 ⟨.sgLock :: h.locks, h.resources⟩ :=
    Below.cons .sgLock hbelow (show 1 < 2 by omega)
  refine restores_locked hbelow ?_
  refine keeps_then (restores_loadUnder List.mem_cons_self) fun dev => ?_
  refine keeps_ite (fun _ => restores_pure _) fun _ => ?_
  have hkeeps : ¬ KernelCall.ChangesFifo (.store (some .sgLock) _) := fun ⟨_, hne⟩ => hne rfl
  refine keeps_then (restores_storeUnder List.mem_cons_self fun h => absurd h hkeeps) fun _ => ?_
  refine keeps_then (restores_locked hinner (restores_pure _)) fun _ => ?_
  refine keeps_then (restores_sgSendStream (hinner.mono (by omega)) hnew) fun _ => ?_
  exact keeps_then (restores_engineFrees _) fun _ => restores_pure _

section

variable {cmd : BitVec 32} {arg : Nat → Byte} {frame rxBuf : List Byte}

theorem restores_ioctlCc1101Cfg (hbelow : Below 0 h) (h2 : .buffer 2 ∉ h.resources) :
    Restores h (ioctlCc1101Cfg arg frame rxBuf) := by
  refine restores_copied hbelow (keeps_ite (fun _ => restores_pure _) fun _ => ?_)
  exact restores_gathered (hbelow.mono (by omega)) h2 (restores_copyUser hbelow)

theorem restores_ioctlNfcTransact (hbelow : Below 0 h) (h2 : .buffer 2 ∉ h.resources) :
    Restores h (ioctlNfcTransact arg frame rxBuf) := by
  refine restores_copied hbelow (keeps_ite (fun _ => restores_pure _) fun _ => ?_)
  refine restores_gathered (hbelow.mono (by omega)) h2 ?_
  exact keeps_ite (fun _ => restores_copyUser hbelow) fun _ => restores_pure _

theorem restores_ioctlMcuReset (hbelow : Below 0 h) : Restores h (ioctlMcuReset arg) := by
  have hspin := hbelow.may_sleep (by omega)
  refine keeps_then (restores_copyUser hbelow) fun _ => ?_
  refine keeps_ite (fun _ => restores_pure _) fun _ => keeps_ite (fun _ => ?_) fun _ => ?_
  · exact keeps_then (restores_apexMcuResetAssert hspin) fun _ => restores_pure _
  · exact keeps_then (restores_apexMcuResetRelease hspin) fun _ => restores_pure _

theorem restores_ioctlSwitch (hbelow : Below 0 h) (hnew : ∀ k, 2 ≤ k → .buffer k ∉ h.resources) :
    Restores h (ioctlSwitch cmd arg frame rxBuf) := by
  have hframe : Below 4 h := hbelow.mono (by omega)
  have h2 := hnew 2 (by omega)
  unfold ioctlSwitch
  refine keeps_ite (fun _ => ?_) fun _ => ?_
  · exact restores_copied hbelow (restores_buildAndXfer hframe)
  refine keeps_ite (fun _ => ?_) fun _ => ?_
  · exact restores_copied hbelow (restores_buildAndXfer hframe)
  refine keeps_ite (fun _ => ?_) fun _ => ?_
  · refine restores_copied hbelow (keeps_ite (fun _ => restores_pure _) fun _ => ?_)
    exact restores_buildAndXfer hframe
  refine keeps_ite (fun _ => restores_ioctlCc1101Cfg hbelow h2) fun _ => ?_
  refine keeps_ite (fun _ => restores_ioctlNfcTransact hbelow h2) fun _ => ?_
  refine keeps_ite (fun _ => ?_) fun _ => ?_
  · refine keeps_then (restores_lookUnder (hbelow.mono (Nat.zero_le _))) fun _ => ?_
    exact restores_copyOut hbelow
  refine keeps_ite (fun _ => restores_ioctlMcuReset hbelow) fun _ => ?_
  refine keeps_ite (fun _ => ?_) fun _ => ?_
  · exact keeps_then restores_load fun _ => restores_copyOut hbelow
  refine keeps_ite (fun _ => ?_) fun _ => ?_
  · exact restores_copied hbelow (restores_apexSgEngineStart (hbelow.mono (by omega)) hnew)
  refine keeps_ite (fun _ => ?_) fun _ => ?_
  · exact restores_apexSgEngineStop (hbelow.mono (by omega)) hnew
  refine keeps_ite (fun _ => ?_) fun _ => restores_pure _
  refine keeps_then (restores_lookUnder (hbelow.mono (Nat.zero_le _))) fun _ => ?_
  exact restores_copyOut hbelow

theorem restores_apexBridgeIoctl (hbelow : Below 0 h) (hnew : ∀ k, .buffer k ∉ h.resources) :
    Restores h (apexBridgeIoctl cmd arg) := by
  have hrequest : Restores h (requestFrames cmd arg) := by
    refine restores_frames (hbelow.may_sleep (by omega)) (hnew 0) (hnew 1) (by omega) ?_
    intro frame rxBuf
    refine restores_ioctlSwitch hbelow fun k hk => ?_
    have hk0 : k ≠ 0 := by omega
    have hk1 : k ≠ 1 := by omega
    simpa [hk0, hk1] using hnew k
  have hread : Restores h (readAccess cmd arg) := by
    unfold readAccess
    refine keeps_ite (fun _ => ?_) fun _ => hrequest
    refine keeps_then (restores_quiet rfl rfl rfl not_false) fun _ => ?_
    exact keeps_ite (fun _ => restores_pure _) fun _ => hrequest
  unfold apexBridgeIoctl
  refine keeps_ite (fun _ => restores_pure _) fun _ => ?_
  refine keeps_ite (fun _ => restores_pure _) fun _ => ?_
  refine keeps_ite (fun _ => ?_) fun _ => hread
  refine keeps_then (restores_quiet rfl rfl rfl not_false) fun _ => ?_
  exact keeps_ite (fun _ => restores_pure _) fun _ => hread

end

/-! ### The worker, the mapping and the rest -/

theorem restores_sgRound (hbelow : Below 4 h) : Restores h sgRound := by
  have hspin := hbelow.may_sleep (by omega)
  unfold sgRound
  refine keeps_then restores_load fun dev => ?_
  refine keeps_ite (fun _ => restores_pure _) fun _ => ?_
  refine keeps_then (restores_quiet rfl rfl rfl not_false) fun _ => ?_
  refine keeps_ite (fun _ => ?_) fun _ => ?_
  · exact keeps_then (restores_store fun _ => rfl) fun _ => restores_pure _
  refine keeps_then (restores_locked hbelow (restores_quiet rfl rfl rfl not_false)) fun ret => ?_
  refine keeps_ite (fun _ => ?_) fun _ => ?_
  · refine keeps_then (restores_store fun _ => rfl) fun _ => keeps_then restores_load fun _ => ?_
    refine keeps_ite (fun _ => ?_) fun _ => ?_
    · exact keeps_then (restores_store fun _ => rfl) fun _ => restores_pure _
    · exact keeps_then (restores_sleeping rfl rfl not_false hspin) fun _ => restores_pure _
  have hend : ∀ dev : Dev, Restores h
      (if dev.sgEngine.continuous = false ∧ dev.sgEngine.sequence ≥ dev.sgEngine.bufCount then do
        storeEngine fun eng => { eng with state := .idle }
        return some ()
      else return none) := fun dev =>
    keeps_ite (fun _ => keeps_then (restores_store fun _ => rfl) fun _ => restores_pure _) fun _ =>
      restores_pure _
  refine keeps_then (restores_sleeping rfl rfl not_false hspin) fun _ => ?_
  refine keeps_ite (fun _ => ?_) fun _ => keeps_then restores_load hend
  exact keeps_then (restores_store fun _ => rfl) fun _ => keeps_then restores_load hend

theorem restores_apexSgWorkHandler {rounds : Nat} (hbelow : Below 2 h) :
    Restores h (apexSgWorkHandler rounds) := by
  have hinner : Below 4 ⟨.sgWork :: h.locks, h.resources⟩ :=
    Below.cons .sgWork hbelow (show 2 < 4 by omega)
  refine restores_locked hbelow ?_
  exact keeps_then (Prog.tracks_loop (restores_sgRound hinner) rounds) fun _ => restores_pure _

theorem restores_apexBridgeMmap {pageShift vsize pgoff : Nat} (hbelow : Below 0 h) :
    Restores h (apexBridgeMmap pageShift vsize pgoff) := by
  have hinner : Below 1 ⟨.mmapLock :: h.locks, h.resources⟩ :=
    Below.cons .mmapLock hbelow (show 0 < 1 by omega)
  refine restores_locked hbelow (keeps_then (restores_lookUnder hinner) fun dev => ?_)
  refine keeps_ite (fun _ => restores_pure _) fun _ => ?_
  refine keeps_ite (fun _ => restores_pure _) fun _ => ?_
  refine keeps_ite (fun _ => restores_pure _) fun _ => ?_
  refine keeps_then (restores_sleeping rfl rfl not_false ?_) fun _ => restores_pure _
  exact hinner.may_sleep (by omega)

theorem restores_attributeShow {guard : Option BridgeLock} {render : Dev → List Byte}
    (hbelow : Below 0 h) : Restores h (attributeShow guard render) := by
  cases guard with
  | none => exact keeps_then restores_load fun _ => restores_pure _
  | some l =>
      have hlook := restores_lookUnder (l := l) (hbelow.mono (Nat.zero_le _))
      exact keeps_then hlook fun _ => restores_pure _

theorem keeps_apexBridgeRemove (hbelow : Below 0 h) (hpm : .pmRef ∈ h.resources)
    (hnew : ∀ k, .buffer k ∉ h.resources) :
    Keeps h apexBridgeRemove fun _ h' => h' = { h with resources := h.resources.erase .pmRef } := by
  have hspin := hbelow.may_sleep (by omega)
  have hrx : Below 3 h := hbelow.mono (by omega)
  refine keeps_then (restores_apexMcuResetAssert hspin) fun _ => ?_
  refine keeps_pmPut hspin hpm ?_
  refine keeps_then (restores_locked hrx (restores_pure _)) fun _ => ?_
  have hstop : Below 1 ⟨h.locks, h.resources.erase .pmRef⟩ := Below.mono hbelow (Nat.zero_le 1)
  exact restores_apexSgEngineStop hstop fun k _ hmem => hnew k (List.mem_of_mem_erase hmem)

end Calls

/-! ### Everything at once -/

/-- Something that runs in the driver: an operation, an interrupt, the worker of the engine for
at most so many rounds, a mapping, a look at an attribute, or the removal. -/
inductive BridgeThread where
  | operation (op : DriverOp)
  | irq
  | sgWorker (rounds : Nat)
  | mmap (pageShift vsize pgoff : Nat)
  | sysfs (guard : Option BridgeLock) (render : Dev → List Byte)
  | remove

def BridgeThread.calls : BridgeThread → KernelProg Outcome
  | .operation op => driverCalls op
  | .irq => Calls.apexIrqHandler
  | .sgWorker rounds => Calls.apexSgWorkHandler rounds
  | .mmap pageShift vsize pgoff => Calls.apexBridgeMmap pageShift vsize pgoff
  | .sysfs guard render => Calls.attributeShow guard render
  | .remove => Calls.apexBridgeRemove

/-- The release gives back the reference of the open, the removal that of the probe. -/
def BridgeThread.start : BridgeThread → Holdings BridgeLock KernelResource
  | .operation .release | .remove => ⟨[], [.pmRef]⟩
  | _ => .none

/-- An open that succeeds keeps its reference. -/
def BridgeThread.kept (r : Outcome) : BridgeThread → Holdings BridgeLock KernelResource
  | .operation (.open _) => if r.ret < 0 then .none else ⟨[], [.pmRef]⟩
  | _ => .none

theorem BridgeThread.start_locks (t : BridgeThread) : t.start.locks = [] := by
  unfold BridgeThread.start
  split <;> rfl

theorem BridgeThread.kept_locks (t : BridgeThread) (r : Outcome) : (t.kept r).locks = [] := by
  unfold BridgeThread.kept
  split
  · split_ifs <;> rfl
  · rfl

/-- From nothing, and from a reference only, everything may be taken. -/
theorem below_start (t : BridgeThread) (n : Nat) : Below n t.start := by
  intro l hl
  rw [t.start_locks] at hl
  cases hl

theorem BridgeThread.keeps (t : BridgeThread) :
    Keeps t.start t.calls fun r h' => h' = t.kept r := by
  have hbelow := below_start t
  have hnone : ∀ k : Nat, KernelResource.buffer k ∉ (Holdings.none (L := BridgeLock)).resources :=
    nofun
  cases t with
  | operation op =>
      cases op with
      | «open» pmGet => exact Calls.keeps_apexBridgeOpen nofun nofun
      | release => exact Calls.keeps_apexBridgeRelease nofun List.mem_cons_self
      | read sawEmpty nonblock waited count =>
          exact Calls.restores_apexBridgeRead (hbelow 0) (hnone 0)
      | write data => exact Calls.restores_apexBridgeWrite (hbelow 0) hnone
      | ioctl cmd arg => exact Calls.restores_apexBridgeIoctl (hbelow 0) hnone
      | rxWork => exact Calls.restores_apexRxWorkHandler (hbelow 3) nofun (hnone 0) (hnone 1)
      | sgWorker work =>
          exact Calls.keeps_then (Calls.restores_store fun _ => rfl) fun _ => Calls.restores_pure _
  | irq =>
      exact Calls.keeps_then (Calls.restores_quiet rfl rfl rfl not_false)
        fun _ => Calls.restores_pure _
  | sgWorker rounds => exact Calls.restores_apexSgWorkHandler (hbelow 2)
  | mmap pageShift vsize pgoff => exact Calls.restores_apexBridgeMmap (hbelow 0)
  | sysfs guard render => exact Calls.restores_attributeShow (hbelow 0)
  | remove =>
      refine Calls.keeps_apexBridgeRemove (hbelow 0) List.mem_cons_self fun k hk => ?_
      cases List.mem_singleton.mp hk

/-- A kernel that grants nothing. -/
def Kernel.refusing : Kernel :=
  ⟨⟨fun _ => false, fun _ _ => 0, false, fun _ => false, 0, []⟩, 0, true, 0⟩

instance (op : KernelCall) : Inhabited op.Answer := ⟨(Kernel.refusing.device op .probed).1⟩

theorem BridgeLock.rank_lt (l : BridgeLock) : l.rank < 7 := by cases l <;> decide

section

variable {ι : Type} [DecidableEq ι]

def bridgeThreads (thread : ι → BridgeThread) :
    Threads KernelCall KernelCall.Answer BridgeLock KernelResource ι Outcome :=
  Threads.start (fun t => (thread t).calls) fun t => (thread t).start

theorem bridgeThreads_sound (thread : ι → BridgeThread)
    (es : List (ι × ((op : KernelCall) → op.Answer))) :
    (run (Threads.step bridgeDiscipline) (bridgeThreads thread) es).Sound bridgeDiscipline
      fun t r h' => h' = (thread t).kept r :=
  Threads.run_sound (fun t => (thread t).keeps) (fun t => (thread t).start_locks) es

/-- Whatever runs in the driver at once, in whatever order its calls come and whatever they
are answered: no thread breaches the discipline, none sleeps with a spin lock taken, what a
call names as its guard its thread has, the RX FIFO is changed by the owner of its lock only,
a thread at its end has given back its locks and all but what it is to keep, and from every
state all threads can still come to their ends. -/
theorem driver_keeps_discipline [Fintype ι] (thread : ι → BridgeThread)
    (es : List (ι × ((op : KernelCall) → op.Answer))) :
    let s := run (Threads.step bridgeDiscipline) (bridgeThreads thread) es
    (∀ t, s.held t ≠ none) ∧
      (∀ t op next, s.prog t = .call op next →
        (op.sleeps = true → ∀ l, l.spins = true → s.owner l ≠ some t) ∧
          (∀ l, op.guard = some l → s.owner l = some t) ∧
            (op.ChangesFifo → s.owner .rxLock = some t)) ∧
      (∀ t r, s.prog t = .ret r →
        s.held t = some ((thread t).kept r) ∧ ∀ l, s.owner l ≠ some t) ∧
      ∀ answer : (op : KernelCall) → op.Answer, ∃ ts : List ι, ∀ t,
        (run (Threads.step bridgeDiscipline) s (ts.map fun t => (t, answer))).Done t := by
  intro s
  have hsound := bridgeThreads_sound thread es
  refine ⟨fun t => ?_, fun t op next hprog => ⟨fun hsleeps l hl => ?_, fun l hguard => ?_,
    fun hchanges => ?_⟩, fun t r hprog => ?_, fun answer => ?_⟩
  · obtain ⟨h, ht⟩ := hsound t
    rw [ht.held]
    exact Option.some_ne_none h
  · refine hsound.banned hprog fun locks hallowed hmem => ?_
    have hspins := (bridgeDiscipline_allowed.mp hallowed).1 hsleeps l hmem
    rw [hl] at hspins
    cases hspins
  · exact hsound.guarded hprog fun locks hallowed =>
      (bridgeDiscipline_allowed.mp hallowed).2.1 l hguard
  · exact hsound.guarded hprog fun locks hallowed =>
      (bridgeDiscipline_allowed.mp hallowed).2.2 hchanges
  · obtain ⟨h, ht⟩ := hsound t
    have hend : h = (thread t).kept r := by
      have hkeeps := ht.keeps
      rw [hprog] at hkeeps
      exact hkeeps
    refine ⟨hend ▸ ht.held, fun l hown => ?_⟩
    have hmem := (ht.owns l).mp hown
    rw [hend, (thread t).kept_locks r] at hmem
    cases hmem
  · refine hsound.drains (fun t r h' hh' => ?_) BridgeLock.rank_lt answer
    rw [hh']
    exact (thread t).kept_locks r

end

end GhostBlade.Host
