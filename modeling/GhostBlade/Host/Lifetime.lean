import GhostBlade.Library.Run

/-!
The lifetime of `struct apex_bridge_dev`. `apex_bridge_probe` acquires one resource
after another and unwinds through its labels when one fails, `apex_bridge_remove`
gives everything back, and in between the interrupt queues the RX work, the work
runs and a file is opened and closed, all of them with a pointer to the structure.
Events fall between any two statements.
-/

namespace GhostBlade.Host

open GhostBlade.Library

/-- What the driver holds. -/
inductive Resource where
  | dev
  | rxFifo
  | txFifo
  | intReq
  | hostRdy
  | mcuReset
  | irq
  | chrdev
  | cdev
  | class_
  | node
deriving DecidableEq

/-- The statements of `apex_bridge_probe` that can fail, with those of
`apex_gpio_init`, and the release of the reset. -/
inductive ProbeStep where
  | allocDev
  | allocRxFifo
  | allocTxFifo
  | setupSpi
  | checkGpios
  | requestIntReq
  | requestHostRdy
  | requestMcuReset
  | findIrq
  | requestIrq
  | allocChrdev
  | addCdev
  | createClass
  | createNode
  | releaseReset
deriving DecidableEq

/-- The labels of `apex_bridge_probe`, in the order of the source. -/
inductive ErrLabel where
  | destroyClass
  | delCdev
  | unregChrdev
  | freeIrq
  | freeTxFifo
  | freeRxFifo
  | freeDev
deriving DecidableEq

inductive RemoveStep where
  | assertReset
  | disablePm
  | cancelWork
  | stopSg
  | destroyNode
  | destroyClass
  | delCdev
  | unregChrdev
  | freeIrq
  | freeRxFifo
  | freeTxFifo
  | freeDev
deriving DecidableEq

/-- `releasing` is the driver core, which gives the managed resources back when a
probe has failed or the driver has been removed. -/
inductive BridgeStage where
  | unbound
  | probing (next : ProbeStep)
  | unwinding (label : ErrLabel)
  | bound
  | removing (next : RemoveStep)
  | releasing
deriving DecidableEq

def BridgeStage.isRemoving : BridgeStage → Bool
  | .removing _ => true
  | .unbound | .probing _ | .unwinding _ | .bound | .releasing => false

structure Lifetime where
  stage : BridgeStage
  held : List Resource
  /-- A resource was acquired twice, or released without being held. -/
  misused : Bool
  /-- The reset line of the MCU is released. -/
  mcuUp : Bool
  pending : Bool
  running : Bool
  opened : Bool

def Lifetime.acquire (s : Lifetime) (r : Resource) : Lifetime :=
  { s with held := s.held ++ [r], misused := s.misused || r ∈ s.held }

def Lifetime.release (s : Lifetime) (r : Resource) : Lifetime :=
  { s with held := s.held.erase r, misused := s.misused || r ∉ s.held }

/-- Where a failing statement goes. -/
def ProbeStep.onError : ProbeStep → BridgeStage
  | .allocDev => .unbound
  | .allocRxFifo => .unwinding .freeDev
  | .allocTxFifo => .unwinding .freeRxFifo
  | .setupSpi | .checkGpios | .requestIntReq | .requestHostRdy | .requestMcuReset | .findIrq
  | .requestIrq => .unwinding .freeTxFifo
  | .allocChrdev => .unwinding .freeIrq
  | .addCdev => .unwinding .unregChrdev
  | .createClass => .unwinding .delCdev
  | .createNode => .unwinding .destroyClass
  | .releaseReset => .bound

/-- A statement that succeeds. -/
def Lifetime.probe (s : Lifetime) : ProbeStep → Lifetime
  | .allocDev => { s.acquire .dev with stage := .probing .allocRxFifo }
  | .allocRxFifo => { s.acquire .rxFifo with stage := .probing .allocTxFifo }
  | .allocTxFifo => { s.acquire .txFifo with stage := .probing .setupSpi }
  | .setupSpi => { s with stage := .probing .checkGpios }
  | .checkGpios => { s with stage := .probing .requestIntReq }
  | .requestIntReq => { s.acquire .intReq with stage := .probing .requestHostRdy }
  | .requestHostRdy => { s.acquire .hostRdy with stage := .probing .requestMcuReset }
  | .requestMcuReset =>
      -- `GPIOF_OUT_INIT_LOW`
      { s.acquire .mcuReset with stage := .probing .findIrq, mcuUp := false }
  | .findIrq => { s with stage := .probing .requestIrq }
  | .requestIrq => { s.acquire .irq with stage := .probing .allocChrdev }
  | .allocChrdev => { s.acquire .chrdev with stage := .probing .addCdev }
  | .addCdev => { s.acquire .cdev with stage := .probing .createClass }
  | .createClass => { s.acquire .class_ with stage := .probing .createNode }
  | .createNode => { s.acquire .node with stage := .probing .releaseReset }
  | .releaseReset => { s with stage := .bound, mcuUp := true }

/-- The labels fall through to the next. -/
def Lifetime.unwind (s : Lifetime) : ErrLabel → Lifetime
  | .destroyClass => { s.release .class_ with stage := .unwinding .delCdev }
  | .delCdev => { s.release .cdev with stage := .unwinding .unregChrdev }
  | .unregChrdev => { s.release .chrdev with stage := .unwinding .freeIrq }
  | .freeIrq => { s.release .irq with stage := .unwinding .freeTxFifo }
  | .freeTxFifo => { s.release .txFifo with stage := .unwinding .freeRxFifo }
  | .freeRxFifo => { s.release .rxFifo with stage := .unwinding .freeDev }
  | .freeDev => { s.release .dev with stage := .releasing }

/-- `apex_bridge_remove`; `cancel_work_sync` waits for work that runs. -/
def Lifetime.remove (s : Lifetime) : RemoveStep → Lifetime
  | .assertReset => { s with stage := .removing .disablePm, mcuUp := false }
  | .disablePm => { s with stage := .removing .cancelWork }
  | .cancelWork =>
      if s.running then s else { s with stage := .removing .stopSg, pending := false }
  | .stopSg => { s with stage := .removing .destroyNode }
  | .destroyNode => { s.release .node with stage := .removing .destroyClass }
  | .destroyClass => { s.release .class_ with stage := .removing .delCdev }
  | .delCdev => { s.release .cdev with stage := .removing .unregChrdev }
  | .unregChrdev => { s.release .chrdev with stage := .removing .freeIrq }
  | .freeIrq => { s.release .irq with stage := .removing .freeRxFifo }
  | .freeRxFifo => { s.release .rxFifo with stage := .removing .freeTxFifo }
  | .freeTxFifo => { s.release .txFifo with stage := .removing .freeDev }
  | .freeDev => { s.release .dev with stage := .releasing }

/-- What was acquired through `devm_` and is still held, last acquired first. -/
def Lifetime.releaseManaged (s : Lifetime) : Lifetime :=
  { ([Resource.irq, .mcuReset, .hostRdy, .intReq].filter (· ∈ s.held)).foldl Lifetime.release s with
    stage := .unbound }

inductive LifetimeEvent where
  | probe
  | remove
  /-- The next statement; what it asks for is granted or not. -/
  | proceed (granted : Bool)
  | interrupt
  | workStart
  | workEnd
  | open
  | close

def Lifetime.step (s : Lifetime) : LifetimeEvent → Lifetime
  | .probe => if s.stage = .unbound then { s with stage := .probing .allocDev } else s
  | .remove => if s.stage = .bound then { s with stage := .removing .assertReset } else s
  | .proceed granted =>
      match s.stage with
      | .unbound => s
      | .probing next =>
          if granted ∨ next = .releaseReset then s.probe next else { s with stage := next.onError }
      | .unwinding label => s.unwind label
      | .bound => s
      | .removing next => s.remove next
      | .releasing => s.releaseManaged
  | .interrupt => if .irq ∈ s.held then { s with pending := true } else s
  | .workStart =>
      if s.pending = true ∧ s.running = false then { s with pending := false, running := true }
      else s
  | .workEnd => { s with running := false }
  | .open => if .node ∈ s.held ∧ s.opened = false then { s with opened := true } else s
  | .close => { s with opened := false }

def Lifetime.start (mcuUp : Bool) : Lifetime := ⟨.unbound, [], false, mcuUp, false, false, false⟩

/-- An MCU in reset asks for nothing, and the driver is taken off its device neither
while a file is open nor while one is being opened. -/
def Lifetime.Orderly (s : Lifetime) : LifetimeEvent → Prop
  | .interrupt => s.mcuUp = true
  | .open => s.stage.isRemoving = false
  | .remove => s.opened = false
  | _ => True

instance Lifetime.orderly_decidable (s : Lifetime) (e : LifetimeEvent) : Decidable (s.Orderly e) :=
  match e with
  | .interrupt => inferInstanceAs (Decidable (s.mcuUp = true))
  | .open => inferInstanceAs (Decidable (s.stage.isRemoving = false))
  | .remove => inferInstanceAs (Decidable (s.opened = false))
  | .probe | .proceed _ | .workStart | .workEnd | .close => isTrue trivial

/-! ### What is held where -/

def ProbeStep.held : ProbeStep → List Resource
  | .allocDev => []
  | .allocRxFifo => [.dev]
  | .allocTxFifo => [.dev, .rxFifo]
  | .setupSpi | .checkGpios | .requestIntReq => [.dev, .rxFifo, .txFifo]
  | .requestHostRdy => [.dev, .rxFifo, .txFifo, .intReq]
  | .requestMcuReset => [.dev, .rxFifo, .txFifo, .intReq, .hostRdy]
  | .findIrq | .requestIrq => [.dev, .rxFifo, .txFifo, .intReq, .hostRdy, .mcuReset]
  | .allocChrdev => [.dev, .rxFifo, .txFifo, .intReq, .hostRdy, .mcuReset, .irq]
  | .addCdev => [.dev, .rxFifo, .txFifo, .intReq, .hostRdy, .mcuReset, .irq, .chrdev]
  | .createClass => [.dev, .rxFifo, .txFifo, .intReq, .hostRdy, .mcuReset, .irq, .chrdev, .cdev]
  | .createNode =>
      [.dev, .rxFifo, .txFifo, .intReq, .hostRdy, .mcuReset, .irq, .chrdev, .cdev, .class_]
  | .releaseReset =>
      [.dev, .rxFifo, .txFifo, .intReq, .hostRdy, .mcuReset, .irq, .chrdev, .cdev, .class_, .node]

/-- Everything a bound driver holds. -/
def boundResources : List Resource := ProbeStep.releaseReset.held

/-- `apex_gpio_init` may stop behind any of the lines. -/
def someLines : List (List Resource) := [Resource.intReq, .hostRdy, .mcuReset].inits

def ErrLabel.held : ErrLabel → List (List Resource)
  | .destroyClass => [ProbeStep.createNode.held]
  | .delCdev => [ProbeStep.createClass.held]
  | .unregChrdev => [ProbeStep.addCdev.held]
  | .freeIrq => [ProbeStep.allocChrdev.held]
  | .freeTxFifo => someLines.map ([.dev, .rxFifo, .txFifo] ++ ·)
  | .freeRxFifo => someLines.map ([.dev, .rxFifo] ++ ·)
  | .freeDev => someLines.map ([.dev] ++ ·)

def RemoveStep.held : RemoveStep → List Resource
  | .assertReset | .disablePm | .cancelWork | .stopSg | .destroyNode => boundResources
  | .destroyClass => ProbeStep.createNode.held
  | .delCdev => ProbeStep.createClass.held
  | .unregChrdev => ProbeStep.addCdev.held
  | .freeIrq => ProbeStep.allocChrdev.held
  | .freeRxFifo => [.dev, .rxFifo, .txFifo, .intReq, .hostRdy, .mcuReset]
  | .freeTxFifo => [.dev, .txFifo, .intReq, .hostRdy, .mcuReset]
  | .freeDev => [.dev, .intReq, .hostRdy, .mcuReset]

/-- What may be held at a stage. -/
def BridgeStage.held : BridgeStage → List (List Resource)
  | .unbound => [[]]
  | .probing next => [next.held]
  | .unwinding label => label.held
  | .bound => [boundResources]
  | .removing next => [next.held]
  | .releasing => someLines

/-- The RX work may be queued or running. -/
def BridgeStage.worked : BridgeStage → Bool
  | .bound => true
  | .removing next => next = .assertReset ∨ next = .disablePm ∨ next = .cancelWork
  | .unbound | .probing _ | .unwinding _ | .releasing => false

/-- The driver holds the MCU in reset. -/
def BridgeStage.inReset : BridgeStage → Bool
  | .probing next => .mcuReset ∈ next.held
  | .unwinding label => ∀ held ∈ label.held, .mcuReset ∈ held
  | .removing next => next ≠ .assertReset
  | .unbound | .bound | .releasing => false

/-- A file may be open. -/
def BridgeStage.openable : BridgeStage → Bool
  | .bound => true
  | .probing next => next = .releaseReset
  | .unbound | .unwinding _ | .removing _ | .releasing => false

/-- What is held is what the stage says. -/
structure Lifetime.Balanced (s : Lifetime) : Prop where
  held : s.held ∈ s.stage.held
  used : s.misused = false

structure Lifetime.Sound (s : Lifetime) : Prop where
  balanced : s.Balanced
  worked : s.pending = true ∨ s.running = true → s.stage.worked = true
  inReset : s.stage.inReset = true → s.mcuUp = false
  opened : s.opened = true → s.stage.openable = true

/-- The interrupt is taken while the work may run or the MCU is held in reset, and
whatever leads to the structure goes before it. -/
theorem BridgeStage.held_cases (stage : BridgeStage) : ∀ held ∈ stage.held,
    (.irq ∈ held → stage.worked = true ∨ stage.inReset = true) ∧
      (.node ∈ held → stage.openable = true ∨ stage.isRemoving = true) ∧
        (stage.worked = true ∨ stage.openable = true ∨ .irq ∈ held ∨ .cdev ∈ held ∨
          .node ∈ held → .dev ∈ held) := by
  cases stage with
  | unbound => decide
  | bound => decide
  | releasing => decide
  | probing next => cases next <;> decide
  | unwinding label => cases label <;> decide
  | removing next => cases next <;> decide

section

variable {s : Lifetime}

theorem Lifetime.acquire_held {r : Resource} {before after : List (List Resource)}
    (hheld : s.held ∈ before) (hall : ∀ held ∈ before, r ∉ held ∧ held ++ [r] ∈ after) :
    (s.acquire r).held ∈ after ∧ (s.acquire r).misused = s.misused := by
  obtain ⟨hnot, hafter⟩ := hall _ hheld
  exact ⟨hafter, by simp [Lifetime.acquire, hnot]⟩

theorem Lifetime.release_held {r : Resource} {before after : List (List Resource)}
    (hheld : s.held ∈ before) (hall : ∀ held ∈ before, r ∈ held ∧ held.erase r ∈ after) :
    (s.release r).held ∈ after ∧ (s.release r).misused = s.misused := by
  obtain ⟨hin, hafter⟩ := hall _ hheld
  exact ⟨hafter, by simp [Lifetime.release, hin]⟩

theorem Lifetime.probe_held {next : ProbeStep} (hheld : s.held ∈ (BridgeStage.probing next).held) :
    (s.probe next).held ∈ (s.probe next).stage.held ∧ (s.probe next).misused = s.misused := by
  cases next with
  | setupSpi | checkGpios | findIrq | releaseReset => exact ⟨hheld, rfl⟩
  | _ =>
      refine acquire_held hheld ?_
      dsimp only [Lifetime.probe]
      decide

/-- Each label gives back what the statements before its own have acquired. -/
theorem Lifetime.unwind_held {label : ErrLabel}
    (hheld : s.held ∈ (BridgeStage.unwinding label).held) :
    (s.unwind label).held ∈ (s.unwind label).stage.held ∧
      (s.unwind label).misused = s.misused := by
  cases label <;> refine release_held hheld ?_ <;> dsimp only [Lifetime.unwind] <;> decide

theorem Lifetime.remove_held {next : RemoveStep}
    (hheld : s.held ∈ (BridgeStage.removing next).held) (hstage : s.stage = .removing next) :
    (s.remove next).held ∈ (s.remove next).stage.held ∧ (s.remove next).misused = s.misused := by
  cases next with
  | assertReset | disablePm | stopSg => exact ⟨hheld, rfl⟩
  | cancelWork =>
      cases hrunning : s.running with
      | false =>
          simp only [Lifetime.remove, hrunning, Bool.false_eq_true, if_false]
          exact ⟨hheld, trivial⟩
      | true =>
          simp only [Lifetime.remove, hrunning, if_true, hstage]
          exact ⟨hheld, trivial⟩
  | _ =>
      refine release_held hheld ?_
      dsimp only [Lifetime.remove]
      decide

/-- Only the lines are managed and still held, and all of them are. -/
theorem Lifetime.releaseManaged_held (hheld : s.held ∈ BridgeStage.releasing.held) :
    s.releaseManaged.held = [] ∧ s.releaseManaged.misused = s.misused := by
  have hlines : s.held = [] ∨ s.held = [.intReq] ∨ s.held = [.intReq, .hostRdy] ∨
      s.held = [.intReq, .hostRdy, .mcuReset] := by
    simpa [BridgeStage.held, someLines] using hheld
  rcases hlines with h | h | h | h <;>
    simp [Lifetime.releaseManaged, Lifetime.release, h]

/-- What the work, the file and the MCU do is no concern of the driver core. -/
theorem Lifetime.releaseManaged_rest :
    s.releaseManaged.pending = s.pending ∧ s.releaseManaged.running = s.running ∧
      s.releaseManaged.opened = s.opened := by
  have hfold : ∀ (rs : List Resource) (t : Lifetime),
      (rs.foldl Lifetime.release t).pending = t.pending ∧
        (rs.foldl Lifetime.release t).running = t.running ∧
          (rs.foldl Lifetime.release t).opened = t.opened := by
    intro rs
    induction rs with
    | nil => exact fun _ => ⟨rfl, rfl, rfl⟩
    | cons r rs ih => exact fun t => ih (t.release r)
  exact hfold _ s

theorem Lifetime.Balanced.proceed (h : s.Balanced) (granted : Bool) :
    (s.step (.proceed granted)).Balanced := by
  cases hstage : s.stage with
  | unbound | bound => simpa [Lifetime.step, hstage] using h
  | probing next =>
      have hheld := h.held
      rw [hstage] at hheld
      simp only [Lifetime.step, hstage]
      split
      · exact ⟨(probe_held hheld).1, (probe_held hheld).2.trans h.used⟩
      · -- A failing statement leaves the resources to the labels.
        next hfails =>
        have hcover : ∀ held ∈ (BridgeStage.probing next).held, held ∈ next.onError.held := by
          cases next with
          | releaseReset => exact absurd (.inr rfl) hfails
          | _ => decide
        exact ⟨hcover _ hheld, h.used⟩
  | unwinding label =>
      have hheld := h.held
      rw [hstage] at hheld
      simp only [Lifetime.step, hstage]
      exact ⟨(unwind_held hheld).1, (unwind_held hheld).2.trans h.used⟩
  | removing next =>
      have hheld := h.held
      rw [hstage] at hheld
      simp only [Lifetime.step, hstage]
      exact ⟨(remove_held hheld hstage).1, (remove_held hheld hstage).2.trans h.used⟩
  | releasing =>
      have hheld := h.held
      rw [hstage] at hheld
      simp only [Lifetime.step, hstage]
      refine ⟨?_, (releaseManaged_held hheld).2.trans h.used⟩
      rw [(releaseManaged_held hheld).1]
      exact List.mem_singleton_self []

/-- The accounts stand whatever happens, also where the structure goes too early. -/
theorem Lifetime.Balanced.step (h : s.Balanced) (e : LifetimeEvent) : (s.step e).Balanced := by
  have hheld := h.held
  cases e with
  | proceed granted => exact h.proceed granted
  | probe =>
      simp only [Lifetime.step]
      split
      · next hstage =>
          rw [hstage] at hheld
          exact ⟨hheld, h.used⟩
      · exact h
  | remove =>
      simp only [Lifetime.step]
      split
      · next hstage =>
          rw [hstage] at hheld
          exact ⟨hheld, h.used⟩
      · exact h
  | interrupt | workStart | «open» =>
      simp only [Lifetime.step]
      split
      · exact ⟨hheld, h.used⟩
      · exact h
  | workEnd | close => exact ⟨hheld, h.used⟩

theorem Lifetime.Balanced.start (mcuUp : Bool) : (Lifetime.start mcuUp).Balanced :=
  ⟨List.mem_singleton_self [], rfl⟩

/-- Where no work is due there is none, and no file is open where none may be. -/
theorem Lifetime.Sound.still (h : s.Sound) (hstage : s.stage.worked = false) :
    ¬ (s.pending = true ∨ s.running = true) := by
  intro hwork
  simp [h.worked hwork] at hstage

theorem Lifetime.Sound.closed (h : s.Sound) (hstage : s.stage.openable = false) :
    ¬ s.opened = true := by
  intro hopen
  simp [h.opened hopen] at hstage

theorem Lifetime.Sound.probe (h : s.Sound) {next : ProbeStep} (hstage : s.stage = .probing next)
    (hafter : (s.probe next).Balanced) : (s.probe next).Sound where
  balanced := hafter
  worked := by
    intro hwork
    have hsame : (s.probe next).pending = s.pending ∧ (s.probe next).running = s.running := by
      cases next <;> exact ⟨rfl, rfl⟩
    rw [hsame.1, hsame.2] at hwork
    exact absurd hwork (h.still (by rw [hstage]; rfl))
  inReset := by
    have hreset := h.inReset
    rw [hstage] at hreset
    cases next with
    | requestMcuReset => exact fun _ => rfl
    | findIrq | requestIrq | allocChrdev | addCdev | createClass | createNode =>
        exact fun _ => hreset (by decide)
    | _ =>
        intro hin
        exact absurd hin (by dsimp only [Lifetime.probe]; decide)
  opened := by
    intro hopen
    have hsame : (s.probe next).opened = s.opened := by cases next <;> rfl
    have hbefore := h.opened (hsame ▸ hopen)
    rw [hstage] at hbefore
    obtain rfl : next = .releaseReset := by simpa [BridgeStage.openable] using hbefore
    rfl

theorem Lifetime.Sound.fail (h : s.Sound) {next : ProbeStep} (hstage : s.stage = .probing next)
    (hnext : next ≠ .releaseReset) (hafter : { s with stage := next.onError }.Balanced) :
    { s with stage := next.onError }.Sound where
  balanced := hafter
  worked := fun hwork => absurd hwork (h.still (by rw [hstage]; rfl))
  inReset := by
    have hreset := h.inReset
    rw [hstage] at hreset
    have hcover : next.onError.inReset = true → (BridgeStage.probing next).inReset = true := by
      cases next <;> decide
    exact fun hin => hreset (hcover hin)
  opened := by
    intro hopen
    refine absurd hopen (h.closed ?_)
    simp [hstage, BridgeStage.openable, hnext]

theorem Lifetime.Sound.unwind (h : s.Sound) {label : ErrLabel}
    (hstage : s.stage = .unwinding label) (hafter : (s.unwind label).Balanced) :
    (s.unwind label).Sound where
  balanced := hafter
  worked := by
    intro hwork
    have hsame : (s.unwind label).pending = s.pending ∧ (s.unwind label).running = s.running := by
      cases label <;> exact ⟨rfl, rfl⟩
    rw [hsame.1, hsame.2] at hwork
    exact absurd hwork (h.still (by rw [hstage]; rfl))
  inReset := by
    have hreset := h.inReset
    rw [hstage] at hreset
    cases label with
    | destroyClass | delCdev | unregChrdev => exact fun _ => hreset (by decide)
    | _ =>
        intro hin
        exact absurd hin (by dsimp only [Lifetime.unwind]; decide)
  opened := by
    intro hopen
    have hsame : (s.unwind label).opened = s.opened := by cases label <;> rfl
    exact absurd (hsame ▸ hopen) (h.closed (by rw [hstage]; rfl))

/-- `cancel_work_sync` comes before the first release, with the MCU in reset. -/
theorem Lifetime.Sound.remove (h : s.Sound) {next : RemoveStep}
    (hstage : s.stage = .removing next) (hafter : (s.remove next).Balanced) :
    (s.remove next).Sound where
  balanced := hafter
  worked := by
    intro hwork
    cases next with
    | assertReset | disablePm => rfl
    | cancelWork =>
        cases hrunning : s.running with
        | true => simp [Lifetime.remove, hrunning, hstage, BridgeStage.worked]
        | false => simp [Lifetime.remove, hrunning] at hwork
    | _ => exact absurd hwork (h.still (by rw [hstage]; decide))
  inReset := by
    have hreset := h.inReset
    rw [hstage] at hreset
    cases next with
    | assertReset => exact fun _ => rfl
    | cancelWork =>
        cases hrunning : s.running <;>
          simpa [Lifetime.remove, hrunning] using fun _ => hreset (by decide)
    | _ => exact fun _ => hreset (by decide)
  opened := by
    intro hopen
    have hsame : (s.remove next).opened = s.opened := by
      cases next with
      | cancelWork => cases hrunning : s.running <;> simp [Lifetime.remove, hrunning]
      | _ => rfl
    exact absurd (hsame ▸ hopen) (h.closed (by rw [hstage]; rfl))

theorem Lifetime.Sound.releaseManaged (h : s.Sound) (hstage : s.stage = .releasing)
    (hafter : s.releaseManaged.Balanced) : s.releaseManaged.Sound where
  balanced := hafter
  worked := by
    rw [Lifetime.releaseManaged_rest.1, Lifetime.releaseManaged_rest.2.1]
    exact fun hwork => absurd hwork (h.still (by rw [hstage]; rfl))
  inReset := fun hin => absurd hin Bool.false_ne_true
  opened := by
    rw [Lifetime.releaseManaged_rest.2.2]
    exact fun hopen => absurd hopen (h.closed (by rw [hstage]; rfl))

theorem Lifetime.Sound.proceed (h : s.Sound) (granted : Bool) :
    (s.step (.proceed granted)).Sound := by
  have hafter := h.balanced.proceed granted
  cases hstage : s.stage with
  | unbound | bound => simpa [Lifetime.step, hstage] using h
  | probing next =>
      simp only [Lifetime.step, hstage] at hafter ⊢
      split at hafter
      · next hgoes =>
          rw [if_pos hgoes]
          exact h.probe hstage hafter
      · next hfails =>
          rw [if_neg hfails]
          exact h.fail hstage (fun hnext => hfails (.inr hnext)) hafter
  | unwinding label =>
      simp only [Lifetime.step, hstage] at hafter ⊢
      exact h.unwind hstage hafter
  | removing next =>
      simp only [Lifetime.step, hstage] at hafter ⊢
      exact h.remove hstage hafter
  | releasing =>
      simp only [Lifetime.step, hstage] at hafter ⊢
      exact h.releaseManaged hstage hafter

theorem Lifetime.Sound.step (h : s.Sound) {e : LifetimeEvent} (he : s.Orderly e) :
    (s.step e).Sound := by
  obtain ⟨hirq, hnode, -⟩ := s.stage.held_cases s.held h.balanced.held
  obtain ⟨⟨hheld, hused⟩, hworked, hreset, hopened⟩ := h
  cases e with
  | proceed granted =>
      exact Lifetime.Sound.proceed ⟨⟨hheld, hused⟩, hworked, hreset, hopened⟩ granted
  | probe =>
      simp only [Lifetime.step]
      split
      · next hstage =>
          rw [hstage] at hheld hworked hopened
          exact ⟨⟨hheld, hused⟩, hworked, fun hin => absurd hin Bool.false_ne_true, hopened⟩
      · exact ⟨⟨hheld, hused⟩, hworked, hreset, hopened⟩
  | remove =>
      simp only [Lifetime.step]
      split
      · next hstage =>
          rw [hstage] at hheld hworked
          refine ⟨⟨hheld, hused⟩, hworked, fun hin => absurd hin Bool.false_ne_true,
            fun hopen => ?_⟩
          exact absurd (hopen.symm.trans he) (by decide)
      · exact ⟨⟨hheld, hused⟩, hworked, hreset, hopened⟩
  | interrupt =>
      simp only [Lifetime.step]
      split
      · next hheard =>
          have hnotReset : ¬ s.stage.inReset = true := fun hin =>
            absurd (he.symm.trans (hreset hin)) (by decide)
          have hwork : s.stage.worked = true := (hirq hheard).resolve_right hnotReset
          exact ⟨⟨hheld, hused⟩, fun _ => hwork, hreset, hopened⟩
      · exact ⟨⟨hheld, hused⟩, hworked, hreset, hopened⟩
  | workStart =>
      simp only [Lifetime.step]
      split
      · next hdue => exact ⟨⟨hheld, hused⟩, fun _ => hworked (.inl hdue.1), hreset, hopened⟩
      · exact ⟨⟨hheld, hused⟩, hworked, hreset, hopened⟩
  | workEnd =>
      refine ⟨⟨hheld, hused⟩, fun hwork => hworked ?_, hreset, hopened⟩
      exact hwork.imp_right (absurd · Bool.false_ne_true)
  | «open» =>
      simp only [Lifetime.step]
      split
      · next hfound =>
          have hstays : ¬ s.stage.isRemoving = true := fun hin =>
            absurd (hin.symm.trans he) (by decide)
          exact ⟨⟨hheld, hused⟩, hworked, hreset, fun _ => (hnode hfound.1).resolve_right hstays⟩
      · exact ⟨⟨hheld, hused⟩, hworked, hreset, hopened⟩
  | close => exact ⟨⟨hheld, hused⟩, hworked, hreset, fun hopen => absurd hopen Bool.false_ne_true⟩

theorem Lifetime.Sound.start (mcuUp : Bool) : (Lifetime.start mcuUp).Sound where
  balanced := .start mcuUp
  worked := fun hwork => hwork.elim (absurd · Bool.false_ne_true) (absurd · Bool.false_ne_true)
  inReset := fun hin => absurd hin Bool.false_ne_true
  opened := fun hopen => absurd hopen Bool.false_ne_true

end

/-- The three ways in which the structure goes too early: an interrupt while the probe
that fails still holds the MCU in reset, a file opened while the driver is being
removed, and one still open then. -/
theorem dev_lost :
    let proceed (n : Nat) : List LifetimeEvent := List.replicate n (.proceed true)
    let lost (es : List LifetimeEvent) : Prop :=
      let s := run Lifetime.step (Lifetime.start false) es
      (s.pending = true ∨ s.opened = true) ∧ .dev ∉ s.held
    lost (.probe :: proceed 10 ++ .interrupt :: .proceed false :: proceed 4) ∧
      lost (.probe :: proceed 15 ++ .remove :: .open :: proceed 12) ∧
      lost (.probe :: proceed 15 ++ .open :: .remove :: proceed 12) := by
  decide +kernel

end GhostBlade.Host
