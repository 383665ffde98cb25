import GhostBlade.Host.SgSystem

/-!
The memory of the scatter-gather engine. Whatever a start allocates is balanced
against what the engine points to, as long as a run stays clear of three steps:
a single batch that stops itself, a stop that frees while a transfer is still
under way, and a removal behind which somebody has started the engine again.
Each of these breaks the balance at once.
-/

namespace GhostBlade.Host

open GhostBlade.Library

theorem SgBufs.dmas_all (b : SgBufs) :
    b.dmas b.descs.length = (List.range b.descs.length).map (SgAlloc.dma b.start) := by
  unfold SgBufs.dmas
  rw [List.filter_eq_self.mpr]
  intro i hi
  exact decide_eq_true (List.mem_range.mp hi)

namespace SgSystem

/-- All that the engine points to. -/
def held (s : SgSystem) : List SgAlloc := s.pointed (s.bufs.elim 0 fun b => b.descs.length)

theorem held_some {s : SgSystem} {b : SgBufs} (hb : s.bufs = some b) (hs : s.sgl = some b.start) :
    s.held = (List.range b.descs.length).map (SgAlloc.dma b.start) ++ [.bufs b.start] ++
      [.sgl b.start] := by
  simp only [held, pointed, hb, hs, Option.elim, b.dmas_all]

theorem held_none {s : SgSystem} (hb : s.bufs = none) (hs : s.sgl = none) : s.held = [] := by
  simp only [held, pointed, hb, hs, List.append_nil]

theorem SameMemory.held {s s' : SgSystem} (h : SameMemory s s') : s'.held = s.held := by
  cases hb' : s'.bufs with
  | none => simp only [SgSystem.held, pointed, hb', h.bufs_none.mp hb', h.sgl]
  | some b' =>
      obtain ⟨b, hb, hext⟩ := h.bufs_some hb'
      obtain ⟨hstart, -, hlen⟩ : b.start = b'.start ∧ b.bufSize = b'.bufSize ∧
          b.descs.length = b'.descs.length := by
        simpa [SgBufs.extent] using hext
      simp only [SgSystem.held, pointed, hb, hb', h.sgl, Option.elim, SgBufs.dmas_all]
      rw [hstart, hlen]

/-- The worker has work, a transfer is in flight, or its callback runs. -/
def Busy (s : SgSystem) : Prop := s.work ≠ .idle ∨ ¬ s.Quiet

/-- Nothing is freed twice or lost; an engine that is idle when its lock is free,
or whose device is gone, has nothing outstanding; whoever runs finds the array. -/
structure Lifetime (s : SgSystem) : Prop where
  once : s.ledger.freed.Nodup ∧ s.ledger.freed ⊆ s.ledger.allocated
  kept : ∀ a ∈ s.ledger.allocated, a ∈ s.ledger.freed ∨ a ∈ s.held
  idle : s.lock = .free → s.eng.state = .idle → s.ledger.Settled
  gone : s.remove = .gone → s.ledger.Settled
  live : s.Busy → s.bufs ≠ none ∧ s.remove ≠ .gone

/-- No batch stops itself while no stop is under way, no stop frees while a
transfer is in flight or has its callback running, and the device is not freed
while the engine has buffers. -/
def Contained (s : SgSystem) : SgEvent → Prop
  | .worker _ => s.work = .check → s.BatchDone → s.lock ≠ .free
  | .stopEnd => s.Cancels → s.Quiet
  | .removeEnd => s.remove = .stopped → s.bufs = none
  | _ => True

structure LifetimeInv (s : SgSystem) : Prop where
  balanced : s.ledger.Balanced s.held
  fresh : ∀ a ∈ s.ledger.allocated, a.start < s.starts
  unfreed : ∀ b, s.bufs = some b → ∀ a ∈ s.ledger.freed, a.start ≠ b.start
  sgl : s.sgl = s.bufs.map SgBufs.start
  whole : ∀ b, s.bufs = some b → (∀ config, s.lock ≠ .starting config) →
    b.descs.length = s.eng.bufCount.toNat
  starting : ∀ config, s.lock = .starting config → ¬ s.Busy ∧ s.bufs ≠ none
  busy : s.Busy → s.bufs ≠ none
  running : s.lock = .free → s.work ≠ .idle → s.eng.state = .running
  idle : s.lock = .free → s.eng.state = .idle → s.bufs = none
  gone : s.remove = .gone → s.bufs = none

namespace LifetimeInv

variable {s s' : SgSystem}

theorem init : LifetimeInv .init where
  balanced := .empty
  fresh := nofun
  unfreed := nofun
  sgl := rfl
  whole := nofun
  starting := nofun
  busy := by
    rintro (hwork | hquiet)
    · exact absurd rfl hwork
    · exact absurd ⟨rfl, rfl⟩ hquiet
  running := fun _ h => absurd rfl h
  idle := fun _ _ => rfl
  gone := nofun

theorem sgl_none (h : LifetimeInv s) (hb : s.bufs = none) : s.sgl = none := by
  rw [h.sgl, hb]
  rfl

theorem sgl_some (h : LifetimeInv s) {b : SgBufs} (hb : s.bufs = some b) :
    s.sgl = some b.start := by
  rw [h.sgl, hb]
  rfl

theorem settled (h : LifetimeInv s) (hb : s.bufs = none) : s.ledger.Settled :=
  h.balanced.settled_iff.mpr (held_none hb (h.sgl_none hb))

theorem unsettled (h : LifetimeInv s) (hb : s.bufs ≠ none) : ¬ s.ledger.Settled := by
  obtain ⟨b, hb⟩ := Option.ne_none_iff_exists'.mp hb
  rw [h.balanced.settled_iff, held_some hb (h.sgl_some hb)]
  simp

theorem start_lt (h : LifetimeInv s) {b : SgBufs} (hb : s.bufs = some b) : b.start < s.starts := by
  refine h.fresh (.bufs b.start) (h.balanced.held_allocated ?_)
  simp [held_some hb (h.sgl_some hb)]

theorem lifetime (h : LifetimeInv s) : s.Lifetime where
  once := h.balanced.freed_once
  kept := fun _ ha => h.balanced.freed_or_held ha
  idle := fun hlock hidle => h.settled (h.idle hlock hidle)
  gone := fun hgone => h.settled (h.gone hgone)
  live := fun hbusy => ⟨h.busy hbusy, fun hgone => h.busy hbusy (h.gone hgone)⟩

/-- A step that leaves the memory alone. -/
theorem of_memory (h : LifetimeInv s) (hm : SameMemory s s') (hbusy : s'.Busy → s.Busy)
    (hrun : s'.lock = .free → s'.work ≠ .idle → s'.eng.state = .running)
    (hidle : s'.lock = .free → s'.eng.state = .idle → s'.bufs = none) : LifetimeInv s' where
  balanced := by
    rw [hm.ledger, hm.held]
    exact h.balanced
  fresh := by
    rw [hm.ledger, hm.starts]
    exact h.fresh
  unfreed := by
    rw [hm.ledger]
    intro b' hb'
    obtain ⟨b, hb, hext⟩ := hm.bufs_some hb'
    have hstart : b.start = b'.start := congrArg Prod.fst hext
    rw [← hstart]
    exact h.unfreed b hb
  sgl := by
    rw [hm.sgl, h.sgl]
    have hstarts := congrArg (Option.map Prod.fst) hm.extent
    simpa only [Option.map_map, SgBufs.extent, Function.comp_def] using hstarts.symm
  whole := by
    intro b' hb' hlock
    obtain ⟨b, hb, hext⟩ := hm.bufs_some hb'
    rw [hm.bufCount, ← h.whole b hb (hm.lock ▸ hlock)]
    exact (congrArg (fun e => e.2.2) hext).symm
  starting := by
    intro config hlock
    obtain ⟨hquiet, hb⟩ := h.starting config (hm.lock ▸ hlock)
    exact ⟨fun hb' => hquiet (hbusy hb'), fun hb' => hb (hm.bufs_none.mp hb')⟩
  busy := fun hb hnone => h.busy (hbusy hb) (hm.bufs_none.mp hnone)
  running := hrun
  idle := hidle
  gone := fun hgone => hm.bufs_none.mpr (h.gone (hm.remove ▸ hgone))

/-- An engine without memory. -/
theorem of_none (hbal : s.ledger.Balanced [])
    (hfresh : ∀ a ∈ s.ledger.allocated, a.start < s.starts) (hb : s.bufs = none)
    (hs : s.sgl = none) (hquiet : ¬ s.Busy)
    (hlock : ∀ config, s.lock ≠ .starting config) : LifetimeInv s where
  balanced := (held_none hb hs).symm ▸ hbal
  fresh := hfresh
  unfreed := fun b hb' => nomatch hb.symm.trans hb'
  sgl := by rw [hb, hs]; rfl
  whole := fun b hb' => nomatch hb.symm.trans hb'
  starting := fun config hlock' => absurd hlock' (hlock config)
  busy := fun hbusy => absurd hbusy hquiet
  running := fun _ hwork => absurd (.inl hwork) hquiet
  idle := fun _ _ => hb
  gone := fun _ => hb

theorem not_busy (h : LifetimeInv s) (hb : s.bufs = none) : ¬ s.Busy := fun hbusy =>
  h.busy hbusy hb

theorem balanced_none (h : LifetimeInv s) (hb : s.bufs = none) : s.ledger.Balanced [] :=
  held_none hb (h.sgl_none hb) ▸ h.balanced

theorem fresh_starts (h : LifetimeInv s) {a : SgAlloc} (ha : a.start = s.starts) :
    a ∉ s.ledger.allocated := fun hold => absurd (h.fresh a hold) (ha ▸ lt_irrefl _)

/-- The array and the scatterlist of a start. -/
theorem began (h : LifetimeInv s) (hb : s.bufs = none) (hremove : s.remove ≠ .gone)
    (config : SgConfig) :
    LifetimeInv
      { s with
        bufs := some ⟨s.starts, config.bufSize, []⟩
        sgl := some s.starts
        starts := s.starts + 1
        lock := .starting config
        ledger := s.ledger.alloc [.bufs s.starts, .sgl s.starts] } where
  balanced := by
    have hnew : [SgAlloc.bufs s.starts, .sgl s.starts].Nodup := by simp
    refine (h.balanced_none hb).alloc hnew ?_
    intro a ha
    refine h.fresh_starts ?_
    rcases List.mem_pair.mp ha with rfl | rfl <;> rfl
  fresh := by
    intro a ha
    rcases List.mem_append.mp ha with hold | hnew
    · exact (h.fresh a hold).trans (Nat.lt_succ_self _)
    · rcases List.mem_pair.mp hnew with rfl | rfl <;> exact Nat.lt_succ_self _
  unfreed := by
    rintro b ⟨⟩ a ha
    exact (h.fresh a (h.balanced.freed_once.2 ha)).ne
  sgl := rfl
  whole := fun b _ hlock => absurd rfl (hlock config)
  starting := fun _ _ => ⟨h.not_busy hb, nofun⟩
  busy := fun _ => nofun
  running := nofun
  idle := nofun
  gone := fun hgone => absurd hgone hremove

/-- One more DMA buffer. -/
theorem dma (h : LifetimeInv s) {config : SgConfig} {b : SgBufs} (hlock : s.lock = .starting config)
    (hb : s.bufs = some b) :
    LifetimeInv
      { s with
        bufs := some { b with descs := b.descs ++ [.fresh b.descs.length] }
        ledger := s.ledger.alloc [.dma b.start b.descs.length] } where
  balanced := by
    have hheld := held_some hb (h.sgl_some hb)
    have hnew : SgAlloc.dma b.start b.descs.length ∉ s.ledger.allocated := by
      intro hold
      rcases h.balanced.freed_or_held hold with hfreed | hin
      · exact h.unfreed b hb _ hfreed rfl
      · simp [hheld] at hin
    have hgrown : ∀ s' : SgSystem,
        s'.bufs = some { b with descs := b.descs ++ [.fresh b.descs.length] } →
          s'.sgl = some b.start →
            (s.held ++ [SgAlloc.dma b.start b.descs.length]).Perm s'.held := by
      intro s' hb' hs'
      rw [hheld, held_some hb' hs', List.length_append, List.length_singleton, List.range_succ,
        List.map_append]
      simp only [List.append_assoc]
      refine List.Perm.append_left _ ?_
      exact @List.perm_append_comm SgAlloc [.bufs b.start, .sgl b.start] [.dma b.start _]
    have hbal := h.balanced.alloc (List.nodup_singleton _) (by simpa using hnew)
    refine hbal.perm (hgrown _ ?_ ?_)
    · rfl
    · exact h.sgl_some hb
  fresh := by
    intro a ha
    rcases List.mem_append.mp ha with hold | hnew
    · exact h.fresh a hold
    · rw [List.mem_singleton.mp hnew]
      exact h.start_lt hb
  unfreed := by
    rintro b' ⟨⟩
    exact h.unfreed b hb
  sgl := (h.sgl_some hb : s.sgl = some b.start)
  whole := fun b' _ hlock' => absurd hlock (hlock' config)
  starting := fun config' hlock' => ⟨(h.starting config' hlock').1, nofun⟩
  busy := fun _ => nofun
  running := h.running
  idle := fun hfree => nomatch hlock.symm.trans hfree
  gone := fun hgone => nomatch hb.symm.trans (h.gone hgone)

/-- What the engine points to is freed. -/
theorem freed (h : LifetimeInv s) {count : Nat} (hcount : ∀ b, s.bufs = some b →
    b.descs.length = count) : (s.ledger.free (s.pointed count)).Balanced [] := by
  refine h.balanced.free ?_
  rw [List.append_nil]
  cases hb : s.bufs with
  | none => simp [held_none hb (h.sgl_none hb), pointed, hb, h.sgl_none hb]
  | some b => simp [held, hb, hcount b hb]

theorem control {e : SgEvent} (h : LifetimeInv s) (hcont : s.Contained e) (hc : Control s e s') :
    LifetimeInv s' := by
  cases hc with
  | refused => exact h
  | noBufs hlock hidle =>
      have hb := h.idle hlock hidle
      have hs : { s with bufs := none } = s := by rw [← hb]
      rwa [hs]
  | noSgl hlock hidle =>
      have hb := h.idle hlock hidle
      have hbal : (s.ledger.alloc [.bufs s.starts]).Balanced ([] ++ [.bufs s.starts]) := by
        refine (h.balanced_none hb).alloc (List.nodup_singleton _) ?_
        intro a ha
        rw [List.mem_singleton.mp ha]
        exact h.fresh_starts rfl
      refine of_none (hbal.free (List.Perm.refl _)) ?_ rfl rfl (h.not_busy hb) ?_
      · intro a ha
        rcases List.mem_append.mp ha with hold | hnew
        · exact (h.fresh a hold).trans (Nat.lt_succ_self _)
        · rw [List.mem_singleton.mp hnew]
          exact Nat.lt_succ_self _
      · exact fun config hlock' => nomatch hlock.symm.trans hlock'
  | began config hvalid hlock hremove hidle => exact h.began (h.idle hlock hidle) hremove config
  | dma config b hlock hbufs hlt => exact h.dma hlock hbufs
  | rolledBack config b hlock hbufs =>
      refine of_none (h.freed ?_) h.fresh rfl rfl (h.starting config hlock).1 nofun
      intro b' hb'
      rw [Option.some.inj (hb'.symm.trans hbufs)]
  | ran config b hlock hbufs hlen =>
      exact
        { balanced := h.balanced
          fresh := h.fresh
          unfreed := h.unfreed
          sgl := h.sgl
          whole := by
            intro b' hb' _
            rw [Option.some.inj (hb'.symm.trans hbufs)]
            exact hlen
          starting := nofun
          busy := fun _ hnone => nomatch hbufs.symm.trans hnone
          running := fun _ _ => rfl
          idle := nofun
          gone := h.gone }
  | stopping remove hlock hstate hremove =>
      exact
        { balanced := h.balanced
          fresh := h.fresh
          unfreed := h.unfreed
          sgl := h.sgl
          whole := fun b hb _ => h.whole b hb fun config hlock' => nomatch hlock.symm.trans hlock'
          starting := nofun
          busy := h.busy
          running := nofun
          idle := nofun
          gone := fun hgone => absurd hgone hremove }
  | stopped remove hcancels hremove =>
      refine of_none (h.freed fun b hb => h.whole b hb ?_) h.fresh rfl rfl ?_ nofun
      · exact fun config hlock => nomatch hcancels.1.symm.trans hlock
      · rintro (hwork | hquiet)
        · exact hwork rfl
        · exact hquiet (hcont hcancels)
  | removed hlock hidle =>
      exact
        { balanced := h.balanced
          fresh := h.fresh
          unfreed := h.unfreed
          sgl := h.sgl
          whole := h.whole
          starting := h.starting
          busy := h.busy
          running := h.running
          idle := h.idle
          gone := nofun }
  | gone hstopped =>
      exact
        { balanced := h.balanced
          fresh := h.fresh
          unfreed := h.unfreed
          sgl := h.sgl
          whole := h.whole
          starting := h.starting
          busy := h.busy
          running := h.running
          idle := h.idle
          gone := fun _ => hcont hstopped }

theorem worker {ok : Bool} (h : LifetimeInv s) (hcont : s.Contained (.worker ok)) :
    LifetimeInv (s.worker ok) := by
  have hm := s.worker_memory ok
  refine h.of_memory hm ?_ ?_ ?_
  · intro hbusy
    by_cases hwork : s.work = .idle
    · rwa [SgSystem.worker, hwork] at hbusy
    · exact .inl hwork
  · intro hlock hwork
    obtain ⟨hbefore, hstate⟩ := worker_state hwork
    exact hstate.trans (h.running (hm.lock ▸ hlock) hbefore)
  · intro hlock hidle
    rcases worker_idle hidle with hbefore | ⟨hcheck, hdone⟩
    · exact hm.bufs_none.mpr (h.idle (hm.lock ▸ hlock) hbefore)
    · exact absurd (hm.lock ▸ hlock) (hcont hcheck hdone)

theorem finish (h : LifetimeInv s) (k : Nat) : LifetimeInv (s.finish k) := by
  have hm := s.finish_memory k
  unfold SgSystem.finish at hm ⊢
  split at hm
  next t hc ht =>
      refine h.of_memory hm ?_ h.running h.idle
      intro _
      refine .inr fun hquiet => ?_
      rw [hquiet.1] at ht
      cases ht
  next => exact h

theorem callback (h : LifetimeInv s) (now : BitVec 64) : LifetimeInv (s.apexSgDmaCallback now) := by
  have hm := s.callback_memory now
  cases hc : s.callback with
  | none =>
      rw [apexSgDmaCallback, hc] at hm ⊢
      exact h
  | some c =>
      obtain ⟨hwork, hstate⟩ := s.callback_state now
      refine h.of_memory hm ?_ ?_ ?_
      · exact fun _ => .inr fun hquiet => nomatch hc.symm.trans hquiet.2
      · intro hlock hbusy
        exact hstate.trans (h.running (hm.lock ▸ hlock) (hwork ▸ hbusy))
      · intro hlock hidle
        exact hm.bufs_none.mpr (h.idle (hm.lock ▸ hlock) (hstate ▸ hidle))

theorem step (h : LifetimeInv s) {e : SgEvent} (hcont : s.Contained e) :
    LifetimeInv (s.step e) := by
  refine step_cases e ?_ ?_ h.finish h.callback
  · exact fun s' hc => h.control hcont hc
  · rintro ok rfl
    exact h.worker hcont

/-- Each of the three steps shows at once. -/
theorem contained (h : LifetimeInv s) {e : SgEvent} (hlife : (s.step e).Lifetime) :
    s.Contained e := by
  cases e with
  | worker ok =>
      intro hcheck hdone hlock
      have hstep : s.worker ok =
          { s with eng := { s.eng with state := .idle }, work := .idle } := by
        simp only [SgSystem.worker, hcheck]
        exact if_pos hdone
      have hworking : s.work ≠ .idle := by simp [hcheck]
      have hb := h.busy (.inl hworking)
      change (s.worker ok).Lifetime at hlife
      rw [hstep] at hlife
      exact h.unsettled hb (hlife.idle hlock rfl)
  | stopEnd =>
      intro hcancels
      by_contra hquiet
      have hlive := hlife.live
      change (s.stopEnd).Busy → s.stopEnd.bufs ≠ none ∧ _ at hlive
      rw [stopEnd, if_pos hcancels] at hlive
      exact (hlive (.inr hquiet)).1 rfl
  | removeEnd =>
      intro hstopped
      by_contra hb
      have hgone := hlife.gone
      change s.removeEnd.remove = .gone → s.removeEnd.ledger.Settled at hgone
      rw [removeEnd, if_pos hstopped] at hgone
      exact h.unsettled hb (hgone rfl)
  | _ => trivial

end LifetimeInv

/-- A run keeps the memory in order exactly when none of its steps is one of the
three. -/
theorem sg_lifetime_iff (es : List SgEvent) :
    Along step (fun s e => (s.step e).Lifetime) .init es ↔ Along step Contained .init es := by
  constructor
  · refine along_mono ?_ ?_ LifetimeInv.init
    · exact fun s e h hlife => h.step (h.contained hlife)
    · exact fun s e h hlife => h.contained hlife
  · refine along_mono ?_ ?_ LifetimeInv.init
    · exact fun s e h hcont => h.step hcont
    · exact fun s e h hcont => (h.step hcont).lifetime

/-- The batch stops itself, the stop finds the engine idle, and the next start
loses the pointers. -/
theorem batch_leaks :
    ¬ (run step .init
        (started ++ filled ++ filled ++
          [.stopBegin, .startBegin batchConfig true true])).Lifetime := by
  intro h
  have hlost := h.kept (.dma 0 0)
  revert hlost
  decide +kernel

end SgSystem

end GhostBlade.Host
