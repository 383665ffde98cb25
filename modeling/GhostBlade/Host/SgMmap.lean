import GhostBlade.Host.SgSystem

/-!
`mmap` of the scatter-gather buffers. The driver presents the pool as one region,
but each buffer is an allocation of its own; it checks size and offset against
the whole pool under the lock, and maps from the first buffer behind it. What is
mapped lies inside a buffer only when it ends within the first one, and when the
engine keeps that array until the call returns.
-/

namespace GhostBlade.Host

open GhostBlade.Library

def enxio : Int := 6

/-- `size` bytes from `offset` on, counted from the handle of a DMA buffer; there
is no buffer behind the handle of an entry that has not been allocated. -/
structure SgMapping where
  region : Option SgAlloc
  offset : Nat
  size : Nat
deriving DecidableEq

/-- `dma_mmap_coherent` for a mapping of `vsize` bytes at page `pgoff`, with the platform's
`PAGE_SHIFT`. -/
def dmaMmapCoherent (pageShift : Nat) (region : Option SgAlloc) (vsize pgoff size : Nat) :
    Except Int SgMapping :=
  if pgoff <<< pageShift + vsize ≤ size then .ok ⟨region, pgoff <<< pageShift, vsize⟩
  else .error (-enxio)

namespace SgSystem

/-- The checks of `apex_bridge_mmap`; the first of them holds the lock. -/
def mmapCheck (pageShift vsize pgoff : Nat) (s : SgSystem) : Except Int Nat :=
  if s.eng.state = .idle then .error (-enodev)
  else
    let psize := s.eng.bufCount.toNat * s.eng.bufSize.toNat
    if vsize > psize then .error (-einval)
    else if pgoff ≥ psize >>> pageShift then .error (-einval)
    else .ok psize

/-- `apex_bridge_mmap`, which finds the system as `checked` while it holds the
lock and as `used` when it reads `eng->bufs[0]`. It does not return when the lock
is taken, or from a null pointer. -/
def apexBridgeMmap (pageShift vsize pgoff : Nat) (checked used : SgSystem) :
    Option (Except Int SgMapping) :=
  if checked.lock = .free then
    match checked.mmapCheck pageShift vsize pgoff with
    | .error ret => some (.error ret)
    | .ok psize =>
        match used.bufs with
        | none => none
        | some b => some (dmaMmapCoherent pageShift (b.dmas 1).head? vsize pgoff psize)
  else none

/-- A byte of a DMA buffer, by its distance from the buffer's handle, lies inside
one of the buffers of the engine. -/
def Contains (s : SgSystem) (region : SgAlloc) (offset : Nat) : Prop :=
  ∃ b i, s.bufs = some b ∧ region = .dma b.start i ∧ i < b.descs.length ∧
    offset < b.bufSize.toNat

def Live (s : SgSystem) (m : SgMapping) : Prop :=
  ∀ i < m.size, ∃ region, m.region = some region ∧ s.Contains region (m.offset + i)

/-- The step neither frees the array nor overwrites the pointer to it. -/
def Keeps (s : SgSystem) (e : SgEvent) : Prop :=
  (s.step e).bufs.map SgBufs.start = s.bufs.map SgBufs.start

instance Keeps.decidable (s : SgSystem) (e : SgEvent) : Decidable (s.Keeps e) :=
  inferInstanceAs (Decidable (_ = _))

/-- Arrays are told apart by the start that allocated them. -/
def Numbered (s : SgSystem) : Prop := ∀ b, s.bufs = some b → b.start < s.starts

theorem Numbered.step {s : SgSystem} (h : s.Numbered) (e : SgEvent) : (s.step e).Numbered := by
  have hmemory : ∀ s', SameMemory s s' → s'.Numbered := by
    intro s' hm b' hb'
    obtain ⟨b, hb, hext⟩ := hm.bufs_some hb'
    have hstart : b.start = b'.start := congrArg Prod.fst hext
    rw [hm.starts, ← hstart]
    exact h b hb
  refine step_cases e ?_ (fun ok _ => hmemory _ (s.worker_memory ok))
    (fun k => hmemory _ (s.finish_memory k)) (fun now => hmemory _ (s.callback_memory now))
  intro s' hc
  cases hc with
  | noBufs | noSgl | rolledBack | stopped => exact nofun
  | began =>
      rintro b ⟨⟩
      exact Nat.lt_succ_self _
  | dma config b hlock hbufs hlt =>
      rintro b' ⟨⟩
      exact h b hbufs
  | _ => exact h

theorem numbered_run (es : List SgEvent) : (run step .init es).Numbered := by
  refine run_invariant (I := Numbered) (fun _ e h => h.step e) ?_ es
  rintro b ⟨⟩

/-- As long as the engine points to the array of start `k`, its extent is as `P`
says. -/
structure Recorded (k : Nat) (P : BitVec 32 → Nat → Prop) (s : SgSystem) : Prop where
  past : k < s.starts
  same : ∀ b, s.bufs = some b → b.start = k → P b.bufSize b.descs.length

theorem Recorded.step {k : Nat} {P : BitVec 32 → Nat → Prop} {s : SgSystem}
    (h : Recorded k P s) (hgrow : ∀ size n, P size n → P size (n + 1)) (e : SgEvent) :
    Recorded k P (s.step e) := by
  have hmemory : ∀ s', SameMemory s s' → Recorded k P s' := by
    intro s' hm
    refine ⟨hm.starts ▸ h.past, ?_⟩
    intro b' hb' hstart
    obtain ⟨b, hb, hext⟩ := hm.bufs_some hb'
    obtain ⟨hk, hsize, hlen⟩ : b.start = b'.start ∧ b.bufSize = b'.bufSize ∧
        b.descs.length = b'.descs.length := by
      simpa [SgBufs.extent] using hext
    rw [← hsize, ← hlen]
    exact h.same b hb (hk.trans hstart)
  refine step_cases e ?_ (fun ok _ => hmemory _ (s.worker_memory ok))
    (fun k => hmemory _ (s.finish_memory k)) (fun now => hmemory _ (s.callback_memory now))
  intro s' hc
  cases hc with
  | noBufs | rolledBack | stopped =>
      refine ⟨h.past, ?_⟩
      rintro b ⟨⟩
  | noSgl =>
      refine ⟨Nat.lt_succ_of_lt h.past, ?_⟩
      rintro b ⟨⟩
  | began =>
      refine ⟨Nat.lt_succ_of_lt h.past, ?_⟩
      rintro b ⟨⟩ hstart
      exact absurd h.past (hstart ▸ lt_irrefl _)
  | dma config b hlock hbufs hlt =>
      refine ⟨h.past, ?_⟩
      rintro b' ⟨⟩ hstart
      rw [List.length_append]
      exact hgrow _ _ (h.same b hbufs hstart)
  | _ => exact ⟨h.past, h.same⟩

/-- Once the engine has lost an array, no later start brings it back. -/
theorem keeps_iff {s : SgSystem} {b : SgBufs} (hs : s.Numbered) (hb : s.bufs = some b)
    (es : List SgEvent) :
    Along step Keeps s es ↔ (run step s es).bufs.map SgBufs.start = some b.start := by
  induction es generalizing s b with
  | nil => simp [Along, hb]
  | cons e es ih =>
      rw [run_cons]
      by_cases hkeep : s.Keeps e
      · obtain ⟨b', hb', hstart⟩ : ∃ b', (s.step e).bufs = some b' ∧ b'.start = b.start := by
          rw [Keeps, hb] at hkeep
          exact Option.map_eq_some_iff.mp hkeep
        rw [Along, ih (hs.step e) hb', hstart]
        exact and_iff_right hkeep
      · have hlost : Recorded b.start (fun _ _ => False) (s.step e) := by
          refine ⟨?_, ?_⟩
          · have hpast : Recorded b.start (fun _ _ => True) s := ⟨hs b hb, fun _ _ _ => trivial⟩
            exact (hpast.step (fun _ _ _ => trivial) e).past
          · intro b' hb' hstart
            exact hkeep (by rw [Keeps, hb, hb', Option.map_some, Option.map_some, hstart])
        have hend : Recorded b.start (fun _ _ => False) (run step (s.step e) es) :=
          run_invariant (fun _ e h => h.step (fun _ _ hf => hf) e) hlost es
        constructor
        · exact fun hall => absurd hall.1 hkeep
        · intro hback
          obtain ⟨b', hb', hstart⟩ := Option.map_eq_some_iff.mp hback
          exact (hend.same b' hb' hstart).elim

theorem dmas_head (b : SgBufs) :
    (b.dmas 1).head? = if b.descs = [] then none else some (.dma b.start 0) := by
  cases hd : b.descs <;> simp [SgBufs.dmas, hd]

/-- A mapping is made of the bytes behind the handle of the first buffer. -/
theorem apexBridgeMmap_ok {pageShift vsize pgoff : Nat} {checked used : SgSystem} {m : SgMapping}
    (h : apexBridgeMmap pageShift vsize pgoff checked used = some (.ok m)) :
    ∃ b, used.bufs = some b ∧ m = ⟨(b.dmas 1).head?, pgoff <<< pageShift, vsize⟩ := by
  unfold apexBridgeMmap at h
  split at h
  · split at h
    · cases h
    · split at h
      · cases h
      next b hb =>
          refine ⟨b, hb, ?_⟩
          unfold dmaMmapCoherent at h
          split at h
          · cases h
            rfl
          · cases h
  · cases h

/-- Whenever `mmap` returns 0, what it has mapped lies inside a buffer of the
engine exactly when it ends within the first buffer, which was allocated when the
call read it, and no step up to the return takes the array away. -/
theorem mmap_live_iff {es₁ es₂ es₃ : List SgEvent} {pageShift vsize pgoff : Nat}
    {m : SgMapping} (hsize : 0 < vsize)
    (h : apexBridgeMmap pageShift vsize pgoff (run step .init es₁)
      (run step .init (es₁ ++ es₂)) = some (.ok m)) :
    (run step .init (es₁ ++ es₂ ++ es₃)).Live m ↔
      (∃ b, (run step .init (es₁ ++ es₂)).bufs = some b ∧ b.descs ≠ [] ∧
        pgoff <<< pageShift + vsize ≤ b.bufSize.toNat) ∧
          Along step Keeps (run step .init (es₁ ++ es₂)) es₃ := by
  have hnumbered := numbered_run (es₁ ++ es₂)
  obtain ⟨b, hb, rfl⟩ := apexBridgeMmap_ok h
  rw [run_append step .init (es₁ ++ es₂) es₃]
  generalize run step .init (es₁ ++ es₂) = s at hb hnumbered ⊢
  have hkept : Recorded b.start (fun size n => size = b.bufSize ∧ b.descs.length ≤ n)
      (run step s es₃) := by
    have hnow : Recorded b.start (fun size n => size = b.bufSize ∧ b.descs.length ≤ n) s := by
      refine ⟨hnumbered b hb, ?_⟩
      rintro b' hb' -
      rw [Option.some.inj (hb'.symm.trans hb)]
      exact ⟨rfl, le_refl _⟩
    exact run_invariant
      (fun _ e h => h.step (fun _ _ hP => ⟨hP.1, hP.2.trans (Nat.le_succ _)⟩) e) hnow es₃
  rw [keeps_iff hnumbered hb, dmas_head]
  constructor
  · intro hlive
    -- The last byte is the one that decides where the mapping may end.
    obtain ⟨region, hregion, b', i, hb', hdma, -, hlast⟩ :=
      hlive (vsize - 1) (Nat.sub_one_lt_of_lt hsize)
    split at hregion
    · cases hregion
    next hfirst =>
        obtain ⟨hstart, -⟩ := SgAlloc.dma.inj ((Option.some.inj hregion).trans hdma)
        rw [(hkept.same b' hb' hstart.symm).1] at hlast
        refine ⟨⟨b, hb, hfirst, ?_⟩, ?_⟩
        · dsimp only at hlast
          omega
        · rw [hb', Option.map_some, hstart]
  · rintro ⟨⟨b', hb', hfirst, hend⟩, hback⟩ i hi
    obtain rfl : b = b' := Option.some.inj (hb.symm.trans hb')
    obtain ⟨c, hc, hstart⟩ := Option.map_eq_some_iff.mp hback
    obtain ⟨hbufSize, hcount⟩ := hkept.same c hc hstart
    have hpos : 0 < b.descs.length := List.length_pos_iff.mpr hfirst
    refine ⟨.dma b.start 0, if_neg hfirst, c, 0, hc, by rw [hstart], by omega, ?_⟩
    rw [hbufSize]
    exact lt_of_lt_of_le (Nat.add_lt_add_left hi _) hend

theorem started_bufs : (run step .init started).bufs = some ⟨0, 4096, [.fresh 0, .fresh 1]⟩ := by
  decide +kernel

/-- One page of the first buffer, mapped while the worker goes on. -/
theorem mmap_live_page :
    (run step .init (started ++ [] ++ [.worker true])).Live ⟨some (.dma 0 0), 0, 4096⟩ :=
  (@mmap_live_iff started [] [.worker true] 12 4096 0 _ (by decide) (by decide +kernel)).mpr
    ⟨⟨_, started_bufs, List.cons_ne_nil _ _, by decide⟩, by decide +kernel⟩

/-- Both buffers as one region: its second page is not the second buffer. -/
theorem mmap_exposes :
    apexBridgeMmap 12 8192 0 (run step .init started) (run step .init started) =
        some (.ok ⟨some (.dma 0 0), 0, 8192⟩) ∧
      ¬ (run step .init started).Live ⟨some (.dma 0 0), 0, 8192⟩ := by
  refine ⟨by decide +kernel, ?_⟩
  intro hlive
  obtain ⟨region, -, b, i, hb, -, -, hlt⟩ := hlive 4096 (by decide)
  obtain rfl := Option.some.inj (started_bufs.symm.trans hb)
  exact absurd hlt (by decide)

end SgSystem

end GhostBlade.Host
