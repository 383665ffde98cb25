import GhostBlade.Library.Framing

/-!
Where a frame scanner locks on an endless stream. An idle scanner walks to the
next sync symbol and takes a header there. A rejected header costs the whole
header, an accepted one the whole frame, and the walk goes on behind it. The
positions at which a header is taken therefore form a path through the stream
that can be followed without running the scanner; the scanner reports a frame
exactly when that path reaches a place where the stream spells it.
-/

namespace GhostBlade.Library.Framing

variable {α : Type*}

/-- `n` symbols of a stream, from position `p` on. -/
def window (g : Nat → α) (p n : Nat) : List α :=
  (List.range n).map fun i => g (p + i)

@[simp] theorem window_length (g : Nat → α) (p n : Nat) : (window g p n).length = n := by
  simp [window]

@[simp] theorem window_zero (g : Nat → α) (p : Nat) : window g p 0 = [] := rfl

theorem window_succ (g : Nat → α) (p n : Nat) :
    window g p (n + 1) = g p :: window g (p + 1) n := by
  simp [window, List.range_succ_eq_map, Function.comp_def, Nat.add_comm, Nat.add_left_comm]

theorem window_add (g : Nat → α) (p m n : Nat) :
    window g p (m + n) = window g p m ++ window g (p + m) n := by
  simp [window, List.range_add, Function.comp_def, Nat.add_assoc]

/-- The finite word `c` followed by copies of `f` without end. -/
def followedBy (c f : List α) (d : α) : Nat → α := fun i =>
  if i < c.length then c.getD i d else f.getD ((i - c.length) % f.length) d

theorem window_prefix (c f : List α) (d : α) :
    window (followedBy c f d) 0 c.length = c := by
  apply List.ext_getElem
  · simp
  · intro i hi hic
    simp [window, followedBy, hic]

/-- Behind the finite word the stream reads off `f` around and around. -/
theorem followedBy_copy (c f : List α) (d : α) (p i : Nat) (hp : c.length ≤ p)
    (hi : (p - c.length) % f.length = i) : followedBy c f d p = f.getD i d := by
  rw [followedBy, if_neg (by omega), hi]

theorem window_copy (c f : List α) (d : α) (k : Nat) :
    window (followedBy c f d) (c.length + k * f.length) f.length = f := by
  apply List.ext_getElem
  · simp
  · intro i hi hif
    have hmod : (c.length + k * f.length + i - c.length) % f.length = i := by
      rw [Nat.add_assoc, Nat.add_sub_cancel_left, Nat.add_comm, Nat.add_mul_mod_self_right,
        Nat.mod_eq_of_lt hif]
    have hat := followedBy_copy c f d (c.length + k * f.length + i) i (by omega) hmod
    simp [window, hat, hif]

theorem window_copies (c f : List α) (d : α) (k : Nat) :
    window (followedBy c f d) c.length (k * f.length) = (List.replicate k f).flatten := by
  induction k with
  | zero => simp
  | succ k ih =>
      rw [Nat.succ_mul, window_add, ih, window_copy, List.replicate_succ', List.flatten_append]
      simp

/-- The word and its copies, as a window of the stream. -/
theorem window_followedBy (c f : List α) (d : α) (k : Nat) :
    window (followedBy c f d) 0 (c.length + k * f.length) =
      c ++ (List.replicate k f).flatten := by
  rw [window_add, window_prefix, Nat.zero_add, window_copies]

section

variable (F : Format α) (g : Nat → α)

/-- Where the walk goes on behind a header taken at `p`. -/
def Format.landing (p : Nat) : Nat :=
  p + F.hdrSize + (F.bodyLen (window g p F.hdrSize)).getD 0

/-- `F.Starts g p q`: a scanner that is idle before position `p` takes a
header at position `q`. -/
inductive Format.Starts : Nat → Nat → Prop
  | here {p : Nat} (h : g p = F.sync) : Starts p p
  | skip {p q : Nat} (h : g p ≠ F.sync) (rest : Starts (p + 1) q) : Starts p q
  | past {p q : Nat} (h : g p = F.sync) (rest : Starts (F.landing g p) q) : Starts p q

/-- The stream spells this frame at `q`. -/
structure Format.FrameAt (q : Nat) (hdr body : List α) : Prop where
  header : window g q F.hdrSize = hdr
  announces : F.bodyLen hdr = some body.length
  content : window g (q + F.hdrSize) body.length = body

/-- What is reported about the header taken at `p`. -/
def Format.verdict (p : Nat) : Signal α :=
  match F.bodyLen (window g p F.hdrSize) with
  | none => .rejected (window g p F.hdrSize)
  | some want => .frame (window g p F.hdrSize) (window g (p + F.hdrSize) want)

theorem Format.lt_landing (p : Nat) : p < F.landing g p := by
  have h := F.one_lt_hdrSize
  unfold Format.landing
  omega

theorem Format.window_opens (p : Nat) (h : g p = F.sync) :
    (window g p F.hdrSize).head? = some F.sync := by
  have hpos := F.one_lt_hdrSize
  obtain ⟨n, hn⟩ : ∃ n, F.hdrSize = n + 1 := ⟨F.hdrSize - 1, by omega⟩
  rw [hn, window_succ, h]
  rfl

variable {F g} in
/-- A header is taken at a sync symbol. -/
theorem Format.Starts.sync {p q : Nat} (h : F.Starts g p q) : g q = F.sync := by
  induction h with
  | here h => exact h
  | skip _ _ ih => exact ih
  | past _ _ ih => exact ih

/-- When the sync symbol occurs only at the start of `f`, the walk always gets
to the start of a copy. -/
theorem Format.starts_of_lone_sync (c f : List α) (d : α) (hopens : f.head? = some F.sync)
    (hlone : F.sync ∉ f.tail) (p : Nat) :
    ∃ k, F.Starts (followedBy c f d) p (c.length + k * f.length) := by
  have hf : 0 < f.length := by
    cases f with
    | nil => simp at hopens
    | cons x rest => simp
  have hfirst : f.getD 0 d = F.sync := by
    rw [List.getD_eq_getElem?_getD, ← List.head?_eq_getElem?, hopens]
    rfl
  -- behind the finite word, walk to the end of the current copy
  have hcopies (m p : Nat) (hp : c.length ≤ p)
      (hm : (p - c.length + m) % f.length = 0) (hlt : m < f.length) :
      ∃ k, F.Starts (followedBy c f d) p (c.length + k * f.length) := by
    induction m generalizing p with
    | zero =>
        refine ⟨(p - c.length) / f.length, ?_⟩
        have hpos : c.length + (p - c.length) / f.length * f.length = p := by
          have hdvd := Nat.div_mul_cancel (Nat.dvd_of_mod_eq_zero hm)
          rw [Nat.add_zero] at hdvd
          omega
        rw [hpos]
        exact .here ((followedBy_copy c f d p 0 hp hm).trans hfirst)
    | succ m ih =>
        have hin : (p - c.length) % f.length = f.length - (m + 1) := by
          have hmod := Nat.mod_lt (p - c.length) hf
          have hsum := Nat.add_mod (p - c.length) (m + 1) f.length
          rw [hm, Nat.mod_eq_of_lt hlt] at hsum
          have hdvd := Nat.dvd_of_mod_eq_zero hsum.symm
          obtain ⟨n, hn⟩ := hdvd
          have hn1 : n = 1 := by
            rcases Nat.lt_trichotomy n 1 with h0 | h1 | h2
            · have : n = 0 := by omega
              rw [this, Nat.mul_zero] at hn
              omega
            · exact h1
            · have hle : f.length * 2 ≤ f.length * n := Nat.mul_le_mul_left _ h2
              omega
          rw [hn1, Nat.mul_one] at hn
          omega
        have hat := followedBy_copy c f d p _ hp hin
        have hne : followedBy c f d p ≠ F.sync := by
          rw [hat]
          intro heq
          apply hlone
          have hidx : f.length - (m + 1) < f.length := by omega
          have hget : f.getD (f.length - (m + 1)) d = f[f.length - (m + 1)] := by
            simp [List.getD_eq_getElem?_getD, hidx]
          rw [hget] at heq
          rw [← heq, List.mem_iff_getElem]
          refine ⟨f.length - (m + 1) - 1, by simp; omega, ?_⟩
          rw [List.getElem_tail]
          congr 1
          omega
        have hnext : (p + 1 - c.length + m) % f.length = 0 := by
          rw [← hm]
          congr 1
          omega
        obtain ⟨k, hk⟩ := ih (p + 1) (by omega) hnext (by omega)
        exact ⟨k, .skip hne hk⟩
  have hbehind (p : Nat) (hp : c.length ≤ p) :
      ∃ k, F.Starts (followedBy c f d) p (c.length + k * f.length) := by
    by_cases hzero : (p - c.length) % f.length = 0
    · exact hcopies 0 p hp hzero hf
    · have hmod := Nat.mod_lt (p - c.length) hf
      refine hcopies (f.length - (p - c.length) % f.length) p hp ?_ (by omega)
      have hdiv := Nat.div_add_mod (p - c.length) f.length
      have hsum : p - c.length + (f.length - (p - c.length) % f.length) =
          f.length * ((p - c.length) / f.length + 1) := by
        rw [Nat.mul_add, Nat.mul_one]
        omega
      rw [hsum, Nat.mul_mod_right]
  -- in front of it, take what there is and go on
  induction hn : c.length - p using Nat.strong_induction_on generalizing p with
  | _ n ih =>
      by_cases hp : c.length ≤ p
      · exact hbehind p hp
      · by_cases hsync : followedBy c f d p = F.sync
        · have hland := F.lt_landing (followedBy c f d) p
          obtain ⟨k, hk⟩ := ih _ (by omega) (F.landing (followedBy c f d) p) rfl
          exact ⟨k, .past hsync hk⟩
        · obtain ⟨k, hk⟩ := ih _ (by omega) (p + 1) rfl
          exact ⟨k, .skip hsync hk⟩

variable [DecidableEq α]

/-- Once a word leads back to the state it started from, its copies report
nothing new. -/
theorem Format.signals_replicate {s t : Scan α} {f : List α} (hfirst : F.scan s f = t)
    (hagain : F.scan t f = t) (k : Nat) {sig : Signal α}
    (hmem : sig ∈ F.signals s (List.replicate k f).flatten) :
    sig ∈ F.signals s f ∨ sig ∈ F.signals t f := by
  induction k generalizing s with
  | zero => cases hmem
  | succ k ih =>
      rw [List.replicate_succ, List.flatten_cons, F.signals_append, hfirst] at hmem
      rcases List.mem_append.mp hmem with hhere | hlater
      · exact .inl hhere
      · rcases ih hagain hlater with h | h
        · exact .inr h
        · exact .inr h

/-- A scanner that takes a header at `p` is idle again at the landing, having
reported the verdict and nothing else. -/
theorem Format.taken (p : Nat) (h : g p = F.sync) :
    F.scan .idle (window g p (F.landing g p - p)) = .idle ∧
      F.signals .idle (window g p (F.landing g p - p)) = [F.verdict g p] := by
  have hdone := F.idle_header (window g p F.hdrSize) (by simp) (F.window_opens g p h)
  cases hlen : F.bodyLen (window g p F.hdrSize) with
  | none =>
      have hstep : F.landing g p - p = F.hdrSize := by simp [Format.landing, hlen]
      simpa [hstep, Format.verdict, hlen] using hdone.1 hlen
  | some want =>
      have hstep : F.landing g p - p = F.hdrSize + want := by
        simp [Format.landing, hlen]
        omega
      have hframe := F.idle_frame (window g p F.hdrSize) (window g (p + F.hdrSize) want)
        ⟨by simp, F.window_opens g p h, by simp [hlen]⟩
      rw [hstep, window_add]
      simpa [Format.verdict, hlen] using hframe

/-- Before the landing the header taken at `p` has not led to a frame. -/
theorem Format.no_frame_before_landing (p n : Nat) (h : g p = F.sync)
    (hn : n < F.landing g p - p) (hdr body : List α) :
    .frame hdr body ∉ F.signals .idle (window g p n) := by
  rcases Nat.lt_or_ge n F.hdrSize with hshort | hlong
  · cases n with
    | zero => simp
    | succ n =>
        rw [window_succ, h, (F.idle_sync _).2]
        have hpart := F.header_partial [F.sync] (window g (p + 1) n) (by simp; omega)
        simp [hpart.2]
  · obtain ⟨m, rfl⟩ : ∃ m, n = F.hdrSize + m := ⟨n - F.hdrSize, by omega⟩
    have hdone := F.idle_header (window g p F.hdrSize) (by simp) (F.window_opens g p h)
    cases hlen : F.bodyLen (window g p F.hdrSize) with
    | none =>
        simp only [Format.landing, hlen, Option.getD_none] at hn
        omega
    | some want =>
        obtain ⟨hscan, hsig⟩ := hdone.2 want hlen
        have hm : m < want := by
          simp [Format.landing, hlen] at hn
          omega
        have hpart := F.body_partial (window g p F.hdrSize) [] (window g (p + F.hdrSize) m) want
          (by simpa using hm)
        rw [window_add, F.signals_append, hscan, hsig, hpart.2]
        simp

/-- The scanner reports a frame during some stretch of the stream exactly when
its walk takes a header where the stream spells that frame. -/
theorem Format.mem_signals_iff (p : Nat) (hdr body : List α) :
    (∃ n, .frame hdr body ∈ F.signals .idle (window g p n)) ↔
      ∃ q, F.Starts g p q ∧ F.FrameAt g q hdr body := by
  constructor
  · rintro ⟨n, hmem⟩
    induction n using Nat.strong_induction_on generalizing p with
    | _ n ih =>
        by_cases hsync : g p = F.sync
        · rcases Nat.lt_or_ge n (F.landing g p - p) with hbefore | hafter
          · exact absurd hmem (F.no_frame_before_landing g p n hsync hbefore hdr body)
          · have hlt := F.lt_landing g p
            obtain ⟨m, rfl⟩ : ∃ m, n = (F.landing g p - p) + m :=
              ⟨n - (F.landing g p - p), by omega⟩
            obtain ⟨hscan, hsig⟩ := F.taken g p hsync
            have hback : p + (F.landing g p - p) = F.landing g p := by omega
            rw [window_add, F.signals_append, hscan, hsig, hback] at hmem
            rcases List.mem_append.mp hmem with hhere | hlater
            · refine ⟨p, .here hsync, ?_⟩
              rw [List.mem_singleton, Format.verdict] at hhere
              split at hhere
              · simp at hhere
              · next want hwant =>
                  simp only [Signal.frame.injEq] at hhere
                  obtain ⟨rfl, rfl⟩ := hhere
                  exact ⟨rfl, by simpa using hwant, by simp⟩
            · obtain ⟨q, hpath, hat⟩ := ih m (by omega) (F.landing g p) hlater
              exact ⟨q, .past hsync hpath, hat⟩
        · cases n with
          | zero => simp at hmem
          | succ n =>
              rw [window_succ, (F.idle_skip _ _ hsync).2] at hmem
              obtain ⟨q, hpath, hat⟩ := ih n (by omega) (p + 1) hmem
              exact ⟨q, .skip hsync hpath, hat⟩
  · rintro ⟨q, hpath, hat⟩
    induction hpath with
    | @here p hsync =>
        refine ⟨F.landing g p - p, ?_⟩
        obtain ⟨hhdr, hwant, hbody⟩ := hat
        rw [(F.taken g p hsync).2, List.mem_singleton]
        simp only [Format.verdict, hhdr, hwant, hbody]
    | @skip p q hsync _ ih =>
        obtain ⟨n, hmem⟩ := ih hat
        exact ⟨n + 1, by rwa [window_succ, (F.idle_skip _ _ hsync).2]⟩
    | @past p q hsync _ ih =>
        obtain ⟨n, hmem⟩ := ih hat
        obtain ⟨hscan, hsig⟩ := F.taken g p hsync
        have hlt := F.lt_landing g p
        have hback : p + (F.landing g p - p) = F.landing g p := by omega
        refine ⟨(F.landing g p - p) + n, ?_⟩
        rw [window_add, F.signals_append, hscan, hsig, hback]
        exact List.mem_append_right _ hmem

/-- Feeding copies of `f` to a scanner that already holds some symbols: it
reports a given frame after finitely many copies exactly when the walk through
the held symbols and the endless copies reaches that frame. -/
theorem Format.copies_iff (s : Scan α) (hs : F.Sound s) (f : List α) (hf : f ≠ []) (d : α)
    (hdr body : List α) :
    (∃ k, .frame hdr body ∈ F.signals s (List.replicate k f).flatten) ↔
      ∃ q, F.Starts (followedBy s.held f d) 0 q ∧
        F.FrameAt (followedBy s.held f d) q hdr body := by
  obtain ⟨hscan, hsig⟩ := F.scan_held s hs
  have hcopies (k : Nat) : F.signals s (List.replicate k f).flatten =
      F.signals .idle (window (followedBy s.held f d) 0 (s.held.length + k * f.length)) := by
    rw [window_followedBy, F.signals_append, hscan, hsig, List.nil_append]
  rw [← F.mem_signals_iff]
  constructor
  · rintro ⟨k, hmem⟩
    exact ⟨_, hcopies k ▸ hmem⟩
  · rintro ⟨n, hmem⟩
    have hpos : 0 < f.length := List.length_pos_iff.mpr hf
    have hle : n ≤ s.held.length + n * f.length :=
      (Nat.le_mul_of_pos_right n hpos).trans (Nat.le_add_left _ _)
    refine ⟨n, ?_⟩
    rw [hcopies, ← Nat.add_sub_cancel' hle, window_add, F.signals_append]
    exact List.mem_append_left _ hmem

end

end GhostBlade.Library.Framing
