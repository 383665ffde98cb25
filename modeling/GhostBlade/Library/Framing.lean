import Mathlib.Tactic

/-!
Cutting a stream of symbols into frames. A frame is a header of fixed size
that opens with a sync symbol, followed by a body whose length the header
determines. The scanner waits for the sync symbol, collects the header, asks
the format for the length of the body, collects the body and starts over. It
never looks back: the symbols of a rejected header are gone.

Besides the step function the module proves what a run does to a whole frame,
to a concatenation of frames, and exactly which words keep the scanner busy
from their first symbol to their last.
-/

namespace GhostBlade.Library.Framing

variable {α : Type*}

/-- A format: the sync symbol, the header size, and the length of the body a
header announces (`none` when the header is rejected). -/
structure Format (α : Type*) where
  sync : α
  hdrSize : Nat
  bodyLen : List α → Option Nat
  one_lt_hdrSize : 1 < hdrSize
  bodyLen_pos : ∀ hdr n, bodyLen hdr = some n → 0 < n

inductive Scan (α : Type*) where
  | idle
  | header (got : List α)
  | body (hdr got : List α) (want : Nat)
deriving DecidableEq

/-- What the scanner reports: a header it discards, or a complete frame. -/
inductive Signal (α : Type*) where
  | rejected (hdr : List α)
  | frame (hdr body : List α)
deriving DecidableEq

/-- The symbols taken in since the scanner was last idle. -/
def Scan.held : Scan α → List α
  | .idle => []
  | .header got => got
  | .body hdr got _ => hdr ++ got

/-- The header opens with the sync symbol, has the right size and announces
exactly this body. -/
structure Format.Fits (F : Format α) (hdr body : List α) : Prop where
  size : hdr.length = F.hdrSize
  opens : hdr.head? = some F.sync
  announces : F.bodyLen hdr = some body.length

section

variable [DecidableEq α] (F : Format α)

def Format.next : Scan α → α → Scan α
  | .idle, x => if x = F.sync then .header [x] else .idle
  | .header got, x =>
      if got.length + 1 < F.hdrSize then .header (got ++ [x])
      else match F.bodyLen (got ++ [x]) with
        | none => .idle
        | some want => .body (got ++ [x]) [] want
  | .body hdr got want, x =>
      if got.length + 1 < want then .body hdr (got ++ [x]) want else .idle

def Format.signal : Scan α → α → Option (Signal α)
  | .idle, _ => none
  | .header got, x =>
      if got.length + 1 < F.hdrSize then none
      else match F.bodyLen (got ++ [x]) with
        | none => some (.rejected (got ++ [x]))
        | some _ => none
  | .body hdr got want, x =>
      if got.length + 1 < want then none else some (.frame hdr (got ++ [x]))

theorem Format.next_header (got : List α) (x : α) (h : got.length + 1 < F.hdrSize) :
    F.next (.header got) x = .header (got ++ [x]) ∧ F.signal (.header got) x = none := by
  simp [Format.next, Format.signal, h]

theorem Format.next_header_last (got : List α) (x : α) (h : ¬ got.length + 1 < F.hdrSize) :
    (F.bodyLen (got ++ [x]) = none →
      F.next (.header got) x = .idle ∧
        F.signal (.header got) x = some (.rejected (got ++ [x]))) ∧
    (∀ want, F.bodyLen (got ++ [x]) = some want →
      F.next (.header got) x = .body (got ++ [x]) [] want ∧
        F.signal (.header got) x = none) := by
  simp only [Format.next, Format.signal, if_neg h]
  constructor
  · intro hnone
    simp [hnone]
  · intro want hsome
    simp [hsome]

theorem Format.next_body (hdr got : List α) (want : Nat) (x : α)
    (h : got.length + 1 < want) :
    F.next (.body hdr got want) x = .body hdr (got ++ [x]) want ∧
      F.signal (.body hdr got want) x = none := by
  simp [Format.next, Format.signal, h]

theorem Format.next_body_last (hdr got : List α) (want : Nat) (x : α)
    (h : ¬ got.length + 1 < want) :
    F.next (.body hdr got want) x = .idle ∧
      F.signal (.body hdr got want) x = some (.frame hdr (got ++ [x])) := by
  simp [Format.next, Format.signal, h]

/-- The scanner's state after a word. -/
def Format.scan (s : Scan α) (w : List α) : Scan α := w.foldl F.next s

/-- Everything reported during a word, in order. -/
def Format.signals : Scan α → List α → List (Signal α)
  | _, [] => []
  | s, x :: w => (F.signal s x).toList ++ Format.signals (F.next s x) w

@[simp] theorem Format.scan_nil (s : Scan α) : F.scan s [] = s := rfl

@[simp] theorem Format.scan_cons (s : Scan α) (x : α) (w : List α) :
    F.scan s (x :: w) = F.scan (F.next s x) w := rfl

@[simp] theorem Format.signals_nil (s : Scan α) : F.signals s [] = [] := rfl

@[simp] theorem Format.signals_cons (s : Scan α) (x : α) (w : List α) :
    F.signals s (x :: w) = (F.signal s x).toList ++ F.signals (F.next s x) w := rfl

theorem Format.scan_append (s : Scan α) (u v : List α) :
    F.scan s (u ++ v) = F.scan (F.scan s u) v :=
  List.foldl_append

theorem Format.signals_append (s : Scan α) (u v : List α) :
    F.signals s (u ++ v) = F.signals s u ++ F.signals (F.scan s u) v := by
  induction u generalizing s with
  | nil => rfl
  | cons x u ih => simp [ih]

/-- While the header is incomplete its symbols are collected silently. -/
theorem Format.header_partial (got w : List α)
    (h : got.length + w.length < F.hdrSize) :
    F.scan (.header got) w = .header (got ++ w) ∧ F.signals (.header got) w = [] := by
  induction w generalizing got with
  | nil => simp
  | cons x w ih =>
      simp only [List.length_cons] at h
      obtain ⟨hnext, hsig⟩ := F.next_header got x (by omega)
      have hrest := ih (got ++ [x]) (by simp; omega)
      simpa [hnext, hsig] using hrest

theorem Format.body_partial (hdr got w : List α) (want : Nat)
    (h : got.length + w.length < want) :
    F.scan (.body hdr got want) w = .body hdr (got ++ w) want ∧
      F.signals (.body hdr got want) w = [] := by
  induction w generalizing got with
  | nil => simp
  | cons x w ih =>
      simp only [List.length_cons] at h
      obtain ⟨hnext, hsig⟩ := F.next_body hdr got want x (by omega)
      have hrest := ih (got ++ [x]) (by simp; omega)
      simpa [hnext, hsig] using hrest

/-- The word that completes a body ends it and reports the frame. -/
theorem Format.body_complete (hdr got w : List α) (want : Nat) (hne : w ≠ [])
    (h : got.length + w.length = want) :
    F.scan (.body hdr got want) w = .idle ∧
      F.signals (.body hdr got want) w = [.frame hdr (got ++ w)] := by
  obtain ⟨u, x, rfl⟩ : ∃ u x, w = u ++ [x] :=
    ⟨w.dropLast, w.getLast hne, (List.dropLast_append_getLast hne).symm⟩
  simp only [List.length_append, List.length_singleton] at h
  obtain ⟨hscan, hsig⟩ := F.body_partial hdr got u want (by omega)
  rw [F.scan_append, F.signals_append, hscan, hsig]
  obtain ⟨hnext, hlast⟩ := F.next_body_last hdr (got ++ u) want x (by simp; omega)
  simp [hnext, hlast]

/-- The word that completes a header decides what comes next. -/
theorem Format.header_complete (got w : List α) (hne : w ≠ [])
    (h : got.length + w.length = F.hdrSize) :
    (F.bodyLen (got ++ w) = none →
      F.scan (.header got) w = .idle ∧
        F.signals (.header got) w = [.rejected (got ++ w)]) ∧
    (∀ want, F.bodyLen (got ++ w) = some want →
      F.scan (.header got) w = .body (got ++ w) [] want ∧
        F.signals (.header got) w = []) := by
  obtain ⟨u, x, rfl⟩ : ∃ u x, w = u ++ [x] :=
    ⟨w.dropLast, w.getLast hne, (List.dropLast_append_getLast hne).symm⟩
  simp only [List.length_append, List.length_singleton] at h
  obtain ⟨hscan, hsig⟩ := F.header_partial got u (by omega)
  obtain ⟨hnone, hsome⟩ := F.next_header_last (got ++ u) x (by simp; omega)
  rw [F.scan_append, F.signals_append, hscan, hsig, ← List.append_assoc]
  constructor
  · intro hlen
    simp [hnone hlen]
  · intro want hlen
    simp [hsome want hlen]

/-- An idle scanner that meets the sync symbol holds exactly that symbol. -/
theorem Format.idle_sync (w : List α) :
    F.scan .idle (F.sync :: w) = F.scan (.header [F.sync]) w ∧
      F.signals .idle (F.sync :: w) = F.signals (.header [F.sync]) w := by
  simp [Format.next, Format.signal]

theorem Format.idle_skip (x : α) (w : List α) (h : x ≠ F.sync) :
    F.scan .idle (x :: w) = F.scan .idle w ∧
      F.signals .idle (x :: w) = F.signals .idle w := by
  simp [Format.next, Format.signal, h]

/-- Without a sync symbol an idle scanner stays idle. -/
theorem Format.idle_quiet (w : List α) (h : F.sync ∉ w) :
    F.scan .idle w = .idle ∧ F.signals .idle w = [] := by
  induction w with
  | nil => exact ⟨rfl, rfl⟩
  | cons x w ih =>
      rw [List.mem_cons, not_or] at h
      obtain ⟨hscan, hsig⟩ := F.idle_skip x w (Ne.symm h.1)
      rw [hscan, hsig]
      exact ih h.2

/-- From idle, `hdrSize` symbols that open with the sync symbol are judged as
one header. -/
theorem Format.idle_header (hdr : List α) (hsize : hdr.length = F.hdrSize)
    (hopens : hdr.head? = some F.sync) :
    (F.bodyLen hdr = none →
      F.scan .idle hdr = .idle ∧ F.signals .idle hdr = [.rejected hdr]) ∧
    (∀ want, F.bodyLen hdr = some want →
      F.scan .idle hdr = .body hdr [] want ∧ F.signals .idle hdr = []) := by
  cases hdr with
  | nil => simp at hopens
  | cons x rest =>
      have hx : x = F.sync := by simpa using hopens
      subst hx
      obtain ⟨hscan, hsig⟩ := F.idle_sync rest
      have hlt := F.one_lt_hdrSize
      simp only [List.length_cons] at hsize
      have hne : rest ≠ [] := by
        rintro rfl
        simp at hsize
        omega
      have hdone := F.header_complete [F.sync] rest hne (by simp; omega)
      rw [hscan, hsig]
      simpa using hdone

/-- A whole frame takes an idle scanner back to idle and is reported once. -/
theorem Format.idle_frame (hdr body : List α) (h : F.Fits hdr body) :
    F.scan .idle (hdr ++ body) = .idle ∧
      F.signals .idle (hdr ++ body) = [.frame hdr body] := by
  obtain ⟨hscan, hsig⟩ := (F.idle_header hdr h.size h.opens).2 _ h.announces
  have hne : body ≠ [] := by
    rintro rfl
    have hpos := F.bodyLen_pos hdr _ h.announces
    simp at hpos
  have hdone := F.body_complete hdr [] body body.length hne (by simp)
  rw [F.scan_append, F.signals_append, hscan, hsig]
  simpa using hdone

/-- The states a run from idle can reach. -/
def Format.Sound : Scan α → Prop
  | .idle => True
  | .header got => got.head? = some F.sync ∧ got.length < F.hdrSize
  | .body hdr got want =>
      hdr.length = F.hdrSize ∧ hdr.head? = some F.sync ∧
        F.bodyLen hdr = some want ∧ got.length < want

theorem Format.sound_next (s : Scan α) (x : α) (h : F.Sound s) : F.Sound (F.next s x) := by
  have hlt := F.one_lt_hdrSize
  cases s with
  | idle =>
      simp only [Format.next]
      split
      · simp_all [Format.Sound]
      · trivial
  | header got =>
      obtain ⟨hopens, hsize⟩ := h
      have hopens' : (got ++ [x]).head? = some F.sync := by
        simp [List.head?_append, hopens]
      simp only [Format.next]
      split
      · exact ⟨hopens', by simpa⟩
      · split
        · trivial
        · next want hwant =>
            exact ⟨by simp; omega, hopens', hwant, F.bodyLen_pos _ _ hwant⟩
  | body hdr got want =>
      simp only [Format.next]
      split
      · exact ⟨h.1, h.2.1, h.2.2.1, by simpa⟩
      · trivial

theorem Format.sound_scan (s : Scan α) (w : List α) (h : F.Sound s) :
    F.Sound (F.scan s w) := by
  induction w generalizing s with
  | nil => exact h
  | cons x w ih => exact ih _ (F.sound_next s x h)

/-- As long as it does not fall back to idle, the scanner keeps every symbol. -/
theorem Format.held_next (s : Scan α) (x : α) (h : F.next s x ≠ .idle) :
    (F.next s x).held = s.held ++ [x] := by
  cases s with
  | idle =>
      simp only [Format.next] at h ⊢
      split <;> simp_all [Scan.held]
  | header got =>
      simp only [Format.next] at h ⊢
      split
      · rfl
      · split <;> simp_all [Scan.held]
  | body hdr got want =>
      simp only [Format.next] at h ⊢
      split <;> simp_all [Scan.held]

/-- What the scanner holds is the end of what it was given. -/
theorem Format.held_suffix (s : Scan α) (w : List α) :
    (F.scan s w).held <:+ s.held ++ w := by
  induction w generalizing s with
  | nil => simp
  | cons x w ih =>
      have hrest := ih (F.next s x)
      have hstep : (F.next s x).held <:+ s.held ++ [x] := by
        by_cases hidle : F.next s x = .idle
        · rw [hidle]
          exact List.nil_suffix
        · rw [F.held_next s x hidle]
      rw [F.scan_cons]
      apply hrest.trans
      have happend : s.held ++ x :: w = (s.held ++ [x]) ++ w := by simp
      rw [happend]
      obtain ⟨front, hfront⟩ := hstep
      exact ⟨front, by rw [← List.append_assoc, hfront]⟩

/-- A body that is collected after no more symbols than a header has belongs
to the header those symbols are. -/
theorem Format.idle_body {w hdr got : List α} {want : Nat} (hw : w.length ≤ F.hdrSize)
    (h : F.scan .idle w = .body hdr got want) :
    hdr = w ∧ hdr.head? = some F.sync ∧ F.bodyLen hdr = some want := by
  have hsound := F.sound_scan .idle w trivial
  rw [h] at hsound
  obtain ⟨hsize, hopens, hwant, _⟩ := hsound
  have hsuffix := F.held_suffix .idle w
  rw [h] at hsuffix
  simp only [Scan.held, List.nil_append] at hsuffix
  have hle := hsuffix.length_le
  rw [List.length_append] at hle
  have hnil : got = [] := List.eq_nil_of_length_eq_zero (by omega)
  subst hnil
  rw [List.append_nil] at hsuffix
  exact ⟨hsuffix.eq_of_length (by omega), hopens, hwant⟩

/-- A reachable state is what the symbols it holds lead to. -/
theorem Format.scan_held (s : Scan α) (h : F.Sound s) :
    F.scan .idle s.held = s ∧ F.signals .idle s.held = [] := by
  have header_held (got : List α) (hopens : got.head? = some F.sync)
      (hsize : got.length < F.hdrSize) :
      F.scan .idle got = .header got ∧ F.signals .idle got = [] := by
    cases got with
    | nil => simp at hopens
    | cons x rest =>
        have hx : x = F.sync := by simpa using hopens
        subst hx
        obtain ⟨hscan, hsig⟩ := F.idle_sync rest
        have hpart := F.header_partial [F.sync] rest (by simpa [Nat.add_comm] using hsize)
        rw [hscan, hsig]
        simpa using hpart
  cases s with
  | idle => simp [Scan.held]
  | header got => exact header_held got h.1 h.2
  | body hdr got want =>
      obtain ⟨hsize, hopens, hwant, hgot⟩ := h
      obtain ⟨hscan, hsig⟩ := (F.idle_header hdr hsize hopens).2 want hwant
      have hpart := F.body_partial hdr [] got want (by simpa using hgot)
      simp only [Scan.held]
      rw [F.scan_append, F.signals_append, hscan, hsig]
      simpa using hpart

omit [DecidableEq α] in
/-- A frame is only ever reported with the symbols the scanner holds, and it
fits the format. -/
theorem Format.signal_fits {s : Scan α} {x : α} {hdr body : List α} (hs : F.Sound s)
    (hsig : F.signal s x = some (.frame hdr body)) :
    F.Fits hdr body ∧ s.held ++ [x] = hdr ++ body := by
  cases s with
  | idle => cases hsig
  | header got =>
      simp only [Format.signal] at hsig
      split at hsig
      · cases hsig
      · split at hsig <;> cases hsig
  | body h got want =>
      obtain ⟨hsize, hopens, hwant, hgot⟩ := hs
      simp only [Format.signal] at hsig
      split at hsig
      · cases hsig
      · next hend =>
        simp only [Option.some.injEq, Signal.frame.injEq] at hsig
        obtain ⟨rfl, rfl⟩ := hsig
        have hlen : want = (got ++ [x]).length := by
          simp only [List.length_append, List.length_singleton]
          omega
        exact ⟨⟨hsize, hopens, hwant.trans (congrArg some hlen)⟩, List.append_assoc ..⟩

theorem Format.signals_fits {s : Scan α} {w hdr body : List α} (hs : F.Sound s)
    (hmem : .frame hdr body ∈ F.signals s w) : F.Fits hdr body := by
  induction w generalizing s with
  | nil => cases hmem
  | cons x w ih =>
      rcases List.mem_append.mp hmem with hhere | hlater
      · exact (F.signal_fits hs (Option.mem_toList.mp hhere)).1
      · exact ih (F.sound_next s x hs) hlater

/-- The scanner is busy from the first symbol of `w` to the last. -/
def Format.Busy (w : List α) : Prop :=
  ∀ u v, w = u ++ v → u ≠ [] → v ≠ [] → F.scan .idle u ≠ .idle

/-- The last symbol of `w` completes a frame. -/
def Format.Completes (w hdr body : List α) : Prop :=
  ∃ u x, w = u ++ [x] ∧ F.signal (F.scan .idle u) x = some (.frame hdr body)

theorem Format.held_of_busy (u : List α)
    (hbusy : ∀ p q, u = p ++ q → p ≠ [] → F.scan .idle p ≠ .idle) :
    (F.scan .idle u).held = u := by
  induction u using List.reverseRecOn with
  | nil => rfl
  | append_singleton u x ih =>
      have hu := ih (fun p q heq hne => hbusy p (q ++ [x]) (by simp [heq]) hne)
      have hend := hbusy (u ++ [x]) [] (by simp) (by simp)
      rw [F.scan_append] at hend ⊢
      have hnext := F.held_next (F.scan .idle u) x hend
      rw [hu] at hnext
      exact hnext

theorem Format.busy_of_fits (hdr body : List α) (h : F.Fits hdr body) :
    F.Busy (hdr ++ body) := by
  intro u v heq hu hv
  rcases List.append_eq_append_iff.mp heq.symm with ⟨t, hhdr, hv'⟩ | ⟨t, hut, hbody⟩
  · cases t with
    | nil =>
        have hdone := (F.idle_header hdr h.size h.opens).2 _ h.announces
        have hudr : u = hdr := by simpa using hhdr.symm
        rw [hudr, hdone.1]
        simp
    | cons y t =>
        have hsize := h.size
        have hopens := h.opens
        rw [hhdr] at hsize hopens
        have hstate : F.Sound (.header u) := by
          cases u with
          | nil => exact absurd rfl hu
          | cons x rest =>
              refine ⟨by simpa using hopens, ?_⟩
              simp only [List.length_append, List.length_cons] at hsize ⊢
              omega
        have hheld := (F.scan_held _ hstate).1
        simp only [Scan.held] at hheld
        rw [hheld]
        simp
  · have hlen : t.length < body.length := by
      have hpos : 0 < v.length := List.length_pos_iff.mpr hv
      rw [hbody, List.length_append]
      omega
    have hheld := (F.scan_held (.body hdr t body.length)
      ⟨h.size, h.opens, h.announces, hlen⟩).1
    simp only [Scan.held] at hheld
    rw [hut, hheld]
    simp

/-- The words the scanner is busy with from the first symbol to the last, and
completes a frame with, are exactly the frames. -/
theorem Format.busy_completes_iff (w hdr body : List α) :
    F.Busy w ∧ F.Completes w hdr body ↔ w = hdr ++ body ∧ F.Fits hdr body := by
  constructor
  · rintro ⟨hbusy, u, x, rfl, hsig⟩
    have hheld : (F.scan .idle u).held = u :=
      F.held_of_busy u (fun p q heq hne => hbusy p (q ++ [x]) (by simp [heq]) hne (by simp))
    have hsound := F.sound_scan .idle u trivial
    obtain ⟨hfits, hword⟩ := F.signal_fits hsound hsig
    rw [hheld] at hword
    exact ⟨hword, hfits⟩
  · rintro ⟨rfl, h⟩
    refine ⟨F.busy_of_fits hdr body h, ?_⟩
    have hpos : 0 < body.length := F.bodyLen_pos _ _ h.announces
    have hne : body ≠ [] := List.length_pos_iff.mp hpos
    have hsplit : body.dropLast ++ [body.getLast hne] = body :=
      List.dropLast_append_getLast hne
    have hlen : body.dropLast.length < body.length := by simp; omega
    have hheld := (F.scan_held (.body hdr body.dropLast body.length)
      ⟨h.size, h.opens, h.announces, hlen⟩).1
    simp only [Scan.held] at hheld
    refine ⟨hdr ++ body.dropLast, body.getLast hne, by rw [List.append_assoc, hsplit], ?_⟩
    have hend : ¬ body.dropLast.length + 1 < body.length := by simp; omega
    rw [hheld, Format.signal, if_neg hend, hsplit]

end

end GhostBlade.Library.Framing
