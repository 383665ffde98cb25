import Mathlib.Data.List.Chain
import GhostBlade.Library.WrappingClock

/-!
A task that runs when a clock of `w` bits shows that an interval has passed
since it last ran. Whoever asks too seldom lets whole turns of the clock go by,
and the task is then late; by the clock it is never early. It runs some time after
the clock has been looked at, so that two of its runs may come close together, but
never three.
-/

namespace GhostBlade.Library

/-- Whether the task is due at a time `now`, by a clock of `w` bits. -/
def due (w interval last now : ℕ) : Bool :=
  decide (interval ≤ (BitVec.ofNat w now - BitVec.ofNat w last).toNat)

variable {w interval last now : ℕ}

theorem clock_sub (h : last ≤ now) :
    (BitVec.ofNat w now - BitVec.ofNat w last).toNat = (now - last) % 2 ^ w := by
  have hsum : BitVec.ofNat w now = BitVec.ofNat w last + BitVec.ofNat w (now - last) := by
    rw [← BitVec.ofNat_add, Nat.add_sub_cancel' h]
  rw [hsum, BitVec.add_comm, BitVec.add_sub_cancel, BitVec.toNat_ofNat]

/-- Never early, however long ago the last look was. -/
theorem le_of_due (h : last ≤ now) (hdue : due w interval last now = true) :
    last + interval ≤ now := by
  have hle := of_decide_eq_true hdue
  rw [clock_sub h] at hle
  have hmod := Nat.mod_le (now - last) (2 ^ w)
  omega

/-- Not late, if the clock has not turned since. -/
theorem lt_of_not_due (h : last ≤ now) (hturn : now - last < 2 ^ w)
    (hdue : due w interval last now = false) : now < last + interval := by
  have hlt := of_decide_eq_false hdue
  rw [clock_sub h, Nat.mod_eq_of_lt hturn] at hlt
  omega

/-! ### When it runs -/

/-- A run of the task: the look at the clock that it follows, and its own time. -/
structure TaskRun where
  look : ℕ
  time : ℕ

/-- The last run, where the task comes up at `time` behind a look at the clock. -/
def TaskRun.next (w interval : ℕ) (last : TaskRun) (look time : ℕ) : TaskRun :=
  if due w interval last.look look then ⟨look, time⟩ else last

/-- A last run behind its look, and in front of the last look if it has not followed that. -/
structure TaskRun.Fits (last : TaskRun) (look time : ℕ) : Prop where
  behind : last.look ≤ last.time
  past : last.time ≤ time
  seen : last.look = look ∨ last.time ≤ look

/-- Between the two runs the clock has been looked at again, an interval later. -/
def TaskRun.Before (interval : ℕ) (a b : TaskRun) : Prop :=
  a.look + interval ≤ b.look ∧ a.time ≤ b.look

instance : IsTrans TaskRun (TaskRun.Before interval) where
  trans a b c hab hbc := by
    obtain ⟨hlook, htime⟩ := hab
    obtain ⟨hlook', -⟩ := hbc
    exact ⟨by omega, by omega⟩

namespace TaskRun

variable {r : TaskRun} {look time : ℕ}

theorem Fits.look_le (h : r.Fits look time) : r.look ≤ look := by
  have hbehind := h.behind
  rcases h.seen with heq | hle
  · exact heq.le
  · exact hbehind.trans hle

theorem Fits.wait (h : r.Fits look time) (wait : ℕ) : r.Fits look (time + wait) :=
  ⟨h.behind, h.past.trans (Nat.le_add_right _ _), h.seen⟩

/-- The clock is looked at. -/
theorem Fits.looked (h : r.Fits look time) : r.Fits time time := ⟨h.behind, h.past, .inr h.past⟩

variable (w interval) in
theorem Fits.next (h : r.Fits look time) (hlook : look ≤ time) :
    (r.next w interval look time).Fits look time := by
  unfold TaskRun.next
  split
  · exact ⟨hlook, le_rfl, .inl rfl⟩
  · exact h

/-- A run and the next one. -/
theorem Fits.before (h : r.Fits look time) (hpos : 0 < interval)
    (hdue : due w interval r.look look = true) (time' : ℕ) :
    r.Before interval ⟨look, time'⟩ := by
  have hinterval := le_of_due h.look_le hdue
  rcases h.seen with heq | hle
  · omega
  · exact ⟨hinterval, hle⟩

variable (w) in
/-- Behind the task's turn the look is within its interval again. -/
theorem Fits.lt_next (h : r.Fits look time) (hpos : 0 < interval)
    (hturn : look - r.look < 2 ^ w) (time' : ℕ) :
    look < (r.next w interval look time').look + interval := by
  unfold TaskRun.next
  cases hdue : due w interval r.look look with
  | false => exact lt_of_not_due h.look_le hturn hdue
  | true => exact Nat.lt_add_of_pos_right hpos

/-- Looks an interval apart. -/
theorem looks_le {runs : List TaskRun} {lo hi : ℕ} (h : runs.Pairwise (Before interval))
    (hlo : ∀ r ∈ runs, lo ≤ r.look) (hhi : ∀ r ∈ runs, r.look ≤ hi) :
    runs.length * interval ≤ hi - lo + interval := by
  induction runs generalizing lo with
  | nil => simp
  | cons r runs ih =>
      obtain ⟨hfirst, hrest⟩ := List.pairwise_cons.mp h
      have hstart := hlo r List.mem_cons_self
      have hend := hhi r List.mem_cons_self
      rw [List.length_cons, Nat.add_mul, Nat.one_mul]
      cases runs with
      | nil => simp
      | cons s runs =>
          have hlater : (s :: runs).length * interval ≤ hi - (r.look + interval) + interval :=
            ih hrest (fun s hs => (hfirst s hs).1) fun s hs => hhi s (List.mem_cons_of_mem r hs)
          have hnext := (hfirst s List.mem_cons_self).1
          have hnext' := hhi s (List.mem_cons_of_mem r List.mem_cons_self)
          omega

/-- In no stretch of time are there more than two runs above one for every interval: only
the first can follow a look from before the stretch. -/
theorem count_le {runs : List TaskRun} (h : runs.Pairwise (Before interval))
    (hbehind : ∀ r ∈ runs, r.look ≤ r.time) (lo hi : ℕ) :
    (runs.countP fun r => lo ≤ r.time ∧ r.time ≤ hi) * interval ≤ hi - lo + 2 * interval := by
  rw [List.countP_eq_length_filter]
  have hsub : (runs.filter fun r => lo ≤ r.time ∧ r.time ≤ hi).Pairwise (Before interval) :=
    h.sublist List.filter_sublist
  have hin : ∀ r ∈ runs.filter fun r => lo ≤ r.time ∧ r.time ≤ hi,
      r.look ≤ hi ∧ lo ≤ r.time := by
    intro r hr
    obtain ⟨hmem, hr⟩ := List.mem_filter.mp hr
    have hstretch := of_decide_eq_true hr
    exact ⟨(hbehind r hmem).trans hstretch.2, hstretch.1⟩
  generalize runs.filter (fun r => lo ≤ r.time ∧ r.time ≤ hi) = inside at hsub hin
  cases inside with
  | nil => simp
  | cons r inside =>
      obtain ⟨hfirst, hrest⟩ := List.pairwise_cons.mp hsub
      have hlate : ∀ s ∈ inside, lo ≤ s.look := fun s hs =>
        (hin r List.mem_cons_self).2.trans (hfirst s hs).2
      have hcount := looks_le hrest hlate fun s hs => (hin s (List.mem_cons_of_mem r hs)).1
      rw [List.length_cons, Nat.add_mul, Nat.one_mul]
      omega

end TaskRun

end GhostBlade.Library
