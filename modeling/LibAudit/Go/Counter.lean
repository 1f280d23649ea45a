import Mathlib

/-!
# Numbers taken from a `uint32` counter

`atomic.AddUint32(&counter, 1)` advances a counter and hands out its new value.  A run that
advances a counter at `c` `k` times takes the numbers `c + 1, …, c + k`, modulo `2 ^ 32`, and
stamps some of them, in order, on what it sends: a number is taken and not stamped when the
send it was taken for fails.

## Main definitions

* `Go.Counter.taken` — the numbers `k` advances of a counter hand out.
* `Go.Counter.Stamps` — a run that advanced a counter `k` times stamped a list of numbers.

## Main statements

* `Go.Counter.Stamps.trans` — two runs, one after the other, are one run.
* `Go.Counter.Stamps.nodup` — until the counter has wrapped, no number is stamped twice.
-/

namespace Go

namespace Counter

/-- The numbers a counter at `c` hands out when it is advanced `k` times. -/
def taken (c : UInt32) (k : Nat) : List UInt32 := (List.range k).map fun i => c + 1 + UInt32.ofNat i

@[simp] theorem length_taken (c : UInt32) (k : Nat) : (taken c k).length = k := by
  rw [taken, List.length_map, List.length_range]

/-- Advancing `k + k'` times takes the numbers of `k` advances, then those of `k'` more. -/
theorem taken_add (c : UInt32) (k k' : Nat) :
    taken c (k + k') = taken c k ++ taken (c + UInt32.ofNat k) k' := by
  rw [taken, List.range_add, List.map_append, List.map_map, taken, taken]
  congr 1
  apply List.map_congr_left
  intro i _
  -- `c + 1 + (k + i)` and `(c + k) + 1 + i` are one number
  simp only [Function.comp_apply, UInt32.ofNat_add]
  ac_rfl

theorem ofNat_injOn {i j : Nat} (small : i < 2 ^ 32) (small' : j < 2 ^ 32)
    (same : UInt32.ofNat i = UInt32.ofNat j) : i = j := by
  have onNat := congrArg UInt32.toNat same
  rwa [UInt32.toNat_ofNat', UInt32.toNat_ofNat', Nat.mod_eq_of_lt small,
    Nat.mod_eq_of_lt small'] at onNat

/-- **No number twice before the wrap**: up to `2 ^ 32` advances hand out distinct numbers. -/
theorem taken_nodup (c : UInt32) {k : Nat} (small : k ≤ 2 ^ 32) : (taken c k).Nodup := by
  apply List.Nodup.map_on _ List.nodup_range
  intro i below j below' same
  rw [List.mem_range] at below below'
  exact ofNat_injOn (by omega) (by omega) (add_left_cancel same)

/-- A run that advanced a counter at `c` `k` times, to `c'`, and stamped `stamps` on what it
sent: numbers it took, in the order it took them. -/
structure Stamps (c : UInt32) (k : Nat) (c' : UInt32) (stamps : List UInt32) : Prop where
  advanced : c' = c + UInt32.ofNat k
  taken : stamps.Sublist (taken c k)

section Stamps

variable {c c' c'' : UInt32} {k k' : Nat} {stamps stamps' : List UInt32}

/-- A run that took no number. -/
theorem Stamps.zero : Stamps c 0 c [] :=
  ⟨by rw [show UInt32.ofNat 0 = 0 from rfl, add_zero], List.nil_sublist _⟩

/-- One advance, its number stamped on the request sent. -/
theorem Stamps.stamped : Stamps c 1 (c + 1) [c + 1] :=
  ⟨rfl, by simp [Counter.taken]⟩

/-- One advance whose number went unused: the send failed. -/
theorem Stamps.skipped : Stamps c 1 (c + 1) [] :=
  ⟨rfl, List.nil_sublist _⟩

/-- Two runs, one after the other, are one run that advanced the counter as both did. -/
theorem Stamps.trans (first : Stamps c k c' stamps) (second : Stamps c' k' c'' stamps') :
    Stamps c (k + k') c'' (stamps ++ stamps') := by
  obtain ⟨advanced, taken⟩ := first
  obtain ⟨advanced', taken'⟩ := second
  constructor
  · rw [advanced', advanced, UInt32.ofNat_add, add_assoc]
  · rw [taken_add, ← advanced]
    exact taken.append taken'

/-- **Until the counter wraps, no number is stamped twice.** -/
theorem Stamps.nodup (run : Stamps c k c' stamps) (small : k ≤ 2 ^ 32) : stamps.Nodup :=
  (taken_nodup c small).sublist run.taken

end Stamps

end Counter

end Go
