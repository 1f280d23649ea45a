import Mathlib

/-!
# Masks of 32-bit words

A set of small numbers kept as an array of `uint32` words: number `i` is bit `i % 32` of word
`i / 32`.  Go code tests it with `mask[i/32] & (1 << (i%32)) > 0` and sets it with
`mask[i/32] |= 1 << (i%32)`.  This module reads both operations as `Nat.testBit` of the word,
so that a mask becomes the predicate `test mask` on numbers.

## Main definitions

* `Go.Bitmask.test` — whether a number is in a mask.

## Main statements

* `Go.Bitmask.and_shiftLeft_pos_iff` — the test `w & (1 << b) > 0` is bit `b` of `w`.
* `Go.Bitmask.test_set` — setting the bit of `i` adds `i` and keeps every other number.
* `Go.Bitmask.eq_allOnes_iff` — a word is `0xFFFFFFFF` exactly when it holds all 32 bits.
-/

namespace Go

namespace Bitmask

/-! ## One word -/

theorem toNat_one_shiftLeft {b : Nat} (small : b < 32) :
    ((1 : UInt32) <<< UInt32.ofNat b).toNat = 2 ^ b := by
  have shift : (UInt32.ofNat b).toNat % 32 = b := by
    rw [UInt32.toNat_ofNat', Nat.mod_eq_of_lt (Nat.lt_of_lt_of_le small (by decide)),
      Nat.mod_eq_of_lt small]
  rw [UInt32.toNat_shiftLeft, shift, UInt32.toNat_one, Nat.one_shiftLeft]
  exact Nat.mod_eq_of_lt (Nat.pow_lt_pow_right (by decide) small)

theorem pos_and_two_pow_iff (x b : Nat) : 0 < x &&& 2 ^ b ↔ x.testBit b = true := by
  rw [Nat.pos_iff_ne_zero]
  constructor
  · intro nonzero
    by_contra unset
    apply nonzero
    apply Nat.eq_of_testBit_eq
    intro i
    rw [Nat.testBit_and, Nat.testBit_two_pow, Nat.zero_testBit]
    by_cases same : b = i
    · rw [← same, Bool.eq_false_iff.mpr unset, Bool.false_and]
    · rw [decide_eq_false same, Bool.and_false]
  · intro set zero
    have bit := congrArg (Nat.testBit · b) zero
    simp only [Nat.testBit_and, Nat.testBit_two_pow_self, set, Bool.and_true,
      Nat.zero_testBit] at bit
    exact Bool.noConfusion bit

/-- The test `w & (1 << b) > 0` is bit `b` of `w`. -/
theorem and_shiftLeft_pos_iff (w : UInt32) {b : Nat} (small : b < 32) :
    w &&& 1 <<< UInt32.ofNat b > 0 ↔ w.toNat.testBit b = true := by
  have masked : (w &&& 1 <<< UInt32.ofNat b).toNat = w.toNat &&& 2 ^ b := by
    rw [UInt32.toNat_and, toNat_one_shiftLeft small]
  rw [gt_iff_lt, UInt32.lt_iff_toNat_lt, masked, UInt32.toNat_zero]
  exact pos_and_two_pow_iff w.toNat b

/-- Setting bit `b` adds `b` and keeps the other bits. -/
theorem testBit_or_shiftLeft (w : UInt32) {b : Nat} (small : b < 32) (c : Nat) :
    (w ||| 1 <<< UInt32.ofNat b).toNat.testBit c = (w.toNat.testBit c || c == b) := by
  rw [UInt32.toNat_or, toNat_one_shiftLeft small, Nat.testBit_or, Nat.testBit_two_pow]
  by_cases same : c = b
  · simp [same]
  · simp [same, Ne.symm same]

/-- A word is `0xFFFFFFFF` exactly when it holds all 32 bits. -/
theorem eq_allOnes_iff (w : UInt32) : w = 0xFFFFFFFF ↔ ∀ b < 32, w.toNat.testBit b = true := by
  have allOnes : (0xFFFFFFFF : UInt32).toNat = 2 ^ 32 - 1 := rfl
  constructor
  · rintro rfl b small
    rw [allOnes, Nat.testBit_two_pow_sub_one, decide_eq_true small]
  · intro full
    apply UInt32.toNat_inj.mp
    rw [allOnes]
    -- the bits agree below 32 by `full`, and above it both are 0
    apply Nat.eq_of_testBit_eq
    intro c
    rw [Nat.testBit_two_pow_sub_one]
    by_cases small : c < 32
    · rw [full c small, decide_eq_true small]
    · rw [decide_eq_false small]
      exact Nat.testBit_lt_two_pow
        (Nat.lt_of_lt_of_le w.toNat_lt (Nat.pow_le_pow_right (by decide) (by omega)))

/-! ## A mask of words -/

/-- Whether `i` is in a mask: bit `i % 32` of word `i / 32`, a word past the end being 0. -/
def test (mask : List UInt32) (i : Nat) : Bool := (mask.getD (i / 32) 0).toNat.testBit (i % 32)

/-- Setting the bit of `i` in its word adds `i` to the mask and keeps every other number. -/
theorem test_set (mask : List UInt32) {i : Nat} (inRange : i / 32 < mask.length) (j : Nat) :
    test (mask.set (i / 32) (mask.getD (i / 32) 0 ||| 1 <<< UInt32.ofNat (i % 32))) j =
      (test mask j || j == i) := by
  unfold test
  rw [List.getD_eq_getElem?_getD, List.getElem?_set]
  by_cases word : i / 32 = j / 32
  · rw [if_pos word, if_pos inRange, Option.getD_some,
      testBit_or_shiftLeft _ (Nat.mod_lt _ (by decide)), ← word, List.getD_eq_getElem?_getD]
    -- in the same word, the bits of `j` and `i` agree exactly when the numbers do
    have sameBit : (j % 32 == i % 32) = (j == i) := by
      rw [Bool.eq_iff_iff, beq_iff_eq, beq_iff_eq]
      omega
    rw [sameBit]
  · rw [if_neg word, ← List.getD_eq_getElem?_getD]
    have differ : (j == i) = false := by
      rw [beq_eq_false_iff_ne]
      rintro rfl
      exact word rfl
    rw [differ, Bool.or_false]

end Bitmask

end Go
