import Mathlib.Tactic.Ring

/-!
# `encoding/binary` byte orders

Go reads and writes fixed-width integers in a byte order, `binary.LittleEndian` or
`binary.BigEndian`; code that goes through `unsafe` pointer casts reads and writes in the
host's own order.  Both are `Go.ByteOrder` here.

A `w`-byte field holds a natural below `256 ^ w`.  The codec is written on `Nat`, least
significant byte first (`leBytes`, `leValue`), and big-endian is its reversal, so that every
law is proved once, by induction on the width.  The law the framing proofs use is
`ByteOrder.getUint_putUint`: reading back what was written gives the value, and reading stops
at the field's width whatever follows it.
-/

namespace Go

/-- The `w` bytes of `n`, least significant first; bits above `8 * w` are dropped. -/
def leBytes : Nat → Nat → List UInt8
  | 0, _ => []
  | w + 1, n => UInt8.ofNat (n % 256) :: leBytes w (n / 256)

/-- The natural whose bytes, least significant first, are the given ones. -/
def leValue : List UInt8 → Nat
  | [] => 0
  | b :: bs => b.toNat + 256 * leValue bs

@[simp] theorem length_leBytes (w n : Nat) : (leBytes w n).length = w := by
  induction w generalizing n with
  | zero => rfl
  | succ w ih => simp [leBytes, ih]

theorem leValue_leBytes (w n : Nat) : leValue (leBytes w n) = n % 256 ^ w := by
  induction w generalizing n with
  | zero => simp [leBytes, leValue, Nat.mod_one]
  | succ w ih =>
    have byte : (UInt8.ofNat (n % 256)).toNat = n % 256 := by simp
    simp only [leBytes, leValue, byte, ih]
    rw [pow_succ', Nat.mod_mul]

/-- The order in which a fixed-width integer's bytes are laid out. -/
inductive ByteOrder where
  | littleEndian
  | bigEndian
  deriving DecidableEq, Repr

namespace ByteOrder

/-- `PutUint16`/`PutUint32`: the `w` bytes of `n` in this order. -/
def putUint : ByteOrder → Nat → Nat → List UInt8
  | littleEndian, w, n => leBytes w n
  | bigEndian, w, n => (leBytes w n).reverse

/-- `Uint16`/`Uint32`: the value of the first `w` bytes of `b` in this order. -/
def getUint : ByteOrder → Nat → List UInt8 → Nat
  | littleEndian, w, b => leValue (b.take w)
  | bigEndian, w, b => leValue (b.take w).reverse

@[simp] theorem length_putUint (o : ByteOrder) (w n : Nat) : (o.putUint w n).length = w := by
  cases o <;> simp [putUint]

/-- Reading a field looks at its `w` bytes only. -/
theorem getUint_append_of_le (o : ByteOrder) {w : Nat} {b : List UInt8} (long : w ≤ b.length)
    (rest : List UInt8) : o.getUint w (b ++ rest) = o.getUint w b := by
  cases o <;> simp only [getUint, List.take_append_of_le_length long]

/-- **Reading back a written field.**  The bytes after the field do not matter. -/
theorem getUint_putUint (o : ByteOrder) {w n : Nat} (h : n < 256 ^ w) (rest : List UInt8) :
    o.getUint w (o.putUint w n ++ rest) = n := by
  cases o with
  | littleEndian =>
    simp only [getUint, putUint]
    rw [List.take_left' (length_leBytes w n), leValue_leBytes, Nat.mod_eq_of_lt h]
  | bigEndian =>
    simp only [getUint, putUint]
    rw [List.take_left' (by simp), List.reverse_reverse, leValue_leBytes, Nat.mod_eq_of_lt h]

/-- **Reading one of packed fields.**  Of fields of width `w` written one after the other, the
`i`-th is read back at offset `w * i`. -/
theorem getUint_drop_flatMap_putUint (o : ByteOrder) {α : Type} {w : Nat} (f : α → Nat) :
    ∀ (values : List α), (∀ v ∈ values, f v < 256 ^ w) → ∀ (i : Nat) (inRange : i < values.length),
      o.getUint w ((values.flatMap fun v => o.putUint w (f v)).drop (w * i)) = f values[i]
  | [], _, i, inRange => absurd inRange (Nat.not_lt_zero i)
  | v :: values, small, 0, _ => by
      rw [Nat.mul_zero, List.drop_zero, List.flatMap_cons,
        getUint_putUint o (small v List.mem_cons_self)]
      rfl
  | v :: values, small, i + 1, inRange => by
      have skipped : (List.flatMap (fun v => o.putUint w (f v)) (v :: values)).drop (w * (i + 1)) =
          (values.flatMap fun v => o.putUint w (f v)).drop (w * i) := by
        rw [List.flatMap_cons, Nat.mul_succ, Nat.add_comm, ← List.drop_drop,
          List.drop_left' (length_putUint o w (f v))]
      rw [skipped, getUint_drop_flatMap_putUint o f values
        (fun v' member => small v' (List.mem_cons_of_mem v member)) i
        (Nat.lt_of_succ_lt_succ inRange)]
      rfl

end ByteOrder

end Go
