import LibAudit.Rules.Data

/-!
# Audit rules on the wire

`(*AuditRuleData).toWireFormat` lays a rule out for the kernel with `unsafe` pointer stores at
hand-computed offsets, in the host's byte order.  `ListAllRules` reads the rules the kernel lists
back with `struc.Unpack`, which derives the layout from the struct tags of `AuditRuleData`:
`uint32,little` for each word, `[64]uint32,little` for each array, and `Buflen` as the size of
`Buf`.  `compareAuditRule` then compares a listed rule with a rule built locally.

## The unpacking

`struc` is vendored and reads through reflection; `strucUnpack` states what the struct tags
make it do, field after field with `io.ReadFull`: each word little endian, then `Buflen` bytes
into `Buf`.  A read that finds no byte left fails with `io.EOF`, one that finds too few with
`io.ErrUnexpectedEOF`.

`unpackFields` reads a struct of fixed-size byte fields the same way, as `printSockAddr` uses
it.

## Main statements

* `strucUnpack_toWireFormat` — on a little-endian host, the encoding of a rule whose `Buflen`
  is the length of its `Buf`, below `2^32 - 1040`, is `1040 + Buflen` bytes long and unpacks to
  a rule that `compareAuditRule` finds equal, with the same `Buflen`.
* `toWireFormat_panics_at_wrap` — from `Buflen = 2^32 - 1040` on, `toWireFormat` panics.
-/

namespace LibAudit

/-! ## Comparing rules -/

/-- `compareAuditRule(a, b)`: every field but `Buflen` equal, `Buf` compared by
`bytes.Equal`. -/
def compareAuditRule (a b : AuditRuleData) : Bool :=
  a.flags == b.flags && a.action == b.action && a.fieldCount == b.fieldCount &&
    a.mask == b.mask && a.fields == b.fields && a.values == b.values &&
    a.fieldflags == b.fieldflags && a.buf == b.buf

/-- `isAuditRulePresent(a, b)`. -/
def isAuditRulePresent (a : AuditRuleData) (b : List AuditRuleData) : Bool :=
  b.any fun r => compareAuditRule a r

/-- Rules that agree on every field but `Buflen` compare equal. -/
theorem compareAuditRule_of_eq {a b : AuditRuleData} (flags : a.flags = b.flags)
    (action : a.action = b.action) (fieldCount : a.fieldCount = b.fieldCount)
    (mask : a.mask = b.mask) (fields : a.fields = b.fields) (values : a.values = b.values)
    (fieldflags : a.fieldflags = b.fieldflags) (buf : a.buf = b.buf) :
    compareAuditRule a b = true := by
  simp [compareAuditRule, flags, action, fieldCount, mask, fields, values, fieldflags, buf]

/-! ## `struc.Unpack` -/

/-- `io.ReadFull(r, buf)` for `n` bytes from a `bytes.Buffer` that holds `rest`: the bytes read
and what is left. -/
def readFull (n : Nat) (rest : List UInt8) : Except Go.Fault (List UInt8 × List UInt8) :=
  if n ≤ rest.length then .ok (rest.take n, rest.drop n)
  else if rest = [] then .error (.error "EOF")
  else .error (.error "unexpected EOF")

/-- A `uint32,little` field. -/
def unpackWord (rest : List UInt8) : Except Go.Fault (UInt32 × List UInt8) :=
  (readFull 4 rest).map fun (bytes, rest) =>
    (UInt32.ofNat (Go.ByteOrder.littleEndian.getUint 4 bytes), rest)

/-- A `[n]uint32,little` field: `4 * n` bytes read at once, then word by word. -/
def unpackWords (n : Nat) (rest : List UInt8) : Except Go.Fault (Vector UInt32 n × List UInt8) :=
  (readFull (4 * n) rest).map fun (bytes, rest) =>
    (Vector.ofFn fun i => UInt32.ofNat (Go.ByteOrder.littleEndian.getUint 4 (bytes.drop (4 * i))),
      rest)

/-- `struc.Unpack(bytes.NewBuffer(data), &r)` into a fresh `AuditRuleData`, as its struct tags
direct: the fields in declaration order, then `Buflen` bytes for `Buf`; what is left of `data`
is not read. -/
def strucUnpack (data : List UInt8) : Except Go.Fault AuditRuleData := do
  let (flags, rest) ← unpackWord data
  let (action, rest) ← unpackWord rest
  let (fieldCount, rest) ← unpackWord rest
  let (mask, rest) ← unpackWords auditBitmaskSize rest
  let (fields, rest) ← unpackWords auditMaxFields rest
  let (values, rest) ← unpackWords auditMaxFields rest
  let (fieldflags, rest) ← unpackWords auditMaxFields rest
  let (buflen, rest) ← unpackWord rest
  let (buf, _) ← readFull buflen.toNat rest
  return ⟨flags, action, fieldCount, mask, fields, values, fieldflags, buflen, buf⟩

/-- `struc.Unpack(bytes.NewBuffer(data), &s)` into a struct of fixed-size fields, the `i`-th
`sizes[i]` bytes long: the bytes of each field, each read with `io.ReadFull` in turn. -/
def unpackFields : List Nat → List UInt8 → Except Go.Fault (List (List UInt8))
  | [], _ => .ok []
  | size :: sizes, rest => do
    let (field, rest) ← readFull size rest
    let fields ← unpackFields sizes rest
    pure (field :: fields)

/-! ## Reads that succeed and reads that fail -/

theorem readFull_of_le {n : Nat} {rest : List UInt8} (long : n ≤ rest.length) :
    readFull n rest = .ok (rest.take n, rest.drop n) := if_pos long

/-- A read that finds too few bytes fails with `io.EOF` when there are none at all, and with
`io.ErrUnexpectedEOF` otherwise. -/
theorem readFull_of_lt {n : Nat} {rest : List UInt8} (short : rest.length < n) :
    readFull n rest = .error (.error (if rest = [] then "EOF" else "unexpected EOF")) := by
  rw [readFull, if_neg (Nat.not_le_of_lt short)]
  split <;> rfl

theorem unpackFields_cons_of_le {size : Nat} {rest : List UInt8} (long : size ≤ rest.length)
    (sizes : List Nat) :
    unpackFields (size :: sizes) rest =
      (unpackFields sizes (rest.drop size)).map (rest.take size :: ·) := by
  rw [unpackFields, readFull_of_le long, Go.ok_bind]
  dsimp only
  cases unpackFields sizes (rest.drop size) <;> rfl

/-- Fields laid out one after the other are read back, whatever follows them. -/
theorem unpackFields_flatten : ∀ (fields : List (List UInt8)) (rest : List UInt8),
    unpackFields (fields.map List.length) (fields.flatten ++ rest) = .ok fields
  | [], _ => rfl
  | field :: fields, rest => by
      have long : field.length ≤ (field ++ (fields.flatten ++ rest)).length := by simp
      rw [List.map_cons, List.flatten_cons, List.append_assoc, unpackFields_cons_of_le long,
        List.take_left, List.drop_left, unpackFields_flatten fields rest]
      rfl

theorem unpackFields_cons_of_lt {size : Nat} {rest : List UInt8} (short : rest.length < size)
    (sizes : List Nat) :
    unpackFields (size :: sizes) rest =
      .error (.error (if rest = [] then "EOF" else "unexpected EOF")) := by
  rw [unpackFields, readFull_of_lt short]
  rfl

/-- **The unpacking succeeds exactly when the data holds every field**; by induction on the
fields, one read at a time. -/
theorem unpackFields_ok_iff :
    ∀ (sizes : List Nat) (rest : List UInt8),
      (∃ fields, unpackFields sizes rest = .ok fields) ↔ sizes.sum ≤ rest.length
  | [], _ => by simp [unpackFields]
  | size :: sizes, rest => by
    rw [List.sum_cons]
    by_cases long : size ≤ rest.length
    · have rest_ok := unpackFields_ok_iff sizes (rest.drop size)
      rw [List.length_drop] at rest_ok
      rw [unpackFields_cons_of_le long]
      constructor
      · rintro ⟨fields, unpacked⟩
        cases read : unpackFields sizes (rest.drop size) with
        | error e => rw [read] at unpacked; cases unpacked
        | ok tail => have := rest_ok.mp ⟨tail, read⟩; omega
      · intro fits
        obtain ⟨tail, read⟩ := rest_ok.mpr (by omega)
        exact ⟨rest.take size :: tail, by rw [read]; rfl⟩
    · rw [unpackFields_cons_of_lt (Nat.lt_of_not_le long)]
      constructor
      · rintro ⟨fields, unpacked⟩
        cases unpacked
      · intro fits
        omega

/-- The unpacking fails with an error, never a panic. -/
theorem unpackFields_noPanic : ∀ (sizes : List Nat) (rest : List UInt8),
    Go.NoPanic (unpackFields sizes rest)
  | [], _ => Go.noPanic_ok _
  | size :: sizes, rest => by
    by_cases long : size ≤ rest.length
    · rw [unpackFields_cons_of_le long]
      intro p failed
      cases read : unpackFields sizes (rest.drop size) with
      | error e =>
        rw [read] at failed
        cases failed
        exact unpackFields_noPanic sizes (rest.drop size) p read
      | ok tail => rw [read] at failed; cases failed
    · rw [unpackFields_cons_of_lt (Nat.lt_of_not_le long)]
      split <;> exact Go.noPanic_error _

/-! ## Reading back what was written -/

theorem readFull_append {n : Nat} {bytes : List UInt8} (length : bytes.length = n)
    (rest : List UInt8) : readFull n (bytes ++ rest) = .ok (bytes, rest) := by
  rw [readFull, if_pos (by simp [length]), List.take_left' length, List.drop_left' length]

theorem unpackWord_append (w : UInt32) (rest : List UInt8) :
    unpackWord (Go.ByteOrder.littleEndian.putUint 4 w.toNat ++ rest) = .ok (w, rest) := by
  rw [unpackWord, readFull_append (Go.ByteOrder.length_putUint _ _ _)]
  have read : Go.ByteOrder.littleEndian.getUint 4 (Go.ByteOrder.littleEndian.putUint 4 w.toNat) =
      w.toNat := by
    have fits := w.toNat_lt
    rw [← List.append_nil (Go.ByteOrder.littleEndian.putUint 4 w.toNat),
      Go.ByteOrder.getUint_putUint _ fits]
  simp only [Except.map, read, UInt32.ofNat_toNat]

theorem unpackWords_append {n : Nat} (words : Vector UInt32 n) (rest : List UInt8) :
    unpackWords n ((words.toList.flatMap fun w => Go.ByteOrder.littleEndian.putUint 4 w.toNat) ++
      rest) = .ok (words, rest) := by
  have length := AuditRuleData.length_flatMap_putUint .littleEndian words.toList
  rw [Vector.length_toList] at length
  rw [unpackWords, readFull_append length]
  simp only [Except.map, Except.ok.injEq, Prod.mk.injEq, and_true]
  apply Vector.ext
  intro i inRange
  have fits : ∀ w ∈ words.toList, w.toNat < 256 ^ 4 := fun w _ => w.toNat_lt
  have read := Go.ByteOrder.getUint_drop_flatMap_putUint .littleEndian UInt32.toNat words.toList
    fits i (by simpa using inRange)
  rw [Vector.getElem_ofFn, read, UInt32.ofNat_toNat, Vector.getElem_toList]

/-- The tail of the encoding: `Buflen` bytes copied from a `Buf` of that length. -/
theorem toWireFormat_tail {rule : AuditRuleData} (consistent : rule.buflen.toNat = rule.buf.length) :
    rule.buf.take rule.buflen.toNat ++ List.replicate (rule.buflen.toNat - rule.buf.length) 0 =
      rule.buf := by
  rw [consistent, List.take_length, Nat.sub_self, List.replicate_zero, List.append_nil]

/-- `struc.Unpack` reads a rule back from its little-endian wire image, whatever bytes follow
it: it reads `Buflen` bytes for `Buf` and leaves the rest. -/
theorem strucUnpack_wireImage_append (rule : AuditRuleData)
    (consistent : rule.buflen.toNat = rule.buf.length) (extra : List UInt8) :
    strucUnpack (rule.wireImage .littleEndian ++ extra) = .ok rule := by
  simp only [AuditRuleData.wireImage, AuditRuleData.storedFields, toWireFormat_tail consistent,
    List.append_assoc]
  simp only [strucUnpack, unpackWord_append, unpackWords_append, Go.ok_bind,
    readFull_append consistent.symm]
  rfl

/-- **The wire encoding round-trips below the wrap.**  On a little-endian host, a rule whose
`Buflen` is the length of its `Buf` and below `2^32 - 1040` is encoded in `1040 + Buflen`
bytes, and `struc.Unpack` of them gives a rule that `compareAuditRule` finds equal to the
first, with the same `Buflen`. -/
theorem strucUnpack_toWireFormat (rule : AuditRuleData)
    (consistent : rule.buflen.toNat = rule.buf.length) (fits : rule.buflen.toNat < 2 ^ 32 - 1040) :
    ∃ newbuff, rule.toWireFormat .littleEndian = .ok newbuff ∧
      newbuff.length = 1040 + rule.buflen.toNat ∧
      ∃ rule', strucUnpack newbuff = .ok rule' ∧
        compareAuditRule rule rule' = true ∧ rule'.buflen = rule.buflen := by
  refine ⟨rule.wireImage .littleEndian, AuditRuleData.toWireFormat_of_lt fits, ?_, rule, ?_, ?_,
    rfl⟩
  · rw [AuditRuleData.wireImage, toWireFormat_tail consistent, List.length_append,
      AuditRuleData.length_storedFields, consistent]
  -- nothing follows the encoding
  · simpa using strucUnpack_wireImage_append rule consistent []
  · exact compareAuditRule_of_eq rfl rfl rfl rfl rfl rfl rfl rfl

/-- A rule holding the key `lw_` in its buffer. -/
theorem strucUnpack_toWireFormat_keyed :
    let rule : AuditRuleData := { AuditRuleData.empty with buflen := 3, buf := [108, 119, 95] }
    rule.buflen.toNat = rule.buf.length ∧ rule.buflen.toNat < 2 ^ 32 - 1040 ∧
      ∃ newbuff, rule.toWireFormat .littleEndian = .ok newbuff ∧
        newbuff.length = 1040 + rule.buflen.toNat ∧
        ∃ rule', strucUnpack newbuff = .ok rule' ∧
          compareAuditRule rule rule' = true ∧ rule'.buflen = rule.buflen :=
  ⟨rfl, by decide, strucUnpack_toWireFormat _ rfl (by decide)⟩

/-- A rule whose `Buf` holds `2^32 - 1040` bytes, `Buflen` its length: `1040+rule.Buflen` wraps
to 0, and `toWireFormat` panics on `newbuff[1040:0]` where the round trip would need bytes. -/
theorem toWireFormat_panics_at_wrap :
    let rule : AuditRuleData := { AuditRuleData.empty with
      buflen := UInt32.ofNat (2 ^ 32 - 1040), buf := List.replicate (2 ^ 32 - 1040) 0 }
    rule.buflen.toNat = rule.buf.length ∧
      rule.toWireFormat .littleEndian = .error (.sliceBounds 1040 0 (2 ^ 32)) := by
  intro rule
  have size : rule.buflen.toNat = 2 ^ 32 - 1040 := rfl
  refine ⟨by rw [size, List.length_replicate], ?_⟩
  rw [AuditRuleData.toWireFormat_of_le size.ge, size]
  rfl

end LibAudit
