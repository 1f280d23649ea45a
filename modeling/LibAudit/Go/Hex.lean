import LibAudit.Go.Runtime

/-!
# Hexadecimal text: `encoding/hex` and `fmt`'s `%x` and `%X`

The library reads hexadecimal text with `hex.DecodeString` and writes it with `fmt`'s `%x` and
`%X` verbs.  This module models both sides for strings held one `Char` per byte, as
`LibAudit.Go.Runtime` holds them, and proves that reading gives back what upper-case writing
wrote.

## Main definitions

* `Go.stringOfBytes` — the conversion `string(b)` of a `[]byte`.
* `Go.IsByteString` — a string of bytes, which `[]byte(s)` converts without loss.
* `Go.Hex.decodeString` — `hex.DecodeString`, two digits of either case for each byte.
* `Go.Hex.decode` — `hex.DecodeString` with the error it reports, as `fmt`'s `%#U` spells an
  invalid byte.
* `Go.Hex.encodeUpper` — two upper-case digits for each byte, as `%X` prints a string.
* `Go.Hex.formatUpper`, `Go.Hex.formatLower` — `%X` and `%x` of an unsigned integer.

## Main statements

* `Go.Hex.decodeString_encodeUpper` — `hex.DecodeString` reads back the bytes whose upper-case
  digits it is given.
* `Go.Hex.toOption_decode` — the two models of `hex.DecodeString` agree on what it decodes.
-/

namespace Go

/-- `string(b)` of a `[]byte`: one character for each byte. -/
def stringOfBytes (bytes : List UInt8) : List Char := bytes.map Char.ofUInt8

@[simp] theorem stringOfBytes_nil : stringOfBytes [] = [] := rfl

@[simp] theorem length_stringOfBytes (bytes : List UInt8) :
    (stringOfBytes bytes).length = bytes.length :=
  List.length_map _

theorem stringOfBytes_eq_nil {bytes : List UInt8} : stringOfBytes bytes = [] ↔ bytes = [] :=
  List.map_eq_nil_iff

@[simp] theorem toNat_ofUInt8 (b : UInt8) : (Char.ofUInt8 b).toNat = b.toNat :=
  UInt8.toNat_toUInt32 b

/-- A string whose characters are all bytes, as the characters of every Go string are. -/
def IsByteString (s : List Char) : Prop := ∀ c ∈ s, c.toNat < 256

/-- Decided along the string, whatever instances for `∀` are in scope. -/
instance : DecidablePred IsByteString := fun s =>
  List.decidableBAll (fun c : Char => c.toNat < 256) s

theorem ofUInt8_toUInt8 {c : Char} (byte : c.toNat < 256) : Char.ofUInt8 c.toUInt8 = c := by
  apply Char.toNat_inj.mp
  have toNat : c.toUInt8.toNat = c.toNat := by
    rw [← Char.toUInt8_val, UInt32.toNat_toUInt8]
    exact Nat.mod_eq_of_lt byte
  rw [toNat_ofUInt8, toNat]

/-- `string([]byte(s))` is `s`. -/
theorem stringOfBytes_toUInt8 {s : List Char} (bytes : IsByteString s) :
    stringOfBytes (s.map Char.toUInt8) = s := by
  rw [stringOfBytes, List.map_map]
  conv => rhs; rw [← List.map_id s]
  exact List.map_congr_left fun c member => ofUInt8_toUInt8 (bytes c member)

namespace Hex

/-- The value of one hexadecimal digit of either case, as `hex`'s `reverseHexTable` gives it;
`none` for any other byte. -/
def fromHexChar (c : Char) : Option UInt8 :=
  if '0' ≤ c ∧ c ≤ '9' then some (UInt8.ofNat (c.toNat - '0'.toNat))
  else if 'a' ≤ c ∧ c ≤ 'f' then some (UInt8.ofNat (c.toNat - 'a'.toNat + 10))
  else if 'A' ≤ c ∧ c ≤ 'F' then some (UInt8.ofNat (c.toNat - 'A'.toNat + 10))
  else none

/-- `hex.DecodeString(s)`: each pair of digits is the byte `a<<4 | b`.  A byte that is not a
digit and an odd length are errors, which the callers only test against `nil`, so that both
are `none`. -/
def decodeString : List Char → Option (List UInt8)
  | [] => some []
  | [_] => none
  | p :: q :: rest => do
    let a ← fromHexChar p
    let b ← fromHexChar q
    let tail ← decodeString rest
    pure ((a <<< 4 ||| b) :: tail)

/-! ## The errors of `hex.DecodeString` -/

/-- `strconv.IsPrint` on the runes up to `0xFF`, the only ones a byte converts to: ASCII from
the space to `~`, and Latin-1 from `¡` on but for the soft hyphen. -/
def isPrintLatin1 (r : Nat) : Bool :=
  (0x20 ≤ r && r ≤ 0x7E) || (0xA1 ≤ r && r ≤ 0xFF && r != 0xAD)

/-- `fmt.Sprintf("%#U", r)` of a rune up to `0xFF`: `U+` and four upper-case digits, then the
rune itself between quotes when it is printable. -/
def formatUnicode (r : Nat) : String :=
  let digits := (Nat.toDigits 16 r).map Char.toUpper
  "U+" ++ String.ofList (List.replicate (4 - digits.length) '0' ++ digits) ++
    if isPrintLatin1 r then " \x27" ++ String.singleton (Char.ofNat r) ++ "\x27" else ""

/-- `InvalidByteError(b).Error()`. -/
def invalidByteError (c : Char) : Fault :=
  .error ("encoding/hex: invalid byte: " ++ formatUnicode c.toNat)

/-- `ErrLength.Error()`. -/
def errLength : Fault := .error "encoding/hex: odd length hex string"

/-- `hex.DecodeString(s)` with the error it returns.  `Decode` reads the pairs from the front
and reports the first byte of a pair that is not a digit; a last byte left alone is checked the
same way before the odd length is reported.  The bytes decoded before an error are dropped, as
every caller here drops them. -/
def decode : List Char → Except Fault (List UInt8)
  | [] => .ok []
  | [p] =>
    match fromHexChar p with
    | none => .error (invalidByteError p)
    | some _ => .error errLength
  | p :: q :: rest =>
    match fromHexChar p, fromHexChar q with
    | none, _ => .error (invalidByteError p)
    | some _, none => .error (invalidByteError q)
    | some a, some b => do
      let tail ← decode rest
      pure ((a <<< 4 ||| b) :: tail)

/-- The upper-case digit of a value below 16. -/
def upperDigit (n : Nat) : Char :=
  if n < 10 then Char.ofNat ('0'.toNat + n) else Char.ofNat ('A'.toNat + n - 10)

/-- The two upper-case digits of a byte, the high half first. -/
def upperByte (b : UInt8) : List Char := [upperDigit (b.toNat / 16), upperDigit (b.toNat % 16)]

/-- `fmt.Sprintf("%X", s)` of a string given by its bytes: two upper-case digits for each
byte. -/
def encodeUpper (bytes : List UInt8) : List Char := bytes.flatMap upperByte

/-- `fmt.Sprintf("%X", n)` of an unsigned integer: its upper-case digits, without leading
zeros. -/
def formatUpper (n : Nat) : List Char := (Nat.toDigits 16 n).map Char.toUpper

/-- `fmt.Sprintf("%x", n)` of an unsigned integer. -/
def formatLower (n : Nat) : List Char := Nat.toDigits 16 n

/-! ## Digits -/

/-- Each of the sixteen upper-case digits reads back as its own value. -/
theorem fromHexChar_upperDigit {n : Nat} (small : n < 16) :
    fromHexChar (upperDigit n) = some (UInt8.ofNat n) := by
  have each : ∀ d : Fin 16, fromHexChar (upperDigit d) = some (UInt8.ofNat d) := by decide
  exact each ⟨n, small⟩

/-- A byte is its high half shifted past its low half. -/
theorem halves (b : UInt8) :
    UInt8.ofNat (b.toNat / 16) <<< 4 ||| UInt8.ofNat (b.toNat % 16) = b := by
  apply UInt8.toNat_inj.mp
  have fits := b.toNat_lt
  rw [UInt8.toNat_or, UInt8.toNat_shiftLeft, UInt8.toNat_ofNat', UInt8.toNat_ofNat']
  have four : (4 : UInt8).toNat % 8 = 4 := rfl
  have high : (b.toNat / 16 % 2 ^ 8) <<< 4 % 2 ^ 8 = b.toNat / 16 * 2 ^ 4 := by
    rw [Nat.shiftLeft_eq]
    omega
  have low : b.toNat % 16 % 2 ^ 8 = b.toNat % 16 := by omega
  -- the low half is below `2 ^ 4`, so or-ing it in is adding it
  rw [four, high, low, ← Nat.shiftLeft_eq, ← Nat.shiftLeft_add_eq_or_of_lt (by omega),
    Nat.shiftLeft_eq]
  omega

/-- An upper-case digit is `0` exactly for the value 0. -/
theorem upperDigit_eq_zero {n : Nat} (small : n < 16) : upperDigit n = '0' ↔ n = 0 := by
  have each : ∀ d : Fin 16, upperDigit d = '0' ↔ d.val = 0 := by decide
  exact each ⟨n, small⟩

/-- The characters `encodeUpper` writes are digits. -/
theorem mem_encodeUpper {bytes : List UInt8} {c : Char} (mem : c ∈ encodeUpper bytes) :
    ∃ n < 16, c = upperDigit n := by
  obtain ⟨b, -, inByte⟩ := List.mem_flatMap.mp mem
  have fits := b.toNat_lt
  simp only [upperByte, List.mem_cons, List.not_mem_nil, or_false] at inByte
  rcases inByte with high | low
  · exact ⟨b.toNat / 16, by omega, high⟩
  · exact ⟨b.toNat % 16, by omega, low⟩

/-! ## Reading back -/

@[simp] theorem encodeUpper_nil : encodeUpper [] = [] := rfl

theorem encodeUpper_cons (b : UInt8) (bytes : List UInt8) :
    encodeUpper (b :: bytes) =
      upperDigit (b.toNat / 16) :: upperDigit (b.toNat % 16) :: encodeUpper bytes := rfl

@[simp] theorem length_encodeUpper (bytes : List UInt8) :
    (encodeUpper bytes).length = 2 * bytes.length := by
  induction bytes with
  | nil => rfl
  | cons b bytes ih =>
    rw [encodeUpper_cons, List.length_cons, List.length_cons, ih, List.length_cons]
    omega

/-- **`hex.DecodeString` reads back upper-case digits**: by induction on the bytes, two digits
at a time. -/
theorem decodeString_encodeUpper (bytes : List UInt8) :
    decodeString (encodeUpper bytes) = some bytes := by
  induction bytes with
  | nil => rfl
  | cons b bytes ih =>
    have fits := b.toNat_lt
    rw [encodeUpper_cons, decodeString, fromHexChar_upperDigit (by omega),
      fromHexChar_upperDigit (by omega)]
    simp only [Option.bind_eq_bind, Option.bind_some, ih, halves]
    rfl

/-- **The two models of `hex.DecodeString` agree**: the one with the error decodes the strings
the other decodes, to the same bytes; by induction on the string, two digits at a time. -/
theorem toOption_decode : ∀ s : List Char, (decode s).toOption = decodeString s
  | [] => rfl
  | [_] => by
    rw [decode, decodeString]
    split <;> rfl
  | p :: q :: rest => by
    rw [decode, decodeString]
    cases fromHexChar p with
    | none => rfl
    | some a =>
      cases fromHexChar q with
      | none => rfl
      | some b =>
        rw [Option.bind_eq_bind, Option.bind_some, Option.bind_eq_bind, Option.bind_some,
          ← toOption_decode rest]
        cases decode rest <;> rfl

theorem decode_encodeUpper (bytes : List UInt8) : decode (encodeUpper bytes) = .ok bytes := by
  have read := toOption_decode (encodeUpper bytes)
  rw [decodeString_encodeUpper] at read
  cases decoded : decode (encodeUpper bytes) with
  | error e => rw [decoded] at read; cases read
  | ok b => rw [decoded] at read; cases read; rfl

/-- Decoding fails with an error, never a panic. -/
@[simp] theorem decode_noPanic : ∀ s : List Char, NoPanic (decode s)
  | [] => noPanic_ok _
  | [_] => by
    rw [decode]
    split <;> exact noPanic_error _
  | p :: q :: rest => by
    rw [decode]
    split
    · exact noPanic_error _
    · exact noPanic_error _
    · exact (decode_noPanic rest).bind fun _ _ => noPanic_pure _

end Hex

end Go
