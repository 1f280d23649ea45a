import Mathlib.Data.List.Basic
import Mathlib.Algebra.Group.Nat.Defs

/-!
# `strconv.ParseUint`, `strconv.ParseInt` and `strconv.Atoi`

Go's integer parsers as the standard library documents them, for an explicit base between 2
and 36 (the library never passes base 0, the one that reads a `0x`-style prefix):

* the text is a non-empty run of digits `0`–`9` and letters `a`–`z` in either case, each below
  the base, with one optional leading `+` or `-` for `ParseInt`;
* `bitSize` 0 stands for 64, and a `bitSize` outside `0 … 64` is always an error;
* the value must fit in `bitSize` bits (`ParseInt`: in the signed range).

The library only ever tests `err != nil` and then ignores the value, so the model returns
`none` for every error, syntax, range and bit-size errors alike.
-/

namespace Go.Strconv

/-- The value of one digit of `ParseUint` in base `base`: `'0'`–`'9'`, then `'a'`–`'z'` in
either case from 10 on; `none` for any other byte and for a digit not below the base. -/
def digitValue (base : Nat) (c : Char) : Option Nat :=
  let d :=
    if '0' ≤ c ∧ c ≤ '9' then some (c.toNat - '0'.toNat)
    else if 'a' ≤ c.toLower ∧ c.toLower ≤ 'z' then some (c.toLower.toNat - 'a'.toNat + 10)
    else none
  d.filter (· < base)

/-- The bit size `ParseUint` and `ParseInt` work with: `0` means the 64 bits of `int`. -/
def effectiveBitSize (bitSize : Int) : Int := if bitSize = 0 then 64 else bitSize

/-- `strconv.ParseUint(s, base, bitSize)` for `2 ≤ base ≤ 36`. -/
def parseUint (s : List Char) (base : Nat) (bitSize : Int) : Option Nat :=
  let bits := effectiveBitSize bitSize
  if s = [] ∨ ¬ (2 ≤ base ∧ base ≤ 36) ∨ bits < 0 ∨ 64 < bits then none
  else
    (s.mapM (digitValue base)).bind fun digits =>
      let n := digits.foldl (fun n d => n * base + d) 0
      if n < 2 ^ bits.toNat then some n else none

/-- `strconv.ParseInt(s, base, bitSize)` for `2 ≤ base ≤ 36`: an optional sign, then
`ParseUint` of the rest, which must lie in the signed range of `bitSize` bits. -/
def parseInt (s : List Char) (base : Nat) (bitSize : Int) : Option Int :=
  let (neg, digits) :=
    match s with
    | '+' :: rest => (false, rest)
    | '-' :: rest => (true, rest)
    | _ => (false, s)
  if s = [] then none
  else
    (parseUint digits base bitSize).bind fun un =>
      let cutoff := 2 ^ ((effectiveBitSize bitSize).toNat - 1)
      if neg then (if un ≤ cutoff then some (-(un : Int)) else none)
      else (if un < cutoff then some (un : Int) else none)

example : parseInt "ff".toList 16 64 = some 255 := by decide
example : parseInt "-10".toList 16 64 = some (-16) := by decide
example : parseInt "0x10".toList 16 64 = none := by decide
example : parseInt "ff".toList 16 (-1) = none := by decide

/-- The error `strconv.ParseUint` meets first when it reads the digits of a text left to right
from the value `n`: a byte that is not a digit below the base is a syntax error, and a digit that
takes the value past `max` a range error; `none` when every digit is read. -/
def uintError (base max : Nat) : Nat → List Char → Option String
  | _, [] => none
  | n, c :: rest =>
    match digitValue base c with
    | none => some "invalid syntax"
    | some d =>
      if max < n * base + d then some "value out of range"
      else uintError base max (n * base + d) rest

/-- The text of the `*NumError` of a failed `strconv.ParseInt(s, base, bitSize)`, for a bit
size of `0 … 64`: the error `ParseUint` meets on the digits after the sign, a syntax error when
there are none, and otherwise a range error of the signed bound.  The text quotes `s` as
`strconv.Quote` quotes text without quotes, backslashes or control bytes. -/
def parseIntError (s : List Char) (base : Nat) (bitSize : Int) : String :=
  let digits := match s with
    | '+' :: rest => rest
    | '-' :: rest => rest
    | _ => s
  let reason := if digits = [] then "invalid syntax"
    else (uintError base (2 ^ (effectiveBitSize bitSize).toNat - 1) 0 digits).getD
      "value out of range"
  "strconv.ParseInt: parsing \"" ++ String.ofList s ++ "\": " ++ reason

example : parseIntError "1g".toList 16 64 = "strconv.ParseInt: parsing \"1g\": invalid syntax" := by
  decide
example : parseIntError "8000000000000000".toList 16 64 =
    "strconv.ParseInt: parsing \"8000000000000000\": value out of range" := by
  decide

/-- `strconv.FormatInt(i, 10)`: the decimal digits of `i`, after a `-` when it is negative. -/
def formatInt (i : Int) : List Char := (toString i).toList

/-- `strconv.Atoi(s)`: `ParseInt(s, 10, 0)` with the text of its `*NumError`: a run of decimal
digits, signed or not, that does not fit is out of range, anything else a syntax error.  The
text quotes `s` as `strconv.Quote` quotes text without quotes, backslashes or control bytes. -/
def atoi (s : List Char) : Except String Int :=
  match parseInt s 10 0 with
  | some n => .ok n
  | none =>
    let digits := match s with
      | '+' :: rest => rest
      | '-' :: rest => rest
      | _ => s
    let reason := if digits ≠ [] ∧ digits.all Char.isDigit then "value out of range"
      else "invalid syntax"
    .error ("strconv.Atoi: parsing \"" ++ String.ofList s ++ "\": " ++ reason)

end Go.Strconv
