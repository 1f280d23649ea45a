import Mathlib.Data.List.Basic

/-!
# Runes of a Go string, and `strings.ToLower`

A Go string is a sequence of bytes, here a `List Char` of characters below 256.  Where Go reads
it as text, with `for _, r := range s`, `utf8.DecodeRuneInString` or `strings.Map`, it decodes
UTF-8 and takes a byte that starts no valid sequence for `utf8.RuneError` of width one.

`strings.ToLower` lowers the ASCII letters of a string of ASCII bytes in place.  On any other
string it is `strings.Map(unicode.ToLower, s)`: each rune is lowered through the Unicode case
tables and written back in UTF-8, and an invalid byte comes out as the three bytes of
`U+FFFD`.  The tables are not copied here: `unicode.ToLower` is a parameter.

## Main definitions

* `Go.Utf8.decodeRune` — `utf8.DecodeRuneInString`.
* `Go.Utf8.runes` — the runes `range` visits.
* `Go.Utf8.encodeRune` — the bytes `utf8.EncodeRune` writes.
* `Go.toLower` — `strings.ToLower`.

## Main statements

* `Go.Utf8.runes_of_ascii`, `Go.toLower_of_ascii` — on ASCII text, the runes are the bytes and
  `strings.ToLower` lowers the letters `A`–`Z`.
-/

namespace Go

namespace Utf8

/-- `utf8.RuneError`, `U+FFFD`. -/
def runeError : Char := '\uFFFD'

/-- The entry of the table `first` for a byte `b0 ≥ 0x80`: the width of the sequence it starts,
and the range `acceptRanges` allows for the byte after it; `none` when `b0` starts none. -/
def sequence (b0 : Nat) : Option (Nat × Nat × Nat) :=
  if 0xC2 ≤ b0 ∧ b0 ≤ 0xDF then some (2, 0x80, 0xBF)
  else if b0 = 0xE0 then some (3, 0xA0, 0xBF)
  else if b0 = 0xED then some (3, 0x80, 0x9F)
  else if 0xE1 ≤ b0 ∧ b0 ≤ 0xEF then some (3, 0x80, 0xBF)
  else if b0 = 0xF0 then some (4, 0x90, 0xBF)
  else if b0 = 0xF4 then some (4, 0x80, 0x8F)
  else if 0xF1 ≤ b0 ∧ b0 ≤ 0xF3 then some (4, 0x80, 0xBF)
  else none

/-- A byte outside `locb`–`hicb`, which no sequence continues with. -/
def notContinuation (b : Char) : Prop := b.toNat < 0x80 ∨ 0xBF < b.toNat

instance : DecidablePred notContinuation := fun b =>
  inferInstanceAs (Decidable (b.toNat < 0x80 ∨ 0xBF < b.toNat))

/-- `utf8.DecodeRuneInString(s)`: the rune at the start of `s` and its width in bytes; an ASCII
byte is itself, and a byte that starts no valid sequence is `RuneError` of width one.  The
checks come in the source's order: the width against what is left, then each byte after the
first. -/
def decodeRune : List Char → Char × Nat
  | [] => (runeError, 0)
  | b0 :: rest =>
    if b0.toNat < 0x80 then (b0, 1)
    else
      match sequence b0.toNat with
      | none => (runeError, 1)
      | some (sz, lo, hi) =>
        if rest.length + 1 < sz then (runeError, 1)
        else
          match rest with
          | [] => (runeError, 1)
          | b1 :: rest =>
            if b1.toNat < lo ∨ hi < b1.toNat then (runeError, 1)
            else if sz ≤ 2 then
              (Char.ofNat (((b0.toNat &&& 0x1F) <<< 6) ||| (b1.toNat &&& 0x3F)), 2)
            else
              match rest with
              | [] => (runeError, 1)
              | b2 :: rest =>
                if notContinuation b2 then (runeError, 1)
                else if sz ≤ 3 then
                  (Char.ofNat (((b0.toNat &&& 0x0F) <<< 12) ||| ((b1.toNat &&& 0x3F) <<< 6) |||
                    (b2.toNat &&& 0x3F)), 3)
                else
                  match rest with
                  | [] => (runeError, 1)
                  | b3 :: _ =>
                    if notContinuation b3 then (runeError, 1)
                    else
                      (Char.ofNat (((b0.toNat &&& 0x07) <<< 18) |||
                        ((b1.toNat &&& 0x3F) <<< 12) ||| ((b2.toNat &&& 0x3F) <<< 6) |||
                        (b3.toNat &&& 0x3F)), 4)

/-- The runes `for _, r := range s` visits: each decoded rune, the next one read after its
width. -/
def runes : List Char → List Char
  | [] => []
  | b0 :: rest =>
    (decodeRune (b0 :: rest)).1 ::
      match (decodeRune (b0 :: rest)).2, rest with
      | 2, _ :: rest => runes rest
      | 3, _ :: _ :: rest => runes rest
      | 4, _ :: _ :: _ :: rest => runes rest
      | _, rest => runes rest

/-- The bytes `utf8.EncodeRune` writes for `r`.  A `Char` is never a surrogate nor above
`MaxRune`, so the case that writes `RuneError` in their place does not arise. -/
def encodeRune (r : Char) : List Char :=
  let i := r.toNat
  if i < 0x80 then [r]
  else if i ≤ 0x7FF then [Char.ofNat (0xC0 ||| (i >>> 6)), Char.ofNat (0x80 ||| (i &&& 0x3F))]
  else if i ≤ 0xFFFF then
    [Char.ofNat (0xE0 ||| (i >>> 12)), Char.ofNat (0x80 ||| ((i >>> 6) &&& 0x3F)),
      Char.ofNat (0x80 ||| (i &&& 0x3F))]
  else
    [Char.ofNat (0xF0 ||| (i >>> 18)), Char.ofNat (0x80 ||| ((i >>> 12) &&& 0x3F)),
      Char.ofNat (0x80 ||| ((i >>> 6) &&& 0x3F)), Char.ofNat (0x80 ||| (i &&& 0x3F))]

/-- A string of ASCII bytes. -/
def IsASCII (s : List Char) : Prop := ∀ c ∈ s, c.toNat < 0x80

instance : DecidablePred IsASCII := fun s =>
  decidable_of_iff ((s.all fun c => c.toNat < 0x80) = true) (by simp [IsASCII])

@[simp] theorem isASCII_nil : IsASCII [] := fun _ member => absurd member List.not_mem_nil

theorem isASCII_append {s t : List Char} : IsASCII (s ++ t) ↔ IsASCII s ∧ IsASCII t := by
  simp only [IsASCII, List.mem_append]
  exact ⟨fun all => ⟨fun c inS => all c (.inl inS), fun c inT => all c (.inr inT)⟩,
    fun ⟨onS, onT⟩ c member => member.elim (onS c) (onT c)⟩

theorem toNat_toLower_lt {c : Char} (small : c.toNat < 0x80) : c.toLower.toNat < 0x80 := by
  unfold Char.toLower
  split
  · next upper =>
    -- a letter `A`–`Z` moves up by 32, to `a`–`z`
    have upper : c.val.toNat ≤ 90 := UInt32.le_iff_toNat_le.mp upper.2
    show (c.val + ('a'.val - 'A'.val)).toNat < 0x80
    rw [UInt32.toNat_add, show ('a'.val - 'A'.val).toNat = 32 from rfl,
      Nat.mod_eq_of_lt (by omega)]
    omega
  · exact small

theorem IsASCII.map_toLower {s : List Char} (ascii : IsASCII s) : IsASCII (s.map Char.toLower) := by
  intro c member
  obtain ⟨c', inS, rfl⟩ := List.mem_map.mp member
  exact toNat_toLower_lt (ascii c' inS)

theorem decodeRune_ascii {b0 : Char} (small : b0.toNat < 0x80) (rest : List Char) :
    decodeRune (b0 :: rest) = (b0, 1) := by
  rw [decodeRune, if_pos small]

/-- **On ASCII text the runes are the bytes.** -/
theorem runes_of_ascii : ∀ {s : List Char}, IsASCII s → runes s = s
  | [], _ => rfl
  | b0 :: rest, ascii => by
    have head : b0.toNat < 0x80 := ascii b0 List.mem_cons_self
    have tail : IsASCII rest := fun c member => ascii c (List.mem_cons_of_mem b0 member)
    unfold runes
    -- a width of one reads on from the next byte
    simp only [decodeRune_ascii head, runes_of_ascii tail]

end Utf8

/-- `strings.ToLower(s)`, given `unicode.ToLower` as `lowerRune`: on a string of ASCII bytes the
letters `A`–`Z` lowered in place; on any other string `strings.Map(unicode.ToLower, s)`, each
rune lowered and written back in UTF-8.  `Map` returns `s` itself only when no rune changes and
no byte is invalid, and then the encodings of the runes are the bytes of `s`. -/
def toLower (lowerRune : Char → Char) (s : List Char) : List Char :=
  if Utf8.IsASCII s then s.map Char.toLower
  else (Utf8.runes s).flatMap fun c => Utf8.encodeRune (lowerRune c)

/-- **On ASCII text `strings.ToLower` lowers the letters `A`–`Z`.** -/
theorem toLower_of_ascii {lowerRune : Char → Char} {s : List Char} (ascii : Utf8.IsASCII s) :
    toLower lowerRune s = s.map Char.toLower := by
  rw [toLower, if_pos ascii]

/-- Ranged over, the lowered ASCII text gives its lowered bytes, whatever the Unicode tables. -/
theorem runes_toLower_of_ascii {lowerRune : Char → Char} {s : List Char}
    (ascii : Utf8.IsASCII s) : Utf8.runes (toLower lowerRune s) = s.map Char.toLower := by
  rw [toLower_of_ascii ascii, Utf8.runes_of_ascii ascii.map_toLower]

end Go
