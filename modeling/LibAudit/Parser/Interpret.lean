import LibAudit.Parser.Fields
import LibAudit.Rules.Data
import LibAudit.Go.Hex
import Mathlib.Data.List.Infix

/-!
# `interpretField`: the values of an event as text

With its interpretation pass on, `ParseAuditEvent` rewrites the value of every field with
`interpretField(fieldName, fieldValue, msgType, r)` of `interpret.go`.  The function first picks
a `fieldType` for the field, from a few rules on the message type and then from the table
`fieldLookupMap`, and then renders the value with the printer of that type.

This module models the choice of the type in full, and the printers of the types that carry
text the kernel escapes (`printEscaped` and `unescape`), of user and group ids, of syscall
numbers (`AuditSyscallToName`) and of the architecture.  The printers of the other types
(`printExit`, `printPerm`, `printMode`, `printA0` and the rest) are looked up in a table of
their own, a field of `Interpreters`, with the text each arm wraps their errors in.

## Main definitions

* `fieldTypeOf` — the type `interpretField` picks for a field.
* `printEscaped`, `unescape` — the text of an escaped value: quoted, or hexadecimal.
* `interpretField` — the whole function, over the environment `Interpreters`.
* `untrustedValue` — how the kernel writes an untrusted string into a record.

## Main statements

* `printEscaped_untrustedValue` — `printEscaped` reads back every non-empty byte string the
  kernel writes, but the one NUL byte.
* `parseAuditEvent_untrustedValue` — `ParseAuditEvent` with interpretation reads an escaped field
  back as the bytes the kernel wrote.

## Design notes

`printEscaped` gives a value that starts with `00` a branch of its own: when nothing can be
decoded after the `00`, it keeps the value as it is.  The kernel writes the one byte 0 as `00`,
so that this byte string is the one `printEscaped` does not read back
(`parseAuditEvent_untrustedValue_nul`).
-/

namespace LibAudit

/-! ## The type of a field -/

/-- `fieldType`: the printer `interpretField` renders a field with. -/
inductive FieldType where
  | typeUID | typeGID | typeSyscall | typeArch | typeExit | typePerm | typeEscaped | typeMode
  | typeSockaddr | typePromisc | typeCapability | typeSuccess | typeA0 | typeA1 | typeA2
  | typeA3 | typeSignal | typeList | typeTTYData | typeSession | typeCapBitmap | typeNFProto
  | typeICMP | typeProtocol | typeAddr | typePersonality | typeOFlag | typeSeccomp | typeMmap
  | typeMacLabel | typeProctile | typeUnclassified | typeModeShort
  deriving DecidableEq, Repr

/-- `fieldLookupMap`: the type of each field name. -/
def fieldLookupMap : List (String × FieldType) :=
  [("auid", .typeUID), ("uid", .typeUID), ("euid", .typeUID), ("suid", .typeUID),
    ("fsuid", .typeUID), ("ouid", .typeUID), ("oauid", .typeUID), ("iuid", .typeUID),
    ("id", .typeUID), ("inode_uid", .typeUID), ("sauid", .typeUID), ("obj_uid", .typeUID),
    ("obj_gid", .typeGID), ("gid", .typeGID), ("egid", .typeGID), ("sgid", .typeGID),
    ("fsgid", .typeGID), ("ogid", .typeGID), ("igid", .typeGID), ("inode_gid", .typeGID),
    ("new_gid", .typeGID), ("syscall", .typeSyscall), ("arch", .typeArch), ("exit", .typeExit),
    ("path", .typeEscaped), ("comm", .typeEscaped), ("exe", .typeEscaped), ("file", .typeEscaped),
    ("name", .typeEscaped), ("watch", .typeEscaped), ("cwd", .typeEscaped), ("cmd", .typeEscaped),
    ("acct", .typeEscaped), ("dir", .typeEscaped), ("key", .typeEscaped), ("vm", .typeEscaped),
    ("old-disk", .typeEscaped), ("new-disk", .typeEscaped), ("old-fs", .typeEscaped),
    ("new-fs", .typeEscaped), ("device", .typeEscaped), ("cgroup", .typeEscaped),
    ("perm", .typePerm), ("perm_mask", .typePerm), ("mode", .typeMode), ("saddr", .typeSockaddr),
    ("prom", .typePromisc), ("old_prom", .typePromisc), ("capability", .typeCapability),
    ("res", .typeSuccess), ("result", .typeSuccess), ("a0", .typeA0), ("a1", .typeA1),
    ("a2", .typeA2), ("a3", .typeA3), ("sig", .typeSignal), ("list", .typeList),
    ("data", .typeTTYData), ("ses", .typeSession), ("cap_pi", .typeCapBitmap),
    ("cap_pe", .typeCapBitmap), ("cap_pp", .typeCapBitmap), ("cap_fi", .typeCapBitmap),
    ("cap_fp", .typeCapBitmap), ("fp", .typeCapBitmap), ("fi", .typeCapBitmap),
    ("fe", .typeCapBitmap), ("old_pp", .typeCapBitmap), ("old_pi", .typeCapBitmap),
    ("old_pe", .typeCapBitmap), ("new_pp", .typeCapBitmap), ("new_pi", .typeCapBitmap),
    ("new_pe", .typeCapBitmap), ("family", .typeNFProto), ("icmptype", .typeICMP),
    ("proto", .typeProtocol), ("addr", .typeAddr), ("apparmor", .typeEscaped),
    ("operation", .typeEscaped), ("denied_mask", .typeEscaped), ("info", .typeEscaped),
    ("profile", .typeEscaped), ("requested_mask", .typeEscaped), ("per", .typePersonality),
    ("code", .typeSeccomp), ("old-rng", .typeEscaped), ("new-rng", .typeEscaped),
    ("oflag", .typeOFlag), ("ocomm", .typeEscaped), ("flags", .typeMmap),
    ("sigev_signo", .typeEscaped), ("subj", .typeMacLabel), ("obj", .typeMacLabel),
    ("scontext", .typeMacLabel), ("tcontext", .typeMacLabel), ("vm-ctx", .typeMacLabel),
    ("img-ctx", .typeMacLabel), ("proctitle", .typeProctile), ("grp", .typeEscaped),
    ("new_group", .typeEscaped)]

/-- The type `interpretField` picks for a field: the adjustments by message type first, as
`auparse_interp_adjust_type` makes them, then `fieldLookupMap`.  `acct` is escaped when its
value is quoted or does not parse with `strconv.ParseInt(fieldValue, 16, -1)`. -/
def fieldTypeOf (fieldName fieldValue : List Char) (msgType : UInt16) : FieldType :=
  if msgType = auditExecve ∧ "a".toList.isPrefixOf fieldName ∧ fieldName ≠ "argc".toList ∧
      ¬ "_len".toList <:+: fieldName then .typeEscaped
  else if msgType = auditAvc ∧ fieldName = "saddr".toList then .typeUnclassified
  else if msgType = auditUserTty ∧ fieldName = "msg".toList then .typeEscaped
  else if msgType = auditNetfilterPkt ∧ fieldName = "saddr".toList then .typeAddr
  else if fieldName = "acct".toList then
    if "\"".toList.isPrefixOf fieldValue then .typeEscaped
    else if (Go.Strconv.parseInt fieldValue 16 (-1)).isNone then .typeEscaped
    else .typeUnclassified
  else if msgType = auditMqOpen ∧ fieldName = "mode".toList then .typeModeShort
  else if msgType = auditCryptoKeyUser ∧ fieldName = "fp".toList then .typeUnclassified
  else if fieldName = "id".toList ∧
      (msgType = auditAddGroup ∨ msgType = auditGrpMgmt ∨ msgType = auditDelGroup) then .typeGID
  else (lookupName fieldLookupMap fieldName).getD .typeUnclassified

/-- `acct` is always escaped: a bit size of `-1` makes every `strconv.ParseInt` fail, so that
the unclassified branch is never taken. -/
theorem fieldTypeOf_acct (fieldValue : List Char) (msgType : UInt16)
    (notExecve : msgType ≠ auditExecve) :
    fieldTypeOf "acct".toList fieldValue msgType = .typeEscaped := by
  have refused : Go.Strconv.parseInt fieldValue 16 (-1) = none := by
    unfold Go.Strconv.parseInt Go.Strconv.parseUint
    split_ifs <;> simp_all [Go.Strconv.effectiveBitSize]
  unfold fieldTypeOf
  simp [notExecve, refused]

/-! ## Escaped values -/

/-- `strings.Trim(s, "\"")`: the quotes at both ends removed. -/
def trimQuotes (s : List Char) : List Char :=
  ((s.dropWhile (· = '"')).reverse.dropWhile (· = '"')).reverse

/-- `unescape(fieldvalue)`: a value in parentheses as it is, nothing for a value shorter than
two bytes, and otherwise the bytes of its hexadecimal digits, or the value itself when it is
not hexadecimal. -/
def unescape (fieldvalue : List Char) : List Char :=
  if "(".toList.isPrefixOf fieldvalue then fieldvalue
  else if fieldvalue.length < 2 then []
  else
    match Go.Hex.decodeString fieldvalue with
    | some str => Go.stringOfBytes str
    | none => fieldvalue

/-- `printEscaped(fieldValue)`: a quoted value without its quotes; a value that starts with `00`
and has nothing to decode after it as it is; otherwise what `unescape` makes of it, or the value
itself when that is empty. -/
def printEscaped (fieldValue : List Char) : List Char :=
  if "\"".toList.isPrefixOf fieldValue then trimQuotes fieldValue
  -- the `00` branch returns early only when `unescape(fieldValue[2:])` is empty
  else if "00".toList.isPrefixOf fieldValue ∧ unescape (fieldValue.drop 2) = [] then fieldValue
  else
    let newStr := unescape fieldValue
    if newStr = [] then fieldValue else newStr

/-! ## The whole function -/

/-- What `interpretField` looks up outside `interpret.go`. -/
structure Interpreters where
  /-- `user.LookupId(uid)`: the user's name, or `none` when the lookup fails. -/
  lookupId : List Char → Option (List Char)
  /-- `headers.ReverseSysMapX64(n)`: the name of the syscall of number `n`, or
  `Unsupported`. -/
  reverseSysMapX64 : List Char → List Char
  /-- `runtime.GOARCH`. -/
  goarch : List Char
  /-- The printers of the types this model does not translate (`printExit`, `printPerm`,
  `printMode`, `printA0`, …), each given the value and the record. -/
  printer : FieldType → List Char → Record → Except Go.Fault (List Char)
  /-- `unicode.ToLower(r)`: the lower case of a rune in the Unicode tables, which
  `strings.ToLower` reads on text that is not ASCII. -/
  toLowerRune : Char → Char

/-- `AuditSyscallToName(syscall)`: the name of a syscall number, given as decimal text. -/
def auditSyscallToName (reverseSysMapX64 : List Char → List Char) (syscall : List Char) :
    Except Go.Fault (List Char) :=
  let val := reverseSysMapX64 syscall
  if val ≠ "Unsupported".toList then .ok val
  else .error (.error ("AuditSyscallToName failed: syscall " ++ String.ofList syscall ++
    " not found"))

/-- `printUID(fieldValue)`: the user's name, or `unknown(<uid>)`. -/
def printUID (interp : Interpreters) (fieldValue : List Char) : List Char :=
  match interp.lookupId fieldValue with
  | some name => name
  | none => "unknown(".toList ++ fieldValue ++ ")".toList

/-- `printSyscall(fieldValue)`. -/
def printSyscall (interp : Interpreters) (fieldValue : List Char) : Except Go.Fault (List Char) :=
  (auditSyscallToName interp.reverseSysMapX64 fieldValue).mapError
    (Go.Fault.wrap "syscall parsing failed")

/-- An arm `result, err = printX(…); if err != nil { return "", errors.Wrap(err, message) }`. -/
def printArm (message : String) (printed : Except Go.Fault (List Char)) :
    Except Go.Fault (List Char) :=
  printed.mapError (Go.Fault.wrap message)

/-- `interpretField(fieldName, fieldValue, msgType, r)`.  `printUID`, `printGID` (a stub that
returns the value) and `printEscaped` never fail, and the arms of TTY data, capability bitmaps
and protocols print nothing: their result stays the empty string. -/
def interpretField (interp : Interpreters) (fieldName fieldValue : List Char) (msgType : UInt16)
    (r : Record) : Except Go.Fault (List Char) :=
  match fieldTypeOf fieldName fieldValue msgType with
  | .typeUID => .ok (printUID interp fieldValue)
  | .typeGID => .ok fieldValue
  | .typeSyscall => printArm "syscall interpretation failed" (printSyscall interp fieldValue)
  | .typeArch => .ok interp.goarch
  | .typeExit => printArm "exit interpretation failed" (interp.printer .typeExit fieldValue r)
  | .typePerm => printArm "perm interpretation failed" (interp.printer .typePerm fieldValue r)
  | .typeEscaped => .ok (printEscaped fieldValue)
  | .typeMode => printArm "mode interpretation failed" (interp.printer .typeMode fieldValue r)
  | .typeModeShort =>
    printArm "short mode interpretation failed" (interp.printer .typeModeShort fieldValue r)
  | .typeSockaddr =>
    printArm "sockaddr interpretation failed" (interp.printer .typeSockaddr fieldValue r)
  | .typePromisc =>
    printArm "promsc interpretation failed" (interp.printer .typePromisc fieldValue r)
  | .typeCapability =>
    printArm "capability interpretation failed" (interp.printer .typeCapability fieldValue r)
  | .typeSuccess =>
    printArm "success interpretation failed" (interp.printer .typeSuccess fieldValue r)
  | .typeA0 => printArm "a0 interpretation failed" (interp.printer .typeA0 fieldValue r)
  | .typeA1 => printArm "a1 interpretation failed" (interp.printer .typeA1 fieldValue r)
  | .typeA2 => printArm "a2 interpretation failed" (interp.printer .typeA2 fieldValue r)
  | .typeA3 => printArm "a3 interpretation failed" (interp.printer .typeA3 fieldValue r)
  | .typeSignal => printArm "signal interpretation failed" (interp.printer .typeSignal fieldValue r)
  | .typeList => printArm "list interpretation failed" (interp.printer .typeList fieldValue r)
  | .typeTTYData => .ok []
  | .typeSession =>
    printArm "session interpretation failed" (interp.printer .typeSession fieldValue r)
  | .typeCapBitmap => .ok []
  | .typeNFProto =>
    printArm "session interpretation failed" (interp.printer .typeNFProto fieldValue r)
  | .typeICMP => printArm "ICMP type interpretation failed" (interp.printer .typeICMP fieldValue r)
  | .typeProtocol => .ok []
  | .typeAddr => printArm "Addr interpretation failed" (interp.printer .typeAddr fieldValue r)
  | .typePersonality =>
    printArm "personality interpretation failed" (interp.printer .typePersonality fieldValue r)
  | .typeOFlag => printArm "Addr interpretation failed" (interp.printer .typeOFlag fieldValue r)
  | .typeSeccomp =>
    printArm "seccomp code interpretation failed" (interp.printer .typeSeccomp fieldValue r)
  | .typeMmap => printArm "mmap interpretation failed" (interp.printer .typeMmap fieldValue r)
  | .typeProctile => .ok (printEscaped fieldValue)
  | .typeMacLabel | .typeUnclassified => .ok fieldValue

/-- A field of the two escaped types is printed by `printEscaped`. -/
theorem interpretField_of_escaped {interp : Interpreters} {fieldName fieldValue : List Char}
    {msgType : UInt16} (r : Record)
    (escaped : fieldTypeOf fieldName fieldValue msgType = .typeEscaped ∨
      fieldTypeOf fieldName fieldValue msgType = .typeProctile) :
    interpretField interp fieldName fieldValue msgType r = .ok (printEscaped fieldValue) := by
  rcases escaped with escaped | proctitle
  · rw [interpretField, escaped]
  · rw [interpretField, proctitle]

/-! ## Escaped values read back -/

/-- How the kernel writes an untrusted string into a record: between double quotes when every
byte is printable and not a quote, and otherwise as the upper-case hexadecimal of its bytes. -/
def untrustedValue (x : List UInt8) : List Char :=
  if x.all fun b => 0x21 ≤ b ∧ b ≤ 0x7e ∧ b ≠ 0x22 then '"' :: (Go.stringOfBytes x ++ ['"'])
  else Go.Hex.encodeUpper x

/-- No upper-case digit is a space, a quote, a closing punctuation or an opening parenthesis. -/
theorem upperDigit_ne {n : Nat} (small : n < 16) :
    Go.Hex.upperDigit n ∉ [' ', '"', '\'', ',', ')', '('] := by
  have each : ∀ d : Fin 16, Go.Hex.upperDigit d ∉ [' ', '"', '\'', ',', ')', '('] := by decide
  exact each ⟨n, small⟩

/-- The quotes at both ends of a quoted text without quotes go, and nothing else. -/
theorem trimQuotes_quoted {s : List Char} (nonempty : s ≠ []) (noQuote : '"' ∉ s) :
    trimQuotes ('"' :: (s ++ ['"'])) = s := by
  obtain ⟨c, rest, rfl⟩ := List.exists_cons_of_ne_nil nonempty
  have first : c ≠ '"' := fun same => noQuote (same ▸ List.mem_cons_self)
  -- the front quote goes, and the text stops the drop at its first character
  have front : List.dropWhile (· = '"') ('"' :: (c :: rest ++ ['"'])) = c :: rest ++ ['"'] := by
    simp [first]
  obtain ⟨d, rest', reversed⟩ := List.exists_cons_of_ne_nil (List.reverse_ne_nil_iff.mpr nonempty)
  have lastChar : d ≠ '"' := by
    intro same
    apply noQuote
    rw [← List.mem_reverse, reversed, same]
    exact List.mem_cons_self
  -- from the back, the closing quote goes and the text's last character stops the drop
  have back : List.dropWhile (· = '"') (c :: rest ++ ['"']).reverse = d :: rest' := by
    rw [List.reverse_append, reversed]
    simp [lastChar]
  rw [trimQuotes, front, back, ← reversed, List.reverse_reverse]

/-- Upper-case digits of a non-empty byte string are decoded by `unescape`. -/
theorem unescape_encodeUpper {x : List UInt8} (nonempty : x ≠ []) :
    unescape (Go.Hex.encodeUpper x) = Go.stringOfBytes x := by
  obtain ⟨b, rest, rfl⟩ := List.exists_cons_of_ne_nil nonempty
  have fits := b.toNat_lt
  have notParen : ¬ "(".toList.isPrefixOf (Go.Hex.encodeUpper (b :: rest)) = true := by
    have high := upperDigit_ne (n := b.toNat / 16) (by omega)
    rw [List.isPrefixOf_iff_prefix, Go.Hex.encodeUpper_cons, show "(".toList = ['('] from rfl,
      List.singleton_prefix_cons_iff]
    intro same
    exact high (by simp [← same])
  have long : ¬ (Go.Hex.encodeUpper (b :: rest)).length < 2 := by
    rw [Go.Hex.length_encodeUpper, List.length_cons]
    omega
  rw [unescape, if_neg notParen, if_neg long, Go.Hex.decodeString_encodeUpper]

/-- A quoted value is printed without its quotes. -/
theorem printEscaped_quoted {x : List UInt8} (nonempty : x ≠ [])
    (noQuote : '"' ∉ Go.stringOfBytes x) :
    printEscaped ('"' :: (Go.stringOfBytes x ++ ['"'])) = Go.stringOfBytes x := by
  have quoted : "\"".toList.isPrefixOf ('"' :: (Go.stringOfBytes x ++ ['"'])) = true := by
    rw [List.isPrefixOf_iff_prefix, show "\"".toList = ['"'] from rfl,
      List.singleton_prefix_cons_iff]
  have text : Go.stringOfBytes x ≠ [] := fun empty => nonempty (Go.stringOfBytes_eq_nil.mp empty)
  rw [printEscaped, if_pos quoted, trimQuotes_quoted text noQuote]

/-- Upper-case digits are printed as the bytes they encode, but for the one NUL byte: its
digits `00` start the branch that keeps a value with nothing to decode after the `00`. -/
theorem printEscaped_encodeUpper {x : List UInt8} (nonempty : x ≠ []) (notNul : x ≠ [0]) :
    printEscaped (Go.Hex.encodeUpper x) = Go.stringOfBytes x := by
  obtain ⟨b, rest, rfl⟩ := List.exists_cons_of_ne_nil nonempty
  have fits := b.toNat_lt
  have high := upperDigit_ne (n := b.toNat / 16) (by omega)
  have notQuoted : ¬ "\"".toList.isPrefixOf (Go.Hex.encodeUpper (b :: rest)) = true := by
    rw [List.isPrefixOf_iff_prefix, Go.Hex.encodeUpper_cons, show "\"".toList = ['"'] from rfl,
      List.singleton_prefix_cons_iff]
    intro same
    exact high (by simp [← same])
  have notEarly : ¬ ("00".toList.isPrefixOf (Go.Hex.encodeUpper (b :: rest)) = true ∧
      unescape ((Go.Hex.encodeUpper (b :: rest)).drop 2) = []) := by
    rintro ⟨zeros, empty⟩
    rw [Go.Hex.encodeUpper_cons, List.drop_succ_cons, List.drop_succ_cons, List.drop_zero]
      at empty
    cases rest with
    | nil =>
      -- a single byte written `00` is the byte 0
      rw [Go.Hex.encodeUpper_cons, show "00".toList = ['0', '0'] from rfl] at zeros
      simp only [List.isPrefixOf, Bool.and_true, Bool.and_eq_true, beq_iff_eq] at zeros
      have highZero := (Go.Hex.upperDigit_eq_zero (n := b.toNat / 16) (by omega)).mp zeros.1.symm
      have lowZero := (Go.Hex.upperDigit_eq_zero (n := b.toNat % 16) (by omega)).mp zeros.2.symm
      apply notNul
      rw [show b = 0 from UInt8.toNat_inj.mp (by rw [UInt8.toNat_zero]; omega)]
    | cons c more =>
      -- after the `00` there is a byte more to decode
      rw [unescape_encodeUpper (List.cons_ne_nil c more)] at empty
      exact List.cons_ne_nil c more (Go.stringOfBytes_eq_nil.mp empty)
  have text : Go.stringOfBytes (b :: rest) ≠ [] := fun empty =>
    nonempty (Go.stringOfBytes_eq_nil.mp empty)
  rw [printEscaped, if_neg notQuoted, if_neg notEarly]
  simp only [unescape_encodeUpper nonempty, if_neg text]

/-- **`printEscaped` reads back what the kernel writes**, for every non-empty byte string but
the one NUL byte. -/
theorem printEscaped_untrustedValue {x : List UInt8} (nonempty : x ≠ []) (notNul : x ≠ [0]) :
    printEscaped (untrustedValue x) = Go.stringOfBytes x := by
  unfold untrustedValue
  split_ifs with printable
  · apply printEscaped_quoted nonempty
    -- a printable byte is not a quote
    intro quote
    obtain ⟨b, member, same⟩ := List.mem_map.mp quote
    have inRange := of_decide_eq_true (List.all_eq_true.mp printable b member)
    have code := congrArg Char.toNat same
    rw [Go.toNat_ofUInt8] at code
    exact inRange.2.2 (UInt8.toNat_inj.mp code)
  · exact printEscaped_encodeUpper nonempty notNul

/-! ## Escaped fields in a record -/

theorem lookupName_eq_some {β : Type} {table : List (String × β)} {name : List Char} {b : β}
    (found : lookupName table name = some b) :
    ∃ entry ∈ table, entry.1.toList = name ∧ entry.2 = b := by
  obtain ⟨entry, hit, rfl⟩ := Option.map_eq_some_iff.mp found
  exact ⟨entry, List.mem_of_find?_eq_some hit, by simpa using List.find?_some hit, rfl⟩

/-- Every name of `fieldLookupMap` can be the key of a token. -/
theorem fieldLookupMap_key {fieldName : List Char} {t : FieldType}
    (found : lookupName fieldLookupMap fieldName = some t) :
    fieldName ≠ [] ∧ '=' ∉ fieldName ∧ ' ' ∉ fieldName := by
  have keys : ∀ entry ∈ fieldLookupMap,
      entry.1.toList ≠ [] ∧ '=' ∉ entry.1.toList ∧ ' ' ∉ entry.1.toList := by
    decide +kernel
  obtain ⟨entry, member, named, -⟩ := lookupName_eq_some found
  exact named ▸ keys entry member

/-- What the kernel writes has no space in it. -/
theorem space_not_mem_untrustedValue (x : List UInt8) : ' ' ∉ untrustedValue x := by
  unfold untrustedValue
  split_ifs with printable
  · intro space
    simp only [List.mem_cons, List.mem_append] at space
    rcases space with quote | byte | quote
    · exact absurd quote (by decide)
    · obtain ⟨b, member, same⟩ := List.mem_map.mp byte
      have inRange := of_decide_eq_true (List.all_eq_true.mp printable b member)
      have code := congrArg Char.toNat same
      rw [Go.toNat_ofUInt8] at code
      have low := UInt8.le_iff_toNat_le.mp inRange.1
      rw [code] at low
      exact absurd low (by decide)
    · exact absurd quote (by decide)
  · intro space
    obtain ⟨n, small, digit⟩ := Go.Hex.mem_encodeUpper space
    exact upperDigit_ne small (by simp [← digit])

/-- What the kernel writes for a non-empty string starts and ends with a character that makes
the token a plain field: no quote at the front, no punctuation at the end. -/
theorem untrustedValue_ends {x : List UInt8} (nonempty : x ≠ []) :
    ∃ first rest, untrustedValue x = first :: rest ∧ first ≠ '\'' ∧
      ∃ last, (untrustedValue x).getLast? = some last ∧ last ∉ ['\'', ',', ')'] := by
  unfold untrustedValue
  split_ifs with printable
  · refine ⟨'"', _, rfl, by decide, '"', ?_, by decide⟩
    rw [← List.cons_append, List.getLast?_append_of_ne_nil _ (List.cons_ne_nil _ _)]
    rfl
  · obtain ⟨b, more, rfl⟩ := List.exists_cons_of_ne_nil nonempty
    have fits := b.toNat_lt
    have high := upperDigit_ne (n := b.toNat / 16) (by omega)
    obtain ⟨last, isLast⟩ : ∃ last, (Go.Hex.encodeUpper (b :: more)).getLast? = some last :=
      Option.ne_none_iff_exists'.mp (by
        rw [Ne, List.getLast?_eq_none_iff, Go.Hex.encodeUpper_cons]
        exact List.cons_ne_nil _ _)
    obtain ⟨n, small, digit⟩ := Go.Hex.mem_encodeUpper (List.mem_of_getLast? isLast)
    have lastDigit := upperDigit_ne small
    refine ⟨_, _, Go.Hex.encodeUpper_cons b more, fun tick => high (by simp [tick]), last,
      isLast, ?_⟩
    rw [digit]
    intro punctuation
    exact lastDigit (by simp_all)

/-- A value whose last character is not `'`, `,` or `)` is left alone by `fixPunctuantions`. -/
theorem unpunctuated_of_getLast? {value : List Char} {last : Char}
    (isLast : value.getLast? = some last) (clean : last ∉ ['\'', ',', ')']) :
    Field.Unpunctuated value := by
  have suffix : ∀ c, [c].isSuffixOf value = true → c = last := by
    intro c suffixed
    rw [List.isSuffixOf_iff_suffix, List.singleton_suffix_iff_getLast?_eq_some, isLast]
      at suffixed
    exact (Option.some.inj suffixed).symm
  refine ⟨fun tick => clean ?_, fun comma => clean ?_, fun paren => absurd ?_ clean⟩
  · simp [← suffix '\'' tick]
  · simp [← suffix ',' comma]
  · simp [← suffix ')' paren]

/-- A field whose key can be a token's and whose value the kernel wrote is plain. -/
theorem plain_untrustedValue {key : List Char} (keyNonempty : key ≠ []) (noEq : '=' ∉ key)
    (noSpace : ' ' ∉ key) {x : List UInt8} (nonempty : x ≠ []) :
    Field.Plain ⟨key, untrustedValue x⟩ := by
  obtain ⟨first, rest, spelled, notTick, last, isLast, clean⟩ := untrustedValue_ends nonempty
  refine ⟨keyNonempty, noEq, noSpace, space_not_mem_untrustedValue x,
    unpunctuated_of_getLast? isLast clean, ?_⟩
  rintro ⟨-, opens⟩
  rw [spelled, List.isPrefixOf_iff_prefix, show "'".toList = ['\''] from rfl,
    List.singleton_prefix_cons_iff] at opens
  exact notTick opens.symm

section Interpretation

variable (interpretField : List Char → List Char → UInt16 → Record → Except Go.Fault (List Char))
  (order : FieldMap.Order)

/-- With the interpretation pass, a record whose header is read and whose scan ends is the event
of the interpreted map. -/
theorem parseAuditEvent_interpret_of_scan {str timestamp serial body : List Char}
    {msgType : UInt16} {s : ScanState} {m : FieldMap}
    (header : parseHeader str = .ok (timestamp, serial, body))
    (scanned : scanLoop msgType body.length (ScanState.init body) = .ok s)
    (interpreted : interpretAll interpretField order msgType s.r s.m = .ok m) :
    parseAuditEvent interpretField order str msgType true =
      .ok { serial, timestamp, type := (auditConstantString msgType).drop 6, data := m,
            raw := str } := by
  rw [parseAuditEvent, header, Go.ok_bind, scanned, Go.liftPanic_ok, Go.ok_bind, if_pos rfl,
    interpreted, Go.ok_bind, Go.sliceFrom_of_le (six_le_length_auditConstantString msgType)]
  rfl

/-- The pass over a map of one field interprets that field. -/
theorem interpretAll_singleton {msgType : UInt16} {r : Record} {key value ivalue : List Char}
    (interpreted : interpretField key value msgType r = .ok ivalue) :
    interpretAll interpretField order msgType r ((∅ : FieldMap).insert key value) =
      .ok (((∅ : FieldMap).insert key value).insert key ivalue) := by
  have entries : ((∅ : FieldMap).insert key value).entries = [⟨key, value⟩] := by
    rw [AList.insert_empty]
    rfl
  -- a map of one entry is visited in the one order there is
  have visited : order.visit ((∅ : FieldMap).insert key value) = [⟨key, value⟩] :=
    List.perm_singleton.mp (entries ▸ order.perm _)
  rw [interpretAll, visited, List.foldlM_cons, interpreted, Go.ok_bind]
  rfl

/-- **A record of one plain field** parses, with interpretation, to the interpretation of its
value, whatever the scan remembered for the syscall. -/
theorem parseAuditEvent_single_field (timestamp serial : List Char) (noColon : ':' ∉ timestamp)
    (noParen : ')' ∉ serial) {f : Field} (plain : f.Plain) (msgType : UInt16)
    {ivalue : List Char} (interpreted : ∀ r, interpretField f.key f.value msgType r = .ok ivalue) :
    ∃ ev, parseAuditEvent interpretField order (recordText timestamp serial [f] [] []) msgType true =
      .ok ev ∧ ev.data.lookup f.key = some ivalue := by
  have reads : List.Forall₂ Reads [f.text] [f] := .cons (.plain plain) .nil
  obtain ⟨s, scanned, stored, -⟩ := scanLoop_of_forall₂ msgType f.text.length reads
    (List.cons_ne_nil _ _) 0 [] 0 (ScanState.init f.text) (by simp [ScanState.init, spaced])
    (by simp [ScanState.init, spaced]) rfl
  have single : s.m = (∅ : FieldMap).insert f.key f.value := by
    rw [stored rfl]
    rfl
  have header : parseHeader (recordText timestamp serial [f] [] []) =
      .ok (timestamp, serial, f.text) :=
    parseHeader_eq noColon noParen
  rw [single] at stored
  refine ⟨_, parseAuditEvent_interpret_of_scan interpretField order header scanned
    (single ▸ interpretAll_singleton interpretField order (interpreted s.r)), ?_⟩
  exact AList.lookup_insert _

end Interpretation

/-- **`ParseAuditEvent` reads escaped fields back.**  In the record `audit(T:S): f=v`, with `v`
what the kernel writes for a non-empty byte string other than the one NUL byte and `f` a name
of an escaped type that the message type does not give another type, the interpreted field `f`
holds the bytes the kernel wrote. -/
theorem parseAuditEvent_untrustedValue (interp : Interpreters) (order : FieldMap.Order)
    {timestamp serial : List Char}
    (noColon : ':' ∉ timestamp) (noParen : ')' ∉ serial) {fieldName : List Char}
    {x : List UInt8} (nonempty : x ≠ []) (notNul : x ≠ [0]) {msgType : UInt16}
    (escaped : lookupName fieldLookupMap fieldName = some .typeEscaped ∨
      lookupName fieldLookupMap fieldName = some .typeProctile)
    (kept : fieldTypeOf fieldName (untrustedValue x) msgType =
      (lookupName fieldLookupMap fieldName).getD .typeUnclassified) :
    ∃ ev, parseAuditEvent (interpretField interp) order ("audit(".toList ++ (timestamp ++ ':' ::
        (serial ++ "): ".toList ++ (fieldName ++ '=' :: untrustedValue x)))) msgType true =
      .ok ev ∧ ev.data.lookup fieldName = some (Go.stringOfBytes x) := by
  have key : fieldName ≠ [] ∧ '=' ∉ fieldName ∧ ' ' ∉ fieldName := by
    rcases escaped with found | found
    · exact fieldLookupMap_key found
    · exact fieldLookupMap_key found
  have plain := plain_untrustedValue key.1 key.2.1 key.2.2 nonempty
  have printed : ∀ r, interpretField interp fieldName (untrustedValue x) msgType r =
      .ok (Go.stringOfBytes x) := by
    intro r
    have typed : fieldTypeOf fieldName (untrustedValue x) msgType = .typeEscaped ∨
        fieldTypeOf fieldName (untrustedValue x) msgType = .typeProctile := by
      rcases escaped with found | found
      · exact .inl (by rw [kept, found]; rfl)
      · exact .inr (by rw [kept, found]; rfl)
    rw [interpretField_of_escaped r typed, printEscaped_untrustedValue nonempty notNul]
  exact parseAuditEvent_single_field (interpretField interp) order timestamp serial noColon noParen
    plain msgType printed

/-- The name `a b` of a PATH record, which the kernel writes in hexadecimal for its space. -/
theorem parseAuditEvent_untrustedValue_spaced_name :
    let interp : Interpreters :=
      ⟨fun _ => none, fun _ => "Unsupported".toList, "amd64".toList, fun _ value _ => .ok value,
        Char.toLower⟩
    let x : List UInt8 := [0x61, 0x20, 0x62]
    untrustedValue x = "612062".toList ∧ ':' ∉ "1".toList ∧ ')' ∉ "2".toList ∧ x ≠ [] ∧
      x ≠ [0] ∧
      (lookupName fieldLookupMap "name".toList = some .typeEscaped ∨
        lookupName fieldLookupMap "name".toList = some .typeProctile) ∧
      fieldTypeOf "name".toList (untrustedValue x) auditPath =
        (lookupName fieldLookupMap "name".toList).getD .typeUnclassified ∧
      ∃ ev, parseAuditEvent (interpretField interp) .entries ("audit(".toList ++ ("1".toList ++ ':' ::
          ("2".toList ++ "): ".toList ++ ("name".toList ++ '=' :: untrustedValue x))))
          auditPath true = .ok ev ∧ ev.data.lookup "name".toList = some (Go.stringOfBytes x) :=
  ⟨by decide, by decide, by decide, by decide, by decide, .inl (by decide), by decide,
    parseAuditEvent_untrustedValue _ _ (by decide) (by decide) (by decide) (by decide)
      (.inl (by decide)) (by decide)⟩

/-- **The NUL byte is not read back.**  The kernel writes the one byte 0 as `00`;
`printEscaped` finds nothing to decode after the `00` and keeps the text, so that the field
`name` of `audit(1:2): name=00` reads as the two characters `00`. -/
theorem parseAuditEvent_untrustedValue_nul :
    let interp : Interpreters :=
      ⟨fun _ => none, fun _ => "Unsupported".toList, "amd64".toList, fun _ value _ => .ok value,
        Char.toLower⟩
    untrustedValue [0] = "00".toList ∧ "00".toList ≠ Go.stringOfBytes [0] ∧
      ∃ ev, parseAuditEvent (interpretField interp) .entries "audit(1:2): name=00".toList auditPath true =
        .ok ev ∧ ev.data.lookup "name".toList = some "00".toList := by
  intro interp
  have text : "audit(1:2): name=00".toList =
      recordText "1".toList "2".toList [⟨"name".toList, "00".toList⟩] [] [] := by
    decide
  have printed : ∀ r, interpretField interp "name".toList "00".toList auditPath r =
      .ok "00".toList := by
    intro r
    have typed : fieldTypeOf "name".toList "00".toList auditPath = .typeEscaped := by decide
    have kept : printEscaped "00".toList = "00".toList := by decide
    rw [interpretField_of_escaped r (.inl typed), kept]
  refine ⟨by decide, by decide, ?_⟩
  rw [text]
  exact parseAuditEvent_single_field (interpretField interp) .entries _ _ (by decide) (by decide)
    (by decide) auditPath printed

end LibAudit
