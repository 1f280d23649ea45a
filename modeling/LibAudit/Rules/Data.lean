import Mathlib.Data.Rat.Defs
import LibAudit.Netlink.Reply

/-!
# Audit rules: the data

`SetRules` (`rules.go`) reads a JSON document of audit rules, compiles each rule into an
`AuditRuleData`, the C `struct audit_rule_data`, and sends it to the kernel in an
`AUDIT_ADD_RULE` request.  This module holds what that compilation works on.

## Main definitions

* `Json` — a value `json.Unmarshal` decodes into an `interface{}`.
* `AuditRuleData` — the rule, with its fixed-size arrays as `Vector`s.
* `AuditRuleData.toWireFormat`, `AuditRuleData.format` — the rule's bytes in a request, and
  its `%+v` text in error messages; `AuditRuleData.wireImage` — the bytes when the copy into
  the buffer is in range.
* `Globals` — the package variables `auditPermAdded` and `auditSyscallAdded`.
* `RuleEnv` — what compilation looks up outside `rules.go`.

## Design notes

Go strings are lists of bytes, here `List Char` with one `Char` a byte, as in the parser.  A
JSON number is a `float64`; the model keeps the rational it denotes.  An object is the list of
its entries in the order in which `range` visits the decoded map, whose keys are distinct: a
statement over every such list is a statement over every visiting order.

The tables of `headers` that rule compilation reads are copied where they are short
(`fieldMap`, `ftypeTab`).  The x86-64 syscall table, the message type table of
`lookup_tables.go`, the operating system (`user.Lookup`, `os.Stat`), `fmt`'s `%v` of a
decoded value and the Unicode case table are parameters, collected in `RuleEnv`.
-/

namespace LibAudit

/-! ## Decoded JSON -/

/-- A value `json.Unmarshal` decodes into an `interface{}`: `nil`, a `bool`, a `float64`, a
`string`, a `[]interface{}` or a `map[string]interface{}`. -/
inductive Json where
  | null
  | bool (b : Bool)
  | number (x : ℚ)
  | string (s : List Char)
  | array (items : List Json)
  | object (entries : List (List Char × Json))

namespace Json

/-- `m[key]` on a decoded object: the value, or `none` for the `nil` of an absent key. -/
def get (entries : List (List Char × Json)) (key : String) : Option Json :=
  entries.lookup key.toList

/-- `x.([]interface{})` in its `v, ok :=` form. -/
def asArray : Option Json → Option (List Json)
  | some (.array items) => some items
  | _ => none

/-- `x == s` for an `interface{}` `x` and a string `s`: `x` holds the string `s`. -/
def isString (s : String) : Option Json → Bool
  | some (.string t) => t == s.toList
  | _ => false

end Json

/-- `uint32(x)` of a `float64` holding `x`, as the conversion goes on amd64: `CVTTSD2SQ`
truncates toward zero to an `int64`, and the low 32 bits are kept.  A value out of the range of
`int64` converts to the integer indefinite `-2^63`, whose low 32 bits are 0. -/
def float64ToUint32 (x : ℚ) : UInt32 :=
  let t := x.num.tdiv x.den
  UInt32.ofInt (if -2 ^ 63 ≤ t ∧ t < 2 ^ 63 then t else -2 ^ 63)

/-! ## The package state and the environment -/

/-- The package variables of `rules.go` that rule compilation reads and writes. -/
structure Globals where
  /-- `auditPermAdded`: a watch or a permission has been added; never reset. -/
  auditPermAdded : Bool
  /-- `auditSyscallAdded`: a syscall or a watch has been added; reset for each key of a rules
  document. -/
  auditSyscallAdded : Bool
  deriving DecidableEq, Repr

/-- What `os.Stat` tells `auditSetupAndAddWatchDir`: the file and whether it is a directory, an
error for which `os.IsNotExist` holds, or another error, with its text. -/
inductive StatResult where
  | found (isDir : Bool)
  | notExist
  | failed (msg : String)

/-- What rule compilation looks up outside `rules.go`. -/
structure RuleEnv where
  /-- `headers.SysMapX64(name)`: the x86-64 number of a syscall, or `-1`. -/
  sysMapX64 : List Char → Int
  /-- `MsgTypeTab[name]`: the message type of a name. -/
  msgTypeTab : List Char → Option UInt16
  /-- `user.Lookup(name)`: the user's `Uid` text, or the error's text. -/
  lookupUser : List Char → Except String (List Char)
  /-- `os.Stat(path)`. -/
  stat : List Char → StatResult
  /-- `fmt`'s `%v` of a decoded value; `none` is `nil`. -/
  formatValue : Option Json → String
  /-- `unicode.ToLower(r)`: the lower case of a rune in the Unicode tables, which
  `strings.ToLower` reads on text that is not ASCII. -/
  toLowerRune : Char → Char

/-! ## Tables of `headers` -/

/-- `headers.FieldMap`: the field number of each field name.  `pid` has number 0, which
`auditRuleFieldPairData` takes for an unknown name. -/
def fieldMap : List (String × UInt32) :=
  [("pid", 0), ("uid", 1), ("euid", 2), ("suid", 3), ("fsuid", 4), ("gid", 5), ("egid", 6),
    ("sgid", 7), ("fsgid", 8), ("auid", 9), ("loginuid", 9), ("pers", 10), ("arch", 11),
    ("msgtype", 12), ("subj_user", 13), ("subj_role", 14), ("subj_type", 15), ("subj_sen", 16),
    ("subj_clr", 17), ("ppid", 18), ("obj_user", 19), ("obj_role", 20), ("obj_type", 21),
    ("obj_lev_low", 22), ("obj_lev_high", 23), ("devmajor", 100), ("devminor", 101),
    ("inode", 102), ("exit", 103), ("success", 104), ("path", 105), ("perm", 106),
    ("dir", 107), ("filetype", 108), ("obj_uid", 109), ("obj_gid", 110),
    ("field_compare", 111), ("a0", 200), ("a1", 201), ("a2", 202), ("a3", 203), ("key", 210)]

/-- `headers.FtypeTab`: the mode bits of each file type name. -/
def ftypeTab : List (String × Int) :=
  [("block", 24576), ("character", 8192), ("dir", 16384), ("fifo", 4096), ("file", 32768),
    ("link", 40960), ("socket", 49152)]

/-- The loop `for k, v := range table { if k == name { … } }` over a table of names. -/
def lookupName {β : Type} (table : List (String × β)) (name : List Char) : Option β :=
  (table.find? fun entry => entry.1.toList = name).map Prod.snd

/-! ## The rule -/

/-- `AuditRuleData`, the C `struct audit_rule_data`. -/
structure AuditRuleData where
  /-- The filter list, with `AUDIT_FILTER_PREPEND`. -/
  flags : UInt32
  /-- `AUDIT_NEVER`, `AUDIT_POSSIBLE` or `AUDIT_ALWAYS`. -/
  action : UInt32
  fieldCount : UInt32
  /-- One bit for each syscall the rule applies to. -/
  mask : Vector UInt32 auditBitmaskSize
  fields : Vector UInt32 auditMaxFields
  values : Vector UInt32 auditMaxFields
  fieldflags : Vector UInt32 auditMaxFields
  /-- The total length of the string values. -/
  buflen : UInt32
  /-- The string values, one after the other. -/
  buf : List UInt8
  deriving DecidableEq

namespace AuditRuleData

/-- `var ruleData AuditRuleData; ruleData.Buf = make([]byte, 0)`. -/
def empty : AuditRuleData :=
  ⟨0, 0, 0, Vector.replicate _ 0, Vector.replicate _ 0, Vector.replicate _ 0,
    Vector.replicate _ 0, 0, []⟩

/-- The first 1040 bytes of `toWireFormat`'s buffer: the fields stored through pointers in byte
order `o`, each array word by word, up to `Buflen`. -/
def storedFields (o : Go.ByteOrder) (rule : AuditRuleData) : List UInt8 :=
  let word (w : UInt32) : List UInt8 := o.putUint 4 w.toNat
  word rule.flags ++ word rule.action ++ word rule.fieldCount ++
    rule.mask.toList.flatMap word ++ rule.fields.toList.flatMap word ++
    rule.values.toList.flatMap word ++ rule.fieldflags.toList.flatMap word ++
    word rule.buflen

/-- `(*AuditRuleData).toWireFormat`: a zeroed buffer of `1040 + int(Buflen)` bytes takes the
stored fields, then `Buf` is copied into `newbuff[1040:1040+rule.Buflen]`.  The upper bound of
that slice is a `uint32` sum: from `Buflen = 2^32 - 1040` on it wraps below 1040, and the slice
panics. -/
def toWireFormat (o : Go.ByteOrder) (rule : AuditRuleData) : Except Go.Panic (List UInt8) := do
  let newbuff := storedFields o rule ++ List.replicate rule.buflen.toNat 0
  let dst ← Go.slice newbuff 1040 (1040 + rule.buflen).toNat
  -- `copy` writes `min(len(dst), len(Buf))` bytes over the zeroes of `dst`, which is the whole
  -- tail of `newbuff`
  pure (storedFields o rule ++ (rule.buf.take dst.length ++ dst.drop rule.buf.length))

/-- The bytes `toWireFormat` returns when its slice is in range: the stored fields, then
`Buflen` bytes copied from `Buf` into a zeroed tail.  This is also how the kernel lists a rule
back. -/
def wireImage (o : Go.ByteOrder) (rule : AuditRuleData) : List UInt8 :=
  storedFields o rule ++
    (rule.buf.take rule.buflen.toNat ++ List.replicate (rule.buflen.toNat - rule.buf.length) 0)

theorem length_flatMap_putUint (o : Go.ByteOrder) (words : List UInt32) :
    (words.flatMap fun w => o.putUint 4 w.toNat).length = 4 * words.length := by
  induction words with
  | nil => rfl
  | cons w words ih =>
    rw [List.flatMap_cons, List.length_append, Go.ByteOrder.length_putUint, ih, List.length_cons]
    omega

theorem length_storedFields (o : Go.ByteOrder) (rule : AuditRuleData) :
    (storedFields o rule).length = 1040 := by
  simp only [storedFields, List.length_append, Go.ByteOrder.length_putUint,
    length_flatMap_putUint, Vector.length_toList]
  unfold auditBitmaskSize auditMaxFields
  omega

/-- The wire image is `1040 + Buflen` bytes long, whatever the length of `Buf`. -/
theorem length_wireImage (o : Go.ByteOrder) (rule : AuditRuleData) :
    (rule.wireImage o).length = 1040 + rule.buflen.toNat := by
  simp only [wireImage, List.length_append, length_storedFields, List.length_take,
    List.length_replicate]
  omega

/-- **Below the wrap, `toWireFormat` returns the wire image.** -/
theorem toWireFormat_of_lt {o : Go.ByteOrder} {rule : AuditRuleData}
    (fits : rule.buflen.toNat < 2 ^ 32 - 1040) : rule.toWireFormat o = .ok (rule.wireImage o) := by
  have sum : (1040 + rule.buflen).toNat = 1040 + rule.buflen.toNat := by
    rw [UInt32.toNat_add, show (1040 : UInt32).toNat = 1040 from rfl]
    exact Nat.mod_eq_of_lt (by omega)
  have inRange : Go.slice (storedFields o rule ++ List.replicate rule.buflen.toNat 0) 1040
      (1040 + rule.buflen).toNat = .ok (List.replicate rule.buflen.toNat 0) := by
    rw [Go.slice_of_le (by omega) (by simp [length_storedFields, sum]), sum,
      ← length_storedFields o rule, List.take_of_length_le (by simp), List.drop_left]
  simp only [toWireFormat, inRange, Go.ok_bind, List.length_replicate, List.drop_replicate]
  rfl

/-- **From the wrap on, `toWireFormat` panics**: `1040+rule.Buflen` is below 1040. -/
theorem toWireFormat_of_le {o : Go.ByteOrder} {rule : AuditRuleData}
    (wraps : 2 ^ 32 - 1040 ≤ rule.buflen.toNat) :
    rule.toWireFormat o = .error (.sliceBounds 1040 (rule.buflen.toNat + 1040 - 2 ^ 32)
      (1040 + rule.buflen.toNat)) := by
  have sum : (1040 + rule.buflen).toNat = rule.buflen.toNat + 1040 - 2 ^ 32 := by
    have below := rule.buflen.toNat_lt
    rw [UInt32.toNat_add, show (1040 : UInt32).toNat = 1040 from rfl,
      Nat.mod_eq_sub_mod (by omega), Nat.mod_eq_of_lt (by omega)]
    omega
  have outOfRange : ¬ (1040 ≤ (1040 + rule.buflen).toNat ∧
      (1040 + rule.buflen).toNat ≤ (storedFields o rule ++ List.replicate rule.buflen.toNat 0).length) := by
    have below := rule.buflen.toNat_lt
    rw [sum]
    omega
  rw [toWireFormat, Go.slice, if_neg outOfRange, Go.error_bind, sum, List.length_append, length_storedFields,
    List.length_replicate]

/-- What `toWireFormat` returns is the wire image. -/
theorem eq_wireImage_of_toWireFormat {o : Go.ByteOrder} {rule : AuditRuleData}
    {newbuff : List UInt8} (returned : rule.toWireFormat o = .ok newbuff) :
    newbuff = rule.wireImage o := by
  by_cases fits : rule.buflen.toNat < 2 ^ 32 - 1040
  · rw [toWireFormat_of_lt fits] at returned
    exact (Except.ok.inj returned).symm
  · rw [toWireFormat_of_le (Nat.le_of_not_lt fits)] at returned
    cases returned

/-- `fmt`'s `%v` of a `[N]uint32`. -/
def formatWords (words : List UInt32) : String :=
  "[" ++ " ".intercalate (words.map toString) ++ "]"

/-- `fmt`'s `%+v` of the rule. -/
def format (rule : AuditRuleData) : String :=
  "\x7bFlags:" ++ toString rule.flags ++ " Action:" ++ toString rule.action ++
    " FieldCount:" ++ toString rule.fieldCount ++ " Mask:" ++ formatWords rule.mask.toList ++
    " Fields:" ++ formatWords rule.fields.toList ++ " Values:" ++ formatWords rule.values.toList ++
    " Fieldflags:" ++ formatWords rule.fieldflags.toList ++ " Buflen:" ++ toString rule.buflen ++
    " Buf:" ++ formatBytes rule.buf ++ "\x7d"

end AuditRuleData

/-- `newwb := newNetlinkAuditRequest(uint16(proto), syscall.AF_NETLINK, len(newbuff))` and
`newwb.Data = append(newwb.Data, newbuff[:]...)`: the request that carries a rule's bytes,
numbered `seq`. -/
def ruleRequest (proto : UInt16) (newbuff : List UInt8) (seq : UInt32) : NetlinkMessage :=
  let newwb := newNetlinkAuditRequest proto newbuff.length seq
  { newwb with data := newwb.data ++ newbuff }

end LibAudit
