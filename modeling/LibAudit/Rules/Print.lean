import LibAudit.Parser.Interpret
import LibAudit.Rules.Layout

/-!
# Rules as `auditctl` prints them

`printRule` renders an `AuditRuleData` the way `auditctl -l` lists it: a watch as
`-w <path> -p <perms> -k <key>`, any other rule as `-a <action>,<filter>` followed by its arch,
its syscalls (`printSyscallRule`) and one `-F name<op>value` for each field.  `ListAllRules`
prints every rule the kernel lists with it, and `RemoveStaleLWAuditRules` decides from its
output which rules the library owns.

## Main definitions

* `isWatch` — whether a rule is listed as a watch.
* `printSyscallRule` — the `-S` part: `all`, or the syscalls of the mask in increasing order.
* `printField` — one iteration of the loop of `printRule` over the fields.
* `printRule` — the whole text.
* `keyMatch` — whether a rule carries a key containing a given text.

## Main statements

* `printRule_watch` — a watch rule of a path, its permissions and a key is printed as
  `-w <path> -p <perms> -k <key>`.

## Design notes

The loop of `printRule` walks `Buf` with the offset `bufferOffset` of the next string value.
The arms of `AUDIT_WATCH`, `AUDIT_DIR`, `AUDIT_EXE` and `AUDIT_FILTERKEY` move it past the value
they print; the arm of the subject and object labels does not, so that the string value of a
field after a label is read from where the label's was (`printRule_reads_key_at_label`).

Every index of `Fields`, `Values` and `Fieldflags` is checked by the Go run time, and so is every
slice of `Buf`: the functions return `Go.Panic` where Go panics.  `Buf` is sliced up to its
length, which is its capacity for the rules the model builds.
-/

namespace LibAudit

/-! ## Lookup tables and `fmt` -/

/-- `actionLookup`. -/
def actionLookup : List (Nat × String) :=
  [(auditNever.toNat, "never"), (auditPossible.toNat, "possible"), (auditAlways.toNat, "always")]

/-- `flagLookup`. -/
def flagLookup : List (Nat × String) :=
  [(auditFilterTask.toNat, "task"), (auditFilterEntry.toNat, "entry"),
    (auditFilterExit.toNat, "exit"), (auditFilterUser.toNat, "user"),
    (auditFilterExclude.toNat, "exclude")]

/-- `opLookup`. -/
def opLookup : List (Nat × String) :=
  [(auditEqual.toNat, "="), (auditNotEqual.toNat, "!="), (auditGreaterThan.toNat, ">"),
    (auditGreaterThanOrEqual.toNat, ">="), (auditLessThan.toNat, "<"),
    (auditLessThanOrEqual.toNat, "<="), (auditBitMask.toNat, "&"), (auditBitTest.toNat, "&=")]

/-- `fieldLookup`: the name of each field number. -/
def fieldLookup : List (Nat × String) :=
  [(auditPid.toNat, "pid"), (auditUid.toNat, "uid"), (auditEuid.toNat, "euid"),
    (auditSuid.toNat, "suid"), (auditFsuid.toNat, "fsuid"), (auditGid.toNat, "gid"),
    (auditEgid.toNat, "egid"), (auditSgid.toNat, "sgid"), (auditFsgid.toNat, "fsgid"),
    (auditLoginuid.toNat, "auid"), (auditPers.toNat, "pers"), (auditArch.toNat, "arch"),
    (auditMsgtype.toNat, "msgtype"), (auditSubjUser.toNat, "subj_user"),
    (auditSubjRole.toNat, "subj_role"), (auditSubjType.toNat, "subj_type"),
    (auditSubjSen.toNat, "subj_sen"), (auditSubjClr.toNat, "subj_clr"),
    (auditPpid.toNat, "ppid"), (auditObjUser.toNat, "obj_user"),
    (auditObjRole.toNat, "obj_role"), (auditObjType.toNat, "obj_type"),
    (auditObjLevLow.toNat, "obj_lev_low"), (auditObjLevHigh.toNat, "obj_lev_high"),
    (auditDevmajor.toNat, "devmajor"), (auditDevminor.toNat, "devminor"),
    (auditInode.toNat, "inode"), (auditExit.toNat, "exit"), (auditSuccess.toNat, "success"),
    (auditWatch.toNat, "path"), (auditPerm.toNat, "perm"), (auditDir.toNat, "dir"),
    (auditFiletype.toNat, "filetype"), (auditObjUid.toNat, "obj_uid"),
    (auditObjGid.toNat, "obj_gid"), (auditFieldCompare.toNat, "field_compare"),
    (auditArg0.toNat, "a0"), (auditArg1.toNat, "a1"), (auditArg2.toNat, "a2"),
    (auditArg3.toNat, "a3"), (auditFilterkey.toNat, "key"), (auditExe.toNat, "exe")]

/-- `table[int(code)]` of a `map[int]string`: the empty string for a code it does not have. -/
def lookupCode (table : List (Nat × String)) (code : UInt32) : List Char :=
  ((table.lookup code.toNat).getD "").toList

/-- `actionToName(action)`. -/
def actionToName (action : UInt32) : List Char := lookupCode actionLookup action

/-- `flagToName(flag)`. -/
def flagToName (flag : UInt32) : List Char := lookupCode flagLookup flag

/-- `operatorToSymbol(op)`. -/
def operatorToSymbol (op : UInt32) : List Char := lookupCode opLookup op

/-- `fieldToName(field)`. -/
def fieldToName (field : UInt32) : List Char := lookupCode fieldLookup field

/-- `fmt`'s `%d` of a non-negative integer. -/
def decimal (n : Nat) : List Char := Nat.toDigits 10 n

/-- `auditConstant(v).String()` of a rule's value: the conversion to `auditConstant`, a
`uint16`, keeps the low 16 bits of the `uint32`. -/
def auditConstantValueString (v : UInt32) : List Char := auditConstantString v.toUInt16

/-- The two sides of each `AUDIT_COMPARE_*` value, from `AUDIT_COMPARE_UID_TO_OBJ_UID = 1` to
`AUDIT_COMPARE_SGID_TO_FSGID = 25`. -/
def fieldCompareNames : List (Nat × String × String) :=
  [(1, "uid", "obj_uid"), (2, "gid", "obj_gid"), (3, "euid", "obj_uid"), (4, "egid", "obj_gid"),
    (5, "auid", "obj_uid"), (6, "suid", "obj_uid"), (7, "sgid", "obj_gid"),
    (8, "fsuid", "obj_uid"), (9, "fsgid", "obj_gid"), (10, "uid", "auid"), (11, "uid", "euid"),
    (12, "uid", "fsuid"), (13, "uid", "suid"), (14, "auid", "fsuid"), (15, "auid", "suid"),
    (16, "auid", "euid"), (17, "euid", "suid"), (18, "euid", "fsuid"), (19, "suid", "fsuid"),
    (20, "gid", "egid"), (21, "gid", "fsgid"), (22, "gid", "sgid"), (23, "egid", "fsgid"),
    (24, "egid", "sgid"), (25, "sgid", "fsgid")]

/-- `printFieldCmp(value, op)`: ` -C left<op>right`, or nothing for a value without a
comparison.  The switch is on `auditConstant(value)`, the low 16 bits of the value. -/
def printFieldCmp (value op : UInt32) : List Char :=
  match fieldCompareNames.lookup value.toUInt16.toNat with
  | some (left, right) => " -C ".toList ++ left.toList ++ operatorToSymbol op ++ right.toList
  | none => []

/-! ## Reading a rule -/

/-- `rule.Fields[i]`, `rule.Values[i]` and `rule.Fieldflags[i]`: out of range from the 64th
field on. -/
def fieldEntry (rule : AuditRuleData) (i : Nat) : Except Go.Panic (UInt32 × UInt32 × UInt32) :=
  if h : i < auditMaxFields then .ok (rule.fields[i], rule.values[i], rule.fieldflags[i])
  else .error (.indexOutOfRange i auditMaxFields)

/-- `string(rule.Buf[bufferOffset:bufferOffset+int(value)])`. -/
def bufSlice (rule : AuditRuleData) (bufferOffset : Nat) (value : UInt32) :
    Except Go.Panic (List Char) :=
  (Go.slice rule.buf bufferOffset (bufferOffset + value.toNat)).map Go.stringOfBytes

/-- `rule.Flags & AUDIT_FILTER_MASK` is not one of the filters whose rules take no syscall. -/
def takesSyscalls (rule : AuditRuleData) : Bool :=
  let filter := rule.flags &&& auditFilterMask
  !(filter = UInt32.ofInt auditFilterUser || filter = UInt32.ofInt auditFilterTask ||
    filter = UInt32.ofInt auditFilterExclude)

/-- The loop over the first `AUDIT_BITMASK_SIZE-1` words of the mask: all ones. -/
def allSyscalls (rule : AuditRuleData) : Bool :=
  (List.range (auditBitmaskSize - 1)).all fun i => rule.mask.toList.getD i 0 = 0xFFFFFFFF

/-- The loop of `isWatch` over the fields from the `i`-th on: `none` when it returns `false` at
a field that no watch has, and otherwise whether a permission field was seen. -/
def watchFields (rule : AuditRuleData) (perm : Bool) : List Nat → Except Go.Panic (Option Bool)
  | [] => .ok (some perm)
  | i :: is => do
    let (fieldI, _, _) ← fieldEntry rule i
    let field := fieldI &&& ~~~auditOperators
    let perm := perm || field = auditPerm
    if field ≠ auditPerm ∧ field ≠ auditFilterkey ∧ field ≠ auditDir ∧ field ≠ auditWatch then
      .ok none
    else watchFields rule perm is

/-- `isWatch(rule)`: only permission, key, directory and path fields, a permission among them,
and every syscall when the filter takes syscalls. -/
def isWatch (rule : AuditRuleData) : Except Go.Panic Bool := do
  match ← watchFields rule false (List.range rule.fieldCount.toNat) with
  | none => .ok false
  | some perm =>
    let all := if takesSyscalls rule then allSyscalls rule else true
    .ok (perm && all)

/-! ## The syscalls of a rule -/

/-- One iteration of the scan of `printSyscallRule` over the syscall numbers: the text so far,
the count of syscalls found and the last one.  The word of a number below 2048 is below 64. -/
def syscallStep (reverseSysMapX64 : List Char → List Char) (rule : AuditRuleData)
    (acc : List Char × Nat × Nat) (i : Nat) : List Char × Nat × Nat :=
  if rule.mask.toList.getD (auditWord i).toNat 0 &&& auditBit i > 0 then
    let name := if acc.1 = [] then " -S ".toList else acc.1
    let name := if acc.2.1 > 0 then name ++ [','] else name
    let name := name ++
      match auditSyscallToName reverseSysMapX64 (decimal i) with
      | .error _ => decimal i
      | .ok n => n
    (name, acc.2.1 + 1, i)
  else acc

/-- `printSyscallRule(rule)`: the text, the count of syscalls, the last of them, and whether
the rule's filter takes syscalls.  For a rule on every syscall the count is the number of words
tested. -/
def printSyscallRule (reverseSysMapX64 : List Char → List Char) (rule : AuditRuleData) :
    List Char × Nat × Nat × Bool :=
  if !takesSyscalls rule then ([], 0, 0, false)
  else if allSyscalls rule then (" -S all".toList, auditBitmaskSize - 1, 0, true)
  else
    let (name, count, syscall) :=
      (List.range (auditBitmaskSize * 32)).foldl (syscallStep reverseSysMapX64 rule) ([], 0, 0)
    (name, count, syscall, true)

/-! ## `printRule` -/

/-- What the loop of `printRule` over the fields carries: the text so far and the offset of the
next string value in `Buf`. -/
structure PrintState where
  result : List Char
  bufferOffset : Nat
  deriving DecidableEq, Repr

/-- `strings.Split(key, "\\0")`: the keys of a field, between the two characters `\0`. -/
def splitKeys : List Char → List (List Char)
  | [] => [[]]
  | '\\' :: '0' :: rest => [] :: splitKeys rest
  | c :: rest =>
    match splitKeys rest with
    | piece :: pieces => (c :: piece) :: pieces
    | [] => [[c]]

/-- The permission letters of the `AUDIT_PERM` arm, in the order `r`, `w`, `x`, `a`. -/
def permsText (value : UInt32) : List Char :=
  (if value &&& auditPermRead > 0 then ['r'] else []) ++
    (if value &&& auditPermWrite > 0 then ['w'] else []) ++
    (if value &&& auditPermExec > 0 then ['x'] else []) ++
    (if value &&& auditPermAttr > 0 then ['a'] else [])

/-- The arch part of the header of a rule that is not a watch: `-F arch`, the operator and
`b64` on amd64, from the first arch field. -/
def archText (interp : Interpreters) (rule : AuditRuleData) : List Nat → Except Go.Panic (List Char)
  | [] => .ok []
  | i :: is => do
    let (fieldI, _, flag) ← fieldEntry rule i
    let field := fieldI &&& ~~~auditOperators
    if field = auditArch then
      let op := flag &&& auditOperators
      .ok ("-F arch".toList ++ operatorToSymbol op ++
        (if interp.goarch = "amd64".toList then "b64".toList
        else if interp.goarch = "386".toList then "b32".toList
        else "0x".toList ++ Go.Hex.formatUpper field.toNat))
    else archText interp rule is

/-- One iteration of the loop of `printRule` over the fields, for field `i`; `watch`, `count`
and `sys` are what `isWatch` and `printSyscallRule` found. -/
def printField (interp : Interpreters) (rule : AuditRuleData) (watch : Bool) (count sys : Nat)
    (s : PrintState) (i : Nat) : Except Go.Panic PrintState := do
  let (fieldI, value, flag) ← fieldEntry rule i
  let op := flag &&& auditOperators
  let field := fieldI &&& ~~~auditOperators
  let sym := operatorToSymbol op
  let fieldName := fieldToName field
  let emit (text : List Char) : PrintState := { s with result := s.result ++ text }
  let numeric := " -F ".toList ++ fieldName ++ sym ++ decimal value.toNat
  if field = auditArch then pure s
  else if fieldName = [] then
    -- an unknown field
    pure (emit (" f".toList ++ decimal fieldI.toNat ++ sym ++ decimal value.toNat))
  else if field = auditMsgtype then
    let name := auditConstantValueString value
    if "auditConstant".toList.isPrefixOf name then
      pure (emit (" f".toList ++ decimal fieldI.toNat ++ sym ++ decimal value.toNat))
    -- every other name starts with `AUDIT_`, which `[6:]` cuts off
    else pure (emit (" -F ".toList ++ fieldName ++ sym ++ name.drop 6))
  else if (auditSubjUser ≤ field ∧ field ≤ auditObjLevHigh) ∧ field ≠ auditPpid then
    -- a label: the offset does not move past it
    let str ← bufSlice rule s.bufferOffset value
    pure (emit (" -F ".toList ++ fieldName ++ sym ++ str))
  else if field = auditWatch then
    let str ← bufSlice rule s.bufferOffset value
    pure ⟨s.result ++ (if watch then "-w ".toList ++ str else " -F path=".toList ++ str),
      s.bufferOffset + value.toNat⟩
  else if field = auditDir then
    let str ← bufSlice rule s.bufferOffset value
    pure ⟨s.result ++ (if watch then "-w ".toList ++ str else " -F dir=".toList ++ str),
      s.bufferOffset + value.toNat⟩
  else if field = auditExe then
    let str ← bufSlice rule s.bufferOffset value
    pure ⟨s.result ++ " -F exe=".toList ++ str, s.bufferOffset + value.toNat⟩
  else if field = auditFilterkey then
    let key ← bufSlice rule s.bufferOffset value
    let keys := (splitKeys key).flatMap fun k =>
      (if watch then " -k ".toList else " -F key=".toList) ++ k
    pure ⟨s.result ++ keys, s.bufferOffset + value.toNat⟩
  else if field = auditPerm then
    pure (emit ((if watch then " -p ".toList else " -F perm=".toList) ++ permsText value))
  else if field = auditInode then pure (emit numeric)
  else if field = auditFieldCompare then pure (emit (printFieldCmp value op))
  else if auditArg0 ≤ field ∧ field ≤ auditArg3 then
    if 1 < count then
      pure (emit (" -F ".toList ++ fieldName ++ sym ++ "0x".toList ++
        Go.Hex.formatUpper value.toNat))
    else
      -- the argument is interpreted as a syscall number, and `%X` prints the name's bytes
      let a0 : Int := if field = auditArg0 then value.toNat else 0
      let a1 : Int := if field = auditArg1 then value.toNat else 0
      let r : Record := { syscallNum := decimal sys, a0, a1 }
      match interpretField interp "syscall".toList (Go.Hex.formatLower value.toNat) auditSyscall r
      with
      | .error _ => pure s
      | .ok n => pure (emit (" -F ".toList ++ fieldName ++ sym ++ "0x".toList ++
          Go.Hex.encodeUpper (n.map Char.toUInt8)))
  -- `AUDIT_EXIT` prints `int(rule.Values[i])`, the same digits on a 64-bit `int`
  else if field = auditExit then pure (emit numeric)
  else pure (emit numeric)

/-- `printRule(rule)`: the header of a rule that is not a watch, then every field. -/
def printRule (interp : Interpreters) (rule : AuditRuleData) : Except Go.Panic (List Char) := do
  let watch ← isWatch rule
  let (result, count, sys) ←
    if watch then pure ([], 0, 0)
    else do
      let arch ← archText interp rule (List.range rule.fieldCount.toNat)
      let (n, count, sys, printed) := printSyscallRule interp.reverseSysMapX64 rule
      pure ("-a ".toList ++ actionToName rule.action ++ ',' :: flagToName rule.flags ++ arch ++
        (if printed then n else []), count, sys)
  let s ← (List.range rule.fieldCount.toNat).foldlM (printField interp rule watch count sys)
    ⟨result, 0⟩
  pure s.result

/-- `keyMatch(rule, key)`: the loop over the fields from the `i`-th on, at offset
`bufferOffset` of `Buf`; every string value moves the offset past it. -/
def keyMatchLoop (rule : AuditRuleData) (key : List Char) (bufferOffset : Nat) :
    List Nat → Except Go.Panic Bool
  | [] => .ok false
  | i :: is => do
    let (fieldI, value, _) ← fieldEntry rule i
    let field := fieldI &&& ~~~auditOperators
    if field = auditFilterkey then
      let keyptr ← bufSlice rule bufferOffset value
      if key <:+: keyptr then return true
    let bufferOffset :=
      if ((auditSubjUser ≤ field ∧ field ≤ auditObjLevHigh) ∧ field ≠ auditPpid) ∨
          field = auditWatch ∨ field = auditDir ∨ field = auditFilterkey ∨ field = auditExe then
        bufferOffset + value.toNat
      else bufferOffset
    keyMatchLoop rule key bufferOffset is

/-- `keyMatch(rule, key)`: every rule matches the empty key. -/
def keyMatch (rule : AuditRuleData) (key : List Char) : Except Go.Panic Bool :=
  if key = [] then .ok true
  else keyMatchLoop rule key 0 (List.range rule.fieldCount.toNat)

/-! ## Watches -/

section Arms

variable {interp : Interpreters} {rule : AuditRuleData} {count sys : Nat} {s : PrintState}
  {i : Nat}

theorem fieldEntry_of_lt (inRange : i < auditMaxFields) :
    fieldEntry rule i = .ok (rule.fields[i], rule.values[i], rule.fieldflags[i]) := by
  rw [fieldEntry, dif_pos inRange]

/-- The fields a watch is made of carry no operator bits. -/
theorem clear_of_watchKind {field : UInt32}
    (kind : field ∈ [auditWatch, auditDir, auditPerm, auditFilterkey]) :
    field &&& ~~~auditOperators = field := by
  simp only [List.mem_cons, List.not_mem_nil, or_false] at kind
  rcases kind with rfl | rfl | rfl | rfl <;> decide

/-- The loop of `isWatch` over fields of the four kinds a watch has: it goes through them, and
finds a permission field when one of them is. -/
theorem watchFields_of_kinds (perm : Bool) :
    ∀ is : List Nat, (∀ i ∈ is, ∃ h : i < auditMaxFields,
        rule.fields[i] ∈ [auditWatch, auditDir, auditPerm, auditFilterkey]) →
      watchFields rule perm is =
        .ok (some (perm || is.any fun i => rule.fields.toList.getD i 0 = auditPerm))
  | [], _ => by simp [watchFields]
  | i :: is, kinds => by
    obtain ⟨inRange, kind⟩ := kinds i List.mem_cons_self
    have rest := watchFields_of_kinds (perm || rule.fields[i] = auditPerm) is
      fun j member => kinds j (List.mem_cons_of_mem i member)
    have stays : ¬ (rule.fields[i] ≠ auditPerm ∧ rule.fields[i] ≠ auditFilterkey ∧
        rule.fields[i] ≠ auditDir ∧ rule.fields[i] ≠ auditWatch) := by
      simp only [List.mem_cons, List.not_mem_nil, or_false] at kind
      tauto
    rw [watchFields, fieldEntry_of_lt inRange, Go.ok_bind]
    simp only [clear_of_watchKind kind, if_neg stays, rest]
    have entry : rule.fields[i]? = some rule.fields[i] := by simp [inRange]
    simp [entry, Bool.or_assoc]

/-- **A watch is listed as one**: a rule of fields of the four kinds, one of them a permission,
on a filter that takes syscalls with every syscall. -/
theorem isWatch_of_kinds (inRange : rule.fieldCount.toNat ≤ auditMaxFields)
    (kinds : ∀ i (h : i < auditMaxFields), i < rule.fieldCount.toNat →
      rule.fields[i] ∈ [auditWatch, auditDir, auditPerm, auditFilterkey])
    (permitted : ∃ i, ∃ h : i < auditMaxFields, i < rule.fieldCount.toNat ∧
      rule.fields[i] = auditPerm)
    (syscalls : takesSyscalls rule = true) (all : allSyscalls rule = true) :
    isWatch rule = .ok true := by
  have looped := @watchFields_of_kinds rule false (List.range rule.fieldCount.toNat)
    fun i member => by
      have below := List.mem_range.mp member
      exact ⟨by omega, kinds i (by omega) below⟩
  obtain ⟨i, room, below, perm⟩ := permitted
  have found : ((List.range rule.fieldCount.toNat).any fun i =>
      rule.fields.toList.getD i 0 = auditPerm) = true := by
    refine List.any_eq_true.mpr ⟨i, List.mem_range.mpr below, ?_⟩
    simp [List.getD_eq_getElem?_getD, room, perm]
  rw [isWatch, looped, Go.ok_bind, found, syscalls, all]
  rfl

/-- The exit filter takes syscalls. -/
theorem takesSyscalls_of_exit (exit : rule.flags = UInt32.ofInt auditFilterExit) :
    takesSyscalls rule = true := by
  unfold takesSyscalls
  rw [exit]
  decide

/-- A mask whose first 63 words have every bit set names every syscall. -/
theorem allSyscalls_of_ones
    (ones : ∀ j (h : j < auditBitmaskSize - 1), rule.mask[j] = 0xFFFFFFFF) :
    allSyscalls rule = true := by
  rw [allSyscalls, List.all_eq_true]
  intro j member
  have below := List.mem_range.mp member
  have inRange : j < auditBitmaskSize := by
    unfold auditBitmaskSize at below ⊢
    omega
  simp [List.getD_eq_getElem?_getD, inRange, ones j below]

/-- A watch is printed without a header, field after field from offset 0. -/
theorem printRule_of_watch (watch : isWatch rule = .ok true) :
    printRule interp rule =
      ((List.range rule.fieldCount.toNat).foldlM (printField interp rule true 0 0) ⟨[], 0⟩).map
        PrintState.result := by
  rw [printRule, watch, Go.ok_bind]
  simp only [if_true, pure_bind]
  cases (List.range rule.fieldCount.toNat).foldlM (printField interp rule true 0 0) ⟨[], 0⟩ <;>
    rfl

/-- The arm of a path or a directory of a watch: `-w` and the value, and the offset moves past
it. -/
theorem printField_watched {str : List Char} (inRange : i < auditMaxFields)
    (isPath : rule.fields[i] = auditWatch ∨ rule.fields[i] = auditDir)
    (sliced : bufSlice rule s.bufferOffset rule.values[i] = .ok str) :
    printField interp rule true count sys s i =
      .ok ⟨s.result ++ ("-w ".toList ++ str), s.bufferOffset + rule.values[i].toNat⟩ := by
  rcases isPath with path | dir
  · have clear : auditWatch &&& ~~~auditOperators = auditWatch := by decide
    have named : fieldToName auditWatch = "path".toList := by decide
    rw [printField, fieldEntry_of_lt inRange, Go.ok_bind]
    simp (disch := decide) only [path, clear, named, if_pos, if_neg]
    rw [sliced]
    rfl
  · have clear : auditDir &&& ~~~auditOperators = auditDir := by decide
    have named : fieldToName auditDir = "dir".toList := by decide
    rw [printField, fieldEntry_of_lt inRange, Go.ok_bind]
    simp (disch := decide) only [dir, clear, named, if_pos, if_neg]
    rw [sliced]
    rfl

/-- The arm of a permission field of a watch: ` -p` and its letters. -/
theorem printField_watchPerm (inRange : i < auditMaxFields) (isPerm : rule.fields[i] = auditPerm) :
    printField interp rule true count sys s i =
      .ok { s with result := s.result ++ (" -p ".toList ++ permsText rule.values[i]) } := by
  have clear : auditPerm &&& ~~~auditOperators = auditPerm := by decide
  have named : fieldToName auditPerm = "perm".toList := by decide
  rw [printField, fieldEntry_of_lt inRange, Go.ok_bind]
  simp (disch := decide) only [isPerm, clear, named, if_pos, if_neg]
  rfl

/-- The arm of a key field: one ` -k` (of a watch) or ` -F key=` for each key its value holds,
and the offset moves past the value. -/
theorem printField_key {watch : Bool} {key : List Char} (inRange : i < auditMaxFields)
    (isKey : rule.fields[i] = auditFilterkey)
    (sliced : bufSlice rule s.bufferOffset rule.values[i] = .ok key) :
    printField interp rule watch count sys s i =
      .ok ⟨s.result ++ (splitKeys key).flatMap (fun k =>
          (if watch then " -k ".toList else " -F key=".toList) ++ k),
        s.bufferOffset + rule.values[i].toNat⟩ := by
  have clear : auditFilterkey &&& ~~~auditOperators = auditFilterkey := by decide
  have named : fieldToName auditFilterkey = "key".toList := by decide
  rw [printField, fieldEntry_of_lt inRange, Go.ok_bind]
  simp (disch := decide) only [isKey, clear, named, if_pos, if_neg]
  rw [sliced]
  rfl

end Arms

/-- The bytes between `pre` and `post` are sliced out from the length of `pre` on. -/
theorem bufSlice_append {rule : AuditRuleData} {pre mid post : List UInt8} {value : UInt32}
    (layout : rule.buf = pre ++ mid ++ post) (length : value.toNat = mid.length) :
    bufSlice rule pre.length value = .ok (Go.stringOfBytes mid) := by
  have fits : pre.length + value.toNat ≤ rule.buf.length := by
    rw [layout]
    simp [length]
  rw [bufSlice, Go.slice_of_le (Nat.le_add_right _ _) fits, layout, length, List.append_assoc,
    List.take_length_add_append, List.take_left' rfl, List.drop_left' rfl]
  rfl

/-- A key without the separator `\0` is one key. -/
theorem splitKeys_of_not_infix {key : List Char} (single : ¬ ['\\', '0'] <:+: key) :
    splitKeys key = [key] := by
  induction key using splitKeys.induct with
  | case1 => rfl
  | case2 rest _ =>
    exact absurd (List.infix_append [] ['\\', '0'] rest) single
  | case3 c rest notSeparator _ _ _ ih =>
    have inner : ¬ ['\\', '0'] <:+: rest := fun inside =>
      single (inside.trans (List.suffix_cons c rest).isInfix)
    rw [splitKeys.eq_3 c rest notSeparator, ih inner]
  | case4 c rest _ empty ih =>
    -- `splitKeys` never returns the empty list
    have inner : ¬ ['\\', '0'] <:+: rest := fun inside =>
      single (inside.trans (List.suffix_cons c rest).isInfix)
    rw [ih inner] at empty
    cases empty

/-- **A watch is printed as it was written**: its path or directory, its permissions, and the
keys of its key field when it has one. -/
theorem printRule_watch (interp : Interpreters) {rule : AuditRuleData} {path : List UInt8}
    {key : Option (List UInt8)} (count : rule.fieldCount.toNat = 2 + key.toList.length)
    (watched : rule.fields[0] = auditWatch ∨ rule.fields[0] = auditDir)
    (permission : rule.fields[1] = auditPerm)
    (keyed : key.isSome → rule.fields[2] = auditFilterkey)
    (pathLength : rule.values[0].toNat = path.length)
    (keyLength : ∀ k ∈ key, rule.values[2].toNat = k.length)
    (layout : rule.buf = path ++ key.toList.flatten)
    (syscalls : takesSyscalls rule = true) (all : allSyscalls rule = true) :
    printRule interp rule = .ok ("-w ".toList ++ Go.stringOfBytes path ++ " -p ".toList ++
      permsText rule.values[1] ++ key.toList.flatMap fun k =>
        (splitKeys (Go.stringOfBytes k)).flatMap (" -k ".toList ++ ·)) := by
  have small : key.toList.length ≤ 1 := by cases key <;> simp
  have kinds : ∀ i (h : i < auditMaxFields), i < rule.fieldCount.toNat →
      rule.fields[i] ∈ [auditWatch, auditDir, auditPerm, auditFilterkey] := by
    intro i h below
    -- the fields are the path, the permission, and the key when there is one
    match i, key with
    | 0, _ => rcases watched with same | same <;> simp [same]
    | 1, _ => simp [permission]
    | 2, some k => simp [keyed rfl]
    | 2, none => simp at count; omega
    | j + 3, _ => omega
  have watch : isWatch rule = .ok true :=
    isWatch_of_kinds (by rw [count]; unfold auditMaxFields; omega) kinds
      ⟨1, by decide, by omega, permission⟩ syscalls all
  -- the path from offset 0, then the permissions, then the key after the path
  have first : printField interp rule true 0 0 ⟨[], 0⟩ 0 =
      .ok ⟨"-w ".toList ++ Go.stringOfBytes path, path.length⟩ := by
    rw [printField_watched (by decide) watched
      (@bufSlice_append rule [] path key.toList.flatten rule.values[0] (by simpa using layout)
        pathLength)]
    simp [pathLength]
  have second : printField interp rule true 0 0
      ⟨"-w ".toList ++ Go.stringOfBytes path, path.length⟩ 1 =
      .ok ⟨"-w ".toList ++ Go.stringOfBytes path ++ (" -p ".toList ++ permsText rule.values[1]),
        path.length⟩ :=
    printField_watchPerm (by decide) permission
  rw [printRule_of_watch watch]
  cases key with
  | none =>
    have two : rule.fieldCount.toNat = 2 := by simpa using count
    rw [two, show List.range 2 = [0, 1] from rfl, List.foldlM_cons, first, Go.ok_bind,
      List.foldlM_cons, second, Go.ok_bind, List.foldlM_nil]
    simp
    rfl
  | some k =>
    have three : rule.fieldCount.toNat = 3 := by simpa using count
    have third : printField interp rule true 0 0
        ⟨"-w ".toList ++ Go.stringOfBytes path ++ (" -p ".toList ++ permsText rule.values[1]),
          path.length⟩ 2 =
        .ok ⟨"-w ".toList ++ Go.stringOfBytes path ++ (" -p ".toList ++ permsText rule.values[1])
          ++ (splitKeys (Go.stringOfBytes k)).flatMap (" -k ".toList ++ ·),
          path.length + rule.values[2].toNat⟩ :=
      printField_key (by decide) (keyed rfl)
        (@bufSlice_append rule path k [] rule.values[2] (by simpa using layout) (keyLength k rfl))
    rw [three, show List.range 3 = [0, 1, 2] from rfl, List.foldlM_cons, first, Go.ok_bind,
      List.foldlM_cons, second, Go.ok_bind, List.foldlM_cons, third, Go.ok_bind,
      List.foldlM_nil]
    simp
    rfl

/-! ## The offset of the labels -/

/-- **A key after a label is read from the label's place.**  The rule of the subject user `x`
and the key `k` on the user filter is well formed, with `Buf = "xk"`; the arm of the label
leaves the offset at 0, so that `printRule` prints the key as `x`, the first byte of the
label's value. -/
theorem printRule_reads_key_at_label (interp : Interpreters) :
    let rule : AuditRuleData := { AuditRuleData.empty with
      fieldCount := 2
      fields := (AuditRuleData.empty.fields.set 0 auditSubjUser).set 1 auditFilterkey
      fieldflags := (AuditRuleData.empty.fieldflags.set 0 auditEqual).set 1 auditEqual
      values := (AuditRuleData.empty.values.set 0 1).set 1 1
      buflen := 2
      buf := [120, 107] }
    rule.WellFormed ∧ printRule interp rule = .ok "-a never,user -F subj_user=x -F key=x".toList :=
  ⟨⟨by decide, rfl, [[120], [107]], by decide, rfl⟩, rfl⟩

end LibAudit
