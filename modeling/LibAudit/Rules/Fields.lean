import LibAudit.Go.Strconv
import LibAudit.Go.Utf8
import LibAudit.Rules.Data
import Mathlib.Data.List.Infix

/-!
# Audit rules: syscalls, fields and watches

The helpers of `rules.go` that fill in an `AuditRuleData`:

* `auditRuleSyscallData` — set the bit of a syscall in the mask;
* `auditRuleFieldPairData` — append one field with its operator and value, through the
  fifteen-way switch on the field's number;
* `auditSetupAndAddWatchDir`, `auditSetupAndUpdatePerms` — the watch of a file rule and its
  permissions.

A helper that writes through its `*AuditRuleData` returns the rule it leaves, or its error; the
rule of a failed call is never used again.  `auditRuleFieldPairData` also returns the package
variables, which it sets before it may fail.  Every write at index `FieldCount` follows the
check that `FieldCount` is below 63, which the model carries into `Vector.set`.
-/

namespace LibAudit

/-! ## Sentinel errors -/

/-- `errMaxField`. -/
def errMaxField : Go.Fault := .error "max fields for rule exceeded"
/-- `errNoStr`. -/
def errNoStr : Go.Fault := .error "no support for string values"
/-- `errUnset`. -/
def errUnset : Go.Fault := .error "unable to set value"
/-- `errNoSys`. -/
def errNoSys : Go.Fault := .error "no prior syscall added"
/-- `errMaxLen`. -/
def errMaxLen : Go.Fault := .error "max Rule length exceeded"
/-- `errPathTooBig`. -/
def errPathTooBig : Go.Fault := .error "the path passed for the watch is too big"
/-- `errPathStart`. -/
def errPathStart : Go.Fault := .error "the path must start with '/'"
/-- `errBaseTooBig`. -/
def errBaseTooBig : Go.Fault := .error "the base name of the path is too big"

/-! ## Syscalls -/

/-- `auditWord(nr)`: the word of the mask that holds syscall `nr`. -/
def auditWord (nr : Int) : UInt32 := UInt32.ofInt (nr.tdiv 32)

/-- `auditBit(nr)`: the bit of syscall `nr` in its word.  The untyped `1` of
`1 << ((uint32)(nr) - auditWord(nr)*32)` is an `int`, so a shift count of 32 or more leaves no
bit in the `uint32` it is converted to. -/
def auditBit (nr : Int) : UInt32 :=
  let shift := UInt32.ofInt nr - auditWord nr * 32
  if shift < 32 then 1 <<< shift else 0

/-- `auditRuleSyscallData(rule, scall)`: set the bit of syscall `scall` in the mask; the last
word of the mask is refused. -/
def auditRuleSyscallData (rule : AuditRuleData) (scall : Int) : Except Go.Fault AuditRuleData :=
  if last : auditBitmaskSize - 1 ≤ (auditWord scall).toNat then
    .error (.error "auditRuleSyscallData failed: word Size greater than AUDIT_BITMASK_SIZE")
  else
    have inRange : (auditWord scall).toNat < auditBitmaskSize := by
      unfold auditBitmaskSize at last ⊢
      omega
    let word := rule.mask.get ⟨(auditWord scall).toNat, inRange⟩ ||| auditBit scall
    .ok { rule with mask := rule.mask.set (auditWord scall).toNat word inRange }

/-! ## Field values -/

/-- `auditNameToFtype(name, &value)`: the mode bits of a file type name. -/
def auditNameToFtype (name : List Char) : Except Go.Fault Int :=
  match lookupName ftypeTab name with
  | some value => .ok value
  | none => .error (.error ("auditNameToFtype failed: filetype " ++ String.ofList name ++
      " not found"))

/-- The bit of one permission letter, or `none`. -/
def permBit : Char → Option UInt32
  | 'r' => some auditPermRead
  | 'w' => some auditPermWrite
  | 'x' => some auditPermExec
  | 'a' => some auditPermAttr
  | _ => none

/-- The bits of a permission string, or its first letter that is none of `rwxa`. -/
def permsOf : List Char → Except Char UInt32
  | [] => .ok 0
  | c :: cs =>
    match permBit c with
    | none => .error c
    | some bit => (permsOf cs).map (bit ||| ·)

/-- `errors.Wrap(errUnset, fmt.Sprintf("auditRuleFieldPairData failed to set: %v", fieldval))`. -/
def unsetError (env : RuleEnv) (fieldval : Option Json) : Go.Fault :=
  errUnset.wrap ("auditRuleFieldPairData failed to set: " ++ env.formatValue fieldval)

/-- The type switch of a numeric field: a `float64` gives `onNumber` of it, a string is left to
`onString`, and anything else is `errUnset`. -/
def valueOf (env : RuleEnv) (fieldval : Option Json) (onNumber : ℚ → UInt32)
    (onString : List Char → Except Go.Fault UInt32) : Except Go.Fault UInt32 :=
  match fieldval with
  | some (.number x) => .ok (onNumber x)
  | some (.string s) => onString s
  | _ => .error (unsetError env fieldval)

/-- A string where the field takes no string. -/
def noString (message : String) : List Char → Except Go.Fault UInt32 :=
  fun _ => .error (errNoStr.wrap message)

/-- The user arm's string: `unset`, or the uid of a user name. -/
def userValue (env : RuleEnv) (val : List Char) : Except Go.Fault UInt32 :=
  if val = "unset".toList then .ok 4294967295
  else
    match env.lookupUser val with
    | .error msg => .error ((Go.Fault.error msg).wrap "auditRuleFieldPairData failed: unknown user")
    | .ok uid =>
      match Go.Strconv.atoi uid with
      | .error msg => .error ((Go.Fault.error msg).wrap "auditRuleFieldPairData failed")
      | .ok userID => .ok (UInt32.ofInt userID)

/-! ## `auditRuleFieldPairData` -/

/-- The field numbers of the first arm of the switch: users. -/
def uidFields : List UInt32 :=
  [auditUid, auditEuid, auditSuid, auditFsuid, auditLoginuid, auditObjUid, auditObjGid]

/-- The field numbers of the group arm. -/
def gidFields : List UInt32 := [auditGid, auditEgid, auditSgid, auditFsgid]

/-- The field numbers of the object string arm, which falls through into the subject arm. -/
def objectStringFields : List UInt32 :=
  [auditObjUser, auditObjRole, auditObjType, auditObjLevLow, auditObjLevHigh, auditWatch, auditDir]

/-- The field numbers of the subject string arm, the key among them. -/
def subjectStringFields : List UInt32 :=
  [auditSubjUser, auditSubjRole, auditSubjType, auditSubjSen, auditSubjClr, auditFilterkey]

/-- The field numbers of the syscall argument arm. -/
def argFields : List UInt32 := [auditArg0, auditArg1, auditArg2, auditArg3]

/-- The field numbers of the arm that checks the exit filter and falls through into the default
arm. -/
def exitOnlyFields : List UInt32 := [auditDevmajor, auditInode, auditSuccess]

/-- The error of a field that only goes with the exit filter list. -/
def exitOnlyError (fieldname : List Char) : Go.Fault :=
  .error ("auditRuleFieldPairData failed: " ++ String.ofList fieldname ++
    " can only be used with exit filter list")

/-- The error of a field that only goes with the exit and entry filter lists. -/
def exitEntryOnlyError (fieldname : List Char) : Go.Fault :=
  .error ("auditRuleFieldPairData failed: " ++ String.ofList fieldname ++
    " can only be used with exit and entry filter list")

/-- The error of a field that only takes `=` and `!=`. -/
def equalityOnlyError (fieldname : List Char) : Go.Fault :=
  .error ("auditRuleFieldPairData failed: " ++ String.ofList fieldname ++
    " only takes = or != operators")

/-- The subject string arm: a string value is appended to `Buf` and its length stored, for a
key only once a syscall or a watch has been added. -/
def stringFieldValue (env : RuleEnv) (g : Globals) (rule : AuditRuleData) (i : Nat)
    (room : i < auditMaxFields) (fieldid : UInt32) (fieldval : Option Json) :
    Except Go.Fault AuditRuleData :=
  if fieldid = auditFilterkey ∧ ¬ (g.auditSyscallAdded || g.auditPermAdded) then
    .error (errNoSys.wrap
      "auditRuleFieldPairData failed: Key field needs a watch or syscall given prior to it")
  else
    match fieldval with
    | some (.string val) =>
      if fieldid = auditFilterkey ∧ val.length > auditMaxKeyLen then
        .error (errMaxLen.wrap "auditRuleFieldPairData failed")
      else if val.length > pathMax then .error (errMaxLen.wrap "auditRuleFieldPairData failed")
      else
        .ok { rule with
          values := rule.values.set i (UInt32.ofNat val.length) room
          buflen := rule.buflen + UInt32.ofNat val.length
          buf := rule.buf ++ val.map Char.toUInt8 }
    | _ => .error (.error ("auditRuleFieldPairData failed: string expected, found " ++
        env.formatValue fieldval))

/-- Below the last slot there is room for the field `auditRuleFieldPairData` appends. -/
theorem fieldCount_lt_of_not_full {rule : AuditRuleData}
    (full : ¬ auditMaxFields - 1 ≤ rule.fieldCount.toNat) :
    rule.fieldCount.toNat < auditMaxFields := by
  unfold auditMaxFields at full ⊢
  omega

/-- `auditRuleFieldPairData(rule, fieldval, opval, fieldname, flags)`: append the field
`fieldname` with operator `opval` and value `fieldval` for the filter list `flags`; the package
variables it leaves, and the rule or the error. -/
def auditRuleFieldPairData (env : RuleEnv) (g : Globals) (rule : AuditRuleData)
    (fieldval : Option Json) (opval : UInt32) (fieldname : List Char) (flags : Int) :
    Globals × Except Go.Fault AuditRuleData :=
  if full : auditMaxFields - 1 ≤ rule.fieldCount.toNat then
    (g, .error (errMaxField.wrap "auditRuleFieldPairData failed"))
  else
    have room : rule.fieldCount.toNat < auditMaxFields := fieldCount_lt_of_not_full full
    let fieldid := (lookupName fieldMap fieldname).getD 0
    if fieldid = 0 then
      (g, .error (.error ("auditRuleFieldPairData failed: unknown field " ++
        String.ofList fieldname)))
    else if flags = auditFilterExclude ∧ fieldid ≠ auditMsgtype then
      (g, .error (.error
        "auditRuleFieldPairData failed: only msgtype field can be used with exclude filter"))
    else
      let i := rule.fieldCount.toNat
      let rule := { rule with
        fields := rule.fields.set i fieldid room
        fieldflags := rule.fieldflags.set i opval room }
      let stored (value : Except Go.Fault UInt32) : Except Go.Fault AuditRuleData :=
        value.map fun v => { rule with values := rule.values.set i v room }
      -- the switch; every arm that does not fail ends in `rule.FieldCount++`
      let (g, result) : Globals × Except Go.Fault AuditRuleData :=
        if fieldid ∈ uidFields then
          (g, stored (valueOf env fieldval float64ToUint32 (userValue env)))
        else if fieldid ∈ gidFields then
          (g, stored (valueOf env fieldval float64ToUint32
            (noString "auditRuleFieldPairData failed")))
        else if fieldid = auditExit then
          if flags ≠ auditFilterExit then (g, .error (exitOnlyError fieldname))
          else
            (g, stored (valueOf env fieldval float64ToUint32
              (noString "auditRuleFieldPairData failed")))
        else if fieldid = auditMsgtype then
          if flags ≠ auditFilterExclude ∧ flags ≠ auditFilterUser then
            (g, .error (.error
              "auditRuleFieldPairData: msgtype field can only be used with exclude filter list"))
          else
            (g, stored (valueOf env fieldval float64ToUint32 fun val =>
              match env.msgTypeTab val with
              | some msgType => .ok msgType.toUInt32
              | none => .error (errNoStr.wrap ("auditRuleFieldPairData failed " ++
                  String.ofList val))))
        else if fieldid ∈ objectStringFields ∨ fieldid ∈ subjectStringFields then
          -- the object arm checks the filter list and marks a watch, then falls through
          if fieldid ∈ objectStringFields ∧ flags ≠ auditFilterExit then
            (g, .error (exitOnlyError fieldname))
          else
            let g := if fieldid = auditWatch ∨ fieldid = auditDir then
              { g with auditPermAdded := true } else g
            (g, stringFieldValue env g rule i room fieldid fieldval)
        else if fieldid = auditArch then
          if ¬ g.auditSyscallAdded then
            (g, .error (errNoSys.wrap
              "auditRuleFieldPairData failed: arch should be mention before syscalls"))
          else if ¬ (opval = auditNotEqual ∨ opval = auditEqual) then
            (g, .error (.error "auditRuleFieldPairData failed: arch only takes = or != operators"))
          else
            (g, stored (valueOf env fieldval (fun _ => auditArchX8664)
              (noString "auditRuleFieldPairData failed")))
        else if fieldid = auditPerm then
          if flags ≠ auditFilterExit then (g, .error (exitOnlyError fieldname))
          else if opval ≠ auditEqual then (g, .error (equalityOnlyError fieldname))
          else
            match fieldval with
            | some (.string val) =>
              if val.length > 4 then (g, .error (errMaxLen.wrap "auditRuleFieldPairData failed"))
              else
                let lowerval := Go.toLower env.toLowerRune val
                -- the loop reads `lowerval[i]` for `i < len(val)`: past the end of a lowered
                -- text shorter than `val` it panics, once the bytes before are all letters
                match permsOf (lowerval.take val.length) with
                | .error _ => (g, .error (.error
                    "auditRuleFieldPairData failed: permission can only contain  'rwxa'"))
                | .ok permval =>
                  if lowerval.length < val.length then
                    (g, .error (.panic (.indexOutOfRange lowerval.length lowerval.length)))
                  else ({ g with auditPermAdded := true }, stored (.ok permval))
            -- a permission that is not a string is skipped without an error
            | _ => (g, .ok rule)
        else if fieldid = auditFiletype then
          match fieldval with
          | some (.string val) =>
            if ¬ flags = auditFilterExit ∧ flags = auditFilterEntry then
              (g, .error (exitEntryOnlyError fieldname))
            else
              -- `(int)(rule.Values[…]) < 0` never holds of a `uint32`
              (g, stored ((auditNameToFtype val).map UInt32.ofInt |>.mapError
                (Go.Fault.wrap "auditRuleFieldPairData failed")))
          | _ => (g, .error (.error ("auditRuleFieldPairData failed: expected string but " ++
              "filetype found " ++ env.formatValue fieldval)))
        else if fieldid ∈ argFields then
          (g, stored (valueOf env fieldval float64ToUint32
            (noString ("auditRuleFieldPairData failed: " ++ String.ofList fieldname ++
              " should be a number"))))
        else if fieldid ∈ exitOnlyFields ∧ flags ≠ auditFilterExit then
          (g, .error (exitOnlyError fieldname))
        -- the default arm
        else if fieldid = auditInode ∧ ¬ (opval = auditNotEqual ∨ opval = auditEqual) then
          (g, .error (equalityOnlyError fieldname))
        else if fieldid = auditPpid ∧ ¬ (flags = auditFilterExit ∨ flags = auditFilterEntry) then
          (g, .error (exitEntryOnlyError fieldname))
        else
          match fieldval with
          | some (.number x) => (g, stored (.ok (float64ToUint32 x)))
          | _ => (g, .error (errUnset.wrap ("auditRuleFieldPairData failed to set: " ++
              env.formatValue fieldval ++ " should be a number")))
      (g, result.map fun rule => { rule with fieldCount := rule.fieldCount + 1 })

/-! ## Watches -/

/-- `strings.TrimRight(s, "/")`. -/
def trimTrailingSlashes (s : List Char) : List Char :=
  (s.reverse.dropWhile (· = '/')).reverse

/-- `path.Base(p)`: the last element of `p`, trailing slashes removed; `.` for the empty path
and `/` for a path of slashes. -/
def pathBase (p : List Char) : List Char :=
  if p = [] then ['.']
  else
    let last := ((trimTrailingSlashes p).reverse.takeWhile (· ≠ '/')).reverse
    if last = [] then ['/'] else last

/-- `checkPath(pathName)`.  `pathName[0]` panics on the empty path. -/
def checkPath (pathName : List Char) : Except Go.Fault Unit :=
  if pathMax ≤ pathName.length then .error (errPathTooBig.wrap "checkPath failed")
  else
    match pathName with
    | [] => .error (.panic (.indexOutOfRange 0 0))
    | c :: _ =>
      if c ≠ '/' then .error (errPathStart.wrap "checkPath failed")
      else
        let base := pathBase pathName
        if base.length > nameMax then .error (errBaseTooBig.wrap "checkPath failed")
        else if ['.', '.'] <:+: base then
          .error (.error ("warning: relative path notation is not supported " ++
            String.ofList base))
        else if ['*'] <:+: base ∨ ['?'] <:+: base then
          .error (.error ("warning: wildcard notation is not supported " ++ String.ofList base))
        else .ok ()

/-- `auditAddWatchDir(typeName, rule, pathName)`: on an empty rule, a watch of `pathName` of
type `AUDIT_WATCH` or `AUDIT_DIR` on every syscall, with all four permissions. -/
def auditAddWatchDir (typeName : UInt16) (rule : AuditRuleData) (pathName : List Char) :
    Except Go.Fault AuditRuleData :=
  if rule.fieldCount ≠ 0 then .error (.error "auditAddWatchDir failed: rule is not empty")
  else if typeName ≠ auditDir.toUInt16 ∧ typeName ≠ auditWatch.toUInt16 then
    .error (.error ("auditAddWatchDir failed: invalid type " ++ toString typeName ++ " used"))
  else
    .ok { rule with
      flags := UInt32.ofInt auditFilterExit
      action := UInt32.ofInt auditAlways
      -- the first 63 words, as `audit_rule_syscallbyname_data(rule, "all")` would
      mask := Vector.ofFn fun j => if j.val < auditBitmaskSize - 1 then 0xFFFFFFFF else rule.mask.get j
      fieldCount := 2
      fields := (rule.fields.set 0 typeName.toUInt32).set 1 auditPerm
      fieldflags := (rule.fieldflags.set 0 auditEqual).set 1 auditEqual
      values := (rule.values.set 0 (UInt32.ofNat pathName.length)).set 1
        (auditPermRead ||| auditPermWrite ||| auditPermExec ||| auditPermAttr)
      buflen := UInt32.ofNat pathName.length
      buf := rule.buf ++ pathName.map Char.toUInt8 }

/-- `auditSetupAndAddWatchDir(rule, pathName, strictPath)`: check the path, trim its trailing
slashes, and watch it as a directory when `os.Stat` finds one.  A path that does not exist is
watched as a file unless `strictPath`. -/
def auditSetupAndAddWatchDir (env : RuleEnv) (rule : AuditRuleData) (pathName : List Char)
    (strictPath : Bool) : Except Go.Fault AuditRuleData :=
  match checkPath pathName with
  | .error err => .error (err.wrap "auditSetupAndAddWatchDir failed")
  | .ok () =>
    let pathName := trimTrailingSlashes pathName
    let typeName : Except Go.Fault UInt16 :=
      match env.stat pathName with
      | .notExist =>
        if strictPath then
          .error (.error ("auditSetupAndAddWatchDir failed: file at " ++ String.ofList pathName ++
            " does not exist"))
        else .ok auditWatch.toUInt16
      | .failed msg => .error ((Go.Fault.error msg).wrap "auditSetupAndAddWatchDir failed")
      | .found isDir => .ok (if isDir then auditDir.toUInt16 else auditWatch.toUInt16)
    typeName >>= fun typeName =>
      (auditAddWatchDir typeName rule pathName).mapError (Go.Fault.wrap "auditSetupAndAddWatchDir failed")

/-- `auditUpdateWatchPerms(rule, perms)`: set the permission field, or append one. -/
def auditUpdateWatchPerms (rule : AuditRuleData) (perms : UInt32) : Except Go.Fault AuditRuleData :=
  if rule.fieldCount = 0 then .error (.error "auditUpdateWatchPerms failed: empty rule")
  else if auditPerm ∈ rule.fields.toList then
    .ok { rule with
      values := Vector.zipWith (fun field value => if field = auditPerm then perms else value)
        rule.fields rule.values }
  else if full : auditMaxFields - 1 ≤ rule.fieldCount.toNat then
    .error (.error "auditUpdateWatchPerms: maximum field limit reached")
  else
    have room : rule.fieldCount.toNat < auditMaxFields := fieldCount_lt_of_not_full full
    .ok { rule with
      fields := rule.fields.set rule.fieldCount.toNat auditPerm room
      values := rule.values.set rule.fieldCount.toNat perms room
      fieldflags := rule.fieldflags.set rule.fieldCount.toNat auditEqual room
      fieldCount := rule.fieldCount + 1 }

/-- `auditSetupAndUpdatePerms(rule, perms)`: the permissions of a watch, from at most four
bytes, lowered and ranged over rune by rune; the error names the first rune that is none of
the letters `rwxa` by its number, as `%v` prints a rune. -/
def auditSetupAndUpdatePerms (env : RuleEnv) (rule : AuditRuleData) (perms : List Char) :
    Except Go.Fault AuditRuleData :=
  if perms.length > 4 then
    .error (.error ("auditSetupAndUpdatePerms failed: invalid permission string " ++
      String.ofList perms))
  else
    match permsOf (Go.Utf8.runes (Go.toLower env.toLowerRune perms)) with
    | .error val => .error (.error ("auditSetupAndUpdatePerms failed: unsupported permission " ++
        toString val.toNat))
    | .ok permValue =>
      (auditUpdateWatchPerms rule permValue).mapError (Go.Fault.wrap "auditSetupAndUpdatePerms failed")

end LibAudit
