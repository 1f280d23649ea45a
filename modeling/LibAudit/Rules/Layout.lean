import Mathlib.Algebra.Order.BigOperators.Group.List
import LibAudit.Rules.Fields

/-!
# Audit rules: the layout of a rule under construction

`auditAddWatchDir`, `auditUpdateWatchPerms`, `auditRuleSyscallData` and
`auditRuleFieldPairData` fill in an `AuditRuleData` through its pointer.  A string-typed field
keeps in `Values` only the length of its string; the strings stand one after the other in
`Buf`, in field order, and `Buflen` is their total length.  `printRule` and `keyMatch` walk
`Buf` by these lengths, and so does the kernel.

## What a call leaves behind

A call that fails has still made the writes that precede its error.  `auditAddWatchDir`,
`auditUpdateWatchPerms` and `auditRuleSyscallData` check before they write.
`auditRuleFieldPairData` writes `Fields[FieldCount]` and `Fieldflags[FieldCount]` before its
switch, whose arms may still fail (`fieldPairLeftOnError`); both slots lie past the counted
fields.  `RuleCall.apply` is the rule behind the pointer after one call, succeeding or failing.

## The invariant, and where it breaks

`AuditRuleData.WellFormed` holds of the zero rule and is kept by every call, under one
condition: the lengths added into `Buflen` must not wrap around `2 ^ 32`.  The strings that
`auditRuleFieldPairData` appends have at most `PATH_MAX` bytes each, and at most 63 fields fit,
but `auditAddWatchDir` takes a path of any length: one of `2 ^ 32` bytes leaves `Buflen = 0`.

## Main statements

* `auditRuleFieldPairData_eq_ok` — a successful call appends one field (`FieldAppended`).
* `RuleCall.run_wellFormed` — every rule built from the zero rule by calls that watch paths of
  at most `PATH_MAX` bytes is well formed.
* `RuleCall.run_watch_wraps_buflen` — the watch of a path of `2 ^ 32` bytes is not.
-/

namespace LibAudit

/-- The fields whose value is a string of `Buf`: those of the two string arms of
`auditRuleFieldPairData`, among them the watch, the directory and the key. -/
def isStringField (field : UInt32) : Bool :=
  field ∈ objectStringFields || field ∈ subjectStringFields

/-- The fields of the arms of the switch before the string arms take numbers. -/
theorem isStringField_eq_false_of_mem :
    ∀ field ∈ uidFields ++ gidFields ++ [auditExit, auditMsgtype], isStringField field = false := by
  -- checked along the list: deciding the bounded `∀` could range over every `UInt32`
  have checked : (uidFields ++ gidFields ++ [auditExit, auditMsgtype]).all
      (fun field => !isStringField field) = true := by
    decide
  intro field member
  simpa using List.all_eq_true.mp checked field member

namespace AuditRuleData

/-- `rule.Fields[i]`. -/
def fieldAt (rule : AuditRuleData) (i : Nat) : UInt32 := rule.fields.toList.getD i 0

/-- `rule.Values[i]`. -/
def valueAt (rule : AuditRuleData) (i : Nat) : UInt32 := rule.values.toList.getD i 0

theorem fieldAt_of_lt {rule : AuditRuleData} {j : Nat} (inRange : j < auditMaxFields) :
    rule.fieldAt j = rule.fields[j] := by
  simp [fieldAt, List.getD_eq_getElem?_getD, inRange]

theorem valueAt_of_lt {rule : AuditRuleData} {j : Nat} (inRange : j < auditMaxFields) :
    rule.valueAt j = rule.values[j] := by
  simp [valueAt, List.getD_eq_getElem?_getD, inRange]

/-- The values `Values[j]` of the string-typed fields `j < n`, in field order: the lengths of
their strings. -/
def stringLengths (rule : AuditRuleData) (n : Nat) : List Nat :=
  (List.range n).filterMap fun j =>
    if isStringField (rule.fieldAt j) then some (rule.valueAt j).toNat else none

/-- **The representation invariant** of a rule under construction. -/
structure WellFormed (rule : AuditRuleData) : Prop where
  /-- At most `AUDIT_MAX_FIELDS - 1` fields are counted. -/
  fieldCount_le : rule.fieldCount.toNat ≤ auditMaxFields - 1
  /-- `Buflen` is the length of `Buf`. -/
  buflen_eq : rule.buflen.toNat = rule.buf.length
  /-- `Buf` is the strings of the string-typed fields among the counted ones, in field order,
  each as long as its field's value. -/
  layout : ∃ strs : List (List UInt8),
    strs.map List.length = rule.stringLengths rule.fieldCount.toNat ∧ rule.buf = strs.flatten

/-- Every string of the rule has at most `PATH_MAX` bytes. -/
def StringsFit (rule : AuditRuleData) : Prop :=
  ∀ n ∈ rule.stringLengths rule.fieldCount.toNat, n ≤ pathMax

/-- The rule with one more field at index `FieldCount`: the field `fieldid`, its operator
`opval` and its value `value`, and the bytes `str` of its string appended to `Buf`. -/
def appendField (rule : AuditRuleData) (room : rule.fieldCount.toNat < auditMaxFields)
    (fieldid opval value : UInt32) (str : List UInt8) : AuditRuleData :=
  { rule with
    fields := rule.fields.set rule.fieldCount.toNat fieldid room
    fieldflags := rule.fieldflags.set rule.fieldCount.toNat opval room
    values := rule.values.set rule.fieldCount.toNat value room
    fieldCount := rule.fieldCount + 1
    buflen := rule.buflen + UInt32.ofNat str.length
    buf := rule.buf ++ str }

/-- `rule'` is `rule` with the field `fieldid` appended below the last slot, with a string of at
most `PATH_MAX` bytes exactly when the field takes one. -/
def FieldAppended (rule rule' : AuditRuleData) (fieldid opval : UInt32) : Prop :=
  ∃ (below : rule.fieldCount.toNat < auditMaxFields - 1) (value : UInt32) (str : List UInt8),
    rule' = rule.appendField (Nat.lt_of_lt_of_le below (Nat.sub_le _ _)) fieldid opval value str ∧
      (isStringField fieldid → value = UInt32.ofNat str.length ∧ str.length ≤ pathMax) ∧
      (isStringField fieldid = false → str = [])

/-! ## The lengths of the strings -/

theorem stringLengths_succ (rule : AuditRuleData) (n : Nat) :
    rule.stringLengths (n + 1) =
      rule.stringLengths n ++
        if isStringField (rule.fieldAt n) then [(rule.valueAt n).toNat] else [] := by
  rw [stringLengths, List.range_succ, List.filterMap_append]
  split_ifs with string <;> simp [stringLengths, string]

/-- The lengths below `n` read only the fields below `n`, and the values of the string-typed
ones. -/
theorem stringLengths_congr {rule rule' : AuditRuleData} {n : Nat}
    (agree : ∀ j < n, rule'.fieldAt j = rule.fieldAt j ∧
      (isStringField (rule.fieldAt j) → rule'.valueAt j = rule.valueAt j)) :
    rule'.stringLengths n = rule.stringLengths n := by
  unfold stringLengths
  apply List.filterMap_congr
  intro j below
  obtain ⟨sameField, sameValue⟩ := agree j (List.mem_range.mp below)
  rw [sameField]
  split_ifs with string
  · rw [sameValue string]
  · rfl

theorem length_stringLengths_le (rule : AuditRuleData) (n : Nat) :
    (rule.stringLengths n).length ≤ n :=
  (List.length_filterMap_le _ _).trans (List.length_range ▸ le_rfl)

theorem getD_set_of_ne {l : List UInt32} {i j : Nat} {x : UInt32} (ne : i ≠ j) :
    (l.set i x).getD j 0 = l.getD j 0 := by
  rw [List.getD_eq_getElem?_getD, List.getElem?_set, if_neg ne, ← List.getD_eq_getElem?_getD]

theorem getD_set_self {l : List UInt32} {i : Nat} {x : UInt32} (inRange : i < l.length) :
    (l.set i x).getD i 0 = x := by
  rw [List.getD_eq_getElem?_getD, List.getElem?_set, if_pos rfl, if_pos inRange]
  rfl

/-- Writing the slot at `i` leaves the lengths below `i` as they were. -/
theorem stringLengths_set_fields {rule : AuditRuleData} {i : Nat} {room : i < auditMaxFields}
    {fieldid opval : UInt32} :
    ({ rule with fields := rule.fields.set i fieldid room
                 fieldflags := rule.fieldflags.set i opval room } : AuditRuleData).stringLengths i =
      rule.stringLengths i := by
  apply stringLengths_congr
  intro j below
  refine ⟨?_, fun _ => rfl⟩
  simp only [fieldAt, Vector.toList_set]
  exact getD_set_of_ne (by omega)

/-- A well-formed rule's `Buf` is as long as its strings together. -/
theorem WellFormed.length_buf {rule : AuditRuleData} (wf : rule.WellFormed) :
    rule.buf.length = (rule.stringLengths rule.fieldCount.toNat).sum := by
  obtain ⟨strs, lengths, flat⟩ := wf.layout
  rw [flat, List.length_flatten, lengths]

/-- The strings of a rule whose strings fit take at most `FieldCount` times `PATH_MAX` bytes. -/
theorem length_buf_le {rule : AuditRuleData} (wf : rule.WellFormed) (fits : rule.StringsFit) :
    rule.buf.length ≤ rule.fieldCount.toNat * pathMax := by
  rw [wf.length_buf]
  calc (rule.stringLengths rule.fieldCount.toNat).sum
      ≤ (rule.stringLengths rule.fieldCount.toNat).length • pathMax :=
        List.sum_le_card_nsmul _ _ fits
    _ ≤ rule.fieldCount.toNat * pathMax :=
        Nat.mul_le_mul_right _ (length_stringLengths_le rule _)

/-- A length of at most `PATH_MAX` survives `uint32(vlen)`. -/
theorem toNat_ofNat_of_le_pathMax {n : Nat} (short : n ≤ pathMax) : (UInt32.ofNat n).toNat = n := by
  rw [UInt32.toNat_ofNat', Nat.mod_eq_of_lt]
  unfold pathMax at short
  omega

/-! ## Appending a field -/

section Append

variable {rule : AuditRuleData} {room : rule.fieldCount.toNat < auditMaxFields}
  {fieldid opval value : UInt32} {str : List UInt8}

theorem fieldCount_appendField (below : rule.fieldCount.toNat < auditMaxFields - 1) :
    (rule.appendField room fieldid opval value str).fieldCount.toNat = rule.fieldCount.toNat + 1 := by
  unfold auditMaxFields at below
  simp only [appendField, UInt32.toNat_add, UInt32.toNat_one]
  omega

/-- The slots below the new one keep their fields. -/
theorem fields_appendField_of_lt {i : Nat} (h : i < auditMaxFields)
    (lower : i < rule.fieldCount.toNat) :
    (rule.appendField room fieldid opval value str).fields[i] = rule.fields[i] := by
  simp only [appendField]
  exact Vector.getElem_set_ne room h (by omega)

/-- The slots below the new one keep their values. -/
theorem values_appendField_of_lt {i : Nat} (h : i < auditMaxFields)
    (lower : i < rule.fieldCount.toNat) :
    (rule.appendField room fieldid opval value str).values[i] = rule.values[i] := by
  simp only [appendField]
  exact Vector.getElem_set_ne room h (by omega)

theorem stringLengths_appendField :
    (rule.appendField room fieldid opval value str).stringLengths (rule.fieldCount.toNat + 1) =
      rule.stringLengths rule.fieldCount.toNat ++
        if isStringField fieldid then [value.toNat] else [] := by
  have length : rule.fieldCount.toNat < rule.fields.toList.length := by simpa using room
  have length' : rule.fieldCount.toNat < rule.values.toList.length := by simpa using room
  have before : (rule.appendField room fieldid opval value str).stringLengths rule.fieldCount.toNat =
      rule.stringLengths rule.fieldCount.toNat := by
    apply stringLengths_congr
    intro j below
    simp only [fieldAt, valueAt, appendField, Vector.toList_set]
    exact ⟨getD_set_of_ne (by omega), fun _ => getD_set_of_ne (by omega)⟩
  rw [stringLengths_succ, before]
  simp only [fieldAt, valueAt, appendField, Vector.toList_set, getD_set_self length,
    getD_set_self length']

/-- **Appending a field keeps the invariant**, when the value of a string-typed field is the
length of the string appended to `Buf` and other fields append nothing. -/
theorem appendField_wellFormed (wf : rule.WellFormed) (fits : rule.StringsFit)
    (below : rule.fieldCount.toNat < auditMaxFields - 1)
    (stringValue : isStringField fieldid → value = UInt32.ofNat str.length ∧ str.length ≤ pathMax)
    (noString : isStringField fieldid = false → str = []) :
    (rule.appendField room fieldid opval value str).WellFormed ∧
      (rule.appendField room fieldid opval value str).StringsFit := by
  have counted : (rule.appendField room fieldid opval value str).fieldCount.toNat =
      rule.fieldCount.toNat + 1 := fieldCount_appendField below
  have short : str.length ≤ pathMax := by
    cases string : isStringField fieldid
    · rw [noString string]
      exact Nat.zero_le _
    · exact (stringValue string).2
  -- at most 62 strings of at most `PATH_MAX` bytes, and one more: far below `2 ^ 32`
  have noWrap : rule.buf.length + str.length < 2 ^ 32 := by
    have := length_buf_le wf fits
    unfold auditMaxFields pathMax at *
    omega
  obtain ⟨strs, lengths, flat⟩ := wf.layout
  refine ⟨⟨by omega, ?_, ?_⟩, ?_⟩
  · simp only [appendField, UInt32.toNat_add, UInt32.toNat_ofNat', List.length_append,
      wf.buflen_eq]
    omega
  · refine ⟨strs ++ if isStringField fieldid then [str] else [], ?_, ?_⟩
    · rw [counted, stringLengths_appendField, List.map_append, lengths]
      split_ifs with string
      · rw [(stringValue string).1, toNat_ofNat_of_le_pathMax short]
        rfl
      · rfl
    · split_ifs with string
      · simp [appendField, flat]
      · simp [appendField, flat, noString (by simpa using string)]
  · intro n member
    rw [counted, stringLengths_appendField, List.mem_append] at member
    rcases member with old | new
    · exact fits n old
    · split_ifs at new with string
      · rw [List.mem_singleton.mp new, (stringValue string).1, toNat_ofNat_of_le_pathMax short]
        exact short
      · cases new

end Append

theorem FieldAppended.wellFormed {rule rule' : AuditRuleData} {fieldid opval : UInt32}
    (appended : FieldAppended rule rule' fieldid opval) (wf : rule.WellFormed)
    (fits : rule.StringsFit) : rule'.WellFormed ∧ rule'.StringsFit := by
  obtain ⟨below, value, str, rfl, stringValue, noString⟩ := appended
  exact appendField_wellFormed wf fits below stringValue noString

/-- A field that takes no string, written at `FieldCount` with whatever value, is appended. -/
theorem fieldAppended_plain {rule : AuditRuleData} (below : rule.fieldCount.toNat < auditMaxFields - 1)
    {room : rule.fieldCount.toNat < auditMaxFields} {fieldid opval value : UInt32}
    (plain : isStringField fieldid = false) :
    FieldAppended rule
      { rule with
        fields := rule.fields.set rule.fieldCount.toNat fieldid room
        fieldflags := rule.fieldflags.set rule.fieldCount.toNat opval room
        values := rule.values.set rule.fieldCount.toNat value room
        fieldCount := rule.fieldCount + 1 } fieldid opval := by
  refine ⟨below, value, [], ?_, fun string => absurd string (by simp [plain]), fun _ => rfl⟩
  simp [appendField]

end AuditRuleData

open AuditRuleData

/-! ## What each call does to the layout -/

/-- An arm that checks a condition before it stores: a success passed the check. -/
theorem ite_error_eq_ok {c : Prop} [Decidable c] {g g' : Globals} {e : Go.Fault}
    {rest : Globals × Except Go.Fault AuditRuleData} {r : AuditRuleData}
    (passed : (if c then (g, .error e) else rest) = (g', .ok r)) : ¬ c ∧ rest = (g', .ok r) := by
  by_cases checked : c
  · rw [if_pos checked] at passed
    cases passed
  · rw [if_neg checked] at passed
    exact ⟨checked, passed⟩

/-- What a successful string arm of `auditRuleFieldPairData` writes: the length at `i`, and the
string, of at most `PATH_MAX` bytes, at the end of `Buf`. -/
theorem stringFieldValue_eq_ok {env : RuleEnv} {g : Globals} {rule rule' : AuditRuleData} {i : Nat}
    {room : i < auditMaxFields} {fieldid : UInt32} {fieldval : Option Json}
    (stored : stringFieldValue env g rule i room fieldid fieldval = .ok rule') :
    ∃ val : List Char, val.length ≤ pathMax ∧
      rule' = { rule with
        values := rule.values.set i (UInt32.ofNat val.length) room
        buflen := rule.buflen + UInt32.ofNat val.length
        buf := rule.buf ++ val.map Char.toUInt8 } := by
  unfold stringFieldValue at stored
  -- the key check and the length checks fail; what is left is a string that fits
  split_ifs at stored
  split at stored
  · next val =>
    split_ifs at stored with longKey longPath
    exact ⟨val, Nat.le_of_not_gt longPath, (Except.ok.inj stored).symm⟩
  · cases stored

/-- **A successful `auditRuleFieldPairData` appends one field.**  Every arm of its switch that
does not fail stores a value at `FieldCount` (the permission arm skips the store for a value that
is not a string), and only the string arms append to `Buf`. -/
theorem auditRuleFieldPairData_eq_ok {env : RuleEnv} {g : Globals} {rule rule' : AuditRuleData}
    {fieldval : Option Json} {opval : UInt32} {fieldname : List Char} {flags : Int}
    (called : (auditRuleFieldPairData env g rule fieldval opval fieldname flags).2 = .ok rule') :
    FieldAppended rule rule' ((lookupName fieldMap fieldname).getD 0) opval := by
  unfold auditRuleFieldPairData at called
  -- the field number stays a variable: the lookup in `fieldMap` is never evaluated
  generalize (lookupName fieldMap fieldname).getD 0 = fieldid at called ⊢
  split at called
  · cases called
  next full =>
  have below : rule.fieldCount.toNat < auditMaxFields - 1 := Nat.lt_of_not_le full
  extract_lets room fieldid' i rule₁ stored g₁ at called
  by_cases unknown : fieldid = 0
  · rw [if_pos unknown] at called
    cases called
  rw [if_neg unknown] at called
  by_cases excluded : flags = auditFilterExclude ∧ fieldid ≠ auditMsgtype
  · rw [if_pos excluded] at called
    cases called
  rw [if_neg excluded] at called
  split at called
  next g' result switch =>
  obtain ⟨r, rfl, rfl⟩ := Go.map_eq_ok.mp called
  -- an arm that stores a value of a field that takes no string
  have ofStored : ∀ {x}, isStringField fieldid = false → stored x = .ok r →
      FieldAppended rule { r with fieldCount := r.fieldCount + 1 } fieldid opval := by
    intro x plain ok
    obtain ⟨v, -, rfl⟩ := Go.map_eq_ok.mp ok
    exact @fieldAppended_plain rule below room fieldid opval v plain
  have early := isStringField_eq_false_of_mem fieldid
  simp only [List.mem_append, List.mem_cons, List.not_mem_nil, or_false] at early
  by_cases uid : fieldid ∈ uidFields
  · rw [if_pos uid] at switch
    exact ofStored (early (.inl (.inl uid))) (Prod.mk.inj switch).2
  rw [if_neg uid] at switch
  by_cases gid : fieldid ∈ gidFields
  · rw [if_pos gid] at switch
    exact ofStored (early (.inl (.inr gid))) (Prod.mk.inj switch).2
  rw [if_neg gid] at switch
  by_cases exit : fieldid = auditExit
  · rw [if_pos exit] at switch
    obtain ⟨-, switch⟩ := ite_error_eq_ok switch
    exact ofStored (early (.inr (.inl exit))) (Prod.mk.inj switch).2
  rw [if_neg exit] at switch
  by_cases msgtype : fieldid = auditMsgtype
  · rw [if_pos msgtype] at switch
    obtain ⟨-, switch⟩ := ite_error_eq_ok switch
    exact ofStored (early (.inr (.inr msgtype))) (Prod.mk.inj switch).2
  rw [if_neg msgtype] at switch
  by_cases string : fieldid ∈ objectStringFields ∨ fieldid ∈ subjectStringFields
  · -- the string arms
    rw [if_pos string] at switch
    obtain ⟨-, switch⟩ := ite_error_eq_ok switch
    obtain ⟨val, short, rfl⟩ := stringFieldValue_eq_ok (Prod.mk.inj switch).2
    have length : (val.map Char.toUInt8).length = val.length := List.length_map _
    have stringField : isStringField fieldid = true := by simpa [isStringField] using string
    refine ⟨below, UInt32.ofNat val.length, val.map Char.toUInt8, ?_, ?_, ?_⟩
    · simp only [appendField, length]
      rfl
    · intro _
      rw [length]
      exact ⟨rfl, short⟩
    · intro plain
      rw [stringField] at plain
      cases plain
  have plain : isStringField fieldid = false := by simpa [isStringField] using string
  rw [if_neg string] at switch
  by_cases arch : fieldid = auditArch
  · rw [if_pos arch] at switch
    obtain ⟨-, switch⟩ := ite_error_eq_ok switch
    obtain ⟨-, switch⟩ := ite_error_eq_ok switch
    exact ofStored plain (Prod.mk.inj switch).2
  rw [if_neg arch] at switch
  by_cases perm : fieldid = auditPerm
  · rw [if_pos perm] at switch
    obtain ⟨-, switch⟩ := ite_error_eq_ok switch
    obtain ⟨-, switch⟩ := ite_error_eq_ok switch
    split at switch
    · obtain ⟨-, switch⟩ := ite_error_eq_ok switch
      dsimp only at switch
      split at switch
      · cases switch
      · obtain ⟨-, switch⟩ := ite_error_eq_ok switch
        exact ofStored plain (Prod.mk.inj switch).2
    · -- a permission that is not a string: no value is stored
      obtain rfl := Except.ok.inj (Prod.mk.inj switch).2
      have unchanged := @Vector.set_getElem_self UInt32 auditMaxFields rule.fieldCount.toNat
        rule.values room
      have appended := @fieldAppended_plain rule below room fieldid opval
        rule.values[rule.fieldCount.toNat] plain
      rw [unchanged] at appended
      exact appended
  rw [if_neg perm] at switch
  by_cases filetype : fieldid = auditFiletype
  · rw [if_pos filetype] at switch
    split at switch
    · obtain ⟨-, switch⟩ := ite_error_eq_ok switch
      exact ofStored plain (Prod.mk.inj switch).2
    · cases switch
  rw [if_neg filetype] at switch
  by_cases arg : fieldid ∈ argFields
  · rw [if_pos arg] at switch
    exact ofStored plain (Prod.mk.inj switch).2
  rw [if_neg arg] at switch
  -- the default arm, after the checks of the exit filter, the inode and the parent pid
  obtain ⟨-, switch⟩ := ite_error_eq_ok switch
  obtain ⟨-, switch⟩ := ite_error_eq_ok switch
  obtain ⟨-, switch⟩ := ite_error_eq_ok switch
  split at switch
  · exact ofStored plain (Prod.mk.inj switch).2
  · cases switch

/-- What a string value of a string arm writes: its length at `i`, and its bytes at the end
of `Buf`, the length checked against `AUDIT_MAX_KEY_LEN` for a key. -/
theorem stringFieldValue_string {env : RuleEnv} {g : Globals} {rule rule' : AuditRuleData}
    {i : Nat} {room : i < auditMaxFields} {fieldid : UInt32} {val : List Char}
    (stored : stringFieldValue env g rule i room fieldid (some (.string val)) = .ok rule') :
    (fieldid = auditFilterkey → val.length ≤ auditMaxKeyLen) ∧ val.length ≤ pathMax ∧
      rule' = { rule with
        values := rule.values.set i (UInt32.ofNat val.length) room
        buflen := rule.buflen + UInt32.ofNat val.length
        buf := rule.buf ++ val.map Char.toUInt8 } := by
  unfold stringFieldValue at stored
  split_ifs at stored
  dsimp only at stored
  split_ifs at stored with longKey longPath
  cases stored
  exact ⟨fun key => Nat.le_of_not_gt fun long => longKey ⟨key, long⟩,
    Nat.le_of_not_gt longPath, rfl⟩

/-- **The key field.**  A successful `auditRuleFieldPairData` of the field `key` with a string
value appends `AUDIT_FILTERKEY` with the string's length, and the string to `Buf`. -/
theorem auditRuleFieldPairData_key {env : RuleEnv} {g : Globals} {rule rule' : AuditRuleData}
    {val : List Char} {opval : UInt32} {flags : Int}
    (called : (auditRuleFieldPairData env g rule (some (.string val)) opval "key".toList
      flags).2 = .ok rule') :
    ∃ below : rule.fieldCount.toNat < auditMaxFields - 1,
      rule' = rule.appendField (Nat.lt_of_lt_of_le below (Nat.sub_le _ _)) auditFilterkey opval
        (UInt32.ofNat val.length) (val.map Char.toUInt8) ∧ val.length ≤ auditMaxKeyLen := by
  have keyField : (lookupName fieldMap "key".toList).getD 0 = auditFilterkey := by decide
  unfold auditRuleFieldPairData at called
  generalize named : (lookupName fieldMap "key".toList).getD 0 = fieldid at called
  rw [keyField] at named
  subst named
  split at called
  · cases called
  next full =>
  have below : rule.fieldCount.toNat < auditMaxFields - 1 := Nat.lt_of_not_le full
  rw [if_neg (by decide : ¬ auditFilterkey = 0)] at called
  by_cases excluded : flags = auditFilterExclude ∧ auditFilterkey ≠ auditMsgtype
  · rw [if_pos excluded] at called
    cases called
  rw [if_neg excluded] at called
  extract_lets i rule₁ stored at called
  split at called
  next g' result switch =>
  obtain ⟨r, rfl, rfl⟩ := Go.map_eq_ok.mp called
  -- the key takes the subject string arm of the switch
  have string : auditFilterkey ∈ objectStringFields ∨ auditFilterkey ∈ subjectStringFields := by
    decide
  rw [if_neg (by decide : auditFilterkey ∉ uidFields),
    if_neg (by decide : auditFilterkey ∉ gidFields),
    if_neg (by decide : ¬ auditFilterkey = auditExit),
    if_neg (by decide : ¬ auditFilterkey = auditMsgtype), if_pos string] at switch
  obtain ⟨-, switch⟩ := ite_error_eq_ok switch
  obtain ⟨keyFits, -, rfl⟩ := stringFieldValue_string (Prod.mk.inj switch).2
  refine ⟨below, ?_, keyFits rfl⟩
  simp only [appendField, List.length_map]
  rfl

/-! ## The other calls -/

/-- `auditRuleSyscallData` writes only the mask. -/
theorem auditRuleSyscallData_wellFormed {rule rule' : AuditRuleData} {scall : Int}
    (called : auditRuleSyscallData rule scall = .ok rule') (wf : rule.WellFormed)
    (fits : rule.StringsFit) : rule'.WellFormed ∧ rule'.StringsFit := by
  unfold auditRuleSyscallData at called
  split at called
  · cases called
  · cases called
    exact ⟨⟨wf.fieldCount_le, wf.buflen_eq, wf.layout⟩, fits⟩

/-- A rule without fields has an empty `Buf`: the fact that lets `auditAddWatchDir` set
`Buflen` to the length of its path instead of adding it. -/
theorem AuditRuleData.WellFormed.buf_eq_nil {rule : AuditRuleData} (wf : rule.WellFormed)
    (empty : rule.fieldCount = 0) : rule.buf = [] := by
  obtain ⟨strs, lengths, flat⟩ := wf.layout
  rw [empty] at lengths
  rw [flat, List.map_eq_nil_iff.mp lengths, List.flatten_nil]

/-- **A watch keeps the invariant** when its path has at most `PATH_MAX` bytes: its two fields
are the path, a string, and the permissions. -/
theorem auditAddWatchDir_wellFormed {typeName : UInt16} {rule rule' : AuditRuleData}
    {pathName : List Char} (called : auditAddWatchDir typeName rule pathName = .ok rule')
    (short : pathName.length ≤ pathMax) (wf : rule.WellFormed) :
    rule'.WellFormed ∧ rule'.StringsFit := by
  unfold auditAddWatchDir at called
  split_ifs at called with nonEmpty badType
  cases called
  have empty := wf.buf_eq_nil (not_not.mp nonEmpty)
  have watched : isStringField typeName.toUInt32 = true := by
    rcases not_and_or.mp badType with dir | watch
    · rw [not_not.mp dir]
      decide
    · rw [not_not.mp watch]
      decide
  have length : pathName.length < 4294967296 := by
    unfold pathMax at short
    omega
  have plainPerm : isStringField auditPerm = false := by decide
  -- the path is field 0 and the permissions field 1
  have lengths : stringLengths { rule with
      fields := (rule.fields.set 0 typeName.toUInt32).set 1 auditPerm
      values := (rule.values.set 0 (UInt32.ofNat pathName.length)).set 1
        (auditPermRead ||| auditPermWrite ||| auditPermExec ||| auditPermAttr) } 2 =
      [pathName.length] := by
    rw [stringLengths_succ, stringLengths_succ, fieldAt_of_lt (by decide), fieldAt_of_lt (by decide),
      valueAt_of_lt (by decide)]
    simp [watched, plainPerm, stringLengths, UInt32.toNat_ofNat', Nat.mod_eq_of_lt length]
  refine ⟨⟨?_, ?_, [pathName.map Char.toUInt8], ?_, ?_⟩, ?_⟩
  · exact (by decide : (2 : UInt32).toNat ≤ auditMaxFields - 1)
  · simp [empty, UInt32.toNat_ofNat', Nat.mod_eq_of_lt length]
  · rw [List.map_singleton, List.length_map]
    exact lengths.symm
  · simp [empty]
  · intro n member
    have listed : n ∈ [pathName.length] := lengths ▸ member
    rw [List.mem_singleton.mp listed]
    exact short

/-- **Permissions keep the invariant**: they change the values of permission fields, which take
no string, or append one. -/
theorem auditUpdateWatchPerms_wellFormed {rule rule' : AuditRuleData} {perms : UInt32}
    (called : auditUpdateWatchPerms rule perms = .ok rule') (wf : rule.WellFormed)
    (fits : rule.StringsFit) : rule'.WellFormed ∧ rule'.StringsFit := by
  unfold auditUpdateWatchPerms at called
  split_ifs at called with empty present full
  · cases called
    have same : stringLengths { rule with
        values := Vector.zipWith (fun field value => if field = auditPerm then perms else value)
          rule.fields rule.values } rule.fieldCount.toNat = rule.stringLengths rule.fieldCount.toNat := by
      apply stringLengths_congr
      intro j below
      refine ⟨rfl, fun string => ?_⟩
      have notPerm : rule.fieldAt j ≠ auditPerm := by
        intro perm
        rw [perm] at string
        exact absurd string (by decide)
      have inRange : j < auditMaxFields := by
        have := wf.fieldCount_le
        unfold auditMaxFields at *
        omega
      rw [fieldAt_of_lt inRange] at notPerm
      rw [valueAt_of_lt inRange, valueAt_of_lt inRange, Vector.getElem_zipWith, if_neg notPerm]
    exact ⟨⟨wf.fieldCount_le, wf.buflen_eq, same ▸ wf.layout⟩, fun n member => fits n (same ▸ member)⟩
  · cases called
    exact (fieldAppended_plain (Nat.lt_of_not_le full) (by decide)).wellFormed wf fits

/-! ## Runs of calls, succeeding or failing -/

/-- The rule `auditRuleFieldPairData` leaves behind when it fails.  Past the checks of the field
count, the field name and the exclude filter it writes `Fields[FieldCount]` and
`Fieldflags[FieldCount]`; no arm of its switch writes anything before it returns an error. -/
def fieldPairLeftOnError (rule : AuditRuleData) (opval : UInt32) (fieldname : List Char)
    (flags : Int) : AuditRuleData :=
  if full : auditMaxFields - 1 ≤ rule.fieldCount.toNat then rule
  else
    have room : rule.fieldCount.toNat < auditMaxFields := fieldCount_lt_of_not_full full
    let fieldid := (lookupName fieldMap fieldname).getD 0
    if fieldid = 0 ∨ (flags = auditFilterExclude ∧ fieldid ≠ auditMsgtype) then rule
    else
      { rule with
        fields := rule.fields.set rule.fieldCount.toNat fieldid room
        fieldflags := rule.fieldflags.set rule.fieldCount.toNat opval room }

/-- The writes of a failed `auditRuleFieldPairData` lie past the counted fields. -/
theorem fieldPairLeftOnError_wellFormed {rule : AuditRuleData} {opval : UInt32}
    {fieldname : List Char} {flags : Int} (wf : rule.WellFormed) (fits : rule.StringsFit) :
    (fieldPairLeftOnError rule opval fieldname flags).WellFormed ∧
      (fieldPairLeftOnError rule opval fieldname flags).StringsFit := by
  unfold fieldPairLeftOnError
  generalize (lookupName fieldMap fieldname).getD 0 = fieldid
  split_ifs with full
  · exact ⟨wf, fits⟩
  extract_lets room fieldid'
  split_ifs
  · exact ⟨wf, fits⟩
  · have same := @stringLengths_set_fields rule rule.fieldCount.toNat room fieldid' opval
    exact ⟨⟨wf.fieldCount_le, wf.buflen_eq, same ▸ wf.layout⟩,
      fun n member => fits n (same ▸ member)⟩

/-- A call that fills in the rule behind its pointer, with its other arguments. -/
inductive RuleCall where
  | addWatchDir (typeName : UInt16) (pathName : List Char)
  | updateWatchPerms (perms : UInt32)
  | syscallData (scall : Int)
  | fieldPairData (env : RuleEnv) (g : Globals) (fieldval : Option Json) (opval : UInt32)
      (fieldname : List Char) (flags : Int)

namespace RuleCall

/-- The rule behind the pointer once a call has returned `result`: the rule it returns, or
`left` when it fails. -/
def ruleAfter (result : Except Go.Fault AuditRuleData) (left : AuditRuleData) : AuditRuleData :=
  match result with
  | .ok rule => rule
  | .error _ => left

/-- The rule behind the pointer after the call. -/
def apply : RuleCall → AuditRuleData → AuditRuleData
  | .addWatchDir typeName pathName, rule => ruleAfter (auditAddWatchDir typeName rule pathName) rule
  | .updateWatchPerms perms, rule => ruleAfter (auditUpdateWatchPerms rule perms) rule
  | .syscallData scall, rule => ruleAfter (auditRuleSyscallData rule scall) rule
  | .fieldPairData env g fieldval opval fieldname flags, rule =>
    ruleAfter (auditRuleFieldPairData env g rule fieldval opval fieldname flags).2
      (fieldPairLeftOnError rule opval fieldname flags)

/-- The rule after the calls, in order. -/
def run (calls : List RuleCall) (rule : AuditRuleData) : AuditRuleData :=
  calls.foldl (fun rule call => call.apply rule) rule

/-- A watch is of a path of at most `PATH_MAX` bytes, as `checkPath` ensures before
`auditSetupAndAddWatchDir` calls `auditAddWatchDir`. -/
def PathFits : RuleCall → Prop
  | .addWatchDir _ pathName => pathName.length ≤ pathMax
  | _ => True

instance : DecidablePred PathFits
  | .addWatchDir _ pathName => inferInstanceAs (Decidable (pathName.length ≤ pathMax))
  | .updateWatchPerms _ => inferInstanceAs (Decidable True)
  | .syscallData _ => inferInstanceAs (Decidable True)
  | .fieldPairData .. => inferInstanceAs (Decidable True)

/-- A failed call leaves a rule with the invariant when `left` has it. -/
theorem ruleAfter_wellFormed {result : Except Go.Fault AuditRuleData} {left : AuditRuleData}
    (succeeded : ∀ rule, result = .ok rule → rule.WellFormed ∧ rule.StringsFit)
    (failed : left.WellFormed ∧ left.StringsFit) :
    (ruleAfter result left).WellFormed ∧ (ruleAfter result left).StringsFit := by
  cases result with
  | ok rule => exact succeeded rule rfl
  | error _ => exact failed

/-- **The step lemma**: every call keeps the invariant, whether it succeeds or fails. -/
theorem apply_wellFormed {call : RuleCall} {rule : AuditRuleData} (fitsPath : call.PathFits)
    (wf : rule.WellFormed) (fits : rule.StringsFit) :
    (call.apply rule).WellFormed ∧ (call.apply rule).StringsFit := by
  cases call with
  | addWatchDir typeName pathName =>
    exact ruleAfter_wellFormed (fun _ called => auditAddWatchDir_wellFormed called fitsPath wf)
      ⟨wf, fits⟩
  | updateWatchPerms perms =>
    exact ruleAfter_wellFormed (fun _ called => auditUpdateWatchPerms_wellFormed called wf fits)
      ⟨wf, fits⟩
  | syscallData scall =>
    exact ruleAfter_wellFormed (fun _ called => auditRuleSyscallData_wellFormed called wf fits)
      ⟨wf, fits⟩
  | fieldPairData env g fieldval opval fieldname flags =>
    exact ruleAfter_wellFormed
      (fun _ called => (auditRuleFieldPairData_eq_ok called).wellFormed wf fits)
      (fieldPairLeftOnError_wellFormed wf fits)

/-- **The run lemma.** -/
theorem run_wellFormed_of {calls : List RuleCall} (fitsPaths : ∀ call ∈ calls, call.PathFits) :
    ∀ {rule : AuditRuleData}, rule.WellFormed → rule.StringsFit →
      (run calls rule).WellFormed ∧ (run calls rule).StringsFit := by
  induction calls with
  | nil => exact fun wf fits => ⟨wf, fits⟩
  | cons call calls ih =>
    intro rule wf fits
    have stepped := apply_wellFormed (fitsPaths call List.mem_cons_self) wf fits
    exact ih (fun call' member => fitsPaths call' (List.mem_cons_of_mem _ member)) stepped.1 stepped.2

end RuleCall

/-- The zero rule has the invariant: no fields, no strings. -/
theorem wellFormed_empty : AuditRuleData.empty.WellFormed ∧ AuditRuleData.empty.StringsFit :=
  ⟨⟨by decide, rfl, [], rfl, rfl⟩, fun _ member => by cases member⟩

/-- **The representation invariant of rules under construction**: every rule reachable from the
zero rule by `auditAddWatchDir`, `auditUpdateWatchPerms`, `auditRuleSyscallData` and
`auditRuleFieldPairData` calls, each succeeding or failing, has at most 63 fields, `Buflen`
equal to the length of `Buf`, and `Buf` made of the strings of its string-typed fields in field
order, each as long as its field's value says, provided the watched paths have at most
`PATH_MAX` bytes. -/
theorem RuleCall.run_wellFormed (calls : List RuleCall) (fitsPaths : ∀ call ∈ calls, call.PathFits) :
    (RuleCall.run calls AuditRuleData.empty).WellFormed :=
  (RuleCall.run_wellFormed_of fitsPaths wellFormed_empty.1 wellFormed_empty.2).1

/-- A watch of `/etc/passwd` with read permission and the key `lw_passwd`. -/
theorem RuleCall.run_wellFormed_watch_perms_key :
    (∀ call ∈ [.addWatchDir auditWatch.toUInt16 "/etc/passwd".toList, .updateWatchPerms auditPermRead,
        .fieldPairData ⟨fun _ => -1, fun _ => none, fun _ => .error "", fun _ => .notExist, fun _ => "",
          Char.toLower⟩
          ⟨true, true⟩ (some (.string "lw_passwd".toList)) auditEqual "key".toList auditFilterExit],
        RuleCall.PathFits call) ∧
      (RuleCall.run [.addWatchDir auditWatch.toUInt16 "/etc/passwd".toList,
        .updateWatchPerms auditPermRead,
        .fieldPairData ⟨fun _ => -1, fun _ => none, fun _ => .error "", fun _ => .notExist, fun _ => "",
          Char.toLower⟩
          ⟨true, true⟩ (some (.string "lw_passwd".toList)) auditEqual "key".toList auditFilterExit]
        AuditRuleData.empty).WellFormed :=
  ⟨by decide, RuleCall.run_wellFormed _ (by decide)⟩

/-- What a watch writes into `Buflen` and `Buf`. -/
theorem auditAddWatchDir_buf {typeName : UInt16} {rule rule' : AuditRuleData} {pathName : List Char}
    (called : auditAddWatchDir typeName rule pathName = .ok rule') :
    rule'.buflen = UInt32.ofNat pathName.length ∧ rule'.buf = rule.buf ++ pathName.map Char.toUInt8 := by
  unfold auditAddWatchDir at called
  split_ifs at called
  cases called
  exact ⟨rfl, rfl⟩

/-- **`Buflen` wraps around.**  `auditAddWatchDir` stores `uint32(len(pathName))` in `Buflen` and
`Values[0]`: after the watch of a path of `2 ^ 32` bytes, `Buflen` is 0 while `Buf` holds the
path. -/
theorem RuleCall.run_watch_wraps_buflen :
    ¬ (RuleCall.run [.addWatchDir auditWatch.toUInt16 (List.replicate (2 ^ 32) '/')]
        AuditRuleData.empty).WellFormed := by
  intro wf
  have valid : ¬ (AuditRuleData.empty.fieldCount ≠ 0) ∧
      ¬ (auditWatch.toUInt16 ≠ auditDir.toUInt16 ∧ auditWatch.toUInt16 ≠ auditWatch.toUInt16) :=
    ⟨by decide, by decide⟩
  obtain ⟨rule', called⟩ : ∃ rule', auditAddWatchDir auditWatch.toUInt16 AuditRuleData.empty
      (List.replicate (2 ^ 32) '/') = .ok rule' := by
    rw [auditAddWatchDir, if_neg valid.1, if_neg valid.2]
    exact ⟨_, rfl⟩
  have ran : RuleCall.run [.addWatchDir auditWatch.toUInt16 (List.replicate (2 ^ 32) '/')]
      AuditRuleData.empty = rule' := by
    rw [RuleCall.run, List.foldl_cons, List.foldl_nil, RuleCall.apply, called]
    rfl
  obtain ⟨buflen, buf⟩ := auditAddWatchDir_buf called
  have wraps := wf.buflen_eq
  rw [ran, buflen, buf, UInt32.toNat_ofNat', List.length_replicate, List.length_append,
    List.length_map, List.length_replicate] at wraps
  exact absurd wraps (by decide)

end LibAudit
