import LibAudit.Rules.Mask

/-!
# Syscall rules with numeric fields, compiled and printed

A field of a syscall rule given as a number, `{"name": n, "op": op, "value": x}`, is stored by
`auditRuleFieldPairData` as three words at the next slot: the number `headers.FieldMap` gives
`n` in `Fields`, the operator `op` names in `Fieldflags`, and `uint32(x)` in `Values`.
`printRule` reads the slots back and prints such a field as ` -F name<op>value`.

## Main definitions

* `AuditRuleData.HoldsFields` — the fields of a rule, as `printRule` reads them.
* `decimalFields` — the fields both sides keep as given numbers: users, groups and the plain
  numbers of the default arm.
* `DecimalField` — a field of a rules document given as a number, and the text it prints as.

## Main statements

* `printRule_decimal` — a rule whose fields are numeric prints the header, then each field.
* `fieldsLoop_decimal` — the loop over a rule's numeric fields appends each, in order.
* `syscallRuleData_printRule_fields` — a syscall rule `SetRules` compiles prints its numeric
  fields back in the order of the document.

## Design notes

`pid` is not among the fields: its number `AUDIT_PID` is 0, which `auditRuleFieldPairData`
takes for an unknown name.  `auid` and `loginuid` are one field, printed `auid`.
-/

namespace LibAudit

/-! ## The fields of a rule -/

/-- `rule` holds the fields `entries` in its first slots: for each, its number, its value and its
operator flags, as `printRule` reads them with `fieldEntry`. -/
structure AuditRuleData.HoldsFields (rule : AuditRuleData)
    (entries : List (UInt32 × UInt32 × UInt32)) : Prop where
  count : rule.fieldCount.toNat = entries.length
  entry : ∀ i (h : i < entries.length), fieldEntry rule i = .ok entries[i]

namespace AuditRuleData.HoldsFields

variable {rule : AuditRuleData} {entries : List (UInt32 × UInt32 × UInt32)}

/-- A rule without fields. -/
theorem nil (count : rule.fieldCount = 0) : rule.HoldsFields [] :=
  ⟨by rw [count]; rfl, fun _ h => absurd h (Nat.not_lt_zero _)⟩

/-- `fieldEntry` reads the slots only: the filter list and the action do not matter. -/
theorem with_flags (holds : rule.HoldsFields entries) (flags action : UInt32) :
    ({ rule with flags := flags, action := action } : AuditRuleData).HoldsFields entries :=
  ⟨holds.count, holds.entry⟩

/-- The next slot, once written, holds one field more. -/
theorem append (holds : rule.HoldsFields entries)
    (below : rule.fieldCount.toNat < auditMaxFields - 1) (fieldid opval value : UInt32) :
    ({ rule with
      fields := rule.fields.set rule.fieldCount.toNat fieldid (by omega)
      fieldflags := rule.fieldflags.set rule.fieldCount.toNat opval (by omega)
      values := rule.values.set rule.fieldCount.toNat value (by omega)
      fieldCount := rule.fieldCount + 1 } : AuditRuleData).HoldsFields
      (entries ++ [(fieldid, value, opval)]) := by
  have room : rule.fieldCount.toNat < auditMaxFields := by omega
  constructor
  · have grown : (rule.fieldCount + 1).toNat = rule.fieldCount.toNat + 1 := by
      unfold auditMaxFields at below
      rw [UInt32.toNat_add, UInt32.toNat_one]
      omega
    rw [grown, holds.count, List.length_append, List.length_singleton]
  · intro i bound
    rw [List.length_append, List.length_singleton] at bound
    have fits : i < auditMaxFields := by
      have := holds.count
      omega
    rw [List.getElem_append]
    split
    · -- a slot below the new one keeps its field
      next lower =>
      have kept := holds.entry i lower
      have other : rule.fieldCount.toNat ≠ i := by
        have := holds.count
        omega
      rw [fieldEntry, dif_pos fits] at kept ⊢
      simp only [Vector.getElem_set_ne room fits other]
      exact kept
    · -- the new slot
      next upper =>
      have new : i = rule.fieldCount.toNat := by
        have := holds.count
        omega
      subst new
      rw [fieldEntry, dif_pos fits]
      simp only [Vector.getElem_set_self, List.getElem_singleton]

end AuditRuleData.HoldsFields

/-! ## The fields printed as numbers -/

/-- The fields that `auditRuleFieldPairData` stores as the number given and `printRule` prints
in decimal: the user and group fields, and the plain numbers of the default arm. -/
def decimalFields : List UInt32 :=
  uidFields ++ gidFields ++
    [auditPers, auditPpid, auditDevmajor, auditDevminor, auditInode, auditExit, auditSuccess]

/-- How `printRule` lists a field it prints as a number: ` -F`, the name, the operator and the
value in decimal. -/
def decimalText (entry : UInt32 × UInt32 × UInt32) : List Char :=
  " -F ".toList ++ fieldToName entry.1 ++ operatorToSymbol (entry.2.2 &&& auditOperators) ++
    decimal entry.2.1.toNat

/-- What the branches of `printField` test of a field of `decimalFields`: it carries no operator
bits, has a name, and is none of the fields printed otherwise. -/
theorem decimalFields_print {f : UInt32} (member : f ∈ decimalFields) :
    f &&& ~~~auditOperators = f ∧ f ≠ auditArch ∧ fieldToName f ≠ [] ∧ f ≠ auditMsgtype ∧
      ¬ ((auditSubjUser ≤ f ∧ f ≤ auditObjLevHigh) ∧ f ≠ auditPpid) ∧ f ≠ auditWatch ∧
      f ≠ auditDir ∧ f ≠ auditExe ∧ f ≠ auditFilterkey ∧ f ≠ auditPerm ∧
      f ≠ auditFieldCompare ∧ ¬ (auditArg0 ≤ f ∧ f ≤ auditArg3) := by
  -- checked along the list, as the bounded `∀` would range over every `UInt32`
  have checked : decimalFields.all (fun f => decide (f &&& ~~~auditOperators = f ∧
      f ≠ auditArch ∧ fieldToName f ≠ [] ∧ f ≠ auditMsgtype ∧
      ¬ ((auditSubjUser ≤ f ∧ f ≤ auditObjLevHigh) ∧ f ≠ auditPpid) ∧ f ≠ auditWatch ∧
      f ≠ auditDir ∧ f ≠ auditExe ∧ f ≠ auditFilterkey ∧ f ≠ auditPerm ∧
      f ≠ auditFieldCompare ∧ ¬ (auditArg0 ≤ f ∧ f ≤ auditArg3))) = true := by
    decide
  exact of_decide_eq_true (List.all_eq_true.mp checked f member)

section Printing

variable {interp : Interpreters} {rule : AuditRuleData}

/-- One field printed as a number. -/
theorem printField_decimal {watch : Bool} {count sys i : Nat} {s : PrintState}
    {entry : UInt32 × UInt32 × UInt32} (read : fieldEntry rule i = .ok entry)
    (member : entry.1 ∈ decimalFields) :
    printField interp rule watch count sys s i =
      .ok { s with result := s.result ++ decimalText entry } := by
  obtain ⟨f, value, flag⟩ := entry
  obtain ⟨masked, notArch, named, notMsgtype, notLabel, notWatch, notDir, notExe, notKey,
    notPerm, notCompare, notArg⟩ := decimalFields_print member
  unfold printField
  rw [read]
  simp only [bind, Except.bind, pure, Except.pure, masked, if_neg notArch, if_neg named,
    if_neg notMsgtype, if_neg notLabel, if_neg notWatch, if_neg notDir, if_neg notExe,
    if_neg notKey, if_neg notPerm, if_neg notCompare, if_neg notArg]
  -- `AUDIT_INODE`, `AUDIT_EXIT` and the default branch print the same text
  split_ifs <;> rfl

/-- **The loop of `printRule` over numeric fields** prints each, in order. -/
theorem foldlM_printField_decimal {entries : List (UInt32 × UInt32 × UInt32)}
    (holds : rule.HoldsFields entries) (decimals : ∀ entry ∈ entries, entry.1 ∈ decimalFields)
    (watch : Bool) (count sys : Nat) (result : List Char) :
    ∀ n ≤ entries.length, (List.range n).foldlM (printField interp rule watch count sys)
      ⟨result, 0⟩ = .ok ⟨result ++ ((entries.take n).map decimalText).flatten, 0⟩
  | 0, _ => by
    rw [List.take_zero, List.map_nil, List.flatten_nil, List.append_nil]
    rfl
  | n + 1, bound => by
    -- the fields below `n`, then field `n`
    have field := holds.entry n bound
    rw [List.range_succ, List.foldlM_append, foldlM_printField_decimal holds decimals watch count
      sys result n (Nat.le_of_succ_le bound), Go.ok_bind]
    simp only [List.foldlM_cons, List.foldlM_nil, bind_pure]
    rw [printField_decimal field (decimals _ (List.getElem_mem bound)),
      List.take_succ_eq_append_getElem bound, List.map_append, List.flatten_append,
      List.map_singleton, List.flatten_singleton]
    simp only [List.append_assoc]

/-- A rule whose fields are all numeric is no watch: it has no permission field. -/
theorem isWatch_decimal {entries : List (UInt32 × UInt32 × UInt32)}
    (holds : rule.HoldsFields entries) (decimals : ∀ entry ∈ entries, entry.1 ∈ decimalFields) :
    isWatch rule = .ok false := by
  unfold isWatch
  rw [holds.count]
  cases entries with
  | nil => rfl
  | cons entry rest =>
    -- the first field is none of the fields of a watch
    obtain ⟨masked, -, -, -, -, notWatch, notDir, -, notKey, notPerm, -⟩ :=
      decimalFields_print (decimals entry List.mem_cons_self)
    have first := holds.entry 0 (Nat.succ_pos _)
    rw [List.length_cons, List.range_succ_eq_map]
    simp only [watchFields, first, List.getElem_cons_zero, bind, Except.bind, masked]
    rw [if_pos ⟨notPerm, notKey, notDir, notWatch⟩]

/-- The header of a rule without an arch field has no arch part. -/
theorem archText_decimal {entries : List (UInt32 × UInt32 × UInt32)}
    (holds : rule.HoldsFields entries) (decimals : ∀ entry ∈ entries, entry.1 ∈ decimalFields) :
    ∀ is : List Nat, (∀ i ∈ is, i < entries.length) → archText interp rule is = .ok []
  | [], _ => rfl
  | i :: is, below => by
    have bound := below i List.mem_cons_self
    obtain ⟨masked, notArch, -⟩ := decimalFields_print (decimals _ (List.getElem_mem bound))
    rw [archText, holds.entry i bound]
    simp only [bind, Except.bind, masked, if_neg notArch]
    exact archText_decimal holds decimals is fun j member => below j (List.mem_cons_of_mem i member)

/-- **A rule whose fields are all numeric** prints its header, then each field in the order of
its slots. -/
theorem printRule_decimal {entries : List (UInt32 × UInt32 × UInt32)}
    (holds : rule.HoldsFields entries) (decimals : ∀ entry ∈ entries, entry.1 ∈ decimalFields) :
    let syscalls := printSyscallRule interp.reverseSysMapX64 rule
    printRule interp rule = .ok ("-a ".toList ++ actionToName rule.action ++
      ',' :: flagToName rule.flags ++ (if syscalls.2.2.2 then syscalls.1 else []) ++
      (entries.map decimalText).flatten) := by
  intro syscalls
  have arch : archText interp rule (List.range rule.fieldCount.toNat) = .ok [] :=
    archText_decimal holds decimals _ fun i member => holds.count ▸ List.mem_range.mp member
  unfold printRule
  rw [isWatch_decimal holds decimals]
  simp only [bind, Except.bind, arch, pure, Except.pure, Bool.false_eq_true, if_false]
  rw [holds.count, foldlM_printField_decimal holds decimals _ _ _ _ _ le_rfl, List.take_length]
  simp [syscalls, List.append_assoc]

end Printing

/-! ## Compiling numeric fields -/

/-- What the arms of `auditRuleFieldPairData` test of a field of `decimalFields`: it is known,
and none of the fields that take a string, a message type, the arch, permissions, a file type
or a syscall argument. -/
theorem decimalFields_compile {f : UInt32} (member : f ∈ decimalFields) :
    f ≠ 0 ∧ f ≠ auditMsgtype ∧ ¬ (f ∈ objectStringFields ∨ f ∈ subjectStringFields) ∧
      f ≠ auditArch ∧ f ≠ auditPerm ∧ f ≠ auditFiletype ∧ f ∉ argFields := by
  have checked : decimalFields.all (fun f => decide (f ≠ 0 ∧ f ≠ auditMsgtype ∧
      ¬ (f ∈ objectStringFields ∨ f ∈ subjectStringFields) ∧ f ≠ auditArch ∧ f ≠ auditPerm ∧
      f ≠ auditFiletype ∧ f ∉ argFields)) = true := by
    decide
  exact of_decide_eq_true (List.all_eq_true.mp checked f member)

/-- **A numeric field is stored as given.**  A successful `auditRuleFieldPairData` of a field of
`decimalFields` with a number `x` writes the field's number, the operator and `uint32(x)` to the
next slot, and leaves the package variables alone. -/
theorem auditRuleFieldPairData_decimal {env : RuleEnv} {g g' : Globals}
    {rule rule' : AuditRuleData} {x : ℚ} {opval : UInt32} {fieldname : List Char} {flags : Int}
    (member : (lookupName fieldMap fieldname).getD 0 ∈ decimalFields)
    (called : auditRuleFieldPairData env g rule (some (.number x)) opval fieldname flags =
      (g', .ok rule')) :
    g' = g ∧ ∃ below : rule.fieldCount.toNat < auditMaxFields - 1,
      rule' = { rule with
        fields := rule.fields.set rule.fieldCount.toNat ((lookupName fieldMap fieldname).getD 0)
          (Nat.lt_of_lt_of_le below (Nat.sub_le _ _))
        fieldflags := rule.fieldflags.set rule.fieldCount.toNat opval
          (Nat.lt_of_lt_of_le below (Nat.sub_le _ _))
        values := rule.values.set rule.fieldCount.toNat (float64ToUint32 x)
          (Nat.lt_of_lt_of_le below (Nat.sub_le _ _))
        fieldCount := rule.fieldCount + 1 } := by
  unfold auditRuleFieldPairData at called
  generalize (lookupName fieldMap fieldname).getD 0 = fieldid at called member ⊢
  obtain ⟨known, notMsgtype, notString, notArch, notPerm, notFiletype, notArg⟩ :=
    decimalFields_compile member
  split at called
  · cases called
  next full =>
  have below : rule.fieldCount.toNat < auditMaxFields - 1 := Nat.lt_of_not_le full
  extract_lets room fieldid' i rule₁ stored at called
  rw [if_neg known] at called
  by_cases excluded : flags = auditFilterExclude ∧ fieldid ≠ auditMsgtype
  · rw [if_pos excluded] at called
    cases called
  rw [if_neg excluded] at called
  split at called
  next g₁ result switch =>
  obtain ⟨rfl, mapped⟩ := Prod.mk.inj called
  obtain ⟨r, rfl, rfl⟩ := Go.map_eq_ok.mp mapped
  -- every arm a numeric field reaches stores `uint32(x)`
  have ofStored : (g, stored (.ok (float64ToUint32 x))) = (g₁, .ok r) →
      g₁ = g ∧ ∃ below : rule.fieldCount.toNat < auditMaxFields - 1,
        { r with fieldCount := r.fieldCount + 1 } = { rule with
          fields := rule.fields.set rule.fieldCount.toNat fieldid
            (Nat.lt_of_lt_of_le below (Nat.sub_le _ _))
          fieldflags := rule.fieldflags.set rule.fieldCount.toNat opval
            (Nat.lt_of_lt_of_le below (Nat.sub_le _ _))
          values := rule.values.set rule.fieldCount.toNat (float64ToUint32 x)
            (Nat.lt_of_lt_of_le below (Nat.sub_le _ _))
          fieldCount := rule.fieldCount + 1 } := by
    intro storedEq
    obtain ⟨rfl, storedOk⟩ := Prod.mk.inj storedEq
    cases storedOk
    exact ⟨rfl, below, rfl⟩
  by_cases uid : fieldid ∈ uidFields
  · rw [if_pos uid] at switch
    exact ofStored switch
  rw [if_neg uid] at switch
  by_cases gid : fieldid ∈ gidFields
  · rw [if_pos gid] at switch
    exact ofStored switch
  rw [if_neg gid] at switch
  by_cases exit : fieldid = auditExit
  · rw [if_pos exit] at switch
    exact ofStored (ite_error_eq_ok switch).2
  rw [if_neg exit, if_neg notMsgtype, if_neg notString, if_neg notArch, if_neg notPerm,
    if_neg notFiletype, if_neg notArg] at switch
  -- the default arm, after the checks of the exit filter, the inode and the parent pid
  obtain ⟨-, switch⟩ := ite_error_eq_ok switch
  obtain ⟨-, switch⟩ := ite_error_eq_ok switch
  obtain ⟨-, switch⟩ := ite_error_eq_ok switch
  exact ofStored switch

/-- A field of a rules document given as a number: `{"name": name, "op": op, "value": value}`. -/
structure DecimalField where
  name : List Char
  op : Option Json
  value : ℚ

namespace DecimalField

/-- The field's number in `headers.FieldMap`. -/
def number (f : DecimalField) : UInt32 := (lookupName fieldMap f.name).getD 0

/-- The slot `auditRuleFieldPairData` writes for the field: number, value and operator. -/
def entry (f : DecimalField) : UInt32 × UInt32 × UInt32 :=
  (f.number, float64ToUint32 f.value, operatorOf f.op)

/-- `field` is the JSON object of `f`. -/
def Describes (f : DecimalField) (field : Json) : Prop :=
  ∃ entries, field = .object entries ∧ Json.get entries "name" = some (.string f.name) ∧
    Json.get entries "op" = f.op ∧ Json.get entries "value" = some (.number f.value)

/-- How `printRule` lists the field: ` -F`, its name, its operator and its value. -/
def text (f : DecimalField) : List Char :=
  " -F ".toList ++ fieldToName f.number ++ operatorToSymbol (operatorOf f.op) ++
    decimal (float64ToUint32 f.value).toNat

end DecimalField

/-- Every operator `operatorOf` names lies within `AUDIT_OPERATORS`. -/
theorem operatorOf_and_operators (op : Option Json) :
    operatorOf op &&& auditOperators = operatorOf op := by
  unfold operatorOf
  split_ifs <;> decide

-- by `congrArg`: the equation lemmas of `decimalText` and `DecimalField.text` are slow to
-- generate, their bodies starting with a string literal
theorem decimalText_entry (f : DecimalField) : decimalText f.entry = f.text :=
  congrArg (fun op => " -F ".toList ++ fieldToName f.number ++ operatorToSymbol op ++
    decimal (float64ToUint32 f.value).toNat) (operatorOf_and_operators f.op)

/-- **The loop over a rule's numeric fields** appends each, in the order of the document. -/
theorem fieldsLoop_decimal {env : RuleEnv} {filter : Int} {numbers : List DecimalField}
    {fields : List Json} (described : List.Forall₂ DecimalField.Describes numbers fields)
    (decimals : ∀ f ∈ numbers, f.number ∈ decimalFields) {g g' : Globals}
    {rule rule' : AuditRuleData} {entries : List (UInt32 × UInt32 × UInt32)}
    (holds : rule.HoldsFields entries)
    (looped : fieldsLoop env filter g rule fields = (g', .ok rule')) :
    rule'.HoldsFields (entries ++ numbers.map DecimalField.entry) := by
  -- on the fields of the document, the slots filled so far carried along
  induction described generalizing g rule entries with
  | nil =>
    rw [fieldsLoop] at looped
    cases looped
    rw [List.map_nil, List.append_nil]
    exact holds
  | @cons f field numbers fields describedHead _ later =>
    obtain ⟨object, rfl, named, operator, valued⟩ := describedHead
    rw [fieldsLoop, named, valued, operator] at looped
    dsimp only at looped
    rcases called : auditRuleFieldPairData env g rule (some (.number f.value)) (operatorOf f.op)
      f.name filter with ⟨g₁, _ | rule₁⟩
    · rw [called] at looped
      cases looped
    rw [called] at looped
    dsimp only at looped
    -- the field goes to the next slot, and the loop goes on from there
    obtain ⟨-, below, rfl⟩ := auditRuleFieldPairData_decimal (decimals f List.mem_cons_self) called
    have appended := holds.append below f.number (operatorOf f.op) (float64ToUint32 f.value)
    have rest := later (fun f' member => decimals f' (List.mem_cons_of_mem f member))
      appended looped
    rw [List.append_assoc, List.singleton_append] at rest
    rw [List.map_cons]
    exact rest

/-! ## Syscall rules -/

/-- The loop over a rule's `syscalls` only sets bits of the mask: the rule has no more fields. -/
theorem syscallsLoop_fieldCount {env : RuleEnv} :
    ∀ {syscalls : List Json} {g g' : Globals} {rule rule' : AuditRuleData}
      {notFound notFound' : List Char},
      syscallsLoop env g rule notFound syscalls = (g', .ok (rule', notFound')) →
      rule'.fieldCount = rule.fieldCount
  | [], _, _, _, _, _, _, looped => by
    rw [syscallsLoop] at looped
    cases looped
    rfl
  | syscall :: syscalls, g, g', rule, rule', notFound, notFound', looped => by
    unfold syscallsLoop at looped
    split at looped
    · split at looped
      · split at looped
        · next masked set =>
          -- `auditRuleSyscallData` writes a word of the mask only
          have kept : masked.fieldCount = rule.fieldCount := by
            unfold auditRuleSyscallData at set
            split at set
            · cases set
            · cases set
              rfl
          rw [syscallsLoop_fieldCount looped, kept]
        · cases looped
      · exact syscallsLoop_fieldCount looped
    · cases looped

/-- The rule `syscallRuleMask` builds has no field yet. -/
theorem syscallRuleMask_fieldCount {env : RuleEnv} {g g' : Globals}
    {entries : List (List Char × Json)} {masked : AuditRuleData}
    (maskedEq : syscallRuleMask env g entries = (g', .ok masked)) : masked.fieldCount = 0 := by
  cases listed : Json.asArray (Json.get entries "syscalls") with
  | some syscalls =>
    obtain ⟨_, _, looped⟩ := syscallRuleMask_syscallsLoop maskedEq listed
    rw [syscallsLoop_fieldCount looped]
    rfl
  | none =>
    unfold syscallRuleMask at maskedEq
    rw [listed] at maskedEq
    dsimp only at maskedEq
    split_ifs at maskedEq <;> cases maskedEq
    rfl

/-- After the fields, a rule without a key takes at most the flag of `prepend`, which
`fieldEntry` does not read. -/
theorem syscallRuleOptions_decimal {env : RuleEnv} {filter : Int} {g g' : Globals}
    {entries : List (List Char × Json)} {rule rule' : AuditRuleData}
    {fields : List Json} {numbers : List DecimalField}
    (listed : Json.asArray (Json.get entries "fields") = some fields)
    (described : List.Forall₂ DecimalField.Describes numbers fields)
    (decimals : ∀ f ∈ numbers, f.number ∈ decimalFields) (noKey : Json.get entries "key" = none)
    {previous : List (UInt32 × UInt32 × UInt32)} (holds : rule.HoldsFields previous)
    (options : syscallRuleOptions env filter g entries rule = (g', .ok rule')) :
    rule'.HoldsFields (previous ++ numbers.map DecimalField.entry) := by
  unfold syscallRuleOptions at options
  rw [listed] at options
  dsimp only at options
  rcases looped : fieldsLoop env filter g rule fields with ⟨g₁, _ | fielded⟩
  · rw [looped] at options
    cases options
  rw [looped] at options
  dsimp only at options
  have fieldedHolds := fieldsLoop_decimal described decimals holds looped
  rw [ruleKey, noKey] at options
  dsimp only at options
  cases options
  split
  · exact fieldedHolds.with_flags _ fielded.action
  · exact fieldedHolds

/-- **Numeric fields list as they were written.**  For every entry of `syscall_rules` that
`SetRules` compiles, without a key, whose `fields` are numbers for user, group and other
numeric fields, `printRule` of the rule it sends is the header (the action, the filter list and
the syscalls), then ` -F name<op>value` for each field in the order of the document: the field's
name in `FieldMap` read back through `fieldToName`, the operator its `op` names, and
`uint32(value)` in decimal. -/
theorem syscallRuleData_printRule_fields (env : RuleEnv) (interp : Interpreters)
    {g g' : Globals} {entries : List (List Char × Json)} {ruleData : AuditRuleData}
    {filter action : Int}
    (compiled : syscallRuleData env g (.object entries) = (g', .ok (ruleData, filter, action)))
    {fields : List Json} {numbers : List DecimalField}
    (listed : Json.asArray (Json.get entries "fields") = some fields)
    (described : List.Forall₂ DecimalField.Describes numbers fields)
    (decimals : ∀ f ∈ numbers, f.number ∈ decimalFields) (noKey : Json.get entries "key" = none) :
    let sent := { ruleData with flags := UInt32.ofInt filter, action := UInt32.ofInt action }
    let syscalls := printSyscallRule interp.reverseSysMapX64 sent
    printRule interp sent = .ok ("-a ".toList ++ actionToName sent.action ++
      ',' :: flagToName sent.flags ++ (if syscalls.2.2.2 then syscalls.1 else []) ++
      (numbers.map DecimalField.text).flatten) := by
  intro sent syscalls
  obtain ⟨entries', _, masked, _, sameRule, maskedEq, -, -, options, -⟩ :=
    syscallRuleData_eq_ok compiled
  cases sameRule
  -- the rule has no field before the loop over `fields`, and the fields after it
  have holds := syscallRuleOptions_decimal listed described decimals noKey
    (AuditRuleData.HoldsFields.nil (syscallRuleMask_fieldCount maskedEq)) options
  rw [List.nil_append] at holds
  have texts : numbers.map DecimalField.text = (numbers.map DecimalField.entry).map decimalText := by
    rw [List.map_map]
    exact List.map_congr_left fun f _ => (decimalText_entry f).symm
  rw [texts]
  refine printRule_decimal (holds.with_flags (UInt32.ofInt filter) (UInt32.ofInt action)) ?_
  intro entry member
  obtain ⟨f, inNumbers, rfl⟩ := List.mem_map.mp member
  exact decimals f inNumbers

/-- The rule `{"syscalls": ["open"], "actions": ["always", "exit"], "fields": [{"name": "uid",
"op": "eq", "value": 1000}, {"name": "exit", "op": "nt_eq", "value": 2}]}`. -/
theorem syscallRuleData_printRule_fields_uid_exit :
    let interp : Interpreters :=
      ⟨fun _ => none, fun _ => "open".toList, "amd64".toList, fun _ value _ => .ok value,
        Char.toLower⟩
    let numbers : List DecimalField :=
      [⟨"uid".toList, some (.string "eq".toList), 1000⟩,
        ⟨"exit".toList, some (.string "nt_eq".toList), 2⟩]
    let fields : List Json := numbers.map fun f =>
      .object [("name".toList, .string f.name), ("op".toList, f.op.getD .null),
        ("value".toList, .number f.value)]
    let rule := alwaysExitRule "open".toList [("fields".toList, .array fields)]
    ∃ ruleData g', syscallRuleData openOnlyEnv ⟨false, false⟩ (.object rule) =
        (g', .ok (ruleData, auditFilterExit, auditAlways)) ∧
      let sent := { ruleData with
        flags := UInt32.ofInt auditFilterExit, action := UInt32.ofInt auditAlways }
      let syscalls := printSyscallRule interp.reverseSysMapX64 sent
      printRule interp sent = .ok ("-a ".toList ++ actionToName sent.action ++
        ',' :: flagToName sent.flags ++ (if syscalls.2.2.2 then syscalls.1 else []) ++
        (numbers.map DecimalField.text).flatten) := by
  intro interp numbers fields rule
  have accepted : ((syscallRuleData openOnlyEnv ⟨false, false⟩ (.object rule)).2.map
      fun compiled => (compiled.2.1, compiled.2.2)) = .ok (auditFilterExit, auditAlways) := by
    decide +kernel
  obtain ⟨⟨ruleData, filter, action⟩, result, same⟩ := Go.map_eq_ok.mp accepted
  cases same
  have compiled : syscallRuleData openOnlyEnv ⟨false, false⟩ (.object rule) =
      ((syscallRuleData openOnlyEnv ⟨false, false⟩ (.object rule)).1,
        .ok (ruleData, auditFilterExit, auditAlways)) :=
    Prod.ext rfl result
  have described : List.Forall₂ DecimalField.Describes numbers fields :=
    .cons ⟨_, rfl, rfl, rfl, rfl⟩ (.cons ⟨_, rfl, rfl, rfl, rfl⟩ .nil)
  exact ⟨ruleData, _, compiled, syscallRuleData_printRule_fields openOnlyEnv interp compiled rfl
    described (by decide) rfl⟩

end LibAudit
