import LibAudit.Rules.Runs
import LibAudit.Rules.Print
import LibAudit.Rules.Syscalls
import LibAudit.Parser.Flags
import LibAudit.Go.Bitmask

/-!
# A syscall rule's mask, from `SetRules` to `printSyscallRule`

`SetRules` writes the syscalls of a rule into `Mask`, one bit each, with
`auditRuleSyscallData`; `printSyscallRule` reads them back when the rule is listed, scanning
the numbers `0` to `AUDIT_BITMASK_SIZE*32 - 1` and naming each whose bit is set.  This module
shows that the two agree: the rule `SetRules` sends for a syscall rule lists, after `-S`, the
syscalls the rule names that the syscall table knows, in increasing order of number and each
once, or `all` when they are every syscall the mask holds.

## The mask as a set

`inMask rule` reads `Mask` as a set of numbers (`Go.Bitmask.test`).  On it the two sides are
plain: `auditRuleSyscallData` adds one number (`auditRuleSyscallData_inMask`), the loop of
`SetRules` over a rule's `syscalls` adds the numbers of the names it finds
(`syscallsLoop_inMask`), the fields and the key of the rule leave the mask alone
(`syscallRuleOptions_mask`), and the scan of `printSyscallRule` is the listing of the members
in increasing order (`foldl_syscallStep`).

## Main definitions

* `LibAudit.inMask` — the syscalls of a rule's mask.
* `LibAudit.listedSyscalls` — the `-S` list of some syscall numbers, in their order.

## Main statements

* `LibAudit.printSyscallRule_eq_listed` — `printSyscallRule` lists the members of the mask in
  increasing order.
* `LibAudit.syscallRuleData_printSyscallRule` — the rule `SetRules` sends for a syscall rule
  lists its known syscalls.
-/

namespace LibAudit

/-! ## The mask as a set of syscalls -/

/-- Whether syscall `i` is in a rule's mask. -/
def inMask (rule : AuditRuleData) (i : Nat) : Bool := Go.Bitmask.test rule.mask.toList i

@[simp] theorem inMask_empty (i : Nat) : inMask AuditRuleData.empty i = false := by
  have zeros : AuditRuleData.empty.mask.toList = List.replicate auditBitmaskSize 0 := rfl
  have zero : (List.replicate auditBitmaskSize (0 : UInt32)).getD (i / 32) 0 = 0 := by
    rw [List.getD_eq_getElem?_getD, List.getElem?_replicate]
    split <;> rfl
  rw [inMask, Go.Bitmask.test, zeros, zero, UInt32.toNat_zero, Nat.zero_testBit]

/-- The word and the bit of a syscall number that is not negative, as `Nat`s. -/
theorem auditWord_auditBit_of_lt {i : Nat} (small : i < 2 ^ 37) :
    (auditWord i).toNat = i / 32 ∧ auditBit i = 1 <<< UInt32.ofNat (i % 32) := by
  have nonneg : (0 : Int) ≤ i := Int.natCast_nonneg i
  refine ⟨?_, ?_⟩
  · rw [auditWord_of_nonneg nonneg, Int.toNat_natCast, UInt32.toNat_ofNat']
    omega
  · rw [auditBit_of_nonneg nonneg, Int.toNat_natCast]

/-- The test of `printSyscallRule`, `rule.Mask[auditWord(i)] & auditBit(i) > 0`, is membership
of `i` in the mask. -/
theorem maskTest_iff (rule : AuditRuleData) {i : Nat} (small : i < 2 ^ 37) :
    rule.mask.toList.getD (auditWord i).toNat 0 &&& auditBit i > 0 ↔ inMask rule i = true := by
  obtain ⟨word, bit⟩ := auditWord_auditBit_of_lt small
  rw [word, bit]
  exact Go.Bitmask.and_shiftLeft_pos_iff _ (Nat.mod_lt _ (by decide))

/-- **Setting a syscall adds it to the mask** and keeps every other syscall. -/
theorem auditRuleSyscallData_inMask {rule rule' : AuditRuleData} {scall : Nat}
    (small : scall < 2016) (set : auditRuleSyscallData rule scall = .ok rule') (i : Nat) :
    inMask rule' i = (inMask rule i || i == scall) := by
  obtain ⟨word, bit⟩ := auditWord_auditBit_of_lt (Nat.lt_trans small (by decide))
  unfold auditRuleSyscallData at set
  split at set
  · cases set
  · next fits =>
    cases set
    have inRange : scall / 32 < auditBitmaskSize := by
      unfold auditBitmaskSize
      omega
    have inList : scall / 32 < rule.mask.toList.length := by
      rw [Vector.length_toList]
      exact inRange
    have stored : rule.mask.get ⟨(auditWord scall).toNat, by rw [word]; exact inRange⟩ =
        rule.mask.toList.getD (scall / 32) 0 := by
      rw [List.getD_eq_getElem?_getD, List.getElem?_eq_getElem inList, Option.getD_some,
        Vector.getElem_toList]
      simp only [word]
      rfl
    unfold inMask
    rw [Vector.toList_set, stored, word, bit]
    exact Go.Bitmask.test_set _ inList i

/-! ## Listing the mask -/

/-- The text `printSyscallRule` writes for syscall `i`: its name from the reverse syscall table,
or its number when `AuditSyscallToName` finds none. -/
def syscallText (reverseSysMapX64 : List Char → List Char) (i : Nat) : List Char :=
  match auditSyscallToName reverseSysMapX64 (decimal i) with
  | .error _ => decimal i
  | .ok n => n

/-- The `-S` list of the syscalls `nrs`, in their order: ` -S ` and their texts joined by commas
(nothing for no syscall), how many there are, and the last of them. -/
def listedSyscalls (reverseSysMapX64 : List Char → List Char) (nrs : List Nat) :
    List Char × Nat × Nat :=
  (if nrs = [] then [] else " -S ".toList ++ [','].intercalate (nrs.map (syscallText reverseSysMapX64)),
    nrs.length, nrs.getLastD 0)

/-- **One iteration of the scan** appends a syscall of the mask to the list, and passes over any
other number. -/
theorem syscallStep_listed (reverseSysMapX64 : List Char → List Char) (rule : AuditRuleData)
    (nrs : List Nat) {i : Nat} (small : i < 2 ^ 37) :
    syscallStep reverseSysMapX64 rule (listedSyscalls reverseSysMapX64 nrs) i =
      if inMask rule i then listedSyscalls reverseSysMapX64 (nrs ++ [i])
      else listedSyscalls reverseSysMapX64 nrs := by
  unfold syscallStep
  by_cases member : inMask rule i = true
  · rw [if_pos ((maskTest_iff rule small).mpr member), if_pos member]
    -- the name comes from the table as `syscallText` has it
    show ((if _ then _ else _) ++ syscallText reverseSysMapX64 i, _, i) = _
    refine Prod.ext ?_ (Prod.ext ?_ ?_)
    · by_cases empty : nrs = []
      · subst empty
        simp [listedSyscalls]
      · -- the list is started: the next name follows a comma
        have started : (listedSyscalls reverseSysMapX64 nrs).1 ≠ [] := by
          simp [listedSyscalls, empty]
        have counted : (listedSyscalls reverseSysMapX64 nrs).2.1 > 0 :=
          List.length_pos_iff.mpr empty
        rw [if_neg started, if_pos counted]
        simp only [listedSyscalls, if_neg empty, List.append_eq_nil_iff, List.cons_ne_nil,
          and_false, if_false, List.map_append, List.map_cons, List.map_nil]
        rw [intercalate_append [','] (by simpa using empty) (List.cons_ne_nil _ _),
          List.intercalate_singleton]
        simp only [List.append_assoc]
    · simp [listedSyscalls]
    · simp [listedSyscalls]
  · rw [if_neg (mt (maskTest_iff rule small).mp member), if_neg member]

/-- **The scan of `printSyscallRule`** lists the syscalls of the mask below `n` in increasing
order; by induction on `n`, one number at a time. -/
theorem foldl_syscallStep (reverseSysMapX64 : List Char → List Char) (rule : AuditRuleData)
    {n : Nat} (small : n ≤ 2 ^ 37) :
    (List.range n).foldl (syscallStep reverseSysMapX64 rule) ([], 0, 0) =
      listedSyscalls reverseSysMapX64 ((List.range n).filter (inMask rule)) := by
  induction n with
  | zero => rfl
  | succ n ih =>
    rw [List.range_succ, List.foldl_append, ih (by omega), List.foldl_cons, List.foldl_nil,
      syscallStep_listed reverseSysMapX64 rule _ (by omega), List.filter_append]
    by_cases member : inMask rule n = true
    · rw [if_pos member, List.filter_singleton, member, cond_true]
    · rw [if_neg member, List.filter_singleton, Bool.eq_false_iff.mpr member, cond_false,
        List.append_nil]

/-- The rule is on every syscall exactly when its mask holds all of them below `2016`: the words
before the last are all ones. -/
theorem allSyscalls_iff (rule : AuditRuleData) :
    allSyscalls rule = true ↔ ∀ i < 2016, inMask rule i = true := by
  unfold allSyscalls inMask Go.Bitmask.test
  rw [List.all_eq_true]
  simp only [List.mem_range, decide_eq_true_eq, Go.Bitmask.eq_allOnes_iff]
  constructor
  · intro full i small
    exact full (i / 32) (by unfold auditBitmaskSize; omega) (i % 32) (Nat.mod_lt _ (by decide))
  · intro full word inRange b bit
    have number : (32 * word + b) / 32 = word ∧ (32 * word + b) % 32 = b := by omega
    have := full (32 * word + b) (by unfold auditBitmaskSize at inRange; omega)
    rwa [number.1, number.2] at this

/-- **`printSyscallRule` lists the mask**: nothing for a filter that takes no syscall, `all` for
a rule on every syscall, and otherwise the syscalls of the mask in increasing order. -/
theorem printSyscallRule_eq_listed (reverseSysMapX64 : List Char → List Char)
    (rule : AuditRuleData) :
    printSyscallRule reverseSysMapX64 rule =
      if !takesSyscalls rule then ([], 0, 0, false)
      else if ∀ i < 2016, inMask rule i = true then (" -S all".toList, 63, 0, true)
      else
        let listed := listedSyscalls reverseSysMapX64
          ((List.range (auditBitmaskSize * 32)).filter (inMask rule))
        (listed.1, listed.2.1, listed.2.2, true) := by
  unfold printSyscallRule
  simp only [← allSyscalls_iff]
  split_ifs
  · rfl
  · rfl
  · rw [foldl_syscallStep reverseSysMapX64 rule (by unfold auditBitmaskSize; omega)]

/-! ## What `SetRules` writes into the mask -/

/-- Whether the syscall table gives one of the names of a rule's `syscalls` the number `i`. -/
def knownSyscall (env : RuleEnv) (syscalls : List Json) (i : Nat) : Bool :=
  syscalls.any fun syscall =>
    match syscall with
    | .string name => env.sysMapX64 name == i
    | _ => false

/-- **The loop over a rule's `syscalls`** adds the number of every name the table knows to the
mask, and nothing else; by induction on the names, with the table's numbers below `2016`. -/
theorem syscallsLoop_inMask {env : RuleEnv} :
    ∀ {syscalls : List Json} {g g' : Globals} {rule rule' : AuditRuleData}
      {notFound notFound' : List Char},
      (∀ name, Json.string name ∈ syscalls →
        env.sysMapX64 name = -1 ∨ (0 ≤ env.sysMapX64 name ∧ env.sysMapX64 name < 2016)) →
      syscallsLoop env g rule notFound syscalls = (g', .ok (rule', notFound')) →
      ∀ i, inMask rule' i = (inMask rule i || knownSyscall env syscalls i)
  | [], g, g', rule, rule', notFound, notFound', _, looped, i => by
    rw [syscallsLoop] at looped
    cases looped
    simp [knownSyscall]
  | syscall :: syscalls, g, g', rule, rule', notFound, notFound', inRange, looped, i => by
    have later : ∀ name, Json.string name ∈ syscalls →
        env.sysMapX64 name = -1 ∨ (0 ≤ env.sysMapX64 name ∧ env.sysMapX64 name < 2016) :=
      fun name mem => inRange name (List.mem_cons_of_mem _ mem)
    have knownCons : knownSyscall env (syscall :: syscalls) i =
        (knownSyscall env [syscall] i || knownSyscall env syscalls i) := by
      simp [knownSyscall]
    unfold syscallsLoop at looped
    cases syscall with
    | string name =>
      dsimp only at looped
      by_cases found : env.sysMapX64 name ≠ -1
      · -- a name the table knows: its number is set, then the loop goes on
        rw [if_pos found] at looped
        obtain ⟨nonneg, small⟩ := (inRange name List.mem_cons_self).resolve_left found
        obtain ⟨n, numbered⟩ := Int.eq_ofNat_of_zero_le nonneg
        cases set : auditRuleSyscallData rule (env.sysMapX64 name) with
        | error err => rw [set] at looped; cases looped
        | ok masked =>
          rw [set] at looped
          rw [numbered] at set small
          have head : knownSyscall env [.string name] i = (i == n) := by
            simp only [knownSyscall, List.any_cons, List.any_nil, Bool.or_false, numbered]
            rw [Bool.eq_iff_iff, beq_iff_eq, beq_iff_eq, Int.natCast_inj, eq_comm]
          rw [syscallsLoop_inMask later looped i,
            auditRuleSyscallData_inMask (Int.ofNat_lt.mp small) set i, knownCons, head,
            Bool.or_assoc]
      · -- a name the table does not know is only remembered
        rw [if_neg found] at looped
        have head : knownSyscall env [.string name] i = false := by
          simp only [not_not] at found
          simp only [knownSyscall, List.any_cons, List.any_nil, Bool.or_false, found]
          rw [beq_eq_false_iff_ne]
          omega
        rw [syscallsLoop_inMask later looped i, knownCons, head, Bool.false_or]
    | null => cases looped
    | bool _ => cases looped
    | number _ => cases looped
    | array _ => cases looped
    | object _ => cases looped

/-- A successful check after the loop passes on the rule the loop built. -/
theorem syscallRuleMask_syscallsLoop {env : RuleEnv} {g g' : Globals}
    {entries : List (List Char × Json)} {masked : AuditRuleData} {syscalls : List Json}
    (maskedEq : syscallRuleMask env g entries = (g', .ok masked))
    (listed : Json.asArray (Json.get entries "syscalls") = some syscalls) :
    ∃ g₀ notFound,
      syscallsLoop env g AuditRuleData.empty [] syscalls = (g₀, .ok (masked, notFound)) := by
  unfold syscallRuleMask at maskedEq
  rw [listed] at maskedEq
  dsimp only at maskedEq
  rcases looped : syscallsLoop env g AuditRuleData.empty [] syscalls with ⟨g₀, result⟩
  rw [looped] at maskedEq
  cases result with
  | error err => cases maskedEq
  | ok built =>
    obtain ⟨rule, notFound⟩ := built
    dsimp only at maskedEq
    -- the check after the loop refuses a rule none of whose names was found
    split_ifs at maskedEq <;> cases maskedEq
    exact ⟨_, _, rfl⟩

/-! ## The fields and the key leave the mask alone -/

/-- The loop over a rule's `fields` only appends fields. -/
theorem fieldsLoop_mask {env : RuleEnv} {filter : Int} :
    ∀ {fields : List Json} {g g' : Globals} {rule rule' : AuditRuleData},
      fieldsLoop env filter g rule fields = (g', .ok rule') → rule'.mask = rule.mask
  | [], g, g', rule, rule', looped => by
    rw [fieldsLoop] at looped
    cases looped
    rfl
  | field :: fields, g, g', rule, rule', looped => by
    unfold fieldsLoop at looped
    split at looped
    · split at looped
      · split at looped
        · next g₁ rule₁ called =>
          obtain ⟨_, _, _, appended, -, -⟩ :=
            auditRuleFieldPairData_eq_ok (congrArg Prod.snd called)
          rw [fieldsLoop_mask looped, appended]
          rfl
        · cases looped
      · cases looped
    · cases looped

/-- A rule's key is one more field. -/
theorem ruleKey_mask {env : RuleEnv} {g : Globals} {entries : List (List Char × Json)}
    {rule rule' : AuditRuleData} (keyed : (ruleKey env g entries rule).2 = .ok rule') :
    rule'.mask = rule.mask := by
  unfold ruleKey at keyed
  split at keyed
  · cases keyed
    rfl
  · next key _ =>
    rcases called : auditRuleFieldPairData env g rule (some key) auditEqual "key".toList
      auditFilterUnset with ⟨g₁, result⟩
    rw [called] at keyed
    obtain ⟨_, _, _, appended, -, -⟩ :=
      auditRuleFieldPairData_eq_ok (by rw [called]; exact Go.mapError_eq_ok.mp keyed)
    rw [appended]
    rfl

/-- A syscall rule's fields, key and `prepend` leave its mask as the syscalls left it. -/
theorem syscallRuleOptions_mask {env : RuleEnv} {filter : Int} {g g' : Globals}
    {entries : List (List Char × Json)} {rule rule' : AuditRuleData}
    (options : syscallRuleOptions env filter g entries rule = (g', .ok rule')) :
    rule'.mask = rule.mask := by
  -- what follows the fields: the key, then the flag of `prepend`, which is not in the mask
  have afterFields : ∀ g₁ fielded, fielded.mask = rule.mask →
      (ruleKey env g₁ entries fielded).2.map (fun ruleData =>
          if (Json.get entries "prepend").isSome then
            { ruleData with flags := ruleData.flags ||| auditFilterPrepend }
          else ruleData) = .ok rule' → rule'.mask = rule.mask := by
    intro g₁ fielded fieldedMask finished
    obtain ⟨ruleKeyed, isKeyed, flagged⟩ := Go.map_eq_ok.mp finished
    have keyedMask := ruleKey_mask isKeyed
    rw [← flagged]
    split_ifs <;> rw [← fieldedMask, ← keyedMask]
  unfold syscallRuleOptions at options
  cases fieldsEq : Json.asArray (Json.get entries "fields") with
  | none =>
    rw [fieldsEq] at options
    exact afterFields g rule rfl (congrArg Prod.snd options)
  | some fields =>
    rw [fieldsEq] at options
    dsimp only at options
    rcases looped : fieldsLoop env filter g rule fields with ⟨g₁, _ | fielded⟩
    · rw [looped] at options
      cases options
    · rw [looped] at options
      dsimp only at options
      exact afterFields g₁ fielded (fieldsLoop_mask looped) (congrArg Prod.snd options)

/-! ## From `SetRules` to `printSyscallRule` -/

/-- **The rule `SetRules` sends for a syscall rule lists its syscalls.**  Take a syscall rule of
a `SetRules` document that compiles, and whose `syscalls` the table numbers below `2016` or does
not know.  The rule `auditAddRuleData` sends for it, with its filter list and action, is listed
by `printSyscallRule` with the numbers of the names the table knows, in increasing order and
each once, each named by the reverse table; as `all` when they are every syscall below `2016`;
and not at all when its filter list takes no syscall. -/
theorem syscallRuleData_printSyscallRule (env : RuleEnv)
    (reverseSysMapX64 : List Char → List Char) {g g' : Globals}
    {entries : List (List Char × Json)} {ruleData : AuditRuleData} {filter action : Int}
    (compiled : syscallRuleData env g (.object entries) = (g', .ok (ruleData, filter, action)))
    {syscalls : List Json} (listed : Json.asArray (Json.get entries "syscalls") = some syscalls)
    (inRange : ∀ name, Json.string name ∈ syscalls →
      env.sysMapX64 name = -1 ∨ (0 ≤ env.sysMapX64 name ∧ env.sysMapX64 name < 2016)) :
    let sent := { ruleData with flags := UInt32.ofInt filter, action := UInt32.ofInt action }
    printSyscallRule reverseSysMapX64 sent =
      if !takesSyscalls sent then ([], 0, 0, false)
      else if ∀ i < 2016, knownSyscall env syscalls i = true then (" -S all".toList, 63, 0, true)
      else
        let text := listedSyscalls reverseSysMapX64
          ((List.range (auditBitmaskSize * 32)).filter (knownSyscall env syscalls))
        (text.1, text.2.1, text.2.2, true) := by
  intro sent
  obtain ⟨entries', _, masked, _, sameRule, maskedEq, -, -, options, -⟩ :=
    syscallRuleData_eq_ok compiled
  cases sameRule
  obtain ⟨_, _, looped⟩ := syscallRuleMask_syscallsLoop maskedEq listed
  -- the mask of the rule sent is the one the loop over the syscalls built from the empty rule
  have members : inMask sent = knownSyscall env syscalls := by
    funext i
    have sameMask : ruleData.mask = masked.mask := syscallRuleOptions_mask options
    calc inMask sent i
        = inMask masked i := by
          show Go.Bitmask.test ruleData.mask.toList i = _
          rw [sameMask, ← inMask]
      _ = knownSyscall env syscalls i := by
        rw [syscallsLoop_inMask inRange looped i, inMask_empty, Bool.false_or]
  rw [printSyscallRule_eq_listed, members]

/-- The rule `{"syscalls": ["open"], "actions": ["always", "exit"]}`, with a table that knows
`open` only. -/
theorem syscallRuleData_printSyscallRule_open :
    let g : Globals := ⟨false, false⟩
    ∃ ruleData g', syscallRuleData openOnlyEnv g (.object (alwaysExitRule "open".toList [])) =
        (g', .ok (ruleData, auditFilterExit, auditAlways)) ∧
      Json.asArray (Json.get (alwaysExitRule "open".toList []) "syscalls") =
        some [.string "open".toList] ∧
      (∀ name, Json.string name ∈ [Json.string "open".toList] →
        openOnlyEnv.sysMapX64 name = -1 ∨
          (0 ≤ openOnlyEnv.sysMapX64 name ∧ openOnlyEnv.sysMapX64 name < 2016)) ∧
      let sent :=
        { ruleData with flags := UInt32.ofInt auditFilterExit, action := UInt32.ofInt auditAlways }
      printSyscallRule (fun _ => "open".toList) sent =
        if !takesSyscalls sent then ([], 0, 0, false)
        else if ∀ i < 2016, knownSyscall openOnlyEnv [.string "open".toList] i = true then
          (" -S all".toList, 63, 0, true)
        else
          let text := listedSyscalls (fun _ => "open".toList)
            ((List.range (auditBitmaskSize * 32)).filter
              (knownSyscall openOnlyEnv [.string "open".toList]))
          (text.1, text.2.1, text.2.2, true) := by
  intro g
  obtain ⟨ruleData, compiled, -⟩ : ∃ ruleData,
      syscallRuleData openOnlyEnv g (.object (alwaysExitRule "open".toList [])) =
        ({ g with auditSyscallAdded := true }, .ok (ruleData, auditFilterExit, auditAlways)) ∧
        ruleData.buflen = 0 :=
    syscallRuleData_alwaysExitRule_known (by decide) (by decide) rfl rfl
  have inRange : ∀ name, Json.string name ∈ [Json.string "open".toList] →
      openOnlyEnv.sysMapX64 name = -1 ∨
        (0 ≤ openOnlyEnv.sysMapX64 name ∧ openOnlyEnv.sysMapX64 name < 2016) := by
    intro name mem
    rw [List.mem_singleton, Json.string.injEq] at mem
    subst mem
    decide
  exact ⟨ruleData, _, compiled, rfl, inRange,
    syscallRuleData_printSyscallRule openOnlyEnv _ compiled rfl inRange⟩

end LibAudit
