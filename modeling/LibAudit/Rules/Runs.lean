import LibAudit.Rules.SetRules

/-!
# Audit rules: the runs of `SetRules`

What every run of `SetRules` keeps, whatever the document and whatever the kernel answers, and
what it does on the documents whose rules the kernel acknowledges.

## Main statements

* `setRules_returns` — the run lemma: what `SetRules` returns satisfies `SetRulesReturns`.
* `setRules_addedRules` — every rule `SetRules` returns was added to one of the filter lists
  named in `addableFilters`, with `Flags` naming that list and nothing else.
* `setRules_sent_returned` — the rules of a `nil` error are the rules the socket sent.
* `auditAddRuleData_acknowledged` — a rule the kernel acknowledges is sent once and added.

## The invariant

A run of `SetRules` goes through the states of its two loops.  In each of them `err` is `nil`,
since every non-`nil` error it is assigned is returned at once; every rule in `ruleArray` was
left by `auditAddRuleData`, whose `Flags` is the filter list it was sent for; and the socket has
sent one request for each of them and no other (`SetRulesState.Invariant`).  Each step keeps it,
and each return satisfies `SetRulesReturns`; `Go.Flow.loop_invariant` carries it through both
loops.
-/

namespace LibAudit

/-! ## Sending a rule -/

section Sending

variable (o : Go.ByteOrder) (s : Socket) (rule : AuditRuleData) (action : Int)

/-- **A rule the kernel acknowledges is added.**  `auditAddRuleData` sends the rule once, under
the next request number, and the kernel's acknowledgement of that number ends its wait. -/
theorem auditAddRuleData_acknowledged {flags : Int} (notEntry : flags ≠ auditFilterEntry)
    (fits : rule.buflen.toNat < 2 ^ 32 - 1040) {pid : UInt32} (sendOk : s.sendResult = .ok ()) (ownPid : s.getPID = .ok pid.toNat)
    {spare : List UInt8} {later : List (Except Go.Fault (Go.Slice UInt8))}
    (received : s.received = .ok (Datagram.bytes o
      ⟨[KernelMessage.acknowledgement (s.sequenceNumber + 1) pid], spare⟩) :: later) :
    auditAddRuleData o s rule flags action =
      ({ rule with flags := UInt32.ofInt flags, action := UInt32.ofInt action },
        some (.ok (), { s with
          sequenceNumber := s.sequenceNumber + 1
          sent := s.sent ++ [addRuleRequest o
            { rule with flags := UInt32.ofInt flags, action := UInt32.ofInt action }
            (s.sequenceNumber + 1)]
          received := later })) := by
  have fits' : ({ rule with flags := UInt32.ofInt flags, action := UInt32.ofInt action } :
      AuditRuleData).buflen.toNat < 2 ^ 32 - 1040 := fits
  rw [auditAddRuleData, if_neg notEntry]
  simp only [AuditRuleData.toWireFormat_of_lt fits', Socket.send, sendOk, Except.map,
    auditGetReply, ownPid, received, receiveReply_acknowledgement, Option.map_some]
  rfl

end Sending

/-! ## The filter lists -/

/-- The filter lists `SetRules` adds rules to: those `setActionAndFilters` names, and the exit
list of the watches. -/
def addableFilters : List Int :=
  [auditFilterUser, auditFilterTask, auditFilterExit, auditFilterExclude]

/-- A rule as `auditAddRuleData` adds it: `Flags` names one of the filter lists. -/
def AddedRule (rule : AuditRuleData) : Prop :=
  ∃ filter ∈ addableFilters, rule.flags = UInt32.ofInt filter

/-- The deprecated entry list is not one `SetRules` adds rules to. -/
theorem ne_entry_of_addable {filter : Int} (addable : filter ∈ addableFilters) :
    filter ≠ auditFilterEntry := by
  intro entry
  subst entry
  revert addable
  decide

/-- An added rule carries no `AUDIT_FILTER_PREPEND`. -/
theorem AddedRule.prepend_eq_zero {rule : AuditRuleData} (added : AddedRule rule) :
    rule.flags &&& auditFilterPrepend = 0 := by
  obtain ⟨filter, member, flags⟩ := added
  simp only [addableFilters, List.mem_cons, List.not_mem_nil, or_false] at member
  rw [flags]
  rcases member with rfl | rfl | rfl | rfl <;> decide

theorem actionStep_filter {chosen : Int × Int}
    (named : chosen.2 ∈ auditFilterUnset :: addableFilters) (value : Json) :
    (actionStep chosen value).2 ∈ auditFilterUnset :: addableFilters := by
  unfold actionStep
  dsimp only
  split_ifs <;> first | exact named | (dsimp only; decide)

/-- `setActionAndFilters` names a filter list, or none. -/
theorem setActionAndFilters_filter (actions : List Json) :
    (setActionAndFilters actions).2 ∈ auditFilterUnset :: addableFilters := by
  suffices kept : ∀ chosen : Int × Int, chosen.2 ∈ auditFilterUnset :: addableFilters →
      (actions.foldl actionStep chosen).2 ∈ auditFilterUnset :: addableFilters from
    kept _ (by decide)
  induction actions with
  | nil => exact fun chosen named => named
  | cons value actions inductionHypothesis =>
      intro chosen named
      exact inductionHypothesis _ (actionStep_filter named value)

/-- **What a compiled syscall rule is sent for.**  `syscallRuleData` compiles a rule only after
its syscalls, its actions and its options have gone through, and only for a filter list that
`setActionAndFilters` named. -/
theorem syscallRuleData_eq_ok {env : RuleEnv} {g g' : Globals} {srule : Json}
    {ruleData : AuditRuleData} {filter action : Int}
    (compiled : syscallRuleData env g srule = (g', .ok (ruleData, filter, action))) :
    ∃ entries g₁ masked actions, srule = .object entries ∧
      syscallRuleMask env g entries = (g₁, .ok masked) ∧
      Json.asArray (Json.get entries "actions") = some actions ∧
      setActionAndFilters actions = (action, filter) ∧
      syscallRuleOptions env filter g₁ entries masked = (g', .ok ruleData) ∧
      filter ≠ auditFilterUnset := by
  cases srule with
  | object entries =>
      rw [syscallRuleData] at compiled
      rcases maskedEq : syscallRuleMask env g entries with ⟨g₁, _ | masked⟩
      · rw [maskedEq] at compiled
        cases compiled
      rw [maskedEq] at compiled
      dsimp only at compiled
      rcases actionsEq : Json.asArray (Json.get entries "actions") with _ | actions
      · rw [actionsEq] at compiled
        cases compiled
      rw [actionsEq] at compiled
      dsimp only at compiled
      rcases optionsEq : syscallRuleOptions env (setActionAndFilters actions).2 g₁ entries masked
        with ⟨g₂, _ | options⟩
      · rw [optionsEq] at compiled
        cases compiled
      rw [optionsEq] at compiled
      dsimp only at compiled
      by_cases unset : (setActionAndFilters actions).2 = auditFilterUnset
      · rw [if_neg (not_not.mpr unset)] at compiled
        cases compiled
      · rw [if_pos unset] at compiled
        cases compiled
        exact ⟨entries, g₁, masked, actions, rfl, maskedEq, actionsEq, rfl, optionsEq, unset⟩
  | _ => cases compiled

theorem syscallRuleData_filter {env : RuleEnv} {g g' : Globals} {srule : Json}
    {ruleData : AuditRuleData} {filter action : Int}
    (compiled : syscallRuleData env g srule = (g', .ok (ruleData, filter, action))) :
    filter ∈ addableFilters := by
  obtain ⟨-, -, -, actions, -, -, -, chosen, -, set⟩ := syscallRuleData_eq_ok compiled
  have named := setActionAndFilters_filter actions
  rw [chosen] at named
  exact (List.mem_cons.mp named).resolve_left set

/-- **What a successful `auditAddRuleData` did.**  It sent the rule, with `Flags` and `Action`
overwritten, once and under the next request number. -/
theorem auditAddRuleData_eq_ok {o : Go.ByteOrder} {s s' : Socket} {rule rule' : AuditRuleData}
    {flags action : Int} (added : auditAddRuleData o s rule flags action = (rule', some (.ok (), s'))) :
    flags ≠ auditFilterEntry ∧
      rule' = { rule with flags := UInt32.ofInt flags, action := UInt32.ofInt action } ∧
      s'.sent = s.sent ++ [addRuleRequest o rule' (s.sequenceNumber + 1)] ∧
      s'.sequenceNumber = s.sequenceNumber + 1 := by
  unfold auditAddRuleData at added
  by_cases entry : flags = auditFilterEntry
  · rw [if_pos entry] at added
    cases added
  rw [if_neg entry] at added
  dsimp only at added
  split at added
  · cases added
  next newbuff wired =>
  obtain ⟨overwritten, outcome⟩ := Prod.mk.inj added
  subst overwritten
  rw [AuditRuleData.eq_wireImage_of_toWireFormat wired] at outcome
  refine ⟨entry, rfl, ?_⟩
  rcases sendEq : s.sendResult with err | ⟨⟩
  · simp only [Socket.send, sendEq, Except.map] at outcome
    cases outcome
  simp only [Socket.send, sendEq, Except.map] at outcome
  obtain ⟨⟨result, s''⟩, replied, mapped⟩ := Option.map_eq_some_iff.mp outcome
  obtain ⟨-, rfl⟩ := Prod.mk.inj mapped
  rw [auditGetReply_eq_some replied]
  exact ⟨rfl, rfl⟩

/-! ## The invariant of a run -/

/-- The requests `auditAddRuleData` sends for `rules`, one after the other, numbered on from
`seq`. -/
def addRuleRequests (o : Go.ByteOrder) : UInt32 → List AuditRuleData → List NetlinkMessage
  | _, [] => []
  | seq, rule :: rules => addRuleRequest o rule (seq + 1) :: addRuleRequests o (seq + 1) rules

theorem addRuleRequests_append (o : Go.ByteOrder) (seq : UInt32) (rules : List AuditRuleData)
    (rule : AuditRuleData) :
    addRuleRequests o seq (rules ++ [rule]) =
      addRuleRequests o seq rules ++ [addRuleRequest o rule (seq + UInt32.ofNat rules.length + 1)] := by
  induction rules generalizing seq with
  | nil => simp [addRuleRequests]
  | cons rule' rules inductionHypothesis =>
      have counter : seq + 1 + UInt32.ofNat rules.length =
          seq + UInt32.ofNat (rule' :: rules).length := by
        rw [List.length_cons, UInt32.ofNat_add, UInt32.ofNat_one, UInt32.add_assoc,
          UInt32.add_comm 1]
      rw [List.cons_append, addRuleRequests, addRuleRequests, inductionHypothesis, counter]
      rfl

/-- What every state of a run of `SetRules` from the socket `s₀` satisfies. -/
structure SetRulesState.Invariant (o : Go.ByteOrder) (s₀ : Socket) (state : SetRulesState) :
    Prop where
  /-- `err` is `nil`: every non-`nil` error it is assigned is returned at once. -/
  errNil : state.err = none
  added : ∀ rule ∈ state.ruleArray, AddedRule rule
  /-- The socket has sent one request for each rule added so far, and no other. -/
  sent : state.socket.sent = s₀.sent ++ addRuleRequests o s₀.sequenceNumber state.ruleArray
  counted : state.socket.sequenceNumber = s₀.sequenceNumber + UInt32.ofNat state.ruleArray.length

/-- What every return of `SetRules` from the socket `s₀` satisfies when its error is `nil`: its
rules are added rules, and unless there are none, the socket has sent exactly their requests. -/
def SetRulesReturns (o : Go.ByteOrder) (s₀ : Socket)
    (returned : SetRulesResult × Socket × Globals) : Prop :=
  ∀ rules, returned.1 = .ok rules → (∀ rule ∈ rules, AddedRule rule) ∧
    (rules ≠ [] → returned.2.1.sent = s₀.sent ++ addRuleRequests o s₀.sequenceNumber rules)

section Steps

variable {env : RuleEnv} {o : Go.ByteOrder} {s₀ : Socket} {strictPath : Bool}
  {state : SetRulesState} {flow : SetRulesFlow}

theorem setRulesReturns_returnNil (err : Option Go.Fault) (s : Socket) (g : Globals) :
    SetRulesReturns o s₀ (returnNil err, s, g) := by
  intro rules returned
  cases err with
  | none =>
      cases returned
      exact ⟨fun _ member => (List.not_mem_nil member).elim, fun nonempty => absurd rfl nonempty⟩
  | some err => cases returned

theorem setRulesReturns_error (err : Go.Fault) (s : Socket) (g : Globals) :
    SetRulesReturns o s₀ (.error err, s, g) := by
  intro rules returned
  cases returned

theorem addRule_invariant {g : Globals} {ruleData : AuditRuleData} {filter action : Int}
    (held : state.Invariant o s₀) (addable : filter ∈ addableFilters)
    (ended : addRule o state g ruleData filter action = some flow) :
    flow.Holds (SetRulesState.Invariant o s₀) (SetRulesReturns o s₀) := by
  unfold addRule at ended
  rcases sentEq : auditAddRuleData o state.socket ruleData filter action with
    ⟨ruleData', _ | ⟨_ | ⟨⟩, s⟩⟩
  · rw [sentEq] at ended
    cases ended
  · rw [sentEq] at ended
    cases ended
    exact setRulesReturns_error _ _ _
  rw [sentEq] at ended
  cases ended
  obtain ⟨-, overwritten, sent, counted⟩ := auditAddRuleData_eq_ok sentEq
  constructor
  · rfl
  · intro rule member
    rcases List.mem_append.mp member with old | new
    · exact held.added rule old
    · rw [List.mem_singleton.mp new, overwritten]
      exact ⟨filter, addable, rfl⟩
  · show s.sent = s₀.sent ++ addRuleRequests o s₀.sequenceNumber (state.ruleArray ++ [ruleData'])
    rw [sent, held.sent, addRuleRequests_append, held.counted, List.append_assoc]
  · show s.sequenceNumber =
      s₀.sequenceNumber + UInt32.ofNat (state.ruleArray ++ [ruleData']).length
    rw [counted, held.counted, List.length_append, List.length_singleton, UInt32.ofNat_add,
      UInt32.ofNat_one, UInt32.add_assoc]

theorem fileRuleStep_invariant (rule : Json) (held : state.Invariant o s₀)
    (ended : fileRuleStep env o strictPath state rule = some flow) :
    flow.Holds (SetRulesState.Invariant o s₀) (SetRulesReturns o s₀) := by
  unfold fileRuleStep at ended
  rcases compiled : fileRuleData env strictPath state.globals state.err rule with
    ⟨g, err | ruleData⟩
  · rw [compiled] at ended
    cases ended
    exact setRulesReturns_returnNil err _ _
  · rw [compiled] at ended
    exact addRule_invariant held (by decide) ended

theorem syscallRuleStep_invariant (srule : Json) (held : state.Invariant o s₀)
    (ended : syscallRuleStep env o state srule = some flow) :
    flow.Holds (SetRulesState.Invariant o s₀) (SetRulesReturns o s₀) := by
  unfold syscallRuleStep at ended
  rcases compiled : syscallRuleData env state.globals srule with
    ⟨g, err | ⟨ruleData, filter, action⟩⟩
  · rw [compiled] at ended
    cases ended
    exact setRulesReturns_error err _ _
  · rw [compiled] at ended
    exact addRule_invariant held (syscallRuleData_filter compiled) ended

theorem keyStep_invariant (entry : List Char × Json) (held : state.Invariant o s₀)
    (ended : keyStep env o strictPath state entry = some flow) :
    flow.Holds (SetRulesState.Invariant o s₀) (SetRulesReturns o s₀) := by
  -- resetting `auditSyscallAdded` keeps the invariant, which does not read the globals
  have reset : SetRulesState.Invariant o s₀
      { state with globals := { state.globals with auditSyscallAdded := false } } :=
    ⟨held.errNil, held.added, held.sent, held.counted⟩
  unfold keyStep at ended
  split_ifs at ended
  · split at ended
    · exact Go.Flow.loop_invariant (fun _ rule _ held' => fileRuleStep_invariant rule held') _
        reset ended
    · cases ended
      exact setRulesReturns_error _ _ _
  · split at ended
    · exact Go.Flow.loop_invariant (fun _ srule _ held' => syscallRuleStep_invariant srule held')
        _ reset ended
    · cases ended
      exact setRulesReturns_error _ _ _
  · cases ended
    exact reset

end Steps

/-- **The run lemma.**  Whatever the document, the order in which its keys are visited and the
kernel's answers, what `SetRules` returns satisfies `SetRulesReturns`. -/
theorem setRules_returns {env : RuleEnv} {o : Go.ByteOrder} {content : Except String Json}
    {s : Socket} {g : Globals} {returned : SetRulesResult × Socket × Globals}
    (ended : setRules env o content s g = some returned) : SetRulesReturns o s returned := by
  cases content with
  | error msg =>
      cases ended
      exact setRulesReturns_error _ _ _
  | ok document =>
      cases document with
      | object m =>
          rcases checked : strictPathCheck m with p | strictPath
          · simp only [setRules, checked] at ended
            cases ended
            exact setRulesReturns_error _ _ _
          simp only [setRules, checked] at ended
          obtain ⟨flow, ran, rfl⟩ := Option.map_eq_some_iff.mp ended
          have initial : SetRulesState.Invariant o s ⟨s, g, [], none⟩ :=
            ⟨rfl, fun _ member => (List.not_mem_nil member).elim, (List.append_nil _).symm,
              (UInt32.add_zero _).symm⟩
          have holds := Go.Flow.loop_invariant
            (fun _ entry _ held => keyStep_invariant entry held) m initial ran
          cases flow with
          | next state =>
              intro rules returned
              cases returned
              exact ⟨holds.added, fun _ => holds.sent⟩
          | exit returned => exact holds
      | _ =>
          cases ended
          exact setRulesReturns_error _ _ _

/-- **Every rule `SetRules` returns was added** to one of `addableFilters`, with `Flags` naming
that list. -/
theorem setRules_addedRules {env : RuleEnv} {o : Go.ByteOrder} {content : Except String Json}
    {s s' : Socket} {g g' : Globals} {rules : List AuditRuleData}
    (returned : setRules env o content s g = some (.ok rules, s', g')) :
    ∀ rule ∈ rules, AddedRule rule :=
  (setRules_returns returned rules rfl).1

/-- **`SetRules` returns what it sent.**  When `SetRules` returns a `nil` error with some rules,
it has sent one `AUDIT_ADD_RULE` request for each of them, in order and numbered on from the
package's counter, and no other request.  (With no rules, it may have sent some: an early
return with a `nil` error drops them.) -/
theorem setRules_sent_returned {env : RuleEnv} {o : Go.ByteOrder} {content : Except String Json}
    {s s' : Socket} {g g' : Globals} {rules : List AuditRuleData}
    (returned : setRules env o content s g = some (.ok rules, s', g')) (nonempty : rules ≠ []) :
    s'.sent = s.sent ++ addRuleRequests o s.sequenceNumber rules :=
  (setRules_returns returned rules rfl).2 nonempty

/-- **`SetRules` never sends `AUDIT_FILTER_PREPEND`.**  Whatever the document, a rule it
returns carries no prepend bit, since `auditAddRuleData` overwrites the `Flags` the rule's
`prepend` entry set. -/
theorem setRules_drops_prepend {env : RuleEnv} {o : Go.ByteOrder} {content : Except String Json}
    {s s' : Socket} {g g' : Globals} {rules : List AuditRuleData}
    (returned : setRules env o content s g = some (.ok rules, s', g')) :
    ∀ rule ∈ rules, rule.flags &&& auditFilterPrepend = 0 := by
  intro rule member
  exact (setRules_addedRules returned rule member).prepend_eq_zero

/-! ## The steps of a run -/

section Keys

variable (env : RuleEnv) (o : Go.ByteOrder) (strictPath : Bool) (state : SetRulesState)

theorem keyStep_fileRules (rules : List Json) :
    keyStep env o strictPath state ("file_rules".toList, .array rules) =
      Go.Flow.loop (fileRuleStep env o strictPath)
        { state with globals := { state.globals with auditSyscallAdded := false } } rules := by
  unfold keyStep
  split_ifs with fileKey
  · rfl
  all_goals exact absurd rfl fileKey

theorem keyStep_syscallRules (rules : List Json) :
    keyStep env o strictPath state ("syscall_rules".toList, .array rules) =
      Go.Flow.loop (syscallRuleStep env o)
        { state with globals := { state.globals with auditSyscallAdded := false } } rules := by
  have distinct : "syscall_rules".toList ≠ "file_rules".toList := by decide
  unfold keyStep
  split_ifs with fileKey syscallKey
  · exact absurd fileKey distinct
  · rfl
  · exact absurd rfl syscallKey

/-- A file rule without a `path` ends `SetRules` with the error `err` holds, and `err` is `nil`
in every state of a run: `SetRules` then returns no rules and no error. -/
theorem fileRuleStep_without_path (noErr : state.err = none) {rule : List (List Char × Json)}
    (noPath : Json.get rule "path" = none) :
    fileRuleStep env o strictPath state (.object rule) =
      some (.exit (.ok [], state.socket, state.globals)) := by
  have missing : (Json.isString "" (Json.get rule "path") || (Json.get rule "path").isNone) =
      true := by
    rw [noPath]
    rfl
  rw [fileRuleStep, fileRuleData]
  dsimp only
  rw [if_pos missing, noErr]
  rfl

end Keys

/-! ## The kernel acknowledges every request -/

/-- What a kernel that acknowledges the `count` requests after request `seq` of port `pid`
delivers: one acknowledgement a datagram. -/
def acknowledgements (o : Go.ByteOrder) (pid : UInt32) :
    UInt32 → Nat → List (Except Go.Fault (Go.Slice UInt8))
  | _, 0 => []
  | seq, count + 1 => .ok (Datagram.bytes o ⟨[KernelMessage.acknowledgement (seq + 1) pid], []⟩) ::
    acknowledgements o pid (seq + 1) count

/-- A socket of port `pid` whose sends go through, and whose kernel acknowledges the next
`count` requests. -/
def Socket.Acknowledging (o : Go.ByteOrder) (pid : UInt32) (count : Nat) (s : Socket) : Prop :=
  s.sendResult = .ok () ∧ s.getPID = .ok pid.toNat ∧
    s.received = acknowledgements o pid s.sequenceNumber count

section Acknowledged

variable {env : RuleEnv} {o : Go.ByteOrder} {pid : UInt32} {count : Nat}

/-- On an acknowledging socket, `addRule` adds the rule, with `Flags` and `Action` from its
arguments, and leaves a socket that acknowledges one request fewer. -/
theorem addRule_acknowledged (state : SetRulesState)
    (acknowledging : state.socket.Acknowledging o pid (count + 1))
    (g : Globals) (ruleData : AuditRuleData) {filter : Int} (action : Int)
    (notEntry : filter ≠ auditFilterEntry) (fits : ruleData.buflen.toNat < 2 ^ 32 - 1040) :
    ∃ socket : Socket, socket.Acknowledging o pid count ∧
      addRule o state g ruleData filter action = some (.next ⟨socket, g, state.ruleArray ++
        [{ ruleData with flags := UInt32.ofInt filter, action := UInt32.ofInt action }], none⟩) := by
  obtain ⟨sendOk, ownPid, received⟩ := acknowledging
  refine ⟨?socket, ?acknowledged, ?added⟩
  case added =>
    rw [addRule, auditAddRuleData_acknowledged o state.socket ruleData action notEntry fits sendOk
      ownPid received]
  case acknowledged => exact ⟨sendOk, ownPid, rfl⟩

theorem syscallRuleStep_acknowledged (state : SetRulesState)
    (acknowledging : state.socket.Acknowledging o pid (count + 1)) {srule : Json} {g : Globals} {ruleData : AuditRuleData} {filter action : Int}
    (compiled : syscallRuleData env state.globals srule = (g, .ok (ruleData, filter, action)))
    (fits : ruleData.buflen.toNat < 2 ^ 32 - 1040) :
    ∃ (socket : Socket) (added : AuditRuleData), socket.Acknowledging o pid count ∧
      syscallRuleStep env o state srule =
        some (.next ⟨socket, g, state.ruleArray ++ [added], none⟩) := by
  obtain ⟨socket, acknowledging', added⟩ := addRule_acknowledged state acknowledging g ruleData
    action (ne_entry_of_addable (syscallRuleData_filter compiled)) fits
  refine ⟨socket, { ruleData with flags := UInt32.ofInt filter, action := UInt32.ofInt action },
    acknowledging', ?_⟩
  rw [syscallRuleStep, compiled]
  exact added

end Acknowledged

/-! ## Compiling a rule of one syscall -/

/-- The words of the mask hold the syscalls below `32 * (AUDIT_BITMASK_SIZE - 1)`. -/
theorem auditRuleSyscallData_of_lt (rule : AuditRuleData) {scall : Int} (nonneg : 0 ≤ scall)
    (small : scall < 2016) :
    ∃ masked, auditRuleSyscallData rule scall = .ok masked ∧ masked.buflen = rule.buflen := by
  have fits : ¬ auditBitmaskSize - 1 ≤ (auditWord scall).toNat := by
    unfold auditWord auditBitmaskSize
    rw [Int.tdiv_eq_ediv_of_nonneg nonneg, UInt32.ofInt, UInt32.toNat_ofNat']
    omega
  rw [auditRuleSyscallData, dif_neg fits]
  exact ⟨_, rfl, rfl⟩

section OneSyscall

variable {env : RuleEnv} {g : Globals} {ruleData : AuditRuleData} {notFound name : List Char}
  {syscalls : List Json}

theorem syscallsLoop_known (found : env.sysMapX64 name ≠ -1) {masked : AuditRuleData}
    (set : auditRuleSyscallData ruleData (env.sysMapX64 name) = .ok masked) :
    syscallsLoop env g ruleData notFound (.string name :: syscalls) =
      syscallsLoop env { g with auditSyscallAdded := true } masked notFound syscalls := by
  rw [syscallsLoop, if_pos found, set]

theorem syscallsLoop_unknown (unknown : env.sysMapX64 name = -1) :
    syscallsLoop env g ruleData notFound (.string name :: syscalls) =
      syscallsLoop env g ruleData (notFound ++ ' ' :: name) syscalls := by
  rw [syscallsLoop, if_neg (not_not.mpr unknown)]

variable {entries : List (List Char × Json)}
  (syscallsOf : Json.get entries "syscalls" = some (.array [.string name]))
include syscallsOf

/-- A rule whose one syscall is in the table gets its bit, and marks a syscall as added. -/
theorem syscallRuleMask_known (nonneg : 0 ≤ env.sysMapX64 name)
    (small : env.sysMapX64 name < 2016) :
    ∃ masked, syscallRuleMask env g entries = ({ g with auditSyscallAdded := true }, .ok masked) ∧
      masked.buflen = 0 := by
  obtain ⟨masked, set, kept⟩ := auditRuleSyscallData_of_lt AuditRuleData.empty nonneg small
  have found : env.sysMapX64 name ≠ -1 := by omega
  refine ⟨masked, ?_, kept⟩
  rw [syscallRuleMask, syscallsOf]
  dsimp only [Json.asArray]
  rw [syscallsLoop_known found set, syscallsLoop]
  rfl

/-- **A rule whose one syscall is not in the table** passes the check after its syscalls exactly
when an earlier rule of the same key added one: the check reads the package variable, not the
rule. -/
theorem syscallRuleMask_unknown (unknown : env.sysMapX64 name = -1) :
    syscallRuleMask env g entries =
      if g.auditSyscallAdded then (g, .ok AuditRuleData.empty)
      else (g, .error (.error ("SetRules failed: one or more syscalls not found: " ++
        String.ofList (' ' :: name)))) := by
  rw [syscallRuleMask, syscallsOf]
  dsimp only [Json.asArray]
  rw [syscallsLoop_unknown unknown, syscallsLoop]
  cases g.auditSyscallAdded <;> rfl

end OneSyscall

/-- A rule with `actions` `["always", "exit"]` and neither fields nor key is compiled for the
exit list, once its syscalls pass. -/
theorem syscallRuleData_always_exit {env : RuleEnv} {g g' : Globals}
    {entries : List (List Char × Json)} {masked : AuditRuleData}
    (maskedEq : syscallRuleMask env g entries = (g', .ok masked))
    (actionsOf : Json.get entries "actions" =
      some (.array [.string "always".toList, .string "exit".toList]))
    (noFields : Json.get entries "fields" = none) (noKey : Json.get entries "key" = none) :
    ∃ ruleData, syscallRuleData env g (.object entries) =
      (g', .ok (ruleData, auditFilterExit, auditAlways)) ∧ ruleData.buflen = masked.buflen := by
  have chosen : setActionAndFilters [.string "always".toList, .string "exit".toList] =
      (auditAlways, auditFilterExit) := rfl
  have options : syscallRuleOptions env auditFilterExit g' entries masked =
      (g', .ok (if (Json.get entries "prepend").isSome then
        { masked with flags := masked.flags ||| auditFilterPrepend } else masked)) := by
    rw [syscallRuleOptions, noFields]
    dsimp only
    unfold ruleKey
    rw [noKey]
    rfl
  refine ⟨if (Json.get entries "prepend").isSome then
    { masked with flags := masked.flags ||| auditFilterPrepend } else masked, ?_,
    by split <;> rfl⟩
  rw [syscallRuleData, maskedEq]
  dsimp only
  rw [actionsOf]
  dsimp only [Json.asArray]
  rw [chosen]
  dsimp only
  rw [options]
  dsimp only
  rw [if_pos (show auditFilterExit ≠ auditFilterUnset by decide)]

/-! ## Three documents -/

/-- The entries of the syscall rule `{"syscalls": [name], "actions": ["always", "exit"]}`, with
the entries `options` after. -/
def alwaysExitRule (name : List Char) (options : List (List Char × Json)) :
    List (List Char × Json) :=
  [("syscalls".toList, .array [.string name]),
    ("actions".toList, .array [.string "always".toList, .string "exit".toList])] ++ options

/-- The document `{"syscall_rules": rules}`. -/
def syscallRulesDocument (rules : List Json) : Json :=
  .object [("syscall_rules".toList, .array rules)]

/-- A rule environment whose syscall table knows `open` only, under its x86-64 number 2. -/
def openOnlyEnv : RuleEnv where
  sysMapX64 name := if name = "open".toList then 2 else -1
  msgTypeTab _ := none
  lookupUser _ := .error "unknown user"
  stat _ := .notExist
  formatValue _ := ""
  toLowerRune := Char.toLower

theorem setRules_object {env : RuleEnv} {o : Go.ByteOrder} {s : Socket} {g : Globals}
    {m : List (List Char × Json)} {strictPath : Bool} (checked : strictPathCheck m = .ok strictPath) :
    setRules env o (.ok (.object m)) s g =
      (Go.Flow.loop (keyStep env o strictPath) ⟨s, g, [], none⟩ m).map SetRulesFlow.returned := by
  rw [setRules, checked]

/-- A document of syscall rules only is the loop over its rules, from globals where no syscall
has been added. -/
theorem setRules_syscallRulesDocument (env : RuleEnv) (o : Go.ByteOrder) (s : Socket)
    (g : Globals) (rules : List Json) :
    setRules env o (.ok (syscallRulesDocument rules)) s g =
      (Go.Flow.loop (syscallRuleStep env o) ⟨s, { g with auditSyscallAdded := false }, [], none⟩
        rules).map SetRulesFlow.returned := by
  rw [syscallRulesDocument, setRules_object rfl, Go.Flow.loop_singleton, keyStep_syscallRules]

section AlwaysExit

variable {env : RuleEnv} {g : Globals} {name : List Char} {options : List (List Char × Json)}

theorem syscallRuleData_alwaysExitRule_known (nonneg : 0 ≤ env.sysMapX64 name)
    (small : env.sysMapX64 name < 2016) (noFields : Json.get options "fields" = none)
    (noKey : Json.get options "key" = none) :
    ∃ ruleData, syscallRuleData env g (.object (alwaysExitRule name options)) =
      ({ g with auditSyscallAdded := true }, .ok (ruleData, auditFilterExit, auditAlways)) ∧
      ruleData.buflen = 0 := by
  obtain ⟨masked, maskedEq, empty⟩ : ∃ masked, syscallRuleMask env g (alwaysExitRule name options) =
      ({ g with auditSyscallAdded := true }, .ok masked) ∧ masked.buflen = 0 :=
    syscallRuleMask_known rfl nonneg small
  obtain ⟨ruleData, compiled, kept⟩ := syscallRuleData_always_exit maskedEq rfl noFields noKey
  exact ⟨ruleData, compiled, kept.trans empty⟩

theorem syscallRuleData_alwaysExitRule_unknown_of_added (unknown : env.sysMapX64 name = -1)
    (added : g.auditSyscallAdded = true) (noFields : Json.get options "fields" = none)
    (noKey : Json.get options "key" = none) :
    ∃ ruleData, syscallRuleData env g (.object (alwaysExitRule name options)) =
      (g, .ok (ruleData, auditFilterExit, auditAlways)) ∧ ruleData.buflen = 0 := by
  have maskedEq : syscallRuleMask env g (alwaysExitRule name options) =
      (g, .ok AuditRuleData.empty) := by
    rw [syscallRuleMask_unknown rfl unknown, if_pos added]
  exact syscallRuleData_always_exit maskedEq rfl noFields noKey

theorem syscallRuleData_alwaysExitRule_unknown_alone (unknown : env.sysMapX64 name = -1)
    (notAdded : g.auditSyscallAdded = false) :
    syscallRuleData env g (.object (alwaysExitRule name options)) =
      (g, .error (.error ("SetRules failed: one or more syscalls not found: " ++
        String.ofList (' ' :: name)))) := by
  have maskedEq : syscallRuleMask env g (alwaysExitRule name options) =
      (g, .error (.error ("SetRules failed: one or more syscalls not found: " ++
        String.ofList (' ' :: name)))) := by
    rw [syscallRuleMask_unknown rfl unknown, notAdded]
    rfl
  rw [syscallRuleData, maskedEq]

end AlwaysExit

/-- **A file rule without a path ends `SetRules` with success.**  On a document whose first key
is `file_rules` and whose first file rule has no `path`, `SetRules` returns no rules and a `nil`
error, and sends nothing, whatever the rules after it. -/
theorem setRules_succeeds_on_file_rule_without_path (env : RuleEnv) (o : Go.ByteOrder) (s : Socket)
    (g : Globals) {rule : List (List Char × Json)} (noPath : Json.get rule "path" = none)
    (more : List Json) :
    setRules env o (.ok (.object [("file_rules".toList, .array (.object rule :: more))])) s g =
      some (.ok [], s, { g with auditSyscallAdded := false }) := by
  have checked : strictPathCheck [("file_rules".toList, .array (.object rule :: more))] =
      .ok false := rfl
  have stopped := fileRuleStep_without_path env o false
    ⟨s, { g with auditSyscallAdded := false }, [], none⟩ rfl noPath
  have keyed : keyStep env o false ⟨s, g, [], none⟩
      ("file_rules".toList, .array (.object rule :: more)) =
      some (.exit (.ok [], s, { g with auditSyscallAdded := false })) := by
    rw [keyStep_fileRules]
    exact Go.Flow.loop_cons_of_exit stopped
  rw [setRules_object checked, Go.Flow.loop_cons_of_exit keyed]
  rfl

/-- `{"file_rules": [{"key": "audit"}, {"path": "/etc/passwd"}]}` is accepted, and neither rule
is sent. -/
theorem setRules_succeeds_on_file_rule_without_path_keyed :
    Json.get [("key".toList, .string "audit".toList)] "path" = none ∧
      setRules openOnlyEnv .littleEndian (.ok (.object [("file_rules".toList,
          .array [.object [("key".toList, .string "audit".toList)],
            .object [("path".toList, .string "/etc/passwd".toList)]])]))
          ⟨.ok (), .ok 0, [], [], 0⟩ ⟨false, false⟩ =
        some (.ok [], ⟨.ok (), .ok 0, [], [], 0⟩, ⟨false, false⟩) :=
  ⟨rfl, setRules_succeeds_on_file_rule_without_path openOnlyEnv .littleEndian _ _ rfl _⟩

/-- **Rules of one key are not independent.**  A syscall rule whose one syscall is not in the
table is refused alone, and accepted after a rule whose syscall is. -/
theorem setRules_accepts_unknown_syscall_after_known (env : RuleEnv) (o : Go.ByteOrder)
    {s : Socket} (g : Globals) {pid : UInt32} {known unknown : List Char}
    (nonneg : 0 ≤ env.sysMapX64 known) (small : env.sysMapX64 known < 2016)
    (notInTable : env.sysMapX64 unknown = -1) (acknowledging : s.Acknowledging o pid 2) :
    (∃ rules s' g', setRules env o (.ok (syscallRulesDocument
        [.object (alwaysExitRule known []), .object (alwaysExitRule unknown [])])) s g =
        some (.ok rules, s', g') ∧ rules.length = 2) ∧
      ∃ s' g', setRules env o (.ok (syscallRulesDocument [.object (alwaysExitRule unknown [])]))
        s g = some (.error (.error ("SetRules failed: one or more syscalls not found: " ++
          String.ofList (' ' :: unknown))), s', g') := by
  let start : SetRulesState := ⟨s, { g with auditSyscallAdded := false }, [], none⟩
  constructor
  · -- the first rule adds its syscall, and the second rule passes on that
    obtain ⟨ruleData₁, compiled₁, empty₁⟩ : ∃ ruleData, syscallRuleData env start.globals
        (.object (alwaysExitRule known [])) = ({ start.globals with auditSyscallAdded := true },
          .ok (ruleData, auditFilterExit, auditAlways)) ∧ ruleData.buflen = 0 :=
      syscallRuleData_alwaysExitRule_known nonneg small rfl rfl
    obtain ⟨s₁, added₁, acknowledging₁, stepped₁⟩ :=
      syscallRuleStep_acknowledged start acknowledging compiled₁ (by rw [empty₁]; decide)
    let second : SetRulesState :=
      ⟨s₁, { start.globals with auditSyscallAdded := true }, [] ++ [added₁], none⟩
    obtain ⟨ruleData₂, compiled₂, empty₂⟩ : ∃ ruleData, syscallRuleData env second.globals
        (.object (alwaysExitRule unknown [])) =
          (second.globals, .ok (ruleData, auditFilterExit, auditAlways)) ∧ ruleData.buflen = 0 :=
      syscallRuleData_alwaysExitRule_unknown_of_added notInTable rfl rfl rfl
    obtain ⟨s₂, added₂, -, stepped₂⟩ :=
      syscallRuleStep_acknowledged second acknowledging₁ compiled₂ (by rw [empty₂]; decide)
    refine ⟨[] ++ [added₁] ++ [added₂], s₂, second.globals, ?_, rfl⟩
    rw [setRules_syscallRulesDocument, Go.Flow.loop_cons_of_next stepped₁,
      Go.Flow.loop_cons_of_next stepped₂]
    rfl
  · -- alone, the rule is refused by the check after its syscalls
    let refusal : Go.Fault := .error ("SetRules failed: one or more syscalls not found: " ++
      String.ofList (' ' :: unknown))
    have refused : syscallRuleData env start.globals (.object (alwaysExitRule unknown [])) =
        (start.globals, .error refusal) :=
      syscallRuleData_alwaysExitRule_unknown_alone notInTable rfl
    have stopped : syscallRuleStep env o start (.object (alwaysExitRule unknown [])) =
        some (.exit (.error refusal, s, start.globals)) := by
      rw [syscallRuleStep, refused]
    refine ⟨s, start.globals, ?_⟩
    rw [setRules_syscallRulesDocument, Go.Flow.loop_cons_of_exit stopped]
    rfl

/-- `{"syscall_rules": [{"syscalls": ["open"], …}, {"syscalls": ["nosuch"], …}]}` is accepted
with two rules, and the second rule alone is refused. -/
theorem setRules_accepts_nosuch_after_open :
    openOnlyEnv.sysMapX64 "open".toList = 2 ∧ openOnlyEnv.sysMapX64 "nosuch".toList = -1 ∧
      (∃ rules s' g', setRules openOnlyEnv .littleEndian (.ok (syscallRulesDocument
          [.object (alwaysExitRule "open".toList []), .object (alwaysExitRule "nosuch".toList [])]))
          ⟨.ok (), .ok 0, acknowledgements .littleEndian 0 0 2, [], 0⟩ ⟨false, false⟩ =
          some (.ok rules, s', g') ∧ rules.length = 2) ∧
      ∃ s' g', setRules openOnlyEnv .littleEndian (.ok (syscallRulesDocument
          [.object (alwaysExitRule "nosuch".toList [])]))
          ⟨.ok (), .ok 0, acknowledgements .littleEndian 0 0 2, [], 0⟩ ⟨false, false⟩ =
        some (.error (.error ("SetRules failed: one or more syscalls not found: " ++
          String.ofList (' ' :: "nosuch".toList))), s', g') :=
  ⟨by decide, by decide, setRules_accepts_unknown_syscall_after_known openOnlyEnv .littleEndian
    ⟨false, false⟩ (by decide) (by decide) (by decide) ⟨rfl, rfl, rfl⟩⟩

/-- A document of one syscall rule whose one syscall is in the table, with neither fields nor
key, is accepted with its rule when the kernel acknowledges it. -/
theorem setRules_alwaysExitRule_known (env : RuleEnv) (o : Go.ByteOrder) (s : Socket)
    (g : Globals) (pid : UInt32) {count : Nat} (name : List Char)
    (options : List (List Char × Json)) (nonneg : 0 ≤ env.sysMapX64 name)
    (small : env.sysMapX64 name < 2016) (noFields : Json.get options "fields" = none)
    (noKey : Json.get options "key" = none) (acknowledging : s.Acknowledging o pid (count + 1)) :
    ∃ rule s' g', setRules env o (.ok (syscallRulesDocument [.object (alwaysExitRule name options)]))
      s g = some (.ok [rule], s', g') := by
  let start : SetRulesState := ⟨s, { g with auditSyscallAdded := false }, [], none⟩
  obtain ⟨ruleData, compiled, empty⟩ : ∃ ruleData, syscallRuleData env start.globals
      (.object (alwaysExitRule name options)) = ({ start.globals with auditSyscallAdded := true },
        .ok (ruleData, auditFilterExit, auditAlways)) ∧ ruleData.buflen = 0 :=
    syscallRuleData_alwaysExitRule_known nonneg small noFields noKey
  obtain ⟨s', added, -, stepped⟩ :=
    syscallRuleStep_acknowledged start acknowledging compiled (by rw [empty]; decide)
  refine ⟨added, s', { start.globals with auditSyscallAdded := true }, ?_⟩
  rw [setRules_syscallRulesDocument, Go.Flow.loop_cons_of_next stepped]
  rfl

/-- `{"syscall_rules": [{"syscalls": ["open"], "actions": ["always", "exit"], "prepend": true}]}`
is accepted, and its rule is sent without `AUDIT_FILTER_PREPEND`. -/
theorem setRules_drops_prepend_of_open :
    ∃ rules s' g', setRules openOnlyEnv .littleEndian (.ok (syscallRulesDocument
        [.object (alwaysExitRule "open".toList [("prepend".toList, .bool true)])]))
        ⟨.ok (), .ok 0, acknowledgements .littleEndian 0 0 1, [], 0⟩ ⟨false, false⟩ =
        some (.ok rules, s', g') ∧
      rules ≠ [] ∧ ∀ rule ∈ rules, rule.flags &&& auditFilterPrepend = 0 := by
  obtain ⟨rule, s', g', returned⟩ := setRules_alwaysExitRule_known openOnlyEnv .littleEndian
    ⟨.ok (), .ok 0, acknowledgements .littleEndian 0 0 1, [], 0⟩ ⟨false, false⟩ 0 "open".toList
    [("prepend".toList, .bool true)] (by decide) (by decide) rfl rfl ⟨rfl, rfl, rfl⟩
  exact ⟨[rule], s', g', returned, List.cons_ne_nil _ _, setRules_drops_prepend returned⟩

/-- `{"syscall_rules": [{"syscalls": ["open"], "actions": ["always", "exit"]}]}`: the one rule
returned is the one request sent. -/
theorem setRules_sent_returned_of_open :
    ∃ rules s' g', setRules openOnlyEnv .littleEndian (.ok (syscallRulesDocument
        [.object (alwaysExitRule "open".toList [])]))
        ⟨.ok (), .ok 0, acknowledgements .littleEndian 0 0 1, [], 0⟩ ⟨false, false⟩ =
        some (.ok rules, s', g') ∧
      rules ≠ [] ∧ s'.sent = [] ++ addRuleRequests .littleEndian 0 rules := by
  obtain ⟨rule, s', g', returned⟩ := setRules_alwaysExitRule_known openOnlyEnv .littleEndian
    ⟨.ok (), .ok 0, acknowledgements .littleEndian 0 0 1, [], 0⟩ ⟨false, false⟩ 0 "open".toList
    [] (by decide) (by decide) rfl rfl ⟨rfl, rfl, rfl⟩
  have nonempty : [rule] ≠ [] := List.cons_ne_nil _ _
  exact ⟨[rule], s', g', returned, nonempty, setRules_sent_returned returned nonempty⟩

/-! ## Malformed documents -/

/-- **`SetRules` panics on a document that is not an object**: `rules.(map[string]interface{})`
is an unchecked type assertion, so an array, a string, a number, a boolean or `null` at the top
level panics instead of being refused with an error. -/
theorem setRules_panics_on_non_object (env : RuleEnv) (o : Go.ByteOrder) (s : Socket)
    (g : Globals) {document : Json} (notObject : ∀ entries, document ≠ .object entries) :
    setRules env o (.ok document) s g = some (.error (.panic .typeAssertion), s, g) := by
  cases document with
  | object entries => exact absurd rfl (notObject entries)
  | _ => rfl

/-- The document `[]`, which `json.Unmarshal` decodes into an empty `[]interface{}`. -/
theorem setRules_panics_on_empty_array :
    (∀ entries, Json.array [] ≠ .object entries) ∧
      setRules openOnlyEnv .littleEndian (.ok (.array [])) ⟨.ok (), .ok 0, [], [], 0⟩
          ⟨false, false⟩ =
        some (.error (.panic .typeAssertion), ⟨.ok (), .ok 0, [], [], 0⟩, ⟨false, false⟩) :=
  ⟨fun _ same => Json.noConfusion same,
    setRules_panics_on_non_object _ _ _ _ fun _ same => Json.noConfusion same⟩

end LibAudit
