import LibAudit.Go.Loop
import LibAudit.Rules.Fields

/-!
# Audit rules: `SetRules`

`SetRules(s, content)` walks the keys of a rules document.  Under `file_rules` each entry is a
watch of a path, with optional permissions and key; under `syscall_rules` each entry names
syscalls, actions, fields and a key.  Every rule is compiled into an `AuditRuleData` and sent
in an `AUDIT_ADD_RULE` request by `auditAddRuleData`, which waits for the kernel's answer.

## The model

`SetRules` threads the socket, the package variables (`Globals`), the rules added so far and
its variable `err` through two nested loops (`SetRulesState`), each a `Go.Flow.loop` whose
body may end `SetRules` with its return (`SetRulesFlow`).  Each step compiles a
rule without the socket (`fileRuleData`, `syscallRuleData`) and then sends it (`addRule`).

The document is given as what `json.Unmarshal` makes of `content`, its error text or the decoded
value; an object lists its entries in the order `range` visits them.
-/

namespace LibAudit

/-! ## Actions, filters and operators -/

/-- One value of a rule's `actions`: `never`, `possible` and `always` set the action, `task`,
`entry`, `exit`, `user` and `exclude` the filter list; `entry` names the exit list. -/
def actionStep (chosen : Int × Int) (value : Json) : Int × Int :=
  let value := some value
  if Json.isString "never" value then (auditNever, chosen.2)
  else if Json.isString "possible" value then (auditPossible, chosen.2)
  else if Json.isString "always" value then (auditAlways, chosen.2)
  else if Json.isString "task" value then (chosen.1, auditFilterTask)
  else if Json.isString "entry" value then (chosen.1, auditFilterExit)
  else if Json.isString "exit" value then (chosen.1, auditFilterExit)
  else if Json.isString "user" value then (chosen.1, auditFilterUser)
  else if Json.isString "exclude" value then (chosen.1, auditFilterExclude)
  else chosen

/-- `setActionAndFilters(actions)`: the last action and the last filter list named, `-1` and
`AUDIT_FILTER_UNSET` when none is. -/
def setActionAndFilters (actions : List Json) : Int × Int :=
  actions.foldl actionStep (-1, auditFilterUnset)

/-- The operator a field's `op` names, 0 when it names none. -/
def operatorOf (op : Option Json) : UInt32 :=
  if Json.isString "nt_eq" op then auditNotEqual
  else if Json.isString "gt_or_eq" op then auditGreaterThanOrEqual
  else if Json.isString "lt_or_eq" op then auditLessThanOrEqual
  else if Json.isString "and_eq" op then auditBitTest
  else if Json.isString "eq" op then auditEqual
  else if Json.isString "gt" op then auditGreaterThan
  else if Json.isString "lt" op then auditLessThan
  else if Json.isString "and" op then auditBitMask
  else 0

/-! ## Sending a rule -/

/-- `errEntryDep`. -/
def errEntryDep : Go.Fault := .error "use of entry filter is deprecated"

/-- The `AUDIT_ADD_RULE` request that `auditAddRuleData` sends for `rule`, numbered `seq`, once
`toWireFormat` has returned its wire image. -/
def addRuleRequest (o : Go.ByteOrder) (rule : AuditRuleData) (seq : UInt32) : NetlinkMessage :=
  ruleRequest auditAddRule (rule.wireImage o) seq

/-- `auditAddRuleData(s, rule, flags, action)`: the rule as it leaves it, with `Flags` and
`Action` overwritten, and the outcome with the socket; `none` when the wait for the kernel's
answer blocks for good. -/
def auditAddRuleData (o : Go.ByteOrder) (s : Socket) (rule : AuditRuleData) (flags action : Int) :
    AuditRuleData × Option (Except Go.Fault Unit × Socket) :=
  if flags = auditFilterEntry then
    (rule, some (.error (errEntryDep.wrap "auditAddRuleData failed"), s))
  else
    let rule := { rule with flags := UInt32.ofInt flags, action := UInt32.ofInt action }
    match rule.toWireFormat o with
    -- the panic comes before the request takes a number
    | .error p => (rule, some (.error (.panic p), s))
    | .ok newbuff =>
      let seq := s.sequenceNumber + 1
      (rule, match ({ s with sequenceNumber := seq } : Socket).send
          (ruleRequest auditAddRule newbuff seq) with
        | .error err =>
          some (.error (err.wrap "auditAddRuleData failed"), { s with sequenceNumber := seq })
        | .ok s => (auditGetReply o s seq).map fun (result, s) =>
          (result.mapError (Go.Fault.wrap "AuditAddRule failed"), s))

/-! ## The loops of `SetRules` -/

/-- What `SetRules` returns: the rules it added, or its error. -/
abbrev SetRulesResult := Except Go.Fault (List AuditRuleData)

/-- `return nil, err`: no rules and the error `err`, which may be `nil`. -/
def returnNil (err : Option Go.Fault) : SetRulesResult :=
  match err with
  | none => .ok []
  | some err => .error err

/-- What `SetRules` threads through its loops. -/
structure SetRulesState where
  socket : Socket
  globals : Globals
  /-- `ruleArray`: the rules added so far. -/
  ruleArray : List AuditRuleData
  /-- The variable `err`, as the last assignment left it. -/
  err : Option Go.Fault

/-- How a step or a loop of `SetRules` ends: with the state for what follows, or with the return
of `SetRules`, with the socket and the package variables it leaves. -/
abbrev SetRulesFlow := Go.Flow SetRulesState (SetRulesResult × Socket × Globals)

/-- The end of a step that sends the compiled rule `ruleData` for the filter list `filter`:
`ruleArray = append(ruleArray, &ruleData)` once the kernel has answered. -/
def addRule (o : Go.ByteOrder) (state : SetRulesState) (g : Globals) (ruleData : AuditRuleData)
    (filter action : Int) : Option SetRulesFlow :=
  match auditAddRuleData o state.socket ruleData filter action with
  | (_, none) => none
  | (ruleData, some (.error err, s)) =>
    some (.exit (.error (err.wrap ("SetRules failed " ++ ruleData.format)), s, g))
  | (ruleData, some (.ok (), s)) => some (.next ⟨s, g, state.ruleArray ++ [ruleData], none⟩)

/-- A rule's optional `key`, the same for file rules and syscall rules. -/
def ruleKey (env : RuleEnv) (g : Globals) (rule : List (List Char × Json))
    (ruleData : AuditRuleData) : Globals × Except Go.Fault AuditRuleData :=
  match Json.get rule "key" with
  | none => (g, .ok ruleData)
  | some key =>
    let (g, keyed) := auditRuleFieldPairData env g ruleData (some key) auditEqual "key".toList
      auditFilterUnset
    (g, keyed.mapError (Go.Fault.wrap "SetRules failed"))

/-- One entry of `file_rules` up to its sending: the watch of its path with its permissions and
its key, or the error `SetRules` returns, `nil` included.  `err` is the value the variable
`err` holds. -/
def fileRuleData (env : RuleEnv) (strictPath : Bool) (g : Globals) (err : Option Go.Fault) :
    Json → Globals × Except (Option Go.Fault) AuditRuleData
  | .object rule =>
    let path := Json.get rule "path"
    if Json.isString "" path || path.isNone then
      -- `errors.Wrap` of a `nil` error is `nil`
      (g, .error (err.map (Go.Fault.wrap "SetRules failed: watch option needs a path")))
    else
      let g := { g with auditSyscallAdded := true }
      match path with
      | some (.string pathName) =>
        match auditSetupAndAddWatchDir env AuditRuleData.empty pathName strictPath with
        | .error err => (g, .error (some (err.wrap "SetRules failed")))
        | .ok ruleData =>
          let permitted : Except Go.Fault AuditRuleData :=
            match Json.get rule "permission" with
            | none => .ok ruleData
            | some (.string perms) =>
              (auditSetupAndUpdatePerms env ruleData perms).mapError (Go.Fault.wrap "SetRules failed")
            | some _ => .error (.panic .typeAssertion)
          match permitted with
          | .error err => (g, .error (some err))
          | .ok ruleData =>
            let (g, keyed) := ruleKey env g rule ruleData
            (g, keyed.mapError some)
      | _ => (g, .error (some (.panic .typeAssertion)))
  | _ => (g, .error (some (.panic .typeAssertion)))

/-- One entry of `file_rules`. -/
def fileRuleStep (env : RuleEnv) (o : Go.ByteOrder) (strictPath : Bool) (state : SetRulesState)
    (rule : Json) : Option SetRulesFlow :=
  match fileRuleData env strictPath state.globals state.err rule with
  | (g, .error err) => some (.exit (returnNil err, state.socket, g))
  | (g, .ok ruleData) => addRule o state g ruleData auditFilterExit auditAlways

/-- The loop over a rule's `syscalls`: the rule with their bits, and the names not found, each
after a space. -/
def syscallsLoop (env : RuleEnv) :
    Globals → AuditRuleData → List Char → List Json →
      Globals × Except Go.Fault (AuditRuleData × List Char)
  | g, ruleData, notFound, [] => (g, .ok (ruleData, notFound))
  | g, ruleData, notFound, syscall :: syscalls =>
    match syscall with
    | .string name =>
      if env.sysMapX64 name ≠ -1 then
        match auditRuleSyscallData ruleData (env.sysMapX64 name) with
        | .ok ruleData =>
          syscallsLoop env { g with auditSyscallAdded := true } ruleData notFound syscalls
        | .error err => (g, .error (err.wrap "SetRules failed"))
      else syscallsLoop env g ruleData (notFound ++ ' ' :: name) syscalls
    -- the message shows the zero value of the shadowing `syscall, ok := syscall.(string)`
    | _ => (g, .error (.error "SetRules failed: unexpected syscall name "))

/-- A rule's `syscalls`, and the check after the loop over them. -/
def syscallRuleMask (env : RuleEnv) (g : Globals) (srule : List (List Char × Json)) :
    Globals × Except Go.Fault AuditRuleData :=
  let (g, syscalls) :=
    match Json.asArray (Json.get srule "syscalls") with
    | some syscalls => syscallsLoop env g AuditRuleData.empty [] syscalls
    | none => (g, .ok (AuditRuleData.empty, []))
  match syscalls with
  | .error err => (g, .error err)
  | .ok (ruleData, syscallsNotFound) =>
    -- `auditSyscallAdded` is reset for each key of the document, not for each rule
    if ¬ g.auditSyscallAdded then
      (g, .error (.error ("SetRules failed: one or more syscalls not found: " ++
        String.ofList syscallsNotFound)))
    else (g, .ok ruleData)

/-- The loop over a rule's `fields` for the filter list `filter`. -/
def fieldsLoop (env : RuleEnv) (filter : Int) :
    Globals → AuditRuleData → List Json → Globals × Except Go.Fault AuditRuleData
  | g, ruleData, [] => (g, .ok ruleData)
  | g, ruleData, field :: fields =>
    match field with
    | .object field =>
      match Json.get field "name" with
      | some (.string fieldname) =>
        match auditRuleFieldPairData env g ruleData (Json.get field "value")
            (operatorOf (Json.get field "op")) fieldname filter with
        | (g, .ok ruleData) => fieldsLoop env filter g ruleData fields
        | (g, .error err) => (g, .error (err.wrap "SetRules failed"))
      | _ => (g, .error (.panic .typeAssertion))
    | _ => (g, .error (.panic .typeAssertion))

/-- A syscall rule's optional `fields`, `key` and `prepend`, for the filter list `filter`. -/
def syscallRuleOptions (env : RuleEnv) (filter : Int) (g : Globals)
    (srule : List (List Char × Json)) (ruleData : AuditRuleData) :
    Globals × Except Go.Fault AuditRuleData :=
  let (g, fielded) :=
    match Json.asArray (Json.get srule "fields") with
    | some fields => fieldsLoop env filter g ruleData fields
    | none => (g, .ok ruleData)
  match fielded with
  | .error err => (g, .error err)
  | .ok ruleData =>
    let (g, keyed) := ruleKey env g srule ruleData
    (g, keyed.map fun ruleData =>
      if (Json.get srule "prepend").isSome then
        { ruleData with flags := ruleData.flags ||| auditFilterPrepend }
      else ruleData)

/-- The error of a rule whose actions name no filter list, which prints its first two actions:
a panic when there are fewer or they are not strings. -/
def filtersNotSet : List Json → Go.Fault
  | [] => .panic (.indexOutOfRange 0 0)
  | .string first :: rest =>
    match rest with
    | [] => .panic (.indexOutOfRange 1 1)
    | .string second :: _ =>
      .error ("SetRules failed: filters not set or invalid: " ++ String.ofList first ++ " , " ++
        String.ofList second ++ " ")
    | _ :: _ => .panic .typeAssertion
  | _ :: _ => .panic .typeAssertion

/-- One entry of `syscall_rules` up to its sending: the rule, its filter list and its action,
or the error `SetRules` returns. -/
def syscallRuleData (env : RuleEnv) (g : Globals) :
    Json → Globals × Except Go.Fault (AuditRuleData × Int × Int)
  | .object srule =>
    match syscallRuleMask env g srule with
    | (g, .error err) => (g, .error err)
    | (g, .ok ruleData) =>
      match Json.asArray (Json.get srule "actions") with
      | none => (g, .error (.panic .typeAssertion))
      | some actions =>
        let (action, filter) := setActionAndFilters actions
        match syscallRuleOptions env filter g srule ruleData with
        | (g, .error err) => (g, .error err)
        | (g, .ok ruleData) =>
          if filter ≠ auditFilterUnset then (g, .ok (ruleData, filter, action))
          else (g, .error (filtersNotSet actions))
  | _ => (g, .error (.panic .typeAssertion))

/-- One entry of `syscall_rules`. -/
def syscallRuleStep (env : RuleEnv) (o : Go.ByteOrder) (state : SetRulesState) (srule : Json) :
    Option SetRulesFlow :=
  match syscallRuleData env state.globals srule with
  | (g, .error err) => some (.exit (.error err, state.socket, g))
  | (g, .ok (ruleData, filter, action)) => addRule o state g ruleData filter action

/-- One key of the document: `auditSyscallAdded = false`, then the loop of its rules. -/
def keyStep (env : RuleEnv) (o : Go.ByteOrder) (strictPath : Bool) (state : SetRulesState)
    (entry : List Char × Json) : Option SetRulesFlow :=
  let state := { state with globals := { state.globals with auditSyscallAdded := false } }
  if entry.1 = "file_rules".toList then
    match entry.2 with
    | .array rules => Go.Flow.loop (fileRuleStep env o strictPath) state rules
    | _ => some (.exit (.error (.panic .typeAssertion), state.socket, state.globals))
  else if entry.1 = "syscall_rules".toList then
    match entry.2 with
    | .array rules => Go.Flow.loop (syscallRuleStep env o) state rules
    | _ => some (.exit (.error (.panic .typeAssertion), state.socket, state.globals))
  else some (.next state)

/-- `strict, ok := m["strict_path_check"]; ok && strict.(bool)`: whether paths are checked
strictly, or the panic of a `strict_path_check` that is not a `bool`. -/
def strictPathCheck (m : List (List Char × Json)) : Except Go.Panic Bool :=
  match Json.get m "strict_path_check" with
  | none => .ok false
  | some (.bool strict) => .ok strict
  | some _ => .error .typeAssertion

/-- What `SetRules` returns once the loop over the keys has ended: `ruleArray, nil` after the
last key, or the return of a step. -/
def SetRulesFlow.returned : SetRulesFlow → SetRulesResult × Socket × Globals
  | .next state => (.ok state.ruleArray, state.socket, state.globals)
  | .exit returned => returned

/-- `SetRules(s, content)`, with `content` as `json.Unmarshal` decodes it: what it returns, with
the socket and the package variables it leaves; `none` when a wait for the kernel's answer
blocks for good. -/
def setRules (env : RuleEnv) (o : Go.ByteOrder) (content : Except String Json) (s : Socket)
    (g : Globals) : Option (SetRulesResult × Socket × Globals) :=
  match content with
  | .error msg => some (.error ((Go.Fault.error msg).wrap "SetRules failed"), s, g)
  | .ok (.object m) =>
    match strictPathCheck m with
    | .error p => some (.error (.panic p), s, g)
    | .ok strictPath =>
      (Go.Flow.loop (keyStep env o strictPath) ⟨s, g, [], none⟩ m).map SetRulesFlow.returned
  -- `rules.(map[string]interface{})`
  | .ok _ => some (.error (.panic .typeAssertion), s, g)

end LibAudit
