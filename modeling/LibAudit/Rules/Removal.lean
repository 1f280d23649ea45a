import LibAudit.Rules.Listing
import LibAudit.Rules.Runs
import LibAudit.Rules.Watch

/-!
# Removing rules: `RemoveStaleLWAuditRules` and `CleanupRules`

Both functions delete rules from the kernel with `auditDeleteRuleData`, one `AUDIT_DEL_RULE`
request a rule.  `RemoveStaleLWAuditRules` deletes the rules of a list whose printed text,
lower-cased, names a key starting with `lw_`, and returns the lower-cased text of the others.
`CleanupRules` lists the kernel's rules and deletes those that `isAuditRulePresent` finds in a
list, and reports a failed deletion.

## Main definitions

* `auditDeleteRuleData`, with the request `delRuleRequest` it sends.
* `namesLWKey` — the test of `RemoveStaleLWAuditRules` on the text of a rule.
* `removeStep`, `removeStaleLWAuditRules` — `RemoveStaleLWAuditRules`.
* `cleanupStep`, `cleanupRules` — `CleanupRules`.

## Main statements

* `removeStaleLWAuditRules_acknowledged` — on a kernel that acknowledges every deletion, the
  rules whose text names such a key are deleted, in order, and the text of the others is kept;
  `loop_removeStep` is its run lemma.
* `removeStaleLWAuditRules_deletes_unkeyed_watch` — a watch with no key field whose path holds
  `-k lw_` is deleted.
* `cleanupRules_of_listAllRules_error` — when `ListAllRules` fails, `CleanupRules` returns `nil`.

## Design notes

**The test reads the text, not the fields.**  Whether a rule is the library's own is decided
on its printed text, so that any field printed with `-k lw_` or `key=lw_` in it counts, a path
as well as a key.

The text is lower-cased by `Go.toLower`, the model of `strings.ToLower`: on ASCII text it
lowers the letters in place, and on other text it lowers rune by rune through the Unicode
tables, which the `Interpreters` record supplies.  The deletion of a watch for its path is
stated for an ASCII path, where the lowering is byte by byte.
-/

namespace LibAudit

/-! ## `auditDeleteRuleData` -/

/-- The `AUDIT_DEL_RULE` request that `auditDeleteRuleData` sends for `rule`, numbered `seq`,
once `toWireFormat` has returned its wire image. -/
def delRuleRequest (o : Go.ByteOrder) (rule : AuditRuleData) (seq : UInt32) : NetlinkMessage :=
  ruleRequest auditDelRule (rule.wireImage o) seq

/-- `auditDeleteRuleData(s, rule, flags, action)`: the rule as it leaves it, with `Flags` and
`Action` overwritten, and the outcome with the socket; `none` when the wait for the kernel's
answer blocks for good. -/
def auditDeleteRuleData (o : Go.ByteOrder) (s : Socket) (rule : AuditRuleData)
    (flags action : UInt32) : AuditRuleData × Option (Except Go.Fault Unit × Socket) :=
  if flags = UInt32.ofInt auditFilterEntry then
    (rule, some (.error (errEntryDep.wrap "auditDeleteRuleData failed"), s))
  else
    let rule := { rule with flags := flags, action := action }
    match rule.toWireFormat o with
    -- the panic comes before the request takes a number
    | .error p => (rule, some (.error (.panic p), s))
    | .ok newbuff =>
      let seq := s.sequenceNumber + 1
      (rule, match ({ s with sequenceNumber := seq } : Socket).send
          (ruleRequest auditDelRule newbuff seq) with
        | .error err =>
          some (.error (err.wrap "auditDeleteRuleData failed"), { s with sequenceNumber := seq })
        | .ok s => (auditGetReply o s seq).map fun (result, s) =>
          (result.mapError (Go.Fault.wrap "auditDeleteRuleData failed"), s))

/-- **A rule the kernel acknowledges is deleted.**  With the rule's own `Flags` and `Action`,
as both callers pass them, `auditDeleteRuleData` sends the rule once under the next request
number, and leaves a socket that acknowledges one request fewer. -/
theorem auditDeleteRuleData_acknowledged {o : Go.ByteOrder} {pid : UInt32} {count : Nat}
    {s : Socket} (acknowledging : s.Acknowledging o pid (count + 1)) {rule : AuditRuleData}
    (notEntry : rule.flags ≠ UInt32.ofInt auditFilterEntry)
    (fits : rule.buflen.toNat < 2 ^ 32 - 1040) :
    ∃ s' : Socket, s'.Acknowledging o pid count ∧
      s'.sent = s.sent ++ [delRuleRequest o rule (s.sequenceNumber + 1)] ∧
      s'.sequenceNumber = s.sequenceNumber + 1 ∧
      auditDeleteRuleData o s rule rule.flags rule.action = (rule, some (.ok (), s')) := by
  obtain ⟨sendOk, ownPid, received⟩ := acknowledging
  refine ⟨{ s with
    sequenceNumber := s.sequenceNumber + 1
    sent := s.sent ++ [delRuleRequest o rule (s.sequenceNumber + 1)]
    received := acknowledgements o pid (s.sequenceNumber + 1) count },
    ⟨sendOk, ownPid, rfl⟩, rfl, rfl, ?_⟩
  have fits' : ({ rule with flags := rule.flags, action := rule.action } :
      AuditRuleData).buflen.toNat < 2 ^ 32 - 1040 := fits
  rw [auditDeleteRuleData, if_neg notEntry]
  simp only [AuditRuleData.toWireFormat_of_lt fits', Socket.send, sendOk, Except.map,
    auditGetReply, ownPid, received, acknowledgements, receiveReply_acknowledgement,
    Option.map_some]
  rfl

/-! ## `RemoveStaleLWAuditRules` -/

/-- `strings.Contains(str, "key=lw_") || strings.Contains(str, "-k lw_")`: the lower-cased text
`str` of a rule names a key of the library's own. -/
def namesLWKey (str : List Char) : Prop :=
  "key=lw_".toList <:+: str ∨ "-k lw_".toList <:+: str

instance : DecidablePred namesLWKey := fun str =>
  inferInstanceAs (Decidable ("key=lw_".toList <:+: str ∨ "-k lw_".toList <:+: str))

/-- One rule of the loop of `RemoveStaleLWAuditRules`, with the text `toString` kept so far:
a rule that names a key of the library's is deleted, and the text of another is kept.  A failed
deletion returns the text so far with the error. -/
def removeStep (interp : Interpreters) (o : Go.ByteOrder) (state : List Char × Socket)
    (r : AuditRuleData) :
    Option (Go.Flow (List Char × Socket)
      (Except Go.Panic (List Char × Option Go.Fault) × Socket)) :=
  let (toString, s) := state
  match printRule interp r with
  | .error p => some (.exit (.error p, s))
  | .ok printed =>
    let str := Go.toLower interp.toLowerRune printed
    if namesLWKey str then
      match (auditDeleteRuleData o s r r.flags r.action).2 with
      | none => none
      | some (.error (.panic p), s) => some (.exit (.error p, s))
      | some (.error err, s) => some (.exit (.ok (toString, some err), s))
      | some (.ok (), s) => some (.next (toString, s))
    else some (.next (toString ++ str, s))

/-- `RemoveStaleLWAuditRules(s, ruleArray)`: the kept text and the error, or the panic. -/
def removeStaleLWAuditRules (interp : Interpreters) (o : Go.ByteOrder) (s : Socket)
    (ruleArray : List AuditRuleData) :
    Option (Except Go.Panic (List Char × Option Go.Fault) × Socket) :=
  -- the source tests `len(ruleArray) != 0` twice
  if ruleArray.length ≠ 0 ∧ ruleArray.length ≠ 0 then
    (Go.Flow.loop (removeStep interp o) ([], s) ruleArray).map fun
      | .next (toString, s) => (.ok (toString, none), s)
      | .exit result => result
  else some (.ok ([], none), s)

section Removing

variable {interp : Interpreters} {o : Go.ByteOrder} {pid : UInt32}

/-- A rule whose text names a key of the library's is deleted, on a kernel that acknowledges
the deletion. -/
theorem removeStep_stale (toString : List Char) {s : Socket} {count : Nat}
    (acknowledging : s.Acknowledging o pid (count + 1)) {r : AuditRuleData} {printed : List Char}
    (printedOk : printRule interp r = .ok printed)
    (named : namesLWKey (Go.toLower interp.toLowerRune printed))
    (notEntry : r.flags ≠ UInt32.ofInt auditFilterEntry)
    (fits : r.buflen.toNat < 2 ^ 32 - 1040) :
    ∃ s' : Socket, s'.Acknowledging o pid count ∧
      s'.sent = s.sent ++ [delRuleRequest o r (s.sequenceNumber + 1)] ∧
      s'.sequenceNumber = s.sequenceNumber + 1 ∧
      removeStep interp o (toString, s) r = some (.next (toString, s')) := by
  obtain ⟨s', acknowledging', sent, numbered, deleted⟩ :=
    auditDeleteRuleData_acknowledged acknowledging notEntry fits
  refine ⟨s', acknowledging', sent, numbered, ?_⟩
  simp only [removeStep, printedOk, if_pos named, deleted]

/-- The text of another rule is kept. -/
theorem removeStep_kept {toString : List Char} {s : Socket} {r : AuditRuleData}
    {printed : List Char} (printedOk : printRule interp r = .ok printed)
    (kept : ¬ namesLWKey (Go.toLower interp.toLowerRune printed)) :
    removeStep interp o (toString, s) r =
      some (.next (toString ++ Go.toLower interp.toLowerRune printed, s)) := by
  simp only [removeStep, printedOk, if_neg kept]

/-- The rules of `rules` whose text, lower-cased with the rune map `lowerRune`, names a key of
the library's. -/
def staleRules (lowerRune : Char → Char) (text : AuditRuleData → List Char)
    (rules : List AuditRuleData) : List AuditRuleData :=
  rules.filter fun r => namesLWKey (Go.toLower lowerRune (text r))

/-- The lower-cased text of the other rules, one after the other. -/
def keptText (lowerRune : Char → Char) (text : AuditRuleData → List Char)
    (rules : List AuditRuleData) : List Char :=
  (rules.filter fun r => ¬ namesLWKey (Go.toLower lowerRune (text r))).flatMap fun r =>
    Go.toLower lowerRune (text r)

/-- The requests `auditDeleteRuleData` sends for `rules`, one after the other, numbered on from
`seq`. -/
def delRuleRequests (o : Go.ByteOrder) : UInt32 → List AuditRuleData → List NetlinkMessage
  | _, [] => []
  | seq, rule :: rules => delRuleRequest o rule (seq + 1) :: delRuleRequests o (seq + 1) rules

/-- **The run lemma of `RemoveStaleLWAuditRules`**: on a kernel that acknowledges every
deletion, the loop deletes the rules whose text names a key of the library's, in order, and
keeps the text of the others.  `text r` is what `printRule` prints of `r`. -/
theorem loop_removeStep {text : AuditRuleData → List Char} :
    ∀ (rules : List AuditRuleData) (toString : List Char) (s : Socket) (count : Nat),
      (∀ r ∈ rules, printRule interp r = .ok (text r)) →
      (∀ r ∈ rules, r.flags ≠ UInt32.ofInt auditFilterEntry) →
      (∀ r ∈ rules, r.buflen.toNat < 2 ^ 32 - 1040) →
      s.Acknowledging o pid (count + (staleRules interp.toLowerRune text rules).length) →
      ∃ s' : Socket, s'.Acknowledging o pid count ∧
        s'.sent = s.sent ++
          delRuleRequests o s.sequenceNumber (staleRules interp.toLowerRune text rules) ∧
        Go.Flow.loop (removeStep interp o) (toString, s) rules =
          some (.next (toString ++ keptText interp.toLowerRune text rules, s'))
  | [], toString, s, count, _, _, _, acknowledging =>
      ⟨s, acknowledging, by simp [staleRules, delRuleRequests],
        by simp [keptText, Go.Flow.loop]⟩
  | r :: rules, toString, s, count, printed, notEntry, fits, acknowledging => by
      have printedHead := printed r List.mem_cons_self
      have printedTail : ∀ r' ∈ rules, printRule interp r' = .ok (text r') :=
        fun r' member => printed r' (List.mem_cons_of_mem r member)
      have notEntryTail : ∀ r' ∈ rules, r'.flags ≠ UInt32.ofInt auditFilterEntry :=
        fun r' member => notEntry r' (List.mem_cons_of_mem r member)
      have fitsTail : ∀ r' ∈ rules, r'.buflen.toNat < 2 ^ 32 - 1040 :=
        fun r' member => fits r' (List.mem_cons_of_mem r member)
      by_cases named : namesLWKey (Go.toLower interp.toLowerRune (text r))
      · -- the rule is deleted: one acknowledgement is used up
        have stale : staleRules interp.toLowerRune text (r :: rules) =
            r :: staleRules interp.toLowerRune text rules := by
          simp [staleRules, named]
        rw [stale, List.length_cons, ← Nat.add_assoc] at acknowledging
        obtain ⟨s₁, acknowledging₁, sent₁, numbered₁, stepped⟩ :=
          removeStep_stale toString acknowledging printedHead named
            (notEntry r List.mem_cons_self) (fits r List.mem_cons_self)
        obtain ⟨s', acknowledging', sent', looped⟩ :=
          loop_removeStep rules toString s₁ count printedTail notEntryTail fitsTail acknowledging₁
        refine ⟨s', acknowledging', ?_, ?_⟩
        · rw [sent', sent₁, numbered₁, stale, delRuleRequests, List.append_assoc,
            List.singleton_append]
        · rw [Go.Flow.loop_cons_of_next stepped, looped]
          simp [keptText, named]
      · -- the rule's text is kept
        have stale : staleRules interp.toLowerRune text (r :: rules) =
            staleRules interp.toLowerRune text rules := by
          simp [staleRules, named]
        rw [stale] at acknowledging
        obtain ⟨s', acknowledging', sent', looped⟩ := loop_removeStep rules
          (toString ++ Go.toLower interp.toLowerRune (text r)) s count printedTail notEntryTail
          fitsTail acknowledging
        refine ⟨s', acknowledging', by rw [sent', stale], ?_⟩
        rw [Go.Flow.loop_cons_of_next (removeStep_kept printedHead named), looped]
        simp [keptText, named]

end Removing

/-- **`RemoveStaleLWAuditRules` on a kernel that acknowledges every deletion.**  When every rule
prints, it deletes the rules whose text, lower-cased by `strings.ToLower`, holds `key=lw_` or
`-k lw_`, in order, one request each, and returns the lower-cased text of the others and
`nil`. -/
theorem removeStaleLWAuditRules_acknowledged (interp : Interpreters) (o : Go.ByteOrder)
    {pid : UInt32} {count : Nat} {s : Socket} {rules : List AuditRuleData}
    {text : AuditRuleData → List Char}
    (printed : ∀ r ∈ rules, printRule interp r = .ok (text r))
    (notEntry : ∀ r ∈ rules, r.flags ≠ UInt32.ofInt auditFilterEntry)
    (fits : ∀ r ∈ rules, r.buflen.toNat < 2 ^ 32 - 1040)
    (acknowledging :
      s.Acknowledging o pid (count + (staleRules interp.toLowerRune text rules).length)) :
    ∃ s' : Socket, s'.Acknowledging o pid count ∧
      s'.sent = s.sent ++
        delRuleRequests o s.sequenceNumber (staleRules interp.toLowerRune text rules) ∧
      removeStaleLWAuditRules interp o s rules =
        some (.ok (keptText interp.toLowerRune text rules, none), s') := by
  by_cases empty : rules = []
  · subst empty
    exact ⟨s, acknowledging, by simp [staleRules, delRuleRequests], rfl⟩
  have nonempty : rules.length ≠ 0 := fun zero => empty (List.eq_nil_of_length_eq_zero zero)
  obtain ⟨s', acknowledging', sent', looped⟩ :=
    loop_removeStep rules [] s count printed notEntry fits acknowledging
  refine ⟨s', acknowledging', sent', ?_⟩
  rw [removeStaleLWAuditRules, if_pos ⟨nonempty, nonempty⟩, looped]
  rfl

/-- The path `/tmp/a -k lw_b`, a file name with `-k lw_` in it. -/
def lwPath : List Char := "/tmp/a -k lw_b".toList

/-- A watch `auditAddWatchDir` builds on the zero rule prints as a watch of the bytes in its
buffer, for every permission. -/
theorem auditAddWatchDir_printRule (interp : Interpreters) {typeName : UInt16}
    {pathName : List Char} {rule : AuditRuleData}
    (called : auditAddWatchDir typeName AuditRuleData.empty pathName = .ok rule)
    (short : pathName.length ≤ pathMax) :
    printRule interp rule = .ok ("-w ".toList ++ Go.stringOfBytes rule.buf ++ " -p ".toList ++
      permsText (auditPermRead ||| auditPermWrite ||| auditPermExec ||| auditPermAttr) ++ []) := by
  rw [(auditAddWatchDir_shape called short).printRule_eq interp
    (auditAddWatchDir_exit called short).1, (auditAddWatchDir_buf called).2]
  rfl

/-- Two watches `auditAddWatchDir` builds, of `/tmp/a -k lw_b` and of `/etc/passwd`, on a kernel
that acknowledges one request: the first is the one stale rule, and the text of the second is
kept. -/
theorem removeStaleLWAuditRules_acknowledged_watch :
    let interp : Interpreters :=
      ⟨fun _ => none, fun _ => "Unsupported".toList, "amd64".toList, fun _ value _ => .ok value,
        Char.toLower⟩
    let text : AuditRuleData → List Char := fun r =>
      "-w ".toList ++ Go.stringOfBytes r.buf ++ " -p ".toList ++
        permsText (auditPermRead ||| auditPermWrite ||| auditPermExec ||| auditPermAttr) ++ []
    let s : Socket := ⟨.ok (), .ok 7, acknowledgements .littleEndian 7 0 1, [], 0⟩
    ∃ stale kept : AuditRuleData,
      auditAddWatchDir auditWatch.toUInt16 AuditRuleData.empty lwPath = .ok stale ∧
      auditAddWatchDir auditWatch.toUInt16 AuditRuleData.empty "/etc/passwd".toList = .ok kept ∧
      ∃ s' : Socket, s'.Acknowledging .littleEndian 7 0 ∧
        s'.sent = s.sent ++ delRuleRequests .littleEndian s.sequenceNumber
          (staleRules interp.toLowerRune text [stale, kept]) ∧
        removeStaleLWAuditRules interp .littleEndian s [stale, kept] =
          some (.ok (keptText interp.toLowerRune text [stale, kept], none), s') := by
  intro interp text s
  obtain ⟨stale, staleCalled⟩ : ∃ watch,
      auditAddWatchDir auditWatch.toUInt16 AuditRuleData.empty lwPath = .ok watch := ⟨_, rfl⟩
  obtain ⟨kept, keptCalled⟩ : ∃ watch, auditAddWatchDir auditWatch.toUInt16 AuditRuleData.empty
      "/etc/passwd".toList = .ok watch := ⟨_, rfl⟩
  obtain ⟨-, staleEntry, staleFits⟩ := auditAddWatchDir_exit staleCalled (by decide)
  obtain ⟨-, keptEntry, keptFits⟩ := auditAddWatchDir_exit keptCalled (by decide)
  have printed : ∀ r ∈ [stale, kept], printRule interp r = .ok (text r) := by
    intro r member
    rcases List.mem_pair.mp member with rfl | rfl
    · exact auditAddWatchDir_printRule interp staleCalled (by decide)
    · exact auditAddWatchDir_printRule interp keptCalled (by decide)
  -- the texts, read off the paths in the buffers
  have staleNamed : namesLWKey (Go.toLower interp.toLowerRune (text stale)) := by
    simp only [text, (auditAddWatchDir_buf staleCalled).2]
    decide +kernel
  have keptNot : ¬ namesLWKey (Go.toLower interp.toLowerRune (text kept)) := by
    simp only [text, (auditAddWatchDir_buf keptCalled).2]
    decide +kernel
  have one : staleRules interp.toLowerRune text [stale, kept] = [stale] := by
    simp [staleRules, staleNamed, keptNot]
  have acknowledging : s.Acknowledging .littleEndian 7
      (0 + (staleRules interp.toLowerRune text [stale, kept]).length) := by
    rw [one]
    exact ⟨rfl, rfl, rfl⟩
  have notEntry : ∀ r ∈ [stale, kept], r.flags ≠ UInt32.ofInt auditFilterEntry := by
    intro r member
    rcases List.mem_pair.mp member with rfl | rfl
    · exact staleEntry
    · exact keptEntry
  have fits : ∀ r ∈ [stale, kept], r.buflen.toNat < 2 ^ 32 - 1040 := by
    intro r member
    rcases List.mem_pair.mp member with rfl | rfl
    · exact staleFits
    · exact keptFits
  exact ⟨stale, kept, staleCalled, keptCalled,
    removeStaleLWAuditRules_acknowledged interp .littleEndian printed notEntry fits acknowledging⟩

/-- The fields of a watch without a key are its path and its permissions: none is a key
field. -/
theorem WatchShape.no_filterkey {rule : AuditRuleData} {path : List UInt8} {perms : UInt32}
    (shape : WatchShape rule path perms none) :
    ∀ i (h : i < auditMaxFields), i < rule.fieldCount.toNat →
      rule.fields[i] &&& ~~~auditOperators ≠ auditFilterkey := by
  have count : rule.fieldCount.toNat = 2 := shape.count
  intro i h below
  match i with
  | 0 => rcases shape.watched with same | same <;> rw [same] <;> decide
  | 1 => rw [shape.permission]; decide
  | j + 2 => omega

/-- The permission letters are ASCII. -/
theorem isASCII_permsText (value : UInt32) : Go.Utf8.IsASCII (permsText value) := by
  have letters : permsText value ⊆ ['r', 'w', 'x', 'a'] := by
    intro c member
    simp only [permsText, List.mem_append] at member
    rcases member with ((read | write) | exec) | attr <;> split at * <;> simp_all
  exact fun c member => (by decide : Go.Utf8.IsASCII ['r', 'w', 'x', 'a']) c (letters member)

/-- **A watch is deleted for its path.**  A watch without a key field, of an ASCII path whose
lower-cased bytes hold `-k lw_`, is printed with `-k lw_` in its text, and
`RemoveStaleLWAuditRules` deletes it as one of the library's rules. -/
theorem removeStaleLWAuditRules_deletes_unkeyed_watch (interp : Interpreters) (o : Go.ByteOrder)
    {rule : AuditRuleData} {path : List UInt8} {perms : UInt32}
    (shape : WatchShape rule path perms none) (syscalls : takesSyscalls rule = true)
    (notEntry : rule.flags ≠ UInt32.ofInt auditFilterEntry)
    (fits : rule.buflen.toNat < 2 ^ 32 - 1040)
    (ascii : Go.Utf8.IsASCII (Go.stringOfBytes path))
    (named : "-k lw_".toList <:+: (Go.stringOfBytes path).map Char.toLower)
    {pid : UInt32} {count : Nat} {s : Socket} (acknowledging : s.Acknowledging o pid (count + 1)) :
    (∀ i (h : i < auditMaxFields), i < rule.fieldCount.toNat →
      rule.fields[i] &&& ~~~auditOperators ≠ auditFilterkey) ∧
    ∃ s' : Socket, s'.Acknowledging o pid count ∧
      s'.sent = s.sent ++ [delRuleRequest o rule (s.sequenceNumber + 1)] ∧
      removeStaleLWAuditRules interp o s [rule] = some (.ok ([], none), s') := by
  have printed := shape.printRule_eq interp syscalls
  -- the printed text is ASCII, so that `strings.ToLower` lowers it byte by byte
  have textAscii : Go.Utf8.IsASCII ("-w ".toList ++ Go.stringOfBytes path ++ " -p ".toList ++
      permsText perms ++ []) := by
    simp only [Go.Utf8.isASCII_append]
    exact ⟨⟨⟨⟨by decide, ascii⟩, by decide⟩, isASCII_permsText perms⟩, Go.Utf8.isASCII_nil⟩
  -- the path stands between `-w ` and ` -p `
  have stale : namesLWKey (Go.toLower interp.toLowerRune ("-w ".toList ++ Go.stringOfBytes path ++
      " -p ".toList ++ permsText perms ++ [])) := by
    rw [Go.toLower_of_ascii textAscii]
    refine Or.inr (named.trans
      ⟨"-w ".toList.map Char.toLower, (" -p ".toList ++ permsText perms).map Char.toLower, ?_⟩)
    simp only [List.append_nil, List.map_append, List.append_assoc]
  obtain ⟨s', acknowledging', sent, -, stepped⟩ :=
    removeStep_stale [] acknowledging printed stale notEntry fits
  refine ⟨shape.no_filterkey, s', acknowledging', sent, ?_⟩
  rw [removeStaleLWAuditRules, if_pos ⟨List.cons_ne_nil _ _ ∘ List.eq_nil_of_length_eq_zero,
    List.cons_ne_nil _ _ ∘ List.eq_nil_of_length_eq_zero⟩, Go.Flow.loop_singleton, stepped]
  rfl

/-- The watch `auditAddWatchDir` builds for `/tmp/a -k lw_b`, on a kernel that acknowledges one
request. -/
theorem removeStaleLWAuditRules_deletes_unkeyed_watch_tmp :
    let interp : Interpreters :=
      ⟨fun _ => none, fun _ => "Unsupported".toList, "amd64".toList, fun _ value _ => .ok value,
        Char.toLower⟩
    let s : Socket := ⟨.ok (), .ok 7, acknowledgements .littleEndian 7 0 1, [], 0⟩
    ∃ watch : AuditRuleData,
      auditAddWatchDir auditWatch.toUInt16 AuditRuleData.empty lwPath = .ok watch ∧
      (∀ i (h : i < auditMaxFields), i < watch.fieldCount.toNat →
        watch.fields[i] &&& ~~~auditOperators ≠ auditFilterkey) ∧
      ∃ s' : Socket, s'.Acknowledging .littleEndian 7 0 ∧
        s'.sent = s.sent ++ [delRuleRequest .littleEndian watch (s.sequenceNumber + 1)] ∧
        removeStaleLWAuditRules interp .littleEndian s [watch] = some (.ok ([], none), s') := by
  intro interp s
  obtain ⟨watch, called⟩ : ∃ watch,
      auditAddWatchDir auditWatch.toUInt16 AuditRuleData.empty lwPath = .ok watch := ⟨_, rfl⟩
  obtain ⟨syscalls, notEntry, fits⟩ := auditAddWatchDir_exit called (by decide)
  exact ⟨watch, called, removeStaleLWAuditRules_deletes_unkeyed_watch interp .littleEndian
    (auditAddWatchDir_shape called (by decide)) syscalls notEntry fits (by decide +kernel)
    (by decide +kernel) ⟨rfl, rfl, rfl⟩⟩

/-! ## `CleanupRules` -/

/-- One rule of the loop of `CleanupRules`, with the error `err` of the last deletion and
whether one failed: a listed rule that `ruleDeleteArray` holds is deleted. -/
def cleanupStep (o : Go.ByteOrder) (ruleDeleteArray : List AuditRuleData)
    (state : Option Go.Fault × Bool × Socket) (r : AuditRuleData) :
    Option (Go.Flow (Option Go.Fault × Bool × Socket) (Except Go.Fault Unit × Socket)) :=
  let (err, delFailure, s) := state
  if isAuditRulePresent r ruleDeleteArray then
    match (auditDeleteRuleData o s r r.flags r.action).2 with
    | none => none
    | some (.error (.panic p), s) => some (.exit (.error (.panic p), s))
    | some (.error err, s) => some (.next (some err, true, s))
    | some (.ok (), s) => some (.next (none, delFailure, s))
  else some (.next (err, delFailure, s))

/-- `CleanupRules(s, ruleDeleteArray)`: `nil`, the error or a panic; `none` when it waits for
good. -/
def cleanupRules (interp : Interpreters) (o : Go.ByteOrder) (s : Socket)
    (ruleDeleteArray : List AuditRuleData) : Option (Except Go.Fault Unit × Socket) :=
  (listAllRules interp o s).bind fun (listed, s) =>
    -- `_, ruleArray, err := ListAllRules(s)`: no rules when it fails; a panic goes on
    let listed : Except Go.Panic (List AuditRuleData × Option Go.Fault) :=
      match listed with
      | .ok (_, ruleArray) => .ok (ruleArray, none)
      | .error (.panic p) => .error p
      | .error err => .ok ([], some err)
    match listed with
    | .error p => some (.error (.panic p), s)
    | .ok (ruleArray, err) =>
      let delFailure := false
      let looped :=
        if ruleDeleteArray.length ≠ 0 then
          Go.Flow.loop (cleanupStep o ruleDeleteArray) (err, delFailure, s) ruleArray
        else some (.next (err, delFailure, s))
      looped.map fun
        | .exit result => result
        | .next (err, delFailure, s) =>
          if delFailure then (Go.wrap err "Some of the Audit Cleanup Rules failed", s)
          else (.ok (), s)

/-- **A failed listing is not reported.**  When `ListAllRules` returns an error, `ruleArray` is
`nil`: no deletion is tried, `delFailure` stays `false`, and `CleanupRules` returns `nil`. -/
theorem cleanupRules_of_listAllRules_error (interp : Interpreters) (o : Go.ByteOrder)
    {s s' : Socket} {msg : String} (ruleDeleteArray : List AuditRuleData)
    (failed : listAllRules interp o s = some (.error (.error msg), s')) :
    cleanupRules interp o s ruleDeleteArray = some (.ok (), s') := by
  rw [cleanupRules, failed, Option.bind_some]
  dsimp only
  split_ifs <;> rfl

/-- **A refused deletion is forgotten by a later one.**  `err` holds the outcome of the last
deletion only, and `errors.Wrap(nil, …)` is `nil`: whatever the deletions before it did, when
the kernel acknowledges the deletion of the last listed rule, `CleanupRules` returns `nil`. -/
theorem cleanupRules_of_last_acknowledged (interp : Interpreters) (o : Go.ByteOrder)
    {s s₁ s₂ : Socket} {printed : List (List Char)} {rules ruleDeleteArray : List AuditRuleData}
    {r : AuditRuleData} {err : Option Go.Fault} {delFailure : Bool} {pid : UInt32} {count : Nat}
    (listed : listAllRules interp o s = some (.ok (printed, rules ++ [r]), s₁))
    (deleting : ruleDeleteArray ≠ [])
    (looped : Go.Flow.loop (cleanupStep o ruleDeleteArray) (none, false, s₁) rules =
      some (.next (err, delFailure, s₂)))
    (present : isAuditRulePresent r ruleDeleteArray = true)
    (notEntry : r.flags ≠ UInt32.ofInt auditFilterEntry) (fits : r.buflen.toNat < 2 ^ 32 - 1040)
    (acknowledging : s₂.Acknowledging o pid (count + 1)) :
    ∃ s₃ : Socket, cleanupRules interp o s ruleDeleteArray = some (.ok (), s₃) := by
  obtain ⟨s₃, -, -, -, deleted⟩ := auditDeleteRuleData_acknowledged acknowledging notEntry fits
  have last : cleanupStep o ruleDeleteArray (err, delFailure, s₂) r =
      some (.next (none, delFailure, s₃)) := by
    simp only [cleanupStep, present, if_true, deleted]
  have nonempty : ruleDeleteArray.length ≠ 0 :=
    fun zero => deleting (List.eq_nil_of_length_eq_zero zero)
  refine ⟨s₃, ?_⟩
  rw [cleanupRules, listed, Option.bind_some]
  dsimp only
  rw [if_pos nonempty, Go.Flow.loop_append_of_next looped, Go.Flow.loop_singleton, last]
  -- with or without an earlier failure, the error wrapped is `nil`
  cases delFailure <;> rfl

/-! ### `CleanupRules` on a kernel that acknowledges every deletion -/

/-- `compareAuditRule` is equality on every field but `Buflen`. -/
theorem compareAuditRule_iff (a b : AuditRuleData) :
    compareAuditRule a b = true ↔ { a with buflen := b.buflen } = b := by
  obtain ⟨flags, action, fieldCount, mask, fields, values, fieldflags, buflen, buf⟩ := a
  obtain ⟨flags', action', fieldCount', mask', fields', values', fieldflags', buflen', buf'⟩ := b
  simp [compareAuditRule, and_assoc]

/-- The listed rules `CleanupRules` deletes: those that `isAuditRulePresent` finds in
`ruleDeleteArray`. -/
def presentRules (ruleDeleteArray rules : List AuditRuleData) : List AuditRuleData :=
  rules.filter fun r => isAuditRulePresent r ruleDeleteArray

/-- A listed rule is deleted exactly when a rule of `ruleDeleteArray` agrees with it on every
field but `Buflen`. -/
theorem mem_presentRules {ruleDeleteArray rules : List AuditRuleData} {r : AuditRuleData} :
    r ∈ presentRules ruleDeleteArray rules ↔
      r ∈ rules ∧ ∃ d ∈ ruleDeleteArray, { r with buflen := d.buflen } = d := by
  simp only [presentRules, List.mem_filter, isAuditRulePresent, List.any_eq_true,
    compareAuditRule_iff]

section Cleaning

variable {o : Go.ByteOrder} {pid : UInt32} {ruleDeleteArray : List AuditRuleData}

/-- A listed rule that `ruleDeleteArray` holds is deleted, on a kernel that acknowledges the
deletion: the last error is cleared, and no failure is recorded. -/
theorem cleanupStep_present (err : Option Go.Fault) (delFailure : Bool) {s : Socket}
    {count : Nat} (acknowledging : s.Acknowledging o pid (count + 1)) {r : AuditRuleData}
    (present : isAuditRulePresent r ruleDeleteArray = true)
    (notEntry : r.flags ≠ UInt32.ofInt auditFilterEntry) (fits : r.buflen.toNat < 2 ^ 32 - 1040) :
    ∃ s' : Socket, s'.Acknowledging o pid count ∧
      s'.sent = s.sent ++ [delRuleRequest o r (s.sequenceNumber + 1)] ∧
      s'.sequenceNumber = s.sequenceNumber + 1 ∧
      cleanupStep o ruleDeleteArray (err, delFailure, s) r =
        some (.next (none, delFailure, s')) := by
  obtain ⟨s', acknowledging', sent, numbered, deleted⟩ :=
    auditDeleteRuleData_acknowledged acknowledging notEntry fits
  refine ⟨s', acknowledging', sent, numbered, ?_⟩
  simp only [cleanupStep, present, if_true, deleted]

/-- Another listed rule is left alone. -/
theorem cleanupStep_absent (err : Option Go.Fault) (delFailure : Bool) (s : Socket)
    {r : AuditRuleData} (absent : isAuditRulePresent r ruleDeleteArray = false) :
    cleanupStep o ruleDeleteArray (err, delFailure, s) r = some (.next (err, delFailure, s)) := by
  simp only [cleanupStep, absent, Bool.false_eq_true, if_false]

/-- **The run lemma of `CleanupRules`**: on a kernel that acknowledges every deletion, the loop
deletes the listed rules that `ruleDeleteArray` holds, in order, and records no failure. -/
theorem loop_cleanupStep :
    ∀ (rules : List AuditRuleData) (err : Option Go.Fault) (s : Socket) (count : Nat),
      (∀ r ∈ rules, r.flags ≠ UInt32.ofInt auditFilterEntry) →
      (∀ r ∈ rules, r.buflen.toNat < 2 ^ 32 - 1040) →
      s.Acknowledging o pid (count + (presentRules ruleDeleteArray rules).length) →
      ∃ (s' : Socket) (err' : Option Go.Fault), s'.Acknowledging o pid count ∧
        s'.sent = s.sent ++ delRuleRequests o s.sequenceNumber
          (presentRules ruleDeleteArray rules) ∧
        Go.Flow.loop (cleanupStep o ruleDeleteArray) (err, false, s) rules =
          some (.next (err', false, s'))
  | [], err, s, count, _, _, acknowledging =>
      ⟨s, err, acknowledging, by simp [presentRules, delRuleRequests], rfl⟩
  | r :: rules, err, s, count, notEntry, fits, acknowledging => by
      have notEntryTail : ∀ r' ∈ rules, r'.flags ≠ UInt32.ofInt auditFilterEntry :=
        fun r' member => notEntry r' (List.mem_cons_of_mem r member)
      have fitsTail : ∀ r' ∈ rules, r'.buflen.toNat < 2 ^ 32 - 1040 :=
        fun r' member => fits r' (List.mem_cons_of_mem r member)
      cases present : isAuditRulePresent r ruleDeleteArray with
      | true =>
        -- the rule is deleted: one acknowledgement is used up
        have listed : presentRules ruleDeleteArray (r :: rules) =
            r :: presentRules ruleDeleteArray rules := by
          simp [presentRules, present]
        rw [listed, List.length_cons, ← Nat.add_assoc] at acknowledging
        obtain ⟨s₁, acknowledging₁, sent₁, numbered₁, stepped⟩ :=
          cleanupStep_present err false acknowledging present (notEntry r List.mem_cons_self)
            (fits r List.mem_cons_self)
        obtain ⟨s', err', acknowledging', sent', looped⟩ :=
          loop_cleanupStep rules none s₁ count notEntryTail fitsTail acknowledging₁
        refine ⟨s', err', acknowledging', ?_, ?_⟩
        · rw [sent', sent₁, numbered₁, listed, delRuleRequests, List.append_assoc,
            List.singleton_append]
        · rw [Go.Flow.loop_cons_of_next stepped, looped]
      | false =>
        -- the rule is not in `ruleDeleteArray`
        have listed : presentRules ruleDeleteArray (r :: rules) =
            presentRules ruleDeleteArray rules := by
          simp [presentRules, present]
        rw [listed] at acknowledging
        obtain ⟨s', err', acknowledging', sent', looped⟩ :=
          loop_cleanupStep rules err s count notEntryTail fitsTail acknowledging
        refine ⟨s', err', acknowledging', by rw [sent', listed], ?_⟩
        rw [Go.Flow.loop_cons_of_next (cleanupStep_absent err false s present), looped]

end Cleaning

/-- **`CleanupRules` on a kernel that acknowledges every deletion.**  Whatever rules
`ListAllRules` returns, when none is of the deprecated entry list, `CleanupRules` deletes those
that compare equal to a rule of `ruleDeleteArray`, in the order listed, one request each, and
returns `nil`. -/
theorem cleanupRules_acknowledged (interp : Interpreters) (o : Go.ByteOrder) {pid : UInt32}
    {count : Nat} {s s₁ : Socket} {printed : List (List Char)}
    {rules ruleDeleteArray : List AuditRuleData}
    (listed : listAllRules interp o s = some (.ok (printed, rules), s₁))
    (notEntry : ∀ r ∈ rules, r.flags ≠ UInt32.ofInt auditFilterEntry)
    (fits : ∀ r ∈ rules, r.buflen.toNat < 2 ^ 32 - 1040)
    (acknowledging : s₁.Acknowledging o pid (count + (presentRules ruleDeleteArray rules).length)) :
    ∃ s' : Socket, s'.Acknowledging o pid count ∧
      s'.sent = s₁.sent ++ delRuleRequests o s₁.sequenceNumber
        (presentRules ruleDeleteArray rules) ∧
      cleanupRules interp o s ruleDeleteArray = some (.ok (), s') := by
  rw [cleanupRules, listed, Option.bind_some]
  dsimp only
  by_cases deleting : ruleDeleteArray.length ≠ 0
  · obtain ⟨s', err', acknowledging', sent', looped⟩ :=
      loop_cleanupStep rules none s₁ count notEntry fits acknowledging
    refine ⟨s', acknowledging', sent', ?_⟩
    rw [if_pos deleting, looped]
    rfl
  · -- nothing to delete: no rule is present in an empty list
    have empty : ruleDeleteArray = [] := List.eq_nil_of_length_eq_zero (not_not.mp deleting)
    have none : presentRules ruleDeleteArray rules = [] := by
      simp [presentRules, empty, isAuditRulePresent]
    rw [none, List.length_nil, Nat.add_zero] at acknowledging
    refine ⟨s₁, acknowledging, by rw [none, delRuleRequests, List.append_nil], ?_⟩
    rw [if_neg deleting]
    rfl

/-- The kernel lists the rules of uid 0 and of uid 1000, then acknowledges one deletion:
`CleanupRules` asked to delete the rule of uid 0 deletes it and leaves the other. -/
theorem cleanupRules_acknowledged_uid_rules :
    let interp : Interpreters :=
      ⟨fun _ => none, fun _ => "Unsupported".toList, "amd64".toList, fun _ value _ => .ok value,
        Char.toLower⟩
    let s : Socket := ⟨.ok (), .ok 7,
      [.ok (Datagram.bytes .littleEndian
          ⟨[KernelMessage.listing 1 (uidRule 0) (by decide)], List.replicate 16 0⟩),
        .ok (Datagram.bytes .littleEndian
          ⟨[KernelMessage.listing 1 (uidRule 1000) (by decide)], List.replicate 16 0⟩),
        .ok (Datagram.bytes .littleEndian ⟨[KernelMessage.done 1], List.replicate 16 0⟩)] ++
        acknowledgements .littleEndian 7 1 1, [], 0⟩
    ∃ (printed : List (List Char)) (s₁ : Socket),
      listAllRules interp .littleEndian s = some (.ok (printed, [uidRule 0, uidRule 1000]), s₁) ∧
      presentRules [uidRule 0] [uidRule 0, uidRule 1000] = [uidRule 0] ∧
      ∃ s' : Socket, s'.Acknowledging .littleEndian 7 0 ∧
        s'.sent = s₁.sent ++ delRuleRequests .littleEndian s₁.sequenceNumber
          (presentRules [uidRule 0] [uidRule 0, uidRule 1000]) ∧
        cleanupRules interp .littleEndian s [uidRule 0] = some (.ok (), s') := by
  intro interp s
  -- the listing, read off by one evaluation: both rules, and a socket that keeps its outcomes,
  -- has taken number 1 and is left with the acknowledgement of request 2
  have shape : (listAllRules interp .littleEndian s).map (fun p =>
      (p.1.map Prod.snd, p.2.received, p.2.sendResult, p.2.getPID, p.2.sequenceNumber)) =
      some (.ok [uidRule 0, uidRule 1000], acknowledgements .littleEndian 7 1 1, .ok (), .ok 7,
        1) := by
    -- the equality of the five-fold product needs a larger instance than the default allows
    set_option synthInstance.maxSize 256 in
    decide +kernel +revert
  have notEntry : ∀ r ∈ [uidRule 0, uidRule 1000], r.flags ≠ UInt32.ofInt auditFilterEntry := by
    decide +kernel
  have fits : ∀ r ∈ [uidRule 0, uidRule 1000], r.buflen.toNat < 2 ^ 32 - 1040 := by
    decide +kernel
  -- the rule of uid 1000 differs in its value, so only the one asked for is present
  have present : presentRules [uidRule 0] [uidRule 0, uidRule 1000] = [uidRule 0] := by
    decide +kernel
  rcases listedEq : listAllRules interp .littleEndian s with _ | ⟨result, s₁⟩
  · rw [listedEq] at shape
    cases shape
  · rw [listedEq] at shape
    simp only [Option.map_some, Option.some.injEq, Prod.mk.injEq] at shape
    obtain ⟨resultEq, receivedEq, sendOk, pidOk, numbered⟩ := shape
    cases result with
    | error e => cases resultEq
    | ok pair =>
      obtain ⟨printed, rules⟩ := pair
      cases resultEq
      have acknowledging : s₁.Acknowledging .littleEndian 7
          (0 + (presentRules [uidRule 0] [uidRule 0, uidRule 1000]).length) := by
        refine ⟨sendOk, pidOk, ?_⟩
        rw [receivedEq, numbered, present]
        rfl
      exact ⟨printed, s₁, rfl, present,
        cleanupRules_acknowledged interp .littleEndian listedEq notEntry fits acknowledging⟩

/-- `CleanupRules` on a socket whose sends fail: the list request is not sent. -/
theorem cleanupRules_of_listAllRules_error_send :
    let interp : Interpreters :=
      ⟨fun _ => none, fun _ => "Unsupported".toList, "amd64".toList, fun _ value _ => .ok value,
        Char.toLower⟩
    let s : Socket := ⟨.error (.error "no buffer space"), .ok 7, [], [], 0⟩
    listAllRules interp .littleEndian s = some (.error (.error ("ListAllRules failed" ++ ": " ++
        "no buffer space")), { s with sequenceNumber := 1 }) ∧
      cleanupRules interp .littleEndian s [AuditRuleData.empty] =
        some (.ok (), { s with sequenceNumber := 1 }) := by
  intro interp s
  have failed : listAllRules interp .littleEndian s = some (.error (.error ("ListAllRules failed" ++
      ": " ++ "no buffer space")), { s with sequenceNumber := 1 }) := rfl
  exact ⟨failed,
    cleanupRules_of_listAllRules_error interp .littleEndian [AuditRuleData.empty] failed⟩

end LibAudit
