import LibAudit.Go.Counter
import LibAudit.Rules.Removal

/-!
# Request numbers over a session

Every request the package sends is built by `newNetlinkAuditRequest`, which numbers it with
`atomic.AddUint32(&sequenceNumber, 1)`, and the kernel's answers are matched to requests by that
number.  This module follows the counter and the socket through every exported function that
sends, in every branch, and then through any sequence of calls of them.

## Main definitions

* `Socket.Follows` — a socket after `k` numbers were taken: the requests sent since carry some
  of them, in order, and the socket's outcomes are kept.
* `Call`, `Call.run`, `session` — a client's calls of the package's API on one connection.

## Main statements

* `auditSetStatus_follows`, `auditIsEnabled_follows`, `listAllRules_follows`,
  `deleteAllRules_follows`, `setRules_follows`, `removeStaleLWAuditRules_follows`,
  `cleanupRules_follows` — each call, in every branch.
* `session_numbering` — over any sequence of calls, the requests carry numbers taken from the
  counter in order, none twice until the counter wraps.
* `session_buffered` — and the socket delivers only batches of the connection's receive buffer.

## Design notes

A call that waits for good for the kernel (`none`) ends the session: the model keeps no socket
for it.  The counter is the package variable, so the requests of a session are numbered on
from wherever other connections left it; only its wrap after `2 ^ 32` numbers can repeat one.
-/

namespace LibAudit

/-! ## What a call may do to the socket -/

/-- `s'` is `s` once `k` numbers have been taken from the package counter: the requests sent in
between carry some of them, in the order they were taken.  `Send` and `GetPID` keep their
outcomes, and of what the socket delivers, only the first results are consumed. -/
structure Socket.Follows (k : Nat) (s s' : Socket) : Prop where
  sendResult : s'.sendResult = s.sendResult
  getPID : s'.getPID = s.getPID
  consumed : s'.received <:+ s.received
  numbered : ∃ new : List NetlinkMessage, s'.sent = s.sent ++ new ∧
    Go.Counter.Stamps s.sequenceNumber k s'.sequenceNumber (new.map fun m => m.header.seq)

namespace Socket.Follows

variable {k k' : Nat} {s s' s'' : Socket}

theorem zero (s : Socket) : s.Follows 0 s :=
  ⟨rfl, rfl, List.suffix_refl _, [], (List.append_nil _).symm, Go.Counter.Stamps.zero⟩

theorem trans (first : s.Follows k s') (second : s'.Follows k' s'') : s.Follows (k + k') s'' := by
  obtain ⟨sendResult, getPID, consumed, new, sent, stamps⟩ := first
  obtain ⟨sendResult', getPID', consumed', new', sent', stamps'⟩ := second
  refine ⟨sendResult'.trans sendResult, getPID'.trans getPID, consumed'.trans consumed,
    new ++ new', ?_, ?_⟩
  · rw [sent', sent, List.append_assoc]
  · rw [List.map_append]
    exact stamps.trans stamps'

/-- Consuming results the socket delivers. -/
theorem consume {received : List (Except Go.Fault (Go.Slice UInt8))}
    (suffix : received <:+ s.received) : s.Follows 0 { s with received := received } :=
  ⟨rfl, rfl, suffix, [], (List.append_nil _).symm, Go.Counter.Stamps.zero⟩

/-- Taking a number for a request whose send fails. -/
theorem unsent (s : Socket) : s.Follows 1 { s with sequenceNumber := s.sequenceNumber + 1 } :=
  ⟨rfl, rfl, List.suffix_refl _, [], (List.append_nil _).symm, Go.Counter.Stamps.skipped⟩

/-- Taking a number for a request that carries it, and sending the request. -/
theorem sent {request : NetlinkMessage} (numbered : request.header.seq = s.sequenceNumber + 1) :
    s.Follows 1 { s with
      sequenceNumber := s.sequenceNumber + 1
      sent := s.sent ++ [request] } := by
  refine ⟨rfl, rfl, List.suffix_refl _, [request], rfl, ?_⟩
  rw [List.map_singleton, numbered]
  exact Go.Counter.Stamps.stamped

/-- Batches received into the connection's buffer stay so: a call consumes them from the front
only. -/
theorem buffered (follows : s.Follows k s') (inBuffer : s.Buffered) : s'.Buffered :=
  fun b delivered => inBuffer b (follows.consumed.subset delivered)

/-- A socket that follows, after some numbers, one that follows `s`, follows `s`. -/
theorem exists_trans (follows : s.Follows k s') (more : ∃ k', s'.Follows k' s'') :
    ∃ k, s.Follows k s'' := by
  obtain ⟨k', follows'⟩ := more
  exact ⟨k + k', follows.trans follows'⟩

end Socket.Follows

/-- What a send that succeeds does: it logs the request, and nothing else. -/
theorem Socket.send_eq_ok {s s' : Socket} {request : NetlinkMessage}
    (sent : s.send request = .ok s') : s' = { s with sent := s.sent ++ [request] } := by
  unfold Socket.send at sent
  cases sendOk : s.sendResult with
  | error err =>
    rw [sendOk] at sent
    cases sent
  | ok u =>
    rw [sendOk] at sent
    cases sent
    rfl

/-- `newNetlinkAuditRequest(…)`, then `s.Send(wb)` that succeeds: the number taken is the one
the request carries. -/
theorem Socket.follows_of_send {s s' : Socket} {request : NetlinkMessage}
    (numbered : request.header.seq = s.sequenceNumber + 1)
    (sent : ({ s with sequenceNumber := s.sequenceNumber + 1 } : Socket).send request = .ok s') :
    s.Follows 1 s' ∧ s'.received = s.received := by
  rw [Socket.send_eq_ok sent]
  exact ⟨Socket.Follows.sent numbered, rfl⟩

/-! ## Waiting for the kernel -/

section Waiting

variable {o : Go.ByteOrder} {seq : UInt32}

/-- The wait of `auditGetReply` consumes results from the front. -/
theorem receiveReply_suffix {socketPID : Nat} :
    ∀ {received left : List (Except Go.Fault (Go.Slice UInt8))} {result : Except Go.Fault Unit},
      receiveReply o socketPID seq received = some (result, left) → left <:+ received
  | [], _, _, waited => by cases waited
  | .error _ :: received, _, _, waited => by
      cases waited
      exact List.suffix_cons _ received
  | .ok b :: received, left, result, waited => by
      rw [receiveReply] at waited
      split at waited
      · cases waited
        exact List.suffix_cons _ received
      · cases waited
        exact List.suffix_cons _ received
      · exact (receiveReply_suffix waited).trans (List.suffix_cons _ received)

/-- The wait of `AuditIsEnabled` consumes results from the front. -/
theorem receiveStatus_suffix :
    ∀ {received left : List (Except Go.Fault (Go.Slice UInt8))}
      {result : Except Go.Fault (Int × Int)},
      receiveStatus o seq received = some (result, left) → left <:+ received
  | [], _, _, waited => by cases waited
  | .error _ :: received, _, _, waited => by
      cases waited
      exact List.suffix_cons _ received
  | .ok b :: received, left, result, waited => by
      rw [receiveStatus] at waited
      split at waited
      · cases waited
        exact List.suffix_cons _ received
      · cases waited
        exact List.suffix_cons _ received
      · exact (receiveStatus_suffix waited).trans (List.suffix_cons _ received)

/-- `auditGetReply` takes no number and sends nothing. -/
theorem auditGetReply_follows {s s' : Socket} {result : Except Go.Fault Unit}
    (replied : auditGetReply o s seq = some (result, s')) : s.Follows 0 s' := by
  unfold auditGetReply at replied
  split at replied
  · cases replied
    exact Socket.Follows.zero s
  · obtain ⟨⟨_, left⟩, waited, mapped⟩ := Option.map_eq_some_iff.mp replied
    cases mapped
    exact Socket.Follows.consume (receiveReply_suffix waited)

/-- The end of every call that sends one request and waits for its answer with `auditGetReply`:
the request's number is taken whether its send fails or not. -/
theorem follows_of_reply {s s₁ s' : Socket} {request : NetlinkMessage} {α : Type}
    {wrapped : Except Go.Fault Unit → α} {result : α}
    (numbered : request.header.seq = s.sequenceNumber + 1)
    (sent : ({ s with sequenceNumber := s.sequenceNumber + 1 } : Socket).send request = .ok s₁)
    (replied : (auditGetReply o s₁ seq).map (fun (result, s) => (wrapped result, s)) =
      some (result, s')) :
    s.Follows 1 s' := by
  obtain ⟨⟨_, s₂⟩, waited, mapped⟩ := Option.map_eq_some_iff.mp replied
  cases mapped
  exact (Socket.follows_of_send numbered sent).1.trans (auditGetReply_follows waited)

end Waiting

/-! ## The calls that send one request -/

section OneRequest

variable {o : Go.ByteOrder} {s s' : Socket}

theorem auditSetStatus_follows {name : String} {status : AuditStatus}
    {result : Except Go.Fault Unit} (set : auditSetStatus name o status s = some (result, s')) :
    s.Follows 1 s' := by
  unfold auditSetStatus at set
  dsimp only at set
  split at set
  · cases set
    exact Socket.Follows.unsent s
  · next s₁ sent => exact follows_of_reply rfl sent set

theorem auditIsEnabled_follows {result : Except Go.Fault (Int × Int)}
    (asked : auditIsEnabled o s = some (result, s')) : s.Follows 1 s' := by
  unfold auditIsEnabled at asked
  dsimp only at asked
  split at asked
  · cases asked
    exact Socket.Follows.unsent s
  · next s₁ sent =>
    obtain ⟨⟨_, left⟩, waited, mapped⟩ := Option.map_eq_some_iff.mp asked
    cases mapped
    exact (Socket.follows_of_send rfl sent).1.trans
      (Socket.Follows.consume (receiveStatus_suffix waited))

/-- `auditAddRuleData` takes one number, unless it refuses the entry filter list or its
`toWireFormat` panics first. -/
theorem auditAddRuleData_follows {rule : AuditRuleData} {flags action : Int}
    {result : Except Go.Fault Unit} (added : (auditAddRuleData o s rule flags action).2 =
      some (result, s')) : ∃ k, s.Follows k s' := by
  unfold auditAddRuleData at added
  split at added
  · cases added
    exact ⟨0, Socket.Follows.zero s⟩
  · dsimp only at added
    split at added
    · -- `toWireFormat` panics before a number is taken
      cases added
      exact ⟨0, Socket.Follows.zero s⟩
    · split at added
      · cases added
        exact ⟨1, Socket.Follows.unsent s⟩
      · next s₁ sent => exact ⟨1, follows_of_reply rfl sent added⟩

/-- `auditDeleteRuleData` takes one number, unless it refuses the entry filter list or its
`toWireFormat` panics first. -/
theorem auditDeleteRuleData_follows {rule : AuditRuleData} {flags action : UInt32}
    {result : Except Go.Fault Unit} (deleted : (auditDeleteRuleData o s rule flags action).2 =
      some (result, s')) : ∃ k, s.Follows k s' := by
  unfold auditDeleteRuleData at deleted
  split at deleted
  · cases deleted
    exact ⟨0, Socket.Follows.zero s⟩
  · dsimp only at deleted
    split at deleted
    · -- `toWireFormat` panics before a number is taken
      cases deleted
      exact ⟨0, Socket.Follows.zero s⟩
    · split at deleted
      · cases deleted
        exact ⟨1, Socket.Follows.unsent s⟩
      · next s₁ sent => exact ⟨1, follows_of_reply rfl sent deleted⟩

end OneRequest

/-! ## `ListAllRules` and `DeleteAllRules` -/

section Listing

variable {o : Go.ByteOrder} {s s' : Socket}

/-- `ListAllRules` takes one number and sends one request, the list request. -/
theorem listAllRules_follows {interp : Interpreters}
    {result : Except Go.Fault (List (List Char) × List AuditRuleData)}
    (listed : listAllRules interp o s = some (result, s')) : s.Follows 1 s' := by
  unfold listAllRules at listed
  dsimp only at listed
  split at listed
  · cases listed
    exact Socket.Follows.unsent s
  · next s₁ sent =>
    have follows := (Socket.follows_of_send rfl sent).1
    split at listed
    · cases listed
      exact follows
    · obtain ⟨⟨_, left⟩, looped, mapped⟩ := Option.map_eq_some_iff.mp listed
      cases mapped
      exact follows.trans (Socket.Follows.consume (Go.Flow.batches_suffix looped))

/-- One message of `DeleteAllRules` goes on, or returns, with the socket as it was or after one
deletion request; it consumes nothing. -/
theorem deleteStep_follows {socketPID : Nat} {seq : UInt32} {t : Socket} {m : ReceivedMessage}
    {flow : Go.Flow Socket (Except Go.Fault Unit × Socket)}
    (stepped : deleteStep o socketPID seq t m = some flow) :
    flow.Holds (fun t' => ∃ k, t.Follows k t' ∧ t'.received = t.received)
      (fun returned => ∃ k, t.Follows k returned.2 ∧ returned.2.received = t.received) := by
  unfold deleteStep at stepped
  obtain rfl := Option.some.inj stepped
  have unchanged : ∃ k, t.Follows k t ∧ t.received = t.received :=
    ⟨0, Socket.Follows.zero t, rfl⟩
  -- the checks of the header, `NLMSG_DONE` and the errno return with the socket as it is
  split
  · exact unchanged
  · split
    · exact unchanged
    · dsimp only
      split
      · exact unchanged
      · split
        · exact unchanged
        · split
          · -- a listed rule: its deletion request takes the next number
            split
            · exact ⟨1, Socket.Follows.unsent t, rfl⟩
            · next t' sent => exact ⟨1, Socket.follows_of_send rfl sent⟩
          · exact unchanged

/-- `DeleteAllRules` takes a number for the list request and one for each deletion. -/
theorem deleteAllRules_follows {result : Except Go.Fault Unit}
    (deleted : deleteAllRules o s = some (result, s')) : ∃ k, s.Follows k s' := by
  unfold deleteAllRules at deleted
  dsimp only at deleted
  split at deleted
  · cases deleted
    exact ⟨1, Socket.Follows.unsent s⟩
  · next s₁ sent =>
    have follows := (Socket.follows_of_send rfl sent).1
    split at deleted
    · cases deleted
      exact ⟨1, follows⟩
    · next socketPID _ =>
      obtain ⟨⟨⟨_, t⟩, left⟩, looped, mapped⟩ := Option.map_eq_some_iff.mp deleted
      cases mapped
      -- the loop carries the socket, whose `received` it leaves alone until the end
      have kept : ∀ t m flow, (∃ k, s₁.Follows k t ∧ t.received = s₁.received) →
          deleteStep o socketPID (s.sequenceNumber + 1) t m = some flow →
          flow.Holds (fun t' => ∃ k, s₁.Follows k t' ∧ t'.received = s₁.received)
            (fun returned => ∃ k, s₁.Follows k returned.2 ∧
              returned.2.received = s₁.received) := by
        rintro t m flow ⟨k, follows, sameReceived⟩ stepped
        have one := deleteStep_follows stepped
        cases flow with
        | next t' =>
          obtain ⟨k', follows', sameReceived'⟩ := one
          exact ⟨k + k', follows.trans follows', sameReceived'.trans sameReceived⟩
        | exit returned =>
          obtain ⟨k', follows', sameReceived'⟩ := one
          exact ⟨k + k', follows.trans follows', sameReceived'.trans sameReceived⟩
      have failed : ∀ (err : Go.Fault) (t : Socket),
          (∃ k, s₁.Follows k t ∧ t.received = s₁.received) →
          ∃ k, s₁.Follows k t ∧ t.received = s₁.received := fun _ _ holds => holds
      obtain ⟨⟨k, tFollows, tReceived⟩, suffix⟩ :=
        Go.Flow.batches_invariant kept failed _ ⟨0, Socket.Follows.zero s₁, rfl⟩ looped
      rw [← tReceived] at suffix
      exact ⟨1 + (k + 0), follows.trans (tFollows.trans (Socket.Follows.consume suffix))⟩

end Listing

/-! ## `SetRules` -/

section SetRules

variable {env : RuleEnv} {o : Go.ByteOrder} {s : Socket}

/-- What the loops of `SetRules` keep: the socket they carry, or return with, follows `s`. -/
def SetRulesFlow.FollowsFrom (s : Socket) : SetRulesFlow → Prop :=
  Go.Flow.Holds (fun state => ∃ k, s.Follows k state.socket)
    (fun returned => ∃ k, s.Follows k returned.2.1)

theorem addRule_follows {state : SetRulesState} (holds : ∃ k, s.Follows k state.socket)
    {g : Globals} {ruleData : AuditRuleData} {filter action : Int} {flow : SetRulesFlow}
    (added : addRule o state g ruleData filter action = some flow) :
    SetRulesFlow.FollowsFrom s flow := by
  obtain ⟨k, follows⟩ := holds
  unfold addRule at added
  split at added
  · cases added
  · next sent =>
    cases added
    exact follows.exists_trans (auditAddRuleData_follows (congrArg Prod.snd sent))
  · next sent =>
    cases added
    exact follows.exists_trans (auditAddRuleData_follows (congrArg Prod.snd sent))

theorem fileRuleStep_follows {strictPath : Bool} {state : SetRulesState}
    (holds : ∃ k, s.Follows k state.socket) {rule : Json} {flow : SetRulesFlow}
    (stepped : fileRuleStep env o strictPath state rule = some flow) :
    SetRulesFlow.FollowsFrom s flow := by
  unfold fileRuleStep at stepped
  split at stepped
  · cases stepped
    exact holds
  · exact addRule_follows holds stepped

theorem syscallRuleStep_follows {state : SetRulesState} (holds : ∃ k, s.Follows k state.socket)
    {srule : Json} {flow : SetRulesFlow} (stepped : syscallRuleStep env o state srule = some flow) :
    SetRulesFlow.FollowsFrom s flow := by
  unfold syscallRuleStep at stepped
  split at stepped
  · cases stepped
    exact holds
  · exact addRule_follows holds stepped

/-- One key of the document: the loop over its rules, each step of which keeps the socket
following `s`. -/
theorem keyStep_follows {strictPath : Bool} {state : SetRulesState}
    (holds : ∃ k, s.Follows k state.socket) {entry : List Char × Json} {flow : SetRulesFlow}
    (stepped : keyStep env o strictPath state entry = some flow) :
    SetRulesFlow.FollowsFrom s flow := by
  have fileRules : ∀ state rule flow, (∃ k, s.Follows k state.socket) →
      fileRuleStep env o strictPath state rule = some flow → SetRulesFlow.FollowsFrom s flow :=
    fun _ _ _ holds' stepped' => fileRuleStep_follows holds' stepped'
  have syscallRules : ∀ state srule flow, (∃ k, s.Follows k state.socket) →
      syscallRuleStep env o state srule = some flow → SetRulesFlow.FollowsFrom s flow :=
    fun _ _ _ holds' stepped' => syscallRuleStep_follows holds' stepped'
  unfold keyStep at stepped
  dsimp only at stepped
  -- `file_rules`, `syscall_rules`, or another key, which is skipped
  split at stepped
  · split at stepped
    · -- the loop starts from the state with `auditSyscallAdded` reset, the socket as it was
      refine Go.Flow.loop_invariant fileRules _ ?_ stepped
      exact holds
    · cases stepped
      exact holds
  · split at stepped
    · split at stepped
      · refine Go.Flow.loop_invariant syscallRules _ ?_ stepped
        exact holds
      · cases stepped
        exact holds
    · cases stepped
      exact holds

/-- `SetRules` takes a number for each rule it sends. -/
theorem setRules_follows {content : Except String Json} {g g' : Globals} {s' : Socket}
    {result : SetRulesResult} (set : setRules env o content s g = some (result, s', g')) :
    ∃ k, s.Follows k s' := by
  unfold setRules at set
  split at set
  · cases set
    exact ⟨0, Socket.Follows.zero s⟩
  · split at set
    · cases set
      exact ⟨0, Socket.Follows.zero s⟩
    · obtain ⟨flow, looped, returned⟩ := Option.map_eq_some_iff.mp set
      have ended := Go.Flow.loop_invariant
        (fun _ _ _ holds stepped => keyStep_follows holds stepped)
        _ ⟨0, Socket.Follows.zero s⟩ looped
      -- the loop over the keys ends after the last key or returns from a step
      cases flow with
      | next state =>
        cases returned
        exact ended
      | exit returnedFlow =>
        cases returned
        exact ended
  · cases set
    exact ⟨0, Socket.Follows.zero s⟩

end SetRules

/-! ## `RemoveStaleLWAuditRules` and `CleanupRules` -/

section Removal

variable {interp : Interpreters} {o : Go.ByteOrder} {s : Socket}

theorem removeStep_follows {state : List Char × Socket} (holds : ∃ k, s.Follows k state.2)
    {r : AuditRuleData}
    {flow : Go.Flow (List Char × Socket)
      (Except Go.Panic (List Char × Option Go.Fault) × Socket)}
    (stepped : removeStep interp o state r = some flow) :
    flow.Holds (fun state' => ∃ k, s.Follows k state'.2)
      (fun returned => ∃ k, s.Follows k returned.2) := by
  obtain ⟨text, t⟩ := state
  obtain ⟨k, follows⟩ := holds
  unfold removeStep at stepped
  dsimp only at stepped
  split at stepped
  · cases stepped
    exact ⟨k, follows⟩
  · split at stepped
    · -- a rule of the library's own: whatever its deletion returns, it took one number
      split at stepped
      · cases stepped
      · next deleted =>
        cases stepped
        exact follows.exists_trans (auditDeleteRuleData_follows deleted)
      · next deleted =>
        cases stepped
        exact follows.exists_trans (auditDeleteRuleData_follows deleted)
      · next deleted =>
        cases stepped
        exact follows.exists_trans (auditDeleteRuleData_follows deleted)
    · cases stepped
      exact ⟨k, follows⟩

/-- `RemoveStaleLWAuditRules` takes a number for each rule of the library's it deletes. -/
theorem removeStaleLWAuditRules_follows {ruleArray : List AuditRuleData} {s' : Socket}
    {result : Except Go.Panic (List Char × Option Go.Fault)}
    (removed : removeStaleLWAuditRules interp o s ruleArray = some (result, s')) :
    ∃ k, s.Follows k s' := by
  have kept : ∀ state r flow, (∃ k, s.Follows k (Prod.snd state)) →
      removeStep interp o state r = some flow →
      flow.Holds (fun state' => ∃ k, s.Follows k state'.2)
        (fun returned => ∃ k, s.Follows k returned.2) :=
    fun _ _ _ holds stepped => removeStep_follows holds stepped
  unfold removeStaleLWAuditRules at removed
  split at removed
  · obtain ⟨flow, looped, returned⟩ := Option.map_eq_some_iff.mp removed
    have ended := Go.Flow.loop_invariant kept _ ⟨0, Socket.Follows.zero s⟩ looped
    cases flow with
    | next state =>
      cases returned
      exact ended
    | exit returnedFlow =>
      cases returned
      exact ended
  · cases removed
    exact ⟨0, Socket.Follows.zero s⟩

theorem cleanupStep_follows {ruleDeleteArray : List AuditRuleData}
    {state : Option Go.Fault × Bool × Socket} (holds : ∃ k, s.Follows k state.2.2)
    {r : AuditRuleData}
    {flow : Go.Flow (Option Go.Fault × Bool × Socket) (Except Go.Fault Unit × Socket)}
    (stepped : cleanupStep o ruleDeleteArray state r = some flow) :
    flow.Holds (fun state' => ∃ k, s.Follows k state'.2.2)
      (fun returned => ∃ k, s.Follows k returned.2) := by
  obtain ⟨err, delFailure, t⟩ := state
  obtain ⟨k, follows⟩ := holds
  unfold cleanupStep at stepped
  dsimp only at stepped
  split at stepped
  · -- a rule to delete: whatever its deletion returns, it took one number
    split at stepped
    · cases stepped
    · next deleted =>
      cases stepped
      exact follows.exists_trans (auditDeleteRuleData_follows deleted)
    · next deleted =>
      cases stepped
      exact follows.exists_trans (auditDeleteRuleData_follows deleted)
    · next deleted =>
      cases stepped
      exact follows.exists_trans (auditDeleteRuleData_follows deleted)
  · cases stepped
    exact ⟨k, follows⟩

/-- `CleanupRules` takes a number for the listing and one for each rule it deletes. -/
theorem cleanupRules_follows {ruleDeleteArray : List AuditRuleData} {s' : Socket}
    {result : Except Go.Fault Unit}
    (cleaned : cleanupRules interp o s ruleDeleteArray = some (result, s')) :
    ∃ k, s.Follows k s' := by
  unfold cleanupRules at cleaned
  obtain ⟨⟨listed, s₁⟩, listing, cleaned⟩ := Option.bind_eq_some_iff.mp cleaned
  have follows := listAllRules_follows listing
  have kept : ∀ state r flow, (∃ k, s₁.Follows k state.2.2) →
      cleanupStep o ruleDeleteArray state r = some flow →
      flow.Holds (fun state' => ∃ k, s₁.Follows k state'.2.2)
        (fun returned => ∃ k, s₁.Follows k returned.2) :=
    fun _ _ _ holds stepped => cleanupStep_follows holds stepped
  dsimp only at cleaned
  split at cleaned
  · cases cleaned
    exact ⟨1, follows⟩
  · obtain ⟨flow, looped, returned⟩ := Option.map_eq_some_iff.mp cleaned
    have ended : flow.Holds (fun state' => ∃ k, s₁.Follows k state'.2.2)
        (fun returned => ∃ k, s₁.Follows k returned.2) := by
      split at looped
      · exact Go.Flow.loop_invariant kept _ ⟨0, Socket.Follows.zero s₁⟩ looped
      · cases looped
        exact ⟨0, Socket.Follows.zero s₁⟩
    obtain ⟨k, follows'⟩ : ∃ k, s₁.Follows k s' := by
      cases flow with
      | next state =>
        obtain ⟨err, delFailure, t⟩ := state
        dsimp only at returned
        split at returned <;>
        · cases returned
          exact ended
      | exit returnedFlow =>
        cases returned
        exact ended
    exact ⟨1 + k, follows.trans follows'⟩

end Removal

/-! ## A session -/

/-- A call of the package's API that sends requests, with its arguments: the functions a client
calls on one connection. -/
inductive Call where
  | auditSetEnabled (enabled : Int)
  | auditIsEnabled
  | auditSetPID (pid : Int)
  | auditSetRateLimit (limit : Int)
  | auditSetBacklogLimit (limit : Int)
  | auditSetFlags (flag : Int)
  | listAllRules
  | deleteAllRules
  | setRules (content : Except String Json)
  | removeStaleLWAuditRules (ruleArray : List AuditRuleData)
  | cleanupRules (ruleDeleteArray : List AuditRuleData)

/-- One call, with the socket and the package variables it leaves; what it returns goes to the
client.  `none` when it waits for good for the kernel. -/
def Call.run (env : RuleEnv) (interp : Interpreters) (o : Go.ByteOrder) :
    Call → Socket × Globals → Option (Socket × Globals)
  | .auditSetEnabled enabled, (s, g) =>
    (LibAudit.auditSetEnabled o s enabled).map fun (_, s) => (s, g)
  | .auditIsEnabled, (s, g) => (LibAudit.auditIsEnabled o s).map fun (_, s) => (s, g)
  | .auditSetPID pid, (s, g) => (LibAudit.auditSetPID o s pid).map fun (_, s) => (s, g)
  | .auditSetRateLimit limit, (s, g) =>
    (LibAudit.auditSetRateLimit o s limit).map fun (_, s) => (s, g)
  | .auditSetBacklogLimit limit, (s, g) =>
    (LibAudit.auditSetBacklogLimit o s limit).map fun (_, s) => (s, g)
  | .auditSetFlags flag, (s, g) => (LibAudit.auditSetFlags o s flag).map fun (_, s) => (s, g)
  | .listAllRules, (s, g) => (LibAudit.listAllRules interp o s).map fun (_, s) => (s, g)
  | .deleteAllRules, (s, g) => (LibAudit.deleteAllRules o s).map fun (_, s) => (s, g)
  | .setRules content, (s, g) => (LibAudit.setRules env o content s g).map fun (_, s, g) => (s, g)
  | .removeStaleLWAuditRules ruleArray, (s, g) =>
    (LibAudit.removeStaleLWAuditRules interp o s ruleArray).map fun (_, s) => (s, g)
  | .cleanupRules ruleDeleteArray, (s, g) =>
    (LibAudit.cleanupRules interp o s ruleDeleteArray).map fun (_, s) => (s, g)

/-- The calls of a client, one after the other, on one connection; `none` once one waits for
good.  A client that picks its next call from what the last ones returned makes one of these
sequences. -/
def session (env : RuleEnv) (interp : Interpreters) (o : Go.ByteOrder) :
    List Call → Socket × Globals → Option (Socket × Globals)
  | [], state => some state
  | call :: calls, state => (call.run env interp o state).bind (session env interp o calls)

section Session

variable {env : RuleEnv} {interp : Interpreters} {o : Go.ByteOrder}

/-- **The step lemma of a session**: every call, in every branch, takes numbers from the
counter for the requests it sends. -/
theorem Call.run_follows {call : Call} {s s' : Socket} {g g' : Globals}
    (ran : call.run env interp o (s, g) = some (s', g')) : ∃ k, s.Follows k s' := by
  cases call with
  | auditSetEnabled enabled =>
    obtain ⟨⟨_, t⟩, set, returned⟩ := Option.map_eq_some_iff.mp ran
    cases returned
    exact ⟨1, auditSetStatus_follows set⟩
  | auditIsEnabled =>
    obtain ⟨⟨_, t⟩, asked, returned⟩ := Option.map_eq_some_iff.mp ran
    cases returned
    exact ⟨1, auditIsEnabled_follows asked⟩
  | auditSetPID pid =>
    obtain ⟨⟨_, t⟩, set, returned⟩ := Option.map_eq_some_iff.mp ran
    cases returned
    exact ⟨1, auditSetStatus_follows set⟩
  | auditSetRateLimit limit =>
    obtain ⟨⟨_, t⟩, set, returned⟩ := Option.map_eq_some_iff.mp ran
    cases returned
    exact ⟨1, auditSetStatus_follows set⟩
  | auditSetBacklogLimit limit =>
    obtain ⟨⟨_, t⟩, set, returned⟩ := Option.map_eq_some_iff.mp ran
    cases returned
    exact ⟨1, auditSetStatus_follows set⟩
  | auditSetFlags flag =>
    obtain ⟨⟨_, t⟩, set, returned⟩ := Option.map_eq_some_iff.mp ran
    cases returned
    exact ⟨1, auditSetStatus_follows set⟩
  | listAllRules =>
    obtain ⟨⟨_, t⟩, listed, returned⟩ := Option.map_eq_some_iff.mp ran
    cases returned
    exact ⟨1, listAllRules_follows listed⟩
  | deleteAllRules =>
    obtain ⟨⟨_, t⟩, deleted, returned⟩ := Option.map_eq_some_iff.mp ran
    cases returned
    exact deleteAllRules_follows deleted
  | setRules content =>
    obtain ⟨⟨_, t, _⟩, set, returned⟩ := Option.map_eq_some_iff.mp ran
    cases returned
    exact setRules_follows set
  | removeStaleLWAuditRules ruleArray =>
    obtain ⟨⟨_, t⟩, removed, returned⟩ := Option.map_eq_some_iff.mp ran
    cases returned
    exact removeStaleLWAuditRules_follows removed
  | cleanupRules ruleDeleteArray =>
    obtain ⟨⟨_, t⟩, cleaned, returned⟩ := Option.map_eq_some_iff.mp ran
    cases returned
    exact cleanupRules_follows cleaned

/-- **The run lemma of a session**, by induction over the calls. -/
theorem session_follows :
    ∀ (calls : List Call) {s s' : Socket} {g g' : Globals},
      session env interp o calls (s, g) = some (s', g') → ∃ k, s.Follows k s'
  | [], s, s', g, g', ran => by
      cases ran
      exact ⟨0, Socket.Follows.zero s⟩
  | call :: calls, s, s', g, g', ran => by
      obtain ⟨⟨t, h⟩, first, rest⟩ := Option.bind_eq_some_iff.mp ran
      obtain ⟨k, follows⟩ := Call.run_follows first
      exact follows.exists_trans (session_follows calls rest)

/-- Over a session, the socket delivers batches of the connection's receive buffer only. -/
theorem session_buffered (calls : List Call) {s s' : Socket} {g g' : Globals}
    (ran : session env interp o calls (s, g) = some (s', g')) (inBuffer : s.Buffered) :
    s'.Buffered := by
  obtain ⟨k, follows⟩ := session_follows calls ran
  exact follows.buffered inBuffer

/-- **No request number twice in a session.**  Whatever calls a client makes on a connection,
and whatever the kernel and the socket answer, the requests the package sends carry numbers
the counter handed out, in the order it handed them out, and the counter has moved on by
exactly the numbers taken; so until it has handed out `2 ^ 32` numbers, no two requests carry
the same one.  The session consumes what the socket delivers from the front only. -/
theorem session_numbering (env : RuleEnv) (interp : Interpreters) (o : Go.ByteOrder)
    (calls : List Call) {s s' : Socket} {g g' : Globals}
    (ran : session env interp o calls (s, g) = some (s', g')) :
    ∃ (k : Nat) (new : List NetlinkMessage), s'.sent = s.sent ++ new ∧
      s'.sequenceNumber = s.sequenceNumber + UInt32.ofNat k ∧
      (new.map fun m => m.header.seq).Sublist (Go.Counter.taken s.sequenceNumber k) ∧
      (k ≤ 2 ^ 32 → (new.map fun m => m.header.seq).Nodup) ∧
      s'.received <:+ s.received := by
  obtain ⟨k, follows⟩ := session_follows calls ran
  obtain ⟨-, -, consumed, new, sent, stamps⟩ := follows
  exact ⟨k, new, sent, stamps.advanced, stamps.taken, stamps.nodup, consumed⟩

/-- A client enables auditing, which the kernel acknowledges, then lists the rules, of which
there are none. -/
theorem session_numbering_enable_then_list :
    let interp : Interpreters :=
      ⟨fun _ => none, fun _ => "Unsupported".toList, "amd64".toList, fun _ value _ => .ok value,
        Char.toLower⟩
    let s : Socket := ⟨.ok (), .ok 7,
      [.ok (Datagram.bytes .littleEndian
          ⟨[KernelMessage.acknowledgement 1 7], List.replicate 16 0⟩),
        .ok (Datagram.bytes .littleEndian ⟨[KernelMessage.done 2], List.replicate 16 0⟩)],
      [], 0⟩
    ∃ s' g', session openOnlyEnv interp .littleEndian [.auditSetEnabled 1, .listAllRules]
        (s, ⟨false, false⟩) = some (s', g') ∧
      ∃ (k : Nat) (new : List NetlinkMessage), s'.sent = s.sent ++ new ∧
        s'.sequenceNumber = s.sequenceNumber + UInt32.ofNat k ∧
        (new.map fun m => m.header.seq).Sublist (Go.Counter.taken s.sequenceNumber k) ∧
        (k ≤ 2 ^ 32 → (new.map fun m => m.header.seq).Nodup) ∧
        s'.received <:+ s.received := by
  intro interp s
  have ends : (session openOnlyEnv interp .littleEndian [.auditSetEnabled 1, .listAllRules]
      (s, ⟨false, false⟩)).isSome = true := by
    decide +kernel
  obtain ⟨⟨s', g'⟩, ran⟩ := Option.isSome_iff_exists.mp ends
  exact ⟨s', g', ran, session_numbering openOnlyEnv interp .littleEndian _ ran⟩

end Session

end LibAudit
