import LibAudit.Parser.Scan
import LibAudit.Rules.Listing

/-!
# Audit events from the kernel: `GetAuditMessages`, `GetAuditEvents` and `GetRawAuditEvents`

The three functions run one loop: receive a batch of messages with `Receive`, skip it on an
error, and walk it message by message.  An `NLMSG_ERROR` message is reported with its errno when
that is not 0.  `GetAuditMessages` and `GetAuditEvents` hand every other message to
`NewAuditEvent`, which parses its payload with `ParseAuditEvent`; `GetRawAuditEvents` hands over
the text `type=NAME msg=PAYLOAD` and reports a type without a name as an error.  The loop is
`receiveLoop`, with what its body makes of one message as a parameter.

What the loop hands its callback on the kernel's datagrams rests on what `Receive` recovers of
them (`receiveOf_datagram`): every header, and each payload exactly, except that the
length workaround of `ParseAuditNetlinkMessage` lengthens a payload whose length is a multiple
of 4 by the 16 bytes behind it.  The kernel's `NLMSG_ERROR` messages have such payloads (an
errno and the header of the refused request, 20 bytes); the errno at their front is still read
right.

## Main definitions

* `newAuditEvent` — `NewAuditEvent`.
* `receiveLoop` — the loop the three functions share.
* `getAuditMessages`, `getAuditEvents`, `getRawAuditEvents` — the three functions.

## Main statements

* `newAuditEvent_eq_parseAuditEvent` — the unknown-type check of `NewAuditEvent` never fires.
* `receiveLoop_datagrams` — the run lemma of the loop over the kernel's datagrams.
* `getAuditMessages_datagrams` — the calls `GetAuditMessages` makes on them.
* `getRawAuditEvents_datagrams` — the calls `GetRawAuditEvents` makes on them.

## Design notes

The loops run until a `done` channel is signalled, or for good in a goroutine; the model takes
the results of the receives made until then, as `getRawAuditMessages` does, and returns the
calls of the callback in order, or the panic that ends the loop.
-/

namespace LibAudit

/-! ## `NewAuditEvent` -/

/-- No name of the table starts with `a`, the first letter of `auditConstant(n)`. -/
theorem auditConstantNames_startsWith :
    auditConstantNames.all (fun e => !e.2.startsWith "a") = true := by
  decide +kernel

/-- A name the table gives a value is not the text `auditConstant(n)`. -/
theorem lookup_auditConstantNames_ne {n : Nat} {name : String}
    (found : auditConstantNames.lookup n = some name) (text : String) :
    name.toList ≠ ("auditConstant(" ++ text ++ ")").toList := by
  obtain ⟨before, after, split, -⟩ := List.lookup_eq_some_iff.mp found
  have member : (n, name) ∈ auditConstantNames := by
    rw [split]
    exact List.mem_append_right before List.mem_cons_self
  have fresh := List.all_eq_true.mp auditConstantNames_startsWith (n, name) member
  rw [Bool.not_eq_true', String.startsWith_string_eq_false_iff] at fresh
  intro same
  apply fresh
  rw [same, String.toList_append, String.toList_append]
  exact List.prefix_append_of_prefix (List.prefix_append_of_prefix ⟨"uditConstant(".toList, rfl⟩)

/-- **The name `ParseAuditEvent` gives an event is never `auditConstant(n)`**: a named type
loses its `AUDIT_` prefix, and an unnamed one the first six letters of `auditConstant(n)`. -/
theorem drop_auditConstantString_ne (msgType : UInt16) :
    (auditConstantString msgType).drop 6 ≠
      ("auditConstant(" ++ toString msgType.toNat ++ ")").toList := by
  unfold auditConstantString
  split
  · next name found =>
    rw [List.drop_left' (show "AUDIT_".toList.length = 6 from rfl)]
    exact lookup_auditConstantNames_ne found _
  · -- cutting six letters shortens the text
    intro same
    have lengths := congrArg List.length same
    have prefixLength : "auditConstant(".toList.length = 14 := rfl
    simp only [List.length_drop, String.toList_append, List.length_append, prefixLength] at lengths
    omega

/-- `auditConstant.String() == "auditConstant(n)"`, the test `GetRawAuditEvents` makes, holds
exactly for a value without a name. -/
theorem auditConstantString_eq_unknown_iff (msgType : UInt16) :
    auditConstantString msgType = ("auditConstant(" ++ toString msgType.toNat ++ ")").toList ↔
      auditConstantNames.lookup msgType.toNat = none := by
  unfold auditConstantString
  split
  · next name found =>
    -- `AUDIT_` and `auditConstant(` differ in their first letter
    refine iff_of_false ?_ (by rw [found]; exact Option.some_ne_none name)
    intro same
    have heads := congrArg List.head? same
    simp [String.toList_append] at heads
  · next unnamed => exact iff_of_true rfl unnamed

section Interpretation

variable (interpretField : List Char → List Char → UInt16 → Record → Except Go.Fault (List Char))
  (order : FieldMap.Order)

/-- Whatever it reads, `ParseAuditEvent` names the event's type after `auditConstant.String`,
less its first six letters. -/
theorem type_of_parseAuditEvent {str : List Char} {msgType : UInt16} {interpret : Bool}
    {ev : AuditEvent} (parsed : parseAuditEvent interpretField order str msgType interpret = .ok ev) :
    ev.type = (auditConstantString msgType).drop 6 := by
  obtain ⟨_, -, scanned⟩ := Go.bind_eq_ok.mp parsed
  obtain ⟨_, -, interpreted⟩ := Go.bind_eq_ok.mp scanned
  -- with or without the interpretation pass, the event is named last
  dsimp only at interpreted
  split at interpreted <;>
  · obtain ⟨_, -, typed⟩ := Go.bind_eq_ok.mp interpreted
    rw [Go.sliceFrom_of_le (six_le_length_auditConstantString msgType), Go.liftPanic_ok,
      Go.ok_bind] at typed
    cases typed
    rfl

/-- `NewAuditEvent(msg)`: the event `ParseAuditEvent` reads from the payload, with
interpretation, unless its type is named `auditConstant(n)`. -/
def newAuditEvent (msg : NetlinkMessage) : Except Go.Fault AuditEvent := do
  let x ← parseAuditEvent interpretField order (Go.stringOfBytes msg.data) msg.header.type true
  if x.type = ("auditConstant(" ++ toString msg.header.type.toNat ++ ")").toList then
    .error (.error ("NewAuditEvent failed: unknown message type " ++ toString msg.header.type))
  else pure x

/-- **`NewAuditEvent` never refuses a type**: its check compares the name `ParseAuditEvent`
has already cut to the uncut `auditConstant(n)`, and never holds.  A message of a type without
a name is parsed as any other, into an event of type `onstant(n)`. -/
theorem newAuditEvent_eq_parseAuditEvent (msg : NetlinkMessage) :
    newAuditEvent interpretField order msg =
      parseAuditEvent interpretField order (Go.stringOfBytes msg.data) msg.header.type true := by
  unfold newAuditEvent
  rcases parsed : parseAuditEvent interpretField order (Go.stringOfBytes msg.data) msg.header.type
    true with err | ev
  · rfl
  · have named : ev.type ≠ ("auditConstant(" ++ toString msg.header.type.toNat ++ ")").toList := by
      rw [type_of_parseAuditEvent interpretField order parsed]
      exact drop_auditConstantString_ne msg.header.type
    rw [Go.ok_bind, if_neg named]
    rfl

end Interpretation

/-! ## The receive loop -/

section Loop

variable {γ : Type} (o : Go.ByteOrder) (callsOf : ReceivedMessage → Except Go.Panic (List γ))

/-- The loop of `GetAuditMessages`, `GetAuditEvents` and `GetRawAuditEvents`, for the results
`received` of its calls of `Receive`: a batch received without error is walked message by
message, and `callsOf` says what calls of the callback the loop's body makes for a message. -/
def receiveLoop : List (Except Go.Fault (Go.Slice UInt8)) → Except Go.Panic (List γ)
  | [] => .ok []
  | received :: more =>
    match receiveOf o received with
    | .error (.panic p) => .error p
    | .error (.error _) => receiveLoop more
    | .ok msgs => do
      let calls ← msgs.mapM callsOf
      let later ← receiveLoop more
      pure (calls.flatten ++ later)

/-- **The run lemma of the loop**: when the body makes the calls `callOf m` for a kernel message
`m` whatever it is received as, the loop makes the calls of every message of the datagrams in
order. -/
theorem receiveLoop_datagrams (callOf : NetlinkMessage → List γ) (P : KernelMessage → Prop)
    (step : ∀ (m : KernelMessage) (p : ReceivedMessage), m.ReceivedAs p.toNetlinkMessage → P m →
      callsOf p = .ok (callOf m.message)) :
    ∀ ds : List Datagram, (∀ d ∈ ds, nlmsgHdrlen ≤ d.spare.length) →
      (∀ d ∈ ds, ∀ m ∈ d.messages, P m) →
      receiveLoop o callsOf (ds.map fun d => .ok (d.bytes o)) =
        .ok ((Datagram.stream ds).flatMap callOf)
  | [], _, _ => rfl
  | ⟨ms, spare⟩ :: ds, roomy, holds => by
      obtain ⟨parsed, received, -, carried⟩ := receiveOf_datagram o (roomy _ List.mem_cons_self) ms
      have calls := Go.mapM_eq_ok_of_forall₂ (g := fun m => callOf m.message)
        (fun p m => step m p) carried (holds _ List.mem_cons_self)
      have later := receiveLoop_datagrams callOf P step ds
        (fun d mem => roomy d (List.mem_cons_of_mem _ mem))
        (fun d mem => holds d (List.mem_cons_of_mem _ mem))
      rw [List.map_cons, receiveLoop, received]
      dsimp only
      rw [calls, Go.ok_bind, later, Go.ok_bind, Datagram.stream_cons, List.flatMap_append,
        List.flatMap_map, List.flatMap_def]
      rfl

end Loop

/-! ## `GetAuditMessages` and `GetAuditEvents` -/

section Interpretation

variable (interpretField : List Char → List Char → UInt16 → Record → Except Go.Fault (List Char))
  (order : FieldMap.Order) (o : Go.ByteOrder)

/-- The calls the loop of `GetAuditMessages` makes for one message: for an `NLMSG_ERROR`
message, the error with the errno read from `msg.Data[0:4]` when that is not 0; for any other,
`NewAuditEvent`'s result. -/
def eventCallsOf (msg : ReceivedMessage) : Except Go.Panic (List (Except Go.Fault AuditEvent)) :=
  if msg.header.type = nlmsgError then do
    let v ← errnoAt o msg.payload
    pure (if v ≠ 0 then [.error (.error ("error receiving events " ++ toString v))] else [])
  else pure [newAuditEvent interpretField order msg.toNetlinkMessage]

/-- `GetAuditMessages(s, cb, &done)` until `done` is signalled: the calls of `cb` for the
results of the receives, or the panic that ends it. -/
def getAuditMessages : List (Except Go.Fault (Go.Slice UInt8)) →
    Except Go.Panic (List (Except Go.Fault AuditEvent)) :=
  receiveLoop o (eventCallsOf interpretField order o)

/-- `GetAuditEvents(s, cb)`: the loop of `GetAuditMessages` in a goroutine, with no `done`
channel; on the same receives it makes the same calls. -/
def getAuditEvents : List (Except Go.Fault (Go.Slice UInt8)) →
    Except Go.Panic (List (Except Go.Fault AuditEvent)) :=
  receiveLoop o (eventCallsOf interpretField order o)

/-- The call `GetAuditMessages` should make for a message: the result of `ParseAuditEvent` of its
payload, with interpretation; for an `NLMSG_ERROR` message the error with its errno when that is
not 0, and no call for an acknowledgement. -/
def eventCallOf (m : NetlinkMessage) : Option (Except Go.Fault AuditEvent) :=
  if m.header.type = nlmsgError then
    if errnoOf o m.data ≠ 0 then
      some (.error (.error ("error receiving events " ++ toString (errnoOf o m.data))))
    else none
  else some (parseAuditEvent interpretField order (Go.stringOfBytes m.data) m.header.type true)

/-- The body of the loop makes the call of a kernel message for what it is received as, when an
event's payload is received exactly. -/
theorem eventCallsOf_received {m : KernelMessage} {p : ReceivedMessage}
    (received : m.ReceivedAs p.toNetlinkMessage)
    (unaligned : m.message.header.type ≠ nlmsgError →
      m.message.data.length % nlmsgAlignto ≠ 0) :
    eventCallsOf interpretField order o p = .ok (eventCallOf interpretField order o m.message).toList := by
  have errno := m.errnoAt_received o received
  obtain ⟨sameHeader, -, exact⟩ := received
  unfold eventCallsOf eventCallOf
  rw [sameHeader]
  by_cases error : m.message.header.type = nlmsgError
  · rw [if_pos error, if_pos error, errno error, Go.ok_bind]
    by_cases acknowledged : errnoOf o m.message.data = 0
    · rw [if_neg (not_not.mpr acknowledged), if_neg (not_not.mpr acknowledged)]
      rfl
    · rw [if_pos acknowledged, if_pos acknowledged]
      rfl
  · rw [if_neg error, if_neg error, newAuditEvent_eq_parseAuditEvent, sameHeader,
      exact (unaligned error)]
    rfl

/-- **`GetAuditMessages` parses the kernel's events.**  On datagrams of messages framed by the
kernel, received into a buffer with a header's length of room behind them, where every message
but an `NLMSG_ERROR` one has a payload whose length is not a multiple of 4, the loop does not
panic and calls back for every message in order: with `ParseAuditEvent`'s result on its payload,
never refusing its type, and for an `NLMSG_ERROR` message with its errno when that is not 0. -/
theorem getAuditMessages_datagrams (ds : List Datagram)
    (roomy : ∀ d ∈ ds, nlmsgHdrlen ≤ d.spare.length)
    (unaligned : ∀ d ∈ ds, ∀ m ∈ d.messages,
      m.message.header.type ≠ nlmsgError → m.message.data.length % nlmsgAlignto ≠ 0) :
    getAuditMessages interpretField order o (ds.map fun d => .ok (d.bytes o)) =
      .ok ((Datagram.stream ds).filterMap (eventCallOf interpretField order o)) := by
  rw [List.filterMap_eq_flatMap_toList]
  exact receiveLoop_datagrams o _ _ _
    (fun _ _ received fits => eventCallsOf_received interpretField order o received fits) ds roomy
    unaligned

end Interpretation

/-! ## `GetRawAuditEvents` -/

/-- `auditConstant.String()` of a value the table names. -/
theorem auditConstantString_of_lookup {msgType : UInt16} {name : String}
    (found : auditConstantNames.lookup msgType.toNat = some name) :
    auditConstantString msgType = "AUDIT_".toList ++ name.toList := by
  rw [auditConstantString, found]

section Raw

variable (o : Go.ByteOrder)

/-- The calls the loop of `GetRawAuditEvents` makes for one message, each a text and an error.
For an `NLMSG_ERROR` message, the error with the errno read from `msg.Data[0:4]` when that is
not 0; for any other, `type=NAME msg=PAYLOAD` and a newline, or the error `Unknown Type: ` with
the type as a character when `auditConstant.String()` gives it no name.  The call at the end of
the body is made for every message, an `NLMSG_ERROR` one too, with an empty text and no error. -/
def rawEventCallsOf (msg : ReceivedMessage) :
    Except Go.Panic (List (List Char × Option Go.Fault)) :=
  if msg.header.type = nlmsgError then do
    let v ← errnoAt o msg.payload
    let refused := if v ≠ 0 then [([], some (.error ("error receiving events " ++ toString v)))]
      else []
    pure (refused ++ [([], none)])
  else
    let type := auditConstantString msg.header.type
    if type = ("auditConstant(" ++ toString msg.header.type.toNat ++ ")").toList then
      pure [([], some (.error ("Unknown Type: " ++ Go.runeString msg.header.type.toNat)))]
    else do
      let name ← Go.sliceFrom type 6
      pure [("type=".toList ++ name ++ " msg=".toList ++ Go.stringOfBytes msg.data ++ ['\n'],
        none)]

/-- `GetRawAuditEvents(s, cb)`: the calls of `cb` for the results of the receives, or the panic
that ends the goroutine. -/
def getRawAuditEvents : List (Except Go.Fault (Go.Slice UInt8)) →
    Except Go.Panic (List (List Char × Option Go.Fault)) :=
  receiveLoop o (rawEventCallsOf o)

/-- The calls `GetRawAuditEvents` makes for a message, read off the table of names: for a named
type, `type=NAME msg=PAYLOAD`; for a type without a name, an error; for an `NLMSG_ERROR`
message, an error with its errno when that is not 0, and then, as for an acknowledgement, an
empty text with no error. -/
def rawEventCallOf (m : NetlinkMessage) : List (List Char × Option Go.Fault) :=
  if m.header.type = nlmsgError then
    (if errnoOf o m.data ≠ 0 then
      [([], some (.error ("error receiving events " ++ toString (errnoOf o m.data))))]
    else []) ++ [([], none)]
  else match auditConstantNames.lookup m.header.type.toNat with
    | some name =>
      [("type=".toList ++ name.toList ++ " msg=".toList ++ Go.stringOfBytes m.data ++ ['\n'],
        none)]
    | none => [([], some (.error ("Unknown Type: " ++ Go.runeString m.header.type.toNat)))]

/-- The body of the loop of `GetRawAuditEvents` makes the calls of a kernel message for what it
is received as, when an event's payload is received exactly. -/
theorem rawEventCallsOf_received {m : KernelMessage} {p : ReceivedMessage}
    (received : m.ReceivedAs p.toNetlinkMessage)
    (unaligned : m.message.header.type ≠ nlmsgError →
      m.message.data.length % nlmsgAlignto ≠ 0) :
    rawEventCallsOf o p = .ok (rawEventCallOf o m.message) := by
  have errno := m.errnoAt_received o received
  obtain ⟨sameHeader, -, exact⟩ := received
  unfold rawEventCallsOf rawEventCallOf
  rw [sameHeader]
  by_cases error : m.message.header.type = nlmsgError
  · rw [if_pos error, if_pos error, errno error, Go.ok_bind]
    rfl
  · rw [if_neg error, if_neg error, exact (unaligned error)]
    dsimp only
    -- the test on the name is the lookup in the table
    rcases named : auditConstantNames.lookup m.message.header.type.toNat with _ | name
    · rw [if_pos ((auditConstantString_eq_unknown_iff _).mpr named)]
      rfl
    · have known : auditConstantString m.message.header.type ≠
          ("auditConstant(" ++ toString m.message.header.type.toNat ++ ")").toList := by
        rw [Ne, auditConstantString_eq_unknown_iff, named]
        exact Option.some_ne_none name
      rw [if_neg known, auditConstantString_of_lookup named,
        Go.sliceFrom_of_le (show 6 ≤ ("AUDIT_".toList ++ name.toList).length by simp),
        List.drop_left' (show "AUDIT_".toList.length = 6 from rfl)]
      rfl

/-- **`GetRawAuditEvents` on the kernel's datagrams.**  On datagrams of messages framed by the
kernel, received into a buffer with a header's length of room behind them, where every message
but an `NLMSG_ERROR` one has a payload whose length is not a multiple of 4, the loop does not
panic and makes the calls of every message in order: `type=NAME msg=PAYLOAD` for a named type,
an `Unknown Type` error for another, and for an `NLMSG_ERROR` message its errno when that is
not 0, followed, for acknowledgements too, by a call with an empty text and no error. -/
theorem getRawAuditEvents_datagrams (ds : List Datagram)
    (roomy : ∀ d ∈ ds, nlmsgHdrlen ≤ d.spare.length)
    (unaligned : ∀ d ∈ ds, ∀ m ∈ d.messages,
      m.message.header.type ≠ nlmsgError → m.message.data.length % nlmsgAlignto ≠ 0) :
    getRawAuditEvents o (ds.map fun d => .ok (d.bytes o)) =
      .ok ((Datagram.stream ds).flatMap (rawEventCallOf o)) :=
  receiveLoop_datagrams o _ _ _ (fun _ _ received fits => rawEventCallsOf_received o received fits)
    ds roomy unaligned

end Raw

/-- An audit event of five payload bytes and the kernel's refusal of request 5, in one datagram
received into a buffer with 16 bytes of room behind it. -/
def eventAndRefusal : Datagram :=
  ⟨[⟨⟨⟨21, auditSyscall, 0, 9, 0⟩, [104, 101, 108, 108, 111]⟩, by decide, by decide⟩,
    refusalOfFive], List.replicate 16 0⟩

/-- On `eventAndRefusal`, the event is parsed and the refusal, whose payload is 20 bytes long,
reported with its errno. -/
theorem getAuditMessages_eventAndRefusal :
    (∀ d ∈ [eventAndRefusal], nlmsgHdrlen ≤ d.spare.length) ∧
      (∀ d ∈ [eventAndRefusal], ∀ m ∈ d.messages,
        m.message.header.type ≠ nlmsgError → m.message.data.length % nlmsgAlignto ≠ 0) ∧
      getAuditMessages (fun _ value _ _ => .ok value) .entries .littleEndian
        ([eventAndRefusal].map fun d => .ok (d.bytes .littleEndian)) =
        .ok ((Datagram.stream [eventAndRefusal]).filterMap
          (eventCallOf (fun _ value _ _ => .ok value) .entries .littleEndian)) :=
  ⟨by decide, by decide, getAuditMessages_datagrams _ _ _ _ (by decide) (by decide)⟩

/-- On `eventAndRefusal`, `GetRawAuditEvents` hands over the event's text, then the refusal's
errno, then an empty text with no error for the refusal. -/
theorem getRawAuditEvents_eventAndRefusal :
    (∀ d ∈ [eventAndRefusal], nlmsgHdrlen ≤ d.spare.length) ∧
      (∀ d ∈ [eventAndRefusal], ∀ m ∈ d.messages,
        m.message.header.type ≠ nlmsgError → m.message.data.length % nlmsgAlignto ≠ 0) ∧
      getRawAuditEvents .littleEndian ([eventAndRefusal].map fun d => .ok (d.bytes .littleEndian)) =
        .ok [("type=SYSCALL msg=hello\n".toList, none),
          ([], some (.error ("error receiving events " ++ toString (-1 : Int32)))), ([], none)] :=
  ⟨by decide, by decide,
    (getRawAuditEvents_datagrams _ _ (by decide) (by decide)).trans (by decide +kernel)⟩

end LibAudit
