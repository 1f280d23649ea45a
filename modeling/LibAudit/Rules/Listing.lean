import LibAudit.Go.Loop
import LibAudit.Rules.Print
import LibAudit.Rules.Wire

/-!
# Listing the kernel's rules: `ListAllRules` and `DeleteAllRules`

Both functions send an `AUDIT_LIST_RULES` request and read the kernel's answer: one
`AUDIT_LIST_RULES` message for each rule, then `NLMSG_DONE`, all numbered as the request.  They
receive batch after batch with `Receive` and walk each batch message by message.  A message of
another number, or from another port, ends the call with an error, and so does an
`NLMSG_ERROR` message whose errno is not 0.  `ListAllRules` unpacks each rule and prints them all
at `NLMSG_DONE`; `DeleteAllRules` sends an `AUDIT_DEL_RULE` request with the bytes of each rule
as soon as it reads them, and asks for the request to be acknowledged.

## Main definitions

* `receiveOf` — what `Receive` returns for a result of `ReceiveNoParse`.
* `wrongHeader` — the checks of the number and the port of a message, shared by both loops.
* `listStep`, `listAllRules` — `ListAllRules`.
* `deleteStep`, `deleteAllRules` — `DeleteAllRules`.
* `KernelMessage.done` — the end of the kernel's answer.
* `KernelMessage.ReceivedAs` — how `Receive` hands over a message the kernel sent.
* `deletionRequests` — the deletion requests of `DeleteAllRules` for a list of listed rules.

## Main statements

* `receiveOf_datagram` — `Receive` hands over every message of a datagram of the kernel's, with
  the 16 bytes behind its payload when the payload's length is a multiple of 4 (`handedOver`).
* `deleteAllRules_acknowledgement_before_done` — the acknowledgement of the first deletion,
  when the kernel sends it before `NLMSG_DONE`, ends `DeleteAllRules` with the error
  `Wrong Seq nr`.
* `deleteAllRules_listing_first` — when the whole listing comes before any acknowledgement,
  `DeleteAllRules` sends back every listed rule, in order, and returns `nil`.

## Design notes

The kernel answers the listing from a thread of its own and each deletion in the call that
receives it, so that its acknowledgements may come before the end of the listing.  Both loops
read the whole answer as one stream of batches (`Go.Flow.batches`).

A received message keeps the rest of the receive buffer behind its payload
(`ReceivedMessage`): `m.Data[0:4]` of an `NLMSG_ERROR` message with a payload shorter than four
bytes reads from that buffer, as in Go, and panics only past its end.
-/

namespace LibAudit

/-- `Receive(bytesize, block, nil)` for what `ReceiveNoParse` returns on the same datagram: the
same error, or the buffer parsed by the loop of `ParseAuditNetlinkMessage`, each `Data` a slice
of the buffer.  A datagram shorter than a header is `nil` for both, and parses to no message. -/
def receiveOf (o : Go.ByteOrder) (received : Except Go.Fault (Go.Slice UInt8)) :
    Except Go.Fault (List ReceivedMessage) :=
  received.bind (parseLoop o [])

/-- The first two checks of both loops on the header `h`: the number of the list request, and
a port of 0 or the socket's own.  `caller` and `pidName` are the words of the messages. -/
def wrongHeader (caller pidName : String) (socketPID : Nat) (seq : UInt32) (h : NlMsghdr) :
    Option Go.Fault :=
  if h.seq ≠ seq then
    some (.error (caller ++ ": Wrong Seq nr " ++ toString h.seq ++ ", expected " ++ toString seq))
  else if 0 < h.pid.toNat ∧ h.pid.toNat ≠ socketPID then
    some (.error (caller ++ ": Wrong " ++ pidName ++ " " ++ toString h.pid ++ ", expected " ++
      toString socketPID))
  else none

theorem wrongHeader_of_seq_ne {caller pidName : String} {socketPID : Nat} {seq : UInt32}
    {h : NlMsghdr} (other : h.seq ≠ seq) :
    wrongHeader caller pidName socketPID seq h = some (.error (caller ++ ": Wrong Seq nr " ++
      toString h.seq ++ ", expected " ++ toString seq)) := by
  rw [wrongHeader, if_pos other]

/-- A message numbered as the request, from the kernel (port 0) or from the socket's own port,
passes both checks. -/
theorem wrongHeader_of_own {caller pidName : String} {socketPID : Nat} {seq : UInt32}
    {h : NlMsghdr} (own : h.seq = seq) (ownPid : h.pid.toNat = 0 ∨ h.pid.toNat = socketPID) :
    wrongHeader caller pidName socketPID seq h = none := by
  have passes : ¬ (0 < h.pid.toNat ∧ h.pid.toNat ≠ socketPID) := by omega
  rw [wrongHeader, if_neg (not_not.mpr own), if_neg passes]

/-! ## Receiving datagrams of kernel messages -/

/-- The bytes the workaround of `ParseAuditNetlinkMessage` adds to the payload of `m`, followed
in the receive buffer by `behind`: when the payload's length is a multiple of 4, `Len` is
aligned and `dbuf[:Len]` takes the 16 bytes behind it. -/
def trailing (m : NetlinkMessage) (behind : List UInt8) : List UInt8 :=
  if m.data.length % nlmsgAlignto = 0 then behind.take nlmsgHdrlen else []

/-- The messages `Receive` hands over for the kernel's messages `ms`, received into a buffer
whose bytes `spare` follow them: each header, and each payload with what the workaround adds to
it from the images and the bytes behind it. -/
def handedOver (o : Go.ByteOrder) (spare : List UInt8) : List KernelMessage → List NetlinkMessage
  | [] => []
  | m :: ms =>
    ⟨m.message.header, m.message.data ++
      trailing m.message ((Datagram.bytes o ⟨ms, spare⟩).elems ++ spare)⟩ :: handedOver o spare ms

@[simp] theorem length_handedOver (o : Go.ByteOrder) (spare : List UInt8) (ms : List KernelMessage) :
    (handedOver o spare ms).length = ms.length := by
  induction ms with
  | nil => rfl
  | cons m ms inductionHypothesis => rw [handedOver, List.length_cons, inductionHypothesis,
      List.length_cons]

/-- What `Receive` hands over for the kernel message `m`: its header, and a payload that starts
with `m`'s own and is exactly it when its length is not a multiple of 4. -/
def KernelMessage.ReceivedAs (m : KernelMessage) (p : NetlinkMessage) : Prop :=
  p.header = m.message.header ∧ m.message.data <+: p.data ∧
    (m.message.data.length % nlmsgAlignto ≠ 0 → p.data = m.message.data)

theorem handedOver_receivedAs (o : Go.ByteOrder) (spare : List UInt8) :
    ∀ ms : List KernelMessage, List.Forall₂ (fun p m => m.ReceivedAs p) (handedOver o spare ms) ms
  | [] => .nil
  | m :: ms => .cons ⟨rfl, List.prefix_append _ _, fun odd => by
      show m.message.data ++ trailing m.message _ = m.message.data
      rw [trailing, if_neg odd, List.append_nil]⟩ (handedOver_receivedAs o spare ms)

/-- The errno of an `NLMSG_ERROR` message of the kernel's is read right from what it is
received as: `m.Data[0:4]` lies within the payload's own first four bytes. -/
theorem KernelMessage.errnoAt_received (o : Go.ByteOrder) {m : KernelMessage} {p : ReceivedMessage}
    (received : m.ReceivedAs p.toNetlinkMessage) (error : m.message.header.type = nlmsgError) :
    errnoAt o p.payload = .ok (errnoOf o m.message.data) := by
  obtain ⟨-, ⟨extra, extended⟩, -⟩ := received
  rw [ReceivedMessage.payload, ← extended]
  exact errnoAt_append o (m.errno_fits error) extra p.spare

/-- The payload cut for a kernel message followed by the images of later messages: its own
bytes, and what the workaround adds from behind it. -/
theorem parsedPayload_kernelMessage (m : KernelMessage) {rest : List UInt8}
    (restAligned : rest.length % nlmsgAlignto = 0) {spare : List UInt8}
    (roomy : nlmsgHdrlen ≤ spare.length) :
    ∃ data : Go.Slice UInt8, parsedPayload m.message.header
      ⟨m.message.data ++ (imagePadding m.message ++ rest), spare⟩
      (nlmAlignOf m.message.header.len.toNat) = .ok data ∧
      data.elems = m.message.data ++ trailing m.message (rest ++ spare) := by
  by_cases aligned : m.message.data.length % nlmsgAlignto = 0
  · obtain ⟨spare', payload⟩ := parsedPayload_paddedImage_of_aligned m.framed aligned rest roomy
    exact ⟨_, payload, by rw [trailing, if_pos aligned]⟩
  · exact ⟨_, parsedPayload_paddedImage_of_unaligned m.framed aligned restAligned spare,
      by rw [trailing, if_neg aligned, List.append_nil]⟩

/-- **`Receive` recovers the kernel's messages**, when the receive buffer reaches a header's
length past the datagram: the messages `handedOver` describes, one for each, in order. -/
theorem parseLoop_handedOver (o : Go.ByteOrder) {spare : List UInt8}
    (roomy : nlmsgHdrlen ≤ spare.length) :
    ∀ (ms : List KernelMessage) (msgs : List ReceivedMessage),
      ∃ received, parseLoop o msgs (Datagram.bytes o ⟨ms, spare⟩) = .ok (msgs ++ received) ∧
        received.map ReceivedMessage.toNetlinkMessage = handedOver o spare ms
  | [], msgs => ⟨[], by rw [parseLoop_of_lt (Datagram.len_bytes_nil o spare), List.append_nil],
      rfl⟩
  | m :: ms, msgs => by
      let rest := Datagram.bytes o ⟨ms, spare⟩
      -- the images behind the first one are a multiple of 4 bytes long
      have restAligned : rest.elems.length % nlmsgAlignto = 0 := by
        have aligned := length_paddedImages_mod o (ms.map KernelMessage.message)
        rwa [List.map_map] at aligned
      have cut := netlinkMessageHeaderAndData_paddedImage (o := o) m.framed rest.elems spare
      obtain ⟨data, payload, cutData⟩ := parsedPayload_kernelMessage m restAligned roomy
      have after : (Datagram.bytes o ⟨m :: ms, spare⟩).sliceFrom
          (nlmAlignOf m.message.header.len.toNat) = .ok rest :=
        sliceFrom_paddedImage m.framed rest.elems spare
      obtain ⟨received, looped, viewed⟩ := parseLoop_handedOver o roomy ms
        (msgs ++ [⟨⟨m.message.header, data.elems⟩, data.spare⟩])
      refine ⟨⟨⟨m.message.header, data.elems⟩, data.spare⟩ :: received, ?_, ?_⟩
      · rw [parseLoop_of_message (Datagram.len_bytes_cons o m ms spare) cut payload after, looped,
          List.append_assoc, List.singleton_append]
      · rw [List.map_cons, viewed, handedOver, cutData]

/-- **`Receive` of a datagram of the kernel's**: the messages `handedOver` describes, each
`Data` a slice of the buffer, and each received as the kernel's message it stands for. -/
theorem receiveOf_datagram (o : Go.ByteOrder) {spare : List UInt8}
    (roomy : nlmsgHdrlen ≤ spare.length) (ms : List KernelMessage) :
    ∃ received, receiveOf o (.ok (Datagram.bytes o ⟨ms, spare⟩)) = .ok received ∧
      received.map ReceivedMessage.toNetlinkMessage = handedOver o spare ms ∧
      List.Forall₂ (fun p m => m.ReceivedAs p.toNetlinkMessage) received ms := by
  obtain ⟨received, looped, viewed⟩ := parseLoop_handedOver o roomy ms []
  have carried := handedOver_receivedAs o spare ms
  rw [← viewed] at carried
  exact ⟨received, looped, viewed, List.forall₂_map_left_iff.mp carried⟩

/-- `Receive` of a datagram of one kernel message. -/
theorem receiveOf_single (o : Go.ByteOrder) (m : KernelMessage) {spare : List UInt8}
    (roomy : nlmsgHdrlen ≤ spare.length) :
    ∃ p : ReceivedMessage, p.header = m.message.header ∧ m.message.data <+: p.data ∧
      receiveOf o (.ok (Datagram.bytes o ⟨[m], spare⟩)) = .ok [p] := by
  obtain ⟨parsed, looped, -, carried⟩ := receiveOf_datagram o roomy [m]
  -- one message in, one message out
  obtain ⟨p, rfl, sameHeader, prefixed, -⟩ :
      ∃ p, parsed = [p] ∧ m.ReceivedAs p.toNetlinkMessage := by
    cases carried with
    | cons first rest => cases rest; exact ⟨_, rfl, first⟩
  exact ⟨p, sameHeader, prefixed, looped⟩

/-! ## `ListAllRules` -/

/-- One message of the loop of `ListAllRules`, with the rules unpacked so far: at
`NLMSG_DONE` every rule is printed and the call returns. -/
def listStep (interp : Interpreters) (o : Go.ByteOrder) (socketPID : Nat) (seq : UInt32)
    (ruleArray : List AuditRuleData) (m : ReceivedMessage) :
    Option (Go.Flow (List AuditRuleData)
      (Except Go.Fault (List (List Char) × List AuditRuleData))) :=
  some <| match wrongHeader "ListAllRules" "pid" socketPID seq m.header with
  | some err => .exit (.error err)
  | none =>
    if m.header.type = nlmsgDone then
      match ruleArray.mapM (printRule interp) with
      | .error p => .exit (.error (.panic p))
      | .ok result => .exit (.ok (result, ruleArray))
    else
      let errno : Except Go.Panic Int32 :=
        if m.header.type = nlmsgError then errnoAt o m.payload else .ok 0
      match errno with
      | .error p => .exit (.error (.panic p))
      | .ok e =>
        if e ≠ 0 then .exit (.error (.error "ListAllRules: error while receiving rules"))
        else if m.header.type = auditListRules then
          match strucUnpack m.data with
          | .error err => .exit (.error (err.wrap "ListAllRules failed"))
          | .ok r => .next (ruleArray ++ [r])
        else .next ruleArray

/-- `ListAllRules(s)`: the printed rules and the rules the kernel lists, or the error; `none`
when it waits for good for the end of the listing. -/
def listAllRules (interp : Interpreters) (o : Go.ByteOrder) (s : Socket) :
    Option (Except Go.Fault (List (List Char) × List AuditRuleData) × Socket) :=
  let seq := s.sequenceNumber + 1
  let wb := newNetlinkAuditRequest auditListRules 0 seq
  match ({ s with sequenceNumber := seq } : Socket).send wb with
  | .error err => some (.error (err.wrap "ListAllRules failed"), { s with sequenceNumber := seq })
  | .ok s =>
    match s.getPID with
    | .error err => some (.error (err.wrap "ListAllRules: GetPID failed"), s)
    | .ok socketPID =>
      (Go.Flow.batches (receiveOf o) (listStep interp o socketPID seq)
          (fun err _ => .error (err.wrap "ListAllRules failed")) [] s.received).map
        fun (result, received) => (result, { s with received := received })

/-! ### The kernel's listing -/

/-- `NLMSG_DONE` as the kernel ends the listing of request `seq`: from port 0, flagged
`NLM_F_MULTI`, with no payload. -/
def KernelMessage.done (seq : UInt32) : KernelMessage :=
  ⟨⟨⟨16, nlmsgDone, 2, seq, 0⟩, []⟩, rfl,
    fun done => absurd done (show nlmsgDone ≠ nlmsgError by decide)⟩

/-- `m` is the kernel's message listing `rule` in answer to request `seq`, to the socket of port
`socketPID` on a little-endian host: the rule's `audit_rule_data` bytes, with a `Buflen` that
counts its `Buf`. -/
structure KernelMessage.Lists (seq : UInt32) (socketPID : Nat) (m : KernelMessage)
    (rule : AuditRuleData) : Prop where
  type : m.message.header.type = auditListRules
  numbered : m.message.header.seq = seq
  fromKernel : m.message.header.pid.toNat = 0 ∨ m.message.header.pid.toNat = socketPID
  data : m.message.data = rule.wireImage .littleEndian
  consistent : rule.buflen.toNat = rule.buf.length

section ListStep

variable {interp : Interpreters} {o : Go.ByteOrder} {socketPID : Nat} {seq : UInt32}
  {ruleArray : List AuditRuleData} {m : ReceivedMessage}

/-- A listed rule is unpacked and appended. -/
theorem listStep_listing (own : m.header.seq = seq)
    (ownPid : m.header.pid.toNat = 0 ∨ m.header.pid.toNat = socketPID)
    (listing : m.header.type = auditListRules) {r : AuditRuleData}
    (unpacked : strucUnpack m.data = .ok r) :
    listStep interp o socketPID seq ruleArray m = some (.next (ruleArray ++ [r])) := by
  rw [listStep, wrongHeader_of_own own ownPid]
  simp only [listing, unpacked]
  rfl

/-- `NLMSG_DONE` prints the rules unpacked so far and returns them. -/
theorem listStep_done (own : m.header.seq = seq)
    (ownPid : m.header.pid.toNat = 0 ∨ m.header.pid.toNat = socketPID)
    (done : m.header.type = nlmsgDone) {texts : List (List Char)}
    (printed : ruleArray.mapM (printRule interp) = .ok texts) :
    listStep interp o socketPID seq ruleArray m = some (.exit (.ok (texts, ruleArray))) := by
  rw [listStep, wrongHeader_of_own own ownPid]
  simp only [done, printed]
  rfl

/-- **The run lemma of `ListAllRules`** over datagrams of one listed rule each: every rule comes
back as the kernel encoded it, in order, whatever bytes the framing workaround reads past it. -/
theorem batches_listings
    {failed : Go.Fault → List AuditRuleData →
      Except Go.Fault (List (List Char) × List AuditRuleData)}
    {spare : List UInt8} (roomy : nlmsgHdrlen ≤ spare.length) :
    ∀ (answers : List (KernelMessage × AuditRuleData)) (ruleArray : List AuditRuleData)
      (rest : List (Except Go.Fault (Go.Slice UInt8))),
      (∀ a ∈ answers, a.1.Lists seq socketPID a.2) →
      Go.Flow.batches (receiveOf .littleEndian) (listStep interp .littleEndian socketPID seq)
          failed ruleArray
          (answers.map (fun a => .ok (Datagram.bytes .littleEndian ⟨[a.1], spare⟩)) ++ rest) =
        Go.Flow.batches (receiveOf .littleEndian) (listStep interp .littleEndian socketPID seq)
          failed (ruleArray ++ answers.map Prod.snd) rest
  | [], ruleArray, rest, _ => by simp
  | a :: answers, ruleArray, rest, lists => by
      have listed := lists a List.mem_cons_self
      obtain ⟨p, header, ⟨extra, carried⟩, parsed⟩ := receiveOf_single .littleEndian a.1 roomy
      have unpacked : strucUnpack p.data = .ok a.2 := by
        rw [← carried, listed.data]
        exact strucUnpack_wireImage_append a.2 listed.consistent extra
      have stepped : listStep interp .littleEndian socketPID seq ruleArray p =
          some (.next (ruleArray ++ [a.2])) :=
        listStep_listing (by rw [header]; exact listed.numbered)
          (by rw [header]; exact listed.fromKernel) (by rw [header]; exact listed.type) unpacked
      rw [List.map_cons, List.cons_append,
        Go.Flow.batches_cons_of_next parsed (Go.Flow.loop_singleton.trans stepped),
        batches_listings roomy answers _ rest
          (fun a' member => lists a' (List.mem_cons_of_mem a member))]
      simp

end ListStep

/-- **`ListAllRules` returns the kernel's rules.**  On a little-endian host, when the kernel
answers the list request with one datagram for each rule, carrying the rule's encoding, and then
`NLMSG_DONE`, `ListAllRules` sends the list request alone and returns exactly those rules, in
order, with their printed texts. -/
theorem listAllRules_listed (interp : Interpreters) {s : Socket} {socketPID : Nat}
    (sendOk : s.sendResult = .ok ()) (pid : s.getPID = .ok socketPID)
    {answers : List (KernelMessage × AuditRuleData)}
    (lists : ∀ a ∈ answers, a.1.Lists (s.sequenceNumber + 1) socketPID a.2)
    {spare : List UInt8} (roomy : nlmsgHdrlen ≤ spare.length)
    {later : List (Except Go.Fault (Go.Slice UInt8))}
    (received : s.received =
      answers.map (fun a => .ok (Datagram.bytes .littleEndian ⟨[a.1], spare⟩)) ++
        .ok (Datagram.bytes .littleEndian ⟨[KernelMessage.done (s.sequenceNumber + 1)], spare⟩) ::
          later)
    {texts : List (List Char)} (printed : (answers.map Prod.snd).mapM (printRule interp) = .ok texts) :
    listAllRules interp .littleEndian s = some (.ok (texts, answers.map Prod.snd), { s with
      sequenceNumber := s.sequenceNumber + 1
      sent := s.sent ++ [newNetlinkAuditRequest auditListRules 0 (s.sequenceNumber + 1)]
      received := later }) := by
  obtain ⟨p, header, -, parsed⟩ :=
    receiveOf_single .littleEndian (KernelMessage.done (s.sequenceNumber + 1)) roomy
  have ended : listStep interp .littleEndian socketPID (s.sequenceNumber + 1)
      (answers.map Prod.snd) p = some (.exit (.ok (texts, answers.map Prod.snd))) :=
    listStep_done (by rw [header]; rfl) (by rw [header]; exact .inl rfl) (by rw [header]; rfl)
      printed
  let listed : Socket := { s with
    sequenceNumber := s.sequenceNumber + 1
    sent := s.sent ++ [newNetlinkAuditRequest auditListRules 0 (s.sequenceNumber + 1)] }
  have sent : ({ s with sequenceNumber := s.sequenceNumber + 1 } : Socket).send
      (newNetlinkAuditRequest auditListRules 0 (s.sequenceNumber + 1)) = .ok listed :=
    Socket.send_of_ok (s := { s with sequenceNumber := s.sequenceNumber + 1 }) sendOk _
  rw [listAllRules]
  dsimp only
  rw [sent]
  dsimp only
  rw [show listed.getPID = .ok socketPID from pid]
  dsimp only
  -- the listed rules, then `NLMSG_DONE`
  rw [show listed.received = _ from received, batches_listings roomy answers [] _ lists,
    List.nil_append, Go.Flow.batches_cons_of_exit parsed (Go.Flow.loop_singleton.trans ended),
    Option.map_some]

/-! ### The kernel's listing of a rule -/

theorem auditListRules_ne_nlmsgError : auditListRules ≠ nlmsgError := by decide

theorem framed_listing (seq : UInt32) {rule : AuditRuleData}
    (small : rule.buflen.toNat < 2 ^ 32 - 1056) :
    NetlinkMessage.Framed ⟨⟨UInt32.ofNat (1056 + rule.buflen.toNat), auditListRules, 2, seq, 0⟩,
      rule.wireImage .littleEndian⟩ := by
  show (UInt32.ofNat (1056 + rule.buflen.toNat)).toNat =
    nlmsgHdrlen + (rule.wireImage .littleEndian).length
  rw [AuditRuleData.length_wireImage, UInt32.toNat_ofNat', Nat.mod_eq_of_lt (by omega)]
  unfold nlmsgHdrlen
  omega

/-- The kernel's `AUDIT_LIST_RULES` message for `rule` in answer to request `seq`, from the
kernel's port: the rule's little-endian `audit_rule_data` bytes under a header that counts
them. -/
def KernelMessage.listing (seq : UInt32) (rule : AuditRuleData)
    (small : rule.buflen.toNat < 2 ^ 32 - 1056) : KernelMessage :=
  ⟨⟨⟨UInt32.ofNat (1056 + rule.buflen.toNat), auditListRules, 2, seq, 0⟩,
    rule.wireImage .littleEndian⟩, framed_listing seq small,
    fun error => absurd error auditListRules_ne_nlmsgError⟩

theorem KernelMessage.listing_lists {seq : UInt32} {socketPID : Nat} {rule : AuditRuleData}
    (small : rule.buflen.toNat < 2 ^ 32 - 1056) (consistent : rule.buflen.toNat = rule.buf.length) :
    (KernelMessage.listing seq rule small).Lists seq socketPID rule :=
  ⟨rfl, rfl, .inl rfl, rfl, consistent⟩

theorem zero_lt_auditMaxFields : 0 < auditMaxFields := by decide

/-- The rule `-a always,exit -S all -F uid=<uid>` as the kernel lists it: the exit filter list,
the first 63 words of the mask, as `-S all` sets them, and one field. -/
def uidRule (uid : UInt32) : AuditRuleData := { AuditRuleData.empty with
  flags := UInt32.ofInt auditFilterExit
  action := UInt32.ofInt auditAlways
  fieldCount := 1
  mask := Vector.ofFn fun j => if j.val < auditBitmaskSize - 1 then 0xFFFFFFFF else 0
  fields := AuditRuleData.empty.fields.set 0 auditUid zero_lt_auditMaxFields
  values := AuditRuleData.empty.values.set 0 uid zero_lt_auditMaxFields
  fieldflags := AuditRuleData.empty.fieldflags.set 0 auditEqual zero_lt_auditMaxFields }

/-- The kernel lists the rules of uid 0 and of uid 1000, then ends the listing. -/
theorem listAllRules_listed_uid_rules :
    let interp : Interpreters :=
      ⟨fun _ => none, fun _ => "Unsupported".toList, "amd64".toList, fun _ value _ => .ok value,
        Char.toLower⟩
    let answers : List (KernelMessage × AuditRuleData) :=
      [(KernelMessage.listing 1 (uidRule 0) (by decide), uidRule 0),
        (KernelMessage.listing 1 (uidRule 1000) (by decide), uidRule 1000)]
    let s : Socket := ⟨.ok (), .ok 7,
      answers.map (fun a => .ok (Datagram.bytes .littleEndian ⟨[a.1], List.replicate 16 0⟩)) ++
        [.ok (Datagram.bytes .littleEndian ⟨[KernelMessage.done 1], List.replicate 16 0⟩)], [], 0⟩
    ∃ texts, listAllRules interp .littleEndian s = some (.ok (texts, [uidRule 0, uidRule 1000]),
      { s with
        sequenceNumber := s.sequenceNumber + 1
        sent := s.sent ++ [newNetlinkAuditRequest auditListRules 0 (s.sequenceNumber + 1)]
        received := [] }) := by
  intro interp answers s
  have printable : ([uidRule 0, uidRule 1000].mapM (printRule interp)).isOk = true := by
    decide +kernel
  generalize printedEq : [uidRule 0, uidRule 1000].mapM (printRule interp) = printed at printable
  have lists : ∀ a ∈ answers, a.1.Lists (0 + 1) 7 a.2 := by
    intro a member
    rcases List.mem_pair.mp member with rfl | rfl
    · exact KernelMessage.listing_lists (by decide) rfl
    · exact KernelMessage.listing_lists (by decide) rfl
  cases printed with
  | error p => cases printable
  | ok texts =>
    exact ⟨texts, @listAllRules_listed interp s 7 rfl rfl _ lists (List.replicate 16 0)
      (by decide) [] rfl texts printedEq⟩

/-! ## `DeleteAllRules` -/

/-- One message of the loop of `DeleteAllRules`: a listed rule is sent back at once in an
`AUDIT_DEL_RULE` request under the next number of the package counter. -/
def deleteStep (o : Go.ByteOrder) (socketPID : Nat) (seq : UInt32) (s : Socket)
    (m : ReceivedMessage) : Option (Go.Flow Socket (Except Go.Fault Unit × Socket)) :=
  some <| match wrongHeader "DeleteAllRules" "PID" socketPID seq m.header with
  | some err => .exit (.error err, s)
  | none =>
    if m.header.type = nlmsgDone then .exit (.ok (), s)
    else
      let errno : Except Go.Panic Int32 :=
        if m.header.type = nlmsgError then errnoAt o m.payload else .ok 0
      match errno with
      | .error p => .exit (.error (.panic p), s)
      | .ok e =>
        if e ≠ 0 then
          .exit (.error (.error ("DeleteAllRules: error receiving rules -" ++ toString e)), s)
        else if m.header.type = auditListRules then
          let delSeq := s.sequenceNumber + 1
          let newwb := newNetlinkAuditRequest auditDelRule m.data.length delSeq
          let newwb := { newwb with data := newwb.data ++ m.data }
          match ({ s with sequenceNumber := delSeq } : Socket).send newwb with
          | .error err =>
            .exit (.error (err.wrap "DeleteAllRules failed"), { s with sequenceNumber := delSeq })
          | .ok s => .next s
        else .next s

/-- `DeleteAllRules(s)`; `none` when it waits for good for the end of the listing. -/
def deleteAllRules (o : Go.ByteOrder) (s : Socket) : Option (Except Go.Fault Unit × Socket) :=
  let seq := s.sequenceNumber + 1
  let wb := newNetlinkAuditRequest auditListRules 0 seq
  match ({ s with sequenceNumber := seq } : Socket).send wb with
  | .error err => some (.error (err.wrap "DeleteAllRules failed"), { s with sequenceNumber := seq })
  | .ok s =>
    match s.getPID with
    | .error err => some (.error (err.wrap "DeleteAllRules: GetPID failed"), s)
    | .ok socketPID =>
      (Go.Flow.batches (receiveOf o) (deleteStep o socketPID seq)
          (fun err s => (.error (err.wrap "DeleteAllRules failed"), s)) s s.received).map
        fun ((result, s), received) => (result, { s with received := received })

section DeleteStep

variable {o : Go.ByteOrder} {socketPID : Nat} {seq : UInt32} {s : Socket} {m : ReceivedMessage}

/-- **A listed rule is sent back at once**, with the bytes it was listed with, in a deletion
request numbered after the counter. -/
theorem deleteStep_listing (sendOk : s.sendResult = .ok ())
    (listing : m.header.type = auditListRules) (own : m.header.seq = seq)
    (ownPid : m.header.pid.toNat = 0 ∨ m.header.pid.toNat = socketPID) :
    deleteStep o socketPID seq s m = some (.next { s with
      sequenceNumber := s.sequenceNumber + 1
      sent := s.sent ++
        [⟨(newNetlinkAuditRequest auditDelRule m.data.length (s.sequenceNumber + 1)).header,
          m.data⟩] }) := by
  rw [deleteStep, wrongHeader_of_own own ownPid]
  simp only [listing, Socket.send, sendOk]
  rfl

/-- A message of another number ends the loop with `Wrong Seq nr`, the socket as it is. -/
theorem deleteStep_of_seq_ne (other : m.header.seq ≠ seq) :
    deleteStep o socketPID seq s m = some (.exit (.error (.error ("DeleteAllRules: Wrong Seq nr " ++
      toString m.header.seq ++ ", expected " ++ toString seq)), s)) := by
  rw [deleteStep, wrongHeader_of_seq_ne other]
  rfl

/-- `NLMSG_DONE` ends the loop with `nil`, the socket as it is. -/
theorem deleteStep_done (own : m.header.seq = seq)
    (ownPid : m.header.pid.toNat = 0 ∨ m.header.pid.toNat = socketPID)
    (done : m.header.type = nlmsgDone) :
    deleteStep o socketPID seq s m = some (.exit (.ok (), s)) := by
  rw [deleteStep, wrongHeader_of_own own ownPid]
  simp only [done]
  rfl

end DeleteStep

theorem add_two_ne_add_one (x : UInt32) : x + 2 ≠ x + 1 := by
  intro same
  have onNat := congrArg UInt32.toNat same
  have two : (2 : UInt32).toNat = 2 := rfl
  have one : (1 : UInt32).toNat = 1 := rfl
  rw [UInt32.toNat_add, UInt32.toNat_add, two, one] at onNat
  omega

/-- **An acknowledgement before `NLMSG_DONE` fails `DeleteAllRules`.**  The deletion of the
first listed rule asks for an acknowledgement, numbered as the deletion.  When the kernel sends
it before the end of the listing, the loop, which still waits for messages numbered as the list
request, returns `Wrong Seq nr`: the call fails although the rule was deleted, and the rules
listed after it are not deleted. -/
theorem deleteAllRules_acknowledgement_before_done (o : Go.ByteOrder) {s : Socket}
    {socketPID : Nat} (sendOk : s.sendResult = .ok ()) (pid : s.getPID = .ok socketPID)
    {m : KernelMessage} (listing : m.message.header.type = auditListRules)
    (numbered : m.message.header.seq = s.sequenceNumber + 1)
    (fromKernel : m.message.header.pid.toNat = 0 ∨ m.message.header.pid.toNat = socketPID)
    {ackPid : UInt32} {spare spare' : List UInt8} (roomy : nlmsgHdrlen ≤ spare.length)
    (roomy' : nlmsgHdrlen ≤ spare'.length) {later : List (Except Go.Fault (Go.Slice UInt8))}
    (received : s.received = .ok (Datagram.bytes o ⟨[m], spare⟩) ::
      .ok (Datagram.bytes o
        ⟨[KernelMessage.acknowledgement (s.sequenceNumber + 2) ackPid], spare'⟩) :: later) :
    ∃ payload, m.message.data <+: payload ∧
      deleteAllRules o s = some (.error (.error ("DeleteAllRules: Wrong Seq nr " ++
          toString (s.sequenceNumber + 2) ++ ", expected " ++ toString (s.sequenceNumber + 1))),
        { s with
          sequenceNumber := s.sequenceNumber + 2
          sent := s.sent ++ [newNetlinkAuditRequest auditListRules 0 (s.sequenceNumber + 1),
            ⟨(newNetlinkAuditRequest auditDelRule payload.length (s.sequenceNumber + 2)).header,
              payload⟩]
          received := later }) := by
  obtain ⟨p, header, carries, parsed⟩ := receiveOf_single o m roomy
  obtain ⟨ack, ackHeader, -, parsedAck⟩ :=
    receiveOf_single o (KernelMessage.acknowledgement (s.sequenceNumber + 2) ackPid) roomy'
  have two : s.sequenceNumber + 1 + 1 = s.sequenceNumber + 2 := by rw [UInt32.add_assoc]; rfl
  refine ⟨p.data, carries, ?_⟩
  -- the list request is sent; then the rule is sent back, and the acknowledgement refused
  let listed : Socket := { s with
    sequenceNumber := s.sequenceNumber + 1
    sent := s.sent ++ [newNetlinkAuditRequest auditListRules 0 (s.sequenceNumber + 1)] }
  have deleted := @deleteStep_listing o socketPID (s.sequenceNumber + 1) listed p sendOk
    (by rw [header, listing]) (by rw [header, numbered]) (by rw [header]; exact fromKernel)
  have refused := @deleteStep_of_seq_ne o socketPID (s.sequenceNumber + 1)
    { listed with
      sequenceNumber := listed.sequenceNumber + 1
      sent := listed.sent ++
        [⟨(newNetlinkAuditRequest auditDelRule p.data.length (listed.sequenceNumber + 1)).header,
          p.data⟩] } ack
    (by rw [ackHeader]; exact add_two_ne_add_one s.sequenceNumber)
  have sent : ({ s with sequenceNumber := s.sequenceNumber + 1 } : Socket).send
      (newNetlinkAuditRequest auditListRules 0 (s.sequenceNumber + 1)) = .ok listed :=
    Socket.send_of_ok (s := { s with sequenceNumber := s.sequenceNumber + 1 }) sendOk _
  rw [deleteAllRules]
  dsimp only
  rw [sent]
  dsimp only
  rw [show listed.getPID = .ok socketPID from pid]
  dsimp only
  rw [show listed.received = _ from received,
    Go.Flow.batches_cons_of_next parsed (Go.Flow.loop_singleton.trans deleted),
    Go.Flow.batches_cons_of_exit parsedAck (Go.Flow.loop_singleton.trans refused), Option.map_some]
  simp only [listed, pid, ackHeader, two, List.append_assoc, List.singleton_append]
  rfl

/-- The kernel lists one rule of 1040 zero bytes for request 1, acknowledges its deletion,
request 2, then ends the listing. -/
theorem deleteAllRules_acknowledgement_before_done_one_rule :
    let listed : KernelMessage :=
      ⟨⟨⟨1056, auditListRules, 2, 1, 0⟩, List.replicate 1040 0⟩, by decide +kernel,
        fun error => absurd error (by decide)⟩
    let s : Socket := ⟨.ok (), .ok 7,
      [.ok (Datagram.bytes .littleEndian ⟨[listed], List.replicate 16 0⟩),
        .ok (Datagram.bytes .littleEndian
          ⟨[KernelMessage.acknowledgement 2 7], List.replicate 16 0⟩),
        .ok (Datagram.bytes .littleEndian ⟨[KernelMessage.done 1], List.replicate 16 0⟩)],
      [], 0⟩
    ∃ payload, listed.message.data <+: payload ∧
      deleteAllRules .littleEndian s = some (.error (.error ("DeleteAllRules: Wrong Seq nr " ++
          toString (s.sequenceNumber + 2) ++ ", expected " ++ toString (s.sequenceNumber + 1))),
        { s with
          sequenceNumber := s.sequenceNumber + 2
          sent := s.sent ++ [newNetlinkAuditRequest auditListRules 0 (s.sequenceNumber + 1),
            ⟨(newNetlinkAuditRequest auditDelRule payload.length (s.sequenceNumber + 2)).header,
              payload⟩]
          received := [.ok (Datagram.bytes .littleEndian
            ⟨[KernelMessage.done 1], List.replicate 16 0⟩)] }) := by
  intro listed s
  exact deleteAllRules_acknowledgement_before_done .littleEndian (s := s) rfl rfl rfl rfl (.inl rfl)
    (by decide) (by decide) rfl

/-! ### `DeleteAllRules` when the listing comes first -/

/-- The deletion requests `DeleteAllRules` sends for the listed messages `ps`, numbered on from
`seq`: each carries back the payload it was listed with. -/
def deletionRequests : UInt32 → List NetlinkMessage → List NetlinkMessage
  | _, [] => []
  | seq, p :: ps =>
    ⟨(newNetlinkAuditRequest auditDelRule p.data.length (seq + 1)).header, p.data⟩ ::
      deletionRequests (seq + 1) ps

theorem deletionRequests_append (seq : UInt32) (ps qs : List NetlinkMessage) :
    deletionRequests seq (ps ++ qs) =
      deletionRequests seq ps ++ deletionRequests (seq + UInt32.ofNat ps.length) qs := by
  induction ps generalizing seq with
  | nil => simp [deletionRequests]
  | cons p ps inductionHypothesis =>
    rw [List.cons_append, deletionRequests, deletionRequests, inductionHypothesis,
      List.length_cons, UInt32.ofNat_add, UInt32.add_comm (UInt32.ofNat ps.length),
      ← UInt32.add_assoc]
    rfl

/-- `m` lists a rule in answer to request `seq`, to the socket of port `socketPID`. -/
def KernelMessage.ListsRuleFor (seq : UInt32) (socketPID : Nat) (m : KernelMessage) : Prop :=
  m.message.header.type = auditListRules ∧ m.message.header.seq = seq ∧
    (m.message.header.pid.toNat = 0 ∨ m.message.header.pid.toNat = socketPID)

section Deleting

variable {o : Go.ByteOrder} {socketPID : Nat} {seq : UInt32}

/-- The loop over one batch of listed rules sends each back, in order. -/
theorem loop_deleteStep {ps : List ReceivedMessage} {ms : List KernelMessage}
    (carried : List.Forall₂ (fun p m => m.ReceivedAs p.toNetlinkMessage) ps ms)
    (listed : ∀ m ∈ ms, m.ListsRuleFor seq socketPID) (s : Socket)
    (sendOk : s.sendResult = .ok ()) :
    Go.Flow.loop (deleteStep o socketPID seq) s ps = some (.next { s with
      sequenceNumber := s.sequenceNumber + UInt32.ofNat ps.length
      sent := s.sent ++ deletionRequests s.sequenceNumber
        (ps.map ReceivedMessage.toNetlinkMessage) }) := by
  induction carried generalizing s with
  | nil => simp [Go.Flow.loop, deletionRequests]
  | @cons p m ps ms received _ inductionHypothesis =>
    obtain ⟨listing, own, ownPid⟩ := listed m List.mem_cons_self
    obtain ⟨header, -, -⟩ := received
    have stepped : deleteStep o socketPID seq s p = _ := deleteStep_listing sendOk
      (by rw [header]; exact listing) (by rw [header]; exact own) (by rw [header]; exact ownPid)
    rw [Go.Flow.loop_cons_of_next stepped,
      inductionHypothesis (fun m' mem => listed m' (List.mem_cons_of_mem m mem)) { s with
        sequenceNumber := s.sequenceNumber + 1
        sent := s.sent ++
          [⟨(newNetlinkAuditRequest auditDelRule p.data.length (s.sequenceNumber + 1)).header,
            p.data⟩] } sendOk]
    -- the counter moves on by one for each rule, and the log grows by its request
    have counter : s.sequenceNumber + 1 + UInt32.ofNat ps.length =
        s.sequenceNumber + UInt32.ofNat (p :: ps).length := by
      rw [List.length_cons, UInt32.ofNat_add, UInt32.add_comm (UInt32.ofNat ps.length),
        ← UInt32.add_assoc]
      rfl
    simp only [counter, List.map_cons, deletionRequests, List.append_assoc, List.singleton_append]

/-- **The run lemma of `DeleteAllRules`** over datagrams of listed rules: every rule is sent
back, in order, with the payload `Receive` hands over for it. -/
theorem batches_deleteStep (failed : Go.Fault → Socket → Except Go.Fault Unit × Socket)
    (rest : List (Except Go.Fault (Go.Slice UInt8))) :
    ∀ (ds : List Datagram) (s : Socket), s.sendResult = .ok () →
      (∀ d ∈ ds, nlmsgHdrlen ≤ d.spare.length) →
      (∀ d ∈ ds, ∀ m ∈ d.messages, m.ListsRuleFor seq socketPID) →
        Go.Flow.batches (receiveOf o) (deleteStep o socketPID seq) failed s
            (ds.map (fun d => .ok (d.bytes o)) ++ rest) =
          Go.Flow.batches (receiveOf o) (deleteStep o socketPID seq) failed { s with
            sequenceNumber := s.sequenceNumber + UInt32.ofNat (ds.flatMap Datagram.messages).length
            sent := s.sent ++ deletionRequests s.sequenceNumber
              (ds.flatMap fun d => handedOver o d.spare d.messages) } rest
  | [], s, _, _, _ => by simp [deletionRequests]
  | ⟨ms, spare⟩ :: ds, s, sendOk, roomy, listed => by
      obtain ⟨received, parsed, viewed, carried⟩ :=
        receiveOf_datagram o (roomy _ List.mem_cons_self) ms
      have stepped := loop_deleteStep (o := o) carried (listed _ List.mem_cons_self) s sendOk
      -- the loop's requests carry the payloads `handedOver` describes
      have counted : received.length = (handedOver o spare ms).length := by
        rw [← viewed, List.length_map]
      rw [viewed, counted] at stepped
      rw [List.map_cons, List.cons_append, Go.Flow.batches_cons_of_next parsed stepped,
        batches_deleteStep failed rest ds { s with
            sequenceNumber := s.sequenceNumber + UInt32.ofNat (handedOver o spare ms).length
            sent := s.sent ++ deletionRequests s.sequenceNumber (handedOver o spare ms) } sendOk
          (fun d mem => roomy d (List.mem_cons_of_mem _ mem))
          (fun d mem => listed d (List.mem_cons_of_mem _ mem))]
      -- one number and one request for each message of the first datagram, then the others'
      simp only [List.flatMap_cons, List.length_append, length_handedOver, UInt32.ofNat_add,
        UInt32.add_assoc, deletionRequests_append, List.append_assoc]

end Deleting

/-- **`DeleteAllRules` when the kernel lists every rule before it acknowledges a deletion.**
On datagrams of listed rules, received with a header's length of room behind them, and then
`NLMSG_DONE`, `DeleteAllRules` sends the list request and then, for every listed rule in order,
a deletion request carrying back the payload `Receive` handed over (`handedOver`): the rule's
bytes, and the 16 bytes behind them when their length is a multiple of 4.  It returns `nil` at
`NLMSG_DONE` and leaves what follows it, the kernel's answers to the deletions, unread in the
socket. -/
theorem deleteAllRules_listing_first (o : Go.ByteOrder) {s : Socket} {socketPID : Nat}
    (sendOk : s.sendResult = .ok ()) (pid : s.getPID = .ok socketPID) {ds : List Datagram}
    (roomy : ∀ d ∈ ds, nlmsgHdrlen ≤ d.spare.length)
    (listed : ∀ d ∈ ds, ∀ m ∈ d.messages, m.ListsRuleFor (s.sequenceNumber + 1) socketPID)
    {spare : List UInt8} (roomyDone : nlmsgHdrlen ≤ spare.length)
    {later : List (Except Go.Fault (Go.Slice UInt8))}
    (received : s.received = ds.map (fun d => .ok (d.bytes o)) ++
      .ok (Datagram.bytes o ⟨[KernelMessage.done (s.sequenceNumber + 1)], spare⟩) :: later) :
    deleteAllRules o s = some (.ok (), { s with
      sequenceNumber := s.sequenceNumber + 1 + UInt32.ofNat (ds.flatMap Datagram.messages).length
      sent := s.sent ++ newNetlinkAuditRequest auditListRules 0 (s.sequenceNumber + 1) ::
        deletionRequests (s.sequenceNumber + 1)
          (ds.flatMap fun d => handedOver o d.spare d.messages)
      received := later }) := by
  let listing : Socket := { s with
    sequenceNumber := s.sequenceNumber + 1
    sent := s.sent ++ [newNetlinkAuditRequest auditListRules 0 (s.sequenceNumber + 1)] }
  have sent : ({ s with sequenceNumber := s.sequenceNumber + 1 } : Socket).send
      (newNetlinkAuditRequest auditListRules 0 (s.sequenceNumber + 1)) = .ok listing :=
    Socket.send_of_ok (s := { s with sequenceNumber := s.sequenceNumber + 1 }) sendOk _
  have deleted := batches_deleteStep (o := o)
    (fun err s => (.error (err.wrap "DeleteAllRules failed"), s))
    (.ok (Datagram.bytes o ⟨[KernelMessage.done (s.sequenceNumber + 1)], spare⟩) :: later)
    ds listing sendOk roomy listed
  obtain ⟨p, header, -, parsedDone⟩ :=
    receiveOf_single o (KernelMessage.done (s.sequenceNumber + 1)) roomyDone
  have ended : deleteStep o socketPID (s.sequenceNumber + 1) { listing with
      sequenceNumber := listing.sequenceNumber + UInt32.ofNat (ds.flatMap Datagram.messages).length
      sent := listing.sent ++ deletionRequests listing.sequenceNumber
        (ds.flatMap fun d => handedOver o d.spare d.messages) } p = _ :=
    deleteStep_done (by rw [header]; rfl) (by rw [header]; exact .inl rfl) (by rw [header]; rfl)
  rw [deleteAllRules]
  dsimp only
  rw [sent]
  dsimp only
  rw [show listing.getPID = .ok socketPID from pid]
  dsimp only
  rw [show listing.received = _ from received, deleted,
    Go.Flow.batches_cons_of_exit parsedDone (Go.Flow.loop_singleton.trans ended), Option.map_some]
  simp only [listing, pid, List.append_assoc, List.singleton_append]

/-- The kernel lists the rules of uid 0 and of uid 1000 in one datagram for request 1, ends the
listing, and only then acknowledges the first deletion.  Both payloads are 1040 bytes long: the
first is sent back with the header of the second behind it, and the second with 16 bytes of the
buffer. -/
theorem deleteAllRules_listing_first_two_rules :
    let first := KernelMessage.listing 1 (uidRule 0) (by decide)
    let second := KernelMessage.listing 1 (uidRule 1000) (by decide)
    let s : Socket := ⟨.ok (), .ok 7,
      [.ok (Datagram.bytes .littleEndian ⟨[first, second], List.replicate 16 0⟩),
        .ok (Datagram.bytes .littleEndian ⟨[KernelMessage.done 1], List.replicate 16 0⟩),
        .ok (Datagram.bytes .littleEndian
          ⟨[KernelMessage.acknowledgement 2 7], List.replicate 16 0⟩)], [], 0⟩
    handedOver .littleEndian (List.replicate 16 0) [first, second] =
      [⟨first.message.header,
          first.message.data ++ NlMsghdr.encode .littleEndian second.message.header⟩,
        ⟨second.message.header, second.message.data ++ List.replicate 16 0⟩] ∧
    deleteAllRules .littleEndian s = some (.ok (), { s with
      sequenceNumber := s.sequenceNumber + 1 + 2
      sent := s.sent ++ newNetlinkAuditRequest auditListRules 0 (s.sequenceNumber + 1) ::
        deletionRequests (s.sequenceNumber + 1)
          (handedOver .littleEndian (List.replicate 16 0) [first, second])
      received := [.ok (Datagram.bytes .littleEndian
        ⟨[KernelMessage.acknowledgement 2 7], List.replicate 16 0⟩)] }) := by
  intro first second s
  have listed : ∀ d ∈ [(⟨[first, second], List.replicate 16 0⟩ : Datagram)],
      ∀ m ∈ d.messages, m.ListsRuleFor (s.sequenceNumber + 1) 7 := by
    intro d inDatagrams m inMessages
    rw [List.mem_singleton.mp inDatagrams] at inMessages
    rcases List.mem_pair.mp inMessages with rfl | rfl <;> exact ⟨rfl, rfl, .inl rfl⟩
  refine ⟨by decide +kernel, ?_⟩
  exact deleteAllRules_listing_first .littleEndian (s := s) rfl rfl (by decide) listed
    (by decide) rfl

end LibAudit
