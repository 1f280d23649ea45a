import LibAudit.Netlink.Events

/-!
# Requests and replies: `auditGetReply`, the `AuditSet…` requests and `AuditIsEnabled`

A request to the kernel carries a fresh sequence number, and the functions of this module then
wait on the socket for the kernel's answer to it.  They read whatever the socket delivers:
besides the answer, audit events and late answers to earlier requests may arrive at any moment,
in the same datagram as the answer or in others.

## The socket

A `Netlink` socket is modelled by what the functions see of it (`Socket`): the outcome of `Send`,
that of `GetPID`, the results of the successive calls of `ReceiveNoParse` still to come, and the
log of the requests sent.  The package's request counter `sequenceNumber` is threaded along with
it.  A receive that finds nothing left to deliver blocks for good, so each function returns
`none` when the socket has delivered everything without deciding it.

## Main definitions

* `auditGetReply` — the loop that waits for the answer to request `seq`.
* `auditSetStatus` — the body of `AuditSetEnabled`, `AuditSetPID`, `AuditSetRateLimit`,
  `AuditSetBacklogLimit` and `AuditSetFlags`.
* `auditIsEnabled` — `AuditIsEnabled`, with a framing loop of its own.
* `receiveInto`, `Socket.Buffered` — a receive into the connection's buffer, and a socket whose
  batches were all received so.

Each receive loop frames a datagram with an inner loop: one step (`replyStep`, `isEnabledStep`)
is a non-recursive function of the buffer, and the inner loop recurses on the buffer's length.

## Main results

* `receiveReply_datagrams` — on datagrams of well-framed kernel messages, `auditGetReply` reads
  the messages as one stream, whatever their division into datagrams: the first message that
  ends the wait decides (`replyOfStream`).
* `isEnabledLoop_acks` — `AuditIsEnabled` steps over its own acknowledgements to the answer
  that follows them.
* `receiveInto_datagram` — a datagram of the kernel's that leaves a header's length of the
  buffer is received as the datagrams the receive loops' run lemmas take.
-/

namespace LibAudit

/-! ## The socket and the requests -/

/-- What the modelled functions see of a `Netlink` socket, with the package's request counter. -/
structure Socket where
  /-- What `Send` returns, whatever the request. -/
  sendResult : Except Go.Fault Unit
  /-- What `GetPID` returns: the port id of the socket. -/
  getPID : Except Go.Fault Nat
  /-- What the calls of `ReceiveNoParse` still to come return, in order. -/
  received : List (Except Go.Fault (Go.Slice UInt8))
  /-- The requests sent so far, in order. -/
  sent : List NetlinkMessage
  /-- The package variable `sequenceNumber`: the number of the last request. -/
  sequenceNumber : UInt32

/-- `s.Send(request)`: the socket's outcome for every send; a request sent is logged. -/
def Socket.send (s : Socket) (request : NetlinkMessage) : Except Go.Fault Socket :=
  s.sendResult.map fun _ => { s with sent := s.sent ++ [request] }

theorem Socket.send_of_ok {s : Socket} (sendOk : s.sendResult = .ok ()) (request : NetlinkMessage) :
    s.send request = .ok { s with sent := s.sent ++ [request] } := by
  rw [Socket.send, sendOk]
  rfl

/-- `newNetlinkAuditRequest(proto, family, sizeofData)` once `atomic.AddUint32(&sequenceNumber,
1)` has returned `seq`: a request of type `proto` for a payload of `sizeofData` bytes, with an
empty payload so far.  `family` is not used. -/
def newNetlinkAuditRequest (proto : UInt16) (sizeofData : Nat) (seq : UInt32) : NetlinkMessage :=
  ⟨⟨UInt32.ofNat (nlmsgHdrlen + sizeofData), proto, nlmFRequest ||| nlmFAck, seq, 0⟩, []⟩

/-- `auditStatus`, the C `struct audit_status`. -/
structure AuditStatus where
  mask : UInt32 := 0
  enabled : UInt32 := 0
  failure : UInt32 := 0
  pid : UInt32 := 0
  rateLimit : UInt32 := 0
  backlogLimit : UInt32 := 0
  lost : UInt32 := 0
  backlog : UInt32 := 0
  version : UInt32 := 0
  backlogWaitTime : UInt32 := 0
  deriving DecidableEq, Repr

namespace AuditStatus

/-- The fields in the order of the struct. -/
def fields (status : AuditStatus) : List UInt32 :=
  [status.mask, status.enabled, status.failure, status.pid, status.rateLimit,
    status.backlogLimit, status.lost, status.backlog, status.version, status.backlogWaitTime]

/-- `binary.Write(buff, o, status)`: the fields in order, four bytes each in byte order `o`.
It cannot fail on this struct. -/
def write (o : Go.ByteOrder) (status : AuditStatus) : List UInt8 :=
  status.fields.flatMap fun field => o.putUint 4 field.toNat

/-- The struct the first 40 bytes of `buf` hold in byte order `o`. -/
def decode (o : Go.ByteOrder) (buf : List UInt8) : AuditStatus :=
  let field (i : Nat) : UInt32 := UInt32.ofNat (o.getUint 4 (buf.drop (4 * i)))
  ⟨field 0, field 1, field 2, field 3, field 4, field 5, field 6, field 7, field 8, field 9⟩

/-- `binary.Read(bytes.NewBuffer(buf), o, &status)`: `io.ReadFull` of the struct's 40 bytes,
which fails with `io.EOF` on an empty buffer and with `io.ErrUnexpectedEOF` on a shorter one. -/
def read (o : Go.ByteOrder) (buf : List UInt8) : Except Go.Fault AuditStatus :=
  if buf.length < 40 then .error (.error (if buf.length = 0 then "EOF" else "unexpected EOF"))
  else .ok (decode o buf)

/-- The struct is read from its 40 bytes; what follows them does not matter. -/
theorem decode_append (o : Go.ByteOrder) {buf : List UInt8} (long : 40 ≤ buf.length)
    (rest : List UInt8) : decode o (buf ++ rest) = decode o buf := by
  have field : ∀ i, i < 10 → o.getUint 4 ((buf ++ rest).drop (4 * i)) =
      o.getUint 4 (buf.drop (4 * i)) := by
    intro i small
    rw [List.drop_append_of_le_length (by omega),
      Go.ByteOrder.getUint_append_of_le o (by simp; omega)]
  simp only [decode, field 0 (by decide), field 1 (by decide), field 2 (by decide),
    field 3 (by decide), field 4 (by decide), field 5 (by decide), field 6 (by decide),
    field 7 (by decide), field 8 (by decide), field 9 (by decide)]

theorem read_of_le (o : Go.ByteOrder) {buf : List UInt8} (long : 40 ≤ buf.length)
    (rest : List UInt8) : read o (buf ++ rest) = .ok (decode o buf) := by
  rw [read, if_neg (by simp; omega), decode_append o long]

@[simp] theorem length_write (o : Go.ByteOrder) (status : AuditStatus) :
    (status.write o).length = 40 := by
  simp [write, fields]

/-- **The status struct round-trips**: decoding what `binary.Write` wrote gives the struct. -/
theorem decode_write (o : Go.ByteOrder) (status : AuditStatus) :
    decode o (status.write o) = status := by
  have field : ∀ (i : Nat) (inRange : i < status.fields.length),
      UInt32.ofNat (o.getUint 4 ((status.write o).drop (4 * i))) = status.fields[i] := by
    intro i inRange
    rw [write, Go.ByteOrder.getUint_drop_flatMap_putUint o UInt32.toNat status.fields
      (fun v _ => v.toNat_lt) i inRange, UInt32.ofNat_toNat]
  have ten : status.fields.length = 10 := rfl
  simp only [decode, field 0 (by omega), field 1 (by omega), field 2 (by omega),
    field 3 (by omega), field 4 (by omega), field 5 (by omega), field 6 (by omega),
    field 7 (by omega), field 8 (by omega), field 9 (by omega)]
  rfl

end AuditStatus

/-- The errno at the front of an `NLMSG_ERROR` payload `data`: `int32` of its first four bytes
in byte order `o`. -/
def errnoOf (o : Go.ByteOrder) (data : List UInt8) : Int32 :=
  (UInt32.ofNat (o.getUint 4 data)).toInt32

/-- `dbuf[0:4]` of a payload that starts with at least four bytes of `data` reads its errno. -/
theorem errnoAt_append (o : Go.ByteOrder) {data : List UInt8} (long : 4 ≤ data.length)
    (more spare : List UInt8) : errnoAt o ⟨data ++ more, spare⟩ = .ok (errnoOf o data) := by
  have room : 0 ≤ 4 ∧ 4 ≤ (⟨data ++ more, spare⟩ : Go.Slice UInt8).cap := by
    simp only [Go.Slice.cap, List.length_append]
    omega
  simp only [errnoAt, Go.Slice.slice, room, and_self, if_true, Except.map, errnoOf, List.drop_zero,
    List.append_assoc, List.take_append_of_le_length long]
  rw [← Go.ByteOrder.getUint_append_of_le o (by simp; omega) (data.drop 4), List.take_append_drop]

/-! ## `auditGetReply` -/

/-- The two places where `auditGetReply` reads an errno end the wait the same way: with success
on 0 and on 17 (`EEXIST`), with an error otherwise. -/
def replyErrno (e : Int32) : Except Go.Fault Bool :=
  if e = 0 ∨ e = 17 then .ok true
  else .error (.error ("auditGetReply: error while recieving reply -" ++ toString e))

/-- What `auditGetReply` makes of a message with header `h` whose payload starts with `errno`
(read only for `NLMSG_ERROR`): `.ok true` breaks out of the wait with success, `.ok false` goes
on with the next message, an error ends the wait. -/
def replyVerdict (socketPID : Nat) (seq : UInt32) (h : NlMsghdr) (errno : Except Go.Panic Int32) :
    Except Go.Fault Bool :=
  if h.seq ≠ seq then
    -- an event, or the answer to another request
    if h.type > auditFirstUserMsg then .ok true
    else if h.type = nlmsgError then Go.liftPanic errno >>= replyErrno
    else .error (.error ("auditGetReply: Type " ++ toString h.type ++ " Wrong Seq nr " ++
      toString h.seq ++ ", expected " ++ toString seq))
  else if h.pid.toNat ≠ socketPID then
    .error (.error ("auditGetReply: Wrong pid " ++ toString h.pid ++ ", expected " ++
      toString socketPID))
  else if h.type = nlmsgDone then .ok true
  else if h.type = nlmsgError then Go.liftPanic errno >>= replyErrno
  -- acknowledge `AUDIT_GET` replies from the kernel
  else if h.type = auditGet then .ok true
  else .ok false

/-- The errno only matters to an `NLMSG_ERROR` message. -/
theorem replyVerdict_of_ne_error {socketPID : Nat} {seq : UInt32} {h : NlMsghdr}
    (other : h.type ≠ nlmsgError) (errno errno' : Except Go.Panic Int32) :
    replyVerdict socketPID seq h errno = replyVerdict socketPID seq h errno' := by
  simp only [replyVerdict, other, if_false]

/-- One message of the inner loop of `auditGetReply`, on a buffer of at least 16 bytes: an error
ends the call, `none` breaks out of the wait with success, and `some` goes on with the rest of
the buffer. -/
def replyStep (o : Go.ByteOrder) (socketPID : Nat) (seq : UInt32) (b : Go.Slice UInt8) :
    Except Go.Fault (Option (Go.Slice UInt8)) :=
  match netlinkMessageHeaderAndData o b with
  | .error err => .error (err.wrap "auditGetReply msg parsing failed")
  | .ok (h, dbuf, dlen) =>
    match replyVerdict socketPID seq h (errnoAt o dbuf) with
    | .error err => .error err
    | .ok true => .ok none
    | .ok false => (Go.liftPanic (b.sliceFrom dlen)).map some

/-- Every step that goes on steps over a header at least. -/
theorem replyStep_shorter {o : Go.ByteOrder} {socketPID : Nat} {seq : UInt32}
    {b b' : Go.Slice UInt8} (stepped : replyStep o socketPID seq b = .ok (some b')) :
    b'.len + nlmsgHdrlen ≤ b.len := by
  unfold replyStep at stepped
  split at stepped
  · cases stepped
  · next h dbuf dlen cut =>
    obtain ⟨-, long, -, -, aligned⟩ := netlinkMessageHeaderAndData_eq_ok cut
    have grown := le_nlmAlignOf h.len.toNat
    split at stepped
    · cases stepped
    · cases stepped
    · obtain ⟨rest, skipped, moved⟩ := Go.map_eq_ok.mp stepped
      cases moved
      cases sliced : b.sliceFrom dlen with
      | error p => rw [sliced] at skipped; cases skipped
      | ok r =>
          rw [sliced] at skipped
          cases skipped
          obtain ⟨inRange, shorter⟩ := Go.Slice.len_of_sliceFrom_eq_ok sliced
          omega

/-- `for len(b) >= syscall.NLMSG_HDRLEN { … }` of `auditGetReply` on one received buffer:
`true` when the wait is over, `false` when the buffer is used up. -/
def replyLoop (o : Go.ByteOrder) (socketPID : Nat) (seq : UInt32) (b : Go.Slice UInt8) :
    Except Go.Fault Bool :=
  if nlmsgHdrlen ≤ b.len then
    match _stepped : replyStep o socketPID seq b with
    | .error err => .error err
    | .ok none => .ok true
    | .ok (some b') => replyLoop o socketPID seq b'
  else .ok false
termination_by b.len
decreasing_by
  have := replyStep_shorter _stepped
  unfold nlmsgHdrlen at this
  omega

/-- The outer loop of `auditGetReply` over the results of `ReceiveNoParse`, with the results
left after it. -/
def receiveReply (o : Go.ByteOrder) (socketPID : Nat) (seq : UInt32) :
    List (Except Go.Fault (Go.Slice UInt8)) →
      Option (Except Go.Fault Unit × List (Except Go.Fault (Go.Slice UInt8)))
  | [] => none
  | .error err :: received => some (.error (err.wrap "auditGetReply failed"), received)
  | .ok b :: received =>
    match replyLoop o socketPID seq b with
    | .error err => some (.error err, received)
    | .ok true => some (.ok (), received)
    | .ok false => receiveReply o socketPID seq received

/-- `auditGetReply(s, bytesize, block, seq)`. -/
def auditGetReply (o : Go.ByteOrder) (s : Socket) (seq : UInt32) :
    Option (Except Go.Fault Unit × Socket) :=
  match s.getPID with
  | .error err => some (.error (err.wrap "auditGetReply: GetPID failed"), s)
  | .ok socketPID =>
    (receiveReply o socketPID seq s.received).map fun (result, received) =>
      (result, { s with received := received })

/-- `auditGetReply` only takes from what the socket delivers. -/
theorem auditGetReply_eq_some {o : Go.ByteOrder} {s s' : Socket} {seq : UInt32}
    {result : Except Go.Fault Unit} (replied : auditGetReply o s seq = some (result, s')) :
    s' = { s with received := s'.received } := by
  unfold auditGetReply at replied
  split at replied
  · cases replied
    rfl
  · obtain ⟨⟨result', received⟩, -, mapped⟩ := Option.map_eq_some_iff.mp replied
    cases mapped
    rfl

section Unfolding

variable {o : Go.ByteOrder} {socketPID : Nat} {seq : UInt32} {b : Go.Slice UInt8}

theorem replyLoop_of_lt (short : b.len < nlmsgHdrlen) : replyLoop o socketPID seq b = .ok false := by
  rw [replyLoop, if_neg (Nat.not_le.mpr short)]

theorem replyLoop_of_step (long : nlmsgHdrlen ≤ b.len) :
    replyLoop o socketPID seq b = match replyStep o socketPID seq b with
      | .error err => .error err
      | .ok none => .ok true
      | .ok (some b') => replyLoop o socketPID seq b' := by
  rw [replyLoop, if_pos long]
  split <;> simp_all

end Unfolding

/-! ## The AUDIT_SET requests -/

/-- The body of `AuditSetEnabled`, `AuditSetPID`, `AuditSetRateLimit`, `AuditSetBacklogLimit`
and `AuditSetFlags`, named `name`: send an `AUDIT_SET` request carrying `status`, then wait for
the kernel's answer. -/
def auditSetStatus (name : String) (o : Go.ByteOrder) (status : AuditStatus) (s : Socket) :
    Option (Except Go.Fault Unit × Socket) :=
  let seq := s.sequenceNumber + 1
  let wb := newNetlinkAuditRequest auditSet 40 seq
  let wb := { wb with data := wb.data ++ status.write o }
  match ({ s with sequenceNumber := seq } : Socket).send wb with
  | .error err => some (.error (err.wrap (name ++ " failed")), { s with sequenceNumber := seq })
  | .ok s => (auditGetReply o s seq).map fun (result, s) =>
    (result.mapError (Go.Fault.wrap (name ++ " failed")), s)

/-- `AuditSetEnabled(s, enabled)`. -/
def auditSetEnabled (o : Go.ByteOrder) (s : Socket) (enabled : Int) :
    Option (Except Go.Fault Unit × Socket) :=
  auditSetStatus "AuditSetEnabled" o { enabled := UInt32.ofInt enabled, mask := auditStatusEnabled } s

/-- `AuditSetPID(s, pid)`. -/
def auditSetPID (o : Go.ByteOrder) (s : Socket) (pid : Int) :
    Option (Except Go.Fault Unit × Socket) :=
  auditSetStatus "AuditSetPID" o { mask := auditStatusPid, pid := UInt32.ofInt pid } s

/-- `AuditSetRateLimit(s, limit)`. -/
def auditSetRateLimit (o : Go.ByteOrder) (s : Socket) (limit : Int) :
    Option (Except Go.Fault Unit × Socket) :=
  auditSetStatus "AuditSetRateLimit" o
    { mask := auditStatusRateLimit, rateLimit := UInt32.ofInt limit } s

/-- `AuditSetBacklogLimit(s, limit)`. -/
def auditSetBacklogLimit (o : Go.ByteOrder) (s : Socket) (limit : Int) :
    Option (Except Go.Fault Unit × Socket) :=
  auditSetStatus "AuditSetBacklogLimit" o
    { mask := auditStatusBacklogLimit, backlogLimit := UInt32.ofInt limit } s

/-- `AuditSetFlags(s, flag)`. -/
def auditSetFlags (o : Go.ByteOrder) (s : Socket) (flag : Int) :
    Option (Except Go.Fault Unit × Socket) :=
  auditSetStatus "AuditSetFlags" o { mask := auditStatusFailure, failure := UInt32.ofInt flag } s

/-! ## `AuditIsEnabled` -/

/-- `fmt`'s `%v` of a `[]byte`: the bytes in decimal, separated by spaces, in brackets. -/
def formatBytes (b : List UInt8) : String :=
  "[" ++ " ".intercalate (b.map toString) ++ "]"

/-- What `AuditIsEnabled` makes of a message with header `h` and payload `dbuf`, found at the
front of `b`: `some` returns its `(state, pid)`, `none` goes on with the next message. -/
def isEnabledVerdict (o : Go.ByteOrder) (seq : UInt32) (b : Go.Slice UInt8) (h : NlMsghdr)
    (dbuf : Go.Slice UInt8) : Except Go.Fault (Option (Int × Int)) :=
  if h.seq ≠ seq then
    .error (.error ("AuditIsEnabled: Type " ++ toString h.type ++ " Wrong Seq nr " ++
      toString h.seq ++ ", expected " ++ toString seq ++ "\nData " ++ formatBytes b.elems))
  else if h.type = nlmsgDone then .ok (some (-1, -1))
  else if h.type = nlmsgError then
    -- an errno of 0 is the kernel's acknowledgement of the request
    (Go.liftPanic (errnoAt o dbuf)).map fun e => if e = 0 then none else some (-1, -1)
  else if h.type = auditGet then
    match AuditStatus.read o dbuf.elems with
    | .error err => .error (err.wrap "AuditIsEnabled: binary read into auditStatus failed")
    | .ok status => .ok (some (status.enabled.toNat, status.pid.toNat))
  else .ok none

/-- One message of the framing loop of `AuditIsEnabled`, on a buffer of at least 16 bytes: the
answer, or the rest of the buffer.  The payload is cut by the workaround of
`ParseAuditNetlinkMessage`. -/
def isEnabledStep (o : Go.ByteOrder) (seq : UInt32) (b : Go.Slice UInt8) :
    Except Go.Fault ((Int × Int) ⊕ Go.Slice UInt8) :=
  let h := NlMsghdr.decode o (b.elems ++ b.spare)
  if h.len.toNat < nlmsgHdrlen ∨ h.len.toNat > b.len then
    .error (.error ("Nlmsghdr header length unexpected " ++ toString h.len ++
      ", actual packet length " ++ toString b.len))
  else
    match b.sliceFrom nlmsgHdrlen with
    | .error p => .error (.panic p)
    | .ok dbuf =>
      match parsedPayload h dbuf (nlmAlignOf h.len.toNat) with
      | .error p => .error (.panic p)
      | .ok dbuf =>
        match isEnabledVerdict o seq b h dbuf with
        | .error err => .error err
        | .ok (some answer) => .ok (.inl answer)
        | .ok none => (Go.liftPanic (b.sliceFrom (nlmAlignOf h.len.toNat))).map .inr

theorem isEnabledStep_shorter {o : Go.ByteOrder} {seq : UInt32} {b b' : Go.Slice UInt8}
    (stepped : isEnabledStep o seq b = .ok (.inr b')) : b'.len + nlmsgHdrlen ≤ b.len := by
  unfold isEnabledStep at stepped
  dsimp only at stepped
  split at stepped
  · cases stepped
  · next bounds =>
    have grown := le_nlmAlignOf (NlMsghdr.decode o (b.elems ++ b.spare)).len.toNat
    split at stepped
    · cases stepped
    · split at stepped
      · cases stepped
      · split at stepped
        · cases stepped
        · cases stepped
        · obtain ⟨rest, skipped, moved⟩ := Go.map_eq_ok.mp stepped
          cases moved
          cases sliced : b.sliceFrom (nlmAlignOf (NlMsghdr.decode o (b.elems ++ b.spare)).len.toNat) with
          | error p => rw [sliced] at skipped; cases skipped
          | ok r =>
              rw [sliced] at skipped
              cases skipped
              obtain ⟨inRange, shorter⟩ := Go.Slice.len_of_sliceFrom_eq_ok sliced
              unfold nlmsgHdrlen at bounds ⊢
              omega

/-- `for len(b) >= syscall.NLMSG_HDRLEN { … }` of `AuditIsEnabled` on one received buffer: the
answer, or `none` when the buffer is used up. -/
def isEnabledLoop (o : Go.ByteOrder) (seq : UInt32) (b : Go.Slice UInt8) :
    Except Go.Fault (Option (Int × Int)) :=
  if nlmsgHdrlen ≤ b.len then
    match _stepped : isEnabledStep o seq b with
    | .error err => .error err
    | .ok (.inl answer) => .ok (some answer)
    | .ok (.inr b') => isEnabledLoop o seq b'
  else .ok none
termination_by b.len
decreasing_by
  have := isEnabledStep_shorter _stepped
  unfold nlmsgHdrlen at this
  omega

/-- The outer loop of `AuditIsEnabled` over the results of `ReceiveNoParse`. -/
def receiveStatus (o : Go.ByteOrder) (seq : UInt32) :
    List (Except Go.Fault (Go.Slice UInt8)) →
      Option (Except Go.Fault (Int × Int) × List (Except Go.Fault (Go.Slice UInt8)))
  | [] => none
  | .error err :: received => some (.error (err.wrap "AuditIsEnabled failed"), received)
  | .ok b :: received =>
    match isEnabledLoop o seq b with
    | .error err => some (.error err, received)
    | .ok (some answer) => some (.ok answer, received)
    | .ok none => receiveStatus o seq received

/-- `AuditIsEnabled(s)`: the `(state, pid)` it returns with a `nil` error, or its error, with
which it returns `(-1, -1)`. -/
def auditIsEnabled (o : Go.ByteOrder) (s : Socket) : Option (Except Go.Fault (Int × Int) × Socket) :=
  let seq := s.sequenceNumber + 1
  match ({ s with sequenceNumber := seq } : Socket).send (newNetlinkAuditRequest auditGet 0 seq) with
  | .error err => some (.error (err.wrap "AuditIsEnabled failed"), { s with sequenceNumber := seq })
  | .ok s => (receiveStatus o seq s.received).map fun (result, received) =>
    (result, { s with received := received })

section Unfolding

variable {o : Go.ByteOrder} {seq : UInt32} {b : Go.Slice UInt8}

theorem isEnabledLoop_of_lt (short : b.len < nlmsgHdrlen) : isEnabledLoop o seq b = .ok none := by
  rw [isEnabledLoop, if_neg (Nat.not_le.mpr short)]

theorem isEnabledLoop_of_step (long : nlmsgHdrlen ≤ b.len) :
    isEnabledLoop o seq b = match isEnabledStep o seq b with
      | .error err => .error err
      | .ok (.inl answer) => .ok (some answer)
      | .ok (.inr b') => isEnabledLoop o seq b' := by
  rw [isEnabledLoop, if_pos long]
  split <;> simp_all

end Unfolding

/-! ## Datagrams of kernel messages

The kernel frames every message it sends: `Len` counts the header and the payload, the image is
padded to a multiple of four bytes, and the payload of an `NLMSG_ERROR` message starts with the
errno.  A datagram is a run of such images, returned by `ReceiveNoParse` with the rest of the
receive buffer behind it.  On such datagrams the receive loops read one stream of messages. -/

/-- A message as the kernel frames it. -/
structure KernelMessage where
  message : NetlinkMessage
  framed : message.Framed
  errno_fits : message.header.type = nlmsgError → 4 ≤ message.data.length

/-- A datagram the socket delivers: the kernel messages it carries, and the rest `spare` of the
receive buffer behind them.  A datagram shorter than a header comes back from `ReceiveNoParse`
as `nil`, the datagram of no message with no spare bytes. -/
structure Datagram where
  messages : List KernelMessage
  spare : List UInt8

namespace Datagram

/-- The buffer `ReceiveNoParse` returns for the datagram `d`. -/
def bytes (o : Go.ByteOrder) (d : Datagram) : Go.Slice UInt8 :=
  ⟨(d.messages.map fun m => paddedImage o m.message).flatten, d.spare⟩

/-- The messages of the datagrams `ds`, in order. -/
def stream (ds : List Datagram) : List NetlinkMessage :=
  ds.flatMap fun d => d.messages.map KernelMessage.message

@[simp] theorem stream_nil : stream [] = [] := rfl

@[simp] theorem stream_cons (d : Datagram) (ds : List Datagram) :
    stream (d :: ds) = d.messages.map KernelMessage.message ++ stream ds := rfl

@[simp] theorem stream_append (ds ds' : List Datagram) :
    stream (ds ++ ds') = stream ds ++ stream ds' := by
  simp [stream]

theorem bytes_cons (o : Go.ByteOrder) (m : KernelMessage) (ms : List KernelMessage)
    (spare : List UInt8) :
    bytes o ⟨m :: ms, spare⟩ = ⟨paddedImage o m.message ++ (bytes o ⟨ms, spare⟩).elems, spare⟩ :=
  rfl

theorem len_bytes_cons (o : Go.ByteOrder) (m : KernelMessage) (ms : List KernelMessage)
    (spare : List UInt8) : nlmsgHdrlen ≤ (bytes o ⟨m :: ms, spare⟩).len := by
  have grown := le_nlmAlignOf (nlmsgHdrlen + m.message.data.length)
  simp only [bytes_cons, Go.Slice.len, List.length_append, length_paddedImage]
  omega

theorem len_bytes_nil (o : Go.ByteOrder) (spare : List UInt8) :
    (bytes o ⟨[], spare⟩).len < nlmsgHdrlen := by
  simp [bytes, Go.Slice.len, nlmsgHdrlen]

end Datagram

/-! ### The connection's receive buffer

`NewNetlinkConnection` makes one buffer `s.rb` of `NLMSG_HDRLEN + MAX_AUDIT_MESSAGE_LENGTH`
bytes, and every receive reads into it: `Recvfrom` writes the datagram over its front, cut at
the buffer's end, and `ReceiveNoParse` returns the slice `rb[:nr]`, whose capacity is the whole
buffer.  The receive loops take those slices from `Socket.received`; a datagram of the kernel's
that leaves a header's length of the buffer behind it is received as `Datagram.bytes`. -/

/-- `syscall.NLMSG_HDRLEN + MAX_AUDIT_MESSAGE_LENGTH`: the length of the receive buffer. -/
def receiveBufferSize : Nat := nlmsgHdrlen + maxAuditMessageLength

/-- `ReceiveNoParse(bytesize, block, nil)` when `Recvfrom` delivers `datagram` into the buffer,
which holds `rb`: the `nr` bytes that fit are written over the front of the buffer and the rest
of the datagram is lost; fewer than a header's bytes give `nil` and the error `err`, which is
`nil` there; otherwise `rb[:nr]`. -/
def receiveInto (rb datagram : List UInt8) : Except Go.Fault (Go.Slice UInt8) :=
  let nr := min datagram.length rb.length
  let filled : Go.Slice UInt8 := Go.Slice.ofList (datagram.take nr ++ rb.drop nr)
  if nr < nlmsgHdrlen then .ok ⟨[], []⟩
  else Go.liftPanic (filled.sliceTo nr)

/-- The batches a socket delivers were received into the connection's buffer: each is `nil`, or
a slice whose capacity is the buffer's length. -/
def Socket.Buffered (s : Socket) : Prop :=
  ∀ b, .ok b ∈ s.received → b = ⟨[], []⟩ ∨ b.cap = receiveBufferSize

/-- What `Recvfrom` writes, `nr` bytes of the datagram, is what the slice shows; the rest of the
buffer stays behind it. -/
theorem receiveInto_of_le {rb datagram : List UInt8} (long : nlmsgHdrlen ≤ datagram.length)
    (fits : datagram.length ≤ rb.length) :
    receiveInto rb datagram = .ok ⟨datagram, rb.drop datagram.length⟩ := by
  have nr : min datagram.length rb.length = datagram.length := Nat.min_eq_left fits
  have room : datagram.length ≤ (Go.Slice.ofList (datagram ++ rb.drop datagram.length)).cap := by
    simp only [Go.Slice.cap, Go.Slice.ofList, List.length_append]
    omega
  simp only [receiveInto, nr, List.take_length]
  rw [if_neg (Nat.not_lt.mpr long), Go.Slice.sliceTo_of_le_cap room, Go.liftPanic_ok]
  simp [Go.Slice.ofList]

/-- A datagram longer than the buffer is cut at the buffer's end, with nothing behind it. -/
theorem receiveInto_of_lt {rb datagram : List UInt8} (long : nlmsgHdrlen ≤ rb.length)
    (cut : rb.length < datagram.length) :
    receiveInto rb datagram = .ok ⟨datagram.take rb.length, []⟩ := by
  have nr : min datagram.length rb.length = rb.length := Nat.min_eq_right cut.le
  have room : rb.length ≤ (Go.Slice.ofList (datagram.take rb.length ++ rb.drop rb.length)).cap := by
    simp only [Go.Slice.cap, Go.Slice.ofList, List.length_append, List.length_take]
    omega
  simp only [receiveInto, nr]
  rw [if_neg (Nat.not_lt.mpr long), Go.Slice.sliceTo_of_le_cap room, Go.liftPanic_ok]
  simp [Go.Slice.ofList, List.take_take]

/-- **Every receive is a slice of the buffer**: `nil`, or `nr` bytes with the capacity of the
whole buffer behind them. -/
theorem receiveInto_buffered (rb datagram : List UInt8) :
    ∃ b, receiveInto rb datagram = .ok b ∧ (b = ⟨[], []⟩ ∨ b.cap = rb.length) := by
  by_cases short : min datagram.length rb.length < nlmsgHdrlen
  · exact ⟨_, by rw [receiveInto, if_pos short], .inl rfl⟩
  · rcases Nat.lt_or_ge rb.length datagram.length with cut | fits
    · exact ⟨_, receiveInto_of_lt (by omega) cut, .inr (by simp [Go.Slice.cap]; omega)⟩
    · refine ⟨_, receiveInto_of_le (by omega) fits, .inr ?_⟩
      simp only [Go.Slice.cap, List.length_drop]
      omega

/-- **A datagram of the kernel's received into the buffer**: the images of its messages, with
the rest of the buffer behind them; when they leave a header's length of the buffer, the
receive loops' condition on the room behind a datagram holds. -/
theorem receiveInto_datagram (o : Go.ByteOrder) {rb : List UInt8} {m : KernelMessage}
    {ms : List KernelMessage}
    (fits : (Datagram.bytes o ⟨m :: ms, []⟩).len + nlmsgHdrlen ≤ rb.length) :
    receiveInto rb (Datagram.bytes o ⟨m :: ms, []⟩).elems =
        .ok (Datagram.bytes o ⟨m :: ms, rb.drop (Datagram.bytes o ⟨m :: ms, []⟩).len⟩) ∧
      nlmsgHdrlen ≤ (rb.drop (Datagram.bytes o ⟨m :: ms, []⟩).len).length := by
  have long := Datagram.len_bytes_cons o m ms []
  refine ⟨receiveInto_of_le long (by unfold Go.Slice.len at fits; omega), ?_⟩
  rw [List.length_drop]
  omega

/-! ### `auditGetReply` reads a stream of messages -/

/-- The wait of `auditGetReply` over a stream of messages: the first message that does not let
it go on decides, and `.ok false` says that none did. -/
def replyOfStream (o : Go.ByteOrder) (socketPID : Nat) (seq : UInt32) :
    List NetlinkMessage → Except Go.Fault Bool
  | [] => .ok false
  | m :: ms =>
    match replyVerdict socketPID seq m.header (.ok (errnoOf o m.data)) with
    | .ok false => replyOfStream o socketPID seq ms
    | verdict => verdict

theorem replyOfStream_append (o : Go.ByteOrder) (socketPID : Nat) (seq : UInt32)
    (ms ms' : List NetlinkMessage) :
    replyOfStream o socketPID seq (ms ++ ms') = match replyOfStream o socketPID seq ms with
      | .ok false => replyOfStream o socketPID seq ms'
      | verdict => verdict := by
  induction ms with
  | nil => rfl
  | cons m ms inductionHypothesis =>
      simp only [List.cons_append, replyOfStream]
      cases replyVerdict socketPID seq m.header (.ok (errnoOf o m.data)) with
      | error err => rfl
      | ok done =>
          cases done with
          | false => exact inductionHypothesis
          | true => rfl

/-- The outcome of a wait: `none` while it goes on. -/
def replyOutcome : Except Go.Fault Bool → Option (Except Go.Fault Unit)
  | .error err => some (.error err)
  | .ok true => some (.ok ())
  | .ok false => none

section Stream

variable (o : Go.ByteOrder) (socketPID : Nat) (seq : UInt32)

/-- One step of the inner loop over the image of a kernel message is the message's verdict. -/
theorem replyStep_paddedImage (m : KernelMessage) (rest spare : List UInt8) :
    replyStep o socketPID seq ⟨paddedImage o m.message ++ rest, spare⟩ =
      match replyVerdict socketPID seq m.message.header (.ok (errnoOf o m.message.data)) with
      | .error err => .error err
      | .ok true => .ok none
      | .ok false => .ok (some ⟨rest, spare⟩) := by
  have errno : replyVerdict socketPID seq m.message.header
      (errnoAt o ⟨m.message.data ++ (imagePadding m.message ++ rest), spare⟩) =
      replyVerdict socketPID seq m.message.header (.ok (errnoOf o m.message.data)) := by
    by_cases error : m.message.header.type = nlmsgError
    · rw [errnoAt_append o (m.errno_fits error)]
    · exact replyVerdict_of_ne_error error _ _
  rw [replyStep, netlinkMessageHeaderAndData_paddedImage m.framed]
  dsimp only
  rw [errno, sliceFrom_paddedImage m.framed rest spare, Go.liftPanic_ok]
  rfl

/-- **The inner loop over a datagram** is the wait over its messages. -/
theorem replyLoop_bytes (spare : List UInt8) :
    ∀ ms : List KernelMessage, replyLoop o socketPID seq (Datagram.bytes o ⟨ms, spare⟩) =
      replyOfStream o socketPID seq (ms.map KernelMessage.message)
  | [] => by
      rw [replyLoop_of_lt (Datagram.len_bytes_nil o spare)]
      rfl
  | m :: ms => by
      rw [replyLoop_of_step (Datagram.len_bytes_cons o m ms spare), Datagram.bytes_cons,
        replyStep_paddedImage, List.map_cons, replyOfStream]
      cases replyVerdict socketPID seq m.message.header (.ok (errnoOf o m.message.data)) with
      | error err => rfl
      | ok done =>
          cases done with
          | false => exact replyLoop_bytes spare ms
          | true => rfl

/-- **`auditGetReply` reads the datagrams as one stream of messages**, whatever their division
into datagrams: its outcome is that of the first message that ends the wait, and when none
does, the wait goes on with what the socket delivers next. -/
theorem receiveReply_datagrams (later : List (Except Go.Fault (Go.Slice UInt8))) :
    ∀ ds : List Datagram,
      (receiveReply o socketPID seq (ds.map (fun d => .ok (d.bytes o)) ++ later)).map Prod.fst =
        match replyOfStream o socketPID seq (Datagram.stream ds) with
        | .ok false => (receiveReply o socketPID seq later).map Prod.fst
        | verdict => replyOutcome verdict
  | [] => rfl
  | d :: ds => by
      rw [List.map_cons, List.cons_append, receiveReply, Datagram.stream_cons,
        replyOfStream_append, ← replyLoop_bytes o socketPID seq d.spare d.messages]
      cases replyLoop o socketPID seq (Datagram.bytes o ⟨d.messages, d.spare⟩) with
      | error err => rfl
      | ok done =>
          cases done with
          | false => exact receiveReply_datagrams later ds
          | true => rfl

end Stream

/-- `auditGetReply` on a socket that delivers datagrams of kernel messages. -/
theorem auditGetReply_datagrams (o : Go.ByteOrder) {s : Socket} {socketPID : Nat} (seq : UInt32)
    (pid : s.getPID = .ok socketPID) {ds : List Datagram}
    {later : List (Except Go.Fault (Go.Slice UInt8))}
    (received : s.received = ds.map (fun d => .ok (d.bytes o)) ++ later) :
    (auditGetReply o s seq).map Prod.fst =
      match replyOfStream o socketPID seq (Datagram.stream ds) with
      | .ok false => (receiveReply o socketPID seq later).map Prod.fst
      | verdict => replyOutcome verdict := by
  rw [← receiveReply_datagrams o socketPID seq later ds, ← received, auditGetReply, pid]
  simp only [Option.map_map]
  rfl

/-- The verdict on a message that answers request `seq` on the socket's port: the type decides. -/
theorem replyVerdict_of_own {socketPID : Nat} {seq : UInt32} {h : NlMsghdr}
    (own : h.seq = seq) (ownPid : h.pid.toNat = socketPID) (e : Int32) :
    replyVerdict socketPID seq h (.ok e) =
      if h.type = nlmsgDone then .ok true
      else if h.type = nlmsgError then replyErrno e
      else if h.type = auditGet then .ok true
      else .ok false := by
  rw [replyVerdict, if_neg (not_not.mpr own), if_neg (not_not.mpr ownPid)]
  rfl

/-- The kernel's acknowledgement of request `seq` from port `pid`: errno 0, then 16 bytes
standing for the request's header. -/
def KernelMessage.acknowledgement (seq pid : UInt32) : KernelMessage :=
  ⟨⟨⟨36, nlmsgError, 0, seq, pid⟩, List.replicate 20 0⟩, rfl, fun _ => by simp⟩

theorem errnoOf_acknowledgement (o : Go.ByteOrder) (seq pid : UInt32) :
    errnoOf o (KernelMessage.acknowledgement seq pid).message.data = 0 := by
  cases o <;> rfl

/-- **An acknowledgement ends the wait.**  A datagram that acknowledges request `seq` on the
socket's port ends the wait of `auditGetReply` with success, before what the socket delivers
after it. -/
theorem receiveReply_acknowledgement (o : Go.ByteOrder) (seq pid : UInt32) (spare : List UInt8)
    (later : List (Except Go.Fault (Go.Slice UInt8))) :
    receiveReply o pid.toNat seq
      (.ok (Datagram.bytes o ⟨[KernelMessage.acknowledgement seq pid], spare⟩) :: later) =
      some (.ok (), later) := by
  have acknowledged : replyOfStream o pid.toNat seq
      [(KernelMessage.acknowledgement seq pid).message] = .ok true := by
    rw [replyOfStream, @replyVerdict_of_own pid.toNat seq
      (KernelMessage.acknowledgement seq pid).message.header rfl rfl, errnoOf_acknowledgement]
    rfl
  rw [receiveReply, replyLoop_bytes, List.map_singleton, acknowledged]

/-- **An acknowledged `AUDIT_SET`.**  On a socket whose kernel acknowledges the next request,
the `AuditSet…` functions send one `AUDIT_SET` request, framed, numbered after the counter and
carrying the status they were given, and return `nil`. -/
theorem auditSetStatus_acknowledged (name : String) (o : Go.ByteOrder) (status : AuditStatus)
    {s : Socket} {pid : UInt32} (sendOk : s.sendResult = .ok ())
    (ownPid : s.getPID = .ok pid.toNat) {spare : List UInt8}
    {later : List (Except Go.Fault (Go.Slice UInt8))}
    (received : s.received = .ok (Datagram.bytes o
      ⟨[KernelMessage.acknowledgement (s.sequenceNumber + 1) pid], spare⟩) :: later) :
    ∃ request : NetlinkMessage,
      auditSetStatus name o status s = some (.ok (), { s with
        sequenceNumber := s.sequenceNumber + 1
        sent := s.sent ++ [request]
        received := later }) ∧
      request.Framed ∧ request.header.type = auditSet ∧
      request.header.seq = s.sequenceNumber + 1 ∧ AuditStatus.decode o request.data = status := by
  let request : NetlinkMessage := { newNetlinkAuditRequest auditSet 40 (s.sequenceNumber + 1) with
    data := [] ++ status.write o }
  have framed : request.Framed := by
    show (UInt32.ofNat (nlmsgHdrlen + 40)).toNat = nlmsgHdrlen + ([] ++ status.write o).length
    rw [List.nil_append, AuditStatus.length_write]
    rfl
  refine ⟨request, ?_, framed, rfl, rfl, ?_⟩
  · rw [auditSetStatus]
    simp only [Socket.send, sendOk, Except.map, auditGetReply, ownPid, received,
      receiveReply_acknowledgement, Option.map_some]
    rfl
  · show AuditStatus.decode o ([] ++ status.write o) = status
    rw [List.nil_append, AuditStatus.decode_write]

/-- `AuditSetEnabled(s, 1)` on a socket whose kernel acknowledges request 1. -/
theorem auditSetEnabled_acknowledged_one :
    ∃ request : NetlinkMessage,
      auditSetEnabled .littleEndian ⟨.ok (), .ok 0,
        [.ok (Datagram.bytes .littleEndian ⟨[KernelMessage.acknowledgement 1 0], []⟩)], [], 0⟩ 1 =
        some (.ok (), ⟨.ok (), .ok 0, [], [request], 1⟩) ∧
      request.Framed ∧ request.header.type = auditSet ∧ request.header.seq = 1 ∧
      AuditStatus.decode .littleEndian request.data =
        { enabled := UInt32.ofInt 1, mask := auditStatusEnabled } :=
  auditSetStatus_acknowledged "AuditSetEnabled" .littleEndian
    { enabled := UInt32.ofInt 1, mask := auditStatusEnabled } rfl rfl rfl

/-! ### `AuditIsEnabled` steps over its acknowledgements -/

/-- An acknowledgement of request `seq`: an `NLMSG_ERROR` message of that number with errno 0. -/
def KernelMessage.Acknowledges (o : Go.ByteOrder) (seq : UInt32) (m : KernelMessage) : Prop :=
  m.message.header.seq = seq ∧ m.message.header.type = nlmsgError ∧ errnoOf o m.message.data = 0

instance (o : Go.ByteOrder) (seq : UInt32) : DecidablePred (KernelMessage.Acknowledges o seq) :=
  fun m => inferInstanceAs (Decidable (m.message.header.seq = seq ∧
    m.message.header.type = nlmsgError ∧ errnoOf o m.message.data = 0))

/-- One step of the loop of `AuditIsEnabled` over the image of a kernel message is the
message's verdict, on a payload that starts with the message's data. -/
theorem isEnabledStep_paddedImage (o : Go.ByteOrder) (seq : UInt32) (m : KernelMessage)
    (rest : List UInt8) {spare : List UInt8} (roomy : nlmsgHdrlen ≤ spare.length) :
    ∃ extra spare', isEnabledStep o seq ⟨paddedImage o m.message ++ rest, spare⟩ =
      match isEnabledVerdict o seq ⟨paddedImage o m.message ++ rest, spare⟩ m.message.header
          ⟨m.message.data ++ extra, spare'⟩ with
      | .error err => .error err
      | .ok (some answer) => .ok (.inl answer)
      | .ok none => .ok (.inr ⟨rest, spare⟩) := by
  obtain ⟨long, fits⟩ := len_fits_paddedImage (o := o) m.framed rest spare
  obtain ⟨extra, spare', payload⟩ := parsedPayload_paddedImage m.framed rest roomy
  refine ⟨extra, spare', ?_⟩
  unfold isEnabledStep
  dsimp only
  rw [decode_paddedImage_append, if_neg (by omega), sliceFrom_header_paddedImage]
  dsimp only
  rw [payload]
  dsimp only
  cases isEnabledVerdict o seq ⟨paddedImage o m.message ++ rest, spare⟩ m.message.header
      ⟨m.message.data ++ extra, spare'⟩ with
  | error err => rfl
  | ok answer =>
      cases answer with
      | some answer => rfl
      | none => rw [sliceFrom_paddedImage m.framed rest spare]; rfl

section OwnAnswers

variable {o : Go.ByteOrder} {seq : UInt32} {b : Go.Slice UInt8} {m : KernelMessage}

theorem isEnabledVerdict_of_ack (acknowledges : m.Acknowledges o seq) (extra spare' : List UInt8) :
    isEnabledVerdict o seq b m.message.header ⟨m.message.data ++ extra, spare'⟩ = .ok none := by
  obtain ⟨own, error, zero⟩ := acknowledges
  have notDone : m.message.header.type ≠ nlmsgDone := by rw [error]; decide
  rw [isEnabledVerdict, if_neg (not_not.mpr own), if_neg notDone, if_pos error,
    errnoAt_append o (m.errno_fits error), Go.liftPanic_ok, zero]
  rfl

theorem isEnabledVerdict_of_refusal (own : m.message.header.seq = seq)
    (error : m.message.header.type = nlmsgError) (refused : errnoOf o m.message.data ≠ 0)
    (extra spare' : List UInt8) :
    isEnabledVerdict o seq b m.message.header ⟨m.message.data ++ extra, spare'⟩ =
      .ok (some (-1, -1)) := by
  have notDone : m.message.header.type ≠ nlmsgDone := by rw [error]; decide
  rw [isEnabledVerdict, if_neg (not_not.mpr own), if_neg notDone, if_pos error,
    errnoAt_append o (m.errno_fits error), Go.liftPanic_ok]
  simp only [Except.map, refused, if_false]

theorem isEnabledVerdict_of_status (own : m.message.header.seq = seq)
    (status : m.message.header.type = auditGet) (long : 40 ≤ m.message.data.length)
    (extra spare' : List UInt8) :
    isEnabledVerdict o seq b m.message.header ⟨m.message.data ++ extra, spare'⟩ =
      .ok (some ((AuditStatus.decode o m.message.data).enabled.toNat,
        (AuditStatus.decode o m.message.data).pid.toNat)) := by
  have notDone : m.message.header.type ≠ nlmsgDone := by rw [status]; decide
  have notError : m.message.header.type ≠ nlmsgError := by rw [status]; decide
  rw [isEnabledVerdict, if_neg (not_not.mpr own), if_neg notDone, if_neg notError, if_pos status]
  dsimp only
  rw [AuditStatus.read_of_le o long]

end OwnAnswers

/-- **The loop of `AuditIsEnabled` steps over acknowledgements of its request.** -/
theorem isEnabledLoop_acks (o : Go.ByteOrder) (seq : UInt32) {spare : List UInt8}
    (roomy : nlmsgHdrlen ≤ spare.length) (rest : List KernelMessage) :
    ∀ acks : List KernelMessage, (∀ m ∈ acks, m.Acknowledges o seq) →
      isEnabledLoop o seq (Datagram.bytes o ⟨acks ++ rest, spare⟩) =
        isEnabledLoop o seq (Datagram.bytes o ⟨rest, spare⟩)
  | [], _ => rfl
  | m :: acks, acknowledged => by
      obtain ⟨extra, spare', stepped⟩ := isEnabledStep_paddedImage o seq m
        (Datagram.bytes o ⟨acks ++ rest, spare⟩).elems roomy
      rw [isEnabledVerdict_of_ack (acknowledged m List.mem_cons_self)] at stepped
      rw [List.cons_append, isEnabledLoop_of_step (Datagram.len_bytes_cons o m _ spare),
        Datagram.bytes_cons, stepped]
      exact isEnabledLoop_acks o seq roomy rest acks
        (fun m' mem => acknowledged m' (List.mem_cons_of_mem m mem))

/-- The loop returns the answer of the first message that has one. -/
theorem isEnabledLoop_answer {o : Go.ByteOrder} {seq : UInt32} {spare : List UInt8}
    (roomy : nlmsgHdrlen ≤ spare.length) {answer : KernelMessage} (rest : List KernelMessage)
    {result : Int × Int}
    (decided : ∀ extra spare', isEnabledVerdict o seq (Datagram.bytes o ⟨answer :: rest, spare⟩)
      answer.message.header ⟨answer.message.data ++ extra, spare'⟩ = .ok (some result)) :
    isEnabledLoop o seq (Datagram.bytes o ⟨answer :: rest, spare⟩) = .ok (some result) := by
  obtain ⟨extra, spare', stepped⟩ := isEnabledStep_paddedImage o seq answer
    (Datagram.bytes o ⟨rest, spare⟩).elems roomy
  rw [isEnabledLoop_of_step (Datagram.len_bytes_cons o answer rest spare), Datagram.bytes_cons,
    stepped, ← Datagram.bytes_cons, decided]

/-- The outer loop of `AuditIsEnabled` steps over datagrams of acknowledgements of its request. -/
theorem receiveStatus_acks (o : Go.ByteOrder) (seq : UInt32)
    (later : List (Except Go.Fault (Go.Slice UInt8))) :
    ∀ pre : List Datagram, (∀ d ∈ pre, ∀ m ∈ d.messages, m.Acknowledges o seq) →
      (∀ d ∈ pre, d.messages ≠ [] → nlmsgHdrlen ≤ d.spare.length) →
      receiveStatus o seq (pre.map (fun d => .ok (d.bytes o)) ++ later) = receiveStatus o seq later
  | [], _, _ => rfl
  | ⟨ms, spare⟩ :: pre, acknowledged, roomy => by
      have skipped : isEnabledLoop o seq (Datagram.bytes o ⟨ms, spare⟩) = .ok none := by
        cases ms with
        | nil => exact isEnabledLoop_of_lt (Datagram.len_bytes_nil o spare)
        | cons m ms =>
            have acks := isEnabledLoop_acks o seq (roomy _ List.mem_cons_self (List.cons_ne_nil m ms))
              [] (m :: ms) (acknowledged _ List.mem_cons_self)
            rw [List.append_nil] at acks
            rw [acks]
            exact isEnabledLoop_of_lt (Datagram.len_bytes_nil o spare)
      rw [List.map_cons, List.cons_append, receiveStatus, skipped]
      exact receiveStatus_acks o seq later pre
        (fun d mem => acknowledged d (List.mem_cons_of_mem _ mem))
        (fun d mem => roomy d (List.mem_cons_of_mem _ mem))

/-! ## When the kernel's answer comes first -/

/-- The verdict of `auditGetReply` on the kernel's answer to its own request: success on
`NLMSG_DONE`, on an `AUDIT_GET` reply and on an acknowledgement, an error on any other errno
(leaving out 17 and -17). -/
theorem replyOfStream_of_answer {o : Go.ByteOrder} {socketPID : Nat} {seq : UInt32}
    {answer : KernelMessage} (others : List NetlinkMessage) (own : answer.message.header.seq = seq)
    (ownPid : answer.message.header.pid.toNat = socketPID)
    (kind : answer.message.header.type = nlmsgDone ∨ answer.message.header.type = auditGet ∨
      (answer.message.header.type = nlmsgError ∧ errnoOf o answer.message.data ≠ 17 ∧
        errnoOf o answer.message.data ≠ -17)) :
    replyOfStream o socketPID seq (answer.message :: others) =
      if answer.message.header.type = nlmsgError ∧ errnoOf o answer.message.data ≠ 0 then
        .error (.error ("auditGetReply: error while recieving reply -" ++
          toString (errnoOf o answer.message.data)))
      else .ok true := by
  rw [replyOfStream, replyVerdict_of_own own ownPid]
  rcases kind with done | status | ⟨error, notExist, -⟩
  · have notError : answer.message.header.type ≠ nlmsgError := by rw [done]; decide
    rw [if_pos done, if_neg (fun refused => notError refused.1)]
  · have notDone : answer.message.header.type ≠ nlmsgDone := by rw [status]; decide
    have notError : answer.message.header.type ≠ nlmsgError := by rw [status]; decide
    rw [if_neg notDone, if_neg notError, if_pos status,
      if_neg (fun refused => notError refused.1)]
  · have notDone : answer.message.header.type ≠ nlmsgDone := by rw [error]; decide
    rw [if_neg notDone, if_pos error, replyErrno]
    by_cases acknowledged : errnoOf o answer.message.data = 0
    · have accepted : errnoOf o answer.message.data = 0 ∨ errnoOf o answer.message.data = 17 :=
        Or.inl acknowledged
      have notRefused : ¬ (answer.message.header.type = nlmsgError ∧
          errnoOf o answer.message.data ≠ 0) := fun refused => refused.2 acknowledged
      rw [if_pos accepted, if_neg notRefused]
    · have rejected : ¬ (errnoOf o answer.message.data = 0 ∨
          errnoOf o answer.message.data = 17) := by
        rintro (zero | exist)
        · exact acknowledged zero
        · exact notExist exist
      rw [if_neg rejected, if_pos ⟨error, acknowledged⟩]

/-- The answer `AuditIsEnabled` takes from the kernel's status reply to its request, or from a
refusal of it. -/
theorem isEnabledVerdict_of_answer {o : Go.ByteOrder} {seq : UInt32} {b : Go.Slice UInt8}
    {answer : KernelMessage} (own : answer.message.header.seq = seq)
    (kind : answer.message.header.type = auditGet ∧ 40 ≤ answer.message.data.length ∨
      answer.message.header.type = nlmsgError ∧ errnoOf o answer.message.data ≠ 0)
    (extra spare' : List UInt8) :
    isEnabledVerdict o seq b answer.message.header ⟨answer.message.data ++ extra, spare'⟩ =
      .ok (some (if answer.message.header.type = auditGet then
        ((AuditStatus.decode o answer.message.data).enabled.toNat,
          (AuditStatus.decode o answer.message.data).pid.toNat)
      else (-1, -1))) := by
  rcases kind with ⟨status, long⟩ | ⟨error, refused⟩
  · rw [isEnabledVerdict_of_status own status long, if_pos status]
  · have notStatus : answer.message.header.type ≠ auditGet := by rw [error]; decide
    rw [isEnabledVerdict_of_refusal own error refused, if_neg notStatus]

/-- **The answer decides when nothing unrelated comes before it.**  `auditGetReply` ends with
success on an acknowledgement, `NLMSG_DONE` or an `AUDIT_GET` reply to its request, and with an
error on an errno other than 0 (leaving out 17 and -17); `AuditIsEnabled`, which steps over its
own acknowledgements, returns the `Enabled` and `Pid` of its `AUDIT_GET` reply, and `(-1, -1)`
with no error when the kernel refuses the request. -/
theorem auditGetReply_auditIsEnabled_of_answer_first (o : Go.ByteOrder) :
    (∀ (s : Socket) (socketPID : Nat) (seq : UInt32) (ds : List Datagram) (answer : KernelMessage)
        (others : List NetlinkMessage) (later : List (Except Go.Fault (Go.Slice UInt8))),
      s.getPID = .ok socketPID →
      s.received = ds.map (fun d => .ok (d.bytes o)) ++ later →
      Datagram.stream ds = answer.message :: others →
      answer.message.header.seq = seq →
      answer.message.header.pid.toNat = socketPID →
      (answer.message.header.type = nlmsgDone ∨ answer.message.header.type = auditGet ∨
        (answer.message.header.type = nlmsgError ∧ errnoOf o answer.message.data ≠ 17 ∧
          errnoOf o answer.message.data ≠ -17)) →
      (auditGetReply o s seq).map Prod.fst =
        some (if answer.message.header.type = nlmsgError ∧ errnoOf o answer.message.data ≠ 0 then
          .error (.error ("auditGetReply: error while recieving reply -" ++
            toString (errnoOf o answer.message.data)))
        else .ok ())) ∧
    (∀ (s : Socket) (pre : List Datagram) (acks : List KernelMessage) (answer : KernelMessage)
        (rest : List KernelMessage) (spare : List UInt8)
        (later : List (Except Go.Fault (Go.Slice UInt8))),
      s.sendResult = .ok () →
      s.received = (pre ++ [Datagram.mk (acks ++ answer :: rest) spare]).map
        (fun d => .ok (d.bytes o)) ++ later →
      (∀ d ∈ pre, ∀ m ∈ d.messages, m.Acknowledges o (s.sequenceNumber + 1)) →
      (∀ m ∈ acks, m.Acknowledges o (s.sequenceNumber + 1)) →
      (∀ d ∈ pre, d.messages ≠ [] → nlmsgHdrlen ≤ d.spare.length) →
      nlmsgHdrlen ≤ spare.length →
      answer.message.header.seq = s.sequenceNumber + 1 →
      (answer.message.header.type = auditGet ∧ 40 ≤ answer.message.data.length ∨
        answer.message.header.type = nlmsgError ∧ errnoOf o answer.message.data ≠ 0) →
      (auditIsEnabled o s).map Prod.fst =
        some (.ok (if answer.message.header.type = auditGet then
          ((AuditStatus.decode o answer.message.data).enabled.toNat,
            (AuditStatus.decode o answer.message.data).pid.toNat)
        else (-1, -1)))) := by
  constructor
  · intro s socketPID seq ds answer others later pid received first own ownPid kind
    rw [auditGetReply_datagrams o seq pid received, first,
      replyOfStream_of_answer others own ownPid kind]
    by_cases refused : answer.message.header.type = nlmsgError ∧ errnoOf o answer.message.data ≠ 0
    · rw [if_pos refused, if_pos refused]
      rfl
    · rw [if_neg refused, if_neg refused]
      rfl
  · intro s pre acks answer rest spare later sent received preAcks ownAcks preRoomy roomy own kind
    have answered := isEnabledLoop_answer roomy rest (isEnabledVerdict_of_answer own kind)
    rw [← isEnabledLoop_acks o _ roomy (answer :: rest) acks ownAcks] at answered
    simp only [auditIsEnabled, Socket.send, sent, Except.map]
    rw [received, List.map_append, List.append_assoc,
      receiveStatus_acks o _ _ pre preAcks preRoomy, List.map_singleton, List.singleton_append,
      receiveStatus, answered]
    rfl

/-- The kernel's acknowledgement of request 5 on port 0: errno 0, then 16 bytes standing for
the request's header. -/
def acknowledgementOfFive : KernelMessage :=
  ⟨⟨⟨36, nlmsgError, 0, 5, 0⟩, List.replicate 20 0⟩, by decide, by decide⟩

/-- The kernel's `AUDIT_GET` reply to request 5: auditing enabled, `auditd` at pid 42. -/
def statusOfFive : KernelMessage :=
  ⟨⟨⟨56, auditGet, 0, 5, 0⟩, AuditStatus.write .littleEndian { enabled := 1, pid := 42 }⟩,
    by decide, by decide⟩

/-- An acknowledgement ends the wait of `auditGetReply` with success, and `AuditIsEnabled` steps
over it to the status reply. -/
theorem auditGetReply_auditIsEnabled_of_answer_first_ack_then_status :
    (auditGetReply .littleEndian ⟨.ok (), .ok 0,
        [.ok (Datagram.bytes .littleEndian ⟨[acknowledgementOfFive], []⟩)], [], 5⟩ 5).map
        Prod.fst = some (.ok ()) ∧
      (auditIsEnabled .littleEndian ⟨.ok (), .ok 0,
        [.ok (Datagram.bytes .littleEndian
          ⟨[acknowledgementOfFive, statusOfFive], List.replicate 16 0⟩)], [], 4⟩).map
        Prod.fst = some (.ok (1, 42)) := by
  have answered := auditGetReply_auditIsEnabled_of_answer_first .littleEndian
  constructor
  · rw [answered.1 ⟨.ok (), .ok 0, [.ok (Datagram.bytes .littleEndian ⟨[acknowledgementOfFive], []⟩)],
      [], 5⟩ 0 5 [⟨[acknowledgementOfFive], []⟩] acknowledgementOfFive [] [] rfl rfl rfl rfl
      (by decide) (Or.inr (Or.inr ⟨rfl, by decide, by decide⟩))]
    decide
  · rw [answered.2 ⟨.ok (), .ok 0, [.ok (Datagram.bytes .littleEndian
        ⟨[acknowledgementOfFive, statusOfFive], List.replicate 16 0⟩)], [], 4⟩
      [] [acknowledgementOfFive] statusOfFive [] (List.replicate 16 0) [] rfl rfl
      (by simp) (by decide) (by simp) (by simp [nlmsgHdrlen]) rfl (Or.inl ⟨rfl, by decide⟩)]
    decide

/-- An audit event of no request, numbered 9. -/
def unrelatedEvent : KernelMessage :=
  ⟨⟨⟨20, auditSyscall, 0, 9, 0⟩, [1, 2, 3, 4]⟩, by decide, by decide⟩

/-- The kernel's refusal of request 5: errno `-EPERM`. -/
def refusalOfFive : KernelMessage :=
  ⟨⟨⟨36, nlmsgError, 0, 5, 0⟩, [255, 255, 255, 255] ++ List.replicate 16 0⟩, by decide, by decide⟩

/-- **An unrelated message decides.**  When an audit event comes before the kernel's refusal of
request 5, `auditGetReply` ends with success; `AuditIsEnabled`, refused, returns `(-1, -1)` with
no error. -/
theorem auditGetReply_succeeds_on_event_before_refusal :
    errnoOf .littleEndian refusalOfFive.message.data = -1 ∧
      (auditGetReply .littleEndian ⟨.ok (), .ok 0,
        [.ok (Datagram.bytes .littleEndian ⟨[unrelatedEvent], []⟩),
          .ok (Datagram.bytes .littleEndian ⟨[refusalOfFive], []⟩)], [], 5⟩ 5).map
        Prod.fst = some (.ok ()) ∧
      (auditIsEnabled .littleEndian ⟨.ok (), .ok 0,
        [.ok (Datagram.bytes .littleEndian ⟨[refusalOfFive], List.replicate 16 0⟩)], [], 4⟩).map
        Prod.fst = some (.ok (-1, -1)) := by
  refine ⟨by decide, ?_, ?_⟩
  · have received : ([.ok (Datagram.bytes .littleEndian ⟨[unrelatedEvent], []⟩),
        .ok (Datagram.bytes .littleEndian ⟨[refusalOfFive], []⟩)] :
          List (Except Go.Fault (Go.Slice UInt8))) =
        [Datagram.mk [unrelatedEvent] [], Datagram.mk [refusalOfFive] []].map
          (fun d => .ok (d.bytes .littleEndian)) ++ [] := rfl
    rw [auditGetReply_datagrams .littleEndian 5 rfl received]
    decide
  · have decided : ∀ extra spare', isEnabledVerdict .littleEndian 5
        (Datagram.bytes .littleEndian ⟨[refusalOfFive], List.replicate 16 0⟩)
        refusalOfFive.message.header ⟨refusalOfFive.message.data ++ extra, spare'⟩ =
        .ok (some (-1, -1)) :=
      isEnabledVerdict_of_refusal rfl rfl (by decide)
    have refused := isEnabledLoop_answer (by simp [nlmsgHdrlen]) [] decided
    simp only [auditIsEnabled, Socket.send, Except.map, receiveStatus]
    rw [show (4 : UInt32) + 1 = 5 from rfl, refused]
    rfl

/-! ## Messages that overrun the buffer -/

/-- A datagram of one `AUDIT_SYSCALL` record of request 1 with one payload byte, sent without its
padding: 17 bytes, `Len` 17. -/
def unpaddedRecord : List UInt8 :=
  NlMsghdr.encode .littleEndian ⟨17, auditSyscall, 0, 1, 0⟩ ++ [0]

/-- **The framing loops overrun the received bytes.**  Each of them checks the unaligned `Len`
against the buffer but steps over the aligned one, so all four panic at `b[20:]` on an unpadded
record (`GetRawAuditMessages` at the same step, taken from the payload).  And where the
workaround takes `Len` bytes of payload, `ParseAuditNetlinkMessage` returns bytes that the
buffer holds from an earlier receive. -/
theorem framingLoops_overrun_unpadded_record :
    parseAuditNetlinkMessage .littleEndian (Go.Slice.ofList unpaddedRecord) =
        .error (.panic (.sliceBounds 20 17 17)) ∧
      rawLoop .littleEndian [] (Go.Slice.ofList unpaddedRecord) = .error (.sliceBounds 4 1 1) ∧
      (auditGetReply .littleEndian ⟨.ok (), .ok 0, [.ok (Go.Slice.ofList unpaddedRecord)], [], 0⟩
        1).map Prod.fst = some (.error (.panic (.sliceBounds 20 17 17))) ∧
      (auditIsEnabled .littleEndian ⟨.ok (), .ok 0, [.ok (Go.Slice.ofList unpaddedRecord)], [],
        0⟩).map Prod.fst = some (.error (.panic (.sliceBounds 20 17 17))) ∧
      parseAuditNetlinkMessage .littleEndian
        ⟨paddedImage .littleEndian ⟨⟨20, auditSyscall, 0, 1, 0⟩, [1, 2, 3, 4]⟩,
          List.replicate 16 7⟩ =
        .ok [⟨⟨20, auditSyscall, 0, 1, 0⟩, [1, 2, 3, 4] ++ List.replicate 16 7⟩] := by
  have long : nlmsgHdrlen ≤ (Go.Slice.ofList unpaddedRecord).len := by decide
  refine ⟨?_, ?_, ?_, ?_, ?_⟩
  · have cut : netlinkMessageHeaderAndData .littleEndian (Go.Slice.ofList unpaddedRecord) =
        .ok (⟨17, auditSyscall, 0, 1, 0⟩, ⟨[0], []⟩, 20) := by decide
    have payload : parsedPayload ⟨17, auditSyscall, 0, 1, 0⟩ ⟨[0], []⟩ 20 = .ok ⟨[0], []⟩ := by
      decide
    have rest : (Go.Slice.ofList unpaddedRecord).sliceFrom 20 = .error (.sliceBounds 20 17 17) := by
      decide
    rw [parseAuditNetlinkMessage, parseLoop_of_rest_panic long cut payload rest]
    rfl
  · exact rawLoop_of_panic long (by decide)
  · have step : replyStep .littleEndian 0 1 (Go.Slice.ofList unpaddedRecord) =
        .error (.panic (.sliceBounds 20 17 17)) := by decide
    simp only [auditGetReply, receiveReply, replyLoop_of_step long, step]
    rfl
  · have step : isEnabledStep .littleEndian 1 (Go.Slice.ofList unpaddedRecord) =
        .error (.panic (.sliceBounds 20 17 17)) := by decide
    simp only [auditIsEnabled, Socket.send, Except.map, receiveStatus]
    rw [show (0 : UInt32) + 1 = 1 from rfl, isEnabledLoop_of_step long, step]
    rfl
  · have stale : (⟨paddedImage .littleEndian ⟨⟨20, auditSyscall, 0, 1, 0⟩, [1, 2, 3, 4]⟩,
        List.replicate 16 7⟩ : Go.Slice UInt8) =
        ⟨paddedImage .littleEndian ⟨⟨20, auditSyscall, 0, 1, 0⟩, [1, 2, 3, 4]⟩ ++ [],
          List.replicate 16 7⟩ := by
      rw [List.append_nil]
    have framed : NetlinkMessage.Framed ⟨⟨20, auditSyscall, 0, 1, 0⟩, [1, 2, 3, 4]⟩ := by decide
    have payload : parsedPayload ⟨20, auditSyscall, 0, 1, 0⟩
        ⟨[1, 2, 3, 4] ++ (imagePadding ⟨⟨20, auditSyscall, 0, 1, 0⟩, [1, 2, 3, 4]⟩ ++ []),
          List.replicate 16 7⟩ 20 = .ok ⟨[1, 2, 3, 4] ++ List.replicate 16 7, []⟩ := by
      decide
    rw [parseAuditNetlinkMessage, stale,
      parseLoop_of_message (by decide) (netlinkMessageHeaderAndData_paddedImage framed [] _)
        payload (sliceFrom_paddedImage framed [] _),
      parseLoop_of_lt (by decide)]
    rfl

end LibAudit
