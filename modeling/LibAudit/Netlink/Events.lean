import LibAudit.Netlink.Message

/-!
# `GetRawAuditMessages`: the second framing loop

`GetRawAuditMessages` (`audit_events.go`) does not go through `ParseAuditNetlinkMessage`: it
frames each received buffer with a loop of its own and hands every message to a callback as
`(Header.Type, payload, err)`.  This module is the model of that loop.

The loop repeats the length workaround of `ParseAuditNetlinkMessage` on a buffer that it has
already moved past the header, and with the aligned length less the header,
`dlen = nlmAlignOf(Len) - 16`; the test `dlen == Len` can then never hold.  On a message whose
`Len` is a multiple of 4 the two loops therefore cut different payloads
(`rawLoop_disagrees_with_parseAuditNetlinkMessage`).

One iteration is `rawStep`, which does not recurse, so that a run on a concrete buffer is
evaluated step by step; the loop `rawLoop` is recursion on the length of the buffer.
-/

namespace LibAudit

/-- One call of the `RawEventTypeCallback`: the message type, the payload as the string it is
given, and the error passed along with an `NLMSG_ERROR` message. -/
structure RawCall where
  type : UInt16
  payload : List UInt8
  err : Option String
  deriving DecidableEq, Repr

/-- The calls for one message whose payload is `b[:n]`.  An `NLMSG_ERROR` message reads its
errno from `b[0:4]` first and is passed on only when the errno is not 0. -/
def rawCallsOf (o : Go.ByteOrder) (h : NlMsghdr) (b : Go.Slice UInt8) (n : Nat) :
    Except Go.Panic (List RawCall) :=
  if h.type = nlmsgError then do
    let v ← errnoAt o b
    if v ≠ 0 then do
      let payload ← b.sliceTo n
      pure [⟨h.type, payload.elems, some ("error receiving events " ++ toString v)⟩]
    else pure []
  else do
    let payload ← b.sliceTo n
    pure [⟨h.type, payload.elems, none⟩]

/-- One iteration of the framing loop of `GetRawAuditMessages` on a buffer `b` of at least 16
bytes: `none` when the header's length does not fit and the loop breaks, else the calls made and
the rest of the buffer.  The loop's `if err != nil { break }` is dead code there, since the loop
runs inside `if err == nil`. -/
def rawStep (o : Go.ByteOrder) (b : Go.Slice UInt8) :
    Except Go.Panic (Option (List RawCall × Go.Slice UInt8)) :=
  let h := NlMsghdr.decode o (b.elems ++ b.spare)
  if h.len.toNat < nlmsgHdrlen ∨ h.len.toNat > b.len then .ok none
  else do
    let b ← b.sliceFrom nlmsgHdrlen
    let dlen := nlmAlignOf h.len.toNat - nlmsgHdrlen
    -- the two branches of the workaround differ only in the payload's length
    let n := if b.len = h.len.toNat ∨ dlen = h.len.toNat then h.len.toNat
      else h.len.toNat - nlmsgHdrlen
    let calls ← rawCallsOf o h b n
    let b ← b.sliceFrom dlen
    pure (some (calls, b))

/-- Every iteration that goes on steps over the header at least. -/
theorem rawStep_shorter {o : Go.ByteOrder} {b b' : Go.Slice UInt8} {calls : List RawCall}
    (stepped : rawStep o b = .ok (some (calls, b'))) : b'.len + nlmsgHdrlen ≤ b.len := by
  unfold rawStep at stepped
  dsimp only at stepped
  split at stepped
  · cases stepped
  · obtain ⟨b₁, cut, rest⟩ := Go.bind_eq_ok.mp stepped
    obtain ⟨new, -, rest⟩ := Go.bind_eq_ok.mp rest
    obtain ⟨b₂, skipped, done⟩ := Go.bind_eq_ok.mp rest
    cases done
    obtain ⟨-, first⟩ := Go.Slice.len_of_sliceFrom_eq_ok cut
    obtain ⟨inRange, second⟩ := Go.Slice.len_of_sliceFrom_eq_ok skipped
    obtain ⟨inRange', -⟩ := Go.Slice.len_of_sliceFrom_eq_ok cut
    omega

/-- `for len(b) >= syscall.NLMSG_HDRLEN { … }` of `GetRawAuditMessages` on one received
buffer, with the calls made so far. -/
def rawLoop (o : Go.ByteOrder) (calls : List RawCall) (b : Go.Slice UInt8) :
    Except Go.Panic (List RawCall) :=
  if nlmsgHdrlen ≤ b.len then
    match _stepped : rawStep o b with
    | .error p => .error p
    | .ok none => .ok calls
    | .ok (some (new, b')) => rawLoop o (calls ++ new) b'
  else .ok calls
termination_by b.len
decreasing_by
  have := rawStep_shorter _stepped
  unfold nlmsgHdrlen at this
  omega

section Unfolding

variable {o : Go.ByteOrder} {calls : List RawCall} {b : Go.Slice UInt8}

theorem rawLoop_of_lt (short : b.len < nlmsgHdrlen) : rawLoop o calls b = .ok calls := by
  rw [rawLoop, if_neg (Nat.not_le.mpr short)]

theorem rawLoop_of_panic {p : Go.Panic} (long : nlmsgHdrlen ≤ b.len)
    (stepped : rawStep o b = .error p) : rawLoop o calls b = .error p := by
  rw [rawLoop, if_pos long]
  split <;> simp_all

theorem rawLoop_of_step {new : List RawCall} {b' : Go.Slice UInt8} (long : nlmsgHdrlen ≤ b.len)
    (stepped : rawStep o b = .ok (some (new, b'))) :
    rawLoop o calls b = rawLoop o (calls ++ new) b' := by
  rw [rawLoop, if_pos long]
  split <;> simp_all

end Unfolding

/-- `GetRawAuditMessages(s, cb, done)` on a socket whose `ReceiveNoParse` returns `received` in
turn, `done` firing after the last: the callback's calls in order.  A failed receive is
skipped. -/
def getRawAuditMessages (o : Go.ByteOrder) :
    List (Except Go.Fault (Go.Slice UInt8)) → Except Go.Panic (List RawCall)
  | [] => .ok []
  | .error _ :: received => getRawAuditMessages o received
  | .ok b :: received => do
    let calls ← rawLoop o [] b
    let more ← getRawAuditMessages o received
    pure (calls ++ more)

/-- **The two framing loops disagree on an aligned payload.**  On a buffer with an event of four
payload bytes (`Len` 20) followed by one of one byte, `GetRawAuditMessages` hands its callback
the four bytes, while `ParseAuditNetlinkMessage` gives the first message the 20 bytes after its
header: its payload and the header of the next message. -/
theorem rawLoop_disagrees_with_parseAuditNetlinkMessage :
    rawLoop .littleEndian [] (Go.Slice.ofList
        (paddedImage .littleEndian ⟨⟨20, 1300, 0, 1, 0⟩, [1, 2, 3, 4]⟩ ++
          paddedImage .littleEndian ⟨⟨17, 1300, 0, 2, 0⟩, [5]⟩)) =
        .ok [⟨1300, [1, 2, 3, 4], none⟩, ⟨1300, [5], none⟩] ∧
      parseAuditNetlinkMessage .littleEndian (Go.Slice.ofList
        (paddedImage .littleEndian ⟨⟨20, 1300, 0, 1, 0⟩, [1, 2, 3, 4]⟩ ++
          paddedImage .littleEndian ⟨⟨17, 1300, 0, 2, 0⟩, [5]⟩)) =
        .ok [⟨⟨20, 1300, 0, 1, 0⟩, [1, 2, 3, 4] ++ NlMsghdr.encode .littleEndian ⟨17, 1300, 0, 2, 0⟩⟩,
          ⟨⟨17, 1300, 0, 2, 0⟩, [5]⟩] := by
  constructor
  · have first : rawStep .littleEndian (Go.Slice.ofList
        (paddedImage .littleEndian ⟨⟨20, 1300, 0, 1, 0⟩, [1, 2, 3, 4]⟩ ++
          paddedImage .littleEndian ⟨⟨17, 1300, 0, 2, 0⟩, [5]⟩)) =
        .ok (some ([⟨1300, [1, 2, 3, 4], none⟩],
          Go.Slice.ofList (paddedImage .littleEndian ⟨⟨17, 1300, 0, 2, 0⟩, [5]⟩))) := by
      decide
    have second : rawStep .littleEndian (Go.Slice.ofList
        (paddedImage .littleEndian ⟨⟨17, 1300, 0, 2, 0⟩, [5]⟩)) =
        .ok (some ([⟨1300, [5], none⟩], Go.Slice.ofList [])) := by
      decide
    rw [rawLoop_of_step (by decide) first, rawLoop_of_step (by decide) second,
      rawLoop_of_lt (by decide)]
    rfl
  · -- the first message takes the workaround's branch, the second does not
    have cut : netlinkMessageHeaderAndData .littleEndian (Go.Slice.ofList
        (paddedImage .littleEndian ⟨⟨20, 1300, 0, 1, 0⟩, [1, 2, 3, 4]⟩ ++
          paddedImage .littleEndian ⟨⟨17, 1300, 0, 2, 0⟩, [5]⟩)) =
        .ok (⟨20, 1300, 0, 1, 0⟩,
          ⟨[1, 2, 3, 4] ++ paddedImage .littleEndian ⟨⟨17, 1300, 0, 2, 0⟩, [5]⟩, []⟩, 20) := by
      decide
    have payload : parsedPayload ⟨20, 1300, 0, 1, 0⟩
        ⟨[1, 2, 3, 4] ++ paddedImage .littleEndian ⟨⟨17, 1300, 0, 2, 0⟩, [5]⟩, []⟩ 20 =
        .ok ⟨[1, 2, 3, 4] ++ NlMsghdr.encode .littleEndian ⟨17, 1300, 0, 2, 0⟩, [5, 0, 0, 0]⟩ := by
      decide
    have rest : (Go.Slice.ofList
        (paddedImage .littleEndian ⟨⟨20, 1300, 0, 1, 0⟩, [1, 2, 3, 4]⟩ ++
          paddedImage .littleEndian ⟨⟨17, 1300, 0, 2, 0⟩, [5]⟩)).sliceFrom 20 =
        .ok (Go.Slice.ofList (paddedImage .littleEndian ⟨⟨17, 1300, 0, 2, 0⟩, [5]⟩)) := by
      decide
    have cut' : netlinkMessageHeaderAndData .littleEndian (Go.Slice.ofList
        (paddedImage .littleEndian ⟨⟨17, 1300, 0, 2, 0⟩, [5]⟩)) =
        .ok (⟨17, 1300, 0, 2, 0⟩, ⟨[5, 0, 0, 0], []⟩, 20) := by
      decide
    have payload' : parsedPayload ⟨17, 1300, 0, 2, 0⟩ ⟨[5, 0, 0, 0], []⟩ 20 =
        .ok ⟨[5], [0, 0, 0]⟩ := by
      decide
    have rest' : (Go.Slice.ofList (paddedImage .littleEndian ⟨⟨17, 1300, 0, 2, 0⟩, [5]⟩)).sliceFrom
        20 = .ok (Go.Slice.ofList []) := by
      decide
    rw [parseAuditNetlinkMessage, parseLoop_of_message (by decide) cut payload rest,
      parseLoop_of_message (by decide) cut' payload' rest', parseLoop_of_lt (by decide)]
    rfl

/-- **`ParseAuditNetlinkMessage` panics on the message of `TestWireFormat`, which the loop of
`GetRawAuditMessages` reads back.**  The message is framed, but its `Len` of 20 is a multiple of
4: the workaround, meant for replies whose `Len` does not count the header, cuts `dbuf[:20]`
out of the 4 bytes after the header.  The raw loop hands its callback the 4 payload bytes. -/
theorem parseAuditNetlinkMessage_wireFormatTestMessage_panics :
    wireFormatTestMessage.Framed ∧
      wireImages .littleEndian [wireFormatTestMessage] =
        .ok (paddedImage .littleEndian wireFormatTestMessage) ∧
      parseAuditNetlinkMessage .littleEndian
        (Go.Slice.ofList (paddedImage .littleEndian wireFormatTestMessage)) =
        .error (.panic (.sliceBounds 0 20 4)) ∧
      rawLoop .littleEndian [] (Go.Slice.ofList (paddedImage .littleEndian wireFormatTestMessage)) =
        .ok [⟨16, [12, 0, 0, 0], none⟩] := by
  have framed : wireFormatTestMessage.Framed := by decide
  have image : paddedImage .littleEndian wireFormatTestMessage =
      NlMsghdr.encode .littleEndian wireFormatTestMessage.header ++ [12, 0, 0, 0] := by
    decide
  have decoded : NlMsghdr.decode .littleEndian
      ((Go.Slice.ofList (paddedImage .littleEndian wireFormatTestMessage)).elems ++
        (Go.Slice.ofList (paddedImage .littleEndian wireFormatTestMessage)).spare) =
      wireFormatTestMessage.header := by
    show NlMsghdr.decode _ (paddedImage .littleEndian wireFormatTestMessage ++ []) = _
    rw [List.append_nil, image, NlMsghdr.decode_encode]
  have cut := netlinkMessageHeaderAndData_of_fits (o := .littleEndian)
    (b := Go.Slice.ofList (paddedImage .littleEndian wireFormatTestMessage))
    (by rw [decoded]; decide) (by rw [decoded, image]; decide)
  rw [decoded] at cut
  have payload : parsedPayload wireFormatTestMessage.header
      ⟨(paddedImage .littleEndian wireFormatTestMessage).drop nlmsgHdrlen, []⟩
      (nlmAlignOf wireFormatTestMessage.header.len.toNat) = .error (.sliceBounds 0 20 4) := by
    rw [image]
    decide
  have written : wireImages .littleEndian [wireFormatTestMessage] =
      .ok (paddedImage .littleEndian wireFormatTestMessage) := by
    rw [wireImages_eq .littleEndian [wireFormatTestMessage] (by simpa using framed)]
    simp
  -- the raw loop cuts `Len - 16` bytes: its test compares `nlmAlignOf(Len) - 16` with `Len`
  have raw : rawStep .littleEndian (Go.Slice.ofList (paddedImage .littleEndian wireFormatTestMessage)) =
      .ok (some ([⟨16, [12, 0, 0, 0], none⟩], Go.Slice.ofList [])) := by
    decide
  have parsed : parseAuditNetlinkMessage .littleEndian
      (Go.Slice.ofList (paddedImage .littleEndian wireFormatTestMessage)) =
      .error (.panic (.sliceBounds 0 20 4)) := by
    rw [parseAuditNetlinkMessage,
      parseLoop_of_payload_panic (by rw [Go.Slice.len_ofList, image]; decide) cut payload]
    rfl
  refine ⟨framed, written, parsed, ?_⟩
  rw [rawLoop_of_step (by decide) raw, rawLoop_of_lt (by decide)]
  rfl


end LibAudit
