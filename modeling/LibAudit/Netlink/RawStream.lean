import LibAudit.Netlink.Reply

/-!
# `GetRawAuditMessages` on the kernel's datagrams

`GetRawAuditMessages` frames each buffer that `ReceiveNoParse` returns with a loop of its own
(`LibAudit.Netlink.Events`).  This module says what that loop hands its callback when the
buffers are datagrams of messages framed by the kernel: every message in order, with its type
and payload, and an `NLMSG_ERROR` message only when its errno is not 0 (`rawCallOf`).

The loop shares the length workaround of `ParseAuditNetlinkMessage`, and on some datagrams the
workaround fires: when the bytes after a message's header are exactly `Len` long, the loop hands
over `Len` bytes of payload instead of `Len - 16`.  Those bytes are the padded payload and
what follows it in the datagram, so this happens only when the payload's length is a multiple
of 4 and exactly 16 bytes follow its image.  The last message of a datagram never has them,
and a message whose payload length is not a multiple of 4 never has them either.  In
particular the loop frames every datagram that carries a single message.

## Main statements

* `rawStep_paddedImage` — one iteration over the image of a kernel message.
* `rawLoop_paddedImages` — the run lemma over the messages of a datagram.
* `getRawAuditMessages_datagrams` — the callback's calls over a sequence of datagrams.
-/

namespace LibAudit

/-- The call `GetRawAuditMessages` should make for a message: its type and payload, with the
error that goes with an `NLMSG_ERROR` message whose errno is not 0; an acknowledgement makes
none. -/
def rawCallOf (o : Go.ByteOrder) (m : NetlinkMessage) : Option RawCall :=
  if m.header.type = nlmsgError then
    if errnoOf o m.data ≠ 0 then
      some ⟨m.header.type, m.data, some ("error receiving events " ++ toString (errnoOf o m.data))⟩
    else none
  else some ⟨m.header.type, m.data, none⟩

section OneMessage

variable (o : Go.ByteOrder) (m : KernelMessage) (rest spare : List UInt8)

/-- Cutting a payload at its own length leaves what follows it in the capacity. -/
theorem sliceTo_data_length (data : List UInt8) :
    (⟨data ++ rest, spare⟩ : Go.Slice UInt8).sliceTo data.length = .ok ⟨data, rest ++ spare⟩ := by
  have room : data.length ≤ (⟨data ++ rest, spare⟩ : Go.Slice UInt8).cap := by
    simp only [Go.Slice.cap, List.length_append]
    omega
  rw [Go.Slice.sliceTo_of_le_cap room, List.append_assoc, List.take_left, List.drop_left]

/-- The calls for a kernel message, once its payload is cut at its length: the errno of an
`NLMSG_ERROR` message is read from its own payload. -/
theorem rawCallsOf_kernelMessage :
    rawCallsOf o m.message.header ⟨m.message.data ++ rest, spare⟩ m.message.data.length =
      .ok (rawCallOf o m.message).toList := by
  unfold rawCallsOf rawCallOf
  by_cases error : m.message.header.type = nlmsgError
  · rw [if_pos error, if_pos error, errnoAt_append o (m.errno_fits error), Go.ok_bind]
    by_cases acknowledged : errnoOf o m.message.data = 0
    · rw [if_neg (not_not.mpr acknowledged), if_neg (not_not.mpr acknowledged)]
      rfl
    · rw [if_pos acknowledged, if_pos acknowledged, sliceTo_data_length]
      rfl
  · rw [if_neg error, if_neg error, sliceTo_data_length]
    rfl

/-- **One iteration over a kernel message's image** makes the message's call and moves past
the image, unless exactly `Len` bytes follow its header. -/
theorem rawStep_paddedImage
    (noQuirk : rest.length + nlmAlignOf (nlmsgHdrlen + m.message.data.length) ≠
      2 * nlmsgHdrlen + m.message.data.length) :
    rawStep o ⟨paddedImage o m.message ++ rest, spare⟩ =
      .ok (some ((rawCallOf o m.message).toList, ⟨rest, spare⟩)) := by
  have lenEq : m.message.header.len.toNat = nlmsgHdrlen + m.message.data.length := m.framed
  have grown := le_nlmAlignOf (nlmsgHdrlen + m.message.data.length)
  obtain ⟨long, fits⟩ := len_fits_paddedImage (o := o) m.framed rest spare
  have padded : (m.message.data ++ imagePadding m.message).length =
      nlmAlignOf (nlmsgHdrlen + m.message.data.length) - nlmsgHdrlen := by
    simp only [imagePadding, List.length_append, List.length_replicate]
    omega
  -- the workaround's `Len` branch needs exactly `Len` bytes after the header, and its other
  -- test, `dlen == Len`, never holds: `dlen` is less than `Len` plus 4, less the header
  have notQuirk : ¬ ((⟨m.message.data ++ (imagePadding m.message ++ rest), spare⟩ :
      Go.Slice UInt8).len = m.message.header.len.toNat ∨
      nlmAlignOf m.message.header.len.toNat - nlmsgHdrlen = m.message.header.len.toNat) := by
    have below := nlmAlignOf_lt (nlmsgHdrlen + m.message.data.length)
    rw [Go.Slice.len, ← List.append_assoc, List.length_append, padded, lenEq]
    unfold nlmsgHdrlen nlmsgAlignto at *
    omega
  have skipped : (⟨m.message.data ++ (imagePadding m.message ++ rest), spare⟩ :
      Go.Slice UInt8).sliceFrom (nlmAlignOf m.message.header.len.toNat - nlmsgHdrlen) =
      .ok ⟨rest, spare⟩ := by
    have inRange : nlmAlignOf (nlmsgHdrlen + m.message.data.length) - nlmsgHdrlen ≤
        (⟨m.message.data ++ (imagePadding m.message ++ rest), spare⟩ : Go.Slice UInt8).len := by
      simp only [Go.Slice.len, ← List.append_assoc, List.length_append, padded]
      omega
    rw [lenEq, Go.Slice.sliceFrom_of_le inRange]
    simp only [← padded, ← List.append_assoc, List.drop_left]
  unfold rawStep
  dsimp only
  rw [decode_paddedImage_append, if_neg (by omega), sliceFrom_header_paddedImage, Go.ok_bind,
    if_neg notQuirk, lenEq, Nat.add_sub_cancel_left, rawCallsOf_kernelMessage, Go.ok_bind, ← lenEq,
    skipped]
  rfl

end OneMessage

/-- **The run lemma**: over the messages of a datagram, every message but the last with a
payload whose length is not a multiple of 4, the loop makes each message's call in order. -/
theorem rawLoop_paddedImages (o : Go.ByteOrder) (spare : List UInt8) :
    ∀ (ms : List KernelMessage) (calls : List RawCall),
      (∀ m ∈ ms.dropLast, m.message.data.length % nlmsgAlignto ≠ 0) →
      rawLoop o calls (Datagram.bytes o ⟨ms, spare⟩) =
        .ok (calls ++ (ms.map KernelMessage.message).filterMap (rawCallOf o))
  | [], calls, _ => by
      rw [rawLoop_of_lt (Datagram.len_bytes_nil o spare)]
      simp
  | m :: ms, calls, unaligned => by
      have long := Datagram.len_bytes_cons o m ms spare
      have grown := le_nlmAlignOf (nlmsgHdrlen + m.message.data.length)
      have below := nlmAlignOf_lt (nlmsgHdrlen + m.message.data.length)
      -- what follows the image is the images of the later messages, a multiple of 4 bytes long
      have restAligned : (Datagram.bytes o ⟨ms, spare⟩).elems.length % nlmsgAlignto = 0 := by
        have aligned := length_paddedImages_mod o (ms.map KernelMessage.message)
        rwa [List.map_map] at aligned
      have noQuirk : (Datagram.bytes o ⟨ms, spare⟩).elems.length +
          nlmAlignOf (nlmsgHdrlen + m.message.data.length) ≠
          2 * nlmsgHdrlen + m.message.data.length := by
        cases ms with
        | nil =>
            -- the last message: nothing follows its image
            simp only [Datagram.bytes, List.map_nil, List.flatten_nil, List.length_nil]
            unfold nlmsgHdrlen nlmsgAlignto at *
            omega
        | cons m' ms' =>
            have odd := unaligned m (by simp)
            have evenImage := mod_nlmAlignOf (nlmsgHdrlen + m.message.data.length)
            unfold nlmsgHdrlen nlmsgAlignto at *
            omega
      have tail : ∀ m' ∈ ms.dropLast, m'.message.data.length % nlmsgAlignto ≠ 0 := by
        intro m' member
        cases ms with
        | nil => exact absurd member (List.not_mem_nil)
        | cons m'' ms' => exact unaligned m' (List.mem_cons_of_mem m (by simpa using member))
      rw [Datagram.bytes_cons] at long ⊢
      rw [rawLoop_of_step long (rawStep_paddedImage o m _ spare noQuirk)]
      rw [show (⟨(Datagram.bytes o ⟨ms, spare⟩).elems, spare⟩ : Go.Slice UInt8) =
        Datagram.bytes o ⟨ms, spare⟩ from rfl, rawLoop_paddedImages o spare ms _ tail]
      rcases called : rawCallOf o m.message with _ | call <;>
        simp [called]

/-- **`GetRawAuditMessages` hands over the kernel's messages.**  On datagrams of messages framed
by the kernel, in each of which every message but the last has a payload whose length is not a
multiple of 4, the callback is called for every message in order, with its type and payload,
and for an `NLMSG_ERROR` message only when its errno is not 0. -/
theorem getRawAuditMessages_datagrams (o : Go.ByteOrder) :
    ∀ ds : List Datagram,
      (∀ d ∈ ds, ∀ m ∈ d.messages.dropLast, m.message.data.length % nlmsgAlignto ≠ 0) →
      getRawAuditMessages o (ds.map fun d => .ok (d.bytes o)) =
        .ok ((Datagram.stream ds).filterMap (rawCallOf o))
  | [], _ => rfl
  | ⟨ms, spare⟩ :: ds, unaligned => by
      have first := rawLoop_paddedImages o spare ms [] (unaligned _ List.mem_cons_self)
      have later := getRawAuditMessages_datagrams o ds
        (fun d member => unaligned d (List.mem_cons_of_mem _ member))
      rw [List.map_cons, getRawAuditMessages, first, Go.ok_bind, later, Go.ok_bind,
        Datagram.stream_cons, List.filterMap_append, List.nil_append]
      rfl

/-- An audit event of five payload bytes followed, in the same datagram, by the kernel's
refusal of request 5: the event is handed over as it is, and the refusal with its errno. -/
theorem getRawAuditMessages_event_then_refusal :
    (∀ d ∈ [Datagram.mk [⟨⟨⟨21, auditSyscall, 0, 9, 0⟩, [104, 101, 108, 108, 111]⟩, by decide,
        by decide⟩, refusalOfFive] []], ∀ m ∈ d.messages.dropLast,
        m.message.data.length % nlmsgAlignto ≠ 0) ∧
      getRawAuditMessages .littleEndian
        ([Datagram.mk [⟨⟨⟨21, auditSyscall, 0, 9, 0⟩, [104, 101, 108, 108, 111]⟩, by decide,
          by decide⟩, refusalOfFive] []].map fun d => .ok (d.bytes .littleEndian)) =
        .ok [⟨auditSyscall, [104, 101, 108, 108, 111], none⟩,
          ⟨nlmsgError, [255, 255, 255, 255] ++ List.replicate 16 0,
            some ("error receiving events " ++ toString (-1 : Int32))⟩] :=
  ⟨by decide, (getRawAuditMessages_datagrams .littleEndian _ (by decide)).trans (by decide)⟩

end LibAudit
