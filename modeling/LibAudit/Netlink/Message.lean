import LibAudit.Go.Runtime
import LibAudit.Go.Binary
import LibAudit.Constants

/-!
# Netlink messages and `ParseAuditNetlinkMessage`

The library talks to the kernel's audit subsystem over a netlink socket.  A datagram is a run
of messages, each a 16-byte `NlMsghdr` followed by its payload and padded to a multiple of
`NLMSG_ALIGNTO = 4` bytes.  The header is written and read through `unsafe` pointer casts, that
is in the host's own byte order, which the model takes as a parameter `o : Go.ByteOrder`
(`nativeEndian()`).

## Main definitions

* `NlMsghdr.encode`, `NlMsghdr.decode` — the header's 16 bytes in byte order `o`.
* `NetlinkMessage.toWireFormat` — `(*NetlinkMessage).ToWireFormat`.
* `nlmAlignOf`, `netlinkMessageHeaderAndData` — the helpers of the framing loops.
* `parseAuditNetlinkMessage` — `ParseAuditNetlinkMessage`, the framing loop every parsed
  receive goes through.

## Design notes

The receive buffer is a `Go.Slice UInt8`: the `nr` bytes received, and behind them the rest of
the connection's reusable buffer, which `s[:high]` can still reach.  Where the loop slices a
payload longer than what is left, it therefore reads the bytes of an earlier receive, as Go does,
and only panics past the buffer's capacity.  A message it cuts keeps that capacity behind its
payload (`ReceivedMessage`), so that the callers' `m.Data[0:4]` reads as far as Go's does.

The loop is recursion on the length of the buffer; every message that passes the header check is
at least 16 bytes long, and the loop steps over `nlmAlignOf(Len)` of them.
-/

namespace LibAudit

/-- `syscall.NlMsghdr`. -/
structure NlMsghdr where
  /-- The length of the message, header included. -/
  len : UInt32
  type : UInt16
  flags : UInt16
  seq : UInt32
  pid : UInt32
  deriving DecidableEq, Repr

/-- `NetlinkMessage`, that is `syscall.NetlinkMessage`: a header and the payload's bytes. -/
structure NetlinkMessage where
  header : NlMsghdr
  data : List UInt8
  deriving DecidableEq, Repr

/-- A message as `ParseAuditNetlinkMessage` cuts it out of the receive buffer: its `Data` is a
slice of the buffer, and `spare` is what of the buffer lies behind it, which `Data[i:j]` can
still reach. -/
structure ReceivedMessage extends NetlinkMessage where
  spare : List UInt8
  deriving DecidableEq, Repr

/-- `m.Data` as the slice of the buffer it is. -/
def ReceivedMessage.payload (m : ReceivedMessage) : Go.Slice UInt8 := ⟨m.data, m.spare⟩

namespace NlMsghdr

/-- The header as the pointer stores of `ToWireFormat` lay it out in byte order `o`: `Len` at
offset 0, `Type` at 4, `Flags` at 6, `Seq` at 8 and `Pid` at 12. -/
def encode (o : Go.ByteOrder) (h : NlMsghdr) : List UInt8 :=
  o.putUint 4 h.len.toNat ++ o.putUint 2 h.type.toNat ++ o.putUint 2 h.flags.toNat ++
    o.putUint 4 h.seq.toNat ++ o.putUint 4 h.pid.toNat

/-- `(*syscall.NlMsghdr)(unsafe.Pointer(&b[0]))`: the header the first 16 bytes at `b` hold in
byte order `o`. -/
def decode (o : Go.ByteOrder) (b : List UInt8) : NlMsghdr where
  len := UInt32.ofNat (o.getUint 4 b)
  type := UInt16.ofNat (o.getUint 2 (b.drop 4))
  flags := UInt16.ofNat (o.getUint 2 (b.drop 6))
  seq := UInt32.ofNat (o.getUint 4 (b.drop 8))
  pid := UInt32.ofNat (o.getUint 4 (b.drop 12))

@[simp] theorem length_encode (o : Go.ByteOrder) (h : NlMsghdr) :
    (encode o h).length = nlmsgHdrlen := by
  simp [encode, nlmsgHdrlen]

/-- **Reading back a written header**, whatever follows it. -/
theorem decode_encode (o : Go.ByteOrder) (h : NlMsghdr) (rest : List UInt8) :
    decode o (encode o h ++ rest) = h := by
  have len32 : h.len.toNat < 256 ^ 4 := by simpa using h.len.toNat_lt
  have type16 : h.type.toNat < 256 ^ 2 := by simpa using h.type.toNat_lt
  have flags16 : h.flags.toNat < 256 ^ 2 := by simpa using h.flags.toNat_lt
  have seq32 : h.seq.toNat < 256 ^ 4 := by simpa using h.seq.toNat_lt
  have pid32 : h.pid.toNat < 256 ^ 4 := by simpa using h.pid.toNat_lt
  simp only [decode, encode, List.append_assoc]
  rw [o.getUint_putUint len32, List.drop_left' (by simp), o.getUint_putUint type16]
  rw [show 6 = 4 + 2 from rfl, ← List.drop_drop, List.drop_left' (by simp),
    List.drop_left' (by simp), o.getUint_putUint flags16]
  rw [show 8 = 4 + 2 + 2 from rfl, ← List.drop_drop, ← List.drop_drop, List.drop_left' (by simp),
    List.drop_left' (by simp), List.drop_left' (by simp), o.getUint_putUint seq32]
  rw [show 12 = 4 + 2 + 2 + 4 from rfl, ← List.drop_drop, ← List.drop_drop, ← List.drop_drop,
    List.drop_left' (by simp), List.drop_left' (by simp), List.drop_left' (by simp),
    List.drop_left' (by simp), o.getUint_putUint pid32]
  simp

end NlMsghdr

/-! ## Writing a message -/

/-- `(*NetlinkMessage).ToWireFormat(b)`: store the header's fields through `b[0:4]`, `b[4:6]`,
`b[6:8]`, `b[8:12]` and `b[12:16]`, then `append(b[:16], rr.Data...)`.  A `nil` buffer is first
`make([]byte, rr.Header.Len)`; the stores panic when it is shorter than a header. -/
def NetlinkMessage.toWireFormat (o : Go.ByteOrder) (rr : NetlinkMessage)
    (b : Option (Go.Slice UInt8)) : Except Go.Panic (List UInt8) := do
  let b := b.getD (Go.Slice.ofList (List.replicate rr.header.len.toNat 0))
  let _ ← b.slice 0 4
  let _ ← b.slice 4 6
  let _ ← b.slice 6 8
  let _ ← b.slice 8 12
  let _ ← b.slice 12 16
  let _ ← b.sliceTo 16
  -- what the stores leave in `b[:16]` is the encoded header
  pure (NlMsghdr.encode o rr.header ++ rr.data)

theorem NetlinkMessage.toWireFormat_of_le {o : Go.ByteOrder} {rr : NetlinkMessage}
    (long : nlmsgHdrlen ≤ rr.header.len.toNat) :
    rr.toWireFormat o none = .ok (NlMsghdr.encode o rr.header ++ rr.data) := by
  have room : ∀ low high, low ≤ high → high ≤ nlmsgHdrlen →
      ∃ r, (Go.Slice.ofList (List.replicate rr.header.len.toNat (0 : UInt8))).slice low high =
        .ok r := by
    intro low high ordered bounded
    refine ⟨_, if_pos ⟨ordered, ?_⟩⟩
    simp only [Go.Slice.cap, Go.Slice.ofList, List.length_replicate, List.length_nil]
    unfold nlmsgHdrlen at bounded long
    omega
  obtain ⟨_, first⟩ := room 0 4 (by decide) (by decide)
  obtain ⟨_, second⟩ := room 4 6 (by decide) (by decide)
  obtain ⟨_, third⟩ := room 6 8 (by decide) (by decide)
  obtain ⟨_, fourth⟩ := room 8 12 (by decide) (by decide)
  obtain ⟨_, fifth⟩ := room 12 16 (by decide) (by decide)
  obtain ⟨_, head⟩ : ∃ r, (Go.Slice.ofList (List.replicate rr.header.len.toNat (0 : UInt8))).sliceTo
      16 = .ok r := ⟨_, if_pos (by simpa [Go.Slice.cap, Go.Slice.ofList, nlmsgHdrlen] using long)⟩
  simp only [NetlinkMessage.toWireFormat, Option.getD_none, first, second, third, fourth, fifth,
    head, Go.ok_bind]
  rfl

/-! ## The helpers of the framing loops -/

/-- `nlmAlignOf(msglen)`: `(msglen + NLMSG_ALIGNTO - 1) &^ (NLMSG_ALIGNTO - 1)`.  On the
non-negative lengths it is given, clearing the two low bits rounds down to a multiple of 4. -/
def nlmAlignOf (msglen : Nat) : Nat := (msglen + nlmsgAlignto - 1) / nlmsgAlignto * nlmsgAlignto

theorem le_nlmAlignOf (msglen : Nat) : msglen ≤ nlmAlignOf msglen := by
  unfold nlmAlignOf nlmsgAlignto
  omega

theorem nlmAlignOf_lt (msglen : Nat) : nlmAlignOf msglen < msglen + nlmsgAlignto := by
  unfold nlmAlignOf nlmsgAlignto
  omega

theorem nlmAlignOf_eq_self_iff (msglen : Nat) :
    nlmAlignOf msglen = msglen ↔ msglen % nlmsgAlignto = 0 := by
  unfold nlmAlignOf nlmsgAlignto
  omega

theorem mod_nlmAlignOf (msglen : Nat) : nlmAlignOf msglen % nlmsgAlignto = 0 := by
  unfold nlmAlignOf nlmsgAlignto
  omega

/-- `netlinkMessageHeaderAndData(b)`: the header at `&b[0]`, checked against the length of `b`,
the bytes after the header, and the aligned length of the message. -/
def netlinkMessageHeaderAndData (o : Go.ByteOrder) (b : Go.Slice UInt8) :
    Except Go.Fault (NlMsghdr × Go.Slice UInt8 × Nat) :=
  if b.len = 0 then .error (.panic (.indexOutOfRange 0 0))
  else
    let h := NlMsghdr.decode o (b.elems ++ b.spare)
    if h.len.toNat < nlmsgHdrlen ∨ h.len.toNat > b.len then
      .error (.error ("Nlmsghdr header length unexpected " ++ toString h.len ++
        ", actual packet length " ++ toString b.len))
    else (Go.liftPanic (b.sliceFrom nlmsgHdrlen)).map fun dbuf => (h, dbuf, nlmAlignOf h.len.toNat)

/-- What a successful `netlinkMessageHeaderAndData` returns. -/
theorem netlinkMessageHeaderAndData_eq_ok {o : Go.ByteOrder} {b dbuf : Go.Slice UInt8}
    {h : NlMsghdr} {dlen : Nat} (ok : netlinkMessageHeaderAndData o b = .ok (h, dbuf, dlen)) :
    h = NlMsghdr.decode o (b.elems ++ b.spare) ∧ nlmsgHdrlen ≤ h.len.toNat ∧
      h.len.toNat ≤ b.len ∧ dbuf = ⟨b.elems.drop nlmsgHdrlen, b.spare⟩ ∧
      dlen = nlmAlignOf h.len.toNat := by
  unfold netlinkMessageHeaderAndData at ok
  split at ok
  · cases ok
  · dsimp only at ok
    split at ok
    · cases ok
    · next bounds =>
      have long : nlmsgHdrlen ≤ b.len := by omega
      rw [Go.Slice.sliceFrom_of_le long, Go.liftPanic_ok] at ok
      cases ok
      exact ⟨rfl, by omega, by omega, rfl, rfl⟩

/-- A buffer that starts with a header whose length fits passes the check. -/
theorem netlinkMessageHeaderAndData_of_fits {o : Go.ByteOrder} {b : Go.Slice UInt8}
    (long : nlmsgHdrlen ≤ (NlMsghdr.decode o (b.elems ++ b.spare)).len.toNat)
    (fits : (NlMsghdr.decode o (b.elems ++ b.spare)).len.toNat ≤ b.len) :
    netlinkMessageHeaderAndData o b =
      .ok (NlMsghdr.decode o (b.elems ++ b.spare), ⟨b.elems.drop nlmsgHdrlen, b.spare⟩,
        nlmAlignOf (NlMsghdr.decode o (b.elems ++ b.spare)).len.toNat) := by
  have nonempty : b.len ≠ 0 := by unfold nlmsgHdrlen at long; omega
  have inRange : ¬ ((NlMsghdr.decode o (b.elems ++ b.spare)).len.toNat < nlmsgHdrlen ∨
      (NlMsghdr.decode o (b.elems ++ b.spare)).len.toNat > b.len) := by omega
  unfold netlinkMessageHeaderAndData
  rw [if_neg nonempty, if_neg inRange, Go.Slice.sliceFrom_of_le (by omega), Go.liftPanic_ok]
  rfl

/-- `int32(nativeEndian().Uint32(b[0:4]))`: the errno at the front of the payload `b` of an
`NLMSG_ERROR` message.  `b[0:4]` reaches into the capacity when `b` is shorter. -/
def errnoAt (o : Go.ByteOrder) (b : Go.Slice UInt8) : Except Go.Panic Int32 :=
  (b.slice 0 4).map fun head => (UInt32.ofNat (o.getUint 4 head.elems)).toInt32

/-! ## `ParseAuditNetlinkMessage` -/

/-- The payload `ParseAuditNetlinkMessage` cuts for a message: `dbuf[:Len]` when
`len(dbuf) == Len` or `nlmAlignOf(Len) == Len`, the workaround for replies whose `Len` does not
count the header, and `dbuf[:Len-16]` otherwise. -/
def parsedPayload (h : NlMsghdr) (dbuf : Go.Slice UInt8) (dlen : Nat) :
    Except Go.Panic (Go.Slice UInt8) :=
  if dbuf.len = h.len.toNat ∨ dlen = h.len.toNat then dbuf.sliceTo h.len.toNat
  else dbuf.sliceTo (h.len.toNat - nlmsgHdrlen)

/-- The loop of `ParseAuditNetlinkMessage`, with the messages `msgs` parsed so far: while a
header is left, check it, cut the payload and step over the aligned length. -/
def parseLoop (o : Go.ByteOrder) (msgs : List ReceivedMessage) (b : Go.Slice UInt8) :
    Except Go.Fault (List ReceivedMessage) :=
  if nlmsgHdrlen ≤ b.len then
    match _cut : netlinkMessageHeaderAndData o b with
    | .error (.panic p) => .error (.panic p)
    | .error (.error msg) =>
      if 0 < msgs.length then .ok msgs
      else .error ((Go.Fault.error msg).wrap "error while parsing NetlinkMessage")
    | .ok (h, dbuf, dlen) =>
      match parsedPayload h dbuf dlen with
      | .error p => .error (.panic p)
      | .ok data =>
        match _rest : b.sliceFrom dlen with
        | .error p => .error (.panic p)
        | .ok b' => parseLoop o (msgs ++ [⟨⟨h, data.elems⟩, data.spare⟩]) b'
  else .ok msgs
termination_by b.len
decreasing_by
  obtain ⟨-, long, -, -, aligned⟩ := netlinkMessageHeaderAndData_eq_ok _cut
  obtain ⟨inRange, shorter⟩ := Go.Slice.len_of_sliceFrom_eq_ok _rest
  have := le_nlmAlignOf h.len.toNat
  unfold nlmsgHdrlen at long
  omega

/-- `ParseAuditNetlinkMessage(b)`: the messages, each with its header and the bytes of its
payload.  What each `Data` can still reach of the buffer is kept by `parseLoop`, for the
callers that slice it. -/
def parseAuditNetlinkMessage (o : Go.ByteOrder) (b : Go.Slice UInt8) :
    Except Go.Fault (List NetlinkMessage) :=
  (parseLoop o [] b).map (List.map ReceivedMessage.toNetlinkMessage)

section Unfolding

variable {o : Go.ByteOrder} {msgs : List ReceivedMessage} {b : Go.Slice UInt8}

theorem parseLoop_of_lt (short : b.len < nlmsgHdrlen) : parseLoop o msgs b = .ok msgs := by
  rw [parseLoop, if_neg (Nat.not_le.mpr short)]

/-- One message of the loop: its header passes, its payload and the rest are cut. -/
theorem parseLoop_of_message {h : NlMsghdr} {dbuf data b' : Go.Slice UInt8} {dlen : Nat}
    (long : nlmsgHdrlen ≤ b.len) (cut : netlinkMessageHeaderAndData o b = .ok (h, dbuf, dlen))
    (payload : parsedPayload h dbuf dlen = .ok data) (rest : b.sliceFrom dlen = .ok b') :
    parseLoop o msgs b = parseLoop o (msgs ++ [⟨⟨h, data.elems⟩, data.spare⟩]) b' := by
  rw [parseLoop, if_pos long]
  split
  · next p failed => rw [cut] at failed; cases failed
  · next msg failed => rw [cut] at failed; cases failed
  · next h' dbuf' dlen' cut' =>
    rw [cut] at cut'
    cases cut'
    rw [payload]
    dsimp only
    split
    · next p failed => rw [rest] at failed; cases failed
    · next b'' rest' => rw [rest] at rest'; cases rest'; rfl

/-- A message whose payload slice reaches past the buffer's capacity panics. -/
theorem parseLoop_of_payload_panic {h : NlMsghdr} {dbuf : Go.Slice UInt8} {dlen : Nat}
    {p : Go.Panic} (long : nlmsgHdrlen ≤ b.len)
    (cut : netlinkMessageHeaderAndData o b = .ok (h, dbuf, dlen))
    (payload : parsedPayload h dbuf dlen = .error p) : parseLoop o msgs b = .error (.panic p) := by
  rw [parseLoop, if_pos long]
  split
  · next p' failed => rw [cut] at failed; cases failed
  · next msg failed => rw [cut] at failed; cases failed
  · next h' dbuf' dlen' cut' =>
    rw [cut] at cut'
    cases cut'
    rw [payload]

/-- A message whose aligned length reaches past the buffer's length panics at `b[dlen:]`. -/
theorem parseLoop_of_rest_panic {h : NlMsghdr} {dbuf data : Go.Slice UInt8} {dlen : Nat}
    {p : Go.Panic} (long : nlmsgHdrlen ≤ b.len)
    (cut : netlinkMessageHeaderAndData o b = .ok (h, dbuf, dlen))
    (payload : parsedPayload h dbuf dlen = .ok data) (rest : b.sliceFrom dlen = .error p) :
    parseLoop o msgs b = .error (.panic p) := by
  rw [parseLoop, if_pos long]
  split
  · next p' failed => rw [cut] at failed; cases failed
  · next msg failed => rw [cut] at failed; cases failed
  · next h' dbuf' dlen' cut' =>
    rw [cut] at cut'
    cases cut'
    rw [payload]
    dsimp only
    split
    · next p' failed => rw [rest] at failed; cases failed; rfl
    · next b'' rest' => rw [rest] at rest'; cases rest'

end Unfolding

/-! ## Decoding undoes encoding, for unaligned payloads -/

/-- A message whose header's `Len` counts its header and its payload, as `ToWireFormat` expects
it. -/
def NetlinkMessage.Framed (m : NetlinkMessage) : Prop :=
  m.header.len.toNat = nlmsgHdrlen + m.data.length

instance : DecidablePred NetlinkMessage.Framed := fun m =>
  inferInstanceAs (Decidable (m.header.len.toNat = nlmsgHdrlen + m.data.length))

/-- The byte stream of the messages `ms` on the wire: the `ToWireFormat(nil)` image of each,
padded with zero bytes to a multiple of `NLMSG_ALIGNTO`. -/
def wireImages (o : Go.ByteOrder) : List NetlinkMessage → Except Go.Panic (List UInt8)
  | [] => .ok []
  | m :: ms => do
    let image ← m.toWireFormat o none
    let rest ← wireImages o ms
    pure (image ++ List.replicate (nlmAlignOf image.length - image.length) 0 ++ rest)

/-- The padded image of one message. -/
def paddedImage (o : Go.ByteOrder) (m : NetlinkMessage) : List UInt8 :=
  NlMsghdr.encode o m.header ++ m.data ++
    List.replicate (nlmAlignOf (nlmsgHdrlen + m.data.length) - (nlmsgHdrlen + m.data.length)) 0

theorem length_paddedImage (o : Go.ByteOrder) (m : NetlinkMessage) :
    (paddedImage o m).length = nlmAlignOf (nlmsgHdrlen + m.data.length) := by
  have := le_nlmAlignOf (nlmsgHdrlen + m.data.length)
  simp only [paddedImage, List.length_append, NlMsghdr.length_encode, List.length_replicate]
  omega

/-- The zero bytes that pad the image of `m` to a multiple of `NLMSG_ALIGNTO`. -/
def imagePadding (m : NetlinkMessage) : List UInt8 :=
  List.replicate (nlmAlignOf (nlmsgHdrlen + m.data.length) - (nlmsgHdrlen + m.data.length)) 0

theorem paddedImage_eq_append (o : Go.ByteOrder) (m : NetlinkMessage) :
    paddedImage o m = NlMsghdr.encode o m.header ++ (m.data ++ imagePadding m) := by
  simp [paddedImage, imagePadding]

theorem decode_paddedImage (o : Go.ByteOrder) (m : NetlinkMessage) (rest : List UInt8) :
    NlMsghdr.decode o (paddedImage o m ++ rest) = m.header := by
  rw [paddedImage_eq_append, List.append_assoc, NlMsghdr.decode_encode]

theorem drop_paddedImage (o : Go.ByteOrder) (m : NetlinkMessage) (rest : List UInt8) :
    (paddedImage o m ++ rest).drop nlmsgHdrlen = m.data ++ (imagePadding m ++ rest) := by
  rw [paddedImage_eq_append, List.append_assoc, List.drop_left' (NlMsghdr.length_encode o _),
    List.append_assoc]

/-- The header at the front of an image, whatever follows the image in the buffer. -/
theorem decode_paddedImage_append (o : Go.ByteOrder) (m : NetlinkMessage) (rest spare : List UInt8) :
    NlMsghdr.decode o (paddedImage o m ++ rest ++ spare) = m.header := by
  rw [List.append_assoc, decode_paddedImage]

/-- The `Len` of a framed message's image passes the length checks of the framing loops: it
covers a header and does not reach past the image. -/
theorem len_fits_paddedImage {o : Go.ByteOrder} {m : NetlinkMessage} (framed : m.Framed)
    (rest spare : List UInt8) :
    nlmsgHdrlen ≤ m.header.len.toNat ∧
      m.header.len.toNat ≤ (⟨paddedImage o m ++ rest, spare⟩ : Go.Slice UInt8).len := by
  have lenEq : m.header.len.toNat = nlmsgHdrlen + m.data.length := framed
  have grown := le_nlmAlignOf (nlmsgHdrlen + m.data.length)
  simp only [Go.Slice.len, List.length_append, length_paddedImage, lenEq]
  omega

/-- Past the header of an image come its payload, its padding and what follows the image. -/
theorem sliceFrom_header_paddedImage (o : Go.ByteOrder) (m : NetlinkMessage)
    (rest spare : List UInt8) :
    (⟨paddedImage o m ++ rest, spare⟩ : Go.Slice UInt8).sliceFrom nlmsgHdrlen =
      .ok ⟨m.data ++ (imagePadding m ++ rest), spare⟩ := by
  have long : nlmsgHdrlen ≤ (⟨paddedImage o m ++ rest, spare⟩ : Go.Slice UInt8).len := by
    simp only [Go.Slice.len, paddedImage_eq_append, List.length_append, NlMsghdr.length_encode]
    omega
  rw [Go.Slice.sliceFrom_of_le long, drop_paddedImage]

/-- **A framed message at the front of a buffer passes the header check**, and the bytes after
its header start with its payload, whatever follows the image. -/
theorem netlinkMessageHeaderAndData_paddedImage {o : Go.ByteOrder} {m : NetlinkMessage}
    (framed : m.Framed) (rest spare : List UInt8) :
    netlinkMessageHeaderAndData o ⟨paddedImage o m ++ rest, spare⟩ =
      .ok (m.header, ⟨m.data ++ (imagePadding m ++ rest), spare⟩,
        nlmAlignOf m.header.len.toNat) := by
  have decoded := decode_paddedImage_append o m rest spare
  obtain ⟨long, fits⟩ := len_fits_paddedImage (o := o) framed rest spare
  have checked := netlinkMessageHeaderAndData_of_fits (o := o) (b := ⟨paddedImage o m ++ rest, spare⟩)
    (by simpa only [decoded] using long) (by simpa only [decoded] using fits)
  simpa only [decoded, drop_paddedImage] using checked

/-- Stepping over the aligned length of a framed message leaves what follows its image. -/
theorem sliceFrom_paddedImage {o : Go.ByteOrder} {m : NetlinkMessage} (framed : m.Framed)
    (rest spare : List UInt8) :
    (⟨paddedImage o m ++ rest, spare⟩ : Go.Slice UInt8).sliceFrom (nlmAlignOf m.header.len.toNat) =
      .ok ⟨rest, spare⟩ := by
  have lenEq : m.header.len.toNat = nlmsgHdrlen + m.data.length := framed
  have whole : nlmAlignOf m.header.len.toNat = (paddedImage o m).length := by
    rw [length_paddedImage, lenEq]
  rw [Go.Slice.sliceFrom_of_le (by simp [Go.Slice.len, whole]), whole, List.drop_left]

/-- The payload the workaround cuts for a framed message starts with the message's data, when
the buffer reaches a header's length past its image: either branch cuts at least the data, and
the workaround's `dbuf[:Len]` reads at most 16 bytes more. -/
theorem parsedPayload_paddedImage {m : NetlinkMessage} (framed : m.Framed) (rest : List UInt8)
    {spare : List UInt8} (roomy : nlmsgHdrlen ≤ spare.length) :
    ∃ extra spare', parsedPayload m.header ⟨m.data ++ (imagePadding m ++ rest), spare⟩
      (nlmAlignOf m.header.len.toNat) = .ok ⟨m.data ++ extra, spare'⟩ := by
  have lenEq : m.header.len.toNat = nlmsgHdrlen + m.data.length := framed
  unfold parsedPayload
  split
  · -- `dbuf[:Len]`: the data and the 16 bytes after it
    have room : m.header.len.toNat ≤ (⟨m.data ++ (imagePadding m ++ rest), spare⟩ :
        Go.Slice UInt8).cap := by
      simp only [Go.Slice.cap, List.length_append, lenEq]
      omega
    refine ⟨(imagePadding m ++ rest ++ spare).take nlmsgHdrlen,
      (m.data ++ (imagePadding m ++ rest) ++ spare).drop m.header.len.toNat, ?_⟩
    rw [Go.Slice.sliceTo_of_le_cap room]
    simp only [Except.ok.injEq, Go.Slice.mk.injEq, and_true]
    rw [lenEq, Nat.add_comm, List.append_assoc, List.take_length_add_append, List.append_assoc]
  · -- `dbuf[:Len-16]`: exactly the data
    have room : m.header.len.toNat - nlmsgHdrlen ≤ (⟨m.data ++ (imagePadding m ++ rest), spare⟩ :
        Go.Slice UInt8).cap := by
      simp only [Go.Slice.cap, List.length_append, lenEq]
      omega
    refine ⟨[], (m.data ++ (imagePadding m ++ rest) ++ spare).drop
      (m.header.len.toNat - nlmsgHdrlen), ?_⟩
    rw [Go.Slice.sliceTo_of_le_cap room]
    simp only [Except.ok.injEq, Go.Slice.mk.injEq, and_true]
    rw [lenEq, Nat.add_sub_cancel_left, List.append_assoc, List.take_left, List.append_nil]

/-- For a payload whose length is a multiple of 4, the second test of the workaround holds:
`Len` is aligned, and the payload is cut at `Len`, 16 bytes past its end. -/
theorem parsedPayload_paddedImage_of_aligned {m : NetlinkMessage} (framed : m.Framed)
    (aligned : m.data.length % nlmsgAlignto = 0) (rest : List UInt8) {spare : List UInt8}
    (roomy : nlmsgHdrlen ≤ spare.length) :
    ∃ spare', parsedPayload m.header ⟨m.data ++ (imagePadding m ++ rest), spare⟩
      (nlmAlignOf m.header.len.toNat) = .ok ⟨m.data ++ (rest ++ spare).take nlmsgHdrlen, spare'⟩ := by
  have lenEq : m.header.len.toNat = nlmsgHdrlen + m.data.length := framed
  have header : nlmsgHdrlen = 16 := rfl
  have quirk : nlmAlignOf m.header.len.toNat = m.header.len.toNat := by
    rw [nlmAlignOf_eq_self_iff, lenEq]
    unfold nlmsgAlignto at aligned ⊢
    omega
  have unpadded : imagePadding m = [] := by
    rw [imagePadding, ← lenEq, quirk, Nat.sub_self, List.replicate_zero]
  have room : m.header.len.toNat ≤ (⟨m.data ++ (imagePadding m ++ rest), spare⟩ :
      Go.Slice UInt8).cap := by
    simp only [Go.Slice.cap, List.length_append, lenEq]
    omega
  refine ⟨(m.data ++ (imagePadding m ++ rest) ++ spare).drop m.header.len.toNat, ?_⟩
  rw [parsedPayload, if_pos (.inr quirk), Go.Slice.sliceTo_of_le_cap room]
  simp only [Except.ok.injEq, Go.Slice.mk.injEq, and_true]
  rw [unpadded, List.nil_append, lenEq, Nat.add_comm, List.append_assoc,
    List.take_length_add_append]

/-- For a payload whose length is not a multiple of 4, followed by images a multiple of 4 bytes
long, neither test of the workaround holds: the payload is cut at `Len - 16`, exactly. -/
theorem parsedPayload_paddedImage_of_unaligned {m : NetlinkMessage} (framed : m.Framed)
    (odd : m.data.length % nlmsgAlignto ≠ 0) {rest : List UInt8}
    (restAligned : rest.length % nlmsgAlignto = 0) (spare : List UInt8) :
    parsedPayload m.header ⟨m.data ++ (imagePadding m ++ rest), spare⟩
      (nlmAlignOf m.header.len.toNat) = .ok ⟨m.data, imagePadding m ++ rest ++ spare⟩ := by
  have lenEq : m.header.len.toNat = nlmsgHdrlen + m.data.length := framed
  have aligned := mod_nlmAlignOf (nlmsgHdrlen + m.data.length)
  have grown := le_nlmAlignOf (nlmsgHdrlen + m.data.length)
  have padded : (imagePadding m).length =
      nlmAlignOf (nlmsgHdrlen + m.data.length) - (nlmsgHdrlen + m.data.length) :=
    List.length_replicate ..
  have notQuirk : ¬ ((⟨m.data ++ (imagePadding m ++ rest), spare⟩ : Go.Slice UInt8).len =
      m.header.len.toNat ∨ nlmAlignOf m.header.len.toNat = m.header.len.toNat) := by
    rw [nlmAlignOf_eq_self_iff]
    simp only [Go.Slice.len, List.length_append, padded, lenEq]
    have header : nlmsgHdrlen = 16 := rfl
    unfold nlmsgAlignto at odd aligned restAligned ⊢
    omega
  have room : m.header.len.toNat - nlmsgHdrlen ≤
      (⟨m.data ++ (imagePadding m ++ rest), spare⟩ : Go.Slice UInt8).cap := by
    simp only [Go.Slice.cap, List.length_append, lenEq]
    omega
  rw [parsedPayload, if_neg notQuirk, Go.Slice.sliceTo_of_le_cap room, lenEq,
    Nat.add_sub_cancel_left, List.append_assoc, List.take_left, List.append_assoc,
    List.drop_left]

theorem length_paddedImages_mod (o : Go.ByteOrder) (ms : List NetlinkMessage) :
    (ms.map (paddedImage o)).flatten.length % nlmsgAlignto = 0 := by
  induction ms with
  | nil => rfl
  | cons m ms inductionHypothesis =>
      have aligned := mod_nlmAlignOf (nlmsgHdrlen + m.data.length)
      simp only [List.map_cons, List.flatten_cons, List.length_append, length_paddedImage]
      unfold nlmsgAlignto at aligned inductionHypothesis ⊢
      omega

theorem wireImages_eq (o : Go.ByteOrder) :
    ∀ ms : List NetlinkMessage, (∀ m ∈ ms, m.Framed) →
      wireImages o ms = .ok (ms.map (paddedImage o)).flatten
  | [], _ => rfl
  | m :: ms, framed => by
      have long : nlmsgHdrlen ≤ m.header.len.toNat := by
        rw [framed m List.mem_cons_self]
        omega
      have restFramed : ∀ m' ∈ ms, m'.Framed := fun m' mem => framed m' (List.mem_cons_of_mem m mem)
      rw [wireImages, NetlinkMessage.toWireFormat_of_le long, Go.ok_bind,
        wireImages_eq o ms restFramed, Go.ok_bind]
      simp [paddedImage]
      rfl

/-- **The run lemma of the round trip**: the loop parses the padded images of framed messages
with unaligned payloads back into those messages, whatever stale bytes follow them. -/
theorem parseLoop_paddedImages (o : Go.ByteOrder) (spare : List UInt8) :
    ∀ (ms : List NetlinkMessage) (msgs : List ReceivedMessage), (∀ m ∈ ms, m.Framed) →
      (∀ m ∈ ms, m.data.length % nlmsgAlignto ≠ 0) →
      ∃ received, parseLoop o msgs ⟨(ms.map (paddedImage o)).flatten, spare⟩ =
        .ok (msgs ++ received) ∧ received.map ReceivedMessage.toNetlinkMessage = ms
  | [], msgs, _, _ => ⟨[], by
      rw [parseLoop_of_lt (by simp [Go.Slice.len, nlmsgHdrlen]), List.append_nil], rfl⟩
  | m :: ms, msgs, framed, unaligned => by
      have headFramed : m.Framed := framed m List.mem_cons_self
      have odd : m.data.length % nlmsgAlignto ≠ 0 := unaligned m List.mem_cons_self
      have grown := le_nlmAlignOf (nlmsgHdrlen + m.data.length)
      have restAligned := length_paddedImages_mod o ms
      set rest := (ms.map (paddedImage o)).flatten
      -- the payload is cut at `Len - 16`: neither test of the workaround holds for an
      -- unaligned `Len`, since what follows the header has an aligned length
      have payload := parsedPayload_paddedImage_of_unaligned headFramed odd restAligned spare
      have long : nlmsgHdrlen ≤ (⟨paddedImage o m ++ rest, spare⟩ : Go.Slice UInt8).len := by
        simp only [Go.Slice.len, List.length_append, length_paddedImage]
        omega
      have restFramed : ∀ m' ∈ ms, m'.Framed := fun m' mem => framed m' (List.mem_cons_of_mem m mem)
      have restUnaligned : ∀ m' ∈ ms, m'.data.length % nlmsgAlignto ≠ 0 :=
        fun m' mem => unaligned m' (List.mem_cons_of_mem m mem)
      obtain ⟨received, looped, viewed⟩ := parseLoop_paddedImages o spare ms
        (msgs ++ [⟨m, imagePadding m ++ rest ++ spare⟩]) restFramed restUnaligned
      refine ⟨⟨m, imagePadding m ++ rest ++ spare⟩ :: received, ?_, ?_⟩
      · show parseLoop o msgs ⟨paddedImage o m ++ rest, spare⟩ = _
        rw [parseLoop_of_message long (netlinkMessageHeaderAndData_paddedImage headFramed rest spare)
          payload (sliceFrom_paddedImage headFramed rest spare), looped]
        simp
      · rw [List.map_cons, viewed]

/-- **Decoding undoes encoding, for unaligned payloads.**  For framed messages whose payloads
are not a multiple of 4 bytes long, `ParseAuditNetlinkMessage` of their padded wire images
returns exactly those messages, in either byte order, whatever bytes of the buffer follow. -/
theorem parseAuditNetlinkMessage_wireImages (o : Go.ByteOrder) (ms : List NetlinkMessage)
    (spare : List UInt8) (framed : ∀ m ∈ ms, m.Framed)
    (unaligned : ∀ m ∈ ms, m.data.length % nlmsgAlignto ≠ 0) :
    ∃ bytes, wireImages o ms = .ok bytes ∧ parseAuditNetlinkMessage o ⟨bytes, spare⟩ = .ok ms := by
  refine ⟨_, wireImages_eq o ms framed, ?_⟩
  obtain ⟨received, parsed, viewed⟩ := parseLoop_paddedImages o spare ms [] framed unaligned
  rw [parseAuditNetlinkMessage, parsed, List.nil_append, ← viewed]
  rfl

-- an event record of five bytes and an acknowledgement-sized message of one byte, back to back
example : ∃ bytes, wireImages .littleEndian
        [⟨⟨21, 1300, 0, 7, 0⟩, [104, 101, 108, 108, 111]⟩, ⟨⟨17, 2, 0, 8, 0⟩, [0]⟩] = .ok bytes ∧
      parseAuditNetlinkMessage .littleEndian ⟨bytes, []⟩ =
        .ok [⟨⟨21, 1300, 0, 7, 0⟩, [104, 101, 108, 108, 111]⟩, ⟨⟨17, 2, 0, 8, 0⟩, [0]⟩] :=
  parseAuditNetlinkMessage_wireImages .littleEndian _ [] (by decide) (by decide)

/-- The message of the repository's `TestWireFormat`: `Len` 20, `Type` `AF_NETLINK`, `Flags`
`NLM_F_REQUEST | NLM_F_ACK`, `Seq` 2 and the four payload bytes of the little-endian 12. -/
def wireFormatTestMessage : NetlinkMessage := ⟨⟨20, 16, 5, 2, 0⟩, [12, 0, 0, 0]⟩

end LibAudit
