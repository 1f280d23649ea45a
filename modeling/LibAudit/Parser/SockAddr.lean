import LibAudit.Parser.Arguments
import LibAudit.Rules.Wire
import LibAudit.Go.Net

/-!
# Socket addresses: `printSockAddr`

`printSockAddr` prints the field `saddr`, the hexadecimal image of a C `struct sockaddr` that
the kernel logs for `connect`, `bind` and the like.  It decodes the text, unpacks the bytes with
`struc` into the generic `sockaddr` to read the family, and unpacks them once more into the
structure of that family: `sockaddr_un` for `AF_LOCAL`, `sockaddr_in` and `sockaddr_in6` for the
internet families, `sockaddr_nl` for `AF_NETLINK` and `sockaddr_ll` for `AF_PACKET`.

## What the unpacking refuses

`struc` reads a structure field by field with `io.ReadFull` (`unpackFields`), so an unpacking
succeeds exactly when the bytes hold every field of the structure, and otherwise fails with
`EOF` or `unexpected EOF`.  Every address is first read as a sixteen-byte `sockaddr`, so an
address shorter than that is refused whatever its family.  The source's own `sockaddr_nl` is
twelve bytes long: a netlink address the size of that structure never reaches the `AF_NETLINK`
branch.  In the same way an `AF_LOCAL` address is printed only when it holds the whole
110 bytes of `sockaddr_un`, and then with all 108 bytes of the path, padding included.

## Main definitions

* `LibAudit.printSockAddr` — `printSockAddr(fieldValue)`.
* `LibAudit.familyLayout` — the structure the switch unpacks for a family.

## Main statements

* `LibAudit.printSockAddr_ok_iff` — `printSockAddr` prints an address exactly when it is at
  least sixteen bytes long and, for a family `SocketFamLookup` names, holds the whole structure
  of that family.
* `LibAudit.parseAuditEvent_short_saddr_fails` — `ParseAuditEvent` with its interpretation pass
  fails on every record whose `saddr` is shorter than sixteen bytes.
-/

namespace LibAudit

/-! ## The structures, as `struc` reads them -/

/-- `sockaddr`: `Sa_family uint16`, `Sa_data [14]byte`; the sizes of the fields in bytes. -/
def sockaddr : List Nat := [2, 14]

/-- `sockaddr_un`: `Sun_family uint16`, `Sun_path [108]byte`. -/
def sockaddrUn : List Nat := [2, 108]

/-- `sockaddr_nl`: `Sun_family uint16`, `Nl_pad uint16`, `Nl_pid int32`, `Nl_groups uint32`. -/
def sockaddrNl : List Nat := [2, 2, 4, 4]

/-- `sockaddr_ll`: `Sll_family uint16`, `Sll_protocol uint16`, `Sll_ifindex int32`,
`Sll_hatype uint16`, `Sll_pkttype byte`, `Sll_halen byte`, `Sll_addr [8]byte`. -/
def sockaddrLl : List Nat := [2, 2, 4, 2, 1, 1, 8]

/-- `sockaddr_in`: `Sin_family uint16`, `Sin_port uint16`, `In_addr [4]byte`,
`Sin_zero [8]byte`. -/
def sockaddrIn : List Nat := [2, 2, 4, 8]

/-- `sockaddr_in6`: `Sin6_family uint16`, `Sin6_port uint16`, `Sin6_flowinfo uint32`,
`Sin6_addr [16]byte`, `Sin6_scope_id uint32`. -/
def sockaddrIn6 : List Nat := [2, 2, 4, 16, 4]

/-- `syscall.AF_LOCAL`. -/
def afLocal : Int64 := 1

/-- `syscall.AF_INET`. -/
def afInet : Int64 := 2

/-- `syscall.AF_INET6`. -/
def afInet6 : Int64 := 10

/-- `syscall.AF_NETLINK`. -/
def afNetlink : Int64 := 16

/-- `syscall.AF_PACKET`. -/
def afPacket : Int64 := 17

/-! ## `printSockAddr` -/

/-- The `switch family` of `printSockAddr` and what precedes it: the name of a family that
`SocketFamLookup` knows, then the address unpacked again into the structure of that family. -/
def sockAddrOfFamily (headers : Headers) (bytestr : List UInt8) (family : Int64) :
    Except Go.Fault (List Char) :=
  match headers.socketFamLookup.lookup family with
  | none => return "unknown family (".toList ++ Go.Strconv.formatInt family.toInt ++ ")".toList
  | some fam =>
    let errstring := String.ofList (fam ++ " (error resolving addr)".toList)
    if family = afLocal then do
      let p ← (unpackFields sockaddrUn bytestr).mapError (Go.Fault.wrap errstring)
      return fam ++ " ".toList ++ Go.stringOfBytes (p.getD 1 [])
    else if family = afInet then do
      let ip4 ← (unpackFields sockaddrIn bytestr).mapError (Go.Fault.wrap errstring)
      return fam ++ " host:".toList ++ Go.Net.ipString (ip4.getD 2 []) ++ " serv:".toList ++
        Go.Strconv.formatInt (Go.ByteOrder.bigEndian.getUint 2 (ip4.getD 1 []))
    else if family = afInet6 then do
      let ip6 ← (unpackFields sockaddrIn6 bytestr).mapError (Go.Fault.wrap errstring)
      return fam ++ " host:".toList ++ Go.Net.ipString (ip6.getD 3 []) ++ " serv:".toList ++
        Go.Strconv.formatInt (Go.ByteOrder.bigEndian.getUint 2 (ip6.getD 1 []))
    else if family = afNetlink then do
      let n ← (unpackFields sockaddrNl bytestr).mapError (Go.Fault.wrap errstring)
      -- `Nl_pid` is an `int32`: its four bytes are read as a signed number
      return fam ++ " pid:".toList ++ Go.Strconv.formatInt
        (Go.ByteOrder.littleEndian.getUint 4 (n.getD 2 [])).toUInt32.toInt32.toInt
    else if family = afPacket then do
      let _ ← (unpackFields sockaddrLl bytestr).mapError (Go.Fault.wrap errstring)
      return fam
    else return fam

/-- `printSockAddr(fieldValue)`. -/
def printSockAddr (headers : Headers) (fieldValue : List Char) : Except Go.Fault (List Char) := do
  let bytestr ← (Go.Hex.decode fieldValue).mapError (Go.Fault.wrap "sockaddr parsing failed")
  let s ← (unpackFields sockaddr bytestr).mapError (Go.Fault.wrap "sockaddr decoding failed")
  sockAddrOfFamily headers bytestr (.ofNat (Go.ByteOrder.littleEndian.getUint 2 (s.getD 0 [])))

/-! ## What the switch unpacks -/

/-- The family of an address: its first two bytes, little endian. -/
def familyOf (bytes : List UInt8) : Int64 := .ofNat (Go.ByteOrder.littleEndian.getUint 2 bytes)

/-- The structure the switch of `printSockAddr` unpacks an address of a known family into:
none for a family it has no case for. -/
def familyLayout (family : Int64) : List Nat :=
  if family = afLocal then sockaddrUn
  else if family = afInet then sockaddrIn
  else if family = afInet6 then sockaddrIn6
  else if family = afNetlink then sockaddrNl
  else if family = afPacket then sockaddrLl
  else []

/-- The switch prints an address of a family `SocketFamLookup` knows exactly when the address
holds the whole structure of that family; it prints every other family as unknown. -/
theorem sockAddrOfFamily_ok_iff (headers : Headers) (bytestr : List UInt8) (family : Int64) :
    (∃ text, sockAddrOfFamily headers bytestr family = .ok text) ↔
      ∀ fam, headers.socketFamLookup.lookup family = some fam →
        (familyLayout family).sum ≤ bytestr.length := by
  unfold sockAddrOfFamily
  split
  · next unknown =>
    refine iff_of_true ⟨_, rfl⟩ fun fam known => ?_
    rw [unknown] at known
    cases known
  · next fam known =>
    have fits : (∀ fam', some fam = some fam' → (familyLayout family).sum ≤ bytestr.length) ↔
        (familyLayout family).sum ≤ bytestr.length :=
      ⟨fun all => all fam rfl, fun fits _ _ => fits⟩
    rw [known, fits]
    -- each known family is unpacked into its own structure
    unfold familyLayout
    dsimp only
    split_ifs
    all_goals first
      | exact iff_of_true ⟨_, rfl⟩ (Nat.zero_le _)
      | rw [Go.exists_mapError_bind_pure_eq_ok, unpackFields_ok_iff]

/-- Decoding the kernel's upper-case hexadecimal gives back its bytes, and the generic
`sockaddr` is read from them. -/
theorem printSockAddr_encodeUpper (headers : Headers) (bytes : List UInt8) :
    printSockAddr headers (Go.Hex.encodeUpper bytes) =
      (unpackFields sockaddr bytes).mapError (Go.Fault.wrap "sockaddr decoding failed") >>=
        fun s => sockAddrOfFamily headers bytes
          (.ofNat (Go.ByteOrder.littleEndian.getUint 2 (s.getD 0 []))) := by
  rw [printSockAddr, Go.Hex.decode_encodeUpper]
  rfl

/-- An address of sixteen bytes or more is read as `sockaddr`, and its family is its first two
bytes. -/
theorem printSockAddr_of_long (headers : Headers) {bytes : List UInt8}
    (long : 16 ≤ bytes.length) :
    printSockAddr headers (Go.Hex.encodeUpper bytes) =
      sockAddrOfFamily headers bytes (familyOf bytes) := by
  have first : 2 ≤ bytes.length := by omega
  have second : 14 ≤ (bytes.drop 2).length := by
    rw [List.length_drop]
    omega
  have unpacked : unpackFields sockaddr bytes = .ok [bytes.take 2, (bytes.drop 2).take 14] := by
    rw [sockaddr, unpackFields_cons_of_le first, unpackFields_cons_of_le second]
    rfl
  have family : Go.ByteOrder.littleEndian.getUint 2 (bytes.take 2) =
      Go.ByteOrder.littleEndian.getUint 2 bytes := by
    simp only [Go.ByteOrder.getUint, List.take_take, Nat.min_self]
  rw [printSockAddr_encodeUpper, unpacked]
  show sockAddrOfFamily headers bytes _ = _
  rw [List.getD_cons_zero, family]
  rfl

/-- **An address shorter than `sockaddr` is refused**, whatever its family: `struc` runs out
of bytes in the family or in `Sa_data`. -/
theorem printSockAddr_short (headers : Headers) {bytes : List UInt8} (short : bytes.length < 16) :
    printSockAddr headers (Go.Hex.encodeUpper bytes) =
      .error (.error ("sockaddr decoding failed: " ++
        if bytes.length = 0 ∨ bytes.length = 2 then "EOF" else "unexpected EOF")) := by
  rw [printSockAddr_encodeUpper, sockaddr]
  by_cases first : 2 ≤ bytes.length
  · have second : (bytes.drop 2).length < 14 := by
      rw [List.length_drop]
      omega
    rw [unpackFields_cons_of_le first, unpackFields_cons_of_lt second]
    by_cases two : bytes.length = 2
    · have none : bytes.drop 2 = [] := List.drop_eq_nil_of_le (by omega)
      rw [if_pos none, if_pos (.inr two)]
      rfl
    · have some : bytes.drop 2 ≠ [] := fun none => by
        have := congrArg List.length none
        rw [List.length_drop] at this
        simp only [List.length_nil] at this
        omega
      rw [if_neg some, if_neg (by omega)]
      rfl
  · rw [unpackFields_cons_of_lt (by omega)]
    by_cases empty : bytes = []
    · rw [if_pos empty, if_pos (.inl (List.length_eq_zero_iff.mpr empty))]
      rfl
    · have one : bytes.length = 1 := by
        have := List.length_pos_iff.mpr empty
        omega
      rw [if_neg empty, if_neg (by omega)]
      rfl

/-- **`printSockAddr` prints exactly the addresses that hold their structures**: an address
the kernel logs is printed when it is at least as long as `sockaddr` and, for a family that
`SocketFamLookup` names, at least as long as the structure of that family. -/
theorem printSockAddr_ok_iff (headers : Headers) (bytes : List UInt8) :
    (∃ text, printSockAddr headers (Go.Hex.encodeUpper bytes) = .ok text) ↔
      16 ≤ bytes.length ∧ ∀ fam, headers.socketFamLookup.lookup (familyOf bytes) = some fam →
        (familyLayout (familyOf bytes)).sum ≤ bytes.length := by
  by_cases long : 16 ≤ bytes.length
  · rw [printSockAddr_of_long headers long, sockAddrOfFamily_ok_iff]
    exact (and_iff_right long).symm
  · rw [printSockAddr_short headers (by omega)]
    exact iff_of_false (fun ⟨_, refused⟩ => by cases refused) fun ⟨fits, _⟩ => long fits

/-- `printSockAddr` fails with an error, never a panic: `Printers.printSockAddr` may be taken to
be it wherever a statement asks for a printer that does not panic. -/
theorem printSockAddr_noPanic (headers : Headers) (fieldValue : List Char) :
    Go.NoPanic (printSockAddr headers fieldValue) := by
  have switch : ∀ bytestr family, Go.NoPanic (sockAddrOfFamily headers bytestr family) := by
    intro bytestr family
    unfold sockAddrOfFamily
    split
    · exact Go.noPanic_pure _
    · dsimp only
      split_ifs
      all_goals first
        | exact Go.noPanic_pure _
        | exact ((unpackFields_noPanic _ _).mapError_wrap _).bind fun _ _ => Go.noPanic_pure _
  exact ((Go.Hex.decode_noPanic fieldValue).mapError_wrap _).bind fun bytestr _ =>
    ((unpackFields_noPanic sockaddr bytestr).mapError_wrap _).bind fun _ _ => switch _ _

/-! ## Internet addresses read back -/

/-- The image of a `struct sockaddr_in` as the kernel logs it on a little-endian host: the
family, the port in network order, the address, and the padding `zero`. -/
def sockaddrInImage (port : Nat) (addr zero : List UInt8) : List UInt8 :=
  Go.ByteOrder.littleEndian.putUint 2 2 ++ Go.ByteOrder.bigEndian.putUint 2 port ++ addr ++ zero

/-- The image of a `struct sockaddr_in6`: the family, the port in network order, the flow
information, the address and the scope. -/
def sockaddrIn6Image (port : Nat) (flowinfo addr scope : List UInt8) : List UInt8 :=
  Go.ByteOrder.littleEndian.putUint 2 10 ++ Go.ByteOrder.bigEndian.putUint 2 port ++ flowinfo ++
    addr ++ scope

section Internet

variable (headers : Headers) {port : Nat} {fam : List Char}

/-- The family written in front of an image is read back. -/
theorem familyOf_putUint_append {family : Nat} (small : family < 256 ^ 2) (rest : List UInt8) :
    familyOf (Go.ByteOrder.littleEndian.putUint 2 family ++ rest) = .ofNat family := by
  rw [familyOf, Go.ByteOrder.getUint_putUint _ small]

/-- The port, in network order, is read back. -/
theorem getUint_bigEndian_port (small : port < 2 ^ 16) :
    Go.ByteOrder.bigEndian.getUint 2 (Go.ByteOrder.bigEndian.putUint 2 port) = port := by
  have read := Go.ByteOrder.getUint_putUint Go.ByteOrder.bigEndian (w := 2) (n := port)
    (by omega) []
  rwa [List.append_nil] at read

/-- **`printSockAddr` reads back an IPv4 address**: the host and the port the kernel wrote. -/
theorem printSockAddr_sockaddrInImage (small : port < 2 ^ 16) {addr zero : List UInt8}
    (addrLength : addr.length = 4) (zeroLength : zero.length = 8)
    (known : headers.socketFamLookup.lookup afInet = some fam) :
    printSockAddr headers (Go.Hex.encodeUpper (sockaddrInImage port addr zero)) =
      .ok (fam ++ " host:".toList ++ Go.Net.ipString addr ++ " serv:".toList ++
        Go.Strconv.formatInt port) := by
  let fields := [Go.ByteOrder.littleEndian.putUint 2 2, Go.ByteOrder.bigEndian.putUint 2 port,
    addr, zero]
  have image : sockaddrInImage port addr zero = fields.flatten := by
    simp [fields, sockaddrInImage]
  have layout : fields.map List.length = sockaddrIn := by
    simp [fields, sockaddrIn, addrLength, zeroLength]
  have unpacked : unpackFields sockaddrIn (sockaddrInImage port addr zero) = .ok fields := by
    rw [image, ← layout, ← List.append_nil fields.flatten, unpackFields_flatten]
  have long : 16 ≤ (sockaddrInImage port addr zero).length := by
    simp [sockaddrInImage, addrLength, zeroLength]
  have family : familyOf (sockaddrInImage port addr zero) = afInet := by
    rw [sockaddrInImage, List.append_assoc, List.append_assoc,
      familyOf_putUint_append (by decide)]
    rfl
  rw [printSockAddr_of_long headers long, family, sockAddrOfFamily, known]
  dsimp only
  rw [if_neg (by decide), if_pos rfl, unpacked]
  show Except.ok (_ ++ _ ++ Go.Net.ipString addr ++ _ ++
    Go.Strconv.formatInt (Go.ByteOrder.bigEndian.getUint 2
      (Go.ByteOrder.bigEndian.putUint 2 port))) = _
  rw [getUint_bigEndian_port small]

/-- **`printSockAddr` reads back an IPv6 address**: the host and the port the kernel wrote,
whatever the flow information and the scope. -/
theorem printSockAddr_sockaddrIn6Image (small : port < 2 ^ 16) {flowinfo addr scope : List UInt8}
    (flowinfoLength : flowinfo.length = 4) (addrLength : addr.length = 16)
    (scopeLength : scope.length = 4)
    (known : headers.socketFamLookup.lookup afInet6 = some fam) :
    printSockAddr headers (Go.Hex.encodeUpper (sockaddrIn6Image port flowinfo addr scope)) =
      .ok (fam ++ " host:".toList ++ Go.Net.ipString addr ++ " serv:".toList ++
        Go.Strconv.formatInt port) := by
  let fields := [Go.ByteOrder.littleEndian.putUint 2 10, Go.ByteOrder.bigEndian.putUint 2 port,
    flowinfo, addr, scope]
  have image : sockaddrIn6Image port flowinfo addr scope = fields.flatten := by
    simp [fields, sockaddrIn6Image]
  have layout : fields.map List.length = sockaddrIn6 := by
    simp [fields, sockaddrIn6, flowinfoLength, addrLength, scopeLength]
  have unpacked : unpackFields sockaddrIn6 (sockaddrIn6Image port flowinfo addr scope) =
      .ok fields := by
    rw [image, ← layout, ← List.append_nil fields.flatten, unpackFields_flatten]
  have long : 16 ≤ (sockaddrIn6Image port flowinfo addr scope).length := by
    simp [sockaddrIn6Image, flowinfoLength, addrLength, scopeLength]
  have family : familyOf (sockaddrIn6Image port flowinfo addr scope) = afInet6 := by
    rw [sockaddrIn6Image, List.append_assoc, List.append_assoc, List.append_assoc,
      familyOf_putUint_append (by decide)]
    rfl
  rw [printSockAddr_of_long headers long, family, sockAddrOfFamily, known]
  dsimp only
  rw [if_neg (by decide), if_neg (by decide), if_pos rfl, unpacked]
  show Except.ok (_ ++ _ ++ Go.Net.ipString addr ++ _ ++
    Go.Strconv.formatInt (Go.ByteOrder.bigEndian.getUint 2
      (Go.ByteOrder.bigEndian.putUint 2 port))) = _
  rw [getUint_bigEndian_port small]

/-- **`printSockAddr` reads back the internet addresses the kernel writes.**  For every port,
an IPv4 address in a `sockaddr_in`, whatever its padding, and an IPv6 address in a
`sockaddr_in6`, whatever its flow information and scope, are printed as the name
`SocketFamLookup` gives the family, the host as `net.IP` prints it, and the port. -/
theorem printSockAddr_internet (small : port < 2 ^ 16) :
    (∀ {fam : List Char} {addr zero : List UInt8}, addr.length = 4 → zero.length = 8 →
      headers.socketFamLookup.lookup afInet = some fam →
      printSockAddr headers (Go.Hex.encodeUpper (sockaddrInImage port addr zero)) =
        .ok (fam ++ " host:".toList ++ Go.Net.ipString addr ++ " serv:".toList ++
          Go.Strconv.formatInt port)) ∧
    (∀ {fam : List Char} {flowinfo addr scope : List UInt8}, flowinfo.length = 4 →
      addr.length = 16 → scope.length = 4 →
      headers.socketFamLookup.lookup afInet6 = some fam →
      printSockAddr headers (Go.Hex.encodeUpper (sockaddrIn6Image port flowinfo addr scope)) =
        .ok (fam ++ " host:".toList ++ Go.Net.ipString addr ++ " serv:".toList ++
          Go.Strconv.formatInt port)) :=
  ⟨fun addrLength zeroLength known =>
      printSockAddr_sockaddrInImage headers small addrLength zeroLength known,
    fun flowinfoLength addrLength scopeLength known =>
      printSockAddr_sockaddrIn6Image headers small flowinfoLength addrLength scopeLength known⟩

end Internet

/-- Port 80, with the families named as the headers name them. -/
theorem printSockAddr_internet_http :
    80 < 2 ^ 16 ∧
      let headers : Headers :=
        ⟨[], [], [], [(2, "inet".toList), (10, "inet6".toList)], [], [], [], [], [], [], [], [], [],
          [], [], [], [], [], [], []⟩
      (∀ {fam : List Char} {addr zero : List UInt8}, addr.length = 4 → zero.length = 8 →
        headers.socketFamLookup.lookup afInet = some fam →
        printSockAddr headers (Go.Hex.encodeUpper (sockaddrInImage 80 addr zero)) =
          .ok (fam ++ " host:".toList ++ Go.Net.ipString addr ++ " serv:".toList ++
            Go.Strconv.formatInt 80)) ∧
      (∀ {fam : List Char} {flowinfo addr scope : List UInt8}, flowinfo.length = 4 →
        addr.length = 16 → scope.length = 4 →
        headers.socketFamLookup.lookup afInet6 = some fam →
        printSockAddr headers (Go.Hex.encodeUpper (sockaddrIn6Image 80 flowinfo addr scope)) =
          .ok (fam ++ " host:".toList ++ Go.Net.ipString addr ++ " serv:".toList ++
            Go.Strconv.formatInt 80)) :=
  ⟨by decide, printSockAddr_internet _ (by decide)⟩

/-! ## Records with a short address -/

/-- The field `saddr` is printed by `printSockAddr` in every record but AVC and `NETFILTER_PKT`
ones, where `interpretField` adjusts its type. -/
theorem interpretField_saddr (env : Printers) {msgType : UInt16} (notAvc : msgType ≠ auditAvc)
    (notPkt : msgType ≠ auditNetfilterPkt) (fieldValue : List Char) (r : Record) :
    interpretField env.interpreters "saddr".toList fieldValue msgType r =
      printArm "sockaddr interpretation failed" (env.printSockAddr fieldValue) := by
  have lookedUp :
      (lookupName fieldLookupMap "saddr".toList).getD .typeUnclassified = .typeSockaddr := by
    decide +kernel
  have typed : fieldTypeOf "saddr".toList fieldValue msgType = .typeSockaddr := by
    unfold fieldTypeOf
    simpa [notAvc, notPkt] using lookedUp
  rw [interpretField, typed]
  rfl

/-- **A record with a short address is lost to the interpretation pass.**  Take a record of
any type but AVC and `NETFILTER_PKT` that `ParseAuditEvent` reads without its interpretation
pass, and whose `saddr` is the image of an address shorter than `sockaddr`, as every netlink
address is.  With the pass, `ParseAuditEvent` returns an error instead of an event, whatever the
other fields and whatever order the pass visits them in. -/
theorem parseAuditEvent_short_saddr_fails (env : Printers)
    (modelled : env.printSockAddr = printSockAddr env.headers) {msgType : UInt16}
    (notAvc : msgType ≠ auditAvc) (notPkt : msgType ≠ auditNetfilterPkt)
    (order : FieldMap.Order) {str : List Char} {ev : AuditEvent}
    (parsed : parseAuditEvent (interpretField env.interpreters) order str msgType false = .ok ev)
    {bytes : List UInt8} (saddr : ev.data.lookup "saddr".toList = some (Go.Hex.encodeUpper bytes))
    (short : bytes.length < 16) :
    ∃ e, parseAuditEvent (interpretField env.interpreters) order str msgType true = .error e := by
  obtain ⟨r, interpreted⟩ := parseAuditEvent_interpret_of_ok _ _ parsed
  have listed : (⟨"saddr".toList, Go.Hex.encodeUpper bytes⟩ : Σ _ : List Char, List Char) ∈
      order.visit ev.data :=
    (order.perm ev.data).mem_iff.mpr (AList.mem_lookup_iff.mp (Option.mem_def.mpr saddr))
  -- the pass fails at `saddr`, whatever it has rewritten before
  have refused : ∀ acc : FieldMap, ∃ e,
      (do
        let ivalue ← interpretField env.interpreters "saddr".toList (Go.Hex.encodeUpper bytes)
          msgType r
        pure (acc.insert "saddr".toList ivalue) : Except Go.Fault FieldMap) = .error e := by
    intro acc
    rw [interpretField_saddr env notAvc notPkt, modelled, printSockAddr_short env.headers short]
    exact ⟨_, rfl⟩
  obtain ⟨e, failed⟩ := Go.foldlM_error_of_mem (f := fun (acc : FieldMap) field => do
    let ivalue ← interpretField env.interpreters field.1 field.2 msgType r
    pure (acc.insert field.1 ivalue)) refused listed ev.data
  refine ⟨e, ?_⟩
  rw [interpreted, interpretAll, failed]
  rfl

/-- A `SOCKADDR` record (type 1306) of a netlink socket, whose twelve-byte address is that of
`sockaddr_nl` with port id 0. -/
theorem parseAuditEvent_short_saddr_fails_netlink :
    let headers : Headers :=
      ⟨[], [], [], [(16, "netlink".toList)], [], [], [], [], [], [], [], [], [], [], [], [], [], [],
        [], []⟩
    let env : Printers :=
      { base := ⟨fun _ => none, fun _ => "open".toList, "amd64".toList, fun _ value _ => .ok value,
        Char.toLower⟩
        headers := headers
        printSockAddr := printSockAddr headers
        mountLookUp := umountLookUp
        cloneOrder := cloneLookUp.written
        accessOrder := accessLookUp.written
        umountOrder := umountLookUp.written
        recvOrder := recvLookUp.written
        mmapOrder := mmapLookUp.written
        protOrder := protLookUp.written
        ipccmdOrder := ipccmdLookUp.written
        shmOrder := shmLookUp.written
        mountOrder := umountLookUp.written }
    let address : List UInt8 := [16, 0, 0, 0, 0, 0, 0, 0, 0, 0, 0, 0]
    ∃ e, parseAuditEvent (interpretField env.interpreters) .entries
      (recordText "1".toList "2".toList [⟨"saddr".toList, Go.Hex.encodeUpper address⟩] [] [] ++
        List.replicate 0 ' ') 1306 true = .error e := by
  intro headers env address
  obtain ⟨ev, parsed, -, -, whole, -⟩ := parseAuditEvent_recordText_append_spaces
    (interpretField env.interpreters) .entries "1".toList "2".toList 1306
    [⟨"saddr".toList, Go.Hex.encodeUpper address⟩] [] [] 0 (by decide) (by decide) (by decide)
    (by decide) (by decide) (by decide)
  have saddr : ev.data.lookup "saddr".toList = some (Go.Hex.encodeUpper address) := by
    rw [whole rfl]
    rfl
  exact parseAuditEvent_short_saddr_fails env rfl (by decide) (by decide) .entries parsed saddr
    (by decide)

end LibAudit
