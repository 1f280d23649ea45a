import LibAudit.Parser.Flags
import LibAudit.Rules.Print

/-!
# The printers of `interpret.go`

`interpretField` renders most field types with a printer of its own, and the printers of the
syscall arguments `a0` … `a3` call further printers chosen by the syscall.  Nearly all of them
parse the value with `strconv.ParseInt`, wrap a parse error in a text of their own, and then
write a name: from a lookup table of `headers`, from the bits of the value, or from a constant.

## Main definitions

* `parseArgument` — the parse every printer but a few starts with.
* `Headers` — the lookup tables of `headers` the printers read by key.
* `printLookup` — the shape of the printers that look the value up in one table, and its
  members `printPtrace`, `printPrctlOpt`, `printSocketDomain`, `printSocketCall`,
  `printRLimit`, `printIpcCall`, `printFcntlCmd`, `printSocketType`, `printEpollCtl`,
  `printIoctlReq`, `printIPOptName`, `printIP6OptName`, `printPktOptName`, `printSockOptName`,
  `printNFProto`, `printICMP`, `printList` and `printCapabilities`.
* The printers with bodies of their own: `printExit`, `printPerm`, `printMode`,
  `printModeShort`, `printPromiscuous`, `printSuccess`, `printSignals`, `printDirFd`,
  `printClockID`, `printSched`, `printSockOptLevel`, `printUDPOptName`, `printSeek`,
  `printSeccompCode`, `printSession`, `printMount`.
* `printAsIs` — the stubs `printGID`, `printPersonality`, `printOpenFlags`, `printSocketProto`
  and `printAddr`.

## Main statements

* `printLookup_noPanic`, `printSched_noPanic`, `printSeccompCode_noPanic` and the lemmas beside
  them — no printer panics: each returns a text or an error for every value.

## Design notes

The tables whose keys are constants of the `syscall` package, and those no statement reads the
texts of, are fields of `Headers`: what is proved holds for every table.  `SchedLookup` and
`ClockLookup` are transcribed, since `printSched` and `printClockID` test their keys.  The other constants of `syscall` are those of Linux on amd64, the one target the
printers of the syscall arguments consider.

A Go map `m[k]` is the empty string for a key the map lacks (`Go.mapIndex`); the printers that
index a table without testing the key first write that empty string.
-/

namespace LibAudit

/-! ## Parsing -/

/-- `ival, err := strconv.ParseInt(fieldValue, base, 64)` and
`if err != nil { return "", errors.Wrap(err, failure) }`. -/
def parseArgument (failure : String) (base : Nat) (fieldValue : List Char) :
    Except Go.Fault Int64 :=
  match Go.Strconv.parseInt fieldValue base 64 with
  | some ival => .ok ival.toInt64
  | none => .error (Go.Fault.wrap failure (.error (Go.Strconv.parseIntError fieldValue base 64)))

theorem parseArgument_of_parsed (failure : String) {base : Nat} {fieldValue : List Char}
    {ival : Int} (parsed : Go.Strconv.parseInt fieldValue base 64 = some ival) :
    parseArgument failure base fieldValue = .ok ival.toInt64 := by
  rw [parseArgument, parsed]

theorem parseArgument_of_not_parsed (failure : String) {base : Nat} {fieldValue : List Char}
    (refused : Go.Strconv.parseInt fieldValue base 64 = none) :
    parseArgument failure base fieldValue =
      .error (.error (failure ++ ": " ++ Go.Strconv.parseIntError fieldValue base 64)) := by
  rw [parseArgument, refused]
  rfl

@[simp] theorem parseArgument_noPanic (failure : String) (base : Nat) (fieldValue : List Char) :
    Go.NoPanic (parseArgument failure base fieldValue) := by
  unfold parseArgument
  split <;> simp

/-- The flag printers parse as the other printers do. -/
theorem parseFlagWord_eq_parseArgument (failure : String) (fieldValue : List Char) :
    parseFlagWord failure fieldValue = parseArgument failure 16 fieldValue := rfl

/-- A computation that parses first and then cannot panic does not panic. -/
theorem noPanic_parseArgument_bind {β : Type} (failure : String) (base : Nat)
    (fieldValue : List Char) {f : Int64 → Except Go.Fault β} (rest : ∀ ival, Go.NoPanic (f ival)) :
    Go.NoPanic (parseArgument failure base fieldValue >>= f) :=
  (parseArgument_noPanic failure base fieldValue).bind fun ival _ => rest ival

/-! ## Lookup tables -/

/-- The lookup tables of `headers` that the printers read by key, each a `map[int]string` given
by its entries. -/
structure Headers where
  capabLookup : List (Int64 × List Char)
  ptraceLookup : List (Int64 × List Char)
  prctlLookup : List (Int64 × List Char)
  socketFamLookup : List (Int64 × List Char)
  sockLookup : List (Int64 × List Char)
  rlimitLookup : List (Int64 × List Char)
  ipccallLookup : List (Int64 × List Char)
  fcntlLookup : List (Int64 × List Char)
  sockTypeLookup : List (Int64 × List Char)
  epollLookup : List (Int64 × List Char)
  ioctlLookup : List (Int64 × List Char)
  sockOptLookup : List (Int64 × List Char)
  ipOptLookup : List (Int64 × List Char)
  ip6OptLookup : List (Int64 × List Char)
  pktOptLookup : List (Int64 × List Char)
  sockOptNameLookup : List (Int64 × List Char)
  seekLookup : List (Int64 × List Char)
  nfProtoLookup : List (Int64 × List Char)
  icmpLookup : List (Int64 × List Char)
  seccompCodeLookUp : List (Int64 × List Char)

/-- `headers.SchedLookup`. -/
def schedLookup : List (Int64 × List Char) :=
  [(0, "SCHED_OTHER".toList), (1, "SCHED_FIFO".toList), (2, "SCHED_RR".toList),
    (3, "SCHED_BATCH".toList), (5, "SCHED_IDLE".toList), (6, "SCHED_DEADLINE".toList)]

/-- `headers.ClockLookup`. -/
def clockLookup : List (Int64 × List Char) :=
  [(0, "CLOCK_REALTIME".toList), (1, "CLOCK_MONOTONIC".toList),
    (2, "CLOCK_PROCESS_CPUTIME_ID".toList), (3, "CLOCK_THREAD_CPUTIME_ID".toList),
    (4, "CLOCK_MONOTONIC_RAW".toList), (5, "CLOCK_REALTIME_COARSE".toList),
    (6, "CLOCK_MONOTONIC_COARSE".toList), (7, "CLOCK_BOOTTIME".toList),
    (8, "CLOCK_REALTIME_ALARM".toList), (9, "CLOCK_BOOTTIME_ALARM".toList),
    (10, "CLOCK_SGI_CYCLE".toList), (11, "CLOCK_TAI".toList)]

/-- A table with `int` keys, as a printer indexes it with an `int64` value. -/
def int64Keys (table : List (Nat × List Char)) : List (Int64 × List Char) :=
  table.map fun entry => (Int64.ofNat entry.1, entry.2)

/-! ## Printers that look the value up -/

/-- The shape of the printers that look the parsed value up in one table: its name, or
`unknown ival` when the table has none.  The members write their own text for an unknown
value, most of them from the value as it was given. -/
def printLookup (failure : String) (base : Nat) (table : List (Int64 × List Char))
    (unknown : Int64 → List Char) (fieldValue : List Char) : Except Go.Fault (List Char) := do
  let ival ← parseArgument failure base fieldValue
  match table.lookup ival with
  | some name => return name
  | none => return unknown ival

@[simp] theorem printLookup_noPanic (failure : String) (base : Nat)
    (table : List (Int64 × List Char)) (unknown : Int64 → List Char) (fieldValue : List Char) :
    Go.NoPanic (printLookup failure base table unknown fieldValue) := by
  unfold printLookup
  exact noPanic_parseArgument_bind _ _ _ fun _ => by split <;> exact Go.noPanic_pure _

/-- What a member of the family returns for a value that parses: the name the table has for
it, or the member's text for an unknown value. -/
theorem printLookup_of_parsed (failure : String) {base : Nat} (table : List (Int64 × List Char))
    (unknown : Int64 → List Char) {fieldValue : List Char} {ival : Int}
    (parsed : Go.Strconv.parseInt fieldValue base 64 = some ival) :
    printLookup failure base table unknown fieldValue =
      .ok ((table.lookup ival.toInt64).getD (unknown ival.toInt64)) := by
  rw [printLookup, parseArgument_of_parsed failure parsed, Go.ok_bind]
  cases table.lookup ival.toInt64 <;> rfl

/-- `printPtrace(fieldValue)`. -/
def printPtrace (headers : Headers) (fieldValue : List Char) : Except Go.Fault (List Char) :=
  printLookup "ptrace parsing failed" 16 headers.ptraceLookup
    (fun _ => "unknown ptrace (0x".toList ++ fieldValue ++ ")".toList) fieldValue

/-- `printPrctlOpt(fieldValue)`. -/
def printPrctlOpt (headers : Headers) (fieldValue : List Char) : Except Go.Fault (List Char) :=
  printLookup "prctl parsing failed" 16 headers.prctlLookup
    (fun _ => "unknown prctl option (0x".toList ++ fieldValue ++ ")".toList) fieldValue

/-- `printSocketDomain(fieldValue)`. -/
def printSocketDomain (headers : Headers) (fieldValue : List Char) :
    Except Go.Fault (List Char) :=
  printLookup "socket domain parsing failed" 16 headers.socketFamLookup
    (fun _ => "unknown family (0x".toList ++ fieldValue ++ ")".toList) fieldValue

/-- `printSocketCall(fieldValue, base)`: the value is parsed in base 16 whatever `base` is. -/
def printSocketCall (headers : Headers) (fieldValue : List Char) (_base : Nat) :
    Except Go.Fault (List Char) :=
  printLookup "socketcall parsing failed" 16 headers.sockLookup
    (fun _ => "unknown socketcall (0x".toList ++ fieldValue ++ ")".toList) fieldValue

/-- `printRLimit(fieldValue)`. -/
def printRLimit (headers : Headers) (fieldValue : List Char) : Except Go.Fault (List Char) :=
  printLookup "rlimit parsing failed" 16 headers.rlimitLookup
    (fun _ => "unknown rlimit (0x".toList ++ fieldValue ++ ")".toList) fieldValue

/-- `printIpcCall(fieldValue, base)`: the value is parsed in base 16 whatever `base` is. -/
def printIpcCall (headers : Headers) (fieldValue : List Char) (_base : Nat) :
    Except Go.Fault (List Char) :=
  printLookup "ipccall parsing failed" 16 headers.ipccallLookup
    (fun _ => "unknown ipccall (".toList ++ fieldValue ++ ")".toList) fieldValue

/-- `printFcntlCmd(fieldValue)`: an unknown command in decimal. -/
def printFcntlCmd (headers : Headers) (fieldValue : List Char) : Except Go.Fault (List Char) :=
  printLookup "fcntl command parsing failed" 16 headers.fcntlLookup
    (fun ival => "unknown fcntl command(".toList ++ Go.Strconv.formatInt ival.toInt ++ ")".toList)
    fieldValue

/-- `printSocketType(fieldValue)`: an unknown type in decimal. -/
def printSocketType (headers : Headers) (fieldValue : List Char) : Except Go.Fault (List Char) :=
  printLookup "socket type parsing failed" 16 headers.sockTypeLookup
    (fun ival => "unknown socket type(".toList ++ Go.Strconv.formatInt ival.toInt ++ ")".toList)
    fieldValue

/-- `printEpollCtl(fieldValue)`: an unknown operation in decimal. -/
def printEpollCtl (headers : Headers) (fieldValue : List Char) : Except Go.Fault (List Char) :=
  printLookup "epoll parsing failed" 16 headers.epollLookup
    (fun ival =>
      "unknown epoll_ctl operation (".toList ++ Go.Strconv.formatInt ival.toInt ++ ")".toList)
    fieldValue

/-- `printIoctlReq(fieldValue)`: an unknown request as `0x` and the value. -/
def printIoctlReq (headers : Headers) (fieldValue : List Char) : Except Go.Fault (List Char) :=
  printLookup "ioctl req parsing failed" 16 headers.ioctlLookup
    (fun _ => "0x".toList ++ fieldValue) fieldValue

/-- `printIPOptName(fieldValue)`. -/
def printIPOptName (headers : Headers) (fieldValue : List Char) : Except Go.Fault (List Char) :=
  printLookup "ip opt parsing failed" 16 headers.ipOptLookup
    (fun _ => "unknown ipopt name (0x".toList ++ fieldValue ++ ")".toList) fieldValue

/-- `printIP6OptName(fieldValue)`. -/
def printIP6OptName (headers : Headers) (fieldValue : List Char) : Except Go.Fault (List Char) :=
  printLookup "ip6 opt parsing failed" 16 headers.ip6OptLookup
    (fun _ => "unknown ip6opt name (0x".toList ++ fieldValue ++ ")".toList) fieldValue

/-- `printPktOptName(fieldValue)`. -/
def printPktOptName (headers : Headers) (fieldValue : List Char) : Except Go.Fault (List Char) :=
  printLookup "pkt opt parsing failed" 16 headers.pktOptLookup
    (fun _ => "unknown pktopt name (0x".toList ++ fieldValue ++ ")".toList) fieldValue

/-- `printSockOptName(fieldValue)`. -/
def printSockOptName (headers : Headers) (fieldValue : List Char) :
    Except Go.Fault (List Char) :=
  printLookup "sock optname parsing failed" 16 headers.sockOptNameLookup
    (fun _ => "unknown sockopt name (0x".toList ++ fieldValue ++ ")".toList) fieldValue

/-- `printNFProto(fieldValue)`: a decimal value. -/
def printNFProto (headers : Headers) (fieldValue : List Char) : Except Go.Fault (List Char) :=
  printLookup "netfilter protocol parsing failed" 10 headers.nfProtoLookup
    (fun _ => "unknown netfilter protocol (".toList ++ fieldValue ++ ")".toList) fieldValue

/-- `printICMP(fieldValue)`: a decimal value. -/
def printICMP (headers : Headers) (fieldValue : List Char) : Except Go.Fault (List Char) :=
  printLookup "icmp type parsing failed" 10 headers.icmpLookup
    (fun _ => "unknown icmp type (".toList ++ fieldValue ++ ")".toList) fieldValue

/-- `printList(fieldValue)`: the name of a filter list of `flagLookup`, for a decimal value. -/
def printList (fieldValue : List Char) : Except Go.Fault (List Char) :=
  printLookup "list parsing failed" 10
    (flagLookup.map fun entry => (Int64.ofNat entry.1, entry.2.toList))
    (fun _ => "unknown list (".toList ++ fieldValue ++ ")".toList) fieldValue

/-- `printCapabilities(fieldValue, base)`: an unknown capability in decimal, after `0x` when the
base is 16. -/
def printCapabilities (headers : Headers) (fieldValue : List Char) (base : Nat) :
    Except Go.Fault (List Char) :=
  printLookup "capability parsing failed" base headers.capabLookup
    (fun ival =>
      if base = 16 then
        "unknown capability(0x".toList ++ Go.Strconv.formatInt ival.toInt ++ ")".toList
      else "unknown capability(".toList ++ Go.Strconv.formatInt ival.toInt ++ ")".toList)
    fieldValue

/-! ## Printers of the value's bits -/

/-- `printExit(fieldValue)`: `success` for 0, and the value itself otherwise. -/
def printExit (fieldValue : List Char) : Except Go.Fault (List Char) := do
  let ival ← parseArgument "exit parsing failed" 10 fieldValue
  if ival = 0 then return "success".toList
  return fieldValue

/-- One test of `printPerm`: the name of a permission bit the value has, after a `,` when a name
is already written.  The first test of the source, for `read`, has no `,` to write. -/
def permStep (ival : Int64) (name : List Char) (perm : UInt32 × List Char) : List Char :=
  if 0 < ival &&& Int64.ofNat perm.1.toNat then
    (if 0 < name.length then name ++ [','] else name) ++ perm.2
  else name

/-- `printPerm(fieldValue)`: the names of the permission bits, in the order `read`, `write`,
`exec`, `attr`; a value of 0 stands for all four. -/
def printPerm (fieldValue : List Char) : Except Go.Fault (List Char) := do
  let ival ← parseArgument "perm parsing failed" 10 fieldValue
  let ival := if ival = 0 then 0x0F else ival
  return [(auditPermRead, "read".toList), (auditPermWrite, "write".toList),
    (auditPermExec, "exec".toList), (auditPermAttr, "attr".toList)].foldl (permStep ival) []

/-- `fmt.Sprintf("%03o", n)`: the octal digits of `n`, at least three. -/
def octalDigits (n : Nat) : List Char := List.leftpad 3 '0' (Nat.toDigits 8 n)

/-- `syscall.S_IFMT` and the file types it masks, on Linux. -/
def sIFMT : Int64 := 0o170000
def sIFSOCK : Int64 := 0o140000
def sIFLNK : Int64 := 0o120000
def sIFREG : Int64 := 0o100000
def sIFBLK : Int64 := 0o060000
def sIFDIR : Int64 := 0o040000
def sIFCHR : Int64 := 0o020000
def sIFIFO : Int64 := 0o010000

/-- `printMode(fieldValue, base)`: the file type, or its number in octal when it has no name;
then `,suid`, `,sgid` and `,sticky` for the special bits; then the permission bits in octal,
written right after what comes before them. -/
def printMode (fieldValue : List Char) (base : Nat) : Except Go.Fault (List Char) := do
  let ival ← parseArgument "mode parsing failed" base fieldValue
  let firstIFMTbit := sIFMT &&& ~~~(sIFMT - 1)
  let name :=
    if sIFMT &&& ival = sIFSOCK then "socket".toList
    else if sIFMT &&& ival = sIFBLK then "block".toList
    else if sIFMT &&& ival = sIFREG then "file".toList
    else if sIFMT &&& ival = sIFDIR then "dir".toList
    else if sIFMT &&& ival = sIFCHR then "character".toList
    else if sIFMT &&& ival = sIFIFO then "fifo".toList
    else if sIFMT &&& ival = sIFLNK then "link".toList
    else octalDigits ((ival &&& sIFMT) / firstIFMTbit).toInt.toNat
  let name := if 0 < ival &&& 0o4000 then name ++ ",suid".toList else name
  let name := if 0 < ival &&& 0o2000 then name ++ ",sgid".toList else name
  let name := if 0 < ival &&& 0o1000 then name ++ ",sticky".toList else name
  return name ++ octalDigits (0o777 &&& ival).toInt.toNat

/-- `printModeShort(fieldValue, base)`. -/
def printModeShort (fieldValue : List Char) (base : Nat) : Except Go.Fault (List Char) := do
  let ival ← parseArgument "short mode parsing failed" base fieldValue
  return printModeShortInt ival

/-- `printPromiscuous(fieldValue)`: `no` for 0, `yes` otherwise. -/
def printPromiscuous (fieldValue : List Char) : Except Go.Fault (List Char) := do
  let ival ← parseArgument "promiscuous parsing failed" 10 fieldValue
  if ival = 0 then return "no".toList
  return "yes".toList

/-- `printSuccess(fieldValue)`: a value that does not parse is kept as it is.  The source names
its cases by the constants `sUnset = -1`, `sFailed = iota`, `sSuccess` of one `const` block, in
which `iota` is 1 on the line of `sFailed`: `sFailed` is 1 and `sSuccess` is 2. -/
def printSuccess (fieldValue : List Char) : List Char :=
  match Go.Strconv.parseInt fieldValue 10 64 with
  | none => fieldValue
  | some ival =>
    if ival = 2 then "yes".toList
    else if ival = 1 then "no".toList
    else "unset".toList

/-- `printSignals(fieldValue, base)`: `SignalLookup` of a value below 31, the empty string for a
negative one, and the value as unknown from 31 on. -/
def printSignals (fieldValue : List Char) (base : Nat) : Except Go.Fault (List Char) := do
  let ival ← parseArgument "signal parsing failed" base fieldValue
  if ival < 31 then return Go.mapIndex (int64Keys signalLookup) ival
  if base = 16 then return "unknown signal (0x".toList ++ fieldValue ++ ")".toList
  return "unknown signal (".toList ++ fieldValue ++ ")".toList

/-- `printDirFd(fieldValue)`. -/
def printDirFd (fieldValue : List Char) : List Char :=
  if fieldValue = "-100".toList then "AT_FDWD".toList else "0x".toList ++ fieldValue

/-- `printClockID(fieldValue)`: `ClockLookup` of a value below 7, and the value as unknown
from 7 on. -/
def printClockID (fieldValue : List Char) : Except Go.Fault (List Char) := do
  let ival ← parseArgument "clock ID parsing failed" 16 fieldValue
  if ival < 7 then return Go.mapIndex clockLookup ival
  return "unknown clk_id (0x".toList ++ fieldValue ++ ")".toList

/-- `printSched(fieldValue)`: the policy in the low four bits must be known; the name is then
looked up for the whole value, with `|SCHED_RESET_ON_FORK` after it when that bit is set. -/
def printSched (fieldValue : List Char) : Except Go.Fault (List Char) := do
  let ival ← parseArgument "sched parsing failed" 16 fieldValue
  if (schedLookup.lookup (ival &&& 0x0F)).isNone then
    return "unknown scheduler policy (0x".toList ++ fieldValue ++ ")".toList
  -- `schedResetOnFork`
  if 0 < ival &&& 0x40000000 then
    return Go.mapIndex schedLookup ival ++ "|SCHED_RESET_ON_FORK".toList
  return Go.mapIndex schedLookup ival

/-- `printSockOptLevel(fieldValue)`: `SOL_SOCKET` for `syscall.SOL_SOCKET`, then
`SockOptLookup`. -/
def printSockOptLevel (headers : Headers) (fieldValue : List Char) :
    Except Go.Fault (List Char) := do
  let ival ← parseArgument "sock opt parsing failed" 16 fieldValue
  if ival = 1 then return "SOL_SOCKET".toList
  match headers.sockOptLookup.lookup ival with
  | some name => return name
  | none => return "unknown sockopt level (0x".toList ++ fieldValue ++ ")".toList

/-- `printUDPOptName(fieldValue)`. -/
def printUDPOptName (fieldValue : List Char) : Except Go.Fault (List Char) := do
  let ival ← parseArgument "udp opt parsing failed" 16 fieldValue
  if ival = 1 then return "UDP_CORK".toList
  else if ival = 100 then return "UDP_ENCAP".toList
  return "unknown udpopt name (0x".toList ++ fieldValue ++ ")".toList

/-- `printSeek(fieldValue)`: `SeekLookup` of the low byte. -/
def printSeek (headers : Headers) (fieldValue : List Char) : Except Go.Fault (List Char) := do
  let ival ← parseArgument "seek parsing failed" 16 fieldValue
  match headers.seekLookup.lookup (ival &&& 0xFF) with
  | some name => return name
  | none => return "unknown whence(0x".toList ++ fieldValue ++ ")".toList

/-- `printSeccompCode(fieldValue)`: a leading `0x` is cut off, and the action bits
`0x7fff0000` are looked up. -/
def printSeccompCode (headers : Headers) (fieldValue : List Char) :
    Except Go.Fault (List Char) := do
  let fieldValue ←
    if "0x".toList.isPrefixOf fieldValue then Go.liftPanic (Go.sliceFrom fieldValue 2)
    else pure fieldValue
  let ival ← parseArgument "seccomp code parsing failed" 16 fieldValue
  match headers.seccompCodeLookUp.lookup (ival &&& 0x7fff0000) with
  | some name => return name
  | none => return "unknown seccomp code (".toList ++ fieldValue ++ ")".toList

/-- `printSession(fieldValue)`: `unset` for the session id `(uint32)-1`. -/
def printSession (fieldValue : List Char) : List Char :=
  if fieldValue = "4294967295".toList then "unset".toList else fieldValue

/-- `printMount(fieldValue)`: the flags of `MountLookUp` the value sets.  The table's keys are
the `MS_*` flags of `syscall`, and it is given with the order `range` visits it in. -/
def printMount (mountLookUp : FlagTable) (order : mountLookUp.Order) (fieldValue : List Char) :
    Except Go.Fault (List Char) :=
  printFlagWord "mount parsing failed" order fieldValue

/-- The stubs of the source that return their value as it is. -/
def printAsIs (fieldValue : List Char) : List Char := fieldValue

/-- `printGID(fieldValue)`. -/
def printGID (fieldValue : List Char) : List Char := printAsIs fieldValue

/-- `printPersonality(fieldValue)`. -/
def printPersonality (fieldValue : List Char) : List Char := printAsIs fieldValue

/-- `printOpenFlags(fieldValue)`. -/
def printOpenFlags (fieldValue : List Char) : List Char := printAsIs fieldValue

/-- `printSocketProto(fieldValue)`. -/
def printSocketProto (fieldValue : List Char) : List Char := printAsIs fieldValue

/-- `printAddr(fieldValue)`. -/
def printAddr (fieldValue : List Char) : List Char := printAsIs fieldValue

/-! ## No printer panics -/

section NoPanic

variable (headers : Headers) (fieldValue : List Char) (base : Nat)

-- Each body after the parse is a choice among returns; `split` takes the choices apart, so that
-- no `simp` has to evaluate the constant tables and masks in the returned texts.
@[simp] theorem printExit_noPanic : Go.NoPanic (printExit fieldValue) :=
  noPanic_parseArgument_bind _ _ _ fun _ => by split <;> exact Go.noPanic_pure _

@[simp] theorem printPerm_noPanic : Go.NoPanic (printPerm fieldValue) :=
  noPanic_parseArgument_bind _ _ _ fun _ => Go.noPanic_pure _

@[simp] theorem printMode_noPanic : Go.NoPanic (printMode fieldValue base) :=
  noPanic_parseArgument_bind _ _ _ fun _ => Go.noPanic_pure _

@[simp] theorem printModeShort_noPanic : Go.NoPanic (printModeShort fieldValue base) :=
  noPanic_parseArgument_bind _ _ _ fun _ => Go.noPanic_pure _

@[simp] theorem printPromiscuous_noPanic : Go.NoPanic (printPromiscuous fieldValue) :=
  noPanic_parseArgument_bind _ _ _ fun _ => by split <;> exact Go.noPanic_pure _

@[simp] theorem printSignals_noPanic : Go.NoPanic (printSignals fieldValue base) :=
  noPanic_parseArgument_bind _ _ _ fun _ => by split_ifs <;> exact Go.noPanic_pure _

@[simp] theorem printClockID_noPanic : Go.NoPanic (printClockID fieldValue) :=
  noPanic_parseArgument_bind _ _ _ fun _ => by split <;> exact Go.noPanic_pure _

@[simp] theorem printSched_noPanic : Go.NoPanic (printSched fieldValue) :=
  noPanic_parseArgument_bind _ _ _ fun _ => by split_ifs <;> exact Go.noPanic_pure _

@[simp] theorem printSockOptLevel_noPanic : Go.NoPanic (printSockOptLevel headers fieldValue) :=
  noPanic_parseArgument_bind _ _ _ fun _ => by
    split
    · exact Go.noPanic_pure _
    · split <;> exact Go.noPanic_pure _

@[simp] theorem printUDPOptName_noPanic : Go.NoPanic (printUDPOptName fieldValue) :=
  noPanic_parseArgument_bind _ _ _ fun _ => by split_ifs <;> exact Go.noPanic_pure _

@[simp] theorem printSeek_noPanic : Go.NoPanic (printSeek headers fieldValue) :=
  noPanic_parseArgument_bind _ _ _ fun _ => by split <;> exact Go.noPanic_pure _

/-- The cut of `0x` is in range: the value starts with it. -/
@[simp] theorem printSeccompCode_noPanic : Go.NoPanic (printSeccompCode headers fieldValue) := by
  unfold printSeccompCode
  dsimp only
  split
  · next prefixed =>
    have long := (List.isPrefixOf_iff_prefix.mp prefixed).length_le
    refine Go.NoPanic.bind ?_ fun _ _ => ?_
    · rw [Go.sliceFrom_of_le (by simpa using long)]
      exact Go.noPanic_ok _
    · exact noPanic_parseArgument_bind _ _ _ fun _ => by split <;> exact Go.noPanic_pure _
  · refine Go.NoPanic.bind (Go.noPanic_pure _) fun _ _ => ?_
    exact noPanic_parseArgument_bind _ _ _ fun _ => by split <;> exact Go.noPanic_pure _

/-- The flag printers of `Parser.Flags` parse, then write names: they do not panic. -/
@[simp] theorem printFlagWord_noPanic (failure : String) {table : FlagTable}
    (order : table.Order) : Go.NoPanic (printFlagWord failure order fieldValue) :=
  noPanic_parseArgument_bind _ _ _ fun _ => by
    dsimp only
    split_ifs <;> exact Go.noPanic_pure _

@[simp] theorem printAccess_noPanic (order : accessLookUp.Order) :
    Go.NoPanic (printAccess order fieldValue) :=
  noPanic_parseArgument_bind _ _ _ fun _ => by
    dsimp only
    split_ifs <;> exact Go.noPanic_pure _

@[simp] theorem printMmap_noPanic (order : mmapLookUp.Order) :
    Go.NoPanic (printMmap order fieldValue) :=
  noPanic_parseArgument_bind _ _ _ fun _ => by
    dsimp only
    split_ifs <;> exact Go.noPanic_pure _

@[simp] theorem printCloneFlags_noPanic (order : cloneLookUp.Order) :
    Go.NoPanic (printCloneFlags order fieldValue) :=
  noPanic_parseArgument_bind _ _ _ fun _ => by
    dsimp only
    split_ifs <;> exact Go.noPanic_pure _

@[simp] theorem printProt_noPanic (order : protLookUp.Order) (isMmap : Int) :
    Go.NoPanic (printProt order fieldValue isMmap) :=
  noPanic_parseArgument_bind _ _ _ fun _ => by
    dsimp only
    split_ifs <;> exact Go.noPanic_pure _

@[simp] theorem printSHMFlags_noPanic (ipcOrder : ipccmdLookUp.Order)
    (shmOrder : shmLookUp.Order) : Go.NoPanic (printSHMFlags ipcOrder shmOrder fieldValue) :=
  noPanic_parseArgument_bind _ _ _ fun _ => by
    dsimp only
    split_ifs <;> exact Go.noPanic_pure _

end NoPanic

end LibAudit
