import LibAudit.Go.Hex

/-!
# Internet addresses: `net.IP.String`

A four-byte address, and a sixteen-byte one that holds an IPv4 address (`::ffff:a.b.c.d`), is
printed as its four bytes in decimal, joined by dots.  Any other sixteen-byte address is printed
as its eight 16-bit groups in lower-case hexadecimal without leading zeros, joined by colons,
where the first of the longest runs of at least two zero groups is written `::`.

The search for that run is a loop with two accumulators (`zeroStart` and `zeroEnd`, as the
standard library names them); `longestZeroRun` is that loop as a fold over the groups'
indices.  The printing loop jumps over the run by setting its index to `zeroEnd`; `appendTo6`
writes what it produces, the groups before the run and the groups after it on either side of
`::`.

## Main definitions

* `Go.Net.to4` — `IP.To4`.
* `Go.Net.longestZeroRun` — where `IP.String` puts `::`.
* `Go.Net.ipString` — `IP.String` of a four- or sixteen-byte address.
-/

namespace Go

namespace Net

/-- `IP.To4`: a four-byte address, or the last four bytes of a sixteen-byte address of the form
`::ffff:a.b.c.d`; `nil` for any other address. -/
def to4 (ip : List UInt8) : Option (List UInt8) :=
  if ip.length = 4 then some ip
  else if ip.length = 16 ∧ (ip.take 10).all (· == 0) ∧ ip[10]? = some 0xff ∧ ip[11]? = some 0xff
  then some (ip.drop 12)
  else none

/-- The dotted form of an IPv4 address: each byte in decimal, as `ubtoa` writes it. -/
def dotted (p4 : List UInt8) : List Char :=
  ['.'].intercalate (p4.map fun b => Nat.toDigits 10 b.toNat)

/-- The 16-bit groups of an IPv6 address, each read big endian. -/
def groups : List UInt8 → List Nat
  | a :: b :: rest => (a.toNat * 256 + b.toNat) :: groups rest
  | _ => []

/-- The number of zero groups at the head: how far the inner loop `for j < 8 && g[j] == 0` goes
from where it starts. -/
def zeroRun : List Nat → Nat
  | g :: gs => if g = 0 then zeroRun gs + 1 else 0
  | [] => 0

/-- The search for the run of zero groups to cut:
`for i := 0; i < 8; i++ { …; if l := j - i; l >= 2 && l > zeroEnd-zeroStart { zeroStart = i;
zeroEnd = j } }`, starting from `zeroStart = zeroEnd = 255`.  Only a strictly longer run
replaces the one found, so the first of the longest runs is kept. -/
def longestZeroRun (gs : List Nat) : Nat × Nat :=
  (List.range gs.length).foldl (fun (zeroStart, zeroEnd) i =>
    let l := zeroRun (gs.drop i)
    if 2 ≤ l ∧ zeroEnd - zeroStart < l then (i, i + l) else (zeroStart, zeroEnd)) (255, 255)

/-- `Addr.appendTo6` without a zone: the groups in hexadecimal joined by colons, with `::` in
place of the groups from `zeroStart` to `zeroEnd` when a run was found. -/
def appendTo6 (gs : List Nat) : List Char :=
  let (zeroStart, zeroEnd) := longestZeroRun gs
  let hex := gs.map Hex.formatLower
  if zeroStart < gs.length then
    [':'].intercalate (hex.take zeroStart) ++ [':', ':'] ++ [':'].intercalate (hex.drop zeroEnd)
  else [':'].intercalate hex

/-- `IP.String` of an address of four or sixteen bytes, the only lengths `printSockAddr` gives
it; the `<nil>` and `?`-hexadecimal forms of other lengths are not modelled. -/
def ipString (ip : List UInt8) : List Char :=
  match to4 ip with
  | some p4 => dotted p4
  | none => appendTo6 (groups ip)

end Net

end Go
