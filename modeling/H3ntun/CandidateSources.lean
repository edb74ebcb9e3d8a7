import H3ntun.Foundation.OrderedDict
import H3ntun.Foundation.Sampling
import H3ntun.Ipv4
import H3ntun.JsonValue
import Mathlib.Data.List.Sort

namespace H3ntun

/-!
# Candidate sources

Expansion of a network, a range, a file or a pool to the list of its IPv4
addresses.  `random.sample` is a parameter that returns distinct positions,
and so is the test whether a text is an IPv6 network, which only decides
between two texts of an error.
-/

/-- `MAX_CANDIDATES` -/
def maxCandidates : Nat := 4096

/-- `DEFAULT_CANDIDATE_POOLS` -/
def defaultCandidatePools : List (String × List String) :=
  [("loopback", ["127.0.0.1", "127.0.0.2"])]

/-- `random.sample`, by the positions it draws. -/
structure RandomSample where
  positions : (size count : Nat) → List Nat
  isSample :
    ∀ size count, count ≤ size →
      Sampling.IsSample size count (positions size count)

/-- An IPv4 network as it was written; the host bits may be set. -/
structure IPv4Network where
  address : IPv4Address
  prefixlen : Nat
  atMost : prefixlen ≤ 32

namespace IPv4Network

/-- `network.num_addresses` -/
def numAddresses (network : IPv4Network) : Nat :=
  2 ^ (32 - network.prefixlen)

/-- `int(network.network_address)`, the host bits cleared. -/
def networkAddress (network : IPv4Network) : Nat :=
  network.address.number / network.numAddresses * network.numAddresses

/-- The prefix length of a mask, given as a number. -/
def prefixOfMask? (mask : Nat) : Option Nat :=
  (List.range 33).find? fun prefixlen =>
    mask = 2 ^ 32 - 2 ^ (32 - prefixlen)

/-- What may stand after the slash: a length, a netmask or a host mask. -/
def readPrefix? (text : List Char) : Option Nat :=
  if text ≠ [] ∧ text.all Char.isDigit then
    Numerals.readDigits 10 0 false text
  else
    match IPv4Address.ofText? (String.ofList text) with
    | some mask =>
        match prefixOfMask? mask.number with
        | some prefixlen => some prefixlen
        | none => prefixOfMask? (2 ^ 32 - 1 - mask.number)
    | none => none

/-- `ip_network(text, strict=False)`, where it is an IPv4 network. -/
def ofText? (text : String) : Option IPv4Network :=
  let read (address mask : List Char) : Option IPv4Network :=
    match IPv4Address.ofText? (String.ofList address), readPrefix? mask with
    | some address, some prefixlen =>
        if atMost : prefixlen ≤ 32 then
          some { address, prefixlen, atMost }
        else
          none
    | _, _ => none
  match text.toList.splitOn '/' with
  | [address] => read address ['3', '2']
  | [address, mask] => read address mask
  | _ => none

end IPv4Network

/-- White space `str.strip` removes. -/
def isStripped (char : Char) : Bool :=
  isSpace char ∨ (28 ≤ char.toNat ∧ char.toNat ≤ 31) ∨
    char.toNat ∈ wideSpaces

/-- `text.strip()` -/
def strip (text : List Char) : List Char :=
  ((text.dropWhile isStripped).reverse.dropWhile isStripped).reverse

/-- Characters `str.splitlines` ends a line at. -/
def lineEnds : List Nat :=
  [0xa, 0xb, 0xc, 0xd, 0x1c, 0x1d, 0x1e, 0x85, 0x2028, 0x2029]

/-- `text.splitlines()`, with the line read so far in reverse. -/
def splitLines : List Char → List Char → List (List Char)
  | current, [] => if current = [] then [] else [current.reverse]
  | current, '\r' :: '\n' :: rest => current.reverse :: splitLines [] rest
  | current, char :: rest =>
      if char.toNat ∈ lineEnds then
        current.reverse :: splitLines [] rest
      else
        splitLines (char :: current) rest

/-- The lines of a candidate file that name an address. -/
def rawValues (contents : List Char) : List (List Char) :=
  ((splitLines [] contents).filter fun line =>
    strip line ≠ [] ∧ (line.dropWhile isStripped).head? ≠ some '#').map
    strip

/-- `_sample_integer_range` -/
def sampleIntegerRange
    (random : RandomSample)
    (first count : Nat)
    (limit : Option Int) :
    Except Failure (List Nat) :=
  let whole : Except Failure (List Nat) :=
    if count > maxCandidates then
      .error (.valueError s!"candidate set contains {count} addresses; use --sample up to 4096")
    else
      .ok ((List.range count).map (first + ·))
  if count = 0 then
    .ok []
  else
    match limit with
    | none => whole
    | some limit =>
        if limit ≤ 0 ∨ limit > maxCandidates then
          .error (.valueError "sample limit must be within 1..4096")
        else if (count : Int) > limit then
          .ok (((random.positions count limit.toNat).map
            (first + ·)).insertionSort (· ≤ ·))
        else
          whole

/-- `[str(ipaddress.IPv4Address(number)) for number in numbers]` -/
def textsOfNumbers (numbers : List Nat) : Except Failure (List String) :=
  numbers.mapM fun number =>
    (IPv4Address.ofNumber number).map IPv4Address.text

/-- The values of a network. -/
def expandCidr
    (random : RandomSample)
    (isIpv6Network : String → Bool)
    (cidr : String)
    (limit : Option Int) :
    Except Failure (List String) :=
  match IPv4Network.ofText? cidr with
  | none =>
      if isIpv6Network cidr then
        .error (.valueError "only IPv4 candidates are supported")
      else
        .error (.valueError "not an IPv4 or IPv6 network")
  | some network =>
      if network.prefixlen < 31 then do
        let numbers ← sampleIntegerRange random
          (network.networkAddress + 1) (network.numAddresses - 2) limit
        textsOfNumbers numbers
      else do
        let numbers ← sampleIntegerRange random network.networkAddress
          network.numAddresses limit
        textsOfNumbers numbers

/-- The two ends of a range as they are written. -/
def rangeTexts (ipRange : String) : List Char × List Char :=
  let text := ipRange.toList
  if '-' ∈ text then
    (text.takeWhile (· ≠ '-'), (text.dropWhile (· ≠ '-')).drop 1)
  else
    (text, text)

/-- The values of a range. -/
def expandRange
    (random : RandomSample)
    (ipRange : String)
    (limit : Option Int) :
    Except Failure (List String) := do
  let ends := rangeTexts ipRange
  let start ← IPv4Address.ofText (String.ofList (strip ends.1))
  let stop ← IPv4Address.ofText (String.ofList (strip ends.2))
  let bounds :=
    if start.number > stop.number then
      (stop.number, start.number)
    else
      (start.number, stop.number)
  let numbers ← sampleIntegerRange random bounds.1
    (bounds.2 - bounds.1 + 1) limit
  textsOfNumbers numbers

/-- The addresses a candidate file names. -/
def readCandidates (contents : List Char) :
    Except Failure (List String) :=
  let lines := rawValues contents
  if lines.length > maxCandidates then
    .error (.valueError "candidate file exceeds 4096 entries")
  else
    lines.mapM fun line =>
      (IPv4Address.ofText (String.ofList line)).map IPv4Address.text

/-- The values of a file, by the outcome of reading it. -/
def expandFile
    (random : RandomSample)
    (file : Except Failure (List Char))
    (limit : Option Int) :
    Except Failure (List String) := do
  let contents ← file
  let values ← readCandidates contents
  match limit with
  | none => return values
  | some limit =>
      if ¬ (1 ≤ limit ∧ limit ≤ maxCandidates) then
        .error (.valueError "sample limit must be within 1..4096")
      else if (values.length : Int) > limit then
        return Sampling.pick values
          (random.positions values.length limit.toNat)
      else
        return values

/-- The values of a pool. -/
def expandPool (pool : String) : Except Failure (List String) :=
  match defaultCandidatePools.find? (·.1 = pool) with
  | some entry => .ok entry.2
  | none => .error (.valueError "unknown safe candidate pool")

/-- Arguments of `parse_ip_targets`; a file is the outcome of reading it. -/
structure TargetArguments where
  candidatesFile : Option (Except Failure (List Char)) := none
  cidr : Option String := none
  ipRange : Option String := none
  pool : Option String := none
  sampleLimit : Option Int := none

/-- `parse_ip_targets` -/
def parseIpTargets
    (random : RandomSample)
    (isIpv6Network : String → Bool)
    (arguments : TargetArguments) :
    Except Failure (List String) := do
  let selected :=
    [arguments.candidatesFile.isSome, arguments.cidr.isSome,
      arguments.ipRange.isSome, arguments.pool.isSome].count true
  if selected ≠ 1 then
    .error (.valueError "select exactly one candidate source")
  else do
    let values ←
      match arguments.cidr, arguments.ipRange, arguments.candidatesFile,
        arguments.pool with
      | some cidr, _, _, _ =>
          expandCidr random isIpv6Network cidr arguments.sampleLimit
      | none, some ipRange, _, _ =>
          expandRange random ipRange arguments.sampleLimit
      | none, none, some file, _ =>
          expandFile random file arguments.sampleLimit
      | none, none, none, pool => expandPool (pool.getD "")
    return (OrderedDict.ofKeys values).keys

end H3ntun
