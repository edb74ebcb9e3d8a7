import H3ntun.CandidateSources
import H3ntun.Configuration
import Mathlib.Data.Int.Log
import Mathlib.Data.Rat.Floor

namespace H3ntun

/-!
# Values of a configuration file

The conversions `load_config` applies to single values: `str`, `float`, truth
values, hexadecimal and base64 texts, endpoints and addresses.  What `repr`
writes for floats, arrays and objects is a parameter, and so is the test
whether a text is an IPv6 address, which decides between two texts of an
error.
-/

/-- Functions of the language that are left open. -/
structure Conversions where
  repr : JsonValue → String
  isIpv6Address : String → Bool

/-- Enough for documents without IPv6 addresses and values to write. -/
def Conversions.plain : Conversions where
  repr := fun _ => ""
  isIpv6Address := fun _ => false

namespace Binary64

/-- The unit in the last place of a number with 53 binary digits. -/
def ulp (value : Rat) : Rat :=
  2 ^ max (-1074) (Int.log 2 |value| - 52)

/-- The nearest integer, the even one of two. -/
def roundToEven (value : Rat) : Int :=
  let below := ⌊value⌋
  if value - below < 1 / 2 then
    below
  else if 1 / 2 < value - below then
    below + 1
  else if below % 2 = 0 then
    below
  else
    below + 1

/-- Numbers from here on round to infinity. -/
def overflowThreshold : Nat := 2 ^ 1024 - 2 ^ 970

/-- The nearest number, if it is finite. -/
def round (value : Rat) : Option Rat :=
  if overflowThreshold ≤ |value| then
    none
  else
    some (roundToEven (value / ulp value) * ulp value)

/-- `float(value)` of an integer. -/
def ofInt (value : Int) : Except Failure FloatValue :=
  (round value).elim (.error .overflowError) fun rounded =>
    .ok (.finite rounded)

end Binary64

/-- Digits of a part of a decimal numeral that may be missing. -/
def readPart (digits : List Char) : Option Nat :=
  if digits = [] then some 0 else Numerals.readDigits 10 0 false digits

/-- The number of a decimal numeral without sign. -/
def readDecimal (text : List Char) : Option Rat := do
  let isMark (char : Char) : Bool := char = 'e' ∨ char = 'E'
  let mantissa := text.takeWhile fun char => ¬ isMark char
  let whole := mantissa.takeWhile (· ≠ '.')
  let fraction := (mantissa.dropWhile (· ≠ '.')).drop 1
  if whole = [] ∧ fraction = [] then
    none
  let wholeValue ← readPart whole
  let fractionValue ← readPart fraction
  let places := fraction.countP (· ≠ '_')
  let exponent : Int ←
    match text.dropWhile fun char => ¬ isMark char with
    | [] => some 0
    | _ :: '-' :: digits =>
        (Numerals.readDigits 10 0 false digits).map fun value => -(value : Int)
    | _ :: '+' :: digits =>
        (Numerals.readDigits 10 0 false digits).map Int.ofNat
    | _ :: digits =>
        (Numerals.readDigits 10 0 false digits).map Int.ofNat
  return (wholeValue * 10 ^ places + fractionValue) *
    (10 : Rat) ^ (exponent - places)

/-- The float of a numeral without sign, which is negated at the end. -/
def readUnsignedFloat
    (negative : Bool)
    (text : List Char) :
    Except Failure FloatValue :=
  let name := text.map Char.toLower
  if name = "inf".toList ∨ name = "infinity".toList then
    .ok (.infinity negative)
  else if name = "nan".toList then
    .ok .nan
  else
    match readDecimal text with
    | none => .error (.valueError "could not convert string to float")
    | some value =>
        match Binary64.round value with
        | none => .ok (.infinity negative)
        | some rounded =>
            .ok (.finite (if negative then -rounded else rounded))

/-- `float(text)` -/
def readFloat (text : List Char) : Except Failure FloatValue :=
  let stripped := (((text.map asciiOf).dropWhile isSpace).reverse.dropWhile
    isSpace).reverse
  match stripped with
  | '-' :: rest => readUnsignedFloat true rest
  | '+' :: rest => readUnsignedFloat false rest
  | _ => readUnsignedFloat false stripped

namespace JsonValue

/-- `float(value)` -/
def toFloat : JsonValue → Except Failure FloatValue
  | .bool value => .ok (.finite (if value then 1 else 0))
  | .int value => Binary64.ofInt value
  | .float value => .ok (.finite value)
  | .infinity negative => .ok (.infinity negative)
  | .nan => .ok .nan
  | .string value => readFloat value.toList
  | _ => .error .typeError

/-- `str(value)` -/
def toStr (conversions : Conversions) : JsonValue → Except Failure String
  | .null => .ok "None"
  | .bool value => .ok (if value then "True" else "False")
  | .int value => (writeInt value).map String.ofList
  | .string value => .ok value
  | other => .ok (conversions.repr other)

/-- `bool(value)` -/
def isTrue : JsonValue → Bool
  | .null => false
  | .bool value => value
  | .int value => value ≠ 0
  | .float value => value ≠ 0
  | .infinity _ => true
  | .nan => true
  | .string value => value ≠ ""
  | .array items => ¬ items.isEmpty
  | .object fields => ¬ fields.isEmpty

end JsonValue

/-- Words of `PLACEHOLDER_RE`. -/
def placeholderWords : List String :=
  ["iran", "foreign", "spoof", "source", "authorized", "replace", "change",
    "example"]

/-- A letter as `re.I` matches it, which relates a few to wide characters. -/
def matchesLetter (letter char : Char) : Bool :=
  char.toLower = letter ∨
    (letter = 'i' ∧ (char.toNat = 0x130 ∨ char.toNat = 0x131)) ∨
    (letter = 's' ∧ char.toNat = 0x17f)

/-- The text is the word, in letters of either case. -/
def matchesWord (word text : List Char) : Bool :=
  word.length = text.length ∧
    (word.zip text).all fun letters => matchesLetter letters.1 letters.2

/--
`PLACEHOLDER_RE.search(text)`: one of the words stands between two of the
characters `-` and `_` or the ends of the text.
-/
def hasPlaceholder (text : List Char) : Bool :=
  (text.splitOnP fun char => char = '_' ∨ char = '-').any fun piece =>
    placeholderWords.any fun word => matchesWord word.toList piece

/-- `reject_placeholder` -/
def rejectPlaceholder
    (value : List Char)
    (field : String) :
    Except Failure Unit :=
  let normalized := (strip value).map fun char =>
    if char = '.' then '_' else char
  if strip value = [] ∨ hasPlaceholder normalized then
    .error (.configError s!"{field} still contains a placeholder")
  else
    .ok ()

/-- `parse_bool` -/
def parseBool (value : JsonValue) (field : String) : Except Failure Bool :=
  match value with
  | .bool value => .ok value
  | _ => .error (.configError s!"{field} must be true or false")

/-- `text.rsplit(":", 1)`, if there is a colon. -/
def splitLastColon (text : List Char) : Option (List Char × List Char) :=
  match text.reverse.dropWhile (· ≠ ':') with
  | [] => none
  | _ :: front =>
      some (front.reverse, (text.reverse.takeWhile (· ≠ ':')).reverse)

/-- `split_host_port` -/
def splitHostPort
    (value : JsonValue)
    (field : String) :
    Except Failure (String × Int) :=
  match value with
  | .string text =>
      match splitLastColon text.toList with
      | none => .error (.configError s!"{field} must use host:port format")
      | some (host, rawPort) =>
          if host = [] then
            .error (.configError s!"{field} host is empty")
          else
            match readInt 10 rawPort with
            | .error _ =>
                .error (.configError s!"{field} port is not an integer")
            | .ok port =>
                if ¬ (0 ≤ port ∧ port ≤ 65535) then
                  .error (.configError s!"{field} port is outside 0..65535")
                else
                  .ok (String.ofList host, port)
  | _ => .error (.configError s!"{field} must use host:port format")

/-- `remote_host_port` -/
def remoteHostPort
    (value : JsonValue)
    (field : String) :
    Except Failure (String × Int) := do
  let (host, port) ← splitHostPort value field
  rejectPlaceholder host.toList s!"{field} host"
  if port = 0 then
    .error (.configError s!"{field} port cannot be zero")
  else
    .ok (host, port)

/-- `parse_ipv4`, without unspecified addresses. -/
def parseIpv4
    (conversions : Conversions)
    (value field : String) :
    Except Failure String := do
  rejectPlaceholder value.toList field
  match IPv4Address.ofText? value with
  | none =>
      if conversions.isIpv6Address value then
        .error (.configError s!"{field} must be IPv4")
      else
        .error (.configError s!"{field} is not a valid IP address")
  | some address =>
      if address.number = 0 then
        .error (.configError s!"{field} cannot be unspecified")
      else if 224 ≤ address.first ∧ address.first < 240 then
        .error (.configError s!"{field} cannot be multicast")
      else
        .ok address.text

/-- `bytes.fromhex(text)`, with white space between bytes. -/
def readHex : List Char → Option Bytes
  | [] => some []
  | high :: rest =>
      if isSpace high then
        readHex rest
      else
        match rest with
        | [] => none
        | low :: others =>
            match Numerals.digitValue? 16 high,
              Numerals.digitValue? 16 low with
            | some high, some low =>
                (readHex others).map (UInt8.ofNat (16 * high + low) :: ·)
            | _, _ => none

/-- Value of a base64 digit. -/
def base64Digit? (char : Char) : Option Nat :=
  let code := char.toNat
  if 65 ≤ code ∧ code ≤ 90 then some (code - 65)
  else if 97 ≤ code ∧ code ≤ 122 then some (code - 71)
  else if 48 ≤ code ∧ code ≤ 57 then some (code + 4)
  else if char = '+' then some 62
  else if char = '/' then some 63
  else none

/--
`base64.b64decode(text, validate=True)`, which ignores `=` after whole groups
of four.
-/
def readBase64 : List Char → Option Bytes
  | [] => some []
  | [first, second, '=', '='] => do
      let first ← base64Digit? first
      let second ← base64Digit? second
      return [UInt8.ofNat (4 * first + second / 16)]
  | [first, second, third, '='] => do
      let first ← base64Digit? first
      let second ← base64Digit? second
      let third ← base64Digit? third
      return [UInt8.ofNat (4 * first + second / 16),
        UInt8.ofNat (16 * second + third / 4)]
  | first :: second :: third :: fourth :: rest => do
      let first ← base64Digit? first
      let second ← base64Digit? second
      let third ← base64Digit? third
      let fourth ← base64Digit? fourth
      let others ←
        if rest.all (· = '=') then some [] else readBase64 rest
      return UInt8.ofNat (4 * first + second / 16) ::
        UInt8.ofNat (16 * second + third / 4) ::
          UInt8.ofNat (64 * third + fourth) :: others
  | _ => none

/-- Bytes written as text; the texts are those of the three errors. -/
def decodeBytes
    (field notText unreadable wrongLength : String)
    (read : List Char → Option Bytes)
    (isLength : Nat → Bool)
    (value : JsonValue) :
    Except Failure Bytes :=
  match value with
  | .string text => do
      rejectPlaceholder text.toList field
      match read text.toList with
      | none => .error (.configError unreadable)
      | some decoded =>
          if ¬ isLength decoded.length then
            .error (.configError wrongLength)
          else
            .ok decoded
  | _ => .error (.configError notText)

/-- `_decode_tunnel_id` -/
def decodeTunnelId : JsonValue → Except Failure Bytes :=
  decodeBytes "tunnel_id" "tunnel_id must be a 32-character hex string"
    "tunnel_id must be hexadecimal" "tunnel_id must decode to 16 bytes"
    readHex fun length => length = 16

/-- `_decode_secret` -/
def decodeSecret : JsonValue → Except Failure Bytes :=
  decodeBytes "shared_secret" "shared_secret must be base64 text"
    "shared_secret is not valid base64"
    "shared_secret must decode to at least 32 bytes"
    readBase64 fun length => 32 ≤ length

end H3ntun
