import SyncProbe.Url.Naming

/-!
# Hosts

A host is a domain name or an address. `Host.parse` reads the host of a special scheme, where a name
that ends in a number has to be an IPv4 address; `Host.parseAny` reads the host of any other scheme,
which may be nearly any text. `Host.text` writes an address in its shortest form, so that two
spellings of one address come out equal.

A domain name is what the `Naming` in use gives for a text, so it is in ASCII and in lower case.
-/

namespace SyncProbe

/-- Why a text is not a URL. -/
inductive UrlError where
  | emptyHost
  | invalidDomain
  | invalidPort
  | invalidIpv4
  | invalidIpv6
  | invalidHostCharacter
  /-- There is no scheme, and nothing that the URL could be relative to. -/
  | relative
deriving DecidableEq, Repr

def UrlError.message : UrlError → String
  | .emptyHost => "empty host"
  | .invalidDomain => "invalid international domain name"
  | .invalidPort => "invalid port number"
  | .invalidIpv4 => "invalid IPv4 address"
  | .invalidIpv6 => "invalid IPv6 address"
  | .invalidHostCharacter => "invalid domain character"
  | .relative => "relative URL without a base"

/-- Where a URL points to. -/
inductive Host where
  | domain (name : String)
  | ipv4 (address : UInt32)
  /-- The eight pieces of the address. -/
  | ipv6 (pieces : List Nat)
deriving DecidableEq, Repr

namespace Host

/-! ## IPv4 addresses -/

def digit? (base : Nat) (c : Char) : Option Nat :=
  (Hex.value? c).filter (· < base)

/-- The value of digits, if all are digits of the base. -/
def digits? (base : Nat) (cs : List Char) : Option Nat :=
  cs.foldl (fun value c => do return (← value) * base + (← digit? base c)) (some 0)

/-- The base that a part of an address announces, and its digits. -/
def announcedBase : List Char → Nat × List Char
  | '0' :: 'x' :: cs => (16, cs)
  | '0' :: 'X' :: cs => (16, cs)
  | '0' :: c :: cs => (8, c :: cs)
  | cs => (10, cs)

/-- A part of an address: decimal, octal behind a zero, or hexadecimal. -/
def ipv4Part? (cs : List Char) : Option Nat :=
  if cs.isEmpty then none
  else
    let (base, digits) := announcedBase cs
    digits? base digits

/-- The parts of a name between its dots, without the empty part after a last dot. -/
def dottedParts (name : List Char) : List (List Char) :=
  let parts := splitOn (· = '.') name
  if parts.getLast? = some [] then parts.dropLast else parts

/-- Whether a name is meant as an address: its last part is a number, or looks like one. -/
def endsInNumber (name : List Char) : Bool :=
  match (dottedParts name).getLast? with
  | some part => ! part.isEmpty && (part.all Char.isDigit || (ipv4Part? part).isSome)
  | none => false

/-- Puts the parts of an address together. The last part fills all bytes that are left. -/
def joinIpv4 (parts : List Nat) : Except UrlError Host :=
  let leading := parts.dropLast
  let last := parts.getLast?.getD 0
  if leading.any (255 < ·) || 1 <<< (8 * (4 - leading.length)) ≤ last then .error .invalidIpv4
  else
    let high := leading.zipIdx.foldl (fun sum (part, i) => sum + part <<< (8 * (3 - i))) 0
    .ok (.ipv4 (UInt32.ofNat (high + last)))

/-- Reads an IPv4 address. -/
def parseIpv4 (name : List Char) : Except UrlError Host :=
  let parts := dottedParts name
  if 4 < parts.length then .error .invalidIpv4
  else
    match parts.mapM ipv4Part? with
    | some parts => joinIpv4 parts
    | none => .error .invalidIpv4

/-! ## IPv6 addresses -/

/-- Pieces that were read, and after how many of them the gap of zeros stands. -/
structure Pieces where
  pieces : List Nat
  gap : Option Nat

/-- An address of pieces, with zeros filled into its gap. -/
def Pieces.finish (read : Pieces) : Option (List Nat) :=
  match read.gap with
  | some gap =>
    some (read.pieces.take gap ++ List.replicate (8 - read.pieces.length) 0 ++ read.pieces.drop gap)
  | none => if read.pieces.length = 8 then some read.pieces else none

/-- Reads a decimal number of at most 255 without superfluous zeros. -/
def octet? (cs : List Char) : Option Nat :=
  if cs.isEmpty || (cs.head? = some '0' && 1 < cs.length) then none
  else do
    let value ← digits? 10 cs
    if value ≤ 255 then return value else none

/-- Reads the dotted end of an address, which stands for two pieces. -/
def dotted? (cs : List Char) : Option (List Nat) := do
  match ← (splitOn (· = '.') cs).mapM octet? with
  | [a, b, c, d] => return [a * 256 + b, c * 256 + d]
  | _ => none

/-- Reads pieces up to the end, in at most `steps` steps. -/
def readPieces : Nat → Pieces → List Char → Option Pieces
  | 0, _, _ => none
  | _ + 1, read, [] => some read
  | steps + 1, read, c :: cs =>
    if read.pieces.length = 8 then none
    else if c = ':' then
      if read.gap.isSome then none
      else readPieces steps ⟨read.pieces ++ [0], some (read.pieces.length + 1)⟩ cs
    else
      let digits := ((c :: cs).take 4).takeWhile fun c => (digit? 16 c).isSome
      let pieces := read.pieces ++ [(digits? 16 digits).getD 0]
      match (c :: cs).drop digits.length with
      | [] => some ⟨pieces, read.gap⟩
      | [':'] => none
      | ':' :: rest => readPieces steps ⟨pieces, read.gap⟩ rest
      | '.' :: _ =>
        if digits.isEmpty || 6 < read.pieces.length then none
        else do
          let pair ← dotted? (c :: cs)
          return ⟨read.pieces ++ pair, read.gap⟩
      | _ => none

/-- Reads an IPv6 address between its brackets. -/
def ipv6Pieces? (cs : List Char) : Option (List Nat) := do
  let read ← match cs with
    | ':' :: ':' :: rest => readPieces (cs.length + 1) ⟨[0], some 1⟩ rest
    | ':' :: _ => none
    | _ => readPieces (cs.length + 1) ⟨[], none⟩ cs
  read.finish

def parseIpv6 (cs : List Char) : Except UrlError Host :=
  match ipv6Pieces? cs with
  | some pieces => .ok (.ipv6 pieces)
  | none => .error .invalidIpv6

def parseBracketed (cs : List Char) : Except UrlError Host :=
  if cs.getLast? = some ']' then parseIpv6 cs.dropLast else .error .invalidIpv6

/-! ## Names -/

variable [Naming]

/-- Reads a domain name or an IPv4 address. Its form in ASCII tells which of them it is. -/
def parseName (cs : List Char) : Except UrlError Host :=
  match (Utf8.decode? (Url.decode (Utf8.encode (String.ofList cs)))).bind Naming.toAscii? with
  | none => .error .invalidDomain
  | some name =>
    if name.isEmpty then .error .emptyHost
    else if endsInNumber name.toList then parseIpv4 name.toList
    else .ok (.domain name)

/-- Reads the host of a special scheme. -/
def parse : List Char → Except UrlError Host
  | '[' :: cs => parseBracketed cs
  | cs => parseName cs

/-- What no host of another scheme holds. -/
def outsideAny (c : Char) : Bool :=
  ['\x00', '\t', '\n', '\r', ' ', '#', '/', ':', '<', '>', '?', '@', '[', '\\', ']', '^',
    '|'].contains c

/-- Reads the host of a scheme that is not special. It may be empty. -/
def parseAny : List Char → Except UrlError Host
  | '[' :: cs => parseBracketed cs
  | cs =>
    if cs.any outsideAny then .error .invalidHostCharacter
    else .ok (.domain (String.ofList (Url.encode Url.isControl cs)))

/-! ## Text -/

/-- The bytes of an IPv4 address, between dots. -/
def ipv4Text (address : UInt32) : String :=
  let n := address.toNat
  s!"{n >>> 24}.{(n >>> 16) % 256}.{(n >>> 8) % 256}.{n % 256}"

/-- The length of the run of zeros at the front of a list. -/
def zeroRun (pieces : List Nat) : Nat :=
  (pieces.takeWhile (· = 0)).length

/-- The first longest run of zeros: where it starts, and its length. -/
def longestRun (pieces : List Nat) : Nat × Nat :=
  (List.range pieces.length).foldl
    (fun best i =>
      let run := zeroRun (pieces.drop i)
      if best.2 < run then (i, run) else best)
    (0, 0)

/-- Pieces in hexadecimal, between colons. -/
def piecesText (pieces : List Nat) : String :=
  ":".intercalate (pieces.map fun piece => String.ofList (Nat.toDigits 16 piece))

/-- An IPv6 address, with its longest run of at least two zeros left out. -/
def ipv6Text (pieces : List Nat) : String :=
  let (start, length) := longestRun pieces
  if 2 ≤ length then
    piecesText (pieces.take start) ++ "::" ++ piecesText (pieces.drop (start + length))
  else piecesText pieces

/-- A host as it stands in a URL. -/
def text : Host → String
  | domain name => name
  | ipv4 address => ipv4Text address
  | ipv6 pieces => "[" ++ ipv6Text pieces ++ "]"

end Host

end SyncProbe
