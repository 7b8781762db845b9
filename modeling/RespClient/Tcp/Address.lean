import RespClient.Error
import RespClient.Text.Decimal

/-!
# Addresses of servers

An address is a host and a number behind its last colon. A host is a numeric address of either
family, or a name. Numeric addresses of the fourth version have one to four parts, in decimal, octal
or hexadecimal; those of the sixth have groups of hexadecimal digits, and stand between brackets or
by themselves. Of the names only `localhost` is known; no other is answered for.

`resolve` tells which family an address belongs to, or why it is none.
-/

namespace RespClient.Tcp

/-- The families of numeric addresses. -/
inductive Family where
  | v4
  | v6
  deriving DecidableEq, Repr

/-- What dialing gives if the host has no route to a family of addresses. -/
def Family.unreachable : Family → IoError
  | v4 => .networkUnreachable
  | v6 => .addressNotAvailable

/-! ## Pieces of text -/

/-- The pieces of a text between separators. -/
def pieces (separator : Char) : List Char → List (List Char)
  | [] => [[]]
  | c :: rest =>
    if c = separator then [] :: pieces separator rest
    else
      match pieces separator rest with
      | [] => [[c]]
      | first :: others => (c :: first) :: others

/-- The value of a digit up to `f`. -/
def hexDigit? (c : Char) : Option Nat :=
  if c.isDigit then some (c.toNat - '0'.toNat)
  else if 'a' ≤ c ∧ c ≤ 'f' then some (c.toNat - 'a'.toNat + 10)
  else if 'A' ≤ c ∧ c ≤ 'F' then some (c.toNat - 'A'.toNat + 10)
  else none

/-- The number that further digits of a base make of `value`. -/
def numeralFrom? (base value : Nat) : List Char → Option Nat
  | [] => some value
  | c :: rest => do
    let digit ← hexDigit? c
    if digit < base then numeralFrom? base (base * value + digit) rest else none

/-- The number written by one or more digits of a base. -/
def numeral? (base : Nat) (text : List Char) : Option Nat :=
  if text.isEmpty then none else numeralFrom? base 0 text

/-! ## Numeric addresses -/

/-- The value of a part of an address of the fourth version. Its first characters tell the base. -/
def part? : List Char → Option Nat
  | '0' :: 'x' :: digits | '0' :: 'X' :: digits => numeral? 16 digits
  | '0' :: digits => numeral? 8 ('0' :: digits)
  | digits => numeral? 10 digits

/-- Whether parts make up an address of the fourth version: each but the last is one of its bytes,
and the last has the bytes that are left. -/
def fillFourBytes : Nat → List (Option Nat) → Bool
  | bytes + 1, [some last] => last < 256 ^ (bytes + 1)
  | bytes + 1, some part :: rest => part < 256 && fillFourBytes bytes rest
  | _, _ => false

/-- Whether a host is a numeric address of the fourth version. -/
def isV4 (host : List Char) : Bool := fillFourBytes 4 ((pieces '.' host).map part?)

/-- A byte in decimal, without leading zeros. -/
def plainByte? (text : List Char) : Option Nat := do
  let value ← numeral? 10 text
  if value < 256 ∧ (text.head? = some '0' → text.length = 1) then some value else none

/-- The two groups that four bytes with dots stand for. -/
def dottedGroups? (text : List Char) : Option (List Nat) :=
  match (pieces '.' text).map plainByte? with
  | [some a, some b, some c, some d] => some [256 * a + b, 256 * c + d]
  | _ => none

/-- A group of up to four hexadecimal digits. -/
def group? (text : List Char) : Option Nat :=
  if text.length ≤ 4 then numeral? 16 text else none

/-- The groups of an address of the sixth version; the last piece may be four bytes with dots. -/
def groups? : List (List Char) → Option (List Nat)
  | [] => some []
  | [last] => ((group? last).map fun group => [group]) <|> dottedGroups? last
  | piece :: rest => do return (← group? piece) :: (← groups? rest)

/-- The groups on one side of a gap, where there may be none. -/
def sideOfGap? (text : List Char) : Option (List Nat) :=
  if text.isEmpty then some [] else groups? (pieces ':' text)

/-- What stands on both sides of the first double colon. -/
def splitAtGap? : List Char → Option (List Char × List Char)
  | ':' :: ':' :: rest => some ([], rest)
  | c :: rest => (splitAtGap? rest).map fun (front, back) => (c :: front, back)
  | [] => none

/-- The eight groups of an address of the sixth version. A double colon stands for at least one
group of zero. -/
def eightGroups? (text : List Char) : Option (List Nat) := do
  match splitAtGap? text with
  | none =>
    let groups ← groups? (pieces ':' text)
    if groups.length = 8 then some groups else none
  | some (front, back) =>
    if front.contains '.' then none
    else
      let high ← sideOfGap? front
      let low ← sideOfGap? back
      let given := high.length + low.length
      if given < 8 then some (high ++ List.replicate (8 - given) 0 ++ low) else none

/-- Whether a zone is absent, or a number behind a percent sign. -/
def isZone (text : List Char) : Bool :=
  match text with
  | [] => true
  | _ :: digits => (numeral? 10 digits).any fun zone => zone < UInt32.size

/-- The family of a host that is written as an address of the sixth version. One that maps an
address of the fourth version is reached as that. -/
def v6Family? (host : List Char) : Option Family := do
  let groups ← eightGroups? (host.takeWhile (· ≠ '%'))
  if isZone (host.dropWhile (· ≠ '%')) then
    some (if groups.take 6 = [0, 0, 0, 0, 0, 0xFFFF] then .v4 else .v6)
  else none

/-! ## Names -/

/-- Whether a text can be one of the pieces of a name between dots. -/
def isLabel (text : List Char) : Bool :=
  0 < text.length && text.length ≤ 63 &&
    text.all fun c => c.isAlphanum || c = '-' || c = '_'

/-- Whether a text can be the name of a host. A name may end with a dot. -/
def isHostName (host : List Char) : Bool :=
  host = ['.'] ||
    (let name := if host.getLast? = some '.' then host.dropLast else host
     name.length ≤ 253 && name.head? ≠ some '-' && (pieces '.' name).all isLabel)

/-! ## Addresses -/

/-- The host of an address and what stands behind its last colon. -/
def splitAddress? (address : String) : Option (List Char × List Char) :=
  let backwards := address.toList.reverse
  match backwards.dropWhile (· ≠ ':') with
  | [] => none
  | _ :: host => some (host.reverse, (backwards.takeWhile (· ≠ ':')).reverse)

/-- What stands between brackets. -/
def bracketed? : List Char → Option (List Char)
  | '[' :: rest => if rest.getLast? = some ']' then some rest.dropLast else none
  | _ => none

/-- The family of a host. -/
def resolveHost (host : List Char) : Except IoError Family :=
  if host.contains '\x00' then .error .nulInName
  else if isV4 host then .ok .v4
  else
    match v6Family? host with
    | some family => .ok family
    | none =>
      if host.map Char.toLower = "localhost".toList then .ok .v4
      else if isHostName host then .error .nameUnanswered
      else .error .nameUnknown

/-- The family of an address. It needs a colon, a number below `2 ^ 16` behind the last, and a host
in front of that. A host stands between brackets only in front of a number without a sign. -/
def resolve (address : String) : Except IoError Family :=
  match splitAddress? address with
  | none => .error .noColon
  | some (host, number) =>
    if (Decimal.word? 16 (utf8 (String.ofList number))).isNone then .error .badNumber
    else
      match (bracketed? host).bind v6Family?, number.head? with
      | none, _ | _, some '+' => resolveHost host
      | some family, _ => .ok family

end RespClient.Tcp
