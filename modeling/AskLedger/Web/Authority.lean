import AskLedger.Decimal.Reading
import AskLedger.Text.Find
import AskLedger.Text.Hex
import AskLedger.Text.Lowercase

/-!
# Hosts in addresses

What stands between the slashes in front of an address and its path: possibly a user and an at sign,
then a host, then possibly a colon with the number of a socket. A host is a name or four numbers
with points between them; a name that ends like a number has to be such numbers. Fewer numbers do as
well, the last one standing for the missing ones, and each may be decimal, octal or hexadecimal.
Names beyond ASCII are not looked at more closely.
-/

namespace AskLedger.Web.Authority

/-- Characters that no host has. -/
def isForbidden (c : Char) : Bool :=
  c.toNat ≤ 32 || c.toNat == 127
    || ['#', '%', '/', ':', '<', '>', '?', '@', '[', '\\', ']', '^', '|'].contains c

/-- The text with bytes that are written with a percent sign put in their places. -/
def decoded : List Char → List Char
  | '%' :: a :: b :: rest =>
    match Text.hexValue? a, Text.hexValue? b with
    -- bytes beyond ASCII only have to be no forbidden character
    | some high, some low => Char.ofNat (high * 16 + low) :: decoded rest
    | _, _ => '%' :: decoded (a :: b :: rest)
  | c :: rest => c :: decoded rest
  | [] => []

/-- The value of octal digits, which may be none. -/
def octal? (s : List Char) : Option Nat :=
  if s.all fun c => '0' ≤ c && c ≤ '7' then
    some (s.foldl (fun n c => n * 8 + (c.toNat - 48)) 0)
  else none

/-- A number of an address in decimal, octal or hexadecimal digits. -/
def number? : List Char → Option Nat
  | '0' :: 'x' :: digits => Text.hexNumber? digits
  | '0' :: 'X' :: digits => Text.hexNumber? digits
  | '0' :: digits => octal? digits
  | digits => if !digits.isEmpty && digits.all Char.isDigit then some (Layout.digitsValue digits)
    else none

/-- Whether numbers are those of an address: the last one stands for all that are missing. -/
def areAddress (numbers : List Nat) : Bool :=
  numbers.length ≤ 4 && numbers.dropLast.all (· < 256)
    && numbers.getLast?.any fun n => n < Nat.pow 256 (5 - numbers.length)

/-- The parts of a name between its points; a point at its end does not count. -/
def parts (host : List Char) : List (List Char) :=
  let parts := Text.splitAt '.' host
  if parts.length != 1 && parts.getLast? == some [] then parts.dropLast else parts

/-- Whether a name ends like a number. -/
def endsInNumber (parts : List (List Char)) : Bool :=
  parts.getLast?.any fun p => (!p.isEmpty && p.all Char.isDigit) || (number? p).isSome

/-- Whether a text is a host. -/
def isHost (host : List Char) : Bool :=
  let name := decoded host
  !name.isEmpty && !name.any isForbidden &&
    (!endsInNumber (parts name) || ((parts name).mapM number?).any areAddress)

/-- Whether a text is a host in brackets: hexadecimal digits, colons and points. -/
def isBracketed (host : List Char) : Bool :=
  match host with
  | '[' :: rest =>
    let inner := rest.dropLast
    rest.getLast? == some ']' && inner.contains ':'
      && inner.all fun c => (Text.hexValue? c).isSome || c == ':' || c == '.'
  | _ => false

/-- Whether a text is the number of a socket; it may be left out behind its colon. -/
def isSocket (s : List Char) : Bool :=
  s.isEmpty || (Decimal.natUpTo? 65535 s).isSome

/-- The text behind the last at sign. -/
def withoutUser (s : List Char) : List Char :=
  (s.reverse.takeWhile (· != '@')).reverse

/-- Whether a text may stand between the slashes in front of an address and its path. -/
def isValid (s : List Char) : Bool :=
  let s := withoutUser s
  match s with
  | '[' :: _ =>
    let behind := s.dropWhile (· != ']')
    isBracketed (s.takeWhile (· != ']') ++ behind.take 1)
      && (behind.length ≤ 1 || (behind.drop 1).head? == some ':' && isSocket (behind.drop 2))
  | _ =>
    isHost (s.takeWhile (· != ':')) && isSocket ((s.dropWhile (· != ':')).drop 1)

end AskLedger.Web.Authority
