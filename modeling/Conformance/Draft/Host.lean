import Conformance.Text.Hex
import Conformance.Text.Quoted
/-!
# Hosts

What is in front of the path of a place names a host. Brackets in it are for addresses of
version six and of later versions, and it must have no characters that stand for ones
which would end it.
-/

namespace Conformance.Draft

/-- Splits at every `mark`. -/
def splitAt (mark : Char) : List Char → List (List Char)
  | [] => [[]]
  | c :: rest =>
    if c = mark then [] :: splitAt mark rest
    else match splitAt mark rest with
      | [] => [[c]]
      | part :: parts => (c :: part) :: parts

/-- What is in front of the first `mark`, and what is behind it if there is one. -/
def cutAt (mark : Char) (cs : List Char) : List Char × Option (List Char) :=
  match cs.span (· != mark) with
  | (front, _ :: behind) => (front, some behind)
  | (front, []) => (front, none)

/-! ## Addresses -/

/-- A number below 256 without zeros in front. -/
def isOctet (cs : List Char) : Bool :=
  !cs.isEmpty && cs.length ≤ 3 && cs.all Char.isDigit && (cs = ['0'] || cs.head? != some '0') &&
    cs.foldl (fun n c => 10 * n + (c.toNat - '0'.toNat)) 0 < 256

def isVersion4 (cs : List Char) : Bool :=
  let octets := splitAt '.' cs
  octets.length = 4 && octets.all isOctet

/-- Up to four hexadecimal digits. -/
def isGroup (cs : List Char) : Bool :=
  !cs.isEmpty && cs.length ≤ 4 && cs.all fun c => (Text.hexValue? c).isSome

/-- How many groups these are, if all are well-formed; at the very end an address of version
four stands for two. -/
def groupCount? (isEnd : Bool) : List (List Char) → Option Nat
  | [] => some 0
  | [last] =>
    if isEnd && isVersion4 last then some 2 else if isGroup last then some 1 else none
  | g :: rest => if isGroup g then (groupCount? isEnd rest).map (· + 1) else none

/-- What is in front of the first pair of colons, and what is behind it if there is one. -/
def cutAtColons : List Char → List Char × Option (List Char)
  | [] => ([], none)
  | ':' :: ':' :: rest => ([], some rest)
  | c :: rest =>
    let (front, behind) := cutAtColons rest
    (c :: front, behind)

/-- Eight groups, or fewer with a pair of colons for the ones left out. -/
def hasGroups (cs : List Char) : Bool :=
  let parts (cs : List Char) := if cs.isEmpty then [] else splitAt ':' cs
  match cutAtColons cs with
  | (front, none) => groupCount? true (parts front) = some 8
  | (front, some behind) =>
    match groupCount? false (parts front), groupCount? true (parts behind) with
    | some m, some n => m + n ≤ 7
    | _, _ => false

/-- The groups may be followed by a percent sign and a zone. -/
def isVersion6 (cs : List Char) : Bool :=
  match cutAt '%' cs with
  | (groups, none) => hasGroups groups
  | (groups, some zone) => !zone.isEmpty && !zone.contains '%' && hasGroups groups

/-- A version in hexadecimal digits, a point, and something on the same line. -/
def isFuture (cs : List Char) : Bool :=
  match cs with
  | 'v' :: rest =>
    match rest.span fun c => (Text.hexValue? c).isSome with
    | (version, '.' :: rest) => !version.isEmpty && !rest.isEmpty && !rest.contains '\n'
    | _ => false
  | _ => false

/-! ## Names of hosts -/

inductive HostError where
  | brackets
  | future
  | version4
  | notAddress (host : List Char)
  | characters (host : List Char)

def HostError.message : HostError → String
  | brackets => "Invalid IPv6 URL"
  | future => "IPvFuture address is invalid"
  | version4 => "An IPv4 address cannot be in brackets"
  | notAddress host =>
    Text.quoted (String.ofList host) ++ " does not appear to be an IPv4 or IPv6 address"
  | characters host =>
    "netloc '" ++ String.ofList host ++ "' contains invalid characters under NFKC normalization"

def checkAddress (cs : List Char) : Except HostError Unit :=
  if cs.head? = some 'v' then
    if isFuture cs then pure () else throw .future
  else if isVersion4 cs then throw .version4
  else if isVersion6 cs then pure ()
  else throw (.notAddress cs)

/-- What is behind the last `@`. -/
def withoutUser (cs : List Char) : List Char :=
  (cs.reverse.takeWhile (· != '@')).reverse

/-- Nothing but the address stands in the brackets, nothing in front of them, and only a port
behind them. -/
def checkBrackets (host : List Char) : Except HostError Unit := do
  let cs := withoutUser host
  match cutAt '[' cs with
  | (front, some bracketed) =>
    unless front.isEmpty do throw .brackets
    let (address, behind) := cutAt ']' bracketed
    let behind := behind.getD []
    unless behind.isEmpty || behind.head? = some ':' do throw .brackets
    checkAddress address
  | (_, none) => checkAddress (cutAt ':' cs).1

/-- Compatibility characters whose plain form has a slash, a question mark, a number sign, an
at sign or a colon. -/
def standsForMark (c : Char) : Bool :=
  [0x2047, 0x2048, 0x2049, 0x2100, 0x2101, 0x2105, 0x2106, 0x2a74, 0xfe13, 0xfe16, 0xfe55, 0xfe56,
    0xfe5f, 0xfe6b, 0xff03, 0xff0f, 0xff1a, 0xff1f, 0xff20].contains c.toNat

def checkHost (host : List Char) : Except HostError Unit := do
  if host.contains '[' != host.contains ']' then throw .brackets
  if host.contains '[' then checkBrackets host
  if host.any standsForMark then throw (.characters host)

end Conformance.Draft
