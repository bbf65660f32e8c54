import Conformance.Text.Hex
/-!
# UTF-8

Strict decoding, one byte at a time. A sequence is refused at its first byte when
no character starts with it, at the first byte that cannot continue it (so no
character is spelled too long, and surrogates and numbers past U+10FFFF are
refused), or at the end of the data. A refusal covers the bytes from the start of
the sequence up to the one that ended it.
-/

namespace Conformance.Text

inductive Utf8Fault where
  | startByte
  | continuationByte
  | endOfData
deriving DecidableEq

/-- The bytes from `first` up to `stop` do not decode; `byte` is the first of them. -/
structure Utf8Error where
  fault : Utf8Fault
  byte : UInt8
  first : Nat
  stop : Nat
deriving DecidableEq

def Utf8Fault.message : Utf8Fault → String
  | startByte => "invalid start byte"
  | continuationByte => "invalid continuation byte"
  | endOfData => "unexpected end of data"

def Utf8Error.message (e : Utf8Error) : String :=
  let place :=
    if e.stop = e.first + 1 then
      s!"byte 0x{String.ofList (hexDigits 2 e.byte.toNat)} in position {e.first}"
    else s!"bytes in position {e.first}-{e.stop - 1}"
  s!"'utf-8' codec can't decode {place}: {e.fault.message}"

/-- A sequence under way: where and with which byte it began, the number read so
far, the bytes still owed, and the range of the next one. -/
structure Utf8Sequence where
  first : Nat
  byte : UInt8
  value : Nat
  owed : Nat
  low : Nat
  high : Nat

/-- What a first byte begins: the number it contributes, the bytes it owes and the
range of the next one. -/
def utf8Lead (b : Nat) : Option (Nat × Nat × Nat × Nat) :=
  if b < 0x80 then some (b, 0, 0, 0)
  else if b < 0xc2 then none
  else if b < 0xe0 then some (b - 0xc0, 1, 0x80, 0xbf)
  else if b = 0xe0 then some (0, 2, 0xa0, 0xbf)
  else if b = 0xed then some (0xd, 2, 0x80, 0x9f)
  else if b < 0xf0 then some (b - 0xe0, 2, 0x80, 0xbf)
  else if b = 0xf0 then some (0, 3, 0x90, 0xbf)
  else if b < 0xf4 then some (b - 0xf0, 3, 0x80, 0xbf)
  else if b = 0xf4 then some (4, 3, 0x80, 0x8f)
  else none

/-- Decodes the bytes from `position` on, in the middle of `pending`. -/
def decodeFrom (position : Nat) (pending : Option Utf8Sequence) :
    List UInt8 → Except Utf8Error (List Char)
  | [] =>
    match pending with
    | none => pure []
    | some p => throw ⟨.endOfData, p.byte, p.first, position⟩
  | b :: rest =>
    match pending with
    | none =>
      match utf8Lead b.toNat with
      | none => throw ⟨.startByte, b, position, position + 1⟩
      | some (value, 0, _, _) =>
        (Char.ofNat value :: ·) <$> decodeFrom (position + 1) none rest
      | some (value, owed, low, high) =>
        decodeFrom (position + 1) (some ⟨position, b, value, owed, low, high⟩) rest
    | some p =>
      if p.low ≤ b.toNat ∧ b.toNat ≤ p.high then
        let value := 64 * p.value + b.toNat % 64
        if p.owed = 1 then (Char.ofNat value :: ·) <$> decodeFrom (position + 1) none rest
        else decodeFrom (position + 1) (some ⟨p.first, p.byte, value, p.owed - 1, 0x80, 0xbf⟩) rest
      else throw ⟨.continuationByte, p.byte, p.first, position⟩

def decodeUtf8 (bytes : List UInt8) : Except Utf8Error (List Char) := decodeFrom 0 none bytes

def encodeUtf8 (cs : List Char) : List UInt8 := cs.flatMap String.utf8EncodeChar

/-! ## Lines -/

/-- Every line end becomes a line feed. -/
def unifyLines : List Char → List Char
  | [] => []
  | '\r' :: '\n' :: rest => '\n' :: unifyLines rest
  | '\r' :: rest => '\n' :: unifyLines rest
  | c :: rest => c :: unifyLines rest

end Conformance.Text
