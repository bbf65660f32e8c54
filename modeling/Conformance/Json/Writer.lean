import Conformance.Text.Hex
import Conformance.Value.Basic
import Conformance.Number.DigitLimit
import Conformance.Number.Shortest
/-!
# Writing JSON

Compact: nothing stands around commas and colons, entries keep their order, and
only quotes, backslashes and control characters are escaped. Tuples are written
as arrays. Decimals and foreign values have no JSON form, and neither have whole
numbers of more than 4300 digits.
-/

namespace Conformance.Json

inductive WriteError where
  | notJson (typeName : String)
  | tooManyDigits
deriving DecidableEq

def WriteError.message : WriteError → String
  | notJson typeName => s!"Object of type {typeName} is not JSON serializable"
  | tooManyDigits =>
    s!"Exceeds the limit ({Number.digitLimit} digits) for integer string conversion; " ++
      "use sys.set_int_max_str_digits() to increase the limit"

/-! ## Texts -/

def escapeChar (c : Char) : List Char :=
  if c = '"' then ['\\', '"']
  else if c = '\\' then ['\\', '\\']
  else if c = '\n' then ['\\', 'n']
  else if c = '\r' then ['\\', 'r']
  else if c = '\t' then ['\\', 't']
  else if c = '\x08' then ['\\', 'b']
  else if c = '\x0c' then ['\\', 'f']
  else if c.toNat < 0x20 then '\\' :: 'u' :: Text.hexDigits 4 c.toNat
  else [c]

def writeText (s : String) : List Char := '"' :: s.toList.flatMap escapeChar ++ ['"']

/-! ## Numbers -/

def writeInt (n : Int) : List Char :=
  (if n < 0 then ['-'] else []) ++ Nat.toDigits 10 n.natAbs

def floatWords : Binary64.Words := ⟨"Infinity", "NaN"⟩

def writeNumber : Number → Except WriteError (List Char)
  | .int n =>
    if (Nat.toDigits 10 n.natAbs).length ≤ Number.digitLimit then pure (writeInt n)
    else throw .tooManyDigits
  | .float x => pure (x.text floatWords).toList
  | .decimal _ => throw (.notJson "Decimal")

/-! ## Values -/

mutual

def writeChars : Value → Except WriteError (List Char)
  | .null => pure ['n', 'u', 'l', 'l']
  | .bool true => pure ['t', 'r', 'u', 'e']
  | .bool false => pure ['f', 'a', 'l', 's', 'e']
  | .num n => writeNumber n
  | .str s => pure (writeText s)
  | .arr _ items => do
    let body ← writeItems items
    pure ('[' :: body.drop 1 ++ [']'])
  | .obj entries => do
    let body ← writeEntries entries
    pure ('{' :: body.drop 1 ++ ['}'])
  | .foreign id _ => throw (.notJson id.typeName)

/-- Each item behind a comma. -/
def writeItems : List Value → Except WriteError (List Char)
  | [] => pure []
  | v :: rest => do
    let first ← writeChars v
    let others ← writeItems rest
    pure (',' :: first ++ others)

/-- Each entry behind a comma. -/
def writeEntries : List (String × Value) → Except WriteError (List Char)
  | [] => pure []
  | (k, v) :: rest => do
    let first ← writeChars v
    let others ← writeEntries rest
    pure (',' :: writeText k ++ ':' :: first ++ others)

end

def write (v : Value) : Except WriteError String := String.ofList <$> writeChars v

end Conformance.Json
