import Conformance.Text.Hex
import Conformance.Text.Printable
/-!
# Quoted text

The quoted form of a text in messages: between single quotes, or between double
quotes when the text has a single quote and no double one. The quote in use and
the backslash are escaped, line feed, carriage return and tab have short names,
and any other character that does not print is written by its number in two, four
or eight hexadecimal digits.
-/

namespace Conformance.Text

def escapeNumber (n : Nat) : List Char :=
  if n < 0x100 then '\\' :: 'x' :: hexDigits 2 n
  else if n < 0x10000 then '\\' :: 'u' :: hexDigits 4 n
  else '\\' :: 'U' :: hexDigits 8 n

def quoteChar (quote c : Char) : List Char :=
  if c = quote ∨ c = '\\' then ['\\', c]
  else if c = '\n' then ['\\', 'n']
  else if c = '\r' then ['\\', 'r']
  else if c = '\t' then ['\\', 't']
  else if isPrintable c then [c]
  else escapeNumber c.toNat

def quoteFor (cs : List Char) : Char :=
  if cs.contains '\'' && !cs.contains '"' then '"' else '\''

def quoted (s : String) : String :=
  let cs := s.toList
  let q := quoteFor cs
  String.ofList (q :: cs.flatMap (quoteChar q) ++ [q])

end Conformance.Text
