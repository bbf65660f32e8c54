/-!
# The digit limit

Whole numbers are read from decimal digits and written in them only up to a number of
digits. Zeros in front count.
-/

namespace Conformance.Number

def digitLimit : Nat := 4300

/-- What is said of a text with more digits. -/
def tooManyDigits (digits : Nat) : String :=
  s!"Exceeds the limit ({digitLimit} digits) for integer string conversion: value has " ++
    s!"{digits} digits; use sys.set_int_max_str_digits() to increase the limit"

end Conformance.Number
