/-!
# Widths

How many characters the matches of a pattern have: at least so many, and at most so
many unless there is no end to it. A pattern that looks behind must know exactly how
far to go back.
-/

namespace Conformance.Pattern

structure Width where
  least : Nat
  /-- Without it there is no bound. -/
  most : Option Nat
deriving DecidableEq

namespace Width

def exactly (n : Nat) : Width := ⟨n, some n⟩

def zero : Width := exactly 0

def one : Width := exactly 1

/-- One behind the other. -/
def add (v w : Width) : Width :=
  ⟨v.least + w.least, v.most.bind fun m => w.most.map (m + ·)⟩

/-- One or the other. -/
def either (v w : Width) : Width :=
  ⟨min v.least w.least, v.most.bind fun m => w.most.map (max m)⟩

/-- Any number of times from `low` to `high`; what is empty stays so without end. -/
def repeated (w : Width) (low : Nat) (high : Option Nat) : Width :=
  ⟨w.least * low,
    if w.most = some 0 || high = some 0 then some 0
    else w.most.bind fun m => high.map (m * ·)⟩

/-- One item behind the other. -/
def sum (ws : List Width) : Width := ws.foldr add zero

/-- Widths are told apart up to here. -/
def limit : Nat := 4294967294

def isFixed (w : Width) : Bool := w.most == some w.least && w.least ≤ limit

/-- As far as this one can look behind. -/
def reach : Nat := 2147483647

end Width

end Conformance.Pattern
