import Conformance.Value.Equality
/-!
# Operands

Whatever equality can be asked of. Besides values there are signalling decimals, which
no number can be compared with, and objects of any other class, whose kind is the name
of the class. Some of these have a length and items, like an array, and none has keys.
Equality goes by the name of the kind: what is called an array is asked for its length,
what is called an object for its keys, and everything else is compared as it stands.
-/

namespace Conformance

inductive Operand where
  | null
  | bool (b : Bool)
  | num (n : Number)
  | signalling
  | str (s : String)
  | arr (sequence : Sequence) (items : List Operand)
  | obj (entries : List (String × Operand))
  /-- An object of another class; the number tells it from every other. -/
  | foreign (number : Nat) (typeName : String)
  /-- One that has items. -/
  | row (number : Nat) (typeName : String) (items : List Operand)

/-- Why there is no answer. -/
inductive Mishap where
  | signal
  | noLength
  | noKeys
deriving DecidableEq

namespace Operand

def kindName : Operand → String
  | .null => Kind.null.name
  | .bool _ => Kind.boolean.name
  | .num _ | .signalling => Kind.number.name
  | .str _ => Kind.string.name
  | .arr .. => Kind.array.name
  | .obj _ => Kind.object.name
  | .foreign _ typeName | .row _ typeName _ => typeName

def items? : Operand → Option (List Operand)
  | .arr _ items | .row _ _ items => some items
  | _ => none

def entries? : Operand → Option (List (String × Operand))
  | .obj entries => some entries
  | _ => none

def sameKeys (es fs : List (String × Operand)) : Bool :=
  es.all (fun (k, _) => Entries.has k fs) && fs.all fun (k, _) => Entries.has k es

/-- Operands of one kind as they stand. An object of another class is itself alone. -/
def alike : Operand → Operand → Except Mishap Bool
  | .null, .null => pure true
  | .bool a, .bool b => pure (a == b)
  | .num a, .num b => pure (a.same b)
  | .signalling, .num _ | .num _, .signalling | .signalling, .signalling => throw .signal
  | .str a, .str b => pure (a == b)
  | .foreign i _, .foreign j _ | .row i _ _, .row j _ _ => pure (i == j)
  | _, _ => pure false

mutual

def equal (x y : Operand) : Except Mishap Bool :=
  if x.kindName ≠ y.kindName then pure false
  else if x.kindName = Kind.array.name then
    match x, y.items? with
    | .arr _ xs, some ys | .row _ _ xs, some ys =>
      if xs.length = ys.length then equalItems xs ys else pure false
    | _, _ => throw .noLength
  else if x.kindName = Kind.object.name then
    match x, y.entries? with
    | .obj es, some fs => if sameKeys es fs then equalEntries es fs else pure false
    | _, _ => throw .noKeys
  else alike x y

/-- Position by position, up to the first difference. -/
def equalItems : List Operand → List Operand → Except Mishap Bool
  | x :: xs, y :: ys => do if ← equal x y then equalItems xs ys else pure false
  | _, _ => pure true

/-- The entries of one object after the other, each against what the other object has under the key,
up to the first difference. -/
def equalEntries : List (String × Operand) → List (String × Operand) → Except Mishap Bool
  | [], _ => pure true
  | (k, x) :: es, fs =>
    match fs.lookup k with
    | some y => do if ← equal x y then equalEntries es fs else pure false
    | none => pure false

end

end Operand

/-! ## Values -/

namespace Value

mutual

def operand : Value → Operand
  | .null => .null
  | .bool b => .bool b
  | .num n => .num n
  | .str s => .str s
  | .arr sequence items => .arr sequence (operands items)
  | .obj entries => .obj (entryOperands entries)
  | .foreign id _ => .foreign id.number id.typeName

def operands : List Value → List Operand
  | [] => []
  | v :: rest => operand v :: operands rest

def entryOperands : List (String × Value) → List (String × Operand)
  | [] => []
  | (k, v) :: rest => (k, operand v) :: entryOperands rest

end

end Value

end Conformance
