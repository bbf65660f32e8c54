import Conformance.Draft.Basic
import Conformance.Draft.Problem
import Conformance.Pattern.Reader
import Conformance.Value.Distinct
/-!
# Rules

What a draft asks of the value of a keyword. A rule looks at a value through its
report, which has the reports on its items and entries and knows what is wrong with
the value as a schema; so rules need not go back to the keywords. The first problem
counts, and of two alternatives that both fail only that they fail. An alternative is
checked to its end, so a breakdown behind a problem counts there.
-/

namespace Conformance.Draft

inductive Rule where
  | anything
  | types (names : List TypeName)
  /-- The value is a schema itself. -/
  | node
  | atLeastZero
  | aboveZero
  /-- A text is a regular expression. -/
  | pattern
  | form (f : Form)
  | oneOf (texts : List String)
  | nonEmpty
  /-- No two items are the same. -/
  | distinct
  | items (rule : Rule)
  | entries (rule : Rule)
  /-- The keys are regular expressions. -/
  | patternKeys
  | both (first second : Rule)
  | either (first second : Rule)

/-- A value, what is found when it is taken for a schema, and the same for its parts. -/
inductive Report where
  | node (value : Value) (findings : Findings) (items : List Report)
      (entries : List (String × Report))

namespace Report

def value : Report → Value
  | node value _ _ _ => value

def findings : Report → Findings
  | node _ findings _ _ => findings

def items : Report → List Report
  | node _ _ items _ => items

def entries : Report → List (String × Report)
  | node _ _ _ entries => entries

end Report

/-! ## Values -/

def isWhole (d : Draft) : Value → Bool
  | .num (.int _) => true
  | .num (.float x) => d.hasWholeDoubles && x.isWhole
  | _ => false

/-- A tuple is no array of a document. -/
def hasType (d : Draft) (v : Value) : String → Bool
  | "string" => v.hasKind .string
  | "number" => v.hasKind .number
  | "integer" => isWhole d v
  | "boolean" => v.hasKind .boolean
  | "object" => v.hasKind .object
  | "array" => match v with
    | .arr .list _ => true
    | _ => false
  | "null" => v.hasKind .null
  | _ => false

/-- A line break at the end of a name does not count. -/
def withoutLastBreak (cs : List Char) : List Char :=
  if cs.getLast? = some '\n' then cs.dropLast else cs

def isAnchor (starts continues : Char → Bool) (cs : List Char) : Bool :=
  match withoutLastBreak cs with
  | [] => false
  | c :: rest => starts c && rest.all continues

def Form.admits (f : Form) (cs : List Char) : Bool :=
  match f with
  | place =>
    match cs.dropWhile (· != '#') with
    | [] | ['#'] | ['#', '\n'] => true
    | _ => false
  | anchorOf2019 => isAnchor Char.isAlpha (fun c => c.isAlphanum || "-.:_".toList.contains c) cs
  | anchorOf2020 =>
    isAnchor (fun c => c.isAlpha || c == '_') (fun c => c.isAlphanum || "-._".toList.contains c) cs

/-! ## Checking -/

/-- Finds fault unless the value is as asked. -/
def require (asked : Bool) (fault : Fault) (v : Value) : Findings :=
  if asked then .clean else .fault fault v

/-- What is found in the items from a position on. -/
def itemFindings (position : Nat) : List Findings → Findings
  | [] => .clean
  | f :: rest => (f.under (.index position)).followedBy (itemFindings (position + 1) rest)

def entryFindings (entries : List (String × Findings)) : Findings :=
  .all (entries.map fun (k, f) => f.under (.key k))

/-- The first of the types that a value has ends the search. -/
def typeFindings (d : Draft) (r : Report) : List TypeName → Findings → Findings
  | [], otherwise => otherwise
  | .named name :: rest, otherwise =>
    if hasType d r.value name then .clean else typeFindings d r rest otherwise
  | .node :: rest, otherwise => r.findings.judge .clean (typeFindings d r rest otherwise)

/-- How a number stands to zero. -/
def boundFindings (isWrong : Bool → Bool → Bool) (fault : Fault) : Value → Findings
  | .num n =>
    match n.less? (.int 0) with
    | some isLess => require (!isWrong isLess n.isZero) fault (.num n)
    | none => .broken .comparison
  | _ => .clean

def patternFindings : Value → Findings
  | .str s =>
    match Pattern.isWellFormed s with
    | .ok isWellFormed => require isWellFormed .notPattern (.str s)
    | .error o => .broken (.pattern o)
  | _ => .clean

def distinctFindings : Value → Findings
  | .arr .list vs =>
    match Value.areDistinct? vs with
    | some areDistinct => require areDistinct .notDistinct (.list vs)
    | none => .broken .comparison
  | _ => .clean

namespace Rule

/-- What is found when a value is checked by a rule. -/
def check (d : Draft) : Rule → Report → Findings
  | anything, _ => .clean
  | types names, r => typeFindings d r names (.fault (.wrongType names) r.value)
  | node, r => r.findings
  | atLeastZero, r => boundFindings (fun isLess _ => isLess) .negative r.value
  | aboveZero, r => boundFindings (fun isLess isZero => isLess || isZero) .notPositive r.value
  | pattern, r => patternFindings r.value
  | form f, r =>
    match r.value with
    | .str s => require (f.admits s.toList) (.malformed f) r.value
    | _ => .clean
  | oneOf texts, r =>
    match r.value with
    | .str s => require (texts.contains s) .noAlternative r.value
    | v => .fault .noAlternative v
  | nonEmpty, r =>
    match r.value with
    | .arr .list [] => .fault .empty r.value
    | _ => .clean
  | distinct, r => distinctFindings r.value
  | items rule, r => itemFindings 0 (r.items.map (check d rule))
  | entries rule, r => entryFindings (r.entries.map fun (k, x) => (k, check d rule x))
  | patternKeys, r => .all (r.entries.map fun (k, _) => patternFindings (.str k))
  | both first second, r => (check d first r).followedBy (check d second r)
  | either first second, r =>
    (check d first r).judge .clean
      ((check d second r).judge .clean (.fault .noAlternative r.value))

end Rule

end Conformance.Draft
