import Conformance.Draft.Keywords
/-!
# A checker of drafts

The checker that the command is run with. A document names its draft under `$schema`;
draft 7 is meant when it names none, or none that is known, and what cannot be a name
breaks the check down. Only the document's own name counts, not those of the schemas
inside it. No other part of the library depends on this checker: wherever a draft is
checked, the checker is given.
-/

namespace Conformance.Draft

/-! ## Reports -/

/-- What is found when an object is taken for a schema, from the reports on its entries. -/
def objectFindings (d : Draft) (reports : List (String × Report)) : Findings :=
  let values := d.keywords.map fun (k, rule) =>
    match reports.lookup k with
    | some r => (rule.check d r).under (.key k)
    | none => .clean
  let neighbours := d.needs.map fun (k, needed) =>
    require (!Entries.has k reports || Entries.has needed reports) (.neededBy k) (.str needed)
  .all (values ++ neighbours)

/-- What is found when a value that is not an object is taken for a schema. -/
def otherFindings (d : Draft) (v : Value) : Findings :=
  require (d.nodeTypes.any (hasType d v)) (.wrongType (d.nodeTypes.map .named)) v

mutual

def report (d : Draft) : Value → Report
  | .obj entries =>
    let reports := reportEntries d entries
    .node (.obj entries) (objectFindings d reports) [] reports
  | .arr .list vs => .node (.list vs) (otherFindings d (.list vs)) (reportItems d vs) []
  | v => .node v (otherFindings d v) [] []

def reportItems (d : Draft) : List Value → List Report
  | [] => []
  | v :: rest => report d v :: reportItems d rest

def reportEntries (d : Draft) : List (String × Value) → List (String × Report)
  | [] => []
  | (k, v) :: rest => (k, report d v) :: reportEntries d rest

end

/-! ## Documents -/

/-- The draft that a document names. -/
def ofEntries (entries : List (String × Value)) : Except NameError Draft :=
  match entries.lookup "$schema" with
  | some name => ofValue name
  | none => pure .seven

/-- What ends a check: the first problem, or else the breakdown. -/
def Findings.toExcept (f : Findings) : Except Complaint Unit :=
  match f.problem, f.breakdown with
  | some p, _ => throw p.complaint
  | none, some b => throw b.complaint
  | none, none => pure ()

def checker : Checker := fun entries => do
  let d ← (ofEntries entries).mapError fun e => Breakdown.complaint (.name e)
  (report d (.obj entries)).findings.toExcept

end Conformance.Draft
