import Conformance.Proofs.Requests
import Conformance.Proofs.Unreached
import Conformance.Proofs.Verdict
/-!
# Cycles of references

A definition may be a reference before it is anything else, and so may the one that it refers to, and
so on, until the first of them comes around again. Such a cycle compiles if what else stands in its
definitions does. A check that enters it, or a chain that leads into it, follows the references before
it looks at anything else. So the frames run out, however many there are, and no other keyword has a say.
-/

namespace Conformance

open Meaning

/-! ## References in a row -/

/-- No node that can be reached from the node is faulty. -/
def Faultless (table : Option Definitions) (node : Value) : Prop :=
  ∀ n, Reachable table node n → ∀ code, ¬ Fault table n code

/-- The node compiles in a scope of its own. -/
def Compiles (table : Option Definitions) (node : Value) : Prop :=
  ∃ v after, (Scope.compile ⟨0, table⟩ node).run [] = (.ok v, after)

/-- The node is a mapping with a reference to the name, and what else stands in it compiles. -/
inductive Leads (table : Option Definitions) (next : String) : Value → Prop
  | reference {entries : List (String × Value)} {r : Value} (hl : entries.lookup "$ref" = some r)
    (hr : r.RefersTo next) (hs : Compiles table (.obj (Entries.without "$ref" entries))) : Leads table next (.obj entries)

/-- The definition under the first name leads to the second. -/
def Refers (table : Option Definitions) (name next : String) : Prop :=
  ∃ node, definition? table name = some node ∧ Leads table next node

theorem Compiles.faultless {table : Option Definitions} {node : Value} (h : Compiles table node) :
    Faultless table node := by
  obtain ⟨v, after, hrun⟩ := h
  have hfresh : ∀ m ∈ ([] : List Mark), m.scope ≠ (⟨0, table⟩ : Scope).id := List.forall_mem_nil _
  refine (Scope.compiles_iff hfresh).1 ⟨v, ?_⟩
  rw [hrun]

/-! ## What can be reached -/

section Reach

variable {table : Option Definitions} {node part : Value} {entries : List (String × Value)} {name name' : String}

theorem Faultless.trans (h : Faultless table node) (hp : Reachable table node part) : Faultless table part :=
  fun n hn => h n (hp.trans hn)

theorem Branch.without (h : Branch (.obj entries) part) : Branch (.obj (Entries.without "$ref" entries)) part := by
  cases h with
  | keyword hk hl hn =>
    refine .keyword hk ((Entries.lookup_without ?_ _).trans hl) hn
    rintro rfl
    exact absurd hk (by decide)

theorem Detail.without (h : Detail (.obj entries) part) : Detail (.obj (Entries.without "$ref" entries)) part := by
  cases h with
  | property hl hn => exact .property ((Entries.lookup_without (by decide) _).trans hl) hn
  | items hl hn => exact .items ((Entries.lookup_without (by decide) _).trans hl) hn
  | position hl hn => exact .position ((Entries.lookup_without (by decide) _).trans hl) hn

theorem refersTo_unique {r : Value} (h : r.RefersTo name) (h' : r.RefersTo name') : name = name' := by
  obtain ⟨ref, hr, rfl⟩ := Reference.refersTo_iff.1 h
  obtain ⟨ref', hr', rfl⟩ := Reference.refersTo_iff.1 h'
  rw [hr] at hr'
  cases hr'
  rfl

theorem definition?_of_names {r target : Value} (h : Names table r target) (hr : r.RefersTo name) :
    definition? table name = some target := by
  obtain ⟨ref, definitions, href, rfl, hl⟩ := h
  cases refersTo_unique hr (Reference.refersTo_iff.2 ⟨ref, href, rfl⟩)
  exact hl

/-- A node that leads to a definition is not faulty itself. -/
theorem Leads.not_fault {next : String} (h : Leads table next node) (hd : ∃ target, definition? table next = some target)
    (code : String) : ¬ Fault table node code := by
  obtain ⟨target, hd⟩ := hd
  cases h with
  | reference hl hr hs =>
    intro hf
    cases hf with
    | type ht hnot =>
      -- the type stands there without the reference as well
      exact hs.faultless _ .root _ (.type ((Entries.lookup_without (by decide) _).trans ht) hnot)
    | malformed hl' hnot =>
      rw [hl] at hl'
      cases hl'
      exact hnot _ hr
    | noTable hl' _ ht =>
      subst ht
      cases hd
    | noEntry hl' hr' ht hn =>
      rw [hl] at hl'
      cases hl'
      cases refersTo_unique hr hr'
      subst ht
      rw [definition?, Option.bind_some, hn] at hd
      cases hd

end Reach

/-! ## Routes -/

/-- Every name on the route is that of a definition that leads to another name on it. -/
def Endless (table : Option Definitions) (route : String → Prop) : Prop :=
  ∀ name, route name → ∃ next, Refers table name next ∧ route next

section Route

variable {table : Option Definitions} {route : String → Prop}

/-- From a node that leads to the route only such nodes can be reached, and those that what else stands in them
can reach. -/
theorem faultless_of_leads (hroute : Endless table route) {node : Value} {next : String} (h : Leads table next node)
    (hnext : route next) : Faultless table node := by
  have hreach : ∀ n, Reachable table node n → (∃ next, Leads table next n ∧ route next) ∨ Faultless table n := by
    intro n hn
    induction hn with
    | root => exact .inl ⟨next, h, hnext⟩
    | branch _ hp ih =>
      rcases ih with ⟨_, hl, _⟩ | hf
      · cases hl with
        | reference _ _ hs => exact .inr (hs.faultless.trans (.branch .root hp.without))
      · exact .inr (hf.trans (.branch .root hp))
    | detail _ hp ih =>
      rcases ih with ⟨_, hl, _⟩ | hf
      · cases hl with
        | reference _ _ hs => exact .inr (hs.faultless.trans (.detail .root hp.without))
      · exact .inr (hf.trans (.detail .root hp))
    | definition _ hr ht ih =>
      rcases ih with ⟨name, hl, hname⟩ | hf
      · cases hl with
        | reference hr' hrefers _ =>
          rw [hr'] at hr
          cases hr
          obtain ⟨next, ⟨node, hd, hl⟩, hnext⟩ := hroute name hname
          rw [definition?_of_names ht hrefers] at hd
          cases hd
          exact .inl ⟨next, hl, hnext⟩
      · exact .inr (hf.trans (.definition .root hr ht))
  intro n hn code
  rcases hreach n hn with ⟨name, hl, hname⟩ | hf
  · obtain ⟨_, ⟨node, hd, _⟩, _⟩ := hroute name hname
    exact hl.not_fault ⟨node, hd⟩ code
  · exact hf n .root code

end Route

/-! ## Checks that follow a route -/

namespace Validator

theorem every_cons_reference (scope : Scope) (name : String) (target : Value) (vs : List Validator) :
    every (.reference scope name target :: vs) = .reference scope name target ∨
      ∃ ws, every (.reference scope name target :: vs) = .all (.reference scope name target :: ws) := by
  have hmembers : (.reference scope name target :: vs).flatMap conjuncts =
      .reference scope name target :: vs.flatMap conjuncts := rfl
  unfold every
  rw [hmembers]
  cases vs.flatMap conjuncts with
  | nil => exact .inl rfl
  | cons w ws => exact .inr ⟨w :: ws, rfl⟩

/-- What a node links to that leads to a definition has the reference to it in front. -/
theorem linked_of_leads {scope : Scope} {known : String → Bool} {node target : Value} {next : String} {v : Validator}
    (h : Leads scope.definitions next node) (hd : definition? scope.definitions next = some target)
    (hv : scope.linked known node = .ok v) : ∃ vs, v = every (.reference scope next target :: vs) := by
  cases h with
  | @reference entries r hl hr _ =>
    rw [Scope.linked, Schema.ofValue, Schema.read_mapping] at hv
    obtain ⟨ws, hws, hv⟩ := except_bind_ok.1 hv
    cases except_pure_ok hv
    -- the constraint of the reference is the first one of all
    obtain ⟨w, hw, hws⟩ := except_bind_ok.1 hws
    obtain ⟨vs, _, hws⟩ := except_bind_ok.1 hws
    cases except_pure_ok hws
    simp only [Schema.part, hl, Option.elim_some] at hw
    obtain ⟨ref, target', href, hdefines, _, rfl⟩ := Scope.link_ok.1 hw
    cases refersTo_unique hr (Reference.refersTo_iff.2 ⟨ref, href, rfl⟩)
    rw [Scope.defines_iff, hd] at hdefines
    cases hdefines
    exact ⟨vs, rfl⟩

section Route

variable {scope : Scope} {route : String → Prop} {name : String} {target : Value}

/-- A definition on an endless route opens to a validator that has the next one in front. -/
theorem opens_on_route (hroute : Endless scope.definitions route) (hname : route name)
    (hd : definition? scope.definitions name = some target) {w : Validator}
    (hw : (Body.node scope target).linked? = some w) : ∃ next target' vs, route next ∧
      definition? scope.definitions next = some target' ∧ w = every (.reference scope next target' :: vs) := by
  obtain ⟨next, ⟨node, hd', hl⟩, hnext⟩ := hroute name hname
  rw [hd] at hd'
  cases hd'
  obtain ⟨_, ⟨target', hd', _⟩, _⟩ := hroute next hnext
  obtain ⟨vs, rfl⟩ := linked_of_leads hl hd' (Body.linked?_node.1 hw)
  exact ⟨next, target', vs, hnext, hd', rfl⟩

/-- However many frames there are, a test runs out of them on an endless route. -/
theorem testIn?_route (hroute : Endless scope.definitions route) (limit : Nat) (hname : route name)
    (hd : definition? scope.definitions name = some target) (x : Value) : testIn? limit (.node scope target) x = none := by
  induction limit generalizing name target with
  | zero => rfl
  | succ limit ih =>
    rw [testIn?]
    cases hw : (Body.node scope target).linked? with
    | none => rfl
    | some w =>
      obtain ⟨next, target', vs, hnext, hd', rfl⟩ := opens_on_route hroute hname hd hw
      have hnone : testIn? limit (.node scope target') x = none := ih hnext hd'
      show testWith (testIn? limit) (every _) x = none
      rcases every_cons_reference scope next target' vs with he | ⟨ws, he⟩
      · rw [he]
        exact hnone
      · rw [he, testWith, testAll, testWith, hnone]
        rfl

theorem diagnoseIn?_route (hroute : Endless scope.definitions route) (limit : Nat) (hname : route name)
    (hd : definition? scope.definitions name = some target) (x : Value) :
    diagnoseIn? limit (.node scope target) x = none := by
  induction limit generalizing name target with
  | zero => rfl
  | succ limit ih =>
    rw [diagnoseIn?]
    cases hw : (Body.node scope target).linked? with
    | none => rfl
    | some w =>
      obtain ⟨next, target', vs, hnext, hd', rfl⟩ := opens_on_route hroute hname hd hw
      have hnone : diagnoseIn? limit (.node scope target') x = none := ih hnext hd'
      show diagnoseWith (diagnoseIn? limit) (every _) x = none
      rcases every_cons_reference scope next target' vs with he | ⟨ws, he⟩
      · rw [he]
        exact hnone
      · rw [he, diagnoseWith, diagnoseAll, diagnoseWith, hnone]
        rfl

end Route

/-! ## Documents that refer to a cycle -/

/-- The names of a cycle, and those from which definitions lead into it, make an endless route. -/
theorem endless_of_cycle {table : Option Definitions} {cycle : Nat → String} {n : Nat}
    (hcycle : ∀ i < n, Refers table (cycle i) (cycle ((i + 1) % n))) :
    Endless table fun name => ∃ i < n, Relation.ReflTransGen (Refers table) name (cycle i) := by
  rintro name ⟨i, hi, hchain⟩
  rcases hchain.cases_head with rfl | ⟨next, hnext, hchain⟩
  · have hmod : (i + 1) % n < n := Nat.mod_lt _ (by omega)
    exact ⟨_, hcycle i hi, _, hmod, .refl⟩
  · exact ⟨next, hnext, i, hi, hchain⟩

/-- A document that is nothing but a reference into a cycle of definitions, or to the start of a chain of them
that leads into one, compiles. No value passes, and the only failure is that the frames run out on the value as
a whole. -/
theorem cycle_fails_closed {id : Nat} {document definitions r : Value} {before : List Mark}
    (fresh : ∀ m ∈ before, m.scope ≠ id) (hdocument : document.without "definitions" = .obj [("$ref", r)])
    {start : String} (hr : r.RefersTo start) {cycle : Nat → String} {n i : Nat}
    (hcycle : ∀ i < n, Refers (effectiveDefinitions document definitions) (cycle i) (cycle ((i + 1) % n))) (hi : i < n)
    (hchain : Relation.ReflTransGen (Refers (effectiveDefinitions document definitions)) start (cycle i)) :
    ∃ v after, (compileDocument id document definitions).run before = (.ok v, after) ∧ ∀ limit x,
      (testWithin Body.open limit v x).run after = (.ok false, after) ∧
      (diagnoseWithin Body.open limit v x).run after = (.ok (some (recursionLimit x)), after) ∧
      (castWithin Body.open limit v x).run after = (.ok (.error (recursionLimit x)), after) := by
  let scope : Scope := ⟨id, effectiveDefinitions document definitions⟩
  have hroute := endless_of_cycle hcycle
  have hstart : ∃ i < n, Relation.ReflTransGen (Refers scope.definitions) start (cycle i) := ⟨i, hi, hchain⟩
  -- the document reads as the reference alone
  have hcompile : compileDocument id document definitions = scope.compile (.obj [("$ref", r)]) := by
    rw [← hdocument, Scope.compile, Schema.ofValue_withoutDefinitions]
    rfl
  have hleads : Leads scope.definitions start (.obj [("$ref", r)]) := .reference rfl hr ⟨.anything, [], rfl⟩
  have hfaultless : Faultless scope.definitions (.obj [("$ref", r)]) := faultless_of_leads hroute hleads hstart
  obtain ⟨v, hv⟩ := (scope.compiles_iff fresh).2 hfaultless
  rcases hrun : (scope.compile (.obj [("$ref", r)])).run before with ⟨_, after⟩
  rw [hrun] at hv
  cases hv
  obtain ⟨_, hc⟩ := Scope.compile_fresh fresh hrun
  have hs : v.Safe after := hc.safe (List.Subset.refl _)
  refine ⟨v, after, by rw [hcompile, hrun], fun limit x => ?_⟩
  rw [Scope.compile_reference, Scope.resolve_eq] at hrun
  obtain ⟨ref, target, href, hdefines, rfl, _⟩ := Scope.resolveWith_ok hrun
  cases refersTo_unique hr (Reference.refersTo_iff.2 ⟨ref, href, rfl⟩)
  have hd : definition? scope.definitions ref.name = some target := Scope.defines_iff.1 hdefines
  have htest := testWithin_run limit hs x
  have hdiagnose := diagnoseWithin_run limit hs x
  simp only [passes, testWith, testIn?_route hroute limit hstart hd] at htest
  simp only [failure?, diagnoseWith, diagnoseIn?_route hroute limit hstart hd] at hdiagnose
  exact ⟨htest, hdiagnose, castWithin_run hdiagnose⟩

/-- Two definitions that refer to each other, one of which asks for nothing else and one for what it cannot have,
and a third one that leads to them. -/
def loopDocument : Value :=
  .obj [("$ref", .str "#/definitions/c"), ("definitions", .obj [
    ("a", .obj [("$ref", .str "#/definitions/b")]),
    ("b", .obj [("enum", .list []), ("$ref", .str "#/definitions/a")]),
    ("c", .obj [("items", .obj [("$ref", .str "#/definitions/c")]), ("$ref", .str "#/definitions/a")])])]

set_option maxRecDepth 2000 in
theorem cycle_fails_closed_loop : ∃ v after,
    (compileDocument 0 loopDocument .null).run [] = (.ok v, after) ∧ ∀ limit x,
    (testWithin Body.open limit v x).run after = (.ok false, after) ∧
    (diagnoseWithin Body.open limit v x).run after = (.ok (some (recursionLimit x)), after) ∧
    (castWithin Body.open limit v x).run after = (.ok (.error (recursionLimit x)), after) := by
  have hfresh : ∀ m ∈ ([] : List Mark), m.scope ≠ 0 := List.forall_mem_nil _
  have hdocument : loopDocument.without "definitions" = .obj [("$ref", .str "#/definitions/c")] := rfl
  have ha : (Value.str "#/definitions/a").RefersTo "a" := Reference.refersTo_iff.2 ⟨⟨_, "a"⟩, rfl, rfl⟩
  have hb : (Value.str "#/definitions/b").RefersTo "b" := Reference.refersTo_iff.2 ⟨⟨_, "b"⟩, rfl, rfl⟩
  have hc : (Value.str "#/definitions/c").RefersTo "c" := Reference.refersTo_iff.2 ⟨⟨_, "c"⟩, rfl, rfl⟩
  have hcycle : ∀ i < 2, Refers (effectiveDefinitions loopDocument .null) (if i = 0 then "a" else "b")
      (if (i + 1) % 2 = 0 then "a" else "b") := by
    intro i hi
    match i with
    | 0 => exact ⟨_, rfl, .reference rfl hb ⟨_, _, rfl⟩⟩
    | 1 => exact ⟨_, rfl, .reference rfl ha ⟨_, _, rfl⟩⟩
  have hchain : Relation.ReflTransGen (Refers (effectiveDefinitions loopDocument .null)) "c" "a" :=
    .single ⟨_, rfl, .reference rfl ha ⟨_, _, rfl⟩⟩
  exact cycle_fails_closed hfresh hdocument hc hcycle (by decide : 0 < 2) hchain

end Validator

end Conformance
