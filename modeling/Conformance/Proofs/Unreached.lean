import Conformance.Proofs.Faults
import Conformance.Proofs.Lockstep
import Conformance.Proofs.Spelling
/-!
# Definitions that are not reached

A document that compiles does so over any other table that has the same definitions under the names
that it refers to, and under those that these refer to in turn. The other definitions may be anything
at all: they are not looked at, neither when the document compiles nor when a value is checked.
-/

namespace Conformance

/-- What a table has under a name. -/
def definition? (table : Option Definitions) (name : String) : Option Value := table.bind (·.lookup name)

namespace Scope

variable {s t : Scope} {document : Value}

theorem defines_iff {name : String} {target : Value} :
    s.Defines name target ↔ definition? s.definitions name = some target := by
  simp [Defines, definition?, Option.bind_eq_some_iff]

/-- Two scopes with the same definitions under all names that a faultless document refers to agree on what
its nodes ask for. -/
theorem concur_of_reached
    (hf : ∀ n, Reachable s.definitions document n → ∀ code, ¬ Fault s.definitions n code)
    (h : ∀ name, Referenced s.definitions document name → definition? t.definitions name = definition? s.definitions name) :
    s.Concur t fun d => ∃ n, Reachable s.definitions document n ∧ Asks n d := by
  rintro r ⟨n, hn, ha⟩
  cases ha with
  | reference hl =>
    cases hlook : s.lookUp r with
    | error e => exact absurd (fault_of_lookUp hl hlook) (hf _ hn e.code)
    | ok definition =>
      obtain ⟨name, target⟩ := definition
      obtain ⟨hname, hdemands⟩ := (s.follows_reachable document).definition ⟨_, hn, .reference hl⟩ hlook
      obtain ⟨ref, hr, rfl, hd⟩ := lookUp_ok.1 hlook
      have hd' : t.Defines ref.name target := by
        rw [defines_iff, h _ hname]
        exact defines_iff.1 hd
      rw [lookUp_ok.2 ⟨ref, hr, rfl, hd'⟩]
      exact .ok ⟨rfl, .refl _, hdemands⟩

end Scope

namespace Validator

/-- A document that compiled compiles over any other table, its own or the caller's, that has the same
entries under the names it can refer to. The same names are checked, in the same order, and no check of any
value tells the two validators apart. -/
theorem compile_of_same_reached {id id' : Nat} {document document' definitions definitions' : Value}
    {before before' after : List Mark} {v : Validator} (fresh : ∀ m ∈ before, m.scope ≠ id)
    (fresh' : ∀ m ∈ before', m.scope ≠ id')
    (h : (compileDocument id document definitions).run before = (.ok v, after))
    (hdocument : document'.without "definitions" = document.without "definitions")
    (hreached : ∀ name, Referenced (effectiveDefinitions document definitions) document name →
      definition? (effectiveDefinitions document' definitions') name =
        definition? (effectiveDefinitions document definitions) name) :
    ∃ (w : Validator) (names : List String), after = before ++ names.map (Mark.mk id) ∧
      (compileDocument id' document' definitions').run before' = (.ok w, before' ++ names.map (Mark.mk id')) ∧
      Interchangeable after v (before' ++ names.map (Mark.mk id')) w := by
  let s : Scope := ⟨id, effectiveDefinitions document definitions⟩
  let t : Scope := ⟨id', effectiveDefinitions document' definitions'⟩
  have hrun : (s.compile document).run before = (.ok v, after) := h
  have hfaultless : ∀ n, Reachable s.definitions document n → ∀ code, ¬ Fault s.definitions n code := by
    refine (s.compiles_iff fresh).1 ⟨v, ?_⟩
    rw [hrun]
  have hschema : Schema.ofValue document' = Schema.ofValue document := by
    rw [← Schema.ofValue_withoutDefinitions document', hdocument, Schema.ofValue_withoutDefinitions]
  have hdemands : ∀ d ∈ (Schema.ofValue document).demands true,
      ∃ n, Reachable s.definitions document n ∧ Asks n d := by
    intro d hd
    obtain ⟨n, hn, ha⟩ := Schema.mem_demands_iff.1 hd
    exact ⟨n, Reachable.root.inside hn, ha⟩
  have hconcur := Scope.concur_of_reached (t := t) hfaultless hreached
  obtain ⟨r, r', names, hcompile, hcompile', hmatched⟩ :=
    Scope.compile_lockstep hconcur hschema hdemands fresh fresh'
  rw [hrun] at hcompile
  cases hcompile
  cases hmatched with
  | ok hsame => exact ⟨_, names, rfl, hcompile', hsame⟩

/-- The same list, the definitions in another order and the stray one faulty in another way. -/
def strayedDocument : Value :=
  .obj [("definitions", .obj [
    ("stray", .obj [("$ref", .int 0)]),
    ("list", .obj [("type", .str "object"),
      ("properties", .obj [("next", .obj [("$ref", .str "#/definitions/list")])])])]),
    ("$ref", .str "#/definitions/list")]

set_option maxRecDepth 2000 in
/-- The caller adds a definition that does not compile either. -/
theorem compile_of_same_reached_stray : ∃ (v w : Validator) (names : List String),
    (compileDocument 0 strayDocument .null).run [] = (.ok v, [⟨0, "list"⟩]) ∧
      [⟨0, "list"⟩] = names.map (Mark.mk 0) ∧
      (compileDocument 1 strayedDocument (.obj [("more", .obj [("$ref", .str "#/definitions/none")])])).run [] =
        (.ok w, names.map (Mark.mk 1)) ∧
      Interchangeable [⟨0, "list"⟩] v (names.map (Mark.mk 1)) w := by
  have hfresh : ∀ id, ∀ m ∈ ([] : List Mark), m.scope ≠ id := fun _ => List.forall_mem_nil _
  have hcompile : ∃ v, (compileDocument 0 strayDocument .null).run [] = (.ok v, [⟨0, "list"⟩]) := ⟨_, rfl⟩
  obtain ⟨v, hv⟩ := hcompile
  obtain ⟨_, hc⟩ := Scope.compile_fresh (hfresh 0) hv
  have hreached : ∀ name, Referenced (effectiveDefinitions strayDocument .null) strayDocument name →
      name = "list" := by
    intro name hn
    have hm := Scope.marked_iff.1 (Scope.known_of_referenced hc.settled ⟨v, hc.linked⟩ hn)
    cases List.mem_singleton.1 hm
    rfl
  have hdocument : strayedDocument.without "definitions" = strayDocument.without "definitions" := rfl
  have hentry : ∀ name, Referenced (effectiveDefinitions strayDocument .null) strayDocument name →
      definition? (effectiveDefinitions strayedDocument (.obj [("more", .obj [("$ref", .str "#/definitions/none")])])) name =
        definition? (effectiveDefinitions strayDocument .null) name := by
    intro name hn
    rw [hreached name hn]
    rfl
  obtain ⟨w, names, hafter, hw, hsame⟩ := compile_of_same_reached (hfresh 0) (hfresh 1) hv hdocument hentry
  exact ⟨v, w, names, hv, hafter, hw, hsame⟩

end Validator

end Conformance
