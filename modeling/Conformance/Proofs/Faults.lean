import Conformance.Proofs.Passes
import Conformance.Proofs.Reachable
/-!
# Faults

A document compiles unless a node that it can reach is faulty: its type is not known, or its
reference cannot be resolved. The error is that of some faulty node. What is marked after a success
are the definitions that reachable nodes refer to; no others are compiled, whether the document
compiles or not.
-/

namespace Conformance

open Meaning

/-! ## Forms of keywords -/

namespace Value

/-- The names of types. -/
def typeNames : List String := ["string", "number", "integer", "boolean", "object", "array", "null"]

def IsTypeName (v : Value) : Prop := ∃ name ∈ typeNames, v = .str name

/-- The name of a type, or a list of them. -/
def IsType : Value → Prop
  | .arr _ names => ∀ name ∈ names, name.IsTypeName
  | name => name.IsTypeName

/-- The value is written as a reference to the name: the root, and behind it the encoded name, which is
not empty and has no slash in it. -/
def RefersTo (r : Value) (name : String) : Prop :=
  ∃ encoded : List Char, encoded ≠ [] ∧ '/' ∉ encoded ∧
    r = .str (String.ofList (Reference.root ++ encoded)) ∧ name = String.ofList (Pointer.unescape encoded)

end Value

theorem Kind.ofTypeName?_isSome {v : Value} : (Kind.ofTypeName? v).isSome ↔ v.IsTypeName := by
  constructor
  · intro h
    unfold Kind.ofTypeName? at h
    split at h
    all_goals first
      | exact ⟨_, by decide, rfl⟩
      | cases h
  · rintro ⟨name, hn, rfl⟩
    simp only [Value.typeNames, List.mem_cons, List.not_mem_nil, or_false] at hn
    rcases hn with rfl | rfl | rfl | rfl | rfl | rfl | rfl <;> rfl

namespace Validator

theorem ofTypeName_error {v : Value} {e : SchemaError} (h : ofTypeName v = .error e) :
    e = .unknownType v ∧ ¬ v.IsTypeName := by
  rw [← Kind.ofTypeName?_isSome]
  unfold ofTypeName at h
  split at h
  · cases h
  · next hnone =>
    cases h
    rw [hnone]
    exact ⟨rfl, Bool.false_ne_true⟩

theorem isTypeName_of_ok {v : Value} {w : Validator} (h : ofTypeName v = .ok w) : v.IsTypeName := by
  rw [← Kind.ofTypeName?_isSome]
  unfold ofTypeName at h
  split at h
  · next hsome => rw [hsome]; rfl
  · cases h

theorem isType_of_ok {spec : Value} {v : Validator} (h : ofType spec = .ok v) : spec.IsType := by
  cases spec with
  | arr s names =>
    obtain ⟨_, hvs, _⟩ := except_map_ok h
    intro name hn
    obtain ⟨_, _, ht⟩ := (mapM_ok hvs).1 name hn
    exact isTypeName_of_ok ht
  | _ => exact isTypeName_of_ok h

theorem ofType_error {spec : Value} {e : SchemaError} (h : ofType spec = .error e) :
    e.code = "SCHEMA_TYPE_UNRECOGNIZED" ∧ ¬ spec.IsType := by
  cases spec with
  | arr s names =>
    obtain ⟨name, hn, hf⟩ := mapM_error (except_map_error h)
    obtain ⟨rfl, hnot⟩ := ofTypeName_error hf
    exact ⟨rfl, fun hall => hnot (hall name hn)⟩
  | _ =>
    simp only [ofType] at h
    obtain ⟨rfl, hnot⟩ := ofTypeName_error h
    exact ⟨rfl, hnot⟩

end Validator

namespace Reference

theorem encodedName?_iff {ref encoded : List Char} : encodedName? ref = some encoded ↔
    encoded ≠ [] ∧ '/' ∉ encoded ∧ ref = root ++ encoded := by
  unfold encodedName?
  constructor
  · intro h
    split at h
    · next hp =>
      obtain ⟨rest, rfl⟩ := List.isPrefixOf_iff_prefix.1 hp
      rw [List.drop_left] at h
      dsimp only at h
      split at h
      · cases h
      · next hn =>
        cases h
        simp only [Bool.or_eq_true, List.isEmpty_iff, List.contains_iff_mem, not_or] at hn
        exact ⟨hn.1, hn.2, rfl⟩
    · cases h
  · rintro ⟨hne, hs, rfl⟩
    rw [if_pos (List.isPrefixOf_iff_prefix.2 (List.prefix_append root encoded)), List.drop_left]
    simp [hne, hs]

theorem refersTo_iff {r : Value} {name : String} :
    r.RefersTo name ↔ ∃ ref, ofValue r = .ok ref ∧ ref.name = name := by
  constructor
  · rintro ⟨encoded, hne, hs, rfl, rfl⟩
    have hname : encodedName? (String.ofList (root ++ encoded)).toList = some encoded :=
      encodedName?_iff.2 ⟨hne, hs, String.toList_ofList⟩
    refine ⟨⟨String.ofList (root ++ encoded), String.ofList (Pointer.unescape encoded)⟩, ?_, rfl⟩
    rw [ofValue, ofText?, hname]
    rfl
  · rintro ⟨ref, h, rfl⟩
    cases r with
    | str text =>
      rw [ofValue, ofText?] at h
      cases hname : encodedName? text.toList with
      | none =>
        rw [hname] at h
        cases h
      | some encoded =>
        rw [hname] at h
        cases h
        obtain ⟨hne, hs, htext⟩ := encodedName?_iff.1 hname
        refine ⟨encoded, hne, hs, ?_, rfl⟩
        rw [← htext, String.ofList_toList]
    | _ => cases h

end Reference

/-! ## Faulty nodes -/

/-- What is wrong with a node itself, as the code of the error that it raises. -/
inductive Fault (table : Option Definitions) : Value → String → Prop
  | type {entries : List (String × Value)} {spec : Value} (hl : entries.lookup "type" = some spec)
    (h : ¬ spec.IsType) : Fault table (.obj entries) "SCHEMA_TYPE_UNRECOGNIZED"
  | malformed {entries : List (String × Value)} {r : Value} (hl : entries.lookup "$ref" = some r)
    (h : ∀ name, ¬ r.RefersTo name) : Fault table (.obj entries) "REF_MALFORMED"
  | noTable {entries : List (String × Value)} {r : Value} {name : String} (hl : entries.lookup "$ref" = some r)
    (h : r.RefersTo name) (ht : table = none) : Fault table (.obj entries) "REF_DEFINITIONS_REQUIRED"
  | noEntry {entries : List (String × Value)} {r : Value} {name : String} {definitions : Definitions}
    (hl : entries.lookup "$ref" = some r) (h : r.RefersTo name) (ht : table = some definitions)
    (hn : definitions.lookup name = none) : Fault table (.obj entries) "REF_NOT_FOUND"

/-- Some node that the document reaches refers to the name. -/
def Referenced (table : Option Definitions) (document : Value) (name : String) : Prop :=
  ∃ entries r, Reachable table document (.obj entries) ∧ entries.lookup "$ref" = some r ∧ r.RefersTo name

namespace Scope

variable {scope : Scope} {known : String → Bool}

theorem fault_of_lookUp {entries : List (String × Value)} {r : Value} (hl : entries.lookup "$ref" = some r)
    {e : SchemaError} (h : scope.lookUp r = .error e) : Fault scope.definitions (.obj entries) e.code := by
  unfold lookUp at h
  cases hr : Reference.ofValue r with
  | error e' =>
    have hcode : e'.code = "REF_MALFORMED" := by
      unfold Reference.ofValue at hr
      split at hr
      · split at hr <;> cases hr
        rfl
      · cases hr
        rfl
    rw [hr] at h
    cases h
    rw [hcode]
    refine .malformed hl fun name hn => ?_
    obtain ⟨ref, href, _⟩ := Reference.refersTo_iff.1 hn
    rw [hr] at href
    cases href
  | ok ref =>
    have hrefers : r.RefersTo ref.name := Reference.refersTo_iff.2 ⟨ref, hr, rfl⟩
    rw [hr] at h
    have h : (scope.find ref >>= fun target => pure (ref.name, target)) = .error e := h
    unfold find at h
    cases ht : scope.definitions with
    | none =>
      rw [ht] at h
      cases h
      exact .noTable hl hrefers rfl
    | some table =>
      cases hn : table.lookup ref.name with
      | none =>
        simp only [ht, hn] at h
        cases h
        exact .noEntry hl hrefers rfl hn
      | some target =>
        simp only [ht, hn] at h
        cases h

/-- What reachable nodes ask for stays among what reachable nodes ask for. -/
theorem follows_reachable (scope : Scope) (document : Value) :
    scope.Follows (fun d => ∃ n, Reachable scope.definitions document n ∧ Asks n d)
      (fun e => ∃ n, Reachable scope.definitions document n ∧ Fault scope.definitions n e.code)
      (Referenced scope.definitions document) where
  type := by
    rintro spec e ⟨n, hn, ha⟩ h
    cases ha with
    | type hl =>
      obtain ⟨hcode, hnot⟩ := Validator.ofType_error h
      rw [hcode]
      exact ⟨_, hn, .type hl hnot⟩
  reference := by
    rintro r e ⟨n, hn, ha⟩ h
    cases ha with
    | reference hl => exact ⟨_, hn, fault_of_lookUp hl h⟩
  definition := by
    rintro r name target ⟨n, hn, ha⟩ h
    cases ha with
    | reference hl =>
      obtain ⟨ref, hr, rfl, table, ht, htarget⟩ := lookUp_ok.1 h
      refine ⟨⟨_, r, hn, hl, Reference.refersTo_iff.2 ⟨ref, hr, rfl⟩⟩, fun d hd => ?_⟩
      have hreach := Reachable.definition hn hl ⟨ref, table, hr, ht, htarget⟩
      obtain ⟨m, hm, ha⟩ := Schema.mem_demands_iff.1 hd
      exact ⟨m, hreach.inside hm, ha⟩

end Scope

/-! ## Demands that are met -/

def Demand.Met (resolve : Value → Except SchemaError Validator) : Demand → Prop
  | .reference ref => ∃ v, resolve ref = .ok v
  | .type spec => ∃ v, Validator.ofType spec = .ok v

namespace Schema

variable {resolve : Value → Except SchemaError Validator}

mutual

/-- A schema compiles if and only if its demands are met. -/
theorem compileWith_ok_iff : ∀ s : Schema,
    (∃ v, s.compileWith resolve = .ok v) ↔ ∀ d ∈ s.demands true, d.Met resolve
  | .anything => iff_of_true ⟨_, rfl⟩ (List.forall_mem_nil _)
  | .required _ => iff_of_true ⟨_, rfl⟩ (List.forall_mem_nil _)
  | .enum _ => iff_of_true ⟨_, rfl⟩ (List.forall_mem_nil _)
  | .all parts => except_bind_pure_ok.trans (compileAll_ok_iff parts)
  | .choice branches => except_bind_pure_ok.trans (compileAll_ok_iff branches)
  | .reference ref => by simp [demands, Demand.Met, compileWith]
  | .type spec => by simp [demands, Demand.Met, compileWith, ofExcept_ok]
  | .properties _ fields => except_bind_pure_ok.trans (compileFields_ok_iff fields)
  | .items element => except_bind_pure_ok.trans (compileWith_ok_iff element)
  | .positions elements => except_bind_pure_ok.trans (compileAll_ok_iff elements)

theorem compileAll_ok_iff : ∀ ss : List Schema,
    (∃ vs, compileAll resolve ss = .ok vs) ↔ ∀ d ∈ demandsAll true ss, d.Met resolve
  | [] => iff_of_true ⟨_, rfl⟩ (List.forall_mem_nil _)
  | s :: ss => by
    rw [demandsAll, List.forall_mem_append, ← compileWith_ok_iff s, ← compileAll_ok_iff ss]
    constructor
    · rintro ⟨_, h⟩
      obtain ⟨v, hv, h⟩ := except_bind_ok.1 h
      obtain ⟨vs, hvs, _⟩ := except_bind_ok.1 h
      exact ⟨⟨v, hv⟩, vs, hvs⟩
    · rintro ⟨⟨v, hv⟩, vs, hvs⟩
      exact ⟨_, except_bind_ok.2 ⟨v, hv, except_bind_ok.2 ⟨vs, hvs, rfl⟩⟩⟩

theorem compileFields_ok_iff : ∀ fields : List (String × Schema),
    (∃ fs, compileFields resolve fields = .ok fs) ↔ ∀ d ∈ demandsFields true fields, d.Met resolve
  | [] => iff_of_true ⟨_, rfl⟩ (List.forall_mem_nil _)
  | (_, s) :: fields => by
    rw [demandsFields, List.forall_mem_append, ← compileWith_ok_iff s, ← compileFields_ok_iff fields]
    constructor
    · rintro ⟨_, h⟩
      obtain ⟨v, hv, h⟩ := except_bind_ok.1 h
      obtain ⟨vs, hvs, _⟩ := except_bind_ok.1 h
      exact ⟨⟨v, hv⟩, vs, hvs⟩
    · rintro ⟨⟨v, hv⟩, vs, hvs⟩
      exact ⟨_, except_bind_ok.2 ⟨v, hv, except_bind_ok.2 ⟨vs, hvs, rfl⟩⟩⟩

end

end Schema

namespace Scope

variable {scope : Scope} {known : String → Bool}

theorem met_reference {r : Value} : (Demand.reference r).Met (scope.link known) ↔
    ∃ name target, scope.lookUp r = .ok (name, target) ∧ known name = true := by
  constructor
  · rintro ⟨v, h⟩
    obtain ⟨ref, target, hr, hd, hk, _⟩ := link_ok.1 h
    exact ⟨ref.name, target, lookUp_ok.2 ⟨ref, hr, rfl, hd⟩, hk⟩
  · rintro ⟨name, target, hl, hk⟩
    obtain ⟨ref, hr, rfl, hd⟩ := lookUp_ok.1 hl
    exact ⟨_, link_ok.2 ⟨ref, target, hr, hd, hk, rfl⟩⟩

/-- A node links if what the nodes inside it ask for is met with known definitions. -/
theorem linked_iff {node : Value} : (∃ v, scope.linked known node = .ok v) ↔
    ∀ n, Relation.ReflTransGen (Part true) node n → ∀ d, Asks n d → d.Met (scope.link known) := by
  refine (Schema.compileWith_ok_iff _).trans ?_
  simp only [Schema.mem_demands_iff]
  constructor
  · intro h n hn d ha
    exact h d ⟨n, hn, ha⟩
  · rintro h d ⟨n, hn, ha⟩
    exact h n hn d ha

/-- Where the known definitions link among themselves, all that a node reaches links if the node does. -/
theorem linked_of_reachable (hs : scope.Settled known) {document node : Value}
    (hd : ∃ v, scope.linked known document = .ok v) (hn : Reachable scope.definitions document node) :
    ∃ v, scope.linked known node = .ok v := by
  induction hn with
  | root => exact hd
  | branch _ hp ih =>
    rw [linked_iff] at ih ⊢
    exact fun n hn => ih n (.head (.inl hp) hn)
  | detail _ hp ih =>
    rw [linked_iff] at ih ⊢
    exact fun n hn => ih n (.head (.inr ⟨rfl, hp⟩) hn)
  | definition _ hr ht ih =>
    -- the reference links, so its definition is known
    obtain ⟨ref, table, href, htable, htarget⟩ := ht
    obtain ⟨name, target, hl, hk⟩ := met_reference.1 (linked_iff.1 ih _ .refl _ (.reference hr))
    obtain ⟨ref', href', rfl, hdefines⟩ := lookUp_ok.1 hl
    rw [href] at href'
    cases href'
    have hdefines' : scope.Defines ref.name _ := ⟨table, htable, htarget⟩
    cases hdefines.unique hdefines'
    exact hs _ _ hk hdefines

/-- A node that links is not faulty. -/
theorem not_fault_of_linked {node : Value} (h : ∃ v, scope.linked known node = .ok v) (code : String) :
    ¬ Fault scope.definitions node code := by
  have hmet := linked_iff.1 h node .refl
  intro hf
  cases hf with
  | type hl hnot =>
    obtain ⟨v, hv⟩ := hmet _ (.type hl)
    exact hnot (Validator.isType_of_ok hv)
  | malformed hl hnot =>
    obtain ⟨name, target, hlook, _⟩ := met_reference.1 (hmet _ (.reference hl))
    obtain ⟨ref, hr, hname, _⟩ := lookUp_ok.1 hlook
    exact hnot name (Reference.refersTo_iff.2 ⟨ref, hr, hname⟩)
  | noTable hl _ ht =>
    obtain ⟨_, _, hlook, _⟩ := met_reference.1 (hmet _ (.reference hl))
    obtain ⟨_, _, _, _, htable, _⟩ := lookUp_ok.1 hlook
    rw [ht] at htable
    cases htable
  | noEntry hl hrefers ht hn =>
    obtain ⟨_, _, hlook, _⟩ := met_reference.1 (hmet _ (.reference hl))
    obtain ⟨ref, hr, rfl, _, htable, htarget⟩ := lookUp_ok.1 hlook
    obtain ⟨ref', hr', rfl⟩ := Reference.refersTo_iff.1 hrefers
    rw [hr] at hr'
    cases hr'
    rw [ht] at htable
    cases htable
    rw [hn] at htarget
    cases htarget

/-- What a reachable node refers to is known. -/
theorem known_of_referenced (hs : scope.Settled known) {document : Value}
    (hd : ∃ v, scope.linked known document = .ok v) {name : String}
    (hn : Referenced scope.definitions document name) : known name = true := by
  obtain ⟨entries, r, hreach, hl, hrefers⟩ := hn
  have hmet := linked_iff.1 (linked_of_reachable hs hd hreach) _ .refl _ (.reference hl)
  obtain ⟨_, _, hlook, hk⟩ := met_reference.1 hmet
  obtain ⟨ref, hr, rfl, _⟩ := lookUp_ok.1 hlook
  obtain ⟨ref', hr', rfl⟩ := Reference.refersTo_iff.1 hrefers
  rw [hr] at hr'
  cases hr'
  exact hk

/-! ## Documents that compile -/

/-- Compiling stays among the nodes that can be reached, and so do its passes and its error. -/
theorem run_reachable (scope : Scope) (document : Value) (before : List Mark) :
    ∃ r passes, (scope.track scope.size document).run (before, []) = (r, before ++ scope.marksOf passes, passes) ∧
      (scope.compile document).run before = (r, before ++ scope.marksOf passes) ∧
      (∀ e, r = .error e →
        ∃ n, Reachable scope.definitions document n ∧ Fault scope.definitions n e.code) ∧
      ∀ p ∈ passes, Referenced scope.definitions document p.name := by
  have hdemands : ∀ d ∈ (Schema.ofValue document).demands true,
      ∃ n, Reachable scope.definitions document n ∧ Asks n d := by
    intro d hd
    obtain ⟨n, hn, ha⟩ := Schema.mem_demands_iff.1 hd
    exact ⟨n, Reachable.root.inside hn, ha⟩
  obtain ⟨r, passes, htrack, hrun, _, hfault, hreferenced⟩ :=
    run_track (scope.follows_reachable document) hdemands scope.size before
  exact ⟨r, passes, htrack, hrun, hfault, hreferenced⟩

/-- A node compiles in a new scope if and only if it reaches no faulty one. -/
theorem compiles_iff {node : Value} {before : List Mark} (fresh : ∀ m ∈ before, m.scope ≠ scope.id) :
    (∃ v, ((scope.compile node).run before).1 = .ok v) ↔
      ∀ n, Reachable scope.definitions node n → ∀ code, ¬ Fault scope.definitions n code := by
  obtain ⟨r, passes, _, hrun, hfault, _⟩ := scope.run_reachable node before
  rw [hrun]
  constructor
  · rintro ⟨v, rfl⟩ n hn
    obtain ⟨_, hc⟩ := compile_fresh fresh hrun
    exact not_fault_of_linked (linked_of_reachable hc.settled ⟨v, hc.linked⟩ hn)
  · intro hnone
    cases r with
    | ok v => exact ⟨v, rfl⟩
    | error e =>
      obtain ⟨n, hn, hf⟩ := hfault e rfl
      exact absurd hf (hnone n hn e.code)

/-- A node reaches no faulty one if and only if it links with some definitions that link among themselves. -/
theorem faultless_iff (scope : Scope) {node : Value} :
    (∀ n, Reachable scope.definitions node n → ∀ code, ¬ Fault scope.definitions n code) ↔
      ∃ known, scope.Settled known ∧ ∃ v, scope.linked known node = .ok v := by
  constructor
  · intro hnone
    have fresh : ∀ m ∈ ([] : List Mark), m.scope ≠ scope.id := List.forall_mem_nil _
    obtain ⟨v, hv⟩ := (compiles_iff fresh).2 hnone
    rcases hrun : (scope.compile node).run [] with ⟨r, after⟩
    rw [hrun] at hv
    cases hv
    obtain ⟨_, hc⟩ := compile_fresh fresh hrun
    exact ⟨_, hc.settled, v, hc.linked⟩
  · rintro ⟨known, hs, hlinked⟩ n hn
    exact not_fault_of_linked (linked_of_reachable hs hlinked hn)

end Scope

namespace Validator

/-- A document compiles if and only if no node that it can reach is faulty, and the error is that of a
faulty one. After a success the marks of a new scope are the names that reachable nodes refer to. No other
definitions are compiled, whether the document compiles or not. -/
theorem compile_iff_faultless {id : Nat} {document definitions : Value} {before : List Mark}
    (fresh : ∀ m ∈ before, m.scope ≠ id) :
    let table := effectiveDefinitions document definitions
    let scope : Scope := ⟨id, table⟩
    ∃ r after passes, (compileDocument id document definitions).run before = (r, after) ∧
      ((∃ v, r = .ok v) ↔ ∀ node, Reachable table document node → ∀ code, ¬ Fault table node code) ∧
      (∀ e, r = .error e → ∃ node, Reachable table document node ∧ Fault table node e.code) ∧
      ((∃ v, r = .ok v) → ∀ name, ⟨id, name⟩ ∈ after ↔ Referenced table document name) ∧
      (∀ room, scope.size ≤ room → (scope.track room document).run (before, []) = (r, after, passes)) ∧
      ∀ p ∈ passes, Referenced table document p.name := by
  intro table scope
  obtain ⟨r, passes, htrack, hrun, hfault, hreferenced⟩ := scope.run_reachable document before
  have hroom : ∀ room, scope.size ≤ room →
      (scope.track room document).run (before, []) = (r, before ++ scope.marksOf passes, passes) := by
    intro room hroom
    rw [Scope.run_track_of_size_le hroom, htrack]
  refine ⟨r, _, passes, hrun, ?_, hfault, ?_, hroom, hreferenced⟩
  · have hiff := @Scope.compiles_iff scope document before fresh
    rw [hrun] at hiff
    exact hiff
  · rintro ⟨v, rfl⟩ name
    obtain ⟨_, hc⟩ := Scope.compile_fresh fresh hrun
    constructor
    · -- no mark of the scope is older than the passes
      intro hm
      rcases List.mem_append.1 hm with hm | hm
      · exact absurd rfl (fresh _ hm)
      · obtain ⟨p, hp, rfl⟩ := List.mem_map.1 (Scope.mem_marksOf.1 hm)
        exact hreferenced p hp
    · intro hname
      exact Scope.marked_iff.1 (Scope.known_of_referenced hc.settled ⟨v, hc.linked⟩ hname)

/-- A list whose type is fine, and a definition that nothing refers to with a type that is not. -/
def strayDocument : Value :=
  .obj [("$ref", .str "#/definitions/list"), ("definitions", .obj [
    ("list", .obj [("type", .str "object"),
      ("properties", .obj [("next", .obj [("$ref", .str "#/definitions/list")])])]),
    ("stray", .obj [("type", .str "text")])])]

set_option maxRecDepth 2000 in
theorem compile_iff_faultless_stray :
    (∀ node, Reachable (effectiveDefinitions strayDocument .null) strayDocument node → ∀ code,
      ¬ Fault (effectiveDefinitions strayDocument .null) node code) ∧
    (∀ name, Referenced (effectiveDefinitions strayDocument .null) strayDocument name ↔ name = "list") ∧
    Fault (effectiveDefinitions strayDocument .null) (.obj [("type", .str "text")]) "SCHEMA_TYPE_UNRECOGNIZED" := by
  have hfresh : ∀ m ∈ ([] : List Mark), m.scope ≠ 0 := List.forall_mem_nil _
  have hcompile : ∃ v, (compileDocument 0 strayDocument .null).run [] = (.ok v, [⟨0, "list"⟩]) := ⟨_, rfl⟩
  obtain ⟨v, hv⟩ := hcompile
  obtain ⟨r, after, _, hr, hfaultless, _, hmarks, _⟩ := @compile_iff_faultless 0 strayDocument .null [] hfresh
  rw [hv] at hr
  cases hr
  refine ⟨hfaultless.1 ⟨v, rfl⟩, fun name => ?_, .type rfl ?_⟩
  · rw [← hmarks ⟨v, rfl⟩ name]
    simp
  · rintro ⟨name, hn, hname⟩
    cases hname
    revert hn
    decide

end Validator

end Conformance
