import Conformance.Proofs.Entries
import Conformance.Proofs.NormalForm
import Conformance.Proofs.Respelling
import Conformance.Proofs.Unreached
/-!
# Definitions laid over a document's own

The definitions of the caller are laid over those of the document, and what compiling sees is the table that comes
out. So it makes no difference whether the caller hands that table over, or it stands in the document already: the
same names are checked, there is the same error, or there are validators that no check tells apart. Every reference
in what a document compiles to is to the entry of this table, also the references in the document's own definitions.
-/

namespace Conformance

/-! ## Tables of a document -/

/-- The table that stands in a document. -/
def Value.ownTable? (document : Value) : Option Definitions := document.own?.bind Value.table?

/-- The names of a table, in order; none without a table. -/
def tableNames (table : Option Definitions) : List String := (table.getD []).map Prod.fst

theorem definition?_eq_lookup (table : Option Definitions) (name : String) :
    definition? table name = (table.getD []).lookup name := by
  cases table <;> rfl

theorem nodup_table {v : Value} (h : v.Keyed) : (tableNames v.table?).Nodup := by
  cases h with
  | obj hk _ => exact hk
  | _ => exact List.nodup_nil

theorem nodup_ownTable {document : Value} (h : document.Keyed) : (tableNames document.ownTable?).Nodup := by
  cases h with
  | @obj entries _ hvalues =>
    rw [Value.ownTable?, Value.own?]
    cases hown : entries.lookup "definitions" with
    | none => exact List.nodup_nil
    | some own => exact nodup_table (hvalues _ (Entries.mem_of_lookup hown))
  | _ => exact List.nodup_nil

/-- Tables are laid over each other where there are two. -/
theorem effectiveDefinitions_eq (document : Value) {definitions : Value} (hn : (tableNames definitions.table?).Nodup) :
    effectiveDefinitions document definitions = Option.merge Entries.merge document.ownTable? definitions.table? := by
  have hnone : effectiveDefinitions .null definitions = Option.merge Entries.merge none definitions.table? := by
    cases definitions with
    | obj given => exact congrArg some (Entries.merge_nil hn)
    | _ => rfl
  cases document with
  | obj entries =>
    simp only [effectiveDefinitions, Value.ownTable?, Value.own?]
    cases entries.lookup "definitions" with
    | none => exact hnone
    | some own =>
      cases own with
      | obj base => cases definitions <;> rfl
      | _ => cases definitions <;> exact hnone
  | _ => exact hnone

theorem effectiveDefinitions_eq_none {document definitions : Value} (hn : (tableNames definitions.table?).Nodup) :
    effectiveDefinitions document definitions = none ↔ document.ownTable? = none ∧ definitions.table? = none := by
  rw [effectiveDefinitions_eq _ hn]
  cases document.ownTable? <;> cases definitions.table? <;> simp

/-- Where there is no table it is as good as one without entries. -/
theorem eq_merge_of_effective {document definitions : Value} {table : Definitions}
    (hn : (tableNames definitions.table?).Nodup) (h : effectiveDefinitions document definitions = some table) :
    table = Entries.merge (document.ownTable?.getD []) (definitions.table?.getD []) := by
  rw [effectiveDefinitions_eq _ hn] at h
  unfold tableNames at hn
  cases hown : document.ownTable? <;> cases hgiven : definitions.table? <;> rw [hown, hgiven] at h <;> cases h
  · rw [hgiven] at hn
    exact (Entries.merge_nil hn).symm
  · rfl
  · rfl

theorem effectiveDefinitions_of_table (document : Value) {table : Definitions} (hn : (table.map Prod.fst).Nodup) :
    effectiveDefinitions document (.obj table) = some (Entries.merge (document.ownTable?.getD []) table) := by
  have hn' : (tableNames (Value.obj table).table?).Nodup := hn
  rw [effectiveDefinitions_eq _ hn']
  cases document.ownTable? with
  | none => exact congrArg some (Entries.merge_nil hn).symm
  | some own => rfl

/-! ## The same table -/

/-- Two results: related ones, or one error. -/
inductive Agreed {α β : Type} (R : α → β → Prop) : Except SchemaError α → Except SchemaError β → Prop
  | ok {a : α} {b : β} (h : R a b) : Agreed R (.ok a) (.ok b)
  | error (e : SchemaError) : Agreed R (.error e) (.error e)

namespace Scope

/-- From level marks on, both sides end with one error or with related results, and leave level marks. -/
def pairing (s t : Scope) : Coupling Build Build where
  rel R x y := ∀ marks marks', s.Level t marks marks' →
    Agreed R (x.run marks).1 (y.run marks').1 ∧ s.Level t (x.run marks).2 (y.run marks').2
  pure h _ _ hm := ⟨.ok h, hm⟩
  bind {_ _ _ _ _ _ x y f g} hx hf marks marks' hm := by
    obtain ⟨hr, hm⟩ := hx marks marks' hm
    rw [run_bind, run_bind]
    generalize x.run marks = p at hr hm ⊢
    generalize y.run marks' = q at hr hm ⊢
    obtain ⟨r, after⟩ := p
    obtain ⟨r', after'⟩ := q
    cases hr with
    | ok h => exact hf _ _ h _ _ hm
    | error e => exact ⟨.error e, hm⟩

variable {s t : Scope}

theorem pairing_ofExcept {α : Type} {R : α → α → Prop} {r : Except SchemaError α} (h : ∀ a, r = .ok a → R a a) :
    (s.pairing t).rel R (Build.ofExcept r) (Build.ofExcept r) := by
  intro marks marks' hm
  refine ⟨?_, hm⟩
  cases r with
  | ok a => exact .ok (h a rfl)
  | error e => exact .error e

theorem pairing_once (name : String) (target : Value) {check check' : Value → Build Unit}
    (hc : (s.pairing t).rel Eq (check target) (check' target)) :
    (s.pairing t).rel Eq (s.checkOnce name target check) (t.checkOnce name target check') := by
  intro marks marks' hm
  have hmark : s.mark name ∈ marks ↔ t.mark name ∈ marks' := by
    rw [← marked_iff, ← marked_iff, hm name]
  rw [run_checkOnce, run_checkOnce]
  by_cases h : s.mark name ∈ marks
  · rw [if_pos h, if_pos (hmark.1 h)]
    exact ⟨.ok rfl, hm⟩
  · rw [if_neg h, if_neg fun h' => h (hmark.2 h')]
    exact hc _ _ (hm.append [name])

/-- Any two bodies. -/
def anyBodies (_ _ : Body) : Prop := True

theorem pairing_with (h : t.definitions = s.definitions) {check check' : Value → Build Unit}
    (hc : ∀ target, (s.pairing t).rel Eq (check target) (check' target)) (ref : Value) :
    (s.pairing t).rel (Validator.Twin anyBodies) (s.resolveWith check ref) (t.resolveWith check' ref) := by
  have hl : t.lookUp ref = s.lookUp ref := by
    unfold lookUp find
    rw [h]
  have hlook : (s.pairing t).rel Eq (Build.ofExcept (s.lookUp ref)) (Build.ofExcept (s.lookUp ref)) :=
    pairing_ofExcept fun _ _ => rfl
  rw [resolveWith_eq, resolveWith_eq, hl]
  refine (s.pairing t).bind hlook ?_
  rintro ⟨name, target⟩ _ rfl
  exact (s.pairing t).bind (pairing_once name target (hc target)) fun _ _ _ =>
    (s.pairing t).pure (.reference name trivial)

theorem pairing_compile {resolve resolve' : Value → Build Validator}
    (hr : ∀ ref, (s.pairing t).rel (Validator.Twin anyBodies) (resolve ref) (resolve' ref)) (schema : Schema) :
    (s.pairing t).rel (Validator.Twin anyBodies) (schema.compileWith resolve) (schema.compileWith resolve') := by
  refine (s.pairing t).compileTwin schema fun d _ => ?_
  cases d with
  | reference ref => exact hr ref
  | type spec =>
    show (s.pairing t).rel _ (MonadExcept.ofExcept _) (MonadExcept.ofExcept _)
    cases hv : Validator.ofType spec with
    | ok v => exact (s.pairing t).pure ((Validator.closed_twin _).ofType hv)
    | error e => exact fun _ _ hm => ⟨.error e, hm⟩

theorem pairing_within (h : t.definitions = s.definitions) (fuel : Nat) (ref : Value) :
    (s.pairing t).rel (Validator.Twin anyBodies) (s.resolveWithin fuel ref) (t.resolveWithin fuel ref) := by
  induction fuel generalizing ref with
  | zero => exact pairing_with h (fun _ => (s.pairing t).pure rfl) ref
  | succ fuel ih =>
    refine pairing_with h (fun target => ?_) ref
    exact (s.pairing t).bind (pairing_compile ih _) fun _ _ _ => (s.pairing t).pure rfl

/-- Over one table, nodes that read as one schema end with the same error if they end with one. -/
theorem compile_agreed (h : t.definitions = s.definitions) {node node' : Value}
    (hs : Schema.ofValue node' = Schema.ofValue node) {before before' : List Mark} (hm : s.Level t before before') :
    Agreed (Validator.Twin anyBodies) ((s.compile node).run before).1 ((t.compile node').run before').1 := by
  have hresolve : t.resolveWithin s.size = t.resolve := by
    have hsize : s.size = t.size := by rw [size, size, h]
    rw [hsize]
    rfl
  have hrel := pairing_compile (pairing_within h s.size) (Schema.ofValue node) before before' hm
  rw [hresolve, ← hs] at hrel
  rw [compile, compile, compileSchema, compileSchema, ← hs]
  exact hrel.1

end Scope

namespace Validator

/-- Each compiled in a new scope, the documents end with one error, or with validators that no check tells apart.
The same names are checked, in one order. -/
def CompileAlike (document definitions document' definitions' : Value) : Prop :=
  ∀ (id id' : Nat) (before before' : List Mark), (∀ m ∈ before, m.scope ≠ id) → (∀ m ∈ before', m.scope ≠ id') →
    ∃ (r r' : Except SchemaError Validator) (names : List String),
      (compileDocument id document definitions).run before = (r, before ++ names.map (Mark.mk id)) ∧
      (compileDocument id' document' definitions').run before' = (r', before' ++ names.map (Mark.mk id')) ∧
      Agreed (fun v w => Interchangeable (before ++ names.map (Mark.mk id)) v (before' ++ names.map (Mark.mk id')) w)
        r r'

theorem compile_alike {document definitions document' definitions' : Value}
    (hdocument : document'.without "definitions" = document.without "definitions")
    (htable : effectiveDefinitions document' definitions' = effectiveDefinitions document definitions) :
    CompileAlike document definitions document' definitions' := by
  intro id id' before before' fresh fresh'
  let s : Scope := ⟨id, effectiveDefinitions document definitions⟩
  let t : Scope := ⟨id', effectiveDefinitions document' definitions'⟩
  have hschema : Schema.ofValue document' = Schema.ofValue document := by
    rw [← Schema.ofValue_withoutDefinitions document', hdocument, Schema.ofValue_withoutDefinitions]
  have hconcur : s.Concur t fun _ => True := Scope.concur_of_schemas (congrArg _ htable)
  obtain ⟨r, r', names, hrun, hrun', hmatched⟩ :=
    Scope.compile_lockstep hconcur hschema (fun _ _ => trivial) fresh fresh'
  have hagreed : Agreed (Twin Scope.anyBodies) r r' := by
    have hcompile := Scope.compile_agreed (s := s) (t := t) htable hschema (Scope.level_of_fresh fresh fresh')
    rw [hrun, hrun'] at hcompile
    exact hcompile
  refine ⟨r, r', names, hrun, hrun', ?_⟩
  cases hagreed with
  | ok _ => cases hmatched with | ok h => exact .ok h
  | error e => exact .error e

/-! ## What references stand for -/

section Grounded

variable {scope : Scope} {v w : Validator} {vs : List Validator}

/-- The references that the check is made of, short of what they are compiled to, are over the scope and to its own
definitions. -/
inductive Grounded (scope : Scope) : Validator → Prop
  | mk {v : Validator} (h : ∀ s name target, v = .reference s name target → s = scope ∧ scope.Defines name target)
    (hp : ∀ w, Part v w → Grounded scope w) : Grounded scope v

theorem Grounded.part (h : Grounded scope v) (hp : Part v w) : Grounded scope w := by
  cases h with
  | mk _ h => exact h w hp

theorem part_of_conjuncts (h : w ∈ v.conjuncts) : w = v ∨ Part v w := by
  cases v with
  | anything => cases h
  | all members => exact .inr (.conjunct h)
  | _ => exact .inl (List.mem_singleton.1 h)

theorem part_of_disjuncts (h : w ∈ v.disjuncts) : w = v ∨ Part v w := by
  cases v with
  | any members => exact .inr (.branch h)
  | _ => exact .inl (List.mem_singleton.1 h)

theorem grounded_flatMap {f : Validator → List Validator} (hf : ∀ v w, w ∈ f v → w = v ∨ Part v w)
    (h : ∀ v ∈ vs, Grounded scope v) : ∀ w ∈ vs.flatMap f, Grounded scope w := by
  intro w hw
  obtain ⟨v, hv, hw⟩ := List.mem_flatMap.1 hw
  rcases hf v w hw with rfl | hp
  · exact h w hv
  · exact (h v hv).part hp

theorem grounded_every (h : ∀ v ∈ vs, Grounded scope v) : Grounded scope (every vs) := by
  have hm := grounded_flatMap (fun _ _ => part_of_conjuncts) h
  unfold every
  split
  · exact .mk nofun nofun
  · next v hv => exact hm v (by rw [hv]; exact List.mem_singleton.2 rfl)
  · refine .mk nofun fun w hp => ?_
    cases hp with
    | conjunct hw => exact hm w hw

theorem grounded_either (h : ∀ v ∈ vs, Grounded scope v) : Grounded scope (either vs) := by
  have hm := grounded_flatMap (fun _ _ => part_of_disjuncts) h
  unfold either
  split
  · exact .mk nofun nofun
  · split
    · next v hv => exact hm v (by rw [hv]; exact List.mem_singleton.2 rfl)
    · refine .mk nofun fun w hp => ?_
      cases hp with
      | branch hw => exact hm w hw

theorem closed_grounded : Closed (Grounded scope) where
  guard _ := .mk nofun nofun
  literal _ := .mk nofun nofun
  hasKey _ := .mk nofun nofun
  every _ h := grounded_every h
  either _ h := grounded_either h
  shape coverage fields h := .mk nofun fun w hp => by
    cases hp with
    | field _ hf => exact h _ hf
  arrayOf element h := .mk nofun fun w hp => by
    cases hp with
    | element => exact h
  tupleOf positions h := .mk nofun fun w hp => by
    cases hp with
    | position hw => exact h w hw

theorem grounded_of_compile {node : Value} {marks marks' : List Mark}
    (h : (scope.compile node).run marks = (.ok v, marks')) : Grounded scope v := by
  refine closed_grounded.compileWith (fun ref w hw => ?_) _ v (Scope.linked_of_compile h)
  obtain ⟨r, target, _, hd, _, rfl⟩ := Scope.link_ok.1 hw
  refine .mk (fun s name target' he => ?_) nofun
  cases he
  exact ⟨rfl, hd⟩

/-- Behind a reference over the scope there are only references over it again. -/
theorem Grounded.inside (hv : Grounded scope v) (h : Inside v w) : Grounded scope w := by
  induction h with
  | self => exact hv
  | part hp _ ih => exact ih (hv.part hp)
  | opened name ho _ ih =>
    cases hv with
    | mk hv _ =>
      obtain ⟨rfl, _⟩ := hv _ _ _ rfl
      exact ih (grounded_of_compile ho)

/-- A reference at any depth of what a node compiles to is over the same scope, to its entry of that name. -/
theorem reference_of_inside {node target : Value} {marks marks' : List Mark} {s : Scope} {name : String}
    (h : (scope.compile node).run marks = (.ok v, marks')) (hi : Inside v (.reference s name target)) :
    s = scope ∧ scope.Defines name target := by
  cases (grounded_of_compile h).inside hi with
  | mk h _ => exact h _ _ _ rfl

end Grounded

/-! ## Definitions written into the document -/

/-- What comes out where the definitions of the caller are laid over those of a document. -/
structure Layered (entries : List (String × Value)) (definitions : Value) (table : Definitions) : Prop where
  /-- The entry of the caller is taken first. -/
  lookup : ∀ name, table.lookup name =
    (definition? definitions.table? name).or (definition? (Value.obj entries).ownTable? name)
  names : table.map Prod.fst = tableNames (Value.obj entries).ownTable? ++
    (tableNames definitions.table?).filter (· ∉ tableNames (Value.obj entries).ownTable?)
  again : effectiveDefinitions (.obj entries) (.obj table) = some table
  /-- The table may stand in the document, and the caller gives nothing. -/
  written : CompileAlike (.obj entries) definitions (.obj (Entries.insert "definitions" (.obj table) entries)) .null
  /-- The table may be the caller's, and the document has none. -/
  given : CompileAlike (.obj entries) definitions (.obj (Entries.without "definitions" entries)) (.obj table)
  /-- Every reference at any depth, also of the document's own definitions, is to an entry of the table. -/
  references : ∀ {id : Nat} {before after : List Mark} {v : Validator},
    (compileDocument id (.obj entries) definitions).run before = (.ok v, after) →
      ∀ s name target, Inside v (.reference s name target) → s = ⟨id, some table⟩ ∧ table.lookup name = some target

section Layered

variable {entries : List (String × Value)} {definitions : Value} {table : Definitions}

theorem layered (hd : (Value.obj entries).Keyed) (hc : definitions.Keyed)
    (h : effectiveDefinitions (.obj entries) definitions = some table) : Layered entries definitions table := by
  have hown := nodup_ownTable hd
  have hgiven := nodup_table hc
  have htable : table = _ := eq_merge_of_effective hgiven h
  have hnodup : (table.map Prod.fst).Nodup := htable ▸ Entries.nodup_merge hown
  constructor
  case lookup =>
    intro name
    rw [htable, Entries.lookup_merge_of_nodup hgiven, definition?_eq_lookup, definition?_eq_lookup]
  case names =>
    rw [htable, Entries.keys_merge hgiven]
    rfl
  case again =>
    rw [effectiveDefinitions_of_table _ hnodup, htable, Entries.merge_merge hown hgiven]
  case written =>
    have hwithout : (Value.obj (Entries.insert "definitions" (.obj table) entries)).without "definitions" =
        (Value.obj entries).without "definitions" := congrArg Value.obj (Entries.without_insert _ _ _)
    refine compile_alike hwithout ?_
    rw [h]
    simp only [effectiveDefinitions, Entries.lookup_insert, if_true]
  case given =>
    have hwithout : (Value.obj (Entries.without "definitions" entries)).without "definitions" =
        (Value.obj entries).without "definitions" := congrArg Value.obj (Entries.without_without _ _)
    have hnone : (Value.obj (Entries.without "definitions" entries)).ownTable? = none := by
      rw [Value.ownTable?, Value.own?, Entries.lookup_without_self, Option.bind_none]
    refine compile_alike hwithout ?_
    rw [h, effectiveDefinitions_of_table _ hnodup, hnone]
    exact congrArg some (Entries.merge_nil hnodup)
  case references =>
    intro id before after v hrun s name target hi
    rw [compileDocument, h] at hrun
    obtain ⟨rfl, table', ht, hlookup⟩ := reference_of_inside hrun hi
    cases ht
    exact ⟨rfl, hlookup⟩

/-- There is no table only if neither side has one, and then nothing depends on what the caller gives instead of
one or on what the document has in its place. Otherwise the table that comes out may as well be written into the
document, or be the only one. -/
theorem compile_layered (hd : (Value.obj entries).Keyed) (hc : definitions.Keyed) :
    (effectiveDefinitions (.obj entries) definitions = none ↔
      (Value.obj entries).ownTable? = none ∧ definitions.table? = none) ∧
    (effectiveDefinitions (.obj entries) definitions = none → ∀ document' definitions',
      document'.without "definitions" = (Value.obj entries).without "definitions" →
      effectiveDefinitions document' definitions' = none →
        CompileAlike (.obj entries) definitions document' definitions') ∧
    ∀ table, effectiveDefinitions (.obj entries) definitions = some table → Layered entries definitions table := by
  refine ⟨effectiveDefinitions_eq_none (nodup_table hc), ?_, fun table => layered hd hc⟩
  intro hnone document' definitions' hdocument hnone'
  exact compile_alike hdocument (hnone'.trans hnone.symm)

end Layered

/-- The document refers to its own definition, which refers to one that the caller has as well. -/
def layeredEntries : List (String × Value) :=
  [("$ref", .str "#/definitions/own"),
    ("definitions", .obj [("own", .obj [("$ref", .str "#/definitions/x")]), ("x", .obj [("type", .str "string")])])]

def overriding : Value := .obj [("more", .obj []), ("x", .obj [("type", .str "number")])]

theorem keyed_single {key : String} {v : Value} (h : v.Keyed) : (Value.obj [(key, v)]).Keyed :=
  .obj (List.pairwise_singleton _ _) (List.forall_mem_singleton.2 h)

theorem keyed_layeredEntries : (Value.obj layeredEntries).Keyed := by
  have hown : (Value.obj [("own", .obj [("$ref", .str "#/definitions/x")]),
      ("x", .obj [("type", .str "string")])]).Keyed :=
    .obj (by decide) (List.forall_mem_cons.2
      ⟨keyed_single (.str _), List.forall_mem_singleton.2 (keyed_single (.str _))⟩)
  exact .obj (by decide) (List.forall_mem_cons.2 ⟨.str _, List.forall_mem_singleton.2 hown⟩)

theorem keyed_overriding : overriding.Keyed := by
  have hempty : (Value.obj []).Keyed := .obj List.nodup_nil (List.forall_mem_nil _)
  exact .obj (by decide) (List.forall_mem_cons.2 ⟨hempty, List.forall_mem_singleton.2 (keyed_single (.str _))⟩)

set_option maxRecDepth 2000 in
/-- The document's own definition gets a number where the document says text. -/
theorem compile_layered_overriding :
    let table : Definitions := [("own", .obj [("$ref", .str "#/definitions/x")]), ("x", .obj [("type", .str "number")]),
      ("more", .obj [])]
    (Value.obj layeredEntries).Keyed ∧ overriding.Keyed ∧
      effectiveDefinitions (.obj layeredEntries) overriding = some table ∧ Layered layeredEntries overriding table ∧
      ∃ v, (compileDocument 0 (.obj layeredEntries) overriding).run [] = (.ok v, [⟨0, "own"⟩, ⟨0, "x"⟩]) ∧
        Inside v (.reference ⟨0, some table⟩ "x" (.obj [("type", .str "number")])) := by
  intro table
  have hd : (Value.obj layeredEntries).Keyed := keyed_layeredEntries
  have hc : overriding.Keyed := keyed_overriding
  have htable : effectiveDefinitions (.obj layeredEntries) overriding = some table := rfl
  refine ⟨hd, hc, htable, (compile_layered hd hc).2.2 table htable, _, rfl, ?_⟩
  have hopen : (Scope.compile ⟨0, some table⟩ (.obj [("$ref", .str "#/definitions/x")])).run [⟨0, "own"⟩, ⟨0, "x"⟩] =
      (.ok (.reference ⟨0, some table⟩ "x" (.obj [("type", .str "number")])), [⟨0, "own"⟩, ⟨0, "x"⟩]) := rfl
  exact .opened "own" hopen (.self _)

end Validator

end Conformance
