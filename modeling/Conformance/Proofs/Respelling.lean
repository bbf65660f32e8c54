import Conformance.Proofs.Lockstep
import Conformance.Proofs.Spelling
/-!
# Documents that are spelled differently

A document may be changed in all that its schema is not read off, and so may the definitions that it
is compiled with. What compiling sees of a table are the schemas under its names. So the document
compiles before and after any number of such changes, and to validators that no check tells apart, or both
times it fails with the same code.
-/

namespace Conformance

/-! ## Tables -/

namespace Value

/-- What a document has in the place of its own definitions. -/
def own? : Value → Option Value
  | .obj entries => entries.lookup "definitions"
  | _ => none

def table? : Value → Option Definitions
  | .obj entries => some entries
  | _ => none

end Value

/-- What is seen of two tables of which the second is laid over the first. -/
def overlay {α : Type} (base more : String → Option α) (name : String) : Option α := (more name).or (base name)

section Readings

variable {α : Type} {f : Value → α}

theorem readings_merge (base more : Definitions) : readings f (some (Entries.merge base more)) =
    Option.merge overlay (readings f (some base)) (readings f (some more.reverse)) := by
  have hlookup : ∀ name, ((Entries.merge base more).lookup name).map f =
      ((more.reverse.lookup name).map f).or ((base.lookup name).map f) := by
    intro name
    rw [Entries.lookup_merge, Option.map_or]
  exact congrArg some (funext hlookup)

theorem readings_effectiveDefinitions (document definitions : Value) :
    readings f (effectiveDefinitions document definitions) =
      Option.merge overlay (readings f (document.own?.bind Value.table?))
        (readings f (definitions.table?.map List.reverse)) := by
  have hgiven : ∀ more : Definitions, readings f (some (Entries.merge [] more)) = readings f (some more.reverse) := by
    intro more
    rw [readings_merge]
    exact congrArg some (funext fun name => Option.or_none)
  -- a document without a table of its own is as good as none
  have hnone : readings f (effectiveDefinitions .null definitions) =
      Option.merge overlay none (readings f (definitions.table?.map List.reverse)) := by
    cases definitions with
    | obj more => exact hgiven more
    | _ => rfl
  cases document with
  | obj entries =>
    simp only [effectiveDefinitions, Value.own?]
    cases entries.lookup "definitions" with
    | none => exact hnone
    | some own =>
      cases own with
      | obj base =>
        cases definitions with
        | obj more => exact readings_merge base more
        | _ => rfl
      | _ => cases definitions <;> exact hnone
  | _ => exact hnone

end Readings

/-! ## Changes to a document -/

/-- A change to a document, or to the definitions that it is compiled with: to some node of the document, which
leaves its own definitions alone, to these, or to those of the caller. -/
inductive Respelling : Value × Value → Value × Value → Prop
  | document {old new document document' : Value} (definitions : Value) (h : Change old new)
    (hr : Replaced old new document document') (ho : document'.own? = document.own?) :
    Respelling (document, definitions) (document', definitions)
  | own {pre : List (String × Value)} {table table' : Definitions} (post : List (String × Value))
    (definitions : Value) (hp : pre.lookup "definitions" = none) (h : TableChange table table') :
    Respelling (.obj (pre ++ ("definitions", .obj table) :: post), definitions)
      (.obj (pre ++ ("definitions", .obj table') :: post), definitions)
  | given (document : Value) {table table' : Definitions} (h : TableChange table table') :
    Respelling (document, .obj table) (document, .obj table')

/-- What compiling can see of a document and the definitions that it is compiled with. -/
def visible (source : Value × Value) : Schema × Option (String → Option Schema) :=
  (Schema.ofValue source.1, readings Schema.ofValue (effectiveDefinitions source.1 source.2))

theorem Respelling.visible_eq {source source' : Value × Value} (h : Respelling source source') :
    visible source' = visible source := by
  cases h with
  | document definitions h hr ho =>
    refine Prod.ext (hr.ofValue_eq h.ofValue_eq) ?_
    show readings _ _ = readings _ _
    rw [readings_effectiveDefinitions, readings_effectiveDefinitions, ho]
  | @own pre table table' post definitions hp h =>
    have hlookup : ∀ t, (pre ++ ("definitions", Value.obj t) :: post).lookup "definitions" = some (.obj t) := by
      intro t
      rw [Entries.lookup_middle post hp, if_pos rfl]
    refine Prod.ext (Schema.ofValue_middle hp (.definitions _ _)) ?_
    show readings _ _ = readings _ _
    rw [readings_effectiveDefinitions, readings_effectiveDefinitions]
    simp only [Value.own?, hlookup, Option.bind_some, Value.table?, h.schemas_eq]
  | given document h =>
    refine Prod.ext rfl ?_
    show readings _ _ = readings _ _
    rw [readings_effectiveDefinitions, readings_effectiveDefinitions]
    simp only [Value.table?, Option.map_some, h.reverse.schemas_eq]

theorem visible_of_respelled {source source' : Value × Value} (h : Relation.EqvGen Respelling source source') :
    visible source' = visible source := by
  induction h with
  | rel _ _ h => exact h.visible_eq
  | refl _ => rfl
  | symm _ _ _ ih => exact ih.symm
  | trans _ _ _ _ _ ih ih' => exact ih'.trans ih

/-! ## Compiling -/

namespace Scope

variable {s t : Scope}

theorem find_matched {α : Type} {f : Value → α} (h : readings f t.definitions = readings f s.definitions)
    (ref : Reference) : Matched (fun target target' => f target' = f target) (s.find ref) (t.find ref) := by
  unfold find
  cases hs : s.definitions with
  | none =>
    cases ht : t.definitions with
    | none => exact .error rfl
    | some table =>
      rw [hs, ht] at h
      cases h
  | some table =>
    cases ht : t.definitions with
    | none =>
      rw [hs, ht] at h
      cases h
    | some table' =>
      rw [hs, ht] at h
      have hname : (table'.lookup ref.name).map f = (table.lookup ref.name).map f :=
        congrFun (Option.some.inj h) ref.name
      dsimp only
      cases hl : table.lookup ref.name <;> cases hl' : table'.lookup ref.name <;> rw [hl, hl'] at hname
      · exact .error rfl
      · cases hname
      · cases hname
      · exact .ok (Option.some.inj hname)

/-- Scopes agree on all references if what is seen of the definitions is the same and synonyms are told by it. -/
theorem concur_of_readings {α : Type} {f : Value → α}
    (hf : ∀ node node', f node' = f node → Schema.Synonym (Schema.ofValue node) (Schema.ofValue node'))
    (h : readings f t.definitions = readings f s.definitions) : s.Concur t fun _ => True := by
  intro ref _
  have hread : Matched Eq (Reference.ofValue ref) (Reference.ofValue ref) := .of_eq fun _ _ => rfl
  refine matching.bind hread ?_
  rintro r _ rfl
  exact matching.bind (find_matched h r) fun _ _ hs => .ok ⟨rfl, hf _ _ hs, fun _ _ => trivial⟩

/-- Scopes in which the names have the same schemas agree on all references. -/
theorem concur_of_schemas (h : readings Schema.ofValue t.definitions = readings Schema.ofValue s.definitions) :
    s.Concur t fun _ => True := concur_of_readings (fun _ _ hs => .of_eq hs.symm) h

end Scope

namespace Validator

/-- Before and after any number of changes, each of them made or taken back, a document compiles in both forms
or in neither. The names that are checked are the same and come in the same order. An error has the same code
in both, and no check of any value tells the validators apart. -/
theorem compile_of_respelled {id id' : Nat} {document document' definitions definitions' : Value}
    {before before' : List Mark} (fresh : ∀ m ∈ before, m.scope ≠ id) (fresh' : ∀ m ∈ before', m.scope ≠ id')
    (h : Relation.EqvGen Respelling (document, definitions) (document', definitions')) :
    ∃ (r r' : Except SchemaError Validator) (names : List String),
      (compileDocument id document definitions).run before = (r, before ++ names.map (Mark.mk id)) ∧
      (compileDocument id' document' definitions').run before' = (r', before' ++ names.map (Mark.mk id')) ∧
      Matched (fun v w => Interchangeable (before ++ names.map (Mark.mk id)) v (before' ++ names.map (Mark.mk id')) w)
        r r' := by
  obtain ⟨hschema, hschemas⟩ := Prod.mk.inj (visible_of_respelled h)
  exact Scope.compile_lockstep (Scope.concur_of_schemas hschemas) hschema (fun _ _ => trivial) fresh fresh'

/-- A reference to a definition that requires a key, and something that is none. -/
def plainSource : Value × Value :=
  (.obj [("$ref", .str "#/definitions/a"),
    ("definitions", .obj [("a", .obj [("type", .str "object"), ("required", .list [.str "x", .int 1])])])], .null)

/-- The keys are in another order, the definition has a title, and it requires the key only. -/
def titledSource : Value × Value :=
  (.obj [("definitions", .obj [("a", .obj [("title", .str "A"), ("type", .str "object"),
    ("required", .list [.str "x"])])]), ("$ref", .str "#/definitions/a")], .null)

theorem compile_of_respelled_titled : Relation.EqvGen Respelling plainSource titledSource ∧
    ∃ (r r' : Except SchemaError Validator) (names : List String),
      (compileDocument 0 plainSource.1 plainSource.2).run [] = (r, names.map (Mark.mk 0)) ∧
      (compileDocument 1 titledSource.1 titledSource.2).run [] = (r', names.map (Mark.mk 1)) ∧
      Matched (fun v w => Interchangeable (names.map (Mark.mk 0)) v (names.map (Mark.mk 1)) w) r r' := by
  have hfresh : ∀ id, ∀ m ∈ ([] : List Mark), m.scope ≠ id := fun _ => List.forall_mem_nil _
  have hpermute : Change plainSource.1 (.obj [("definitions", .obj [("a", .obj [("type", .str "object"),
      ("required", .list [.str "x", .int 1])])]), ("$ref", .str "#/definitions/a")]) :=
    .permute (by decide) (.swap _ _ [])
  have htitle : Change (.obj [("type", .str "object"), ("required", .list [.str "x", .int 1])])
      (.obj [("title", .str "A"), ("type", .str "object"), ("required", .list [.str "x", .int 1])]) :=
    .ignored [] _ ⟨by decide, fun hk => absurd hk (by decide), fun hk => absurd hk (by decide)⟩ rfl
  have hname : Change (.obj [("title", .str "A"), ("type", .str "object"), ("required", .list [.str "x"])])
      (.obj [("title", .str "A"), ("type", .str "object"), ("required", .list [.str "x", .int 1])]) :=
    @Change.unnamed [("title", .str "A"), ("type", .str "object")] [] .list [.str "x"] [] (.int 1) rfl nofun
  have h : Relation.EqvGen Respelling plainSource titledSource := by
    refine .trans _ _ _ (.rel _ _ (.document .null hpermute .here rfl)) ?_
    refine .trans _ _ _ (.rel _ _ (@Respelling.own [] _ _ _ .null rfl (.entry [] [] "a" htitle .here))) ?_
    exact .symm _ _ (.rel _ _ (@Respelling.own [] _ _ _ .null rfl (.entry [] [] "a" hname .here)))
  exact ⟨h, compile_of_respelled (hfresh 0) (hfresh 1) h⟩

end Validator

end Conformance
