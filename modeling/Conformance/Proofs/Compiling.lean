import Conformance.Proofs.Built
import Conformance.Proofs.Reading
/-!
# Compiling keeps the meaning

What a schema compiles to accepts the values that the schema allows, if what is deferred is
judged as the references are.
-/

namespace Conformance

/-! ## What a validator accepts -/

namespace Validator

/-- Whether the validator accepts, where `e` answers for what is deferred. -/
def accepts (e : Body → Value → Bool) (v : Validator) (x : Value) : Bool :=
  Id.run (testWith (fun b y => pure (e b y)) v x)

theorem run_and (b c : Id Bool) : Id.run (do if ← b then c else pure false) = (b.run && c.run) := by
  show Id.run (if b.run = true then c else pure false) = _
  cases b.run <;> rfl

theorem run_or (b c : Id Bool) : Id.run (do if ← b then pure true else c) = (b.run || c.run) := by
  show Id.run (if b.run = true then pure true else c) = _
  cases b.run <;> rfl

section Accepts

variable {e : Body → Value → Bool} {x : Value}

theorem accepts_all {vs : List Validator} : accepts e (.all vs) x = true ↔ ∀ v ∈ vs, accepts e v x = true := by
  unfold accepts
  rw [testWith]
  induction vs with
  | nil => simp [testAll]
  | cons v vs ih => rw [List.forall_mem_cons, ← ih, testAll, run_and, Bool.and_eq_true]

theorem accepts_any {vs : List Validator} : accepts e (.any vs) x = true ↔ ∃ v ∈ vs, accepts e v x = true := by
  unfold accepts
  rw [testWith]
  induction vs with
  | nil => simp [testAny]
  | cons v vs ih =>
    rw [testAny, run_or, Bool.or_eq_true, ih]
    simp only [List.mem_cons, exists_eq_or_imp]

theorem accepts_hasKey {key : String} : accepts e (.hasKey key) x = true ↔ x.HasKey key := by
  cases x <;> simp [accepts, testWith, Value.HasKey, Entries.has, Option.isSome_iff_exists]

theorem accepts_shape {coverage : Coverage} {fields : List (String × Validator)} :
    accepts e (.shape coverage fields) x = true ↔ ∃ own, x = .obj own ∧ ∀ f ∈ fields,
      (coverage = .full → (own.lookup f.1).isSome) ∧ ∀ y, own.lookup f.1 = some y → accepts e f.2 y = true := by
  cases x with
  | obj own =>
    unfold accepts
    rw [testWith]
    simp only [Value.obj.injEq, exists_eq_left']
    induction fields with
    | nil => simp [testFields]
    | cons f fields ih =>
      obtain ⟨key, v⟩ := f
      rw [List.forall_mem_cons, ← ih]
      simp only [testFields]
      cases own.lookup key with
      | none => cases coverage <;> simp
      | some y =>
        simp only [run_and, Bool.and_eq_true, Option.isSome_some, implies_true, true_and, Option.some.injEq,
          forall_eq']
  | _ => simp [accepts, testWith]

theorem accepts_arrayOf {element : Validator} : accepts e (.arrayOf element) x = true ↔
    ∃ s ys, x = .arr s ys ∧ ∀ y ∈ ys, accepts e element y = true := by
  cases x with
  | arr s ys =>
    have hall : accepts e (.arrayOf element) (.arr s ys) = true ↔ ∀ y ∈ ys, accepts e element y = true := by
      unfold accepts
      rw [testWith]
      induction ys with
      | nil => simp
      | cons y ys ih => rw [allM_cons, run_and, Bool.and_eq_true, ih, List.forall_mem_cons]
    rw [hall]
    constructor
    · exact fun h => ⟨s, ys, rfl, h⟩
    · rintro ⟨_, _, hx, h⟩
      cases hx
      exact h
  | _ => simp [accepts, testWith]

theorem accepts_tupleOf {positions : List Validator} : accepts e (.tupleOf positions) x = true ↔
    ∃ s ys, x = .arr s ys ∧
      ∀ (i : Nat) v y, positions[i]? = some v → ys[i]? = some y → accepts e v y = true := by
  cases x with
  | arr s ys =>
    have hall : accepts e (.tupleOf positions) (.arr s ys) = true ↔
        ∀ (i : Nat) v y, positions[i]? = some v → ys[i]? = some y → accepts e v y = true := by
      unfold accepts
      rw [testWith]
      induction positions generalizing ys with
      | nil => simp [testPositions]
      | cons v vs ih =>
        cases ys with
        | nil => simp [testPositions]
        | cons y ys => rw [testPositions, run_and, Bool.and_eq_true, ih, Meaning.positions_cons]
    rw [hall]
    constructor
    · exact fun h => ⟨s, ys, rfl, h⟩
    · rintro ⟨_, _, hx, h⟩
      cases hx
      exact h
  | _ => simp [accepts, testWith]

theorem accepts_conjuncts {v : Validator} : accepts e v x = true ↔ ∀ w ∈ v.conjuncts, accepts e w x = true := by
  cases v with
  | anything => simp [accepts, testWith, conjuncts]
  | all members => exact accepts_all
  | _ => simp [conjuncts]

/-- The normal form of a conjunction accepts what all members accept. -/
theorem accepts_every {vs : List Validator} :
    accepts e (every vs) x = true ↔ ∀ v ∈ vs, accepts e v x = true := by
  have hflat : (∀ w ∈ vs.flatMap conjuncts, accepts e w x = true) ↔ ∀ v ∈ vs, accepts e v x = true := by
    simp only [List.forall_mem_flatMap, ← accepts_conjuncts]
  rw [← hflat]
  unfold every
  split
  · next h => simp [h, accepts, testWith]
  · next v h => simp [h]
  · exact accepts_all

/-- The normal form of a disjunction accepts what some member accepts. -/
theorem accepts_either {vs : List Validator} :
    accepts e (either vs) x = true ↔ ∃ v ∈ vs, accepts e v x = true := by
  have hchooses : Chooses fun v => accepts e v x = true := ⟨rfl, fun _ => accepts_any⟩
  exact hchooses.either

end Accepts

/-! ## Constraints -/

theorem ofTypeName?_iff {name : Value} {kind : Kind} : Kind.ofTypeName? name = some kind ↔
    name = .str kind.name ∨ name = .str "integer" ∧ kind = .number := by
  constructor
  · intro h
    unfold Kind.ofTypeName? at h
    split at h <;> cases h <;> simp [Kind.name]
  · rintro (rfl | ⟨rfl, rfl⟩)
    · cases kind <;> rfl
    · rfl

section Constraints

variable {e : Body → Value → Bool} {x : Value}

theorem accepts_ofTypeName {name : Value} {v : Validator} (h : ofTypeName name = .ok v) :
    accepts e v x = true ↔ x.IsNamed name := by
  unfold ofTypeName at h
  split at h
  · next kind hkind =>
    cases except_pure_ok h
    simp only [Value.IsNamed, ← ofTypeName?_iff, hkind, Option.some.injEq, exists_eq_right']
    show (x.kind? == some kind) = true ↔ _
    exact beq_iff_eq
  · cases h

theorem accepts_ofType {spec : Value} {v : Validator} (h : ofType spec = .ok v) :
    accepts e v x = true ↔ x.HasType spec := by
  rcases ofType_ok h with ⟨s, names, vs, rfl, hvs, rfl⟩ | ⟨hne, h⟩
  · obtain ⟨hl, hr⟩ := mapM_ok hvs
    rw [accepts_either, Value.HasType]
    constructor
    · rintro ⟨v, hv, hx⟩
      obtain ⟨name, hn, ht⟩ := hr v hv
      exact ⟨name, hn, (accepts_ofTypeName ht).1 hx⟩
    · rintro ⟨name, hn, hx⟩
      obtain ⟨v, hv, ht⟩ := hl name hn
      exact ⟨v, hv, (accepts_ofTypeName ht).2 hx⟩
  · rw [accepts_ofTypeName h]
    cases spec with
    | arr s names => exact (hne s names rfl).elim
    | _ => rfl

/-- What is asked of the fields that a value has, and of those it lacks. -/
def FieldsPass (e : Body → Value → Bool) (needed : List String) (fields : List (String × Validator))
    (own : List (String × Value)) : Prop :=
  ∀ f ∈ fields, (f.1 ∈ needed → (own.lookup f.1).isSome) ∧ ∀ y, own.lookup f.1 = some y → accepts e f.2 y = true

theorem accepts_ofProperties {needed : List String} {fields : List (String × Validator)} :
    accepts e (ofProperties needed fields) x = true ↔
      fields = [] ∨ ∃ own, x = .obj own ∧ FieldsPass e needed fields own := by
  have hshape : ∀ coverage fs, (∀ w ∈ shapeUnlessEmpty coverage fs, accepts e w x = true) ↔
      fs = [] ∨ ∃ own, x = .obj own ∧ ∀ f ∈ fs, (coverage = .full → (own.lookup f.1).isSome) ∧
        ∀ y, own.lookup f.1 = some y → accepts e f.2 y = true := by
    intro coverage fs
    cases fs <;> simp [shapeUnlessEmpty, accepts_shape]
  unfold ofProperties
  simp only [List.partition_eq_filter_filter]
  rw [accepts_every, List.forall_mem_append, hshape, hshape]
  -- an object passes a shape without fields, any other value passes only where there are none at all
  by_cases hobj : ∃ own, x = .obj own
  · obtain ⟨own, rfl⟩ := hobj
    have hnil : ∀ {fs : List (String × Validator)} {P : String × Validator → Prop},
        (fs = [] ∨ ∀ f ∈ fs, P f) ↔ ∀ f ∈ fs, P f := by
      intro fs P
      constructor
      · rintro (rfl | h)
        · exact List.forall_mem_nil _
        · exact h
      · exact .inr
    simp only [Value.obj.injEq, exists_eq_left', FieldsPass, hnil]
    simp only [List.mem_filter]
    constructor
    · rintro ⟨hneeded, hoptional⟩ f hf
      by_cases hk : f.1 ∈ needed
      · obtain ⟨hthere, hy⟩ := hneeded f ⟨hf, by simpa using hk⟩
        exact ⟨fun _ => hthere trivial, hy⟩
      · obtain ⟨_, hy⟩ := hoptional f ⟨hf, by simpa using hk⟩
        exact ⟨fun h => absurd h hk, hy⟩
    · intro h
      constructor
      · rintro f ⟨hf, hk⟩
        exact ⟨fun _ => (h f hf).1 (by simpa using hk), (h f hf).2⟩
      · rintro f ⟨hf, _⟩
        exact ⟨fun hfull => Coverage.noConfusion hfull, (h f hf).2⟩
  · have hno : ∀ P : List (String × Value) → Prop, ¬ ∃ own, x = .obj own ∧ P own := by
      rintro P ⟨own, hown, _⟩
      exact hobj ⟨own, hown⟩
    simp only [hno, or_false, List.filter_eq_nil_iff]
    constructor
    · rintro ⟨hneeded, hoptional⟩
      rw [List.eq_nil_iff_forall_not_mem]
      intro f hf
      exact hoptional f hf (by simpa using hneeded f hf)
    · rintro rfl
      exact ⟨List.forall_mem_nil _, List.forall_mem_nil _⟩

end Constraints

/-! ## Schemas -/

section Compile

variable {e : Body → Value → Bool} {resolve : Value → Except SchemaError Validator} {Ref : Value → Value → Prop}

mutual

/-- What a schema compiles to accepts what the schema allows, if references do. -/
theorem accepts_compileWith (hr : ∀ ref v, resolve ref = .ok v → ∀ x, accepts e v x = true ↔ Ref ref x) :
    ∀ (s : Schema) (v : Validator), s.compileWith resolve = .ok v → ∀ x, accepts e v x = true ↔ s.Allows Ref x
  | .anything, v, h, x => by
    cases except_pure_ok h
    exact iff_of_true rfl trivial
  | .all parts, v, h, x => by
    obtain ⟨vs, hvs, h⟩ := except_bind_ok.1 h
    cases except_pure_ok h
    rw [accepts_every, Schema.Allows]
    exact (accepts_compileAll hr parts vs hvs).1 x
  | .choice branches, v, h, x => by
    obtain ⟨vs, hvs, h⟩ := except_bind_ok.1 h
    cases except_pure_ok h
    rw [accepts_either, Schema.Allows]
    exact (accepts_compileAll hr branches vs hvs).2.1 x
  | .reference ref, v, h, x => hr ref v h x
  | .type spec, v, h, x => accepts_ofType (ofExcept_ok.1 h)
  | .required keys, v, h, x => by
    cases except_pure_ok h
    rw [accepts_every, Schema.Allows, List.forall_mem_map]
    simp only [accepts_hasKey]
  | .properties needed fields, v, h, x => by
    obtain ⟨fs, hfs, h⟩ := except_bind_ok.1 h
    cases except_pure_ok h
    obtain ⟨hnil, hfields⟩ := accepts_compileFields hr fields fs hfs
    rw [accepts_ofProperties, Schema.Allows, hnil]
    simp only [hfields]
  | .items element, v, h, x => by
    obtain ⟨w, hw, h⟩ := except_bind_ok.1 h
    cases except_pure_ok h
    rw [accepts_arrayOf, Schema.Allows]
    simp only [accepts_compileWith hr element w hw]
  | .positions elements, v, h, x => by
    obtain ⟨vs, hvs, h⟩ := except_bind_ok.1 h
    cases except_pure_ok h
    rw [accepts_tupleOf, Schema.Allows]
    simp only [(accepts_compileAll hr elements vs hvs).2.2]
  | .enum values, v, h, x => by
    cases except_pure_ok h
    rw [accepts_either, Schema.Allows]
    constructor
    · rintro ⟨w, hw, hx⟩
      obtain ⟨y, hy, rfl⟩ := List.mem_map.1 hw
      exact ⟨y, hy, hx⟩
    · rintro ⟨y, hy, hx⟩
      exact ⟨_, List.mem_map_of_mem hy, hx⟩

theorem accepts_compileAll (hr : ∀ ref v, resolve ref = .ok v → ∀ x, accepts e v x = true ↔ Ref ref x) :
    ∀ (ss : List Schema) (vs : List Validator), Schema.compileAll resolve ss = .ok vs →
      (∀ x, (∀ v ∈ vs, accepts e v x = true) ↔ Schema.AllowsAll Ref ss x) ∧
      (∀ x, (∃ v ∈ vs, accepts e v x = true) ↔ Schema.AllowsAny Ref ss x) ∧
      ∀ ys, (∀ (i : Nat) v y, vs[i]? = some v → ys[i]? = some y → accepts e v y = true) ↔
        Schema.AllowsPositions Ref ss ys
  | [], vs, h => by
    cases except_pure_ok h
    simp [Schema.AllowsAll, Schema.AllowsAny, Schema.AllowsPositions]
  | s :: ss, vs, h => by
    obtain ⟨w, hw, h⟩ := except_bind_ok.1 h
    obtain ⟨ws, hws, h⟩ := except_bind_ok.1 h
    cases except_pure_ok h
    have hs := accepts_compileWith hr s w hw
    obtain ⟨hall, hany, hpositions⟩ := accepts_compileAll hr ss ws hws
    refine ⟨fun x => ?_, fun x => ?_, fun ys => ?_⟩
    · rw [List.forall_mem_cons, hs, hall, Schema.AllowsAll]
    · simp only [List.mem_cons, exists_eq_or_imp, hs, hany, Schema.AllowsAny]
    · cases ys with
      | nil => simp [Schema.AllowsPositions]
      | cons y ys => rw [Meaning.positions_cons, hs, hpositions, Schema.AllowsPositions]

theorem accepts_compileFields (hr : ∀ ref v, resolve ref = .ok v → ∀ x, accepts e v x = true ↔ Ref ref x) :
    ∀ (fields : List (String × Schema)) (fs : List (String × Validator)),
      Schema.compileFields resolve fields = .ok fs → (fs = [] ↔ fields = []) ∧
      ∀ needed own, FieldsPass e needed fs own ↔ Schema.AllowsFields Ref needed fields own
  | [], fs, h => by
    cases except_pure_ok h
    simp [FieldsPass, Schema.AllowsFields]
  | (key, s) :: fields, fs, h => by
    obtain ⟨w, hw, h⟩ := except_bind_ok.1 h
    obtain ⟨ws, hws, h⟩ := except_bind_ok.1 h
    cases except_pure_ok h
    have hs := accepts_compileWith hr s w hw
    obtain ⟨_, hfields⟩ := accepts_compileFields hr fields ws hws
    refine ⟨by simp, fun needed own => ?_⟩
    rw [Schema.AllowsFields, ← hfields, FieldsPass, List.forall_mem_cons]
    cases own.lookup key with
    | none => simp [FieldsPass]
    | some y => simp [FieldsPass, hs]

end

end Compile

end Validator

end Conformance
