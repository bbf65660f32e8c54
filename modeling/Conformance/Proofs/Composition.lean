import Conformance.Proofs.Simulation
/-!
# What compiling builds

A property of validators that the combinators keep holds of every validator a schema compiles
to, if it holds of the validators its references resolve to.
-/

namespace Conformance

namespace Validator

/-! ## Members -/

/-- Something in a flattened list has a property if some item has it, as judged by its own list. -/
theorem exists_mem_flatMap {α β : Type} {f : α → List β} {P : α → Prop} {Q : β → Prop}
    (h : ∀ a, P a ↔ ∃ b ∈ f a, Q b) (as : List α) : (∃ b ∈ as.flatMap f, Q b) ↔ ∃ a ∈ as, P a := by
  constructor
  · rintro ⟨b, hb, hq⟩
    obtain ⟨a, ha, hb⟩ := List.mem_flatMap.1 hb
    exact ⟨a, ha, (h a).2 ⟨b, hb, hq⟩⟩
  · rintro ⟨a, ha, hp⟩
    obtain ⟨b, hb, hq⟩ := (h a).1 hp
    exact ⟨b, List.mem_flatMap.2 ⟨a, ha, hb⟩, hq⟩

/-- What `f` lists for a conjunction or a disjunction is what it lists for the members. -/
structure Gathers {α : Type} (f : Validator → List α) : Prop where
  anything : f .anything = []
  all : ∀ a members, a ∈ f (.all members) ↔ ∃ v ∈ members, a ∈ f v
  any : ∀ a members, a ∈ f (.any members) ↔ ∃ v ∈ members, a ∈ f v

section Gathers

variable {α : Type} {f : Validator → List α} {a : α}

theorem Gathers.mem_conjuncts (hf : Gathers f) (v : Validator) : a ∈ f v ↔ ∃ w ∈ v.conjuncts, a ∈ f w := by
  cases v with
  | anything => simp [conjuncts, hf.anything]
  | all members => exact hf.all a members
  | _ => simp [conjuncts]

theorem Gathers.mem_disjuncts (hf : Gathers f) (v : Validator) : a ∈ f v ↔ ∃ w ∈ v.disjuncts, a ∈ f w := by
  cases v with
  | any members => exact hf.any a members
  | _ => simp [disjuncts]

theorem Gathers.mem_every (hf : Gathers f) {vs : List Validator} : a ∈ f (every vs) ↔ ∃ v ∈ vs, a ∈ f v := by
  rw [← exists_mem_flatMap hf.mem_conjuncts]
  unfold every
  split
  · next h => simp [h, hf.anything]
  · next v h => simp [h]
  · exact hf.all a _

/-- A disjunction may list less than its members, where one of them accepts anything. -/
theorem Gathers.mem_either (hf : Gathers f) {vs : List Validator} (h : a ∈ f (either vs)) : ∃ v ∈ vs, a ∈ f v := by
  rw [← exists_mem_flatMap hf.mem_disjuncts]
  unfold either at h
  split at h
  · simp [hf.anything] at h
  · split at h
    · next v hv => simpa [hv] using h
    · exact (hf.any a _).1 h

end Gathers

theorem gathers_bodies : Gathers bodies where
  anything := rfl
  all _ _ := mem_bodiesAll
  any _ _ := mem_bodiesAll

theorem gathers_calls (x : Value) : Gathers (calls · x) where
  anything := rfl
  all _ _ := mem_callsAll
  any _ _ := mem_callsAll

/-- A disjunction has the property exactly where some branch has it, as has a check that accepts anything. -/
structure Chooses (P : Validator → Prop) : Prop where
  anything : P .anything
  any : ∀ members, P (.any members) ↔ ∃ v ∈ members, P v

section Chooses

variable {P : Validator → Prop}

theorem Chooses.disjuncts (hP : Chooses P) (v : Validator) : P v ↔ ∃ w ∈ v.disjuncts, P w := by
  cases v with
  | any members => exact hP.any members
  | _ => simp [Validator.disjuncts]

theorem Chooses.either (hP : Chooses P) {vs : List Validator} : P (either vs) ↔ ∃ v ∈ vs, P v := by
  unfold Validator.either
  split
  · next hany =>
    obtain ⟨v, hv, ha⟩ := List.any_eq_true.1 hany
    refine iff_of_true hP.anything ⟨v, hv, ?_⟩
    cases v <;> first | exact hP.anything | cases ha
  · split
    · next v h => simp [← exists_mem_flatMap hP.disjuncts, h]
    · rw [hP.any, exists_mem_flatMap hP.disjuncts]

end Chooses

/-! ## Closed properties -/

/-- The property holds of the primitive checks, and the combinators keep it. -/
structure Closed (P : Validator → Prop) : Prop where
  guard : ∀ kind, P (.guard kind)
  literal : ∀ expected, P (.literal expected)
  hasKey : ∀ key, P (.hasKey key)
  every : ∀ vs, (∀ v ∈ vs, P v) → P (every vs)
  either : ∀ vs, (∀ v ∈ vs, P v) → P (either vs)
  shape : ∀ coverage fields, (∀ f ∈ fields, P f.2) → P (.shape coverage fields)
  arrayOf : ∀ element, P element → P (.arrayOf element)
  tupleOf : ∀ positions, (∀ v ∈ positions, P v) → P (.tupleOf positions)

/-- To hold only bodies of a sort is such a property. -/
theorem closed_bodies (Q : Body → Prop) : Closed fun v => ∀ b ∈ v.bodies, Q b where
  guard _ := List.forall_mem_nil _
  literal _ := List.forall_mem_nil _
  hasKey _ := List.forall_mem_nil _
  every vs h b hb := by
    obtain ⟨v, hv, hb⟩ := gathers_bodies.mem_every.1 hb
    exact h v hv b hb
  either vs h b hb := by
    obtain ⟨v, hv, hb⟩ := gathers_bodies.mem_either hb
    exact h v hv b hb
  shape coverage fields h b hb := by
    obtain ⟨f, hf, hb⟩ := mem_bodiesFields.1 hb
    exact h f hf b hb
  arrayOf _ h := h
  tupleOf positions h b hb := by
    obtain ⟨v, hv, hb⟩ := mem_bodiesAll.1 hb
    exact h v hv b hb

variable {P : Validator → Prop}

theorem Closed.ofTypeName (hP : Closed P) {spec : Value} {v : Validator} (h : ofTypeName spec = .ok v) : P v := by
  unfold Validator.ofTypeName at h
  split at h
  · cases except_pure_ok h; exact hP.guard _
  · cases h

/-- A list of type names is a choice of them, anything else is one name. -/
theorem ofType_ok {spec : Value} {v : Validator} (h : ofType spec = .ok v) :
    (∃ sequence specs vs, spec = .arr sequence specs ∧ specs.mapM Validator.ofTypeName = .ok vs ∧ v = either vs) ∨
      (∀ sequence specs, spec ≠ .arr sequence specs) ∧ Validator.ofTypeName spec = .ok v := by
  cases spec with
  | arr sequence specs =>
    obtain ⟨vs, hvs, rfl⟩ := except_map_ok h
    exact .inl ⟨sequence, specs, vs, rfl, hvs, rfl⟩
  | _ => exact .inr ⟨nofun, h⟩

theorem Closed.ofType (hP : Closed P) {spec : Value} {v : Validator} (h : ofType spec = .ok v) : P v := by
  rcases ofType_ok h with ⟨_, specs, vs, _, hvs, rfl⟩ | ⟨_, h⟩
  · refine hP.either _ fun w hw => ?_
    obtain ⟨_, _, ht⟩ := (mapM_ok hvs).2 w hw
    exact hP.ofTypeName ht
  · exact hP.ofTypeName h

theorem Closed.ofProperties (hP : Closed P) (needed : List String) {fields : List (String × Validator)}
    (h : ∀ f ∈ fields, P f.2) : P (ofProperties needed fields) := by
  unfold Validator.ofProperties
  simp only [List.partition_eq_filter_filter]
  have hshape : ∀ coverage fields, (∀ f ∈ fields, P f.2) → ∀ v ∈ shapeUnlessEmpty coverage fields, P v := by
    intro coverage fields hf v hv
    cases fields with
    | nil => cases hv
    | cons f fields => cases List.mem_singleton.1 hv; exact hP.shape _ _ hf
  have hfilter : ∀ keep, ∀ f ∈ fields.filter keep, P f.2 := fun keep f hf => h f (List.mem_filter.1 hf).1
  refine hP.every _ fun v hv => ?_
  rcases List.mem_append.1 hv with hv | hv
  · exact hshape _ _ (hfilter _) v hv
  · exact hshape _ _ (hfilter _) v hv

/-! ## What a schema compiles to -/

section Supplies

variable {m : Type → Type} [Monad m] [MonadExcept SchemaError m] [MonadAttach m] {resolve : Value → m Validator}

/-- Whatever meets a demand of a schema has the property. -/
structure Supplies (P : Validator → Prop) (resolve : Value → m Validator) : Prop where
  reference : ∀ ref v, MonadAttach.CanReturn (resolve ref) v → P v
  type : ∀ spec v, MonadAttach.CanReturn (MonadExcept.ofExcept (ofType spec) : m Validator) v → P v

variable [LawfulMonad m] [LawfulMonadAttach m]

open LawfulMonadAttach

mutual

theorem Closed.supplied (hP : Closed P) (hr : Supplies P resolve) :
    ∀ (s : Schema) (v : Validator), MonadAttach.CanReturn (s.compileWith resolve) v → P v
  | .anything, v, h => by
    cases eq_of_canReturn_pure h
    exact hP.every [] (List.forall_mem_nil _)
  | .all parts, v, h => by
    obtain ⟨vs, hvs, h⟩ := canReturn_bind_imp' h
    cases eq_of_canReturn_pure h
    exact hP.every _ (Closed.suppliedAll hP hr parts vs hvs)
  | .choice branches, v, h => by
    obtain ⟨vs, hvs, h⟩ := canReturn_bind_imp' h
    cases eq_of_canReturn_pure h
    exact hP.either _ (Closed.suppliedAll hP hr branches vs hvs)
  | .reference ref, v, h => hr.reference ref v h
  | .type spec, v, h => hr.type spec v h
  | .required keys, v, h => by
    cases eq_of_canReturn_pure h
    exact hP.every _ (List.forall_mem_map.2 fun key _ => hP.hasKey key)
  | .properties needed fields, v, h => by
    obtain ⟨fs, hfs, h⟩ := canReturn_bind_imp' h
    cases eq_of_canReturn_pure h
    exact hP.ofProperties needed (Closed.suppliedFields hP hr fields fs hfs)
  | .items element, v, h => by
    obtain ⟨w, hw, h⟩ := canReturn_bind_imp' h
    cases eq_of_canReturn_pure h
    exact hP.arrayOf _ (Closed.supplied hP hr element w hw)
  | .positions elements, v, h => by
    obtain ⟨vs, hvs, h⟩ := canReturn_bind_imp' h
    cases eq_of_canReturn_pure h
    exact hP.tupleOf _ (Closed.suppliedAll hP hr elements vs hvs)
  | .enum values, v, h => by
    cases eq_of_canReturn_pure h
    exact hP.either _ (List.forall_mem_map.2 fun x _ => hP.literal x)

theorem Closed.suppliedAll (hP : Closed P) (hr : Supplies P resolve) :
    ∀ (ss : List Schema) (vs : List Validator),
      MonadAttach.CanReturn (Schema.compileAll resolve ss) vs → ∀ v ∈ vs, P v
  | [], vs, h => by
    cases eq_of_canReturn_pure h
    exact List.forall_mem_nil _
  | s :: ss, vs, h => by
    obtain ⟨w, hw, h⟩ := canReturn_bind_imp' h
    obtain ⟨ws, hws, h⟩ := canReturn_bind_imp' h
    cases eq_of_canReturn_pure h
    exact List.forall_mem_cons.2 ⟨Closed.supplied hP hr s w hw, Closed.suppliedAll hP hr ss ws hws⟩

theorem Closed.suppliedFields (hP : Closed P) (hr : Supplies P resolve) :
    ∀ (fields : List (String × Schema)) (fs : List (String × Validator)),
      MonadAttach.CanReturn (Schema.compileFields resolve fields) fs → ∀ f ∈ fs, P f.2
  | [], fs, h => by
    cases eq_of_canReturn_pure h
    exact List.forall_mem_nil _
  | (key, s) :: fields, fs, h => by
    obtain ⟨w, hw, h⟩ := canReturn_bind_imp' h
    obtain ⟨ws, hws, h⟩ := canReturn_bind_imp' h
    cases eq_of_canReturn_pure h
    exact List.forall_mem_cons.2 ⟨Closed.supplied hP hr s w hw, Closed.suppliedFields hP hr fields ws hws⟩

end

end Supplies

theorem Closed.compileWith (hP : Closed P) {resolve : Value → Except SchemaError Validator}
    (hr : ∀ ref v, resolve ref = .ok v → P v) (s : Schema) (v : Validator) (h : s.compileWith resolve = .ok v) : P v := by
  have hs : Supplies P resolve := ⟨hr, fun _ _ ht => hP.ofType (ofExcept_ok.1 ht)⟩
  exact hP.supplied hs s v h

end Validator

end Conformance
