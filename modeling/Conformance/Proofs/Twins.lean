import Conformance.Proofs.Composition
import Mathlib.Data.List.Forall2
/-!
# Twins

Two validators are twins if they differ in nothing but the bodies that they hold, and these are
related. What the combinators make of twins are twins, so one schema compiles to twins where its
references resolve to twins. Checks of twins do the same work, if entering related bodies is the
same work.
-/

namespace Conformance

namespace Validator

mutual

/-- The same checks, but for the bodies. -/
inductive Twin (R : Body → Body → Prop) : Validator → Validator → Prop
  | anything : Twin R .anything .anything
  | guard (kind : Kind) : Twin R (.guard kind) (.guard kind)
  | literal (expected : Value) : Twin R (.literal expected) (.literal expected)
  | hasKey (key : String) : Twin R (.hasKey key) (.hasKey key)
  | all {vs ws : List Validator} (h : List.Forall₂ (Twin R) vs ws) : Twin R (.all vs) (.all ws)
  | any {vs ws : List Validator} (h : List.Forall₂ (Twin R) vs ws) : Twin R (.any vs) (.any ws)
  | shape (coverage : Coverage) {fields fields' : List (String × Validator)}
    (h : List.Forall₂ (TwinField R) fields fields') : Twin R (.shape coverage fields) (.shape coverage fields')
  | arrayOf {v w : Validator} (h : Twin R v w) : Twin R (.arrayOf v) (.arrayOf w)
  | tupleOf {vs ws : List Validator} (h : List.Forall₂ (Twin R) vs ws) : Twin R (.tupleOf vs) (.tupleOf ws)
  | deferred (name : String) {v w : Validator} (h : R (.ready v) (.ready w)) :
    Twin R (.deferred name v) (.deferred name w)
  | reference (name : String) {scope scope' : Scope} {target target' : Value}
    (h : R (.node scope target) (.node scope' target')) :
    Twin R (.reference scope name target) (.reference scope' name target')

/-- Twins under one key. -/
inductive TwinField (R : Body → Body → Prop) : String × Validator → String × Validator → Prop
  | mk (key : String) {v w : Validator} (h : Twin R v w) : TwinField R (key, v) (key, w)

end

variable {R : Body → Body → Prop} {v w : Validator} {vs ws : List Validator}

theorem Twin.describe_eq (h : Twin R v w) : w.describe = v.describe := by cases h <;> rfl

/-! ## Combinators -/

theorem Twin.conjuncts (h : Twin R v w) : List.Forall₂ (Twin R) v.conjuncts w.conjuncts := by
  have hself : List.Forall₂ (Twin R) [v] [w] := .cons h .nil
  cases h with
  | anything => exact .nil
  | all h => exact h
  | _ => exact hself

theorem Twin.disjuncts (h : Twin R v w) : List.Forall₂ (Twin R) v.disjuncts w.disjuncts := by
  have hself : List.Forall₂ (Twin R) [v] [w] := .cons h .nil
  cases h with
  | any h => exact h
  | _ => exact hself

theorem Twin.isAnything_eq (h : Twin R v w) : v.isAnything = w.isAnything := by cases h <;> rfl

theorem twin_every (h : List.Forall₂ (Twin R) vs ws) : Twin R (every vs) (every ws) := by
  have hm : List.Forall₂ (Twin R) (vs.flatMap conjuncts) (ws.flatMap conjuncts) :=
    List.rel_flatMap h fun _ _ => Twin.conjuncts
  unfold every
  generalize vs.flatMap conjuncts = members at hm
  generalize ws.flatMap conjuncts = members' at hm
  rcases hm with _ | ⟨hv, _ | ⟨hw, hm⟩⟩
  · exact .anything
  · exact hv
  · exact .all (.cons hv (.cons hw hm))

theorem twin_either (h : List.Forall₂ (Twin R) vs ws) : Twin R (either vs) (either ws) := by
  have hany : vs.any isAnything = ws.any isAnything := by
    induction h with
    | nil => rfl
    | cons hv _ ih => rw [List.any_cons, List.any_cons, hv.isAnything_eq, ih]
  have hm : List.Forall₂ (Twin R) (vs.flatMap disjuncts) (ws.flatMap disjuncts) :=
    List.rel_flatMap h fun _ _ => Twin.disjuncts
  unfold either
  rw [hany]
  generalize vs.flatMap disjuncts = members at hm
  generalize ws.flatMap disjuncts = members' at hm
  split
  · exact .anything
  · rcases hm with _ | ⟨hv, _ | ⟨hw, hm⟩⟩
    · exact .any .nil
    · exact hv
    · exact .any (.cons hv (.cons hw hm))

theorem twin_ofProperties (needed : List String) {fields fields' : List (String × Validator)}
    (h : List.Forall₂ (TwinField R) fields fields') :
    Twin R (ofProperties needed fields) (ofProperties needed fields') := by
  have hshape : ∀ coverage {fs fs' : List (String × Validator)}, List.Forall₂ (TwinField R) fs fs' →
      List.Forall₂ (Twin R) (shapeUnlessEmpty coverage fs) (shapeUnlessEmpty coverage fs') := by
    intro coverage fs fs' hf
    cases hf with
    | nil => exact .nil
    | cons hv hf => exact .cons (.shape coverage (.cons hv hf)) .nil
  -- which part a field goes to is decided by its key
  have hfilter : ∀ keep : String → Bool, List.Forall₂ (TwinField R) (fields.filter fun f => keep f.1)
      (fields'.filter fun f => keep f.1) := by
    intro keep
    refine List.rel_filter (fun f g hfg => ?_) h
    cases hfg
    rfl
  unfold ofProperties
  simp only [List.partition_eq_filter_filter]
  exact twin_every (List.rel_append (hshape _ (hfilter needed.contains)) (hshape _ (hfilter (!needed.contains ·))))

/-- Where nothing but the combinators is at work, a validator is its own twin. -/
theorem closed_twin (R : Body → Body → Prop) : Closed fun v => Twin R v v where
  guard := .guard
  literal := .literal
  hasKey := .hasKey
  every _ h := twin_every (List.forall₂_same.2 h)
  either _ h := twin_either (List.forall₂_same.2 h)
  shape coverage _ h := .shape coverage (List.forall₂_same.2 fun f hf => .mk f.1 (h f hf))
  arrayOf _ h := .arrayOf h
  tupleOf _ h := .tupleOf (List.forall₂_same.2 h)

end Validator

/-! ## Compiling -/

/-- A relation between the work of two monads for each relation between their results. -/
structure Coupling (m n : Type → Type) [Monad m] [Monad n] where
  rel : {α β : Type} → (α → β → Prop) → m α → n β → Prop
  pure : ∀ {α β : Type} {R : α → β → Prop} {a : α} {b : β}, R a b → rel R (pure a) (pure b)
  bind : ∀ {α β γ δ : Type} {R : α → β → Prop} {Q : γ → δ → Prop} {x : m α} {y : n β} {f : α → m γ} {g : β → n δ},
    rel R x y → (∀ a b, R a b → rel Q (f a) (g b)) → rel Q (x >>= f) (y >>= g)

namespace Coupling

open Validator

variable {m n : Type → Type} [Monad m] [Monad n] [MonadExcept SchemaError m] [MonadExcept SchemaError n]
  (C : Coupling m n) {R : Body → Body → Prop} {resolve : Value → m Validator} {resolve' : Value → n Validator}

/-- What a demand needs is found as twins. -/
def Meets (R : Body → Body → Prop) (resolve : Value → m Validator) (resolve' : Value → n Validator) : Demand → Prop
  | .reference ref => C.rel (Twin R) (resolve ref) (resolve' ref)
  | .type spec =>
    C.rel (Twin R) (MonadExcept.ofExcept (ofType spec) : m Validator) (MonadExcept.ofExcept (ofType spec))

mutual

theorem compileTwin : ∀ s : Schema, (∀ d ∈ s.demands true, C.Meets R resolve resolve' d) →
    C.rel (Twin R) (s.compileWith resolve) (s.compileWith resolve')
  | .anything, _ => C.pure .anything
  | .required _, _ => C.pure ((closed_twin R).every _ (List.forall_mem_map.2 fun key _ => .hasKey key))
  | .enum _, _ => C.pure ((closed_twin R).either _ (List.forall_mem_map.2 fun x _ => .literal x))
  | .all parts, h => C.bind (compileTwinAll parts h) fun _ _ hvs => C.pure (twin_every hvs)
  | .choice branches, h => C.bind (compileTwinAll branches h) fun _ _ hvs => C.pure (twin_either hvs)
  | .reference _, h | .type _, h => h _ (List.mem_singleton.2 rfl)
  | .properties needed fields, h =>
    C.bind (compileTwinFields fields h) fun _ _ hf => C.pure (twin_ofProperties needed hf)
  | .items element, h => C.bind (compileTwin element h) fun _ _ hv => C.pure (.arrayOf hv)
  | .positions elements, h => C.bind (compileTwinAll elements h) fun _ _ hvs => C.pure (.tupleOf hvs)

theorem compileTwinAll : ∀ ss : List Schema, (∀ d ∈ Schema.demandsAll true ss, C.Meets R resolve resolve' d) →
    C.rel (List.Forall₂ (Twin R)) (Schema.compileAll resolve ss) (Schema.compileAll resolve' ss)
  | [], _ => C.pure .nil
  | s :: ss, h => by
    obtain ⟨hs, hss⟩ := List.forall_mem_append.1 h
    refine C.bind (compileTwin s hs) fun v w hv => ?_
    exact C.bind (compileTwinAll ss hss) fun _ _ hvs => C.pure (.cons hv hvs)

theorem compileTwinFields : ∀ fields : List (String × Schema),
    (∀ d ∈ Schema.demandsFields true fields, C.Meets R resolve resolve' d) →
    C.rel (List.Forall₂ (TwinField R)) (Schema.compileFields resolve fields) (Schema.compileFields resolve' fields)
  | [], _ => C.pure .nil
  | (key, s) :: fields, h => by
    obtain ⟨hs, hfields⟩ := List.forall_mem_append.1 h
    refine C.bind (compileTwin s hs) fun v w hv => ?_
    exact C.bind (compileTwinFields fields hfields) fun _ _ hf => C.pure (.cons (.mk key hv) hf)

end

end Coupling

/-! ## Checking -/

namespace Simulation

open Validator

variable {m n : Type → Type} [Monad m] [Monad n] (S : Simulation m n) {R : Body → Body → Prop}

section Test

variable {enter : Body → Value → m Bool} {enter' : Body → Value → n Bool}

mutual

theorem testTwin (h : ∀ b c, R b c → ∀ y, S.rel (enter b y) (enter' c y)) :
    ∀ {v w : Validator} (x : Value), Twin R v w → S.rel (Validator.testWith enter v x) (Validator.testWith enter' w x)
  | _, _, _, .anything | _, _, _, .guard _ | _, _, _, .literal _ => S.pure _
  | _, _, x, .hasKey _ => by cases x <;> exact S.pure _
  | .all _, .all _, x, .all hm => testTwinAll h x hm
  | .any _, .any _, x, .any hm => testTwinAny h x hm
  | .shape coverage _, .shape _ _, x, .shape _ hf => by
    cases x with
    | obj entries => exact testTwinFields h coverage entries hf
    | _ => exact S.pure false
  | .arrayOf _, .arrayOf _, x, .arrayOf he => by
    cases x with
    | arr _ items => exact S.allM fun y _ => testTwin h y he
    | _ => exact S.pure false
  | .tupleOf _, .tupleOf _, x, .tupleOf hp => by
    cases x with
    | arr _ items => exact testTwinPositions h items hp
    | _ => exact S.pure false
  | _, _, x, .deferred _ hb | _, _, x, .reference _ hb => h _ _ hb x

theorem testTwinAll (h : ∀ b c, R b c → ∀ y, S.rel (enter b y) (enter' c y)) :
    ∀ {vs ws : List Validator} (x : Value), List.Forall₂ (Twin R) vs ws →
    S.rel (Validator.testAll enter vs x) (Validator.testAll enter' ws x)
  | [], [], _, .nil => S.pure true
  | _ :: _, _ :: _, x, .cons hv hvs => by
    refine S.bind (testTwin h x hv) fun t => ?_
    cases t with
    | true => exact testTwinAll h x hvs
    | false => exact S.pure false

theorem testTwinAny (h : ∀ b c, R b c → ∀ y, S.rel (enter b y) (enter' c y)) :
    ∀ {vs ws : List Validator} (x : Value), List.Forall₂ (Twin R) vs ws →
    S.rel (Validator.testAny enter vs x) (Validator.testAny enter' ws x)
  | [], [], _, .nil => S.pure false
  | _ :: _, _ :: _, x, .cons hv hvs => by
    refine S.bind (testTwin h x hv) fun t => ?_
    cases t with
    | true => exact S.pure true
    | false => exact testTwinAny h x hvs

theorem testTwinFields (h : ∀ b c, R b c → ∀ y, S.rel (enter b y) (enter' c y)) (coverage : Coverage) :
    ∀ {fields fields' : List (String × Validator)} (entries : List (String × Value)),
    List.Forall₂ (TwinField R) fields fields' →
    S.rel (Validator.testFields enter coverage fields entries) (Validator.testFields enter' coverage fields' entries)
  | [], [], _, .nil => S.pure true
  | (_, _) :: _, (_, _) :: _, entries, .cons (.mk key hv) hf => by
    simp only [Validator.testFields]
    cases entries.lookup key with
    | none =>
      cases coverage with
      | full => exact S.pure false
      | present => exact testTwinFields h _ entries hf
    | some x =>
      refine S.bind (testTwin h x hv) fun t => ?_
      cases t with
      | true => exact testTwinFields h coverage entries hf
      | false => exact S.pure false

theorem testTwinPositions (h : ∀ b c, R b c → ∀ y, S.rel (enter b y) (enter' c y)) :
    ∀ {vs ws : List Validator} (xs : List Value), List.Forall₂ (Twin R) vs ws →
    S.rel (Validator.testPositions enter vs xs) (Validator.testPositions enter' ws xs)
  | [], [], _, .nil => S.pure true
  | _ :: _, _ :: _, [], _ => S.pure true
  | _ :: _, _ :: _, x :: xs, .cons hv hvs => by
    refine S.bind (testTwin h x hv) fun t => ?_
    cases t with
    | true => exact testTwinPositions h xs hvs
    | false => exact S.pure false

end

end Test

section Diagnose

variable {enter : Body → Value → m (Option Diagnostic)} {enter' : Body → Value → n (Option Diagnostic)}

mutual

theorem diagnoseTwin (h : ∀ b c, R b c → ∀ y, S.rel (enter b y) (enter' c y)) :
    ∀ {v w : Validator} (x : Value), Twin R v w →
    S.rel (Validator.diagnoseWith enter v x) (Validator.diagnoseWith enter' w x)
  | _, _, _, .anything | _, _, _, .guard _ | _, _, _, .literal _ => S.pure _
  | _, _, x, .hasKey _ => by cases x <;> exact S.pure _
  | .all _, .all _, x, .all hm => by
    have hall := diagnoseTwinAll h x hm
    exact S.bind hall fun _ => S.pure _
  | .any _, .any _, x, .any hm => by
    have hany := diagnoseTwinAny h x hm
    exact S.bind hany fun _ => S.pure _
  | .shape coverage _, .shape _ _, x, .shape _ hf => by
    cases x with
    | obj entries => exact S.bind (diagnoseTwinFields h coverage entries hf) fun _ => S.pure _
    | _ => exact S.pure _
  | .arrayOf _, .arrayOf _, x, .arrayOf he => by
    cases x with
    | arr _ items => exact S.bind (S.diagnoseItems 0 items fun y _ => diagnoseTwin h y he) fun _ => S.pure _
    | _ => exact S.pure _
  | .tupleOf _, .tupleOf _, x, .tupleOf hp => by
    cases x with
    | arr _ items => exact S.bind (diagnoseTwinPositions h 0 items hp) fun _ => S.pure _
    | _ => exact S.pure _
  | _, _, x, .deferred _ hb | _, _, x, .reference _ hb => h _ _ hb x
termination_by v => sizeOf v

theorem diagnoseTwinAll (h : ∀ b c, R b c → ∀ y, S.rel (enter b y) (enter' c y)) :
    ∀ {vs ws : List Validator} (x : Value), List.Forall₂ (Twin R) vs ws →
    S.rel (Validator.diagnoseAll enter vs x) (Validator.diagnoseAll enter' ws x)
  | [], [], _, .nil => S.pure []
  | _ :: _, _ :: _, x, .cons hv hvs => by
    refine S.bind (diagnoseTwin h x hv) fun d => ?_
    exact S.bind (diagnoseTwinAll h x hvs) fun _ => S.pure _
termination_by vs => sizeOf vs

theorem diagnoseTwinAny (h : ∀ b c, R b c → ∀ y, S.rel (enter b y) (enter' c y)) :
    ∀ {vs ws : List Validator} (x : Value), List.Forall₂ (Twin R) vs ws →
    S.rel (Validator.diagnoseAny enter vs x) (Validator.diagnoseAny enter' ws x)
  | [], [], _, .nil => S.pure _
  | _ :: _, _ :: _, x, .cons hv hvs => by
    refine S.bind (diagnoseTwin h x hv) fun d => ?_
    cases d with
    | none => exact S.pure none
    | some d => exact S.bind (diagnoseTwinAny h x hvs) fun _ => S.pure _
termination_by vs => sizeOf vs

theorem diagnoseTwinFields (h : ∀ b c, R b c → ∀ y, S.rel (enter b y) (enter' c y)) (coverage : Coverage) :
    ∀ {fields fields' : List (String × Validator)} (entries : List (String × Value)),
    List.Forall₂ (TwinField R) fields fields' →
    S.rel (Validator.diagnoseFields enter coverage fields entries)
      (Validator.diagnoseFields enter' coverage fields' entries)
  | [], [], _, .nil => S.pure []
  | (_, _) :: _, (_, _) :: _, entries, .cons (.mk key hv) hf => by
    simp only [Validator.diagnoseFields]
    cases entries.lookup key with
    | none => exact S.bind (diagnoseTwinFields h coverage entries hf) fun _ => S.pure _
    | some x =>
      refine S.bind (diagnoseTwin h x hv) fun d => ?_
      exact S.bind (diagnoseTwinFields h coverage entries hf) fun _ => S.pure _
termination_by fields => sizeOf fields

theorem diagnoseTwinPositions (h : ∀ b c, R b c → ∀ y, S.rel (enter b y) (enter' c y)) :
    ∀ (position : Nat) {vs ws : List Validator} (xs : List Value), List.Forall₂ (Twin R) vs ws →
    S.rel (Validator.diagnosePositions enter position vs xs) (Validator.diagnosePositions enter' position ws xs)
  | _, [], [], _, .nil => S.pure []
  | _, _ :: _, _ :: _, [], _ => S.pure []
  | position, _ :: _, _ :: _, x :: xs, .cons hv hvs => by
    refine S.bind (diagnoseTwin h x hv) fun d => ?_
    exact S.bind (diagnoseTwinPositions h (position + 1) xs hvs) fun _ => S.pure _
termination_by _ vs => sizeOf vs

end

end Diagnose

end Simulation

end Conformance
