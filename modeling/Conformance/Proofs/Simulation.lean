import Conformance.Proofs.Run
import Conformance.Validator.Diagnose
import Conformance.Validator.Test
/-!
# Simulations

Compiling and checking are written for any monad. A relation between the work of two monads
that `pure` has and binding keeps is therefore kept by both of them. It is enough to look at
what the demands of a schema are met with, or at the calls by which a check enters the bodies
that a validator holds.
-/

namespace Conformance

/-- A relation between the work of two monads. -/
structure Simulation (m n : Type → Type) [Monad m] [Monad n] where
  rel : {α : Type} → m α → n α → Prop
  pure : ∀ {α : Type} (a : α), rel (pure a) (pure a)
  bind : ∀ {α β : Type} {x : m α} {y : n α} {f : α → m β} {g : α → n β},
    rel x y → (∀ a, rel (f a) (g a)) → rel (x >>= f) (y >>= g)

/-! ## Demands -/

/-- What a schema leaves to others: a reference is to be resolved, a type to be looked up. -/
inductive Demand where
  | reference (ref : Value)
  | type (spec : Value)

namespace Schema

mutual

/-- The demands of a schema, in order; those below `properties` and `items` only if `deep`. -/
def demands (deep : Bool) : Schema → List Demand
  | all ss | choice ss => demandsAll deep ss
  | reference ref => [.reference ref]
  | type spec => [.type spec]
  | properties _ fields => if deep then demandsFields deep fields else []
  | items element => if deep then demands deep element else []
  | positions elements => if deep then demandsAll deep elements else []
  | anything | required _ | enum _ => []

def demandsAll (deep : Bool) : List Schema → List Demand
  | [] => []
  | s :: ss => demands deep s ++ demandsAll deep ss

def demandsFields (deep : Bool) : List (String × Schema) → List Demand
  | [] => []
  | (_, s) :: fields => demands deep s ++ demandsFields deep fields

end

end Schema

/-! ## Bodies -/

namespace Validator

mutual

/-- The bodies a validator holds: what a check of it can enter at once. -/
def bodies : Validator → List Body
  | all members | any members | tupleOf members => bodiesAll members
  | shape _ fields => bodiesFields fields
  | arrayOf element => bodies element
  | deferred _ body => [.ready body]
  | reference scope _ target => [.node scope target]
  | anything | guard _ | literal _ | hasKey _ => []

def bodiesAll : List Validator → List Body
  | [] => []
  | v :: vs => bodies v ++ bodiesAll vs

def bodiesFields : List (String × Validator) → List Body
  | [] => []
  | (_, v) :: fields => bodies v ++ bodiesFields fields

end

@[simp]
theorem mem_bodiesAll {b : Body} {vs : List Validator} :
    b ∈ bodiesAll vs ↔ ∃ v ∈ vs, b ∈ v.bodies := by
  induction vs with
  | nil => simp [bodiesAll]
  | cons v vs ih => simp [bodiesAll, ih]

@[simp]
theorem mem_bodiesFields {b : Body} {fields : List (String × Validator)} :
    b ∈ bodiesFields fields ↔ ∃ f ∈ fields, b ∈ f.2.bodies := by
  induction fields with
  | nil => simp [bodiesFields]
  | cons f fields ih => simp [bodiesFields, ih]

/-! ## Calls -/

mutual

/-- What a check of the value can enter at once: bodies, each with the part of the value that it is
entered on. -/
def calls : Validator → Value → List (Body × Value)
  | all members, x | any members, x => callsAll members x
  | shape _ fields, .obj entries => callsFields fields entries
  | arrayOf element, .arr _ items => items.flatMap fun x => calls element x
  | tupleOf positions, .arr _ items => callsPositions positions items
  | deferred _ body, x => [(.ready body, x)]
  | reference scope _ target, x => [(.node scope target, x)]
  | anything, _ | guard _, _ | literal _, _ | hasKey _, _ | shape .., _ | arrayOf _, _ | tupleOf _, _ => []

def callsAll : List Validator → Value → List (Body × Value)
  | [], _ => []
  | v :: vs, x => calls v x ++ callsAll vs x

def callsFields : List (String × Validator) → List (String × Value) → List (Body × Value)
  | [], _ => []
  | (key, v) :: fields, entries =>
    match entries.lookup key with
    | none => callsFields fields entries
    | some x => calls v x ++ callsFields fields entries

def callsPositions : List Validator → List Value → List (Body × Value)
  | v :: vs, x :: xs => calls v x ++ callsPositions vs xs
  | _, _ => []

end

theorem mem_callsAll {c : Body × Value} {vs : List Validator} {x : Value} :
    c ∈ callsAll vs x ↔ ∃ v ∈ vs, c ∈ v.calls x := by
  induction vs with
  | nil => simp [callsAll]
  | cons v vs ih => simp [callsAll, ih]

mutual

theorem mem_bodies_of_mem_calls : ∀ {v : Validator} {x : Value} {c : Body × Value}, c ∈ v.calls x → c.1 ∈ v.bodies
  | .anything, _, _, h | .guard _, _, _, h | .literal _, _, _, h | .hasKey _, _, _, h => by cases h
  | .all _, _, _, h | .any _, _, _, h => mem_bodiesAll_of_mem_calls h
  | .shape _ _, x, _, h => by
    cases x with
    | obj entries => exact mem_bodiesFields_of_mem_calls h
    | _ => cases h
  | .arrayOf element, x, _, h => by
    cases x with
    | arr _ items =>
      obtain ⟨_, _, h⟩ := List.mem_flatMap.1 h
      have hb := @mem_bodies_of_mem_calls element _ _ h
      exact hb
    | _ => cases h
  | .tupleOf _, x, _, h => by
    cases x with
    | arr _ items => exact mem_bodiesAll_of_mem_positions h
    | _ => cases h
  | .deferred _ _, _, _, h | .reference _ _ _, _, _, h => by
    cases List.mem_singleton.1 h
    exact List.mem_singleton.2 rfl

theorem mem_bodiesAll_of_mem_calls : ∀ {vs : List Validator} {x : Value} {c : Body × Value},
    c ∈ callsAll vs x → c.1 ∈ bodiesAll vs
  | _ :: _, _, _, h => by
    rcases List.mem_append.1 h with h | h
    · exact List.mem_append_left _ (mem_bodies_of_mem_calls h)
    · exact List.mem_append_right _ (mem_bodiesAll_of_mem_calls h)

theorem mem_bodiesFields_of_mem_calls : ∀ {fields : List (String × Validator)} {entries : List (String × Value)}
    {c : Body × Value}, c ∈ callsFields fields entries → c.1 ∈ bodiesFields fields
  | (key, _) :: _, entries, _, h => by
    rw [callsFields] at h
    split at h
    · exact List.mem_append_right _ (mem_bodiesFields_of_mem_calls h)
    · rcases List.mem_append.1 h with h | h
      · exact List.mem_append_left _ (mem_bodies_of_mem_calls h)
      · exact List.mem_append_right _ (mem_bodiesFields_of_mem_calls h)

theorem mem_bodiesAll_of_mem_positions : ∀ {vs : List Validator} {xs : List Value} {c : Body × Value},
    c ∈ callsPositions vs xs → c.1 ∈ bodiesAll vs
  | _ :: _, _ :: _, _, h => by
    rcases List.mem_append.1 h with h | h
    · exact List.mem_append_left _ (mem_bodies_of_mem_calls h)
    · exact List.mem_append_right _ (mem_bodiesAll_of_mem_positions h)

end

end Validator

/-! ## Checking -/

namespace Simulation

open Validator

variable {m n : Type → Type} [Monad m] [Monad n] (S : Simulation m n)

section Test

variable {enter : Body → Value → m Bool} {enter' : Body → Value → n Bool}

theorem allM {f : Value → m Bool} {g : Value → n Bool} {xs : List Value} (h : ∀ x ∈ xs, S.rel (f x) (g x)) :
    S.rel (xs.allM f) (xs.allM g) := by
  induction xs with
  | nil => exact S.pure true
  | cons x xs ih =>
    obtain ⟨hx, hxs⟩ := List.forall_mem_cons.1 h
    rw [allM_cons, allM_cons]
    refine S.bind hx fun b => ?_
    cases b with
    | true => exact ih hxs
    | false => exact S.pure false

mutual

theorem testCalls : ∀ (v : Validator) (x : Value), (∀ c ∈ v.calls x, S.rel (enter c.1 c.2) (enter' c.1 c.2)) →
    S.rel (testWith enter v x) (testWith enter' v x)
  | .anything, _, _ | .guard _, _, _ | .literal _, _, _ => S.pure _
  | .all members, x, h => testAll members x h
  | .any members, x, h => testAny members x h
  | .hasKey _, x, _ => by cases x <;> exact S.pure _
  | .shape _ fields, x, h => by
    cases x with
    | obj entries => exact testFields _ fields entries h
    | _ => exact S.pure false
  | .arrayOf element, x, h => by
    cases x with
    | arr _ items => exact S.allM fun y hy => testCalls element y fun c hc => h c (List.mem_flatMap.2 ⟨y, hy, hc⟩)
    | _ => exact S.pure false
  | .tupleOf positions, x, h => by
    cases x with
    | arr _ items => exact testPositions positions items h
    | _ => exact S.pure false
  | .deferred _ _, _, h | .reference _ _ _, _, h => h _ (List.mem_singleton.2 rfl)

theorem testAll : ∀ (vs : List Validator) (x : Value),
    (∀ c ∈ callsAll vs x, S.rel (enter c.1 c.2) (enter' c.1 c.2)) →
    S.rel (testAll enter vs x) (testAll enter' vs x)
  | [], _, _ => S.pure true
  | v :: vs, x, h => by
    obtain ⟨hv, hvs⟩ := List.forall_mem_append.1 h
    refine S.bind (testCalls v x hv) fun t => ?_
    cases t with
    | true => exact testAll vs x hvs
    | false => exact S.pure false

theorem testAny : ∀ (vs : List Validator) (x : Value),
    (∀ c ∈ callsAll vs x, S.rel (enter c.1 c.2) (enter' c.1 c.2)) →
    S.rel (testAny enter vs x) (testAny enter' vs x)
  | [], _, _ => S.pure false
  | v :: vs, x, h => by
    obtain ⟨hv, hvs⟩ := List.forall_mem_append.1 h
    refine S.bind (testCalls v x hv) fun t => ?_
    cases t with
    | true => exact S.pure true
    | false => exact testAny vs x hvs

theorem testFields (coverage : Coverage) : ∀ (fields : List (String × Validator)) (entries : List (String × Value)),
    (∀ c ∈ callsFields fields entries, S.rel (enter c.1 c.2) (enter' c.1 c.2)) →
    S.rel (testFields enter coverage fields entries) (testFields enter' coverage fields entries)
  | [], _, _ => S.pure true
  | (key, v) :: fields, entries, h => by
    rw [callsFields] at h
    simp only [Validator.testFields]
    cases hl : entries.lookup key with
    | none =>
      rw [hl] at h
      cases coverage with
      | full => exact S.pure false
      | present => exact testFields _ fields entries h
    | some x =>
      rw [hl] at h
      obtain ⟨hv, hfields⟩ := List.forall_mem_append.1 h
      refine S.bind (testCalls v x hv) fun t => ?_
      cases t with
      | true => exact testFields coverage fields entries hfields
      | false => exact S.pure false

theorem testPositions : ∀ (vs : List Validator) (xs : List Value),
    (∀ c ∈ callsPositions vs xs, S.rel (enter c.1 c.2) (enter' c.1 c.2)) →
    S.rel (testPositions enter vs xs) (testPositions enter' vs xs)
  | [], _, _ => S.pure true
  | _ :: _, [], _ => S.pure true
  | v :: vs, x :: xs, h => by
    obtain ⟨hv, hvs⟩ := List.forall_mem_append.1 h
    refine S.bind (testCalls v x hv) fun t => ?_
    cases t with
    | true => exact testPositions vs xs hvs
    | false => exact S.pure false

end

theorem testWith (v : Validator) (x : Value) (h : ∀ b ∈ v.bodies, ∀ y, S.rel (enter b y) (enter' b y)) :
    S.rel (testWith enter v x) (testWith enter' v x) :=
  S.testCalls v x fun c hc => h c.1 (mem_bodies_of_mem_calls hc) c.2

end Test

/-! ## Diagnosing -/

section Diagnose

variable {enter : Body → Value → m (Option Diagnostic)} {enter' : Body → Value → n (Option Diagnostic)}

theorem diagnoseItems {f : Value → m (Option Diagnostic)} {g : Value → n (Option Diagnostic)} :
    ∀ (position : Nat) (xs : List Value), (∀ x ∈ xs, S.rel (f x) (g x)) →
    S.rel (diagnoseItems f position xs) (diagnoseItems g position xs)
  | _, [], _ => S.pure []
  | position, x :: xs, h => by
    obtain ⟨hx, hxs⟩ := List.forall_mem_cons.1 h
    refine S.bind hx fun d => ?_
    exact S.bind (diagnoseItems (position + 1) xs hxs) fun _ => S.pure _

mutual

theorem diagnoseCalls : ∀ (v : Validator) (x : Value),
    (∀ c ∈ v.calls x, S.rel (enter c.1 c.2) (enter' c.1 c.2)) →
    S.rel (diagnoseWith enter v x) (diagnoseWith enter' v x)
  | .anything, _, _ | .guard _, _, _ | .literal _, _, _ => S.pure _
  | .all members, x, h => S.bind (diagnoseAll members x h) fun _ => S.pure _
  | .any members, x, h => S.bind (diagnoseAny members x h) fun _ => S.pure _
  | .hasKey _, x, _ => by cases x <;> exact S.pure _
  | .shape _ fields, x, h => by
    cases x with
    | obj entries => exact S.bind (diagnoseFields _ fields entries h) fun _ => S.pure _
    | _ => exact S.pure _
  | .arrayOf element, x, h => by
    cases x with
    | arr _ items =>
      refine S.bind (S.diagnoseItems 0 items fun y hy => diagnoseCalls element y fun c hc => ?_) fun _ => S.pure _
      exact h c (List.mem_flatMap.2 ⟨y, hy, hc⟩)
    | _ => exact S.pure _
  | .tupleOf positions, x, h => by
    cases x with
    | arr _ items => exact S.bind (diagnosePositions 0 positions items h) fun _ => S.pure _
    | _ => exact S.pure _
  | .deferred _ _, _, h | .reference _ _ _, _, h => h _ (List.mem_singleton.2 rfl)

theorem diagnoseAll : ∀ (vs : List Validator) (x : Value),
    (∀ c ∈ callsAll vs x, S.rel (enter c.1 c.2) (enter' c.1 c.2)) →
    S.rel (diagnoseAll enter vs x) (diagnoseAll enter' vs x)
  | [], _, _ => S.pure []
  | v :: vs, x, h => by
    obtain ⟨hv, hvs⟩ := List.forall_mem_append.1 h
    refine S.bind (diagnoseCalls v x hv) fun d => ?_
    exact S.bind (diagnoseAll vs x hvs) fun _ => S.pure _

theorem diagnoseAny : ∀ (vs : List Validator) (x : Value),
    (∀ c ∈ callsAll vs x, S.rel (enter c.1 c.2) (enter' c.1 c.2)) →
    S.rel (diagnoseAny enter vs x) (diagnoseAny enter' vs x)
  | [], _, _ => S.pure _
  | v :: vs, x, h => by
    obtain ⟨hv, hvs⟩ := List.forall_mem_append.1 h
    refine S.bind (diagnoseCalls v x hv) fun d => ?_
    cases d with
    | none => exact S.pure none
    | some d => exact S.bind (diagnoseAny vs x hvs) fun _ => S.pure _

theorem diagnoseFields (coverage : Coverage) :
    ∀ (fields : List (String × Validator)) (entries : List (String × Value)),
    (∀ c ∈ callsFields fields entries, S.rel (enter c.1 c.2) (enter' c.1 c.2)) →
    S.rel (diagnoseFields enter coverage fields entries) (diagnoseFields enter' coverage fields entries)
  | [], _, _ => S.pure []
  | (key, v) :: fields, entries, h => by
    rw [callsFields] at h
    simp only [Validator.diagnoseFields]
    cases hl : entries.lookup key with
    | none =>
      rw [hl] at h
      exact S.bind (diagnoseFields coverage fields entries h) fun _ => S.pure _
    | some x =>
      rw [hl] at h
      obtain ⟨hv, hfields⟩ := List.forall_mem_append.1 h
      refine S.bind (diagnoseCalls v x hv) fun d => ?_
      exact S.bind (diagnoseFields coverage fields entries hfields) fun _ => S.pure _

theorem diagnosePositions : ∀ (position : Nat) (vs : List Validator) (xs : List Value),
    (∀ c ∈ callsPositions vs xs, S.rel (enter c.1 c.2) (enter' c.1 c.2)) →
    S.rel (diagnosePositions enter position vs xs) (diagnosePositions enter' position vs xs)
  | _, [], _, _ => S.pure []
  | _, _ :: _, [], _ => S.pure []
  | position, v :: vs, x :: xs, h => by
    obtain ⟨hv, hvs⟩ := List.forall_mem_append.1 h
    refine S.bind (diagnoseCalls v x hv) fun d => ?_
    exact S.bind (diagnosePositions (position + 1) vs xs hvs) fun _ => S.pure _

end

theorem diagnoseWith (v : Validator) (x : Value) (h : ∀ b ∈ v.bodies, ∀ y, S.rel (enter b y) (enter' b y)) :
    S.rel (diagnoseWith enter v x) (diagnoseWith enter' v x) :=
  S.diagnoseCalls v x fun c hc => h c.1 (mem_bodies_of_mem_calls hc) c.2

end Diagnose

/-! ## Compiling -/

section Compile

variable [MonadExcept SchemaError m] [MonadExcept SchemaError n]
  {resolve : Value → m Validator} {resolve' : Value → n Validator}

/-- What a demand needs is found alike on both sides. -/
def Meets (S : Simulation m n) (resolve : Value → m Validator) (resolve' : Value → n Validator) : Demand → Prop
  | .reference ref => S.rel (resolve ref) (resolve' ref)
  | .type spec => S.rel (MonadExcept.ofExcept (ofType spec) : m Validator) (MonadExcept.ofExcept (ofType spec))

mutual

theorem compileDemands : ∀ s : Schema, (∀ d ∈ s.demands true, S.Meets resolve resolve' d) →
    S.rel (s.compileWith resolve) (s.compileWith resolve')
  | .anything, _ | .required _, _ | .enum _, _ => S.pure _
  | .all parts, h => S.bind (compileDemandsAll parts h) fun _ => S.pure _
  | .choice branches, h => S.bind (compileDemandsAll branches h) fun _ => S.pure _
  | .reference _, h | .type _, h => h _ (List.mem_singleton.2 rfl)
  | .properties _ fields, h => S.bind (compileDemandsFields fields h) fun _ => S.pure _
  | .items element, h => S.bind (compileDemands element h) fun _ => S.pure _
  | .positions elements, h => S.bind (compileDemandsAll elements h) fun _ => S.pure _

theorem compileDemandsAll : ∀ ss : List Schema, (∀ d ∈ Schema.demandsAll true ss, S.Meets resolve resolve' d) →
    S.rel (Schema.compileAll resolve ss) (Schema.compileAll resolve' ss)
  | [], _ => S.pure []
  | s :: ss, h => by
    obtain ⟨hs, hss⟩ := List.forall_mem_append.1 h
    refine S.bind (compileDemands s hs) fun v => ?_
    exact S.bind (compileDemandsAll ss hss) fun _ => S.pure _

theorem compileDemandsFields : ∀ fields : List (String × Schema),
    (∀ d ∈ Schema.demandsFields true fields, S.Meets resolve resolve' d) →
    S.rel (Schema.compileFields resolve fields) (Schema.compileFields resolve' fields)
  | [], _ => S.pure []
  | (_, s) :: fields, h => by
    obtain ⟨hs, hfields⟩ := List.forall_mem_append.1 h
    refine S.bind (compileDemands s hs) fun v => ?_
    exact S.bind (compileDemandsFields fields hfields) fun _ => S.pure _

end

/-- What fails is related to what fails with the same error. -/
def Raises (S : Simulation m n) : Prop :=
  ∀ {α : Type} (e : SchemaError), S.rel (throw e : m α) (throw e : n α)

theorem ofExcept (hr : S.Raises) {α : Type} (r : Except SchemaError α) :
    S.rel (MonadExcept.ofExcept r) (MonadExcept.ofExcept r) := by
  cases r with
  | ok a => exact S.pure a
  | error e => exact hr e

theorem compileWith (hr : S.Raises) (h : ∀ ref, S.rel (resolve ref) (resolve' ref)) (s : Schema) :
    S.rel (s.compileWith resolve) (s.compileWith resolve') := by
  refine S.compileDemands s fun d _ => ?_
  cases d with
  | reference ref => exact h ref
  | type spec => exact S.ofExcept hr (ofType spec)

end Compile

end Simulation

end Conformance
