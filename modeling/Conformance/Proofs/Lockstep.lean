import Conformance.Proofs.Passes
import Conformance.Proofs.Synonyms
import Conformance.Proofs.Twins
/-!
# Lockstep

Two scopes may look up the demands of a schema alike: an error of one code in both, or nodes under
one name that read as synonyms and demand nothing else. Then a node compiles in lockstep in both
of them. The same names are marked one after another, and there is an error of one code in the end
or there are validators that no check tells apart.
-/

namespace Conformance

/-- Two results: related ones, or errors of one code. -/
inductive Matched {α β : Type} (R : α → β → Prop) : Except SchemaError α → Except SchemaError β → Prop
  | ok {a : α} {b : β} (h : R a b) : Matched R (.ok a) (.ok b)
  | error {e e' : SchemaError} (h : e'.code = e.code) : Matched R (.error e) (.error e')

theorem Matched.of_eq {α : Type} {R : α → α → Prop} {r : Except SchemaError α} (h : ∀ a, r = .ok a → R a a) :
    Matched R r r := by
  cases r with
  | ok a => exact .ok (h a rfl)
  | error e => exact .error rfl

theorem Matched.imp {α β : Type} {R Q : α → β → Prop} {r : Except SchemaError α} {r' : Except SchemaError β}
    (h : Matched R r r') (hq : ∀ a b, r = .ok a → r' = .ok b → R a b → Q a b) : Matched Q r r' := by
  cases h with
  | ok h => exact .ok (hq _ _ rfl rfl h)
  | error h => exact .error h

def matching : Coupling (Except SchemaError) (Except SchemaError) where
  rel := Matched
  pure := .ok
  bind hx hf := by
    cases hx with
    | ok h => exact hf _ _ h
    | error h => exact .error h

/-! ## Scopes that agree -/

/-- Two definitions: the name is the same, the nodes read as synonyms, and the first has its demands in `G`. -/
structure Counterpart (G : Demand → Prop) (definition definition' : String × Value) : Prop where
  name : definition'.1 = definition.1
  schema : Schema.Synonym (Schema.ofValue definition.2) (Schema.ofValue definition'.2)
  demands : ∀ d ∈ (Schema.ofValue definition.2).demands true, G d

namespace Scope

/-- The scopes look the references in `G` up alike. -/
def Concur (s t : Scope) (G : Demand → Prop) : Prop :=
  ∀ ref, G (.reference ref) → Matched (Counterpart G) (s.lookUp ref) (t.lookUp ref)

/-- Nodes of the two scopes that read as synonyms, the first with its demands in `G`. -/
inductive Mates (s t : Scope) (G : Demand → Prop) : Body → Body → Prop
  | node {target target' : Value} (hs : Schema.Synonym (Schema.ofValue target) (Schema.ofValue target'))
    (hd : ∀ d ∈ (Schema.ofValue target).demands true, G d) : Mates s t G (.node s target) (.node t target')

variable {s t : Scope} {G : Demand → Prop}

theorem twin_of_counterpart {name name' : String} {target target' : Value} (h : Counterpart G (name, target) (name', target')) :
    Validator.Twin (s.Mates t G) (.reference s name target) (.reference t name' target') := by
  cases h.name
  exact .reference _ (.node h.schema h.demands)

theorem link_eq (ref : Value) : s.link (fun _ => true) ref = (do
    let (name, target) ← s.lookUp ref
    pure (.reference s name target)) := by
  unfold link lookUp
  cases Reference.ofValue ref with
  | error e => rfl
  | ok r =>
    show (s.find r >>= _) = (s.find r >>= _) >>= _
    cases s.find r <;> rfl

theorem linked_twin (h : s.Concur t G) {node node' : Value}
    (hs : Schema.Synonym (Schema.ofValue node) (Schema.ofValue node'))
    (hd : ∀ d ∈ (Schema.ofValue node).demands true, G d) :
    Matched (Validator.Twin (s.Mates t G)) (s.linked (fun _ => true) node) (t.linked (fun _ => true) node') := by
  unfold linked
  rw [← hs.compileWith_eq (t.supplies_link _)]
  refine matching.compileTwin _ fun d hmem => ?_
  cases d with
  | reference ref =>
    show Matched _ (s.link _ ref) (t.link _ ref)
    rw [link_eq, link_eq]
    exact matching.bind (h ref (hd _ hmem)) fun _ _ ha => .ok (twin_of_counterpart ha)
  | type spec => exact .of_eq fun v hv => (Validator.closed_twin _).ofType (ofExcept_ok.1 hv)

end Scope

/-! ## Checks -/

namespace Validator

open Scope (Mates)

/-- Work that is the same work. -/
def equal (m : Type → Type) [Monad m] : Simulation m m where
  rel x y := x = y
  pure _ := rfl
  bind hx hf := by
    rw [hx]
    exact congrArg _ (funext hf)

variable {s t : Scope} {G : Demand → Prop} {b c : Body} {v w : Validator}

/-- Mates open to twins, or do not open. -/
theorem linked?_mates (h : s.Concur t G) (hb : s.Mates t G b c) :
    b.linked? = none ∧ c.linked? = none ∨
      ∃ v w, b.linked? = some v ∧ c.linked? = some w ∧ Twin (s.Mates t G) v w := by
  cases hb with
  | node hs hd =>
    have hl := Scope.linked_twin h hs hd
    simp only [Body.linked?]
    generalize s.linked (fun _ => true) _ = r at hl ⊢
    generalize t.linked (fun _ => true) _ = r' at hl ⊢
    cases hl with
    | ok ht => exact .inr ⟨_, _, rfl, rfl, ht⟩
    | error _ => exact .inl ⟨rfl, rfl⟩

theorem testIn?_mates (h : s.Concur t G) (limit : Nat) (hb : s.Mates t G b c) (x : Value) :
    testIn? limit b x = testIn? limit c x := by
  induction limit generalizing b c x with
  | zero => rfl
  | succ limit ih =>
    rw [testIn?, testIn?]
    rcases linked?_mates h hb with ⟨hb, hc⟩ | ⟨v, w, hb, hc, ht⟩
    · rw [hb, hc]
    · rw [hb, hc]
      refine (equal Option).testTwin ?_ x ht
      intro b c hb y
      exact ih hb y

theorem diagnoseIn?_mates (h : s.Concur t G) (limit : Nat) (hb : s.Mates t G b c) (x : Value) :
    diagnoseIn? limit b x = diagnoseIn? limit c x := by
  induction limit generalizing b c x with
  | zero => rfl
  | succ limit ih =>
    rw [diagnoseIn?, diagnoseIn?]
    rcases linked?_mates h hb with ⟨hb, hc⟩ | ⟨v, w, hb, hc, ht⟩
    · rw [hb, hc]
    · rw [hb, hc]
      refine (equal Option).diagnoseTwin ?_ x ht
      intro b c hb y
      exact ih hb y

theorem passes_twin (h : s.Concur t G) (ht : Twin (s.Mates t G) v w) (limit : Nat) (x : Value) :
    passes limit v x = passes limit w x := by
  refine (equal Id).testTwin (fun b c hb y => ?_) x ht
  rw [testIn?_mates h limit hb y]
  rfl

theorem failure?_twin (h : s.Concur t G) (ht : Twin (s.Mates t G) v w) (limit : Nat) (x : Value) :
    failure? limit v x = failure? limit w x := by
  refine (equal Id).diagnoseTwin (fun b c hb y => ?_) x ht
  rw [diagnoseIn?_mates h limit hb y]
  rfl

/-- Two validators, each with the marks that it is used at: nothing that is asked of them tells them apart,
and nothing is marked by it. -/
structure Interchangeable (marks : List Mark) (v : Validator) (marks' : List Mark) (w : Validator) : Prop where
  describe : w.describe = v.describe
  test : ∀ limit x, ∃ t, (testWithin Body.open limit v x).run marks = (.ok t, marks) ∧
    (testWithin Body.open limit w x).run marks' = (.ok t, marks')
  diagnose : ∀ limit x, ∃ d, (diagnoseWithin Body.open limit v x).run marks = (.ok d, marks) ∧
    (diagnoseWithin Body.open limit w x).run marks' = (.ok d, marks')

theorem Twin.interchangeable (h : s.Concur t G) (ht : Twin (s.Mates t G) v w) {marks marks' : List Mark}
    (hv : v.Safe marks) (hw : w.Safe marks') : Interchangeable marks v marks' w where
  describe := ht.describe_eq
  test limit x := by
    have hrun := testWithin_run limit hw x
    rw [← passes_twin h ht] at hrun
    exact ⟨_, testWithin_run limit hv x, hrun⟩
  diagnose limit x := by
    have hrun := diagnoseWithin_run limit hw x
    rw [← failure?_twin h ht] at hrun
    exact ⟨_, diagnoseWithin_run limit hv x, hrun⟩

end Validator

/-! ## Compiling -/

namespace Scope

/-- The same of the names is marked in both. -/
def Level (s t : Scope) (marks marks' : List Mark) : Prop := ∀ name, s.marked marks name = t.marked marks' name

variable {s t : Scope} {G : Demand → Prop} {marks marks' : List Mark}

theorem marked_append (names : List String) (name : String) :
    s.marked (marks ++ names.map s.mark) name = (s.marked marks name || decide (name ∈ names)) := by
  simp [marked, mark]

theorem Level.append (h : s.Level t marks marks') (names : List String) :
    s.Level t (marks ++ names.map s.mark) (marks' ++ names.map t.mark) := by
  intro name
  rw [marked_append, marked_append, h]

/-- Scopes that are new have no marks. -/
theorem level_of_fresh (fresh : ∀ m ∈ marks, m.scope ≠ s.id) (fresh' : ∀ m ∈ marks', m.scope ≠ t.id) :
    s.Level t marks marks' := by
  intro name
  have hmark : s.mark name ∉ marks := fun hm => fresh _ hm rfl
  have hmark' : t.mark name ∉ marks' := fun hm => fresh' _ hm rfl
  simp [marked, hmark, hmark']

/-- From level marks on, both sides mark the same names and their results match. -/
def abreast (s t : Scope) : Coupling Build Build where
  rel R x y := ∀ marks marks', s.Level t marks marks' → ∃ r r' names,
    x.run marks = (r, marks ++ names.map s.mark) ∧ y.run marks' = (r', marks' ++ names.map t.mark) ∧ Matched R r r'
  pure h marks marks' _ := ⟨_, _, [], by simp [run_pure], by simp [run_pure], .ok h⟩
  bind {_ _ _ _ _ _ x y f g} hx hf marks marks' hm := by
    obtain ⟨r, r', names, hrun, hrun', h⟩ := hx marks marks' hm
    rw [run_bind, run_bind, hrun, hrun']
    cases h with
    | error h => exact ⟨_, _, names, rfl, rfl, .error h⟩
    | ok h =>
      obtain ⟨r, r', more, hrun, hrun', h⟩ := hf _ _ h _ _ (hm.append names)
      refine ⟨r, r', names ++ more, ?_, ?_, h⟩
      · simpa using hrun
      · simpa using hrun'

theorem abreast_ofExcept {α β : Type} {R : α → β → Prop} {r : Except SchemaError α} {r' : Except SchemaError β}
    (h : Matched R r r') : (s.abreast t).rel R (Build.ofExcept r) (Build.ofExcept r') := by
  intro marks marks' _
  exact ⟨r, r', [], by simp; rfl, by simp; rfl, h⟩

theorem abreast_once (name : String) {target target' : Value} {check check' : Value → Build Unit}
    (hc : (s.abreast t).rel Eq (check target) (check' target')) :
    (s.abreast t).rel Eq (s.checkOnce name target check) (t.checkOnce name target' check') := by
  intro marks marks' hm
  have hmark : s.mark name ∈ marks ↔ t.mark name ∈ marks' := by
    rw [← marked_iff, ← marked_iff, hm name]
  rw [run_checkOnce, run_checkOnce]
  by_cases h : s.mark name ∈ marks
  · rw [if_pos h, if_pos (hmark.1 h)]
    exact ⟨.ok (), .ok (), [], by simp, by simp, .ok rfl⟩
  · rw [if_neg h, if_neg fun h' => h (hmark.2 h')]
    obtain ⟨r, r', names, hrun, hrun', hr⟩ := hc _ _ (hm.append [name])
    refine ⟨r, r', name :: names, ?_, ?_, hr⟩
    · simpa using hrun
    · simpa using hrun'

theorem abreast_with (h : s.Concur t G) {ref : Value} (hr : G (.reference ref)) {check check' : Value → Build Unit}
    (hc : ∀ target target', Schema.Synonym (Schema.ofValue target) (Schema.ofValue target') →
      (∀ d ∈ (Schema.ofValue target).demands true, G d) → (s.abreast t).rel Eq (check target) (check' target')) :
    (s.abreast t).rel (Validator.Twin (s.Mates t G)) (s.resolveWith check ref) (t.resolveWith check' ref) := by
  rw [resolveWith_eq, resolveWith_eq]
  refine (s.abreast t).bind (abreast_ofExcept (h ref hr)) ?_
  rintro ⟨name, target⟩ ⟨name', target'⟩ ha
  cases ha.name
  exact (s.abreast t).bind (abreast_once name (hc _ _ ha.schema ha.demands)) fun _ _ _ =>
    (s.abreast t).pure (twin_of_counterpart ha)

theorem abreast_compile {resolve resolve' : Value → Build Validator}
    (hr : ∀ ref, G (.reference ref) →
      (s.abreast t).rel (Validator.Twin (s.Mates t G)) (resolve ref) (resolve' ref))
    (hsupplies : Validator.Supplies Validator.Tidy resolve')
    {node node' : Value} (hs : Schema.Synonym (Schema.ofValue node) (Schema.ofValue node'))
    (hd : ∀ d ∈ (Schema.ofValue node).demands true, G d) :
    (s.abreast t).rel (Validator.Twin (s.Mates t G)) ((Schema.ofValue node).compileWith resolve)
      ((Schema.ofValue node').compileWith resolve') := by
  rw [← hs.compileWith_eq hsupplies]
  refine (s.abreast t).compileTwin _ fun d hmem => ?_
  cases d with
  | reference ref => exact hr ref (hd _ hmem)
  | type spec =>
    show (s.abreast t).rel _ (MonadExcept.ofExcept _) (MonadExcept.ofExcept _)
    cases hv : Validator.ofType spec with
    | ok v => exact (s.abreast t).pure ((Validator.closed_twin _).ofType hv)
    | error e => exact abreast_ofExcept (.error rfl)

theorem abreast_within (h : s.Concur t G) (fuel : Nat) (ref : Value) (hr : G (.reference ref)) :
    (s.abreast t).rel (Validator.Twin (s.Mates t G)) (s.resolveWithin fuel ref) (t.resolveWithin fuel ref) := by
  induction fuel generalizing ref with
  | zero => exact abreast_with h hr fun _ _ _ _ => (s.abreast t).pure rfl
  | succ fuel ih =>
    refine abreast_with h hr fun target target' hs hd => ?_
    exact (s.abreast t).bind (abreast_compile ih (t.supplies_within fuel) hs hd) fun _ _ _ => (s.abreast t).pure rfl

/-- More room for nested checks than there are definitions changes nothing. -/
theorem run_compile_of_size_le {fuel : Nat} (hf : s.size ≤ fuel) (node : Value) (marks : List Mark) :
    ((Schema.ofValue node).compileWith (s.resolveWithin fuel)).run marks = (s.compile node).run marks := by
  have hfollows : s.Follows (fun _ => True) (fun _ => True) fun _ => True := follows_all
  have hdemands : ∀ d ∈ (Schema.ofValue node).demands true, True := fun _ _ => trivial
  obtain ⟨r, passes, ht, hc, _⟩ := run_track hfollows hdemands fuel marks
  obtain ⟨r', passes', ht', hc', _⟩ := run_track hfollows hdemands s.size marks
  rw [run_track_of_size_le hf, ht'] at ht
  obtain ⟨hr, ht⟩ := Prod.mk.inj ht
  obtain ⟨hm, _⟩ := Prod.mk.inj ht
  rw [hc, ← hr, ← hm]
  exact hc'.symm

theorem compile_abreast (h : s.Concur t G) {node node' : Value}
    (hs : Schema.Synonym (Schema.ofValue node) (Schema.ofValue node'))
    (hd : ∀ d ∈ (Schema.ofValue node).demands true, G d) :
    (s.abreast t).rel (Validator.Twin (s.Mates t G)) (s.compile node) (t.compile node') := by
  intro marks marks' hm
  -- the tables may differ in size, so both sides get room for the larger one
  rw [← run_compile_of_size_le (Nat.le_max_left s.size t.size),
    ← run_compile_of_size_le (Nat.le_max_right s.size t.size)]
  exact abreast_compile (abreast_within h _) (t.supplies_within _) hs hd marks marks' hm

/-- In new scopes, nodes that read as synonyms compile in lockstep. -/
theorem compile_synonyms (h : s.Concur t G) {node node' : Value}
    (hs : Schema.Synonym (Schema.ofValue node) (Schema.ofValue node'))
    (hd : ∀ d ∈ (Schema.ofValue node).demands true, G d) {before before' : List Mark}
    (fresh : ∀ m ∈ before, m.scope ≠ s.id) (fresh' : ∀ m ∈ before', m.scope ≠ t.id) :
    ∃ (r r' : Except SchemaError Validator) (names : List String),
      (s.compile node).run before = (r, before ++ names.map s.mark) ∧
      (t.compile node').run before' = (r', before' ++ names.map t.mark) ∧
      Matched (fun v w => Validator.Interchangeable (before ++ names.map s.mark) v (before' ++ names.map t.mark) w)
        r r' := by
  obtain ⟨r, r', names, hrun, hrun', hr⟩ := compile_abreast h hs hd before before' (level_of_fresh fresh fresh')
  refine ⟨r, r', names, hrun, hrun', hr.imp ?_⟩
  rintro v w rfl rfl ht
  have hv := (compile_fresh fresh hrun).2.safe (List.Subset.refl _)
  have hw := (compile_fresh fresh' hrun').2.safe (List.Subset.refl _)
  exact ht.interchangeable h hv hw

/-- In new scopes, nodes that read as one schema compile in lockstep. -/
theorem compile_lockstep (h : s.Concur t G) {node node' : Value} (hs : Schema.ofValue node' = Schema.ofValue node)
    (hd : ∀ d ∈ (Schema.ofValue node).demands true, G d) {before before' : List Mark}
    (fresh : ∀ m ∈ before, m.scope ≠ s.id) (fresh' : ∀ m ∈ before', m.scope ≠ t.id) :
    ∃ (r r' : Except SchemaError Validator) (names : List String),
      (s.compile node).run before = (r, before ++ names.map s.mark) ∧
      (t.compile node').run before' = (r', before' ++ names.map t.mark) ∧
      Matched (fun v w => Validator.Interchangeable (before ++ names.map s.mark) v (before' ++ names.map t.mark) w)
        r r' := compile_synonyms h (.of_eq hs.symm) hd fresh fresh'

end Scope

end Conformance
