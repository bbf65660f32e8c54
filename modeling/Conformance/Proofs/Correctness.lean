import Conformance.Proofs.Compiling
/-!
# Tests decide the meaning

A test that ends inside a frame answers whether the definition in the frame accepts the value.
So the test of a validator that a document compiled to answers what the document means, unless
frames run out; and its yes is right even then.
-/

namespace Conformance

open Meaning

/-! ## Linked nodes -/

namespace Scope

variable {scope : Scope} {known : String → Bool} {e : Body → Value → Bool} {node x : Value} {v : Validator}

theorem names_iff {r target : Value} : Names scope.definitions r target ↔
    ∃ ref, Reference.ofValue r = .ok ref ∧ scope.Defines ref.name target := by
  constructor
  · rintro ⟨ref, definitions, hr, hd, hl⟩
    exact ⟨ref, hr, definitions, hd, hl⟩
  · rintro ⟨ref, hr, definitions, hd, hl⟩
    exact ⟨ref, definitions, hr, hd, hl⟩

/-- What a node links to accepts what the schema of the node allows. -/
theorem accepts_linked (h : scope.linked known node = .ok v) : v.accepts e x = true ↔ (Schema.ofValue node).Allows
    (Follow scope.definitions fun target y => e (.node scope target) y = true) x := by
  refine Validator.accepts_compileWith (fun ref w hw y => ?_) _ v h x
  obtain ⟨r, target, hr, hd, _, rfl⟩ := link_ok.1 hw
  show e (.node scope target) y = true ↔ _
  constructor
  · intro hy
    exact ⟨target, names_iff.2 ⟨r, hr, hd⟩, hy⟩
  · rintro ⟨target', hn, hy⟩
    obtain ⟨r', hr', hd'⟩ := names_iff.1 hn
    rw [hr] at hr'
    cases hr'
    cases hd.unique hd'
    exact hy

end Scope

/-! ## Tests that end -/

namespace Validator

/-- Where the left side ends, it ends with the right side. -/
def deciding : Simulation Option Id where
  rel x y := ∀ a, x = some a → a = Id.run y
  pure _ _ h := by cases h; rfl
  bind {_ _ x y f g} hx hf b h := by
    obtain ⟨a, ha, hb⟩ := Option.bind_eq_some_iff.1 h
    have := hf a b hb
    rw [hx a ha] at this
    exact this

section

open Classical in
/-- Whether the definition in a body accepts the value. -/
noncomputable def judge : Body → Value → Bool
  | .node scope target, x => decide (Accepts scope.definitions target x)
  | .ready _, _ => false

variable {scope : Scope} {known : String → Bool} {node x : Value} {v : Validator}

theorem judge_node {target : Value} :
    judge (.node scope target) x = true ↔ Accepts scope.definitions target x := by
  simp [judge]

theorem accepts_judge (h : scope.linked known node = .ok v) :
    v.accepts judge x = true ↔ Accepts scope.definitions node x := by
  rw [Scope.accepts_linked h, Schema.accepts_iff_allows]
  simp only [judge_node]

/-- A test inside a frame that ends is right about the definition in the frame. -/
theorem testIn?_judge (limit : Nat) {target : Value} {t : Bool}
    (h : testIn? limit (.node scope target) x = some t) : t = judge (.node scope target) x := by
  induction limit generalizing target x t with
  | zero => cases h
  | succ limit ih =>
    obtain ⟨w, hw, ht⟩ := Option.bind_eq_some_iff.1 h
    have hl := Body.linked?_node.1 hw
    -- the definitions that are met inside are tested with one frame less
    have hacc : t = w.accepts judge x := by
      refine deciding.testWith w x (fun b hb y a ha => ?_) t ht
      obtain ⟨_, _, rfl, _⟩ := Scope.bodies_of_linked hl b hb
      exact ih ha
    rw [Bool.eq_iff_iff, hacc, accepts_judge hl, judge_node]

/-- The yes of a test is right however few frames it has. -/
theorem accepts_of_passes (h : scope.linked known node = .ok v) {limit : Nat} (hx : passes limit v x = true) :
    Accepts scope.definitions node x := by
  refine Schema.accepts_of_allows (fun r y hr => ?_) ((Scope.accepts_linked h).1 hx)
  obtain ⟨target, hn, hy⟩ := hr
  refine ⟨target, hn, ?_⟩
  cases ht : testIn? limit (.node scope target) y with
  | none =>
    rw [ht] at hy
    cases hy
  | some t =>
    rw [ht] at hy
    exact judge_node.1 ((testIn?_judge limit ht).symm.trans hy)

end

/-! ## Documents that compiled -/

variable {marks : List Mark} {v : Validator}

/-- The test in one frame, that ends with an error when frames run out. -/
theorem testFrames_run (limit : Nat) (hv : v.Safe marks) (x : Value) :
    (testWith (testFrame Body.open limit) v x).run marks = (outcome (testWith (testIn? limit) v x), marks) :=
  (framed marks).testWith v x fun b hb y => testFrame_run limit (hv b hb) y

theorem diagnoseFrames_run (limit : Nat) (hv : v.Safe marks) (x : Value) :
    (diagnoseWith (diagnoseFrame Body.open limit) v x).run marks =
      (outcome (diagnoseWith (diagnoseIn? limit) v x), marks) :=
  (framed marks).diagnoseWith v x fun b hb y => diagnoseFrame_run limit (hv b hb) y

/-- Where no frame runs out, the outermost ones have nothing to answer for. -/
theorem passes_of_ends {limit : Nat} {x : Value} {t : Bool} (h : testWith (testIn? limit) v x = some t) :
    passes limit v x = t := by
  refine (deciding.testWith v x (fun b _ y a ha => ?_) t h).symm
  rw [ha]
  rfl

theorem failure?_of_ends {limit : Nat} {x : Value} {d : Option Diagnostic}
    (h : diagnoseWith (diagnoseIn? limit) v x = some d) : failure? limit v x = d := by
  refine (deciding.diagnoseWith v x (fun b _ y a ha => ?_) d h).symm
  rw [ha]
  rfl

/-- The test of what a document compiled to in a scope that was new answers yes only where the document
accepts the value, and everywhere there unless some frame of the test cannot be opened any more. -/
theorem test_of_compiled {id : Nat} {document definitions : Value} {before after : List Mark}
    (fresh : ∀ m ∈ before, m.scope ≠ id)
    (h : (compileDocument id document definitions).run before = (.ok v, after)) (limit : Nat) (x : Value) :
    ∃ t, (testWithin Body.open limit v x).run after = (.ok t, after) ∧
      (t = true → Accepts (effectiveDefinitions document definitions) document x) ∧
      (((testWith (testFrame Body.open limit) v x).run after).1 ≠ .error .frames →
        (t = true ↔ Accepts (effectiveDefinitions document definitions) document x)) := by
  obtain ⟨_, hc⟩ := Scope.compile_fresh fresh h
  have hs : v.Safe after := hc.safe (List.Subset.refl _)
  refine ⟨passes limit v x, testWithin_run limit hs x, fun ht => accepts_of_passes hc.linked ht, fun hend => ?_⟩
  rw [testFrames_run limit hs] at hend
  cases ht : testWith (testIn? limit) v x with
  | none =>
    rw [ht] at hend
    exact absurd rfl hend
  | some t =>
    have hpasses : t = passes limit v x := by
      refine deciding.testWith v x (fun b _ y a ha => ?_) t ht
      rw [ha]
      rfl
    have hjudge : t = v.accepts judge x := by
      refine deciding.testWith v x (fun b hb y a ha => ?_) t ht
      obtain ⟨_, _, rfl, _⟩ := Scope.bodies_of_linked hc.linked b hb
      exact testIn?_judge limit ha
    rw [← hpasses, hjudge]
    exact accepts_judge hc.linked

/-! ### A recursive document -/

/-- Nothing, or a number with what comes after it. -/
def chain : Value :=
  .obj [("anyOf", .list [.obj [("type", .str "null")],
    .obj [("required", .list [.str "value"]), ("properties", .obj [
      ("value", .obj [("type", .str "integer")]), ("next", .obj [("$ref", .str "#/definitions/chain")])])]])]

def chainDocument : Value :=
  .obj [("$ref", .str "#/definitions/chain"), ("definitions", .obj [("chain", chain)])]

def chainScope : Scope := ⟨0, some [("chain", chain)]⟩

def chainValue (last : Value) : Value :=
  .obj [("value", .int 1), ("next", .obj [("value", last), ("next", .null)])]

set_option maxRecDepth 2000 in
theorem compile_chain : (compileDocument 0 chainDocument .null).run [] =
    (.ok (.reference chainScope "chain" chain), [⟨0, "chain"⟩]) := rfl

set_option maxRecDepth 2000 in
theorem test_of_compiled_chain :
    Accepts (effectiveDefinitions chainDocument .null) chainDocument (chainValue (.int 2)) ∧
      ¬ Accepts (effectiveDefinitions chainDocument .null) chainDocument (chainValue (.str "2")) := by
  have hrun : (testWithin Body.open 3 (.reference chainScope "chain" chain) (chainValue (.int 2))).run
      [⟨0, "chain"⟩] = (.ok true, [⟨0, "chain"⟩]) := rfl
  have hrun' : (testWithin Body.open 3 (.reference chainScope "chain" chain) (chainValue (.str "2"))).run
      [⟨0, "chain"⟩] = (.ok false, [⟨0, "chain"⟩]) := rfl
  have hend : ((testWith (testFrame Body.open 3) (.reference chainScope "chain" chain)
      (chainValue (.str "2"))).run [⟨0, "chain"⟩]).1 = .ok false := rfl
  constructor
  · obtain ⟨t, ht, hyes, _⟩ := test_of_compiled (List.forall_mem_nil _) compile_chain 3 (chainValue (.int 2))
    rw [hrun] at ht
    cases ht
    exact hyes rfl
  · obtain ⟨t, ht, _, hiff⟩ := test_of_compiled (List.forall_mem_nil _) compile_chain 3 (chainValue (.str "2"))
    rw [hrun'] at ht
    cases ht
    have hno := hiff fun h => by rw [hend] at h; cases h
    exact fun h => Bool.noConfusion (hno.2 h)

end Validator

end Conformance
