import Conformance.Proofs.Agreement
import Conformance.Proofs.Correctness
import Conformance.Proofs.Faults
/-!
# Guarded references

A reference is guarded if it stands below `properties` or `items`, so that it judges a part of the
value. Where definitions refer to each other in cycles only through guarded references, frames
inside each other are bounded by the depth of the value and the number of definitions: as long as
the value stays the same, definitions are entered in the order of the references, and each at most
once. Then checks end without running out of frames, and more frames change nothing.
-/

namespace Conformance

/-! ## Depth -/

namespace Value

mutual

/-- How deep values are nested in the value: not at all in a scalar, nor in an empty list or object. -/
def depth : Value → Nat
  | arr _ items => depthAll items
  | obj entries => depthEntries entries
  | _ => 0

def depthAll : List Value → Nat
  | [] => 0
  | v :: vs => max (depth v + 1) (depthAll vs)

def depthEntries : List (String × Value) → Nat
  | [] => 0
  | (_, v) :: entries => max (depth v + 1) (depthEntries entries)

end

theorem depth_item {s : Sequence} {x : Value} {items : List Value} (h : x ∈ items) : x.depth < (arr s items).depth := by
  rw [depth]
  induction items with
  | nil => cases h
  | cons y items ih =>
    rw [depthAll]
    rcases List.mem_cons.1 h with rfl | h
    · omega
    · have := ih h
      omega

theorem depth_entry {key : String} {x : Value} {entries : List (String × Value)} (h : (key, x) ∈ entries) :
    x.depth < (obj entries).depth := by
  rw [depth]
  induction entries with
  | nil => cases h
  | cons e entries ih =>
    obtain ⟨key', y⟩ := e
    rw [depthEntries]
    rcases List.mem_cons.1 h with h | h
    · cases h
      omega
    · have := ih h
      omega

end Value

/-! ## Calls -/

namespace Validator

mutual

/-- What a check enters it enters on a value no deeper than its own. -/
theorem depth_le_of_mem_calls : ∀ {v : Validator} {x : Value} {c : Body × Value}, c ∈ v.calls x → c.2.depth ≤ x.depth
  | .anything, _, _, h | .guard _, _, _, h | .literal _, _, _, h | .hasKey _, _, _, h => by cases h
  | .all _, _, _, h | .any _, _, _, h => depth_le_of_mem_callsAll h
  | .shape _ _, x, _, h => by
    cases x with
    | obj entries => exact Nat.le_of_lt (depth_lt_of_mem_callsFields h)
    | _ => cases h
  | .arrayOf element, x, _, h => by
    cases x with
    | arr s items =>
      obtain ⟨y, hy, h⟩ := List.mem_flatMap.1 h
      have hle := @depth_le_of_mem_calls element y _ h
      exact Nat.le_trans hle (Nat.le_of_lt (Value.depth_item hy))
    | _ => cases h
  | .tupleOf _, x, _, h => by
    cases x with
    | arr s items =>
      obtain ⟨y, hy, hle⟩ := exists_of_mem_callsPositions h
      exact Nat.le_trans hle (Nat.le_of_lt (Value.depth_item hy))
    | _ => cases h
  | .deferred _ _, _, _, h | .reference _ _ _, _, _, h => by
    cases List.mem_singleton.1 h
    exact Nat.le_refl _

theorem depth_le_of_mem_callsAll : ∀ {vs : List Validator} {x : Value} {c : Body × Value},
    c ∈ callsAll vs x → c.2.depth ≤ x.depth
  | _ :: _, _, _, h => by
    rcases List.mem_append.1 h with h | h
    · exact depth_le_of_mem_calls h
    · exact depth_le_of_mem_callsAll h

theorem depth_lt_of_mem_callsFields : ∀ {fields : List (String × Validator)} {entries : List (String × Value)}
    {c : Body × Value}, c ∈ callsFields fields entries → c.2.depth < (Value.obj entries).depth
  | (key, _) :: _, entries, _, h => by
    rw [callsFields] at h
    split at h
    · exact depth_lt_of_mem_callsFields h
    · next y hl =>
      rcases List.mem_append.1 h with h | h
      · exact Nat.lt_of_le_of_lt (depth_le_of_mem_calls h) (Value.depth_entry (Entries.mem_of_lookup hl))
      · exact depth_lt_of_mem_callsFields h

theorem exists_of_mem_callsPositions : ∀ {vs : List Validator} {xs : List Value} {c : Body × Value},
    c ∈ callsPositions vs xs → ∃ y ∈ xs, c.2.depth ≤ y.depth
  | _ :: _, y :: _, _, h => by
    rcases List.mem_append.1 h with h | h
    · exact ⟨y, List.mem_cons_self, depth_le_of_mem_calls h⟩
    · obtain ⟨z, hz, hle⟩ := exists_of_mem_callsPositions h
      exact ⟨z, List.mem_cons_of_mem _ hz, hle⟩

end

/-- All that a check enters it enters on parts of the value. -/
def Narrows (v : Validator) : Prop := ∀ x, ∀ c ∈ v.calls x, c.2.depth < x.depth

theorem narrows_shape (coverage : Coverage) (fields : List (String × Validator)) : (shape coverage fields).Narrows := by
  intro x c hc
  cases x with
  | obj entries => exact depth_lt_of_mem_callsFields hc
  | _ => cases hc

theorem narrows_arrayOf (element : Validator) : (arrayOf element).Narrows := by
  intro x c hc
  cases x with
  | arr s items =>
    obtain ⟨y, hy, hc⟩ := List.mem_flatMap.1 hc
    exact Nat.lt_of_le_of_lt (depth_le_of_mem_calls hc) (Value.depth_item hy)
  | _ => cases hc

theorem narrows_tupleOf (positions : List Validator) : (tupleOf positions).Narrows := by
  intro x c hc
  cases x with
  | arr s items =>
    obtain ⟨y, hy, hle⟩ := exists_of_mem_callsPositions hc
    exact Nat.lt_of_le_of_lt hle (Value.depth_item hy)
  | _ => cases hc

theorem closed_narrows : Closed Narrows where
  guard _ _ := List.forall_mem_nil _
  literal _ _ := List.forall_mem_nil _
  hasKey _ _ := List.forall_mem_nil _
  every vs h x c hc := by
    obtain ⟨v, hv, hc⟩ := (gathers_calls x).mem_every.1 hc
    exact h v hv x c hc
  either vs h x c hc := by
    obtain ⟨v, hv, hc⟩ := (gathers_calls x).mem_either hc
    exact h v hv x c hc
  shape coverage fields _ := narrows_shape coverage fields
  arrayOf element _ := narrows_arrayOf element
  tupleOf positions _ := narrows_tupleOf positions

theorem narrows_ofProperties (needed : List String) (fields : List (String × Validator)) :
    (ofProperties needed fields).Narrows := by
  have hshape : ∀ coverage fields, ∀ v ∈ shapeUnlessEmpty coverage fields, v.Narrows := by
    intro coverage fields v hv
    cases fields with
    | nil => cases hv
    | cons f fields =>
      cases List.mem_singleton.1 hv
      exact narrows_shape coverage _
  unfold ofProperties
  refine closed_narrows.every _ fun v hv => ?_
  rcases List.mem_append.1 hv with hv | hv
  · exact hshape _ _ v hv
  · exact hshape _ _ v hv

section Compile

variable {resolve : Value → Except SchemaError Validator} {x : Value} {c : Body × Value}

mutual

/-- What a check enters on the same value it enters for a reference that no property and no item stands above. -/
theorem calls_compileWith : ∀ (s : Schema) (v : Validator), s.compileWith resolve = .ok v → c ∈ v.calls x →
    c.2.depth < x.depth ∨ ∃ ref w, .reference ref ∈ s.demands false ∧ resolve ref = .ok w ∧ c ∈ w.calls x
  | .anything, v, h, hc => by
    cases except_pure_ok h
    cases hc
  | .all parts, v, h, hc => by
    obtain ⟨vs, hvs, h⟩ := except_bind_ok.1 h
    cases except_pure_ok h
    exact calls_compileAll parts vs hvs ((gathers_calls x).mem_every.1 hc)
  | .choice branches, v, h, hc => by
    obtain ⟨vs, hvs, h⟩ := except_bind_ok.1 h
    cases except_pure_ok h
    exact calls_compileAll branches vs hvs ((gathers_calls x).mem_either hc)
  | .reference ref, v, h, hc => .inr ⟨ref, v, List.mem_singleton.2 rfl, h, hc⟩
  | .type spec, v, h, hc => .inl (closed_narrows.ofType (ofExcept_ok.1 h) x c hc)
  | .required keys, v, h, hc => by
    cases except_pure_ok h
    exact .inl (closed_narrows.every _ (List.forall_mem_map.2 fun key _ => closed_narrows.hasKey key) x c hc)
  | .properties needed fields, v, h, hc => by
    obtain ⟨fs, hfs, h⟩ := except_bind_ok.1 h
    cases except_pure_ok h
    exact .inl (narrows_ofProperties needed fs x c hc)
  | .items element, v, h, hc => by
    obtain ⟨w, hw, h⟩ := except_bind_ok.1 h
    cases except_pure_ok h
    exact .inl (narrows_arrayOf w x c hc)
  | .positions elements, v, h, hc => by
    obtain ⟨vs, hvs, h⟩ := except_bind_ok.1 h
    cases except_pure_ok h
    exact .inl (narrows_tupleOf vs x c hc)
  | .enum values, v, h, hc => by
    cases except_pure_ok h
    exact .inl (closed_narrows.either _ (List.forall_mem_map.2 fun y _ => closed_narrows.literal y) x c hc)

theorem calls_compileAll : ∀ (ss : List Schema) (vs : List Validator), Schema.compileAll resolve ss = .ok vs →
    (∃ v ∈ vs, c ∈ v.calls x) → c.2.depth < x.depth ∨
      ∃ ref w, .reference ref ∈ Schema.demandsAll false ss ∧ resolve ref = .ok w ∧ c ∈ w.calls x
  | [], vs, h, hc => by
    cases except_pure_ok h
    obtain ⟨_, hv, _⟩ := hc
    cases hv
  | s :: ss, vs, h, ⟨v, hv, hc⟩ => by
    obtain ⟨w, hw, h⟩ := except_bind_ok.1 h
    obtain ⟨ws, hws, h⟩ := except_bind_ok.1 h
    cases except_pure_ok h
    rcases List.mem_cons.1 hv with rfl | hv
    · refine (calls_compileWith s v hw hc).imp_right ?_
      rintro ⟨ref, u, hr, hu⟩
      exact ⟨ref, u, List.mem_append_left _ hr, hu⟩
    · refine (calls_compileAll ss ws hws ⟨v, hv, hc⟩).imp_right ?_
      rintro ⟨ref, u, hr, hu⟩
      exact ⟨ref, u, List.mem_append_right _ hr, hu⟩

end

end Compile

end Validator

/-! ## References on the same value -/

/-- From a node to one that judges the same value: a branch, or the definition it refers to. -/
inductive Preserves (table : Option Definitions) : Value → Value → Prop
  | branch {node part : Value} (h : Branch node part) : Preserves table node part
  | definition {entries : List (String × Value)} {r target : Value} (hr : entries.lookup "$ref" = some r)
    (ht : Meaning.Names table r target) : Preserves table (.obj entries) target

/-- From the node of one definition a reference to another is reached where the value stays the same. -/
def PassesOn (table : Option Definitions) (name name' : String) : Prop :=
  ∃ definitions target entries r, table = some definitions ∧ definitions.lookup name = some target ∧
    Relation.ReflTransGen (Preserves table) target (.obj entries) ∧ entries.lookup "$ref" = some r ∧ r.RefersTo name'

/-- Passing on has no cycle. -/
def Guarded (table : Option Definitions) : Prop := ∀ name, ¬ Relation.TransGen (PassesOn table) name name

namespace Scope

section Rank

open Classical

/-- How many definitions the value can be passed on to. -/
noncomputable def rank (scope : Scope) (name : String) : Nat :=
  (scope.definitions.getD []).countP fun e => decide (Relation.TransGen (PassesOn scope.definitions) name e.1)

variable {scope : Scope} {name name' : String} {target : Value}

theorem Defines.mem (hd : scope.Defines name target) : (name, target) ∈ scope.definitions.getD [] := by
  obtain ⟨table, ht, hl⟩ := hd
  rw [ht]
  exact Entries.mem_of_lookup hl

theorem rank_lt (hg : Guarded scope.definitions) (hp : PassesOn scope.definitions name name')
    (hd : scope.Defines name' target) : scope.rank name' < scope.rank name := by
  -- the definition that is passed on to counts for the first one and not for itself
  refine countP_lt_countP (fun e _ he => ?_) hd.mem ?_ ?_
  · exact decide_eq_true (.head hp (of_decide_eq_true he))
  · exact decide_eq_false (hg name')
  · exact decide_eq_true (.single hp)

theorem rank_lt_size (hg : Guarded scope.definitions) (hd : scope.Defines name target) :
    scope.rank name < scope.size := by
  rw [size, ← List.countP_true]
  exact countP_lt_countP (fun _ _ _ => rfl) hd.mem (decide_eq_false (hg name)) rfl

end Rank

variable {scope : Scope} {known : String → Bool} {node x : Value} {v : Validator}

/-- Calls of a definition are on parts of the value, or for a definition that the value is passed on to. -/
theorem calls_linked (h : scope.linked known node = .ok v) {c : Body × Value} (hc : c ∈ v.calls x) :
    c.2.depth < x.depth ∨ c.2 = x ∧ ∃ entries r ref target, Relation.ReflTransGen Branch node (.obj entries) ∧
      entries.lookup "$ref" = some r ∧ Reference.ofValue r = .ok ref ∧ scope.Defines ref.name target ∧
      known ref.name = true ∧ c.1 = .node scope target := by
  refine (Validator.calls_compileWith _ v h hc).imp_right ?_
  rintro ⟨r, w, hr, hw, hc⟩
  obtain ⟨n, hn, ha⟩ := Schema.mem_demands_iff.1 hr
  obtain ⟨ref, target, href, hd, hk, rfl⟩ := link_ok.1 hw
  cases List.mem_singleton.1 hc
  cases ha with
  | reference hl =>
    have hbranch : ∀ n n', Part false n n' → Branch n n' :=
      fun _ _ hp => hp.resolve_right fun hdeep => Bool.false_ne_true hdeep.1
    exact ⟨rfl, _, r, ref, target, Relation.ReflTransGen.mono hbranch _ _ hn, hl, href, hd, hk, rfl⟩

end Scope

/-! ## Frames inside each other -/

namespace Validator

/-- To check the value in the body takes at most as many frames inside each other. -/
inductive Nests : Nat → Body → Value → Prop
  | enter {frames : Nat} {b : Body} {x : Value} {v : Validator} (hv : b.linked? = some v)
    (hc : ∀ c ∈ v.calls x, Nests frames c.1 c.2) : Nests (frames + 1) b x

/-- Both sides end, and with the same. -/
def settling : Simulation Option Option where
  rel x y := ∃ a, x = some a ∧ y = some a
  pure a := ⟨a, rfl, rfl⟩
  bind {_ _ x y f g} hx hf := by
    obtain ⟨a, rfl, rfl⟩ := hx
    exact hf a

/-- What settles from some number of frames on has one result from there on. -/
theorem settles {α : Type} {frames : Nat} {f : Nat → Option α}
    (h : ∀ limit limit', frames ≤ limit → frames ≤ limit' → settling.rel (f limit) (f limit')) :
    ∃ a, ∀ limit, frames ≤ limit → f limit = some a := by
  obtain ⟨a, ha, _⟩ := h frames frames (Nat.le_refl frames) (Nat.le_refl frames)
  refine ⟨a, fun limit hl => ?_⟩
  obtain ⟨a', ha', hlimit⟩ := h frames limit (Nat.le_refl frames) hl
  rw [ha] at ha'
  cases ha'
  exact hlimit

section Ends

variable {frames limit limit' : Nat} {b : Body} {v : Validator} {x : Value}

/-- A test with enough frames ends, and more of them change nothing. -/
theorem Nests.test (h : Nests frames b x) (hl : frames ≤ limit) (hl' : frames ≤ limit') :
    settling.rel (testIn? limit b x) (testIn? limit' b x) := by
  induction h generalizing limit limit' with
  | @enter frames b x v hv _ ih =>
    obtain ⟨n, rfl⟩ : ∃ n, limit = n + 1 := ⟨limit - 1, by omega⟩
    obtain ⟨n', rfl⟩ : ∃ n', limit' = n' + 1 := ⟨limit' - 1, by omega⟩
    rw [testIn?, testIn?, hv]
    exact settling.testCalls v x fun c hc => ih c hc (by omega) (by omega)

theorem Nests.diagnose (h : Nests frames b x) (hl : frames ≤ limit) (hl' : frames ≤ limit') :
    settling.rel (diagnoseIn? limit b x) (diagnoseIn? limit' b x) := by
  induction h generalizing limit limit' with
  | @enter frames b x v hv _ ih =>
    obtain ⟨n, rfl⟩ : ∃ n, limit = n + 1 := ⟨limit - 1, by omega⟩
    obtain ⟨n', rfl⟩ : ∃ n', limit' = n' + 1 := ⟨limit' - 1, by omega⟩
    rw [diagnoseIn?, diagnoseIn?, hv]
    exact settling.diagnoseCalls v x fun c hc => ih c hc (by omega) (by omega)

theorem test_of_nests (h : ∀ c ∈ v.calls x, Nests frames c.1 c.2) :
    ∃ t, ∀ limit, frames ≤ limit → testWith (testIn? limit) v x = some t :=
  settles fun _ _ hl hl' => settling.testCalls v x fun c hc => (h c hc).test hl hl'

theorem diagnosis_of_nests (h : ∀ c ∈ v.calls x, Nests frames c.1 c.2) :
    ∃ d, ∀ limit, frames ≤ limit → diagnoseWith (diagnoseIn? limit) v x = some d :=
  settles fun _ _ hl hl' => settling.diagnoseCalls v x fun c hc => (h c hc).diagnose hl hl'

end Ends

section Guarded

variable {scope : Scope} {known : String → Bool} {name : String} {target node x : Value} {v : Validator}

/-- A definition is left with fewer frames to go: the value is smaller, or it is passed on. -/
theorem nests_of_guarded (hg : Guarded scope.definitions) (hs : scope.Settled known) {frames : Nat}
    (hk : known name = true) (hd : scope.Defines name target)
    (hf : x.depth * scope.size + scope.rank name < frames) : Nests frames (.node scope target) x := by
  induction frames generalizing name target x with
  | zero => omega
  | succ frames ih =>
    obtain ⟨v, hv⟩ := hs name target hk hd
    refine .enter (Body.linked?_node.2 (Scope.linked_mono (fun _ _ => rfl) hv)) fun c hc => ?_
    obtain ⟨b, y⟩ := c
    -- either the value gets smaller, and all definitions may be met again, or the rank does
    have hcall := Scope.calls_linked hv hc
    dsimp only at hcall ⊢
    rcases hcall with hless | ⟨rfl, entries, r, ref, target', hn, hl, href, hd', hk', rfl⟩
    · obtain ⟨name', target', rfl, hd', hk'⟩ := Scope.bodies_of_linked hv b (mem_bodies_of_mem_calls hc)
      refine ih hk' hd' ?_
      have hrank := Scope.rank_lt_size hg hd'
      have hdepth : (y.depth + 1) * scope.size ≤ x.depth * scope.size := Nat.mul_le_mul_right _ hless
      rw [Nat.add_mul, Nat.one_mul] at hdepth
      omega
    · refine ih hk' hd' ?_
      obtain ⟨table, ht, htarget⟩ := hd
      have hpreserves : Relation.ReflTransGen (Preserves scope.definitions) target (.obj entries) :=
        Relation.ReflTransGen.mono (fun _ _ hb => .branch hb) _ _ hn
      have hpass : PassesOn scope.definitions name ref.name :=
        ⟨table, target, entries, r, ht, htarget, hpreserves, hl, Reference.refersTo_iff.2 ⟨ref, href, rfl⟩⟩
      have hrank := Scope.rank_lt hg hpass hd'
      omega

theorem nests_calls (hg : Guarded scope.definitions) (hs : scope.Settled known)
    (hv : scope.linked known node = .ok v) (x : Value) :
    ∀ c ∈ v.calls x, Nests ((x.depth + 1) * scope.size) c.1 c.2 := by
  rintro ⟨b, y⟩ hc
  obtain ⟨name, target, rfl, hd, hk⟩ := Scope.bodies_of_linked hv b (mem_bodies_of_mem_calls hc)
  have hrank := Scope.rank_lt_size hg hd
  have hdepth : y.depth * scope.size ≤ x.depth * scope.size := Nat.mul_le_mul_right _ (depth_le_of_mem_calls hc)
  refine nests_of_guarded hg hs hk hd ?_
  rw [Nat.add_mul, Nat.one_mul]
  dsimp only
  omega

end Guarded

/-! ## Documents that compiled -/

/-- Where no definition passes a value on to itself, a check takes at most as many frames inside each other
as there are definitions for each level of the value. With that many frames or more it ends without running
out of them, and always with the same answer. -/
theorem ends_of_guarded {id : Nat} {document definitions : Value} {before after : List Mark} {v : Validator}
    (fresh : ∀ m ∈ before, m.scope ≠ id)
    (h : (compileDocument id document definitions).run before = (.ok v, after))
    (guarded : Guarded (effectiveDefinitions document definitions)) (x : Value) :
    ∃ t d, (∀ tree, d = some tree → ¬ tree.Limited) ∧
      ∀ limit, (x.depth + 1) * ((effectiveDefinitions document definitions).getD []).length ≤ limit →
        (testWith (testFrame Body.open limit) v x).run after = (.ok t, after) ∧
        (diagnoseWith (diagnoseFrame Body.open limit) v x).run after = (.ok d, after) ∧
        (testWithin Body.open limit v x).run after = (.ok t, after) ∧
        (diagnoseWithin Body.open limit v x).run after = (.ok d, after) := by
  obtain ⟨_, hc⟩ := Scope.compile_fresh fresh h
  have hs : v.Safe after := hc.safe (List.Subset.refl _)
  have hn := nests_calls guarded hc.settled hc.linked x
  obtain ⟨t, ht⟩ := test_of_nests hn
  obtain ⟨d, hd⟩ := diagnosis_of_nests hn
  refine ⟨t, d, ?_, fun limit hl => ⟨?_, ?_, ?_, ?_⟩⟩
  · rintro tree rfl
    exact unlimited_with (unlimited_in _) v x _ (hd _ (Nat.le_refl _)) tree List.mem_cons_self
  · rw [testFrames_run limit hs, ht limit hl]
    rfl
  · rw [diagnoseFrames_run limit hs, hd limit hl]
    rfl
  · rw [testWithin_run limit hs, passes_of_ends (ht limit hl)]
  · rw [diagnoseWithin_run limit hs, failure?_of_ends (hd limit hl)]

/-! ### Lists of lists -/

def nest : Value := .obj [("$ref", .str "#/definitions/level")]

/-- A list of the same. -/
def level : Value := .obj [("type", .str "array"), ("items", .obj [("$ref", .str "#/definitions/nest")])]

def nestDocument : Value :=
  .obj [("$ref", .str "#/definitions/nest"), ("definitions", .obj [("nest", nest), ("level", level)])]

def nestScope : Scope := ⟨0, some [("nest", nest), ("level", level)]⟩

/-- Three levels. -/
def nestValue : Value := .list [.list [], .list [.list []]]

set_option maxRecDepth 2000 in
theorem compile_nest : (compileDocument 0 nestDocument .null).run [] =
    (.ok (.reference nestScope "nest" nest), [⟨0, "nest"⟩, ⟨0, "level"⟩]) := rfl

/-- The value is passed on to the level, and from there its items only. -/
theorem preserves_nest {node part : Value} (h : Preserves nestScope.definitions node part)
    (hn : node = nest ∨ node = level) : node = nest ∧ part = level := by
  rcases hn with rfl | rfl
  · refine ⟨rfl, ?_⟩
    cases h with
    | branch hb =>
      cases hb with
      | keyword hk hl _ =>
        simp only [List.mem_cons, List.not_mem_nil, or_false] at hk
        rcases hk with rfl | rfl | rfl <;> cases hl
    | definition hr ht =>
      cases hr
      obtain ⟨ref, table, href, ht, hl⟩ := ht
      cases ht
      cases href
      cases hl
      rfl
  · cases h with
    | branch hb =>
      cases hb with
      | keyword hk hl _ =>
        simp only [List.mem_cons, List.not_mem_nil, or_false] at hk
        rcases hk with rfl | rfl | rfl <;> cases hl
    | definition hr ht => cases hr

theorem passesOn_nest {name name' : String} (h : PassesOn nestScope.definitions name name') :
    name = "nest" ∧ name' = "level" := by
  obtain ⟨definitions, target, entries, r, ht, hl, hn, hr, hname⟩ := h
  have hlevel : ∀ entries, Relation.ReflTransGen (Preserves nestScope.definitions) level (.obj entries) →
      entries.lookup "$ref" = none := by
    intro entries hn
    rcases hn.cases_head with heq | ⟨node, hp, _⟩
    · cases heq
      rfl
    · exact absurd (preserves_nest hp (.inr rfl)).1 (by simp [nest, level])
  cases ht
  simp only [Entries.lookup_cons] at hl
  split at hl
  · next hnest =>
    cases hl
    rcases hn.cases_head with heq | ⟨node, hp, hn⟩
    · cases heq
      cases hr
      obtain ⟨ref, href, rfl⟩ := Reference.refersTo_iff.1 hname
      cases href
      exact ⟨hnest, rfl⟩
    · cases (preserves_nest hp (.inl rfl)).2
      rw [hlevel entries hn] at hr
      cases hr
  · split at hl
    · cases hl
      rw [hlevel entries hn] at hr
      cases hr
    · cases hl

theorem guarded_nest : Guarded nestScope.definitions := by
  intro name h
  obtain ⟨_, hfirst, _⟩ := Relation.TransGen.head'_iff.1 h
  obtain ⟨_, _, hlast⟩ := Relation.TransGen.tail'_iff.1 h
  obtain ⟨rfl, _⟩ := passesOn_nest hfirst
  exact absurd (passesOn_nest hlast).2 (by decide)

set_option maxRecDepth 2000 in
theorem ends_of_guarded_nest : nestValue.depth = 2 ∧ ∀ limit, (2 + 1) * 2 ≤ limit →
    (testWithin Body.open limit (.reference nestScope "nest" nest) nestValue).run [⟨0, "nest"⟩, ⟨0, "level"⟩] =
      (.ok true, [⟨0, "nest"⟩, ⟨0, "level"⟩]) ∧
    (diagnoseWithin Body.open limit (.reference nestScope "nest" nest) nestValue).run
      [⟨0, "nest"⟩, ⟨0, "level"⟩] = (.ok none, [⟨0, "nest"⟩, ⟨0, "level"⟩]) := by
  have hsix : (testWithin Body.open 6 (.reference nestScope "nest" nest) nestValue).run
      [⟨0, "nest"⟩, ⟨0, "level"⟩] = (.ok true, [⟨0, "nest"⟩, ⟨0, "level"⟩]) := rfl
  have hsix' : (diagnoseWithin Body.open 6 (.reference nestScope "nest" nest) nestValue).run
      [⟨0, "nest"⟩, ⟨0, "level"⟩] = (.ok none, [⟨0, "nest"⟩, ⟨0, "level"⟩]) := rfl
  obtain ⟨t, d, _, hlimit⟩ := ends_of_guarded (List.forall_mem_nil _) compile_nest guarded_nest nestValue
  obtain ⟨_, _, ht, hd⟩ := hlimit 6 (Nat.le_refl 6)
  rw [hsix] at ht
  rw [hsix'] at hd
  cases ht
  cases hd
  refine ⟨rfl, fun limit hl => ?_⟩
  exact (hlimit limit hl).2.2

end Validator

end Conformance
