import Conformance.Proofs.Correctness
import Conformance.Proofs.Findings
import Conformance.Proofs.Verdict
/-!
# Where failures come from

Every node of a failure is of a check that is applied at the node's place. So the labels on the way
to it lead from the value to the node's value, and a node without children reports what is wrong
there: the value itself, a key that an object lacks, a disjunction without branches, or frames that
ran out.
-/

namespace Conformance.Validator

/-! ## Nodes and the checks they are of -/

/-- A node at the end of the path is one that a check applied there has made. A node without children
is of a check that refuses its value, of a missing key, or of frames that ran out. -/
inductive Stems (marks : List Mark) (limit : Nat) (v : Validator) (x : Value) : List Label → Diagnostic → Prop
  | own {u : Validator} {y : Value} {path : List Label} {children : List Diagnostic} (label : Option Label)
    (ha : Applies marks limit v x path u y) (hb : u.body? = none) (hc : children = [] → u.Refuses y) :
    Stems marks limit v x path (.node u.name y children label)
  | lack {u : Validator} {y : Value} {path : List Label} {key : String} (ha : Applies marks limit v x path u y)
    (hl : u.Lacks y key) : Stems marks limit v x (path ++ [.key key]) (.missing y key)
  | limit {u : Validator} {b : Body} {y : Value} {path : List Label} (label : Option Label)
    (ha : Applies marks limit v x path u y) (hb : u.body? = some b) :
    Stems marks limit v x path ((recursionLimit y).labelled label)

/-- A failure without a label, each of whose nodes stems from the check. -/
structure Traced (marks : List Mark) (limit : Nat) (v : Validator) (x : Value) (d : Diagnostic) : Prop where
  label : d.label = none
  stems : ∀ path n, d.At path n → Stems marks limit v x path n

variable {marks : List Mark} {limit : Nat} {v w : Validator} {x y : Value} {label : Option Label} {d : Diagnostic}

theorem Stems.step {path : List Label} {n : Diagnostic} (hs : Step marks limit v x label w y)
    (h : Stems marks limit w y path n) : Stems marks limit v x (label.toList ++ path) n := by
  cases h with
  | own l ha hb hc => exact .own l (.step hs ha) hb hc
  | lack ha hl => rw [← List.append_assoc]; exact .lack (.step hs ha) hl
  | limit l ha hb => exact .limit l (.step hs ha) hb

/-- What stems from the check at its own place does so under any label. -/
theorem Stems.labelled {n : Diagnostic} (h : Stems marks limit v x [] n) (label : Option Label) :
    Stems marks limit v x [] (n.labelled label) := by
  generalize hp : ([] : List Label) = path at h
  cases h with
  | own _ ha hb hc => exact .own label ha hb hc
  | lack _ _ => simp at hp
  | limit _ ha hb => exact .limit label ha hb

theorem Traced.step (hs : Step marks limit v x none w y) (h : Traced marks limit w y d) : Traced marks limit v x d where
  label := h.label
  stems path n hn := (h.stems path n hn).step hs

/-- The failure of one step, put under the label of the step, stems from the check as a whole. -/
theorem Traced.placed (hs : Step marks limit v x label w y) (h : Traced marks limit w y d) {path : List Label}
    {n : Diagnostic} (hn : (d.placed label).At path n) : Stems marks limit v x path n := by
  obtain ⟨rfl, rfl⟩ | ⟨q, rfl, hq⟩ := hn.of_placed h.label
  · have hroot : d.At [] d := by
      have := Diagnostic.At.root d
      rwa [h.label] at this
    have hstems := ((h.stems [] d hroot).labelled label).step hs
    rwa [List.append_nil] at hstems
  · exact (h.stems q n hq).step hs

theorem traced_recursionLimit {b : Body} (hb : v.body? = some b) (x : Value) :
    Traced marks limit v x (recursionLimit x) where
  label := rfl
  stems _ _ h := by
    cases h with
    | root => exact .limit none (.self v x) hb
    | child hc _ => cases hc

/-! ## Tracing a diagnosis -/

section Trace

variable {enter : Body → Value → Option (Option Diagnostic)}

/-- One layer of a diagnosis: where the failures of the parts are traced, that of the whole is. -/
theorem traced_layer (hb : v.body? = none) (hd : diagnoseWith enter v x = some (some d))
    (hr : Rejects marks limit v x)
    (hparts : ∀ {l w y e}, Step marks limit v x l w y → diagnoseWith enter w y = some (some e) →
      Traced marks limit w y e) : Traced marks limit v x d := by
  cases hl : v.looks? x with
  | none =>
    obtain ⟨rfl, hrefuses⟩ := failure_of_no_looks hl hb hd
    refine ⟨rfl, fun path n hn => ?_⟩
    cases hn with
    | root => exact .own none (.self v x) hb fun _ => hrefuses
    | child hc _ => cases hc
  | some looks =>
    obtain ⟨rfl, hnil⟩ := failure_of_looks hl hd
    refine ⟨rfl, fun path n hn => ?_⟩
    cases hn with
    | root =>
      -- without a child it would be no failure, but for a disjunction
      refine .own none (.self v x) hb fun he => ?_
      rw [hnil he]
      exact .choice
    | child hc hn =>
      obtain ⟨look, hlook, hc⟩ := List.mem_flatMap.1 hc
      -- a child is the failure of a step, or a key that was looked for
      cases look with
      | check label w y =>
        obtain ⟨e, he, rfl⟩ : ∃ e, diagnoseWith enter w y = some (some e) ∧ e.placed label = _ := by
          simpa [found, Option.join_eq_some_iff] using hc
        have hs := step_of_look hl hlook hr
        exact (hparts hs he).placed hs hn
      | lack key =>
        cases List.mem_singleton.1 hc
        cases hn with
        | root => exact .lack (.self v x) (lacks_of_look hl hlook)
        | child hc _ => cases hc

/-- Where the failures of what is entered are traced, all are. -/
theorem traced_with (hr : ∀ w y e, w.Safe marks → diagnoseWith enter w y = some (some e) → Rejects marks limit w y)
    (he : ∀ w b y e, w.Safe marks → w.body? = some b → enter b y = some (some e) → Traced marks limit w y e)
    (v : Validator) {x : Value} {d : Diagnostic} (hv : v.Safe marks)
    (hd : diagnoseWith enter v x = some (some d)) : Traced marks limit v x d := by
  cases hb : v.body? with
  | some b =>
    rw [diagnoseWith_body hb] at hd
    exact he v b x d hv hb hd
  | none =>
    -- nothing is opened here, so each step leads to a smaller check
    refine traced_layer hb hd (hr v x d hv hd) fun {_ w _ _} hs hw => ?_
    have := hs.smaller hb
    exact traced_with hr he w (hs.safe hv) hw
termination_by sizeOf v

end Trace

/-- A failure inside a frame, of what a check defers to. -/
theorem traced_in {k : Nat} (hk : k ≤ limit) {b : Body} (hv : v.Safe marks) (hb : v.body? = some b)
    (hd : diagnoseIn? k b x = some (some d)) : Traced marks limit v x d := by
  induction k generalizing v x d b with
  | zero => cases hd
  | succ k ih =>
    obtain ⟨w, hw, hd⟩ := Option.bind_eq_some_iff.1 hd
    obtain ⟨w', hl, ho, hs⟩ := (Safe.body hv hb).opens
    rw [hw] at hl
    cases hl
    -- what is opened is diagnosed with one frame less, and its failure rejects outside of all frames too
    refine Traced.step (.through hb ho) (traced_with (fun u y e hu hy => ?_) (fun u c y e hu hc hy => ?_) w hs hd)
    · exact (rejects_iff hu).2 ⟨e, failure?_of_in (by omega) hy⟩
    · exact ih (by omega) hu hc hy

/-- What an outermost frame answers is traced: the failure inside, or that the frames ran out. -/
theorem traced_outermost {b : Body} (hv : v.Safe marks) (hb : v.body? = some b)
    (hd : outermost limit b x = some (some d)) : Traced marks limit v x d := by
  cases hk : diagnoseIn? limit b x with
  | none =>
    simp only [outermost, hk, Option.getD_none, Option.some.injEq] at hd
    rw [← hd]
    exact traced_recursionLimit hb x
  | some r =>
    simp only [outermost, hk, Option.getD_some, Option.some.injEq] at hd
    rw [hd] at hk
    exact traced_in (Nat.le_refl _) hv hb hk

/-- A failure of a safe check is traced. -/
theorem traced_of_failure (hv : v.Safe marks) (hd : failure? limit v x = some d) : Traced marks limit v x d := by
  have houter : diagnoseWith (outermost limit) v x = some (some d) := by rw [diagnoseWith_outermost, hd]
  refine traced_with (fun u y e hu hy => ?_) (fun u b y e hu hb hy => traced_outermost hu hb hy) v hv houter
  rw [diagnoseWith_outermost] at hy
  exact (rejects_iff hu).2 ⟨e, Option.some.inj hy⟩

/-! ## Operators -/

theorem name_ne_missing (hb : v.body? = none) : v.name ≠ "missing" := by
  cases v with
  | guard kind => cases kind <;> decide
  | shape coverage fields => cases coverage <;> simp [name, shapeName]
  | literal expected => exact literalName_ne (by decide) expected
  | deferred name body => cases hb
  | reference scope name target => cases hb
  | _ => simp [name]

/-! ## Places -/

/-- What is reported at the path stands there in the value. The last step to a missing key is not to be
taken: it is an object without the key that stands in front of it. -/
structure Stands (x : Value) (path : List Label) (operator : String) (value : Value) : Prop where
  there : operator ≠ "missing" → x.follow path = some value
  lacking : operator = "missing" → ∃ front key entries, path = front ++ [.key key] ∧ x.follow front = some value ∧
    value = .obj entries ∧ entries.lookup key = none

theorem Stems.stands {path : List Label} {n : Diagnostic} (h : Stems marks limit v x path n) :
    Stands x path n.operator n.value ∧ (n.operator = "missing" → n.label = path.getLast?) := by
  cases h with
  | own _ ha hb _ =>
    have hne := name_ne_missing hb
    exact ⟨⟨fun _ => ha.follow, fun h => absurd h hne⟩, fun h => absurd h hne⟩
  | @lack u y front key ha hl =>
    obtain ⟨_, entries, rfl, hn⟩ := hl
    exact ⟨⟨fun h => absurd rfl h, fun _ => ⟨front, key, entries, rfl, ha.follow, rfl, hn⟩⟩,
      fun _ => List.getLast?_concat.symm⟩
  | limit _ ha _ =>
    have hne : "recursionLimit" ≠ "missing" := by decide
    exact ⟨⟨fun _ => ha.follow, fun h => absurd h hne⟩, fun h => absurd h hne⟩

/-- The diagnosis of a validator that was built ends with a tree whose root has no label. The labels on
the way to any of its nodes lead to the node's value, and so do the paths of its leaves; of a missing key
the label is the last one. -/
theorem diagnosis_stands (hv : Built marks v) (limit : Nat) (x : Value) :
    ∃ d, (diagnoseWithin Body.open limit v x).run marks = (.ok d, marks) ∧ ∀ tree, d = some tree →
      tree.label = none ∧
      (∀ path n, tree.At path n →
        Stands x path n.operator n.value ∧ (n.operator = "missing" → n.label = path.getLast?)) ∧
      ∀ leaf ∈ tree.leaves [], Stands x leaf.path leaf.operator leaf.value := by
  refine ⟨_, diagnoseWithin_run limit hv.safe x, fun tree ht => ?_⟩
  have htraced := traced_of_failure hv.safe ht
  refine ⟨htraced.label, fun path n hn => (htraced.stems path n hn).stands, fun leaf hleaf => ?_⟩
  obtain ⟨path, n, hn, -, rfl⟩ := Diagnostic.at_of_mem_leaves tree [] hleaf
  exact (htraced.stems path n hn).stands.1

set_option maxRecDepth 2000 in
/-- A failure in the second part of a chain. -/
theorem chain_failure : ∃ tree,
    (diagnoseWithin Body.open 3 (.reference chainScope "chain" chain) (chainValue (.str "2"))).run [⟨0, "chain"⟩] =
      (.ok (some tree), [⟨0, "chain"⟩]) ∧
    (tree.leaves []).map (·.path) = [[], [.key "next"], [.key "next", .key "value"]] ∧
    (tree.leaves []).map (·.operator) = ["null", "null", "number"] :=
  ⟨_, rfl, rfl, rfl⟩

/-- Through a reference to the definition itself. -/
theorem diagnosis_stands_chain : ∃ tree,
    (diagnoseWithin Body.open 3 (.reference chainScope "chain" chain) (chainValue (.str "2"))).run [⟨0, "chain"⟩] =
      (.ok (some tree), [⟨0, "chain"⟩]) ∧
    (tree.leaves []).map (·.path) = [[], [.key "next"], [.key "next", .key "value"]] ∧
    tree.label = none ∧
    (∀ path n, tree.At path n → Stands (chainValue (.str "2")) path n.operator n.value ∧
      (n.operator = "missing" → n.label = path.getLast?)) ∧
    ∀ leaf ∈ tree.leaves [], Stands (chainValue (.str "2")) leaf.path leaf.operator leaf.value := by
  obtain ⟨tree, hrun, hpaths, -⟩ := chain_failure
  obtain ⟨d, hd, h⟩ := diagnosis_stands
    (.compiled (List.forall_mem_nil _) compile_chain (List.Subset.refl _)) 3 (chainValue (.str "2"))
  rw [hrun] at hd
  cases hd
  exact ⟨tree, hrun, hpaths, h tree rfl⟩

/-! ## Violations -/

/-- What a leaf reports of its value is so, by its operator. -/
def Genuine (marks : List Mark) (limit : Nat) (v : Validator) (x : Value) (leaf : Diagnostic.Leaf) : Prop :=
  match leaf.operator with
  | "string" => leaf.value.hasKind .string = false
  | "number" => leaf.value.hasKind .number = false
  | "boolean" => leaf.value.hasKind .boolean = false
  | "object" => leaf.value.hasKind .object = false
  | "array" => leaf.value.hasKind .array = false
  | "null" => leaf.value.hasKind .null = false
  | "missing" => ∃ front key entries, leaf.path = front ++ [.key key] ∧ leaf.value = .obj entries ∧
    entries.lookup key = none
  | "required" | "shape" | "partialShape" => leaf.value.hasKind .object = false
  | "arrayOf" | "tupleOf" => leaf.value.hasKind .array = false
  | "some" => Applies marks limit v x leaf.path (.any []) leaf.value
  | "every" => False
  | "recursionLimit" => ∃ w b, w.body? = some b ∧ Applies marks limit v x leaf.path w leaf.value
  | operator => ∃ expected, operator = literalName expected ∧
    Applies marks limit v x leaf.path (.literal expected) leaf.value ∧ leaf.value.same expected = false

section

variable {path : List Label} {u : Validator}

theorem genuine_literal {expected : Value} (ha : Applies marks limit v x path (.literal expected) y)
    (h : y.same expected = false) : Genuine marks limit v x ⟨path, literalName expected, y⟩ := by
  unfold Genuine
  split
  -- no operator in the list has the first letter of a literal's
  case h_16 => exact ⟨expected, rfl, ha, h⟩
  all_goals
    next hn => exact absurd hn (literalName_ne (by decide) expected)

theorem Refuses.genuine (h : u.Refuses y) (ha : Applies marks limit v x path u y) :
    Genuine marks limit v x ⟨path, u.name, y⟩ := by
  cases h with
  | @kind kind x h => cases kind <;> exact h
  | literal h => exact genuine_literal ha h
  | key h => exact h
  | @fields coverage _ _ h => cases coverage <;> exact h
  | element h => exact h
  | positions h => exact h
  | choice => exact ha

/-- A node without children reports what is so. -/
theorem Stems.genuine {n : Diagnostic} (h : Stems marks limit v x path n) (hc : n.children = []) :
    Genuine marks limit v x ⟨path, n.operator, n.value⟩ := by
  cases h with
  | own _ ha _ hr => exact (hr hc).genuine ha
  | lack ha hl =>
    obtain ⟨_, entries, rfl, hn⟩ := hl
    exact ⟨_, _, entries, rfl, rfl, hn⟩
  | limit _ ha hb => exact ⟨_, _, hb, ha⟩

end

/-- What the leaves of a diagnosis report is so, for every validator that was built. -/
theorem diagnosis_genuine (hv : Built marks v) (limit : Nat) (x : Value) :
    ∃ d, (diagnoseWithin Body.open limit v x).run marks = (.ok d, marks) ∧
      ∀ tree, d = some tree → ∀ leaf ∈ tree.leaves [], Genuine marks limit v x leaf := by
  refine ⟨_, diagnoseWithin_run limit hv.safe x, fun tree ht leaf hleaf => ?_⟩
  obtain ⟨path, n, hn, hc, rfl⟩ := Diagnostic.at_of_mem_leaves tree [] hleaf
  exact ((traced_of_failure hv.safe ht).stems path n hn).genuine hc

theorem diagnosis_genuine_chain : ∃ tree,
    (diagnoseWithin Body.open 3 (.reference chainScope "chain" chain) (chainValue (.str "2"))).run [⟨0, "chain"⟩] =
      (.ok (some tree), [⟨0, "chain"⟩]) ∧
    (tree.leaves []).map (·.operator) = ["null", "null", "number"] ∧
    ∀ leaf ∈ tree.leaves [],
      Genuine [⟨0, "chain"⟩] 3 (.reference chainScope "chain" chain) (chainValue (.str "2")) leaf := by
  obtain ⟨tree, hrun, -, hoperators⟩ := chain_failure
  obtain ⟨d, hd, h⟩ := diagnosis_genuine
    (.compiled (List.forall_mem_nil _) compile_chain (List.Subset.refl _)) 3 (chainValue (.str "2"))
  rw [hrun] at hd
  cases hd
  exact ⟨tree, hrun, hoperators, h tree rfl⟩

end Conformance.Validator
