import Conformance.Proofs.Origins
/-!
# What is reported

A diagnosis that does not run out of frames leaves out no failure. Where a check that it applies at a
place fails there, the leaves of that failure stand among those of the whole, one after the other and
behind the path to the place.
-/

namespace Conformance.Validator

variable {marks : List Mark} {limit : Nat} {v w u : Validator} {x y : Value} {label : Option Label}
  {path : List Label} {d e : Diagnostic}

/-! ## One step -/

theorem found_of_failure (he : failure? limit w y = some e) (x : Value) (label : Option Label) :
    found (outermost limit) x (.check label w y) = [e.placed label] := by
  rw [found, diagnoseWith_outermost, he]
  rfl

/-- What is found in one of the looks of a check is a child of its failure. A disjunction looks further
only if it rejects the value. -/
theorem failure_of_found {looks : List Look} {look : Look} (hl : v.looks? x = some looks) (hlook : look ∈ looks)
    (hany : ∀ members, v = .any members → failure? limit v x ≠ none) (hd : d ∈ found (outermost limit) x look) :
    ∃ children, failure? limit v x = some (.node v.name x children none) ∧ d ∈ children := by
  have hmem : d ∈ looks.flatMap (found (outermost limit) x) := List.mem_flatMap.2 ⟨look, hlook, hd⟩
  have hdiagnose := diagnoseWith_outermost limit v x
  cases hf : failure? limit v x with
  | some tree =>
    rw [hf] at hdiagnose
    obtain ⟨rfl, -⟩ := failure_of_looks hl hdiagnose
    exact ⟨_, rfl, hmem⟩
  | none =>
    have hv : ∀ members, v ≠ .any members := fun members hm => hany members hm hf
    have hchildren := diagnosis_of_looks hl hv hdiagnose
    rw [hf] at hchildren
    -- a diagnosis that finds something has a failure
    unfold Diagnostic.ofChildren at hchildren
    split at hchildren
    · next hnil =>
      rw [hnil] at hmem
      cases hmem
    · cases hchildren

/-- A step that opens nothing: the failure there is a child, under the label of the step. -/
theorem Step.child (hs : Step marks limit v x label w y) (hv : v.Safe marks) (hb : v.body? = none)
    (he : failure? limit w y = some e) :
    ∃ children, failure? limit v x = some (.node v.name x children none) ∧ e.placed label ∈ children := by
  obtain ⟨looks, hl, hlook⟩ := hs.looked hb
  refine failure_of_found hl hlook (fun members hm => ?_) (by rw [found_of_failure he]; exact List.mem_singleton.2 rfl)
  subst hm
  cases hs with
  | branch _ hr => exact Option.ne_none_iff_exists'.2 ((rejects_iff hv).1 hr)
  | through hb' _ => cases hb'

/-- Opening what a check defers to changes nothing, unless the frames run out. -/
theorem failure_through {b : Body} (hb : v.body? = some b) (hl : b.linked? = some w) (x : Value) :
    failure? limit v x = some (recursionLimit x) ∨ failure? limit v x = failure? limit w x := by
  have hv := diagnoseWith_outermost limit v x
  rw [diagnoseWith_body hb, outermost, Option.some.injEq] at hv
  rw [← hv]
  cases hin : diagnoseIn? limit b x with
  | none => exact .inl rfl
  | some r =>
    cases limit with
    | zero => cases hin
    | succ k =>
      rw [diagnoseIn?, hl] at hin
      exact .inr (failure?_of_in (Nat.le_succ k) hin).symm

/-- A step to a failure: the leaves of it stand together among those of the whole. -/
theorem Step.reported (hs : Step marks limit v x label w y) (hv : v.Safe marks)
    (hl : ∀ tree, failure? limit v x = some tree → ¬ tree.Limited) (he : failure? limit w y = some e) :
    ∃ tree, failure? limit v x = some tree ∧ (e.leaves []).map (·.behind label.toList) <:+: tree.leaves [] ∧
      ¬ e.Limited := by
  cases hb : v.body? with
  | some b =>
    -- the failure is that of what is opened
    cases hs with
    | through hb' ho =>
      obtain ⟨hlink, -⟩ := opens_to (Safe.body hv hb') ho
      rcases failure_through hb' hlink x with hlimit | hsame
      · exact absurd (limited_recursionLimit x) (hl _ hlimit)
      · have htree := hsame.trans he
        exact ⟨e, htree, by simp, hl e htree⟩
    | _ => cases hb
  | none =>
    -- the failure is a child, and the label of the step is on it
    obtain ⟨children, htree, hchild⟩ := hs.child hv hb he
    have hlabel := (traced_of_failure (hs.safe hv) he).label
    refine ⟨_, htree, ?_, fun hlimited => hl _ htree (.node hchild ?_)⟩
    · rw [Diagnostic.leaves_node (List.ne_nil_of_mem hchild), Option.toList_none, List.append_nil,
        ← Diagnostic.leaves_below, List.append_nil]
      have := Diagnostic.leaves_infix hchild []
      rwa [Diagnostic.leaves_placed hlabel, List.nil_append] at this
    · rw [Diagnostic.placed_eq hlabel]
      exact Diagnostic.limited_labelled.2 hlimited

/-! ## Any number of steps -/

/-- The failure of a check that is applied at the end of the path is reported as it is, behind the path. -/
theorem Applies.reported (h : Applies marks limit v x path u y) (hv : v.Safe marks)
    (hl : ∀ tree, failure? limit v x = some tree → ¬ tree.Limited) (he : failure? limit u y = some e) :
    ∃ tree, failure? limit v x = some tree ∧ (e.leaves []).map (·.behind path) <:+: tree.leaves [] := by
  induction h with
  | self v x => exact ⟨e, he, by simp⟩
  | @step v w u x y z label path hs _ ih =>
    have hlw : ∀ t, failure? limit w y = some t → ¬ t.Limited := fun t ht => by
      obtain ⟨_, _, _, hlimited⟩ := hs.reported hv hl ht
      exact hlimited
    -- a block of leaves in a block of leaves
    obtain ⟨t, ht, hblock⟩ := ih (hs.safe hv) hlw he
    obtain ⟨tree, htree, houter, _⟩ := hs.reported hv hl ht
    refine ⟨tree, htree, List.IsInfix.trans ?_ houter⟩
    have hmap : (e.leaves []).map (·.behind (label.toList ++ path)) =
        ((e.leaves []).map (·.behind path)).map (·.behind label.toList) := by
      simp [Diagnostic.Leaf.behind_append]
    rw [hmap]
    exact hblock.map _

/-- A key that an object lacks is a leaf of the failure. -/
theorem Lacks.reported {key : String} (h : v.Lacks x key) (limit : Nat) :
    ∃ tree, failure? limit v x = some tree ∧ ⟨[.key key], "missing", x⟩ ∈ tree.leaves [] := by
  obtain ⟨looks, hl, hlook⟩ := look_of_lacks h
  have hany : ∀ members, v = .any members → failure? limit v x ≠ none := by
    rintro members rfl
    obtain ⟨hreq | ⟨_, _, hreq, _⟩, _⟩ := h <;> cases hreq
  obtain ⟨children, htree, hchild⟩ := failure_of_found hl hlook hany (List.mem_singleton.2 rfl)
  refine ⟨_, htree, ?_⟩
  rw [Diagnostic.leaves_node (List.ne_nil_of_mem hchild)]
  exact (Diagnostic.leaves_infix hchild _).subset List.mem_cons_self

/-! ## Validators that were built -/

/-- No failing check is left out of a diagnosis that mentions no frame limit. Whatever check it applies,
at the end of whatever path: if that one rejects what stands there, its leaves are in the diagnosis, in one
piece and in order, behind the path; and so is a leaf for each key that it asks for and that is missing. -/
theorem diagnosis_complete (hv : Built marks v) (h : Applies marks limit v x path u y) :
    ∃ d e t, (diagnoseWithin Body.open limit v x).run marks = (.ok d, marks) ∧
      (diagnoseWithin Body.open limit u y).run marks = (.ok e, marks) ∧
      (testWithin Body.open limit u y).run marks = (.ok t, marks) ∧
      ((∀ tree, d = some tree → ∀ n ∈ tree.nodes, n.operator ≠ "recursionLimit") →
        (t = false ∨ e ≠ none → ∃ tree part, d = some tree ∧ e = some part ∧
          (part.leaves []).map (·.behind path) <:+: tree.leaves []) ∧
        ∀ key, u.Lacks y key → ∃ tree, d = some tree ∧ ⟨path ++ [.key key], "missing", y⟩ ∈ tree.leaves []) := by
  have hu : u.Safe marks := h.safe hv.safe
  refine ⟨_, _, _, diagnoseWithin_run limit hv.safe x, diagnoseWithin_run limit hu y, testWithin_run limit hu y,
    fun hends => ?_⟩
  have hl : ∀ tree, failure? limit v x = some tree → ¬ tree.Limited := by
    rintro tree ht ⟨n, hn, ho⟩
    exact hends tree ht n hn ho
  refine ⟨fun hfails => ?_, fun key hlacks => ?_⟩
  · -- a test that says no leaves the diagnosis something to find
    have hsome : failure? limit u y ≠ none := by
      rcases hfails with ht | he
      · intro hn
        rw [(fits_within limit u y).1 hn] at ht
        cases ht
      · exact he
    obtain ⟨part, hpart⟩ := Option.ne_none_iff_exists'.1 hsome
    obtain ⟨tree, htree, hblock⟩ := h.reported hv.safe hl hpart
    exact ⟨tree, part, htree, hpart, hblock⟩
  · obtain ⟨part, hpart, hleaf⟩ := hlacks.reported limit
    obtain ⟨tree, htree, hblock⟩ := h.reported hv.safe hl hpart
    exact ⟨tree, htree, hblock.subset (List.mem_map.2 ⟨_, hleaf, rfl⟩)⟩

/-! ### The rest of a chain -/

/-- What a chain opens to. -/
def chainOpened : Validator :=
  .any [.guard .null, .all [.hasKey "value", .shape .full [("value", .guard .number)],
    .shape .present [("next", .reference chainScope "chain" chain)]]]

set_option maxRecDepth 2000 in
theorem open_chain : (Body.node chainScope chain).open.run [⟨0, "chain"⟩] = (.ok chainOpened, [⟨0, "chain"⟩]) := rfl

/-- Two numbers of which the second is a text. -/
def brokenRest : Value := .obj [("value", .str "2"), ("next", .null)]

def brokenChain : Value := .obj [("value", .int 1), ("next", brokenRest)]

set_option maxRecDepth 2000 in
theorem broken_failures : ∃ tree part,
    (diagnoseWithin Body.open 3 (.reference chainScope "chain" chain) brokenChain).run [⟨0, "chain"⟩] =
      (.ok (some tree), [⟨0, "chain"⟩]) ∧
    (diagnoseWithin Body.open 3 (.reference chainScope "chain" chain) brokenRest).run [⟨0, "chain"⟩] =
      (.ok (some part), [⟨0, "chain"⟩]) ∧
    tree.nodes.map (·.operator) =
      ["some", "null", "every", "partialShape", "some", "null", "every", "shape", "number"] ∧
    (part.leaves []).map (·.path) = [[], [.key "value"]] := ⟨_, _, rfl, rfl, rfl, rfl⟩

set_option maxRecDepth 2000 in
theorem rejects_broken : Rejects [⟨0, "chain"⟩] 3 chainOpened brokenChain := ⟨_, rfl⟩

/-- The check of a chain applies itself to the rest of the chain. -/
theorem applies_rest : Applies [⟨0, "chain"⟩] 3 (.reference chainScope "chain" chain) brokenChain [.key "next"]
    (.reference chainScope "chain" chain) brokenRest := by
  have hopen : Step [⟨0, "chain"⟩] 3 (.reference chainScope "chain" chain) brokenChain none chainOpened brokenChain :=
    .through rfl open_chain
  refine .step hopen (.step (.branch (.tail _ (.head _)) rejects_broken) ?_)
  exact .step (.conjunct (.tail _ (.tail _ (.head _)))) (.step (.field (.head _) rfl) (.self _ brokenRest))

theorem diagnosis_complete_rest : ∃ tree part,
    (diagnoseWithin Body.open 3 (.reference chainScope "chain" chain) brokenChain).run [⟨0, "chain"⟩] =
      (.ok (some tree), [⟨0, "chain"⟩]) ∧
    (diagnoseWithin Body.open 3 (.reference chainScope "chain" chain) brokenRest).run [⟨0, "chain"⟩] =
      (.ok (some part), [⟨0, "chain"⟩]) ∧
    (part.leaves []).map (·.path) = [[], [.key "value"]] ∧
    (part.leaves []).map (·.behind [.key "next"]) <:+: tree.leaves [] := by
  obtain ⟨tree, part, htree, hpart, hoperators, hpaths⟩ := broken_failures
  obtain ⟨d, e, t, hd, he, -, h⟩ := diagnosis_complete
    (.compiled (List.forall_mem_nil _) compile_chain (List.Subset.refl _)) applies_rest
  rw [htree] at hd
  cases hd
  rw [hpart] at he
  cases he
  have hends : ∀ tree', some tree = some tree' → ∀ n ∈ tree'.nodes, n.operator ≠ "recursionLimit" := by
    rintro _ ⟨⟩ n hn ho
    have hmem : n.operator ∈ tree.nodes.map (·.operator) := List.mem_map.2 ⟨n, hn, rfl⟩
    rw [hoperators, ho] at hmem
    exact absurd hmem (by decide)
  obtain ⟨_, _, ⟨⟩, ⟨⟩, hblock⟩ := (h hends).1 (.inr nofun)
  exact ⟨tree, part, htree, hpart, hpaths, hblock⟩

end Conformance.Validator
