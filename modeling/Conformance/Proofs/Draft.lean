import Conformance.Proofs.Guarded
import Conformance.Proofs.Subset
/-!
# Where tests and validity agree

References of the subset lead a value on only so often before a part of it is judged. So every node judges
every JSON value, and as what the document compiles to accepts it; and a test with frames enough gives this
judgement.
-/

namespace Conformance

open Meaning

namespace Validity

/-! ## Nodes that judge the same value -/

section Preserves

variable {table : Option Definitions}

/-- From the node a reference to the name is reached where the value stays the same. -/
def PassedOn (table : Option Definitions) (node : Value) (name : String) : Prop :=
  ∃ entries r, Relation.ReflTransGen (Preserves table) node (.obj entries) ∧ entries.lookup "$ref" = some r ∧
    r.RefersTo name

theorem PassedOn.head {node part : Value} {name : String} (hp : Preserves table node part)
    (h : PassedOn table part name) : PassedOn table node name := by
  obtain ⟨entries, r, hn, hl, hr⟩ := h
  exact ⟨entries, r, .head hp hn, hl, hr⟩

section Measure

open Classical

/-- How many definitions a value can be passed on to from the node. -/
noncomputable def heirs (table : Option Definitions) (node : Value) : Nat :=
  (table.getD []).countP fun e => decide (PassedOn table node e.1)

theorem heirs_le {node part : Value} (hp : Preserves table node part) : heirs table part ≤ heirs table node :=
  List.countP_mono_left fun _ _ he => decide_eq_true (.head hp (of_decide_eq_true he))

/-- A definition that the value is passed on to does not pass it on to itself. -/
theorem heirs_lt (hg : Guarded table) {entries : List (String × Value)} {r target : Value}
    (hr : entries.lookup "$ref" = some r) (ht : Names table r target) :
    heirs table target < heirs table (.obj entries) := by
  have hstep : Preserves table (.obj entries) target := .definition hr ht
  obtain ⟨ref, definitions, href, rfl, hl⟩ := ht
  refine Scope.countP_lt_countP (fun _ _ he => ?_) (Entries.mem_of_lookup hl) ?_ ?_
  · exact decide_eq_true (.head hstep (of_decide_eq_true he))
  · -- a value that came back would have gone in a cycle
    refine decide_eq_false fun hp => ?_
    obtain ⟨own, r', hn, hl', hr'⟩ := hp
    exact hg ref.name (.single ⟨definitions, target, own, r', rfl, hl, hn, hl', hr'⟩)
  · exact decide_eq_true ⟨entries, r, .refl, hr, Reference.refersTo_iff.2 ⟨ref, href, rfl⟩⟩

end Measure

/-- Where references are guarded, a value does not go on from node to node for ever. -/
theorem wellFounded_preserves (hg : Guarded table) : WellFounded fun part node => Preserves table node part := by
  refine Subrelation.wf (fun {part node} hp => ?_)
    (InvImage.wf (fun node => (heirs table node, sizeOf node)) (Prod.lex Nat.lt_wfRel Nat.lt_wfRel).wf)
  have hlex : heirs table part < heirs table node ∨
      heirs table part = heirs table node ∧ sizeOf part < sizeOf node := by
    cases hp with
    | branch hb =>
      rcases Nat.lt_or_eq_of_le (heirs_le (.branch hb)) with hlt | heq
      · exact .inl hlt
      · exact .inr ⟨heq, hb.sizeOf_lt⟩
    | definition hr ht => exact .inl (heirs_lt hg hr ht)
  exact Prod.lex_def.2 hlex

/-- References are guarded if no node of a definition refers to another one where the value stays the same. -/
theorem guarded_of_local (h : ∀ definitions name target entries, table = some definitions →
    definitions.lookup name = some target → Relation.ReflTransGen (Preserves table) target (.obj entries) →
    entries.lookup "$ref" = none) : Guarded table := by
  intro name hcycle
  obtain ⟨_, ⟨definitions, target, entries, r, ht, hl, hn, hr, _⟩, _⟩ := Relation.TransGen.head'_iff.1 hcycle
  rw [h definitions name target entries ht hl hn] at hr
  cases hr

end Preserves

/-! ## Judgements of the nodes -/

section Judgements

variable {document : Value} {entries : List (String × Value)} {node x y : Value}

/-- A node inside judges the same value, or a part that is a JSON value, too. -/
theorem Applies.narrows (h : Applies entries x node y) (hx : x.IsJson) :
    (y = x ∧ Branch (.obj entries) node) ∨ y.depth < x.depth ∧ y.IsJson ∧ Detail (.obj entries) node := by
  cases h with
  | branch hb => exact .inl ⟨rfl, hb⟩
  | property hl hn hy =>
    have hmem := Entries.mem_of_lookup hy
    cases hx with
    | obj _ hown => exact .inr ⟨Value.depth_entry hmem, hown _ hmem, .property hl hn⟩
  | items hl hn hy =>
    cases hx with
    | arr _ hitems => exact .inr ⟨Value.depth_item hy, hitems _ hy, .items hl hn⟩
  | position hl hn hy =>
    have hmem := List.mem_of_getElem? hy
    cases hx with
    | arr _ hitems => exact .inr ⟨Value.depth_item hmem, hitems _ hmem, .position hl (List.mem_of_getElem? hn)⟩

open Classical in
/-- A node of the subset judges a JSON value, and well if the document compiles to what accepts it. -/
theorem judges_of_subset (hs : Subset document) (hn : Named document)
    (hg : Guarded (effectiveDefinitions document .null)) (h : Reaches document node) (hx : x.IsJson) {b : Bool}
    (hb : b = true ↔ Accepts (effectiveDefinitions document .null) node x) : Judges document node x b := by
  -- parts of the value are less deep, and a value that stays the same is not passed on for ever
  induction hd : x.depth using Nat.strongRecOn generalizing node x b with
  | ind depth ihd =>
    induction node using (wellFounded_preserves hg).induction generalizing b with
    | _ node ihn =>
      obtain ⟨entries, rfl, hr⟩ := hs node h
      cases hl : entries.lookup "$ref" with
      | some r =>
        obtain ⟨_, target, _, hnames, hpoints⟩ := hs.refers hn h hl
        refine .reference hl hpoints (ihn target (.definition hl hnames) (h.reference hl hpoints) ?_)
        rw [hb, accepts_iff]
        refine (hr.obeys_reference hl).trans ⟨?_, fun ha => ⟨target, hnames, ha⟩⟩
        rintro ⟨target', hnames', ha⟩
        cases Names.unique hnames hnames'
        exact ha
      | none =>
        have inside : ∀ n y, Applies entries x n y →
            Judges document n y (decide (Accepts (effectiveDefinitions document .null) n y)) := by
          intro n y ha
          rcases ha.narrows hx with ⟨rfl, hbranch⟩ | ⟨hlt, hy, hdetail⟩
          · exact ihn n (.branch hbranch) (h.inside (.inl hbranch)) decide_eq_true_iff
          · exact ihd y.depth (hd ▸ hlt) (h.inside (.inr ⟨rfl, hdetail⟩)) hy decide_eq_true_iff rfl
        refine .keywords _ hl inside ?_
        simp only [decide_eq_true_eq]
        rw [hb, accepts_iff]
        refine hr.obeys_iff hl hx fun s nodes hone i j n m hi hj hin hjn => ?_
        -- branches that accept the value judge it well in the draft, too
        have hbranch : ∀ {n}, n ∈ nodes → Accepts (effectiveDefinitions document .null) n x →
            Judges document n x true := by
          intro n hmem ha
          have hj := inside n x (.branch (.keyword (by simp) hone hmem))
          rwa [decide_eq_true ha] at hj
        exact hr.exclusive s nodes hone i j n m hi hj x hx (hbranch (List.mem_of_getElem? hi) hin)
          (hbranch (List.mem_of_getElem? hj) hjn)

end Judgements

end Validity

/-! ## Agreement -/

namespace Validator

open Validity

/-- A document of the subset compiles, and judges every JSON value one way, as the draft says. The test of what
it compiles to gives this judgement if it has as many frames as there are definitions for each level of the
value. With fewer its yes is right. -/
theorem agrees_with_draft {id : Nat} {document : Value} {before : List Mark} (fresh : ∀ m ∈ before, m.scope ≠ id)
    (subset : Subset document) (named : Named document) (guarded : Guarded (effectiveDefinitions document .null)) :
    ∃ v after, (compileDocument id document .null).run before = (.ok v, after) ∧ ∀ x : Value, x.IsJson →
      ∃ t, (∀ b, Judges document document x b ↔ b = t) ∧
        (∀ limit, ∃ t', (testWithin Body.open limit v x).run after = (.ok t', after) ∧ (t' = true → t = true)) ∧
        ∀ limit, (x.depth + 1) * ((effectiveDefinitions document .null).getD []).length ≤ limit →
          (testWithin Body.open limit v x).run after = (.ok t, after) := by
  let scope : Scope := ⟨id, effectiveDefinitions document .null⟩
  have faultless : ∀ n, Reachable scope.definitions document n → ∀ code, ¬ Fault scope.definitions n code :=
    fun n h => subset.faultless named (subset.reaches named h)
  obtain ⟨v, hv⟩ := (@Scope.compiles_iff scope document before fresh).2 faultless
  rcases hrun : (scope.compile document).run before with ⟨r, after⟩
  rw [hrun] at hv
  cases hv
  obtain ⟨_, hc⟩ := Scope.compile_fresh fresh hrun
  have hsafe : v.Safe after := hc.safe (List.Subset.refl _)
  refine ⟨v, after, hrun, fun x hx => ?_⟩
  obtain ⟨t, ht⟩ := test_of_nests (nests_calls guarded hc.settled hc.linked x)
  have haccepts : t = true ↔ Accepts scope.definitions document x :=
    hc.accepts_of_test (ht _ (Nat.le_refl _))
  have hvalid : Judges document document x t := judges_of_subset subset named guarded .root hx haccepts
  refine ⟨t, fun b => ⟨fun hb => hb.unique hvalid, fun hb => hb ▸ hvalid⟩, fun limit => ?_, fun limit hl => ?_⟩
  · refine ⟨passes limit v x, testWithin_run limit hsafe x, fun hyes => ?_⟩
    exact haccepts.2 (accepts_of_passes hc.linked hyes)
  · rw [testWithin_run limit hsafe, passes_of_ends (ht limit hl)]

/-! ### Lists of lists, and nothing -/

def nothing : Value := .obj [("type", .str "null")]

def lists : Value := .obj [("type", .str "array"), ("items", .obj [("$ref", .str "#/definitions/tree")])]

def tree : Value := .obj [("oneOf", .list [nothing, lists])]

def treeDocument : Value :=
  .obj [("$ref", .str "#/definitions/tree"), ("definitions", .obj [("tree", tree)])]

def treeScope : Scope := ⟨0, some [("tree", tree)]⟩

def treeValue : Value := .list [.null, .list [.null]]

set_option maxRecDepth 2000 in
theorem compile_tree : (compileDocument 0 treeDocument .null).run [] =
    (.ok (.reference treeScope "tree" tree), [⟨0, "tree"⟩]) := rfl

theorem entry_tree : RefersToEntry treeDocument (.str "#/definitions/tree") "tree" tree :=
  ⟨"tree".toList, by decide, by decide, rfl, rfl, _, _, rfl, rfl, rfl⟩

theorem branch_tree {part : Value} (h : Branch tree part) : part = nothing ∨ part = lists := by
  cases h with
  | keyword hk hl hn =>
    simp only [List.mem_cons, List.not_mem_nil, or_false] at hk
    rcases hk with rfl | rfl | rfl <;> cases hl
    simpa using hn

theorem detail_lists {part : Value} (h : Detail lists part) : part = .obj [("$ref", .str "#/definitions/tree")] := by
  cases h with
  | property hl _ => cases hl
  | items hl _ =>
    cases hl
    rfl
  | position hl _ => cases hl

theorem reaches_tree {node : Value} (h : Reaches treeDocument node) :
    node = treeDocument ∨ node = tree ∨ node = nothing ∨ node = lists ∨
      node = .obj [("$ref", .str "#/definitions/tree")] := by
  induction h with
  | root => exact .inl rfl
  | inside _ hp ih =>
    rcases ih with rfl | rfl | rfl | rfl | rfl
    · exact absurd hp (not_part (by decide) (by decide))
    · rcases hp with hp | ⟨_, hp⟩
      · exact .inr (.inr ((branch_tree hp).imp_right .inl))
      · exact absurd hp (not_detail (by decide))
    · exact absurd hp (not_part (by decide) (by decide))
    · rcases hp with hp | ⟨_, hp⟩
      · exact absurd hp (not_branch (by decide))
      · exact .inr (.inr (.inr (.inr (detail_lists hp))))
    · exact absurd hp (not_part (by decide) (by decide))
  | reference _ hr ht ih =>
    have htree : ∀ {r target}, r = .str "#/definitions/tree" → PointsTo treeDocument r target → target = tree := by
      rintro _ target rfl ht
      exact ht.unique entry_tree.pointsTo
    rcases ih with he | he | he | he | he <;> cases he <;> cases hr
    · exact .inr (.inl (htree rfl ht))
    · exact .inr (.inl (htree rfl ht))

theorem restricted_lists : Restricted treeDocument
    [("type", .str "array"), ("items", .obj [("$ref", .str "#/definitions/tree")])] where
  keys := by decide
  type := by
    rintro _ ⟨⟩
    exact ⟨.array, rfl⟩
  required := by rintro _ ⟨⟩
  properties := by rintro _ ⟨⟩
  items := by
    rintro _ ⟨⟩
    rfl
  enum := by rintro _ ⟨⟩
  branches := branches_of_absent (by decide)
  exclusive := by rintro _ _ ⟨⟩
  alone := by rintro _ ⟨⟩

/-- No value is both nothing and a list. -/
theorem exclusive_tree {x : Value} (hn : Judges treeDocument nothing x true)
    (hl : Judges treeDocument lists x true) : False := by
  have hnull := judges_type hn rfl rfl
  have harray := judges_type hl rfl rfl
  cases x <;> simp [Value.IsOf] at hnull harray

theorem restricted_tree : Restricted treeDocument [("oneOf", .list [nothing, lists])] where
  keys := by decide
  type := by rintro _ ⟨⟩
  required := by rintro _ ⟨⟩
  properties := by rintro _ ⟨⟩
  items := by rintro _ ⟨⟩
  enum := by rintro _ ⟨⟩
  branches := by
    intro key hk v hl
    simp only [List.mem_cons, List.not_mem_nil, or_false] at hk
    rcases hk with rfl | rfl | rfl <;> cases hl
    exact ⟨_, _, rfl, by simp⟩
  exclusive := by
    rintro _ _ ⟨⟩ i j n m hi hj x _ hn hm
    have hpair : ∀ {k v}, [nothing, lists][k]? = some v → k = 0 ∧ v = nothing ∨ k = 1 ∧ v = lists := by
      intro k v hk
      rcases k with _ | _ | k <;> cases hk
      · exact .inl ⟨rfl, rfl⟩
      · exact .inr ⟨rfl, rfl⟩
    obtain ⟨rfl, rfl⟩ | ⟨rfl, rfl⟩ := hpair hi
    · obtain ⟨rfl, rfl⟩ | ⟨rfl, rfl⟩ := hpair hj
      · rfl
      · exact (exclusive_tree hn hm).elim
    · obtain ⟨rfl, rfl⟩ | ⟨rfl, rfl⟩ := hpair hj
      · exact (exclusive_tree hm hn).elim
      · rfl
  alone := by rintro _ ⟨⟩

theorem subset_tree : Subset treeDocument := by
  intro node h
  rcases reaches_tree h with rfl | rfl | rfl | rfl | rfl
  · exact ⟨_, rfl, restricted_reference (by decide) rfl entry_tree⟩
  · exact ⟨_, rfl, restricted_tree⟩
  · exact ⟨_, rfl, restricted_type _ .null⟩
  · exact ⟨_, rfl, restricted_lists⟩
  · exact ⟨_, rfl, restricted_reference (by decide) rfl entry_tree⟩

theorem guarded_tree : Guarded (effectiveDefinitions treeDocument .null) := by
  refine guarded_of_local fun definitions name target entries ht hl hn => ?_
  cases ht
  have htarget : target = tree := (Entries.lookup_single hl).2.symm
  have hnode : .obj entries = tree ∨ .obj entries = nothing ∨ .obj entries = lists := by
    generalize Value.obj entries = node at hn
    induction hn with
    | refl => exact .inl htarget
    | tail _ hp ih =>
      cases hp with
      | branch hb =>
        rcases ih with rfl | rfl | rfl
        · exact .inr (branch_tree hb)
        · exact absurd hb (not_branch (by decide))
        · exact absurd hb (not_branch (by decide))
      | definition hr _ => rcases ih with he | he | he <;> cases he <;> cases hr
  rcases hnode with he | he | he <;> cases he <;> rfl

theorem named_tree : Named treeDocument := by
  rintro _ _ _ _ _ ⟨_, _, _, _, _, _, _, he, hown, hl⟩
  cases he
  cases hown
  cases hl

theorem json_treeValue : treeValue.IsJson := by
  refine .arr _ (List.forall_mem_cons.2 ⟨.null, List.forall_mem_singleton.2 (.arr _ ?_)⟩)
  exact List.forall_mem_singleton.2 .null

set_option maxRecDepth 2000 in
theorem agrees_with_draft_tree : Judges treeDocument treeDocument treeValue true ∧
    Judges treeDocument treeDocument (.list [.str "x"]) false ∧
    ∀ limit, 3 ≤ limit → (testWithin Body.open limit (.reference treeScope "tree" tree) treeValue).run [⟨0, "tree"⟩] =
      (.ok true, [⟨0, "tree"⟩]) := by
  obtain ⟨v, after, hrun, hx⟩ := @agrees_with_draft 0 treeDocument [] (List.forall_mem_nil _) subset_tree named_tree
    guarded_tree
  rw [compile_tree] at hrun
  cases hrun
  have hyes : (testWithin Body.open 3 (.reference treeScope "tree" tree) treeValue).run [⟨0, "tree"⟩] =
      (.ok true, [⟨0, "tree"⟩]) := rfl
  have hno : (testWithin Body.open 3 (.reference treeScope "tree" tree) (.list [.str "x"])).run [⟨0, "tree"⟩] =
      (.ok false, [⟨0, "tree"⟩]) := rfl
  obtain ⟨t, ht, _, hlimit⟩ := hx treeValue json_treeValue
  obtain ⟨t', ht', _, hlimit'⟩ := hx (.list [.str "x"]) (.arr _ (List.forall_mem_singleton.2 (.str "x")))
  have htrue := hlimit 3 (Nat.le_refl 3)
  rw [hyes] at htrue
  cases htrue
  have hfalse := hlimit' 3 (Nat.le_succ 2)
  rw [hno] at hfalse
  cases hfalse
  exact ⟨(ht true).2 rfl, (ht' false).2 rfl, hlimit⟩

/-! ### An entry without a name, and a test without frames -/

def unnamedDocument : Value :=
  .obj [("$ref", .str "#/definitions/"), ("definitions", .obj [("", .obj [("type", .str "string")])])]

theorem entry_unnamed : RefersToEntry unnamedDocument (.str "#/definitions/") "" (.obj [("type", .str "string")]) :=
  ⟨[], by decide, by decide, rfl, rfl, _, _, rfl, rfl, rfl⟩

theorem subset_unnamed : Subset unnamedDocument := by
  have hnodes : ∀ node, Reaches unnamedDocument node →
      node = unnamedDocument ∨ node = .obj [("type", .str "string")] := by
    intro node h
    induction h with
    | root => exact .inl rfl
    | inside _ hp ih =>
      rcases ih with rfl | rfl
      · exact absurd hp (not_part (by decide) (by decide))
      · exact absurd hp (not_part (by decide) (by decide))
    | reference _ hr ht ih =>
      rcases ih with he | he <;> cases he <;> cases hr
      exact .inr (ht.unique entry_unnamed.pointsTo)
  intro node h
  rcases hnodes node h with rfl | rfl
  · exact ⟨_, rfl, restricted_reference (by decide) rfl entry_unnamed⟩
  · exact ⟨_, rfl, restricted_type _ .string⟩

theorem guarded_unnamed : Guarded (effectiveDefinitions unnamedDocument .null) := by
  refine guarded_of_local fun definitions name target entries ht hl hn => ?_
  cases ht
  obtain rfl : target = .obj [("type", .str "string")] := (Entries.lookup_single hl).2.symm
  rcases hn.cases_head with he | ⟨node, hp, _⟩
  · cases he
    rfl
  · cases hp with
    | branch hb => exact absurd hb (not_branch (by decide))
    | definition hr _ => cases hr

theorem judges_unnamed : Judges unnamedDocument unnamedDocument (.str "x") true := by
  refine .reference rfl entry_unnamed.pointsTo (.keywords (fun _ _ => true) rfl (fun n y h => ?_) ?_)
  · cases h with
    | branch hb => exact absurd hb (not_branch (by decide))
  · refine iff_of_true rfl ⟨?_, ?_, ?_, ?_, ?_, ?_, ?_, ?_⟩
    · rintro _ ⟨⟩
      exact ⟨"string", rfl, rfl⟩
    -- there are no other keywords
    all_goals
      intros
      contradiction

theorem judges_tree : Judges treeDocument treeDocument treeValue true := by
  obtain ⟨_, hc⟩ := Scope.compile_fresh (List.forall_mem_nil _) compile_tree
  refine judges_of_subset subset_tree named_tree guarded_tree .root json_treeValue (iff_of_true rfl ?_)
  have hpasses : Validator.passes 3 (.reference treeScope "tree" tree) treeValue = true := rfl
  exact accepts_of_passes hc.linked hpasses

set_option maxRecDepth 2000 in
theorem draft_not_followed : (Subset unnamedDocument ∧ Guarded (effectiveDefinitions unnamedDocument .null) ∧
      Judges unnamedDocument unnamedDocument (.str "x") true ∧
      (compileDocument 0 unnamedDocument .null).run [] = (.error (.refMalformed "#/definitions/"), [])) ∧
    (Subset treeDocument ∧ Guarded (effectiveDefinitions treeDocument .null) ∧ treeValue.IsJson ∧
      Judges treeDocument treeDocument treeValue true ∧
      (testWithin Body.open 1 (.reference treeScope "tree" tree) treeValue).run [⟨0, "tree"⟩] =
        (.ok false, [⟨0, "tree"⟩])) :=
  ⟨⟨subset_unnamed, guarded_unnamed, judges_unnamed, rfl⟩,
    subset_tree, guarded_tree, json_treeValue, judges_tree, rfl⟩

end Validator

end Conformance
