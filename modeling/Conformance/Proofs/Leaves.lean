import Conformance.Proofs.Places
/-!
# The leaves of a failure

A way into a failure goes from the root to one of its children, from there to one of that node's children, and so on.
The leaves are the nodes without children, in the order of the ways that lead to them, and the path of each is made
of the labels that are met on the way. So a path in front of all leaves, or a label on the root, is met first by each.
-/

namespace Conformance.Diagnostic

/-! ## Ways -/

/-- The way, which has the position of each child to go to among its siblings, leads to the node past these labels. -/
inductive Down : Diagnostic → List Nat → List Label → Diagnostic → Prop
  | root (d : Diagnostic) : Down d [] d.label.toList d
  | child {d c n : Diagnostic} {i : Nat} {way : List Nat} {path : List Label} (hc : d.children[i]? = some c)
    (h : Down c way path n) : Down d (i :: way) (d.label.toList ++ path) n

/-- A node, the way to it and the labels on the way. -/
structure Tip where
  way : List Nat
  path : List Label
  node : Diagnostic

/-- As it is seen from the parent, where the child has this position. -/
def Tip.above (label : Option Label) (i : Nat) (t : Tip) : Tip := ⟨i :: t.way, label.toList ++ t.path, t.node⟩

def Tip.leaf (base : List Label) (t : Tip) : Leaf := ⟨base ++ t.path, t.node.operator, t.node.value⟩

theorem Tip.leaf_above (base : List Label) (label : Option Label) (i : Nat) (t : Tip) :
    (t.above label i).leaf base = t.leaf (base ++ label.toList) := by
  simp [leaf, above]

mutual

/-- The nodes without children from left to right. -/
def tips : Diagnostic → List Tip
  | node operator x [] label => [⟨[], label.toList, node operator x [] label⟩]
  | node _ _ (d :: rest) label => (tips d).map (·.above label 0) ++ tipsFrom label 1 rest

def tipsFrom (label : Option Label) : Nat → List Diagnostic → List Tip
  | _, [] => []
  | i, d :: rest => (tips d).map (·.above label i) ++ tipsFrom label (i + 1) rest

end

theorem tipsFrom_eq (label : Option Label) (i : Nat) (ds : List Diagnostic) :
    tipsFrom label i ds = (ds.zipIdx i).flatMap fun (d, j) => d.tips.map (·.above label j) := by
  induction ds generalizing i with
  | nil => rfl
  | cons d ds ih => rw [tipsFrom, ih, List.zipIdx_cons, List.flatMap_cons]

theorem tips_of_no_children {d : Diagnostic} (h : d.children = []) : d.tips = [⟨[], d.label.toList, d⟩] := by
  obtain ⟨operator, x, children, label⟩ := d
  cases h
  rfl

theorem tips_of_children {d : Diagnostic} (h : d.children ≠ []) :
    d.tips = d.children.zipIdx.flatMap fun (c, i) => c.tips.map (·.above d.label i) := by
  obtain ⟨operator, x, children, label⟩ := d
  cases children with
  | nil => exact absurd rfl h
  | cons c rest => exact tipsFrom_eq label 0 (c :: rest)

/-- What holds of a failure if it holds of its children holds of every failure. -/
@[elab_as_elim]
theorem children_induction {P : Diagnostic → Prop} (step : ∀ d : Diagnostic, (∀ c ∈ d.children, P c) → P d) :
    ∀ d, P d
  | node operator x children label => step _ fun c (hc : c ∈ children) =>
    have hlt : sizeOf c < sizeOf (node operator x children label) := by
      have hsize := List.sizeOf_lt_of_mem hc
      rw [node.sizeOf_spec]
      omega
    children_induction step c
termination_by d => sizeOf d

/-- They are the nodes without children, past the labels that are met on the way. -/
theorem mem_tips {d n : Diagnostic} {way : List Nat} {path : List Label} :
    ⟨way, path, n⟩ ∈ d.tips ↔ d.Down way path n ∧ n.children = [] := by
  induction d using children_induction generalizing way path with
  | step d ih =>
    by_cases hd : d.children = []
    · rw [tips_of_no_children hd, List.mem_singleton]
      constructor
      · intro h
        obtain ⟨rfl, rfl, rfl⟩ := Tip.mk.inj h
        exact ⟨.root _, hd⟩
      · rintro ⟨hdown, -⟩
        cases hdown with
        | root => rfl
        | child hc _ =>
          rw [hd] at hc
          cases hc
    · rw [tips_of_children hd, List.mem_flatMap]
      constructor
      · rintro ⟨⟨c, i⟩, hc, h⟩
        obtain ⟨t, ht, h⟩ := List.mem_map.1 h
        cases h
        obtain ⟨hdown, hn⟩ := (ih c (List.fst_mem_of_mem_zipIdx hc)).1 ht
        exact ⟨.child (List.mem_zipIdx_iff_getElem?.1 hc) hdown, hn⟩
      · rintro ⟨hdown, hn⟩
        cases hdown with
        | root => exact absurd hn hd
        | @child _ c _ i way path hc hdown =>
          have hmem : ⟨way, path, n⟩ ∈ c.tips := (ih c (List.mem_of_getElem? hc)).2 ⟨hdown, hn⟩
          exact ⟨(c, i), List.mem_zipIdx_iff_getElem?.2 hc, List.mem_map_of_mem hmem⟩

/-- They come from left to right. -/
theorem pairwise_tips (d : Diagnostic) : d.tips.Pairwise fun s t => s.way < t.way := by
  induction d using children_induction with
  | step d ih =>
    by_cases hd : d.children = []
    · rw [tips_of_no_children hd]
      exact List.pairwise_singleton _ _
    · have hpositions : d.children.zipIdx.Pairwise fun e f => e.2 < f.2 := by
        rw [← List.pairwise_map (f := Prod.snd) (R := (· < ·)), List.zipIdx_map_snd]
        exact List.pairwise_lt_range'
      rw [tips_of_children hd, List.pairwise_flatMap]
      refine ⟨fun e he => ?_, hpositions.imp fun hlt s hs t ht => ?_⟩
      · -- in one child the ways begin alike
        rw [List.pairwise_map]
        exact (ih e.1 (List.fst_mem_of_mem_zipIdx he)).imp fun hlt => List.cons_lt_cons_iff.2 (.inr ⟨rfl, hlt⟩)
      · obtain ⟨s, -, rfl⟩ := List.mem_map.1 hs
        obtain ⟨t, -, rfl⟩ := List.mem_map.1 ht
        exact List.cons_lt_cons_iff.2 (.inl hlt)

/-! ## Leaves -/

mutual

theorem leaves_eq_tips (base : List Label) : ∀ d : Diagnostic, d.leaves base = d.tips.map (·.leaf base)
  | node _ _ [] _ => rfl
  | node _ _ (d :: rest) label => leavesAll_eq_tips base label 0 (d :: rest)

theorem leavesAll_eq_tips (base : List Label) (label : Option Label) (i : Nat) : ∀ ds : List Diagnostic,
    leavesAll (base ++ label.toList) ds = (tipsFrom label i ds).map (·.leaf base)
  | [] => rfl
  | d :: rest => by
    rw [leavesAll, tipsFrom, List.map_append, List.map_map, leaves_eq_tips _ d, leavesAll_eq_tips base label _ rest]
    congr 1
    exact List.map_congr_left fun t _ => (t.leaf_above base label i).symm

end

theorem leaves_under (d : Diagnostic) (label : Label) (base : List Label) :
    (d.under label).leaves base = (d.labelled none).leaves (base ++ [label]) := by
  obtain ⟨operator, x, children, _⟩ := d
  exact leaves_placed (rfl : (node operator x children none).label = none) (some label) base

/-- A path in front of all leaves stands in front of their own paths, and a label at the root continues it. There is
always a leaf, and the leaves are the nodes without children, from left to right, each with the labels on the way from
the root as its path. -/
theorem leaves_compose (d : Diagnostic) (label : Label) (p q : List Label) :
    d.leaves (p ++ q) = (d.leaves q).map (·.behind p) ∧
    (d.under label).leaves p = (d.labelled none).leaves (p ++ [label]) ∧
    d.leaves p ≠ [] ∧
    d.leaves p = d.tips.map (·.leaf p) ∧
    d.tips.Pairwise (fun s t => s.way < t.way) ∧
    ∀ way path n, ⟨way, path, n⟩ ∈ d.tips ↔ d.Down way path n ∧ n.children = [] :=
  ⟨leaves_below p q d, leaves_under d label p, leaves_ne_nil d p, leaves_eq_tips p d, pairwise_tips d,
    fun _ _ _ => mem_tips⟩

/-- The empty key and the first position are labels too. -/
example : (node "every" .null [node "shape" .null [leaf "string" .null] (some (.key "")), leaf "number" .null]
    (some (.index 0))).leaves [.key "a"] =
      [⟨[.key "a", .index 0, .key ""], "string", .null⟩, ⟨[.key "a", .index 0], "number", .null⟩] := rfl

end Conformance.Diagnostic
