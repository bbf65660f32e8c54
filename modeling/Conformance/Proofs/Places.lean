import Conformance.Diagnostic
/-!
# Places

A path leads from a value to a part of it, one key or position after the other. In a failure each
node stands at the end of the labels on the way down to it. The leaves are the nodes without
children, with those labels as their paths.
-/

namespace Conformance

/-! ## Paths into a value -/

namespace Value

/-- The part of a value that is one step away. -/
def child? : Value → Label → Option Value
  | .obj entries, .key name => entries.lookup name
  | .arr _ items, .index position => if position < 0 then none else items[position.toNat]?
  | _, _ => none

/-- The part of a value at the end of a path. -/
def follow (x : Value) (path : List Label) : Option Value := path.foldlM child? x

theorem follow_append (x : Value) (p q : List Label) : x.follow (p ++ q) = (x.follow p).bind (·.follow q) :=
  List.foldlM_append

theorem follow_key {entries : List (String × Value)} {name : String} {y : Value} (h : entries.lookup name = some y) :
    (Value.obj entries).follow [.key name] = some y := by
  simp [follow, child?, h]

theorem follow_index {s : Sequence} {items : List Value} {i : Nat} {y : Value} (h : items[i]? = some y) :
    (Value.arr s items).follow [.index i] = some y := by
  simp [follow, child?, h]

end Value

namespace Diagnostic

/-! ## Nodes of a failure -/

/-- The node stands in the failure, at the end of the labels on the way from the root down to it. -/
inductive At : Diagnostic → List Label → Diagnostic → Prop
  | root (d : Diagnostic) : At d d.label.toList d
  | child {d c n : Diagnostic} {path : List Label} (hc : c ∈ d.children) (h : At c path n) :
    At d (d.label.toList ++ path) n

/-- The failure under a label, or as it is. -/
def placed (d : Diagnostic) : Option Label → Diagnostic
  | none => d
  | some label => d.under label

theorem placed_eq {d : Diagnostic} (hd : d.label = none) (label : Option Label) :
    d.placed label = d.labelled label := by
  obtain ⟨operator, x, children, _⟩ := d
  cases hd
  cases label <;> rfl

/-- What stands in a failure that has been put under a label is the failure itself, or stands in it. -/
theorem At.of_placed {d n : Diagnostic} {label : Option Label} {path : List Label} (hd : d.label = none)
    (h : (d.placed label).At path n) :
    n = d.labelled label ∧ path = label.toList ∨ ∃ q, path = label.toList ++ q ∧ d.At q n := by
  rw [placed_eq hd] at h
  obtain ⟨operator, x, children, _⟩ := d
  cases hd
  cases h with
  | root => exact .inl ⟨rfl, rfl⟩
  | child hc h => exact .inr ⟨_, rfl, .child hc h⟩

/-! ## Leaves -/

/-- The leaf with a path in front of its own. -/
def Leaf.behind (p : List Label) (leaf : Leaf) : Leaf := { leaf with path := p ++ leaf.path }

@[simp]
theorem Leaf.behind_nil (leaf : Leaf) : leaf.behind [] = leaf := rfl

theorem Leaf.behind_append (p q : List Label) (leaf : Leaf) : leaf.behind (p ++ q) = (leaf.behind q).behind p := by
  simp [Leaf.behind]

theorem leavesAll_append (base : List Label) (ds es : List Diagnostic) :
    leavesAll base (ds ++ es) = leavesAll base ds ++ leavesAll base es := by
  induction ds with
  | nil => rfl
  | cons d ds ih => rw [List.cons_append, leavesAll, leavesAll, ih, List.append_assoc]

/-- The leaves of one failure stand together among those of all. -/
theorem leaves_infix {d : Diagnostic} {ds : List Diagnostic} (hd : d ∈ ds) (base : List Label) :
    d.leaves base <:+: leavesAll base ds := by
  obtain ⟨front, back, rfl⟩ := List.append_of_mem hd
  exact ⟨leavesAll base front, leavesAll base back, by rw [leavesAll_append, leavesAll, List.append_assoc]⟩

theorem leaves_ne_nil : ∀ (d : Diagnostic) (base : List Label), d.leaves base ≠ []
  | node _ _ [] _, _ => List.cons_ne_nil _ _
  | node _ _ (d :: _) _, _ => List.append_ne_nil_of_left_ne_nil (leaves_ne_nil d _) _

/-- A node that has children has their leaves. -/
theorem leaves_node {children : List Diagnostic} (h : children ≠ []) (operator : String) (x : Value)
    (label : Option Label) (base : List Label) :
    (node operator x children label).leaves base = leavesAll (base ++ label.toList) children := by
  cases children with
  | nil => exact absurd rfl h
  | cons d rest => rfl

mutual

/-- Leaves below a path are the leaves with the path in front. -/
theorem leaves_below (p q : List Label) : ∀ d : Diagnostic, d.leaves (p ++ q) = (d.leaves q).map (·.behind p)
  | node operator x [] label => by simp [leaves, Leaf.behind]
  | node operator x (d :: rest) label => by
    rw [leaves, leaves, List.append_assoc, leaves_below p _ d, leavesAll_below p _ rest, List.map_append]

theorem leavesAll_below (p q : List Label) :
    ∀ ds : List Diagnostic, leavesAll (p ++ q) ds = (leavesAll q ds).map (·.behind p)
  | [] => rfl
  | d :: rest => by
    rw [leavesAll, leavesAll, leaves_below p q d, leavesAll_below p q rest, List.map_append]

end

/-- The label of a failure that had none stands in front of all paths. -/
theorem leaves_placed {d : Diagnostic} (hd : d.label = none) (label : Option Label) (base : List Label) :
    (d.placed label).leaves base = d.leaves (base ++ label.toList) := by
  rw [placed_eq hd]
  obtain ⟨operator, x, children, _⟩ := d
  cases hd
  cases children <;> simp [labelled, leaves]

mutual

/-- A leaf is a node without children, and its path is the way to the node. -/
theorem at_of_mem_leaves {leaf : Leaf} : ∀ (d : Diagnostic) (base : List Label), leaf ∈ d.leaves base →
    ∃ path n, d.At path n ∧ n.children = [] ∧ leaf = ⟨base ++ path, n.operator, n.value⟩
  | node operator x [] label, base, h => by
    cases List.mem_singleton.1 h
    exact ⟨_, _, .root _, rfl, rfl⟩
  | node operator x (d :: rest) label, base, h => by
    obtain ⟨c, hc, path, n, hn, hchildren, rfl⟩ : ∃ c ∈ d :: rest, ∃ path n, c.At path n ∧ n.children = [] ∧
        leaf = ⟨base ++ label.toList ++ path, n.operator, n.value⟩ := by
      rcases List.mem_append.1 h with h | h
      · exact ⟨d, List.mem_cons_self, at_of_mem_leaves d _ h⟩
      · obtain ⟨c, hc, h⟩ := at_of_mem_leavesAll rest _ h
        exact ⟨c, List.mem_cons_of_mem _ hc, h⟩
    exact ⟨label.toList ++ path, n, .child hc hn, hchildren, by rw [List.append_assoc]⟩

theorem at_of_mem_leavesAll {leaf : Leaf} : ∀ (ds : List Diagnostic) (base : List Label), leaf ∈ leavesAll base ds →
    ∃ d ∈ ds, ∃ path n, d.At path n ∧ n.children = [] ∧ leaf = ⟨base ++ path, n.operator, n.value⟩
  | d :: rest, base, h => by
    rcases List.mem_append.1 h with h | h
    · exact ⟨d, List.mem_cons_self, at_of_mem_leaves d base h⟩
    · obtain ⟨c, hc, h⟩ := at_of_mem_leavesAll rest base h
      exact ⟨c, List.mem_cons_of_mem _ hc, h⟩

end

end Diagnostic

end Conformance
