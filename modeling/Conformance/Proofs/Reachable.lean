import Conformance.Proofs.Reading
import Conformance.Proofs.Simulation
import Mathlib.Logic.Basic
import Mathlib.Logic.Relation
/-!
# Reachable nodes

A node stands in another one as a branch, which judges the same value, or as a detail, which
judges a part of the value. The nodes that a document can make use of are those inside it, and
those inside the definitions that these refer to. The demands of the schema that is read off a
node are what the nodes inside the node ask for.
-/

namespace Conformance

open Meaning

/-! ## Nodes in nodes -/

/-- A node that judges the same value as the node it stands in: an item of a list, or one of the
nodes under a keyword that combines nodes. -/
inductive Branch : Value → Value → Prop
  | item {s : Sequence} {nodes : List Value} {node : Value} (h : node ∈ nodes) : Branch (.arr s nodes) node
  | keyword {entries : List (String × Value)} {key : String} {s : Sequence} {nodes : List Value} {node : Value}
    (hk : key ∈ ["anyOf", "oneOf", "allOf"]) (hl : entries.lookup key = some (.arr s nodes)) (h : node ∈ nodes) :
    Branch (.obj entries) node

/-- A node that judges a part of the value: a property, all items, or the item in one position. -/
inductive Detail : Value → Value → Prop
  | property {entries fields : List (String × Value)} {key : String} {node : Value}
    (hl : entries.lookup "properties" = some (.obj fields)) (h : (key, node) ∈ fields) : Detail (.obj entries) node
  | items {entries : List (String × Value)} {node : Value} (hl : entries.lookup "items" = some node)
    (h : ∀ s nodes, node ≠ .arr s nodes) : Detail (.obj entries) node
  | position {entries : List (String × Value)} {s : Sequence} {nodes : List Value} {node : Value}
    (hl : entries.lookup "items" = some (.arr s nodes)) (h : node ∈ nodes) : Detail (.obj entries) node

/-- A node that stands in another one; details count only if `deep`. -/
def Part (deep : Bool) (node part : Value) : Prop := Branch node part ∨ deep = true ∧ Detail node part

/-- What a node demands on its own, without the nodes in it. -/
inductive Asks : Value → Demand → Prop
  | reference {entries : List (String × Value)} {r : Value} (h : entries.lookup "$ref" = some r) :
    Asks (.obj entries) (.reference r)
  | type {entries : List (String × Value)} {spec : Value} (h : entries.lookup "type" = some spec) :
    Asks (.obj entries) (.type spec)

theorem Branch.sizeOf_lt {node part : Value} (h : Branch node part) : sizeOf part < sizeOf node := by
  cases h with
  | item h => exact sizeOf_item h
  | keyword _ hl h => exact Nat.lt_trans (sizeOf_item h) (sizeOf_entry (Entries.mem_of_lookup hl))

theorem Detail.sizeOf_lt {node part : Value} (h : Detail node part) : sizeOf part < sizeOf node := by
  cases h with
  | property hl h => exact Nat.lt_trans (sizeOf_entry h) (sizeOf_entry (Entries.mem_of_lookup hl))
  | items hl _ => exact sizeOf_entry (Entries.mem_of_lookup hl)
  | position hl h => exact Nat.lt_trans (sizeOf_item h) (sizeOf_entry (Entries.mem_of_lookup hl))

theorem Part.sizeOf_lt {deep : Bool} {node part : Value} (h : Part deep node part) : sizeOf part < sizeOf node := by
  rcases h with h | ⟨_, h⟩
  · exact h.sizeOf_lt
  · exact h.sizeOf_lt

/-! ## Demands of what is read -/

namespace Schema

variable {deep : Bool} {d : Demand}

theorem mem_demandsAll {ss : List Schema} : d ∈ demandsAll deep ss ↔ ∃ s ∈ ss, d ∈ s.demands deep := by
  induction ss with
  | nil => simp [demandsAll]
  | cons s ss ih => simp [demandsAll, ih]

theorem mem_demandsFields {fields : List (String × Schema)} :
    d ∈ demandsFields deep fields ↔ ∃ f ∈ fields, d ∈ f.2.demands deep := by
  induction fields with
  | nil => simp [demandsFields]
  | cons f fields ih => simp [demandsFields, ih]

theorem mem_demands_nodes {nodes : List Value} :
    d ∈ demandsAll deep (nodes.map ofValue) ↔ ∃ node ∈ nodes, d ∈ (ofValue node).demands deep := by
  simp only [mem_demandsAll, List.mem_map, exists_exists_and_eq_and]

theorem mem_demands_elim {α : Type} {o : Option α} {f : α → Schema} :
    d ∈ (o.elim anything f).demands deep ↔ ∃ a, o = some a ∧ d ∈ (f a).demands deep := by
  cases o <;> simp [demands]

section Keywords

variable {entries : List (String × Value)}

/-- A keyword whose value is a list of nodes. -/
theorem mem_demands_elements {key : String} {f : List Schema → Schema}
    (hf : ∀ ss, (f ss).demands deep = demandsAll deep ss) :
    d ∈ ((((readEntries entries).lookup key).bind (·.elements)).elim anything f).demands deep ↔
      ∃ s nodes, entries.lookup key = some (.arr s nodes) ∧ ∃ node ∈ nodes, d ∈ (ofValue node).demands deep := by
  rw [mem_demands_elim]
  constructor
  · rintro ⟨ss, hss, hd⟩
    obtain ⟨s, nodes, hl, rfl⟩ := lookup_elements.1 hss
    rw [hf] at hd
    exact ⟨s, nodes, hl, mem_demands_nodes.1 hd⟩
  · rintro ⟨s, nodes, hl, hd⟩
    refine ⟨_, lookup_elements.2 ⟨s, nodes, hl, rfl⟩, ?_⟩
    rw [hf]
    exact mem_demands_nodes.2 hd

/-- The nodes under `anyOf` and `oneOf`, and those under `allOf`, are the branches. -/
theorem mem_demands_branches : (d ∈ (part .anyOf entries (readEntries entries)).demands deep ∨
    d ∈ (part .allOf entries (readEntries entries)).demands deep) ↔
      ∃ node, Branch (.obj entries) node ∧ d ∈ (ofValue node).demands deep := by
  simp only [part, demands, demandsAll, List.append_nil, List.mem_append]
  rw [mem_demands_elements fun _ => rfl, mem_demands_elements fun _ => rfl, mem_demands_elements fun _ => rfl]
  constructor
  · rintro ((⟨s, nodes, hl, node, hn, hd⟩ | ⟨s, nodes, hl, node, hn, hd⟩) | ⟨s, nodes, hl, node, hn, hd⟩)
    · exact ⟨node, .keyword (by simp) hl hn, hd⟩
    · exact ⟨node, .keyword (by simp) hl hn, hd⟩
    · exact ⟨node, .keyword (by simp) hl hn, hd⟩
  · rintro ⟨node, hb, hd⟩
    cases hb with
    | @keyword _ key s nodes _ hk hl hn =>
      simp only [List.mem_cons, List.not_mem_nil, or_false] at hk
      rcases hk with rfl | rfl | rfl
      · exact .inl (.inl ⟨s, nodes, hl, node, hn, hd⟩)
      · exact .inl (.inr ⟨s, nodes, hl, node, hn, hd⟩)
      · exact .inr ⟨s, nodes, hl, node, hn, hd⟩

theorem mem_demands_properties : d ∈ (part .properties entries (readEntries entries)).demands deep ↔
    deep = true ∧ ∃ fields key node, entries.lookup "properties" = some (.obj fields) ∧ (key, node) ∈ fields ∧
      d ∈ (ofValue node).demands deep := by
  simp only [part, mem_demands_elim, lookup_fields]
  constructor
  · rintro ⟨_, ⟨fields, hl, rfl⟩, hd⟩
    cases deep with
    | false => cases hd
    | true =>
      obtain ⟨_, hmem, hd⟩ := mem_demandsFields.1 hd
      obtain ⟨⟨key, node⟩, hf, rfl⟩ := List.mem_map.1 hmem
      exact ⟨rfl, fields, key, node, hl, hf, hd⟩
  · rintro ⟨rfl, fields, key, node, hl, hf, hd⟩
    refine ⟨_, ⟨fields, hl, rfl⟩, mem_demandsFields.2 ⟨(key, ofValue node), ?_, hd⟩⟩
    exact List.mem_map.2 ⟨(key, node), hf, rfl⟩

theorem mem_demands_items : d ∈ (part .items entries (readEntries entries)).demands deep ↔
    deep = true ∧ ((∃ node, entries.lookup "items" = some node ∧ (∀ s nodes, node ≠ .arr s nodes) ∧
        d ∈ (ofValue node).demands deep) ∨
      ∃ s nodes node, entries.lookup "items" = some (.arr s nodes) ∧ node ∈ nodes ∧
        d ∈ (ofValue node).demands deep) := by
  simp only [part, lookup_readEntries]
  cases entries.lookup "items" with
  | none => simp [demands]
  | some value =>
    cases value with
    | arr s nodes =>
      cases deep with
      | false => simp [read_list, demands]
      | true =>
        simp only [Option.map_some, read_list, Option.elim_some, demands, if_true, mem_demands_nodes, true_and]
        constructor
        · rintro ⟨node, hn, hd⟩
          exact .inr ⟨s, nodes, node, rfl, hn, hd⟩
        · rintro (⟨_, hl, hne, _⟩ | ⟨_, _, node, hl, hn, hd⟩)
          · cases hl
            exact (hne s nodes rfl).elim
          · cases hl
            exact ⟨node, hn, hd⟩
    | _ => cases deep <;> simp [read, ofValue, demands]

/-- The nodes under `properties` and `items` are the details. -/
theorem mem_demands_details : (d ∈ (part .properties entries (readEntries entries)).demands deep ∨
    d ∈ (part .items entries (readEntries entries)).demands deep) ↔
      deep = true ∧ ∃ node, Detail (.obj entries) node ∧ d ∈ (ofValue node).demands deep := by
  rw [mem_demands_properties, mem_demands_items]
  constructor
  · rintro (⟨hdeep, fields, key, node, hl, hn, hd⟩ | ⟨hdeep, ⟨node, hl, hn, hd⟩ | ⟨s, nodes, node, hl, hn, hd⟩⟩)
    · exact ⟨hdeep, node, .property hl hn, hd⟩
    · exact ⟨hdeep, node, .items hl hn, hd⟩
    · exact ⟨hdeep, node, .position hl hn, hd⟩
  · rintro ⟨hdeep, node, hdetail, hd⟩
    cases hdetail with
    | property hl hn => exact .inl ⟨hdeep, _, _, node, hl, hn, hd⟩
    | items hl hn => exact .inr ⟨hdeep, .inl ⟨node, hl, hn, hd⟩⟩
    | position hl hn => exact .inr ⟨hdeep, .inr ⟨_, _, node, hl, hn, hd⟩⟩

/-- What a mapping asks for on its own stands under `$ref` and `type`. -/
theorem mem_demands_own : (d ∈ (part .ref entries (readEntries entries)).demands deep ∨
    d ∈ (part .type entries (readEntries entries)).demands deep) ↔ Asks (.obj entries) d := by
  simp only [part, mem_demands_elim, demands, List.mem_singleton]
  constructor
  · rintro (⟨r, hl, rfl⟩ | ⟨spec, hl, rfl⟩)
    · exact .reference hl
    · exact .type hl
  · rintro (h | h)
    · exact .inl ⟨_, h, rfl⟩
    · exact .inr ⟨_, h, rfl⟩

theorem not_mem_demands_required : d ∉ (part .required entries (readEntries entries)).demands deep := by
  simp [part, demands]

theorem not_mem_demands_enum : d ∉ (part .enum entries (readEntries entries)).demands deep := by
  simp only [part]
  split <;> simp [demands]

end Keywords

/-- The demands of a node are its own and those of the nodes that stand in it. -/
theorem mem_demands_ofValue {node : Value} : d ∈ (ofValue node).demands deep ↔
    Asks node d ∨ ∃ part, Part deep node part ∧ d ∈ (ofValue part).demands deep := by
  cases node with
  | arr s nodes =>
    rw [ofValue, read_list]
    constructor
    · intro hd
      obtain ⟨node, hn, hd⟩ := mem_demands_nodes.1 hd
      exact .inr ⟨node, .inl (.item hn), hd⟩
    · rintro (ha | ⟨node, hp | ⟨_, hp⟩, hd⟩)
      · cases ha
      · cases hp with
        | item hn => exact mem_demands_nodes.2 ⟨node, hn, hd⟩
      · cases hp
  | obj entries =>
    have hall : d ∈ (ofValue (.obj entries)).demands deep ↔
        ∃ k, d ∈ (part k entries (readEntries entries)).demands deep := by
      rw [ofValue, read_mapping]
      simp only [demands, mem_demandsAll, List.mem_map]
      constructor
      · rintro ⟨_, ⟨k, _, rfl⟩, hd⟩
        exact ⟨k, hd⟩
      · rintro ⟨k, hd⟩
        exact ⟨_, ⟨k, by cases k <;> decide, rfl⟩, hd⟩
    rw [hall]
    constructor
    · rintro ⟨k, hd⟩
      cases k with
      | ref => exact .inl (mem_demands_own.1 (.inl hd))
      | type => exact .inl (mem_demands_own.1 (.inr hd))
      | required => exact absurd hd not_mem_demands_required
      | enum => exact absurd hd not_mem_demands_enum
      | properties =>
        obtain ⟨hdeep, node, hn, hd⟩ := mem_demands_details.1 (.inl hd)
        exact .inr ⟨node, .inr ⟨hdeep, hn⟩, hd⟩
      | items =>
        obtain ⟨hdeep, node, hn, hd⟩ := mem_demands_details.1 (.inr hd)
        exact .inr ⟨node, .inr ⟨hdeep, hn⟩, hd⟩
      | anyOf =>
        obtain ⟨node, hn, hd⟩ := mem_demands_branches.1 (.inl hd)
        exact .inr ⟨node, .inl hn, hd⟩
      | allOf =>
        obtain ⟨node, hn, hd⟩ := mem_demands_branches.1 (.inr hd)
        exact .inr ⟨node, .inl hn, hd⟩
    · rintro (ha | ⟨node, hn | ⟨hdeep, hn⟩, hd⟩)
      · rcases mem_demands_own.2 ha with hd | hd
        · exact ⟨_, hd⟩
        · exact ⟨_, hd⟩
      · rcases mem_demands_branches.2 ⟨node, hn, hd⟩ with hd | hd
        · exact ⟨_, hd⟩
        · exact ⟨_, hd⟩
      · rcases mem_demands_details.2 ⟨hdeep, node, hn, hd⟩ with hd | hd
        · exact ⟨_, hd⟩
        · exact ⟨_, hd⟩
  | _ =>
    constructor
    · intro hd
      cases hd
    · rintro (ha | ⟨_, hp | ⟨_, hp⟩, _⟩)
      · cases ha
      · cases hp
      · cases hp

/-- The demands of a node are what the nodes inside it ask for. -/
theorem mem_demands_iff {node : Value} : d ∈ (ofValue node).demands deep ↔
    ∃ n, Relation.ReflTransGen (Part deep) node n ∧ Asks n d := by
  constructor
  · intro hd
    induction hn : sizeOf node using Nat.strongRecOn generalizing node with
    | ind n ih =>
      subst hn
      rcases mem_demands_ofValue.1 hd with ha | ⟨part, hp, hd⟩
      · exact ⟨node, .refl, ha⟩
      · obtain ⟨n, hn, ha⟩ := ih _ hp.sizeOf_lt hd rfl
        exact ⟨n, .head hp hn, ha⟩
  · rintro ⟨n, hn, ha⟩
    induction hn using Relation.ReflTransGen.head_induction_on with
    | refl => exact mem_demands_ofValue.2 (.inl ha)
    | head hp _ ih => exact mem_demands_ofValue.2 (.inr ⟨_, hp, ih⟩)

end Schema

/-! ## References -/

/-- The nodes that a document can make use of, where references are looked up in the table. -/
inductive Reachable (table : Option Definitions) (document : Value) : Value → Prop
  | root : Reachable table document document
  | branch {node part : Value} (h : Reachable table document node) (hp : Branch node part) :
    Reachable table document part
  | detail {node part : Value} (h : Reachable table document node) (hp : Detail node part) :
    Reachable table document part
  | definition {entries : List (String × Value)} {r target : Value} (h : Reachable table document (.obj entries))
    (hr : entries.lookup "$ref" = some r) (ht : Names table r target) : Reachable table document target

theorem Reachable.inside {table : Option Definitions} {document node n : Value} (h : Reachable table document node)
    (hn : Relation.ReflTransGen (Part true) node n) : Reachable table document n := by
  induction hn with
  | refl => exact h
  | tail _ hp ih =>
    rcases hp with hp | ⟨_, hp⟩
    · exact .branch ih hp
    · exact .detail ih hp

theorem Reachable.trans {table : Option Definitions} {document node n : Value} (h : Reachable table document node)
    (hn : Reachable table node n) : Reachable table document n := by
  induction hn with
  | root => exact h
  | branch _ hp ih => exact .branch ih hp
  | detail _ hp ih => exact .detail ih hp
  | definition _ hr ht ih => exact .definition ih hr ht

end Conformance
