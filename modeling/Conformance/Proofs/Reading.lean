import Conformance.Proofs.Meaning
import Conformance.Schema.Basic
/-!
# Schemas that are read off documents

A schema has a meaning of its own once its references have one. A document and the schema that
is read off it mean the same.
-/

namespace Conformance

/-! ## The meaning of a schema -/

namespace Schema

variable (Ref : Value → Value → Prop)

mutual

/-- Whether a schema allows a value, where `Ref` judges by a reference. -/
def Allows : Schema → Value → Prop
  | .anything, _ => True
  | .all parts, x => AllowsAll parts x
  | .choice branches, x => AllowsAny branches x
  | .reference ref, x => Ref ref x
  | .type spec, x => x.HasType spec
  | .required keys, x => ∀ key ∈ keys, x.HasKey key
  | .properties needed fields, x => fields = [] ∨ ∃ own, x = .obj own ∧ AllowsFields needed fields own
  | .items element, x => ∃ s ys, x = .arr s ys ∧ ∀ y ∈ ys, Allows element y
  | .positions elements, x => ∃ s ys, x = .arr s ys ∧ AllowsPositions elements ys
  | .enum values, x => ∃ v ∈ values, x.same v = true

def AllowsAll : List Schema → Value → Prop
  | [], _ => True
  | s :: ss, x => Allows s x ∧ AllowsAll ss x

def AllowsAny : List Schema → Value → Prop
  | [], _ => False
  | s :: ss, x => Allows s x ∨ AllowsAny ss x

def AllowsFields (needed : List String) : List (String × Schema) → List (String × Value) → Prop
  | [], _ => True
  | (key, s) :: fields, own =>
    (match own.lookup key with
      | none => key ∉ needed
      | some y => Allows s y) ∧ AllowsFields needed fields own

def AllowsPositions : List Schema → List Value → Prop
  | s :: ss, y :: ys => Allows s y ∧ AllowsPositions ss ys
  | _, _ => True

end

/-! ## Lists of schemas -/

variable {Ref}

theorem allowsAll_iff {ss : List Schema} {x : Value} : AllowsAll Ref ss x ↔ ∀ s ∈ ss, s.Allows Ref x := by
  induction ss with
  | nil => simp [AllowsAll]
  | cons s ss ih => simp [AllowsAll, ih]

theorem allowsAny_iff {ss : List Schema} {x : Value} : AllowsAny Ref ss x ↔ ∃ s ∈ ss, s.Allows Ref x := by
  induction ss with
  | nil => simp [AllowsAny]
  | cons s ss ih => simp [AllowsAny, ih]

theorem allowsFields_iff {needed : List String} {fields : List (String × Schema)} {own : List (String × Value)} :
    AllowsFields Ref needed fields own ↔ ∀ f ∈ fields,
      (f.1 ∈ needed → (own.lookup f.1).isSome) ∧ ∀ y, own.lookup f.1 = some y → f.2.Allows Ref y := by
  induction fields with
  | nil => simp [AllowsFields]
  | cons f fields ih =>
    obtain ⟨key, s⟩ := f
    simp only [AllowsFields, ih, List.forall_mem_cons]
    cases own.lookup key <;> simp

theorem allowsPositions_iff {ss : List Schema} {ys : List Value} : AllowsPositions Ref ss ys ↔
    ∀ (i : Nat) s y, ss[i]? = some s → ys[i]? = some y → s.Allows Ref y := by
  induction ss generalizing ys with
  | nil => simp [AllowsPositions]
  | cons s ss ih =>
    cases ys with
    | nil => simp [AllowsPositions]
    | cons y ys => rw [AllowsPositions, ih, Meaning.positions_cons]

/-! ## Reading -/

theorem readItems_eq (vs : List Value) : readItems vs = vs.map read := by
  induction vs with
  | nil => rfl
  | cons v vs ih => rw [readItems, ih, List.map_cons]

theorem readEntries_eq (entries : List (String × Value)) :
    readEntries entries = entries.map fun (key, v) => (key, read v) := by
  induction entries with
  | nil => rfl
  | cons e entries ih => rw [readEntries, ih, List.map_cons]

theorem read_list (s : Sequence) (vs : List Value) :
    read (.arr s vs) = ⟨all (vs.map ofValue), some (vs.map ofValue), none⟩ := by
  have h : (readItems vs).map (·.node) = vs.map ofValue := by
    rw [readItems_eq, List.map_map]
    rfl
  rw [read, h]

theorem nodes_readEntries (entries : List (String × Value)) :
    ((readEntries entries).map fun (k, r) => (k, r.node)) = entries.map fun (key, v) => (key, ofValue v) := by
  rw [readEntries_eq, List.map_map]
  rfl

theorem read_mapping (entries : List (String × Value)) : read (.obj entries) =
    ⟨all (Keyword.all.map fun k => part k entries (readEntries entries)), none,
      some (entries.map fun (key, v) => (key, ofValue v))⟩ := by
  rw [read, nodes_readEntries]

/-- Only a list is read as elements. -/
theorem read_elements {v : Value} {ss : List Schema} : (read v).elements = some ss ↔
    ∃ s vs, v = .arr s vs ∧ ss = vs.map ofValue := by
  cases v with
  | arr s vs =>
    rw [read_list]
    constructor
    · intro h
      cases h
      exact ⟨s, vs, rfl, rfl⟩
    · rintro ⟨_, _, h, rfl⟩
      cases h
      rfl
  | _ => simp [read]

/-- Only a mapping is read as fields. -/
theorem read_fields {v : Value} {fields : List (String × Schema)} : (read v).fields = some fields ↔
    ∃ entries, v = .obj entries ∧ fields = entries.map fun (key, v) => (key, ofValue v) := by
  cases v with
  | obj entries => simp [read_mapping, eq_comm]
  | arr s vs => simp [read_list]
  | _ => simp [read]

/-! ## Keywords -/

section Keywords

variable {entries : List (String × Value)} {x : Value}

theorem allows_elim {α : Type} {o : Option α} {f : α → Schema} :
    (o.elim anything f).Allows Ref x ↔ ∀ a, o = some a → (f a).Allows Ref x := by
  cases o <;> simp [Allows]

theorem mem_keyNames {o : Option Value} {key : String} :
    key ∈ keyNames o ↔ ∃ s names, o = some (.arr s names) ∧ .str key ∈ names := by
  unfold keyNames
  split
  · next s names =>
    simp only [List.mem_filterMap]
    constructor
    · rintro ⟨v, hv, hk⟩
      split at hk <;> cases hk
      exact ⟨s, names, rfl, hv⟩
    · rintro ⟨_, _, h, hk⟩
      cases h
      exact ⟨_, hk, rfl⟩
  · next h =>
    constructor
    · intro hk
      cases hk
    · rintro ⟨s, names, ho, _⟩
      exact (h s names ho).elim

theorem lookup_elements {key : String} {ss : List Schema} :
    ((readEntries entries).lookup key).bind (·.elements) = some ss ↔
      ∃ s vs, entries.lookup key = some (.arr s vs) ∧ ss = vs.map ofValue := by
  rw [lookup_readEntries]
  cases entries.lookup key <;> simp [read_elements]

theorem lookup_fields {key : String} {fields : List (String × Schema)} :
    ((readEntries entries).lookup key).bind (·.fields) = some fields ↔
      ∃ own, entries.lookup key = some (.obj own) ∧ fields = own.map fun (key, v) => (key, ofValue v) := by
  rw [lookup_readEntries]
  cases entries.lookup key <;> simp [read_fields]

/-- A keyword whose value is a list of nodes. -/
theorem allows_elements {key : String} {f : List Schema → Schema} :
    ((((readEntries entries).lookup key).bind (·.elements)).elim anything f).Allows Ref x ↔
      ∀ s nodes, entries.lookup key = some (.arr s nodes) → (f (nodes.map ofValue)).Allows Ref x := by
  rw [allows_elim]
  constructor
  · intro h s nodes hn
    exact h _ (lookup_elements.2 ⟨s, nodes, hn, rfl⟩)
  · intro h ss hss
    obtain ⟨s, nodes, hn, rfl⟩ := lookup_elements.1 hss
    exact h s nodes hn

theorem allowsAll_nodes {nodes : List Value} : AllowsAll Ref (nodes.map ofValue) x ↔
    ∀ node ∈ nodes, (ofValue node).Allows Ref x := by
  rw [allowsAll_iff, List.forall_mem_map]

theorem allowsAny_nodes {nodes : List Value} : AllowsAny Ref (nodes.map ofValue) x ↔
    ∃ node ∈ nodes, (ofValue node).Allows Ref x := by
  rw [allowsAny_iff]
  constructor
  · rintro ⟨s, hs, hx⟩
    obtain ⟨node, hn, rfl⟩ := List.mem_map.1 hs
    exact ⟨node, hn, hx⟩
  · rintro ⟨node, hn, hx⟩
    exact ⟨_, List.mem_map_of_mem hn, hx⟩

theorem allows_ref : (part .ref entries (readEntries entries)).Allows Ref x ↔
    ∀ r, entries.lookup "$ref" = some r → Ref r x := allows_elim

theorem allows_type : (part .type entries (readEntries entries)).Allows Ref x ↔
    ∀ spec, entries.lookup "type" = some spec → x.HasType spec := allows_elim

theorem allows_required : (part .required entries (readEntries entries)).Allows Ref x ↔
    ∀ s names, entries.lookup "required" = some (.arr s names) → ∀ key, .str key ∈ names → x.HasKey key := by
  simp only [part, Allows, mem_keyNames]
  constructor
  · intro h s names hn key hk
    exact h key ⟨s, names, hn, hk⟩
  · rintro h key ⟨s, names, hn, hk⟩
    exact h s names hn key hk

/-- Where the required keys are there, the declared ones matter only as far as they are. -/
theorem allows_properties (hr : (part .required entries (readEntries entries)).Allows Ref x) :
    (part .properties entries (readEntries entries)).Allows Ref x ↔
      ∀ fields, entries.lookup "properties" = some (.obj fields) → fields ≠ [] → ∃ own, x = .obj own ∧
        ∀ key node, (key, node) ∈ fields → ∀ y, own.lookup key = some y → (ofValue node).Allows Ref y := by
  simp only [part, allows_elim]
  constructor
  · intro h fields hf hne
    rcases h _ (lookup_fields.2 ⟨fields, hf, rfl⟩) with hnil | ⟨own, rfl, hown⟩
    · exact absurd (List.map_eq_nil_iff.1 hnil) hne
    · refine ⟨own, rfl, fun key node hn y hy => ?_⟩
      exact (allowsFields_iff.1 hown (key, ofValue node) (List.mem_map_of_mem hn)).2 y hy
  · intro h fs hfs
    obtain ⟨fields, hf, rfl⟩ := lookup_fields.1 hfs
    by_cases hne : fields = []
    · exact .inl (by rw [hne]; rfl)
    · obtain ⟨own, rfl, hown⟩ := h fields hf hne
      -- a required key is there anyway, so the schema asks no more than the document
      refine .inr ⟨own, rfl, allowsFields_iff.2 fun f hmem => ?_⟩
      obtain ⟨⟨key, node⟩, hn, rfl⟩ := List.mem_map.1 hmem
      refine ⟨fun hk => ?_, hown key node hn⟩
      obtain ⟨_, y, he, hy⟩ := hr key hk
      cases he
      rw [hy]
      rfl

theorem allows_items : (part .items entries (readEntries entries)).Allows Ref x ↔
    ∀ node, entries.lookup "items" = some node →
      ∃ s ys, x = .arr s ys ∧ Meaning.Items (fun n y => (ofValue n).Allows Ref y) node ys := by
  simp only [part, lookup_readEntries]
  cases entries.lookup "items" with
  | none => simp [Allows]
  | some node =>
    simp only [Option.map_some, Option.some.injEq, forall_eq']
    cases node with
    | arr s nodes =>
      simp only [read_list, Option.elim_some, Allows, allowsPositions_iff, Meaning.Items, List.getElem?_map,
        Option.map_eq_some_iff, forall_exists_index, and_imp]
      refine exists_congr fun s => exists_congr fun ys => and_congr_right fun _ => ?_
      constructor
      · intro h i node y hn hy
        exact h i _ y node hn rfl hy
      · rintro h i _ y node hn rfl hy
        exact h i node y hn hy
    | _ => rfl

theorem allows_enum : (part .enum entries (readEntries entries)).Allows Ref x ↔
    ∀ s values, entries.lookup "enum" = some (.arr s values) → ∃ v ∈ values, x.same v = true := by
  simp only [part]
  split
  · next s values h => simp [h, Allows]
  · next h => exact ⟨fun _ s values hv => (h s values hv).elim, fun _ => trivial⟩

theorem allows_anyOf : (part .anyOf entries (readEntries entries)).Allows Ref x ↔
    (∀ s nodes, entries.lookup "anyOf" = some (.arr s nodes) → ∃ node ∈ nodes, (ofValue node).Allows Ref x) ∧
      ∀ s nodes, entries.lookup "oneOf" = some (.arr s nodes) → ∃ node ∈ nodes, (ofValue node).Allows Ref x := by
  simp only [part, Allows, AllowsAll, and_true, allows_elements, allowsAny_nodes]

theorem allows_allOf : (part .allOf entries (readEntries entries)).Allows Ref x ↔
    ∀ s nodes, entries.lookup "allOf" = some (.arr s nodes) → ∀ node ∈ nodes, (ofValue node).Allows Ref x := by
  simp only [part, allows_elements, Allows, allowsAll_nodes]

end Keywords

/-- A document and the schema read off it ask the same of a value. -/
theorem allows_ofValue {node x : Value} : (ofValue node).Allows Ref x ↔
    Meaning.Layer Ref (fun n y => (ofValue n).Allows Ref y) node x := by
  cases node with
  | arr s nodes =>
    rw [ofValue, read_list]
    exact allowsAll_nodes
  | obj entries =>
    rw [ofValue, read_mapping]
    have hall : (all (Keyword.all.map fun k => part k entries (readEntries entries))).Allows Ref x ↔
        ∀ k, (part k entries (readEntries entries)).Allows Ref x := by
      simp only [Allows, allowsAll_iff, List.forall_mem_map]
      exact ⟨fun h k => h k (by cases k <;> decide), fun h k _ => h k⟩
    rw [hall]
    constructor
    · intro h
      obtain ⟨hany, hone⟩ := allows_anyOf.1 (h .anyOf)
      exact ⟨allows_ref.1 (h .ref), allows_type.1 (h .type), allows_required.1 (h .required),
        (allows_properties (h .required)).1 (h .properties), allows_items.1 (h .items), allows_enum.1 (h .enum),
        hany, hone, allows_allOf.1 (h .allOf)⟩
    · intro h k
      have hrequired : (part .required entries (readEntries entries)).Allows Ref x := allows_required.2 h.required
      cases k with
      | ref => exact allows_ref.2 h.ref
      | type => exact allows_type.2 h.type
      | required => exact hrequired
      | properties => exact (allows_properties hrequired).2 h.properties
      | items => exact allows_items.2 h.items
      | enum => exact allows_enum.2 h.enum
      | anyOf => exact allows_anyOf.2 ⟨h.anyOf, h.oneOf⟩
      | allOf => exact allows_allOf.2 h.allOf
  | _ => simp [ofValue, read, Allows, Meaning.Layer]

/-! ## The least meaning -/

open Meaning

variable {table : Option Definitions}

theorem accepts_of_allows (href : ∀ r y, Ref r y → Follow table (Accepts table) r y) {node x : Value}
    (h : (ofValue node).Allows Ref x) : Accepts table node x := by
  -- the nodes inside are smaller, and references are judged by the meaning already
  induction hn : sizeOf node using Nat.strongRecOn generalizing node x with
  | ind n ih =>
    subst hn
    refine accepts_of_layer ((allows_ofValue.1 h).mono href fun m y hlt hm => ?_)
    exact ih _ hlt hm rfl

/-- The meaning of a document is that of its schema, references being judged by the meaning of the
definitions they name. -/
theorem accepts_iff_allows {node x : Value} :
    Accepts table node x ↔ (ofValue node).Allows (Follow table (Accepts table)) x := by
  have hallows : ∀ {n y}, (ofValue n).Allows (Follow table (Accepts table)) y → Accepts table n y :=
    accepts_of_allows fun _ _ hr => hr
  constructor
  · intro h
    refine h.least (R := fun n y => (ofValue n).Allows (Follow table (Accepts table)) y) fun n y hn => ?_
    exact allows_ofValue.2 (hn.mono (fun _ _ => Follow.mono fun _ _ => hallows) fun _ _ _ hm => hm)
  · exact hallows

end Schema

end Conformance
