import Conformance.Proofs.Inlining
import Conformance.Proofs.Validity
/-!
# Documents that keep to the draft

A part of the draft's language whose keywords mean the same to the draft and to what documents compile to.
Each keyword about members or items stands beside the type that it is about, no two branches of a `oneOf`
are valid for one value, and references stand alone and are to entries of the document.
-/

namespace Conformance

open Meaning

namespace Validity

/-! ## The subset -/

/-- A node that the document can make use of, where references are followed by their pointers. -/
inductive Reaches (document : Value) : Value → Prop
  | root : Reaches document document
  | inside {node part : Value} (h : Reaches document node) (hp : Part true node part) : Reaches document part
  | reference {entries : List (String × Value)} {r target : Value} (h : Reaches document (.obj entries))
    (hr : entries.lookup "$ref" = some r) (ht : PointsTo document r target) : Reaches document target

/-- The name of a type other than `integer`, or a list of them. -/
def NamesKinds : Value → Prop
  | .arr _ names => ∀ name ∈ names, ∃ kind : Kind, name = .str kind.name
  | name => ∃ kind : Kind, name = .str kind.name

def constraints : List String :=
  ["type", "required", "properties", "items", "enum", "anyOf", "oneOf", "allOf"]

/-- What the subset asks of a node. -/
structure Restricted (document : Value) (entries : List (String × Value)) : Prop where
  keys : ∀ e ∈ entries, e.1 ∈ "$ref" :: "definitions" :: constraints
  type : ∀ spec, entries.lookup "type" = some spec → NamesKinds spec
  required : ∀ v, entries.lookup "required" = some v → entries.lookup "type" = some (.str "object") ∧
    ∃ s names, v = .arr s names ∧ ∀ name ∈ names, ∃ key, name = .str key
  properties : ∀ v, entries.lookup "properties" = some v → entries.lookup "type" = some (.str "object") ∧
    ∃ fields, v = .obj fields
  items : ∀ v, entries.lookup "items" = some v → entries.lookup "type" = some (.str "array")
  enum : ∀ v, entries.lookup "enum" = some v → ∃ s values, v = .arr s values
  branches : ∀ key ∈ ["anyOf", "oneOf", "allOf"], ∀ v, entries.lookup key = some v →
    ∃ s nodes, v = .arr s nodes ∧ nodes ≠ []
  exclusive : ∀ s nodes, entries.lookup "oneOf" = some (.arr s nodes) → ∀ (i j : Nat) n m, nodes[i]? = some n →
    nodes[j]? = some m → ∀ x, x.IsJson → Judges document n x true → Judges document m x true → i = j
  alone : ∀ r, entries.lookup "$ref" = some r →
    (∀ key ∈ constraints, entries.lookup key = none) ∧ ∃ name target, RefersToEntry document r name target

/-- All nodes are mappings that keep to the subset. -/
def Subset (document : Value) : Prop :=
  ∀ node, Reaches document node → ∃ entries, node = .obj entries ∧ Restricted document entries

/-- No reference is to an entry with an empty name. -/
def Named (document : Value) : Prop :=
  ∀ entries r target, Reaches document (.obj entries) → entries.lookup "$ref" = some r →
    ¬ RefersToEntry document r "" target

/-! ## Keywords of the subset -/

theorem NamesKinds.isType {spec : Value} (h : NamesKinds spec) : spec.IsType := by
  have hname : ∀ kind : Kind, Value.IsTypeName (.str kind.name) :=
    fun kind => ⟨kind.name, by cases kind <;> decide, rfl⟩
  cases spec with
  | arr s names =>
    intro name hn
    obtain ⟨kind, rfl⟩ := h name hn
    exact hname kind
  | _ =>
    obtain ⟨kind, hk⟩ := h
    rw [hk]
    exact hname kind

theorem NamesKinds.hasType_iff {spec x : Value} (h : NamesKinds spec) : x.HasType spec ↔ x.Fits spec := by
  have hname : ∀ kind : Kind, x.IsNamed (.str kind.name) ↔ x.IsOf kind.name :=
    fun kind => Value.isNamed_iff (by cases kind <;> decide)
  cases spec with
  | arr s names =>
    constructor
    · rintro ⟨name, hn, hx⟩
      obtain ⟨kind, rfl⟩ := h name hn
      exact ⟨_, hn, (hname kind).1 hx⟩
    · rintro ⟨name, hn, hx⟩
      obtain ⟨kind, he⟩ := h _ hn
      cases he
      exact ⟨_, hn, (hname kind).2 hx⟩
  | _ =>
    obtain ⟨kind, hk⟩ := h
    rw [hk]
    refine (hname kind).trans ⟨fun hx => ⟨_, rfl, hx⟩, ?_⟩
    rintro ⟨name, he, hx⟩
    cases he
    exact hx

theorem fits_object {x : Value} (h : x.Fits (.str "object")) : ∃ own, x = .obj own := by
  obtain ⟨name, he, hx⟩ := h
  cases he
  cases x with
  | obj own => exact ⟨own, rfl⟩
  | _ => simp [Value.IsOf] at hx

theorem fits_array {x : Value} (h : x.Fits (.str "array")) : ∃ s ys, x = .arr s ys := by
  obtain ⟨name, he, hx⟩ := h
  cases he
  cases x with
  | arr s ys => exact ⟨s, ys, rfl⟩
  | _ => simp [Value.IsOf] at hx

section Restricted

variable {document x : Value} {entries : List (String × Value)} {Ref V : Value → Value → Prop}

/-- Without a reference the keywords ask the same of a value as in the draft, where at most one branch of a
`oneOf` judges it well. -/
theorem Restricted.obeys_iff (h : Restricted document entries) (hr : entries.lookup "$ref" = none) (hx : x.IsJson)
    (hone : ∀ s nodes, entries.lookup "oneOf" = some (.arr s nodes) → ∀ (i j : Nat) n m, nodes[i]? = some n →
      nodes[j]? = some m → V n x → V m x → i = j) :
    Obeys Ref V entries x ↔ Keywords V entries x := by
  constructor
  · intro ho
    refine ⟨?_, ?_, ?_, ?_, ?_, ho.anyOf, ?_, ho.allOf⟩
    · exact fun spec hl => (h.type spec hl).hasType_iff.1 (ho.type spec hl)
    · rintro s names own hl rfl key hn
      obtain ⟨_, y, he, hy⟩ := ho.required s names hl key hn
      cases he
      exact ⟨y, hy⟩
    · rintro fields own hl rfl key node hn y hy
      obtain ⟨_, he, hown⟩ := ho.properties fields hl (List.ne_nil_of_mem hn)
      cases he
      exact hown key node hn y hy
    · rintro node s ys hl rfl
      obtain ⟨_, _, he, hi⟩ := ho.items node hl
      cases he
      exact hi
    · intro s values hl
      obtain ⟨v, hv, hs⟩ := ho.enum s values hl
      exact ⟨v, hv, (Value.same_iff_equals hx).1 hs⟩
    · intro s nodes hl
      obtain ⟨node, hn, hv⟩ := ho.oneOf s nodes hl
      obtain ⟨i, hi⟩ := List.getElem?_of_mem hn
      exact ⟨i, node, hi, hv, fun j other hj hv' => hone s nodes hl j i other node hj hi hv' hv⟩
  · intro hk
    -- the type beside them makes the value an object or an array before members or items are asked for
    refine ⟨?_, ?_, ?_, ?_, ?_, ?_, hk.anyOf, ?_, hk.allOf⟩
    · intro r hl
      rw [hr] at hl
      cases hl
    · exact fun spec hl => (h.type spec hl).hasType_iff.2 (hk.type spec hl)
    · intro s names hl key hn
      obtain ⟨own, rfl⟩ := fits_object (hk.type _ (h.required _ hl).1)
      obtain ⟨y, hy⟩ := hk.required s names own hl rfl key hn
      exact ⟨own, y, rfl, hy⟩
    · intro fields hl _
      obtain ⟨own, rfl⟩ := fits_object (hk.type _ (h.properties _ hl).1)
      exact ⟨own, rfl, hk.properties fields own hl rfl⟩
    · intro node hl
      obtain ⟨s, ys, rfl⟩ := fits_array (hk.type _ (h.items _ hl))
      exact ⟨s, ys, rfl, hk.items node s ys hl rfl⟩
    · intro s values hl
      obtain ⟨v, hv, he⟩ := hk.enum s values hl
      exact ⟨v, hv, (Value.same_iff_equals hx).2 he⟩
    · intro s nodes hl
      obtain ⟨i, node, hi, hv, _⟩ := hk.oneOf s nodes hl
      exact ⟨node, List.mem_of_getElem? hi, hv⟩

/-- Beside a reference nothing else is asked. -/
theorem Restricted.obeys_reference (h : Restricted document entries) {r : Value}
    (hr : entries.lookup "$ref" = some r) : Obeys Ref V entries x ↔ Ref r x := by
  obtain ⟨hnone, _⟩ := h.alone r hr
  have absent : ∀ {key v} {P : Prop}, key ∈ constraints → entries.lookup key = some v → P := by
    intro key v P hk hl
    rw [hnone key hk] at hl
    cases hl
  constructor
  · exact fun ho => ho.ref r hr
  · intro hx
    refine ⟨?_, ?_, ?_, ?_, ?_, ?_, ?_, ?_, ?_⟩
    · intro r' hl
      cases hr.symm.trans hl
      exact hx
    · exact fun _ hl => absent (by decide) hl
    · exact fun _ _ hl => absent (by decide) hl
    · exact fun _ hl => absent (by decide) hl
    · exact fun _ hl => absent (by decide) hl
    · exact fun _ _ hl => absent (by decide) hl
    · exact fun _ _ hl => absent (by decide) hl
    · exact fun _ _ hl => absent (by decide) hl
    · exact fun _ _ hl => absent (by decide) hl

end Restricted

/-! ## Nodes of the subset -/

section Nodes

variable {document : Value}

/-- Each reference names what its pointer leads to. -/
theorem Subset.refers (hs : Subset document) (hn : Named document) {entries : List (String × Value)} {r : Value}
    (h : Reaches document (.obj entries)) (hl : entries.lookup "$ref" = some r) :
    ∃ name target, r.RefersTo name ∧ Names (effectiveDefinitions document .null) r target ∧
      PointsTo document r target := by
  obtain ⟨_, he, hr⟩ := hs _ h
  cases he
  obtain ⟨_, name, target, hentry⟩ := hr.alone r hl
  have hne : name ≠ "" := by
    rintro rfl
    exact hn entries r target h hl hentry
  obtain ⟨hrefers, hnames⟩ := hentry.names hne
  exact ⟨name, target, hrefers, hnames, hentry.pointsTo⟩

theorem Subset.reaches (hs : Subset document) (hn : Named document) {node : Value}
    (h : Reachable (effectiveDefinitions document .null) document node) : Reaches document node := by
  induction h with
  | root => exact .root
  | branch _ hp ih => exact ih.inside (.inl hp)
  | detail _ hp ih => exact ih.inside (.inr ⟨rfl, hp⟩)
  | definition _ hr ht ih =>
    obtain ⟨_, target, _, hnames, hpoints⟩ := hs.refers hn ih hr
    cases Names.unique ht hnames
    exact ih.reference hr hpoints

theorem Subset.faultless (hs : Subset document) (hn : Named document) {node : Value} (h : Reaches document node)
    (code : String) : ¬ Fault (effectiveDefinitions document .null) node code := by
  obtain ⟨entries, rfl, hr⟩ := hs node h
  intro hf
  cases hf with
  | type hl hnot => exact hnot (hr.type _ hl).isType
  | malformed hl hnot =>
    obtain ⟨name, _, hrefers, _⟩ := hs.refers hn h hl
    exact hnot name hrefers
  | noTable hl _ ht =>
    obtain ⟨_, _, _, ⟨_, _, _, ht', _⟩, _⟩ := hs.refers hn h hl
    rw [ht] at ht'
    cases ht'
  | noEntry hl hrefers ht hnone =>
    obtain ⟨_, _, _, ⟨ref, _, href, ht', hsome⟩, _⟩ := hs.refers hn h hl
    obtain ⟨ref', href', rfl⟩ := Reference.refersTo_iff.1 hrefers
    rw [href] at href'
    cases href'
    rw [ht] at ht'
    cases ht'
    rw [hnone] at hsome
    cases hsome

end Nodes

/-! ## Small nodes -/

section Small

variable {entries : List (String × Value)} {key : String} {v : Value}

theorem absent {P : Prop} (h : Entries.has key entries = false) (hl : entries.lookup key = some v) : P := by
  rw [Entries.has, hl] at h
  cases h

theorem not_branch (h : ∀ key ∈ ["anyOf", "oneOf", "allOf"], Entries.has key entries = false) :
    ¬ Branch (.obj entries) v := by
  rintro (_ | ⟨hk, hl, _⟩)
  exact absent (h _ hk) hl

theorem branches_of_absent (h : ∀ key ∈ ["anyOf", "oneOf", "allOf"], Entries.has key entries = false) :
    ∀ key ∈ ["anyOf", "oneOf", "allOf"], ∀ v, entries.lookup key = some v → ∃ s nodes, v = .arr s nodes ∧ nodes ≠ [] :=
  fun key hk _ hl => absent (h key hk) hl

theorem not_detail (h : ∀ key ∈ ["properties", "items"], Entries.has key entries = false) :
    ¬ Detail (.obj entries) v := by
  intro hp
  cases hp with
  | property hl _ => exact absent (h _ (by decide)) hl
  | items hl _ => exact absent (h _ (by decide)) hl
  | position hl _ => exact absent (h _ (by decide)) hl

/-- Nothing stands in a node without the keywords for it. -/
theorem not_part {deep : Bool} (hb : ∀ key ∈ ["anyOf", "oneOf", "allOf"], Entries.has key entries = false)
    (hd : ∀ key ∈ ["properties", "items"], Entries.has key entries = false) : ¬ Part deep (.obj entries) v := by
  rintro (hp | ⟨_, hp⟩)
  · exact not_branch hb hp
  · exact not_detail hd hp

/-- A node with nothing but a reference to an entry keeps to the subset. -/
theorem restricted_reference {document r target : Value} {name : String}
    (hkeys : ∀ e ∈ entries, e.1 ∈ ["$ref", "definitions"]) (hr : entries.lookup "$ref" = some r)
    (he : RefersToEntry document r name target) : Restricted document entries := by
  have apart : ∀ {key v} {P : Prop}, key ∈ constraints → entries.lookup key = some v → P := by
    intro key v P hk hl
    have hnot : ∀ key ∈ constraints, key ∉ ["$ref", "definitions"] := by decide
    exact absurd (hkeys _ (Entries.mem_of_lookup hl)) (hnot key hk)
  refine ⟨fun e he => List.mem_append_left constraints (hkeys e he), ?_, ?_, ?_, ?_, ?_, ?_, ?_, ?_⟩
  · exact fun _ hl => apart (by decide) hl
  · exact fun _ hl => apart (by decide) hl
  · exact fun _ hl => apart (by decide) hl
  · exact fun _ hl => apart (by decide) hl
  · exact fun _ hl => apart (by decide) hl
  · exact fun key hk _ hl => apart (List.mem_append_right ["type", "required", "properties", "items", "enum"] hk) hl
  · exact fun _ _ hl => apart (by decide) hl
  · intro r' hl
    cases hr.symm.trans hl
    refine ⟨fun key hk => ?_, name, target, he⟩
    cases hnone : entries.lookup key with
    | none => rfl
    | some v => exact apart hk hnone

/-- So does a node that asks for a type alone. -/
theorem restricted_type (document : Value) (kind : Kind) : Restricted document [("type", .str kind.name)] where
  keys := by simp [constraints]
  type := by
    rintro _ ⟨⟩
    exact ⟨kind, rfl⟩
  required := by rintro _ ⟨⟩
  properties := by rintro _ ⟨⟩
  items := by rintro _ ⟨⟩
  enum := by rintro _ ⟨⟩
  branches := branches_of_absent (by simp [Entries.has])
  exclusive := by rintro _ _ ⟨⟩
  alone := by rintro _ ⟨⟩

/-- What is valid for a node is of its type. -/
theorem judges_type {document x : Value} {name : String}
    (h : Judges document (.obj entries) x true) (hr : entries.lookup "$ref" = none)
    (hl : entries.lookup "type" = some (.str name)) : x.IsOf name := by
  cases h with
  | reference hr' =>
    rw [hr] at hr'
    cases hr'
  | keywords V _ _ hb =>
    obtain ⟨name', he, hx⟩ := (hb.1 rfl).type _ hl
    cases he
    exact hx

end Small

end Validity

end Conformance
