import Conformance.Schema.Reference
import Conformance.Value.Equality
/-!
# What a document means

Which values a node of a schema document accepts, keyword by keyword, given the table that
references are looked up in. A definition may refer to itself, so the meaning is the least
relation that follows the keywords.
-/

namespace Conformance

/-! ## Conditions on a value -/

namespace Value

/-- The value is of the kind that is named; an integer is any number. -/
def IsNamed (x name : Value) : Prop :=
  ∃ kind, x.kind? = some kind ∧ (name = .str kind.name ∨ name = .str "integer" ∧ kind = .number)

/-- The value is of the named kind, or of one of those in a list. -/
def HasType (x : Value) : Value → Prop
  | .arr _ names => ∃ name ∈ names, x.IsNamed name
  | name => x.IsNamed name

def HasKey (x : Value) (key : String) : Prop :=
  ∃ entries y, x = .obj entries ∧ entries.lookup key = some y

end Value

/-! ## Keywords -/

namespace Meaning

section

variable (Ref Sub : Value → Value → Prop)

/-- A node for all items, or one for each position up to the end of the shorter list. -/
def Items : Value → List Value → Prop
  | .arr _ nodes, ys => ∀ (i : Nat) node y, nodes[i]? = some node → ys[i]? = some y → Sub node y
  | node, ys => ∀ y ∈ ys, Sub node y

/-- What the keywords of a mapping ask of a value, where `Ref` judges by a reference and `Sub` by a
node inside the mapping. -/
structure Obeys (entries : List (String × Value)) (x : Value) : Prop where
  ref : ∀ r, entries.lookup "$ref" = some r → Ref r x
  type : ∀ spec, entries.lookup "type" = some spec → x.HasType spec
  required : ∀ s names, entries.lookup "required" = some (.arr s names) → ∀ key, .str key ∈ names → x.HasKey key
  properties : ∀ fields, entries.lookup "properties" = some (.obj fields) → fields ≠ [] →
    ∃ own, x = .obj own ∧ ∀ key node, (key, node) ∈ fields → ∀ y, own.lookup key = some y → Sub node y
  items : ∀ node, entries.lookup "items" = some node → ∃ s ys, x = .arr s ys ∧ Items Sub node ys
  enum : ∀ s values, entries.lookup "enum" = some (.arr s values) → ∃ v ∈ values, x.same v = true
  anyOf : ∀ s nodes, entries.lookup "anyOf" = some (.arr s nodes) → ∃ node ∈ nodes, Sub node x
  oneOf : ∀ s nodes, entries.lookup "oneOf" = some (.arr s nodes) → ∃ node ∈ nodes, Sub node x
  allOf : ∀ s nodes, entries.lookup "allOf" = some (.arr s nodes) → ∀ node ∈ nodes, Sub node x

/-- What a node asks of a value: all of what a list asks, and nothing unless it is a mapping. -/
def Layer : Value → Value → Prop
  | .arr _ nodes, x => ∀ node ∈ nodes, Sub node x
  | .obj entries, x => Obeys Ref Sub entries x
  | _, _ => True

end

/-- The reference names an entry of the table, and that is its node. -/
def Names (table : Option Definitions) (r target : Value) : Prop :=
  ∃ ref definitions, Reference.ofValue r = .ok ref ∧ table = some definitions ∧
    definitions.lookup ref.name = some target

/-- Judging by a reference is judging by the definition it names. -/
def Follow (table : Option Definitions) (R : Value → Value → Prop) (r x : Value) : Prop :=
  ∃ target, Names table r target ∧ R target x

/-- The least relation that holds where what a node asks holds, as far as the relation judges it. -/
def Accepts (table : Option Definitions) (node x : Value) : Prop :=
  ∀ R : Value → Value → Prop, (∀ n y, Layer (Follow table R) R n y → R n y) → R node x

/-- What holds at all positions that both lists have holds at the first and after it. -/
theorem positions_cons {α β : Type} {P : α → β → Prop} {a : α} {as : List α} {b : β} {bs : List β} :
    (∀ (i : Nat) c d, (a :: as)[i]? = some c → (b :: bs)[i]? = some d → P c d) ↔
      P a b ∧ ∀ (i : Nat) c d, as[i]? = some c → bs[i]? = some d → P c d := by
  constructor
  · intro h
    exact ⟨h 0 a b rfl rfl, fun i => h (i + 1)⟩
  · rintro ⟨h, hs⟩ i c d hc hd
    cases i with
    | zero =>
      cases hc
      cases hd
      exact h
    | succ i => exact hs i c d hc hd

/-! ## One layer after the other -/

theorem sizeOf_item {s : Sequence} {v : Value} {vs : List Value} (h : v ∈ vs) :
    sizeOf v < sizeOf (Value.arr s vs) := by
  have := List.sizeOf_lt_of_mem h
  simp only [Value.arr.sizeOf_spec]
  omega

theorem sizeOf_entry {key : String} {v : Value} {entries : List (String × Value)} (h : (key, v) ∈ entries) :
    sizeOf v < sizeOf (Value.obj entries) := by
  have := List.sizeOf_lt_of_mem h
  simp only [Value.obj.sizeOf_spec, Prod.mk.sizeOf_spec] at this ⊢
  omega

section Mono

variable {Ref Ref' Sub Sub' : Value → Value → Prop}

theorem Items.mono {node : Value} {ys : List Value} (hsub : ∀ n y, sizeOf n ≤ sizeOf node → Sub n y → Sub' n y)
    (h : Items Sub node ys) : Items Sub' node ys := by
  cases node with
  | arr s nodes =>
    intro i n y hn hy
    have hmem := List.mem_of_getElem? hn
    exact hsub n y (Nat.le_of_lt (sizeOf_item hmem)) (h i n y hn hy)
  | _ => exact fun y hy => hsub _ y (Nat.le_refl _) (h y hy)

/-- Only nodes inside the node are judged by `Sub`. -/
theorem Layer.mono {node x : Value} (href : ∀ r y, Ref r y → Ref' r y)
    (hsub : ∀ n y, sizeOf n < sizeOf node → Sub n y → Sub' n y) (h : Layer Ref Sub node x) :
    Layer Ref' Sub' node x := by
  cases node with
  | arr s nodes => exact fun n hn => hsub n x (sizeOf_item hn) (h n hn)
  | obj entries =>
    have inside : ∀ {key s nodes n}, entries.lookup key = some (.arr s nodes) → n ∈ nodes →
        sizeOf n < sizeOf (Value.obj entries) := fun hl hn =>
      Nat.lt_trans (sizeOf_item hn) (sizeOf_entry (Entries.mem_of_lookup hl))
    refine ⟨fun r hr => href r x (h.ref r hr), h.type, h.required, ?_, ?_, h.enum, ?_, ?_, ?_⟩
    · intro fields hf hne
      obtain ⟨own, rfl, hown⟩ := h.properties fields hf hne
      refine ⟨own, rfl, fun key n hn y hy => hsub n y ?_ (hown key n hn y hy)⟩
      exact Nat.lt_trans (sizeOf_entry hn) (sizeOf_entry (Entries.mem_of_lookup hf))
    · intro node hn
      obtain ⟨s, ys, rfl, hys⟩ := h.items node hn
      refine ⟨s, ys, rfl, hys.mono fun n y hle => hsub n y ?_⟩
      exact Nat.lt_of_le_of_lt hle (sizeOf_entry (Entries.mem_of_lookup hn))
    · intro s nodes hn
      obtain ⟨n, hmem, hx⟩ := h.anyOf s nodes hn
      exact ⟨n, hmem, hsub n x (inside hn hmem) hx⟩
    · intro s nodes hn
      obtain ⟨n, hmem, hx⟩ := h.oneOf s nodes hn
      exact ⟨n, hmem, hsub n x (inside hn hmem) hx⟩
    · exact fun s nodes hn n hmem => hsub n x (inside hn hmem) (h.allOf s nodes hn n hmem)
  | _ => trivial

end Mono

variable {table : Option Definitions} {R : Value → Value → Prop} {node x : Value}

theorem Follow.mono {R' : Value → Value → Prop} (h : ∀ n y, R n y → R' n y) {r y : Value}
    (hr : Follow table R r y) : Follow table R' r y := by
  obtain ⟨target, hn, hy⟩ := hr
  exact ⟨target, hn, h target y hy⟩

/-- The induction principle: the meaning is in every relation that follows the keywords. -/
theorem Accepts.least (h : Accepts table node x) (hR : ∀ n y, Layer (Follow table R) R n y → R n y) : R node x :=
  h R hR

/-- The meaning follows the keywords itself. -/
theorem accepts_of_layer (h : Layer (Follow table (Accepts table)) (Accepts table) node x) :
    Accepts table node x := by
  intro R hR
  have hin : ∀ n y, Accepts table n y → R n y := fun n y hn => hn.least hR
  exact hR node x (h.mono (fun _ _ => Follow.mono hin) fun n y _ => hin n y)

/-- What a node accepts is what it asks for, its parts and references being judged in the same way. -/
theorem accepts_iff :
    Accepts table node x ↔ Layer (Follow table (Accepts table)) (Accepts table) node x := by
  constructor
  · intro h
    refine h.least (R := fun n y => Layer (Follow table (Accepts table)) (Accepts table) n y) fun n y hn => ?_
    exact hn.mono (fun _ _ => Follow.mono fun _ _ => accepts_of_layer) fun _ _ _ => accepts_of_layer
  · exact accepts_of_layer

end Meaning

end Conformance
