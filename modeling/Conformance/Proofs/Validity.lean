import Conformance.Proofs.Equality
import Conformance.Proofs.Pointers
import Conformance.Proofs.Rationals
/-!
# Validity

What the draft says of the keywords that are modelled here. It differs from what documents compile to: a
keyword about members or items says nothing of other values, `oneOf` asks for a single branch, a reference
makes nodes ignore the keywords beside it, and a boolean is a node, too. A definition may refer to itself, so
a node judges a value only where it comes to an end, and then with one answer.
-/

namespace Conformance

/-! ## Values -/

namespace Value

/-- A value that JSON has: there is something that each number is equal to, and objects have distinct keys. -/
inductive IsJson : Value → Prop
  | null : IsJson .null
  | bool (b : Bool) : IsJson (.bool b)
  | num {n : Number} (h : n.Equals n) : IsJson (.num n)
  | str (s : String) : IsJson (.str s)
  | arr (s : Sequence) {items : List Value} (h : ∀ x ∈ items, IsJson x) : IsJson (.arr s items)
  | obj {entries : List (String × Value)} (hk : (entries.map Prod.fst).Nodup)
    (h : ∀ e ∈ entries, IsJson e.2) : IsJson (.obj entries)

/-- Equality of JSON: numbers are equal if they are the same rational, and no boolean is a number. -/
inductive Equals : Value → Value → Prop
  | null : Equals .null .null
  | bool (b : Bool) : Equals (.bool b) (.bool b)
  | num {m n : Number} (h : m.Equals n) : Equals (.num m) (.num n)
  | str (s : String) : Equals (.str s) (.str s)
  | arr {s t : Sequence} {xs ys : List Value} (hl : xs.length = ys.length)
    (h : ∀ (i : Nat) x y, xs[i]? = some x → ys[i]? = some y → Equals x y) : Equals (.arr s xs) (.arr t ys)
  | obj {es fs : List (String × Value)} (hk : ∀ key, key ∈ es.map Prod.fst ↔ key ∈ fs.map Prod.fst)
    (h : ∀ key x y, es.lookup key = some x → fs.lookup key = some y → Equals x y) : Equals (.obj es) (.obj fs)

/-- The value is of the type that the draft names so; an integer is a number without a fraction. -/
def IsOf : Value → String → Prop
  | .null, name => name = "null"
  | .bool _, name => name = "boolean"
  | .num n, name => name = "number" ∨ name = "integer" ∧ ∃ k : Int, n.rational? = some k
  | .str _, name => name = "string"
  | .arr .., name => name = "array"
  | .obj _, name => name = "object"
  | .foreign .., _ => False

/-- The value is of the type that is named, or of one in a list. -/
def Fits (x : Value) : Value → Prop
  | .arr _ names => ∃ name, .str name ∈ names ∧ x.IsOf name
  | spec => ∃ name, spec = .str name ∧ x.IsOf name

end Value

/-! ## Judging -/

namespace Validity

/-- A node inside a mapping, and the part of a value that it judges for the mapping. -/
inductive Applies (entries : List (String × Value)) : Value → Value → Value → Prop
  | branch {x node : Value} (h : Branch (.obj entries) node) : Applies entries x node x
  | property {fields own : List (String × Value)} {key : String} {node y : Value}
    (hl : entries.lookup "properties" = some (.obj fields)) (h : (key, node) ∈ fields)
    (hy : own.lookup key = some y) : Applies entries (.obj own) node y
  | items {node : Value} {s : Sequence} {ys : List Value} {y : Value} (hl : entries.lookup "items" = some node)
    (hn : ∀ s nodes, node ≠ .arr s nodes) (hy : y ∈ ys) : Applies entries (.arr s ys) node y
  | position {s t : Sequence} {nodes ys : List Value} {i : Nat} {node y : Value}
    (hl : entries.lookup "items" = some (.arr s nodes)) (h : nodes[i]? = some node) (hy : ys[i]? = some y) :
    Applies entries (.arr t ys) node y

/-- What the keywords of a mapping ask of a value, where `V` judges by the nodes inside. -/
structure Keywords (V : Value → Value → Prop) (entries : List (String × Value)) (x : Value) : Prop where
  type : ∀ spec, entries.lookup "type" = some spec → x.Fits spec
  required : ∀ s names own, entries.lookup "required" = some (.arr s names) → x = .obj own →
    ∀ key, .str key ∈ names → ∃ y, own.lookup key = some y
  properties : ∀ fields own, entries.lookup "properties" = some (.obj fields) → x = .obj own →
    ∀ key node, (key, node) ∈ fields → ∀ y, own.lookup key = some y → V node y
  items : ∀ node s ys, entries.lookup "items" = some node → x = .arr s ys → Meaning.Items V node ys
  enum : ∀ s values, entries.lookup "enum" = some (.arr s values) → ∃ v ∈ values, x.Equals v
  anyOf : ∀ s nodes, entries.lookup "anyOf" = some (.arr s nodes) → ∃ node ∈ nodes, V node x
  oneOf : ∀ s nodes, entries.lookup "oneOf" = some (.arr s nodes) → ∃ i node, nodes[i]? = some node ∧ V node x ∧
    ∀ (j : Nat) other, nodes[j]? = some other → V other x → j = i
  allOf : ∀ s nodes, entries.lookup "allOf" = some (.arr s nodes) → ∀ node ∈ nodes, V node x

/-- A node of the document judges a value: by its reference alone if it has one, and else by its keywords,
once the nodes inside have judged the parts of the value that they apply to. -/
inductive Judges (document : Value) : Value → Value → Bool → Prop
  | boolean (b : Bool) (x : Value) : Judges document (.bool b) x b
  | reference {entries : List (String × Value)} {r target x : Value} {b : Bool}
    (hr : entries.lookup "$ref" = some r) (ht : PointsTo document r target) (h : Judges document target x b) :
    Judges document (.obj entries) x b
  | keywords {entries : List (String × Value)} {x : Value} {b : Bool} (V : Value → Value → Bool)
    (hr : entries.lookup "$ref" = none) (hV : ∀ n y, Applies entries x n y → Judges document n y (V n y))
    (hb : b = true ↔ Keywords (fun n y => V n y = true) entries x) : Judges document (.obj entries) x b

/-! ## One answer -/

section

variable {V V' : Value → Value → Prop} {entries : List (String × Value)} {x : Value}

theorem Keywords.of_agree (h : ∀ n y, Applies entries x n y → (V n y ↔ V' n y)) (hk : Keywords V entries x) :
    Keywords V' entries x := by
  have hbranch : ∀ {key s nodes node}, key ∈ ["anyOf", "oneOf", "allOf"] →
      entries.lookup key = some (.arr s nodes) → node ∈ nodes → (V node x ↔ V' node x) :=
    fun hkey hl hn => h _ x (.branch (.keyword hkey hl hn))
  refine ⟨hk.type, hk.required, ?_, ?_, hk.enum, ?_, ?_, ?_⟩
  · rintro fields own hl rfl key node hn y hy
    exact (h node y (.property hl hn hy)).1 (hk.properties fields own hl rfl key node hn y hy)
  · rintro node s ys hl rfl
    have hi := hk.items node s ys hl rfl
    cases node with
    | arr t nodes =>
      intro i n y hn hy
      exact (h n y (.position hl hn hy)).1 (hi i n y hn hy)
    | _ => exact fun y hy => (h _ y (.items hl (fun _ _ => Value.noConfusion) hy)).1 (hi y hy)
  · intro s nodes hl
    obtain ⟨node, hn, hv⟩ := hk.anyOf s nodes hl
    exact ⟨node, hn, (hbranch (by simp) hl hn).1 hv⟩
  · intro s nodes hl
    obtain ⟨i, node, hi, hv, hone⟩ := hk.oneOf s nodes hl
    refine ⟨i, node, hi, (hbranch (by simp) hl (List.mem_of_getElem? hi)).1 hv, fun j other hj hv' => ?_⟩
    exact hone j other hj ((hbranch (by simp) hl (List.mem_of_getElem? hj)).2 hv')
  · exact fun s nodes hl node hn => (hbranch (by simp) hl hn).1 (hk.allOf s nodes hl node hn)

/-- Only the judgements that apply count. -/
theorem Keywords.congr (h : ∀ n y, Applies entries x n y → (V n y ↔ V' n y)) :
    Keywords V entries x ↔ Keywords V' entries x :=
  ⟨.of_agree h, .of_agree fun n y ha => (h n y ha).symm⟩

end

/-- A node does not judge a value in both ways. -/
theorem Judges.unique {document node x : Value} {b c : Bool} (hb : Judges document node x b)
    (hc : Judges document node x c) : b = c := by
  -- the second judgement comes by the same rule as the first, so the parts agree
  induction hb generalizing c with
  | boolean b x =>
    cases hc
    rfl
  | reference hr ht _ ih =>
    cases hc with
    | reference hr' ht' h' =>
      cases hr.symm.trans hr'
      cases ht.unique ht'
      exact ih h'
    | keywords _ hr' => cases hr.symm.trans hr'
  | keywords V hr _ hb ih =>
    cases hc with
    | reference hr' => cases hr.symm.trans hr'
    | keywords V' _ hV' hc =>
      rw [Bool.eq_iff_iff, hb, hc]
      exact Keywords.congr fun n y ha => by rw [ih n y ha (hV' n y ha)]

/-! ## Values and their types -/

end Validity

namespace Value

theorem isNamed_iff {x : Value} {name : String} (h : name ≠ "integer") : x.IsNamed (.str name) ↔ x.IsOf name := by
  have hkind : x.IsNamed (.str name) ↔ ∃ kind, x.kind? = some kind ∧ name = kind.name := by
    simp [IsNamed, h]
  rw [hkind]
  cases x <;> simp [kind?, IsOf, Kind.name, h]

/-- Where one value is JSON, the values are the same if they are equal as JSON. -/
theorem same_iff_equals {x y : Value} (hx : x.IsJson) : x.same y = true ↔ x.Equals y := by
  induction hx generalizing y with
  | null =>
    cases y with
    | null => exact iff_of_true rfl .null
    | _ => exact iff_of_false Bool.false_ne_true fun h => by cases h
  | bool b =>
    cases y with
    | bool c =>
      refine beq_iff_eq.trans ⟨?_, ?_⟩
      · rintro rfl
        exact .bool b
      · rintro ⟨⟩
        rfl
    | _ => exact iff_of_false Bool.false_ne_true fun h => by cases h
  | @num m _ =>
    cases y with
    | num n =>
      refine Number.same_iff_equals.trans ⟨.num, ?_⟩
      rintro ⟨⟩
      assumption
    | _ => exact iff_of_false Bool.false_ne_true fun h => by cases h
  | str s =>
    cases y with
    | str t =>
      refine beq_iff_eq.trans ⟨?_, ?_⟩
      · rintro rfl
        exact .str s
      · rintro ⟨⟩
        rfl
    | _ => exact iff_of_false Bool.false_ne_true fun h => by cases h
  | @arr s xs _ ih =>
    cases y with
    | arr t ys =>
      rw [same_arr, List.forall₂_iff_get]
      constructor
      · rintro ⟨hl, h⟩
        refine .arr hl fun i x y hx hy => ?_
        obtain ⟨hi, rfl⟩ := List.getElem?_eq_some_iff.1 hx
        obtain ⟨hj, rfl⟩ := List.getElem?_eq_some_iff.1 hy
        exact (ih _ (List.getElem_mem hi)).1 (h i hi hj)
      · rintro ⟨⟩
        next hl h =>
          refine ⟨hl, fun i hi hj => (ih _ (List.getElem_mem hi)).2 ?_⟩
          exact h i _ _ (List.getElem?_eq_getElem hi) (List.getElem?_eq_getElem hj)
    | _ => exact iff_of_false Bool.false_ne_true fun h => by cases h
  | @obj es hk _ ih =>
    cases y with
    | obj fs =>
      rw [same_obj]
      constructor
      · rintro ⟨hkeys, h⟩
        refine .obj (fun key => ⟨fun hm => ?_, fun hm => ?_⟩) fun key x y hx hy => ?_
        · obtain ⟨e, he, rfl⟩ := List.mem_map.1 hm
          obtain ⟨y, hy, _⟩ := h e he
          exact Entries.has_iff_mem.1 (Entries.has_iff.2 ⟨y, hy⟩)
        · obtain ⟨f, hf, rfl⟩ := List.mem_map.1 hm
          exact Entries.has_iff_mem.1 (hkeys f hf)
        · have he := Entries.mem_of_lookup hx
          obtain ⟨z, hz, hs⟩ := h _ he
          cases hz.symm.trans hy
          exact (ih _ he).1 hs
      · rintro ⟨⟩
        next hkeys h =>
          refine ⟨fun f hf => Entries.has_iff_mem.2 ((hkeys _).2 (List.mem_map_of_mem hf)), fun e he => ?_⟩
          obtain ⟨y, hy⟩ := Entries.has_iff.1 (Entries.has_iff_mem.2 ((hkeys _).1 (List.mem_map_of_mem he)))
          exact ⟨y, hy, (ih e he).2 (h _ _ y (Entries.lookup_of_mem hk he) hy)⟩
    | _ => exact iff_of_false Bool.false_ne_true fun h => by cases h

end Value

end Conformance
