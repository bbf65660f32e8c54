import Conformance.Proofs.Meaning
import Conformance.Proofs.Reachable
/-!
# Replacing a node

Two nodes may differ in one place only, where another node stands. What accepts the same values in
that place makes the whole accept the same values, and the whole demands nothing but what it did
before or what the new node demands. A mapping is taken apart into its keywords for this: it
asks for what they ask for, and what stands in it stands under one of them.
-/

namespace Conformance

open Meaning

/-! ## Nodes in the same place -/

/-- A keyword holds the first node in the one value, and in the other the second in its place. -/
inductive Slot (node node' : Value) : String → Value → Value → Prop
  | element {key : String} (s : Sequence) (pre post : List Value) (hk : key ∈ ["anyOf", "oneOf", "allOf", "items"]) :
    Slot node node' key (.arr s (pre ++ node :: post)) (.arr s (pre ++ node' :: post))
  | property (key : String) (pre post : List (String × Value)) :
    Slot node node' "properties" (.obj (pre ++ (key, node) :: post)) (.obj (pre ++ (key, node') :: post))
  | items (h : ∀ s nodes, node ≠ .arr s nodes) (h' : ∀ s nodes, node' ≠ .arr s nodes) :
    Slot node node' "items" node node'

/-- No constraint is read off the value under the key: its form is wrong, or the key is no keyword. -/
structure Ignored (key : String) (value : Value) : Prop where
  any : key ∉ ["$ref", "type", "items"]
  list : key ∈ ["required", "enum", "anyOf", "oneOf", "allOf"] → ∀ s vs, value ≠ .arr s vs
  mapping : key = "properties" → ∀ entries, value ≠ .obj entries

/-- The two differ in the place of one node, where the first has `old` and the second has `new`. What is
ignored may differ in any way. A value in an `enum` is no node. -/
inductive Replaced (old new : Value) : Value → Value → Prop
  | here : Replaced old new old new
  | item {node node' : Value} (s : Sequence) (pre post : List Value) (h : Replaced old new node node') :
    Replaced old new (.arr s (pre ++ node :: post)) (.arr s (pre ++ node' :: post))
  | keyword {key : String} {node node' value value' : Value} {pre : List (String × Value)}
    (post : List (String × Value)) (hp : pre.lookup key = none) (hs : Slot node node' key value value')
    (h : Replaced old new node node') :
    Replaced old new (.obj (pre ++ (key, value) :: post)) (.obj (pre ++ (key, value') :: post))
  | ignored {key : String} {value value' : Value} {pre : List (String × Value)} (post : List (String × Value))
    (hp : pre.lookup key = none) (h : Ignored key value) (h' : Ignored key value') :
    Replaced old new (.obj (pre ++ (key, value) :: post)) (.obj (pre ++ (key, value') :: post))

section Symmetry

variable {old new node node' value value' : Value} {key : String}

theorem Slot.symm (h : Slot node node' key value value') : Slot node' node key value' value := by
  cases h with
  | element s pre post hk => exact .element s pre post hk
  | property key pre post => exact .property key pre post
  | items h h' => exact .items h' h

theorem Replaced.symm (h : Replaced old new node node') : Replaced new old node' node := by
  induction h with
  | here => exact .here
  | item s pre post _ ih => exact .item s pre post ih
  | keyword post hp hs _ ih => exact .keyword post hp hs.symm ih
  | ignored post hp h h' => exact .ignored post hp h' h

end Symmetry

/-! ## Keywords on their own -/

theorem Entries.lookup_single {key k : String} {value w : Value} (hl : [(key, value)].lookup k = some w) :
    key = k ∧ value = w := by
  rw [Entries.lookup_cons] at hl
  split at hl
  · next hk =>
    cases hl
    exact ⟨hk.symm, rfl⟩
  · cases hl

theorem Entries.lookup_middle {key : String} {value : Value} {pre : List (String × Value)}
    (post : List (String × Value)) (hp : pre.lookup key = none) (k : String) :
    (pre ++ (key, value) :: post).lookup k = if k = key then some value else (pre ++ post).lookup k := by
  rw [List.lookup_append, Entries.lookup_cons, List.lookup_append]
  by_cases hk : k = key
  · subst hk
    rw [hp, if_pos rfl, if_pos rfl]
    rfl
  · rw [if_neg hk, if_neg hk]

theorem Entries.forall_lookup_middle {key : String} {value : Value} {pre : List (String × Value)}
    (post : List (String × Value)) (hp : pre.lookup key = none) {P : String → Value → Prop} :
    (∀ k w, (pre ++ (key, value) :: post).lookup k = some w → P k w) ↔
      P key value ∧ ∀ k w, k ≠ key → (pre ++ post).lookup k = some w → P k w := by
  simp only [Entries.lookup_middle post hp]
  constructor
  · intro h
    refine ⟨h key value (if_pos rfl), fun k w hk hl => h k w ?_⟩
    rw [if_neg hk, hl]
  · rintro ⟨hkey, hrest⟩ k w hl
    split at hl
    · next hk =>
      cases hl
      rw [hk]
      exact hkey
    · next hk => exact hrest k w hk hl

/-- What the one has under a key, the other has under it as well. -/
def Uses (entries entries' : List (String × Value)) : Prop :=
  ∀ key value, entries.lookup key = some value → entries'.lookup key = some value

theorem uses_single {key : String} {value : Value} {entries : List (String × Value)}
    (hl : entries.lookup key = some value) : Uses [(key, value)] entries := by
  intro k w hw
  obtain ⟨rfl, rfl⟩ := Entries.lookup_single hw
  exact hl

section Obeys

variable {Ref Sub : Value → Value → Prop} {entries entries' : List (String × Value)} {x : Value}

theorem Uses.obeys (h : Uses entries entries') (ho : Obeys Ref Sub entries' x) : Obeys Ref Sub entries x where
  ref r hl := ho.ref r (h _ _ hl)
  type spec hl := ho.type spec (h _ _ hl)
  required s names hl := ho.required s names (h _ _ hl)
  properties fields hl := ho.properties fields (h _ _ hl)
  items node hl := ho.items node (h _ _ hl)
  enum s values hl := ho.enum s values (h _ _ hl)
  anyOf s nodes hl := ho.anyOf s nodes (h _ _ hl)
  oneOf s nodes hl := ho.oneOf s nodes (h _ _ hl)
  allOf s nodes hl := ho.allOf s nodes (h _ _ hl)

/-- A mapping asks for what its keywords ask for. -/
theorem obeys_iff : Obeys Ref Sub entries x ↔
    ∀ key value, entries.lookup key = some value → Obeys Ref Sub [(key, value)] x := by
  constructor
  · exact fun ho key value hl => (uses_single hl).obeys ho
  · intro h
    exact {
      ref := fun r hl => (h _ _ hl).ref r List.lookup_cons_self
      type := fun spec hl => (h _ _ hl).type spec List.lookup_cons_self
      required := fun s names hl => (h _ _ hl).required s names List.lookup_cons_self
      properties := fun fields hl => (h _ _ hl).properties fields List.lookup_cons_self
      items := fun node hl => (h _ _ hl).items node List.lookup_cons_self
      enum := fun s values hl => (h _ _ hl).enum s values List.lookup_cons_self
      anyOf := fun s nodes hl => (h _ _ hl).anyOf s nodes List.lookup_cons_self
      oneOf := fun s nodes hl => (h _ _ hl).oneOf s nodes List.lookup_cons_self
      allOf := fun s nodes hl => (h _ _ hl).allOf s nodes List.lookup_cons_self }

end Obeys

theorem getElem?_middle {α : Type} {a b c : α} {pre post : List α} {i : Nat} (h : (pre ++ a :: post)[i]? = some c) :
    (pre ++ b :: post)[i]? = some c ∨ c = a ∧ (pre ++ b :: post)[i]? = some b := by
  induction pre generalizing i with
  | nil =>
    cases i with
    | zero =>
      cases h
      exact .inr ⟨rfl, rfl⟩
    | succ i => exact .inl h
  | cons d pre ih =>
    cases i with
    | zero => exact .inl h
    | succ i => exact ih h

section Meaning

variable {Ref Sub : Value → Value → Prop} {node node' value value' x : Value} {key : String}

theorem items_iff {ys : List Value} (h : ∀ s nodes, node ≠ .arr s nodes) :
    Items Sub node ys ↔ ∀ y ∈ ys, Sub node y := by
  cases node with
  | arr s nodes => exact (h s nodes rfl).elim
  | _ => rfl

theorem Slot.obeys (hs : Slot node node' key value value') (h : ∀ y, Sub node y ↔ Sub node' y)
    (ho : Obeys Ref Sub [(key, value)] x) : Obeys Ref Sub [(key, value')] x := by
  -- neither mapping has any other keyword, so for those nothing is to be shown
  cases hs with
  | element s pre post hk =>
    have hall : (∀ n ∈ pre ++ node :: post, Sub n x) → ∀ n ∈ pre ++ node' :: post, Sub n x := by
      simp only [List.forall_mem_append, List.forall_mem_cons, h, imp_self]
    have hany : (∃ n ∈ pre ++ node :: post, Sub n x) → ∃ n ∈ pre ++ node' :: post, Sub n x := by
      simp only [List.mem_append, List.mem_cons, or_and_right, exists_or, exists_eq_left, h, imp_self]
    simp only [List.mem_cons, List.not_mem_nil, or_false] at hk
    rcases hk with rfl | rfl | rfl | rfl
    · refine { ho with anyOf := fun s nodes hl => ?_ }
      cases hl
      exact hany (ho.anyOf _ _ rfl)
    · refine { ho with oneOf := fun s nodes hl => ?_ }
      cases hl
      exact hany (ho.oneOf _ _ rfl)
    · refine { ho with allOf := fun s nodes hl => ?_ }
      cases hl
      exact hall (ho.allOf _ _ rfl)
    · refine { ho with items := fun n hl => ?_ }
      cases hl
      obtain ⟨t, ys, rfl, hys⟩ := ho.items _ rfl
      refine ⟨t, ys, rfl, fun i n y hn hy => ?_⟩
      rcases getElem?_middle hn with hn | ⟨rfl, hn⟩
      · exact hys i n y hn hy
      · exact (h y).1 (hys i node y hn hy)
  | property k pre post =>
    refine { ho with properties := fun fields hl hne => ?_ }
    cases hl
    obtain ⟨own, rfl, hown⟩ := ho.properties _ rfl (by simp)
    refine ⟨own, rfl, ?_⟩
    simp only [List.mem_append, List.mem_cons, Prod.mk.injEq] at hown ⊢
    rintro k' n (hn | ⟨rfl, rfl⟩ | hn) y hy
    · exact hown k' n (.inl hn) y hy
    · exact (h y).1 (hown k' node (.inr (.inl ⟨rfl, rfl⟩)) y hy)
    · exact hown k' n (.inr (.inr hn)) y hy
  | items hne hne' =>
    refine { ho with items := fun n hl => ?_ }
    cases hl
    obtain ⟨s, ys, rfl, hys⟩ := ho.items _ rfl
    refine ⟨s, ys, rfl, ?_⟩
    rw [items_iff hne] at hys
    rw [items_iff hne']
    exact fun y hy => (h y).1 (hys y hy)

/-- What is ignored asks for nothing. -/
theorem Ignored.obeys (h : Ignored key value) : Obeys Ref Sub [(key, value)] x where
  ref r hl := by
    obtain ⟨rfl, rfl⟩ := Entries.lookup_single hl
    exact absurd (by decide) h.any
  type spec hl := by
    obtain ⟨rfl, rfl⟩ := Entries.lookup_single hl
    exact absurd (by decide) h.any
  required s names hl := by
    obtain ⟨rfl, rfl⟩ := Entries.lookup_single hl
    exact absurd rfl (h.list (by decide) s names)
  properties fields hl := by
    obtain ⟨rfl, rfl⟩ := Entries.lookup_single hl
    exact absurd rfl (h.mapping rfl fields)
  items node hl := by
    obtain ⟨rfl, rfl⟩ := Entries.lookup_single hl
    exact absurd (by decide) h.any
  enum s values hl := by
    obtain ⟨rfl, rfl⟩ := Entries.lookup_single hl
    exact absurd rfl (h.list (by decide) s values)
  anyOf s nodes hl := by
    obtain ⟨rfl, rfl⟩ := Entries.lookup_single hl
    exact absurd rfl (h.list (by decide) s nodes)
  oneOf s nodes hl := by
    obtain ⟨rfl, rfl⟩ := Entries.lookup_single hl
    exact absurd rfl (h.list (by decide) s nodes)
  allOf s nodes hl := by
    obtain ⟨rfl, rfl⟩ := Entries.lookup_single hl
    exact absurd rfl (h.list (by decide) s nodes)

end Meaning

/-! ## The same values -/

section Accepts

variable {table : Option Definitions} {old new node node' value value' x : Value} {key : String}

theorem accepts_mapping {entries : List (String × Value)} : Accepts table (.obj entries) x ↔
    ∀ key value, entries.lookup key = some value → Accepts table (.obj [(key, value)]) x := by
  have hlayer : ∀ entries, Accepts table (.obj entries) x ↔
      Obeys (Follow table (Accepts table)) (Accepts table) entries x := fun _ => accepts_iff
  simp only [hlayer]
  exact obeys_iff

theorem Slot.accepts (hs : Slot node node' key value value') (h : ∀ y, Accepts table node y ↔ Accepts table node' y) :
    Accepts table (.obj [(key, value)]) x ↔ Accepts table (.obj [(key, value')]) x := by
  rw [accepts_iff, accepts_iff]
  exact ⟨hs.obeys h, hs.symm.obeys fun y => (h y).symm⟩

/-- Putting a node for another that accepts the same values leaves what the whole accepts as it is. -/
theorem Replaced.accepts (hr : Replaced old new node node') (h : ∀ y, Accepts table old y ↔ Accepts table new y) :
    ∀ x, Accepts table node x ↔ Accepts table node' x := by
  induction hr with
  | here => exact h
  | item s pre post _ ih =>
    intro x
    rw [accepts_iff, accepts_iff]
    simp only [Layer, List.forall_mem_append, List.forall_mem_cons, ih]
  | keyword post hp hs _ ih =>
    intro x
    rw [accepts_mapping, accepts_mapping, Entries.forall_lookup_middle post hp, Entries.forall_lookup_middle post hp,
      hs.accepts ih]
  | ignored post hp h h' =>
    intro x
    rw [accepts_mapping, accepts_mapping, Entries.forall_lookup_middle post hp, Entries.forall_lookup_middle post hp]
    exact and_congr_left fun _ => iff_of_true (accepts_iff.2 h.obeys) (accepts_iff.2 h'.obeys)

end Accepts

/-! ## The same demands -/

section Demands

variable {old new node node' value value' p : Value} {key : String} {entries entries' : List (String × Value)}
  {deep : Bool} {d : Demand}

theorem Uses.asks (h : Uses entries entries') (ha : Asks (.obj entries) d) : Asks (.obj entries') d := by
  cases ha with
  | reference hl => exact .reference (h _ _ hl)
  | type hl => exact .type (h _ _ hl)

theorem Uses.part (h : Uses entries entries') (hp : Part deep (.obj entries) p) : Part deep (.obj entries') p := by
  refine hp.imp (fun hp => ?_) (And.imp_right fun hp => ?_)
  · cases hp with
    | keyword hk hl hn => exact .keyword hk (h _ _ hl) hn
  · cases hp with
    | property hl hn => exact .property (h _ _ hl) hn
    | items hl hn => exact .items (h _ _ hl) hn
    | position hl hn => exact .position (h _ _ hl) hn

theorem Uses.demands (h : Uses entries entries') (hd : d ∈ (Schema.ofValue (.obj entries)).demands deep) :
    d ∈ (Schema.ofValue (.obj entries')).demands deep := by
  rw [Schema.mem_demands_ofValue] at hd ⊢
  rcases hd with ha | ⟨p, hp, hd⟩
  · exact .inl (h.asks ha)
  · exact .inr ⟨p, h.part hp, hd⟩

/-- What stands in a mapping stands under one of its keywords. -/
theorem mem_demands_mapping : d ∈ (Schema.ofValue (.obj entries)).demands deep ↔
    ∃ key value, entries.lookup key = some value ∧ d ∈ (Schema.ofValue (.obj [(key, value)])).demands deep := by
  constructor
  · intro hd
    rcases Schema.mem_demands_ofValue.1 hd with ha | ⟨p, hp, hd⟩
    · cases ha with
      | reference hl =>
        exact ⟨_, _, hl, Schema.mem_demands_ofValue.2 (.inl (.reference List.lookup_cons_self))⟩
      | type hl => exact ⟨_, _, hl, Schema.mem_demands_ofValue.2 (.inl (.type List.lookup_cons_self))⟩
    · have hpart : ∃ key value, entries.lookup key = some value ∧ Part deep (.obj [(key, value)]) p := by
        rcases hp with hp | ⟨hdeep, hp⟩
        · cases hp with
          | keyword hk hl hn => exact ⟨_, _, hl, .inl (.keyword hk List.lookup_cons_self hn)⟩
        · cases hp with
          | property hl hn => exact ⟨_, _, hl, .inr ⟨hdeep, .property List.lookup_cons_self hn⟩⟩
          | items hl hn => exact ⟨_, _, hl, .inr ⟨hdeep, .items List.lookup_cons_self hn⟩⟩
          | position hl hn => exact ⟨_, _, hl, .inr ⟨hdeep, .position List.lookup_cons_self hn⟩⟩
      obtain ⟨key, value, hl, hp⟩ := hpart
      exact ⟨key, value, hl, Schema.mem_demands_ofValue.2 (.inr ⟨p, hp, hd⟩)⟩
  · rintro ⟨key, value, hl, hd⟩
    exact (uses_single hl).demands hd

/-- Another value under a key changes no demands but those of the key. -/
theorem mem_demands_middle {pre : List (String × Value)} (value : Value) (post : List (String × Value))
    (hp : pre.lookup key = none) (hd : d ∈ (Schema.ofValue (.obj (pre ++ (key, value') :: post))).demands deep) :
    d ∈ (Schema.ofValue (.obj [(key, value')])).demands deep ∨
      d ∈ (Schema.ofValue (.obj (pre ++ (key, value) :: post))).demands deep := by
  obtain ⟨k, w, hl, hd⟩ := mem_demands_mapping.1 hd
  rw [Entries.lookup_middle post hp] at hl
  split at hl
  · next hk =>
    cases hl
    cases hk
    exact .inl hd
  · next hk => exact .inr (mem_demands_mapping.2 ⟨k, w, by rw [Entries.lookup_middle post hp, if_neg hk, hl], hd⟩)

theorem mem_demands_list {s : Sequence} {nodes : List Value} : d ∈ (Schema.ofValue (.arr s nodes)).demands deep ↔
    ∃ node ∈ nodes, d ∈ (Schema.ofValue node).demands deep := by
  rw [Schema.ofValue, Schema.read_list]
  exact Schema.mem_demands_nodes

/-- What stands in a mapping with a single key. -/
theorem part_single : Part true (.obj [(key, value)]) p ↔
    (key ∈ ["anyOf", "oneOf", "allOf", "items"] ∧ ∃ s nodes, value = .arr s nodes ∧ p ∈ nodes) ∨
      (key = "properties" ∧ ∃ fields name, value = .obj fields ∧ (name, p) ∈ fields) ∨
      (key = "items" ∧ value = p ∧ ∀ s nodes, p ≠ .arr s nodes) := by
  constructor
  · rintro (hp | ⟨_, hp⟩)
    · cases hp with
      | keyword hk hl hn =>
        obtain ⟨rfl, rfl⟩ := Entries.lookup_single hl
        exact .inl ⟨List.mem_append_left ["items"] hk, _, _, rfl, hn⟩
    · cases hp with
      | property hl hn =>
        obtain ⟨rfl, rfl⟩ := Entries.lookup_single hl
        exact .inr (.inl ⟨rfl, _, _, rfl, hn⟩)
      | items hl hne =>
        obtain ⟨rfl, rfl⟩ := Entries.lookup_single hl
        exact .inr (.inr ⟨rfl, rfl, hne⟩)
      | position hl hn =>
        obtain ⟨rfl, rfl⟩ := Entries.lookup_single hl
        exact .inl ⟨by decide, _, _, rfl, hn⟩
  · rintro (⟨hk, s, nodes, rfl, hn⟩ | ⟨rfl, fields, name, rfl, hn⟩ | ⟨rfl, rfl, hne⟩)
    · simp only [List.mem_cons, List.not_mem_nil, or_false] at hk
      rcases hk with rfl | rfl | rfl | rfl
      · exact .inl (.keyword (by decide) List.lookup_cons_self hn)
      · exact .inl (.keyword (by decide) List.lookup_cons_self hn)
      · exact .inl (.keyword (by decide) List.lookup_cons_self hn)
      · exact .inr ⟨rfl, .position List.lookup_cons_self hn⟩
    · exact .inr ⟨rfl, .property List.lookup_cons_self hn⟩
    · exact .inr ⟨rfl, .items List.lookup_cons_self hne⟩

/-- What a keyword holds in a slot stands in the node. -/
theorem Slot.part (hs : Slot node node' key value value') : Part true (.obj [(key, value)]) node := by
  rw [part_single]
  cases hs with
  | element s pre post hk => exact .inl ⟨hk, s, _, rfl, by simp⟩
  | property k pre post => exact .inr (.inl ⟨rfl, _, k, rfl, by simp⟩)
  | items h _ => exact .inr (.inr ⟨rfl, rfl, h⟩)

theorem mem_middle {α : Type} {a b c : α} {pre post : List α} (h : c ∈ pre ++ a :: post) :
    c = a ∨ c ∈ pre ++ b :: post := by
  simp only [List.mem_append, List.mem_cons] at h ⊢
  rcases h with h | h | h
  · exact .inr (.inl h)
  · exact .inl h
  · exact .inr (.inr (.inr h))

/-- All else that the keyword holds is the same. -/
theorem Slot.part_or (hs : Slot node node' key value value') (hp : Part true (.obj [(key, value')]) p) :
    p = node' ∨ Part true (.obj [(key, value)]) p := by
  rw [part_single] at hp ⊢
  cases hs with
  | element s pre post hk =>
    rcases hp with ⟨_, _, _, hv, hn⟩ | ⟨_, _, _, hv, _⟩ | ⟨_, hv, hne⟩
    · cases hv
      exact (mem_middle hn).imp_right fun hn => .inl ⟨hk, s, _, rfl, hn⟩
    · cases hv
    · exact absurd hv.symm (hne _ _)
  | property k pre post =>
    rcases hp with ⟨hk, _⟩ | ⟨_, _, name, hv, hn⟩ | ⟨hk, _⟩
    · exact absurd hk (by decide)
    · cases hv
      rcases mem_middle hn with hn | hn
      · cases hn
        exact .inl rfl
      · exact .inr (.inr (.inl ⟨rfl, _, name, rfl, hn⟩))
    · exact absurd hk (by decide)
  | items _ hne =>
    rcases hp with ⟨_, _, _, hv, _⟩ | ⟨hk, _⟩ | ⟨_, hv, _⟩
    · exact absurd hv (hne _ _)
    · exact absurd hk (by decide)
    · exact .inl hv.symm

theorem Slot.not_asks (hs : Slot node node' key value value') : ¬ Asks (.obj [(key, value')]) d := by
  intro ha
  cases hs with
  | element s pre post hk =>
    simp only [List.mem_cons, List.not_mem_nil, or_false] at hk
    rcases hk with rfl | rfl | rfl | rfl <;> cases ha <;> contradiction
  | property k pre post => cases ha <;> contradiction
  | items _ _ => cases ha <;> contradiction

theorem Slot.demands (hs : Slot node node' key value value')
    (hd : d ∈ (Schema.ofValue (.obj [(key, value')])).demands true) :
    d ∈ (Schema.ofValue (.obj [(key, value)])).demands true ∨ d ∈ (Schema.ofValue node').demands true := by
  rcases Schema.mem_demands_ofValue.1 hd with ha | ⟨p, hp, hd⟩
  · exact absurd ha hs.not_asks
  · rcases hs.part_or hp with rfl | hp
    · exact .inr hd
    · exact .inl (Schema.mem_demands_ofValue.2 (.inr ⟨p, hp, hd⟩))

theorem Ignored.not_mem_demands (h : Ignored key value) : d ∉ (Schema.ofValue (.obj [(key, value)])).demands true := by
  intro hd
  rcases Schema.mem_demands_ofValue.1 hd with ha | ⟨p, hp, _⟩
  · cases ha with
    | reference hl =>
      obtain ⟨rfl, rfl⟩ := Entries.lookup_single hl
      exact absurd (by decide) h.any
    | type hl =>
      obtain ⟨rfl, rfl⟩ := Entries.lookup_single hl
      exact absurd (by decide) h.any
  · rcases part_single.1 hp with ⟨hk, s, nodes, rfl, _⟩ | ⟨rfl, fields, _, rfl, _⟩ | ⟨rfl, _, _⟩
    · simp only [List.mem_cons, List.not_mem_nil, or_false] at hk
      rcases hk with rfl | rfl | rfl | rfl
      · exact h.list (by decide) s nodes rfl
      · exact h.list (by decide) s nodes rfl
      · exact h.list (by decide) s nodes rfl
      · exact h.any (by decide)
    · exact h.mapping rfl fields rfl
    · exact h.any (by decide)

/-- Putting a node for another leaves no demands but those there were, or else those of the new node,
where those of the old one were among them. -/
theorem Replaced.demands (hr : Replaced old new node node') (hd : d ∈ (Schema.ofValue node').demands true) :
    d ∈ (Schema.ofValue node).demands true ∨ d ∈ (Schema.ofValue new).demands true ∧
      ∀ e ∈ (Schema.ofValue old).demands true, e ∈ (Schema.ofValue node).demands true := by
  induction hr with
  | here => exact .inr ⟨hd, fun _ he => he⟩
  | @item node node' s pre post _ ih =>
    have hin : ∀ {e : Demand}, e ∈ (Schema.ofValue node).demands true →
        e ∈ (Schema.ofValue (.arr s (pre ++ node :: post))).demands true := fun he =>
      mem_demands_list.2 ⟨node, by simp, he⟩
    obtain ⟨n, hn, hdn⟩ := mem_demands_list.1 hd
    rcases mem_middle hn with rfl | hn
    · exact (ih hdn).imp hin (And.imp_right fun hold e he => hin (hold e he))
    · exact .inl (mem_demands_list.2 ⟨n, hn, hdn⟩)
  | @keyword key node node' value value' pre post hp hs _ ih =>
    have hkey : ∀ {e : Demand}, e ∈ (Schema.ofValue (.obj [(key, value)])).demands true →
        e ∈ (Schema.ofValue (.obj (pre ++ (key, value) :: post))).demands true := fun he =>
      mem_demands_mapping.2 ⟨key, value, by rw [Entries.lookup_middle post hp, if_pos rfl], he⟩
    have hin : ∀ {e : Demand}, e ∈ (Schema.ofValue node).demands true →
        e ∈ (Schema.ofValue (.obj (pre ++ (key, value) :: post))).demands true := fun he =>
      hkey (Schema.mem_demands_ofValue.2 (.inr ⟨node, hs.part, he⟩))
    rcases mem_demands_middle value post hp hd with hd | hd
    · rcases hs.demands hd with hd | hdn
      · exact .inl (hkey hd)
      · exact (ih hdn).imp hin (And.imp_right fun hold e he => hin (hold e he))
    · exact .inl hd
  | @ignored key value value' pre post hp _ h' =>
    rcases mem_demands_middle value post hp hd with hd | hd
    · exact absurd hd h'.not_mem_demands
    · exact .inl hd

end Demands

end Conformance
