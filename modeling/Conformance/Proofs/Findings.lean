import Conformance.Proofs.Places
import Conformance.Proofs.Subchecks
/-!
# What a diagnosis finds

A diagnosis looks at checks of parts of the value, and at keys that have to be there. Its failure
has the failures that it finds there for children, in the order in which it looks; it is a leaf only
if the value is not what the check asks for, or if there is no branch to look at.
-/

namespace Conformance.Validator

/-! ## Looks -/

/-- What a diagnosis looks at: another check, of the part of the value under the label, or a key that
must be there and is not. -/
inductive Look where
  | check (label : Option Label) (v : Validator) (x : Value)
  | lack (key : String)

def fieldLook (coverage : Coverage) (entries : List (String × Value)) (field : String × Validator) : List Look :=
  match entries.lookup field.1 with
  | some y => [.check (some (.key field.1)) field.2 y]
  | none =>
    match coverage with
    | .full => [.lack field.1]
    | .present => []

/-- What the diagnosis of a value looks at, if the value is of the form that the check asks for. -/
def looks? : Validator → Value → Option (List Look)
  | all members, x | any members, x => some (members.map (.check none · x))
  | hasKey key, .obj entries => some (if Entries.has key entries then [] else [.lack key])
  | shape coverage fields, .obj entries => some (fields.flatMap (fieldLook coverage entries))
  | arrayOf element, .arr _ items => some (items.zipIdx.map fun (y, i) => .check (some (.index i)) element y)
  | tupleOf positions, .arr _ items =>
    some ((positions.zip items).zipIdx.map fun ((v, y), i) => .check (some (.index i)) v y)
  | _, _ => none

section Found

variable (enter : Body → Value → Option (Option Diagnostic)) (x : Value)

/-- What is found in one look, in a diagnosis of `x`. -/
def found : Look → List Diagnostic
  | .check label v y => ((diagnoseWith enter v y).join.map (·.placed label)).toList
  | .lack key => [.missing x key]

end Found

variable {enter : Body → Value → Option (Option Diagnostic)} {v : Validator} {x : Value}

/-- What a diagnosis keeps of one thing stands in front of what it keeps of the rest. -/
theorem kept_cons {d : Option (Option Diagnostic)} {keep : Option Diagnostic → List Diagnostic}
    {ds : Option (List Diagnostic)} {all : List Diagnostic}
    (h : (do let d ← d; let ds ← ds; pure (keep d ++ ds)) = some all) :
    ∃ d₀ ds₀, d = some d₀ ∧ ds = some ds₀ ∧ all = keep d₀ ++ ds₀ := by
  obtain ⟨d₀, hd, h⟩ := Option.bind_eq_some_iff.1 h
  obtain ⟨ds₀, hds, h⟩ := Option.bind_eq_some_iff.1 h
  cases h
  exact ⟨d₀, ds₀, hd, hds, rfl⟩

theorem found_all {vs : List Validator} {ds : List Diagnostic} (h : diagnoseAll enter vs x = some ds) :
    ds = (vs.map (.check none · x)).flatMap (found enter x) := by
  induction vs generalizing ds with
  | nil => cases h; rfl
  | cons v vs ih =>
    obtain ⟨d, ds, hd, hds, rfl⟩ := kept_cons h
    rw [ih hds]
    cases d <;> simp [found, hd, Diagnostic.placed]

theorem found_any {vs : List Validator} {ds : List Diagnostic} (h : diagnoseAny enter vs x = some (some ds)) :
    ds = (vs.map (.check none · x)).flatMap (found enter x) ∧ (ds = [] → vs = []) := by
  induction vs generalizing ds with
  | nil => cases h; exact ⟨rfl, fun _ => rfl⟩
  | cons v vs ih =>
    obtain ⟨d, hd, h⟩ := Option.bind_eq_some_iff.1 h
    cases d with
    | none => cases h
    | some d =>
      -- all members have failed, so none of them was left out
      obtain ⟨ds, hds, h⟩ := Option.bind_eq_some_iff.1 h
      obtain ⟨es, rfl, rfl⟩ := Option.map_eq_some_iff.1 (Option.some.inj h)
      refine ⟨?_, nofun⟩
      rw [(ih hds).1]
      simp [found, hd, Diagnostic.placed]

theorem found_fields {coverage : Coverage} {fields : List (String × Validator)} {entries : List (String × Value)}
    {ds : List Diagnostic} (h : diagnoseFields enter coverage fields entries = some ds) :
    ds = (fields.flatMap (fieldLook coverage entries)).flatMap (found enter (.obj entries)) := by
  induction fields generalizing ds with
  | nil => cases h; rfl
  | cons field fields ih =>
    obtain ⟨key, v⟩ := field
    simp only [diagnoseFields] at h
    rw [List.flatMap_cons, List.flatMap_append]
    cases hl : entries.lookup key with
    | none =>
      rw [hl] at h
      obtain ⟨ds, hds, h⟩ := Option.bind_eq_some_iff.1 h
      cases h
      rw [← ih hds]
      cases coverage <;> simp [fieldLook, hl, found]
    | some y =>
      rw [hl] at h
      obtain ⟨d, ds, hd, hds, rfl⟩ := kept_cons h
      rw [← ih hds]
      simp [fieldLook, hl, found, hd, Diagnostic.placed]

theorem found_items {xs : List Value} {position : Nat} {ds : List Diagnostic}
    (h : diagnoseItems (diagnoseWith enter v) position xs = some ds) :
    ds = ((xs.zipIdx position).map fun (y, i) => .check (some (.index i)) v y).flatMap (found enter x) := by
  induction xs generalizing position ds with
  | nil => cases h; rfl
  | cons y xs ih =>
    obtain ⟨d, ds, hd, hds, rfl⟩ := kept_cons h
    rw [ih hds]
    simp [found, hd, Diagnostic.placed]

theorem found_positions {vs : List Validator} {xs : List Value} {position : Nat} {ds : List Diagnostic}
    (h : diagnosePositions enter position vs xs = some ds) :
    ds = (((vs.zip xs).zipIdx position).map fun ((v, y), i) => .check (some (.index i)) v y).flatMap
      (found enter x) := by
  induction vs generalizing xs position ds with
  | nil => cases h; rfl
  | cons v vs ih =>
    cases xs with
    | nil => cases h; rfl
    | cons y xs =>
      obtain ⟨d, ds, hd, hds, rfl⟩ := kept_cons h
      rw [ih hds]
      simp [found, hd, Diagnostic.placed]

/-! ## One layer of a diagnosis -/

/-- A diagnosis that looks at several things, all of which have to be right. -/
theorem diagnosis_of_looks {looks : List Look} {r : Option Diagnostic} (hl : v.looks? x = some looks)
    (hv : ∀ members, v ≠ .any members) (h : diagnoseWith enter v x = some r) :
    r = Diagnostic.ofChildren v.name x (looks.flatMap (found enter x)) := by
  unfold looks? at hl
  split at hl
  all_goals cases hl
  · obtain ⟨ds, hds, h⟩ := Option.bind_eq_some_iff.1 h
    cases h
    rw [found_all hds]
    rfl
  · exact absurd rfl (hv _)
  · cases h
    split <;> rfl
  · obtain ⟨ds, hds, h⟩ := Option.bind_eq_some_iff.1 h
    cases h
    rw [found_fields hds]
    rfl
  · obtain ⟨ds, hds, h⟩ := Option.bind_eq_some_iff.1 h
    cases h
    rw [← found_items hds]
    rfl
  · obtain ⟨ds, hds, h⟩ := Option.bind_eq_some_iff.1 h
    cases h
    rw [← found_positions hds]
    rfl

/-- A failure has what was found for children. There is always something, but for a disjunction that has
no branches. -/
theorem failure_of_looks {looks : List Look} {d : Diagnostic} (hl : v.looks? x = some looks)
    (h : diagnoseWith enter v x = some (some d)) :
    d = .node v.name x (looks.flatMap (found enter x)) none ∧
      (looks.flatMap (found enter x) = [] → v = .any []) := by
  -- a disjunction keeps its failures whether there are any or not
  by_cases hv : ∃ members, v = .any members
  · obtain ⟨members, rfl⟩ := hv
    cases hl
    obtain ⟨r, hr, h⟩ := Option.bind_eq_some_iff.1 h
    obtain ⟨ds, rfl, rfl⟩ := Option.map_eq_some_iff.1 (Option.some.inj h)
    obtain ⟨hds, hnil⟩ := found_any hr
    rw [← hds]
    exact ⟨rfl, fun h => by rw [hnil h]⟩
  · have hchildren := diagnosis_of_looks hl (fun members hm => hv ⟨members, hm⟩) h
    unfold Diagnostic.ofChildren at hchildren
    split at hchildren
    · cases hchildren
    · next hne =>
      cases hchildren
      exact ⟨rfl, fun h => absurd h hne⟩

/-- The value is not what the check asks for, before anything else is looked at. -/
inductive Refuses : Validator → Value → Prop
  | kind {kind : Kind} {x : Value} (h : x.hasKind kind = false) : Refuses (.guard kind) x
  | literal {expected x : Value} (h : x.same expected = false) : Refuses (.literal expected) x
  | key {key : String} {x : Value} (h : x.hasKind .object = false) : Refuses (.hasKey key) x
  | fields {coverage : Coverage} {fields : List (String × Validator)} {x : Value} (h : x.hasKind .object = false) :
    Refuses (.shape coverage fields) x
  | element {v : Validator} {x : Value} (h : x.hasKind .array = false) : Refuses (.arrayOf v) x
  | positions {vs : List Validator} {x : Value} (h : x.hasKind .array = false) : Refuses (.tupleOf vs) x
  | choice {x : Value} : Refuses (.any []) x

theorem leafUnless_eq_some {holds : Bool} {operator : String} {d : Diagnostic}
    (h : leafUnless holds operator x = some d) : d = .leaf operator x ∧ holds = false := by
  cases holds with
  | true => cases h
  | false => cases h; exact ⟨rfl, rfl⟩

/-- A failure of a check that looks at nothing is a leaf. -/
theorem failure_of_no_looks {d : Diagnostic} (hl : v.looks? x = none) (hb : v.body? = none)
    (h : diagnoseWith enter v x = some (some d)) : d = .leaf v.name x ∧ v.Refuses x := by
  cases v with
  | anything => cases h
  | guard kind =>
    obtain ⟨rfl, hk⟩ := leafUnless_eq_some (Option.some.inj h)
    exact ⟨rfl, .kind hk⟩
  | literal expected =>
    obtain ⟨rfl, hs⟩ := leafUnless_eq_some (Option.some.inj h)
    exact ⟨rfl, .literal hs⟩
  | all members => cases hl
  | any members => cases hl
  | deferred name body => cases hb
  | reference scope name target => cases hb
  | hasKey key =>
    cases x with
    | obj entries => cases hl
    | _ => cases h; exact ⟨rfl, .key rfl⟩
  | shape coverage fields =>
    cases x with
    | obj entries => cases hl
    | _ => cases h; exact ⟨rfl, .fields rfl⟩
  | arrayOf element =>
    cases x with
    | arr s items => cases hl
    | _ => cases h; exact ⟨rfl, .element rfl⟩
  | tupleOf positions =>
    cases x with
    | arr s items => cases hl
    | _ => cases h; exact ⟨rfl, .positions rfl⟩

theorem diagnoseWith_body {m : Type → Type} [Monad m] {enter : Body → Value → m (Option Diagnostic)} {b : Body}
    (hb : v.body? = some b) : diagnoseWith enter v x = enter b x := by
  cases v <;> cases hb <;> rfl

/-! ## Looks and steps -/

/-- The check asks an object for the key. -/
def Requires (v : Validator) (key : String) : Prop :=
  v = .hasKey key ∨ ∃ fields w, v = .shape .full fields ∧ (key, w) ∈ fields

/-- The value is an object without the key that the check asks for. -/
def Lacks (v : Validator) (x : Value) (key : String) : Prop :=
  v.Requires key ∧ ∃ entries, x = .obj entries ∧ entries.lookup key = none

theorem lacks_of_look {looks : List Look} {key : String} (hl : v.looks? x = some looks) (h : .lack key ∈ looks) :
    v.Lacks x key := by
  unfold looks? at hl
  split at hl
  all_goals cases hl
  · simp at h
  · simp at h
  · next entries =>
    split at h
    · cases h
    · next hn =>
      cases List.mem_singleton.1 h
      exact ⟨.inl rfl, entries, rfl, Option.not_isSome_iff_eq_none.1 hn⟩
  · next coverage fields entries =>
    obtain ⟨⟨k, w⟩, hf, h⟩ := List.mem_flatMap.1 h
    unfold fieldLook at h
    split at h
    · simp at h
    · next hn =>
      cases coverage with
      | present => cases h
      | full =>
        cases List.mem_singleton.1 h
        exact ⟨.inr ⟨fields, w, rfl, hf⟩, entries, rfl, hn⟩
  · simp at h
  · simp at h

theorem look_of_lacks {key : String} (h : v.Lacks x key) : ∃ looks, v.looks? x = some looks ∧ .lack key ∈ looks := by
  obtain ⟨rfl | ⟨fields, w, rfl, hf⟩, entries, rfl, hn⟩ := h
  · exact ⟨_, rfl, by simp [Entries.has, hn]⟩
  · refine ⟨_, rfl, List.mem_flatMap.2 ⟨(key, w), hf, ?_⟩⟩
    simp [fieldLook, hn]

variable {marks : List Mark} {limit : Nat} {w : Validator} {y : Value} {label : Option Label}

/-- What a diagnosis looks at is one step away, if a disjunction rejects the value. -/
theorem step_of_look {looks : List Look} (hl : v.looks? x = some looks) (h : .check label w y ∈ looks)
    (hr : Rejects marks limit v x) : Step marks limit v x label w y := by
  unfold looks? at hl
  split at hl
  all_goals cases hl
  · obtain ⟨u, hu, he⟩ := List.mem_map.1 h
    cases he
    exact .conjunct hu
  · obtain ⟨u, hu, he⟩ := List.mem_map.1 h
    cases he
    exact .branch hu hr
  · split at h <;> simp at h
  · obtain ⟨⟨k, u⟩, hf, h⟩ := List.mem_flatMap.1 h
    unfold fieldLook at h
    split at h
    · next hl =>
      cases List.mem_singleton.1 h
      exact .field hf hl
    · split at h <;> simp at h
  · obtain ⟨⟨z, i⟩, hz, he⟩ := List.mem_map.1 h
    cases he
    exact .element (List.mem_zipIdx_iff_getElem?.1 hz)
  · obtain ⟨⟨⟨u, z⟩, i⟩, hz, he⟩ := List.mem_map.1 h
    cases he
    obtain ⟨hu, hz⟩ := List.getElem?_zip_eq_some.1 (List.mem_zipIdx_iff_getElem?.1 hz)
    exact .position hu hz

/-- A step that opens nothing is to what a diagnosis looks at. -/
theorem Step.looked (h : Step marks limit v x label w y) (hb : v.body? = none) :
    ∃ looks, v.looks? x = some looks ∧ .check label w y ∈ looks := by
  cases h with
  | conjunct h => exact ⟨_, rfl, List.mem_map.2 ⟨_, h, rfl⟩⟩
  | branch h _ => exact ⟨_, rfl, List.mem_map.2 ⟨_, h, rfl⟩⟩
  | @field coverage fields entries key v y hf hl =>
    refine ⟨_, rfl, List.mem_flatMap.2 ⟨(key, w), hf, ?_⟩⟩
    simp [fieldLook, hl]
  | @element v s items i y hy =>
    have hmem : (y, i) ∈ items.zipIdx := List.mem_zipIdx_iff_getElem?.2 hy
    exact ⟨_, rfl, List.mem_map.2 ⟨(y, i), hmem, rfl⟩⟩
  | @position positions s items i v y hv hy =>
    have hmem : ((w, y), i) ∈ (positions.zip items).zipIdx :=
      List.mem_zipIdx_iff_getElem?.2 (List.getElem?_zip_eq_some.2 ⟨hv, hy⟩)
    exact ⟨_, rfl, List.mem_map.2 ⟨((w, y), i), hmem, rfl⟩⟩
  | through hb' _ =>
    rw [hb] at hb'
    cases hb'

/-! ## More frames -/

/-- What the left side finds, the right side finds. -/
def keeping : Simulation Option Option where
  rel x y := ∀ a, x = some a → y = some a
  pure _ _ h := h
  bind hx hf b hb := by
    obtain ⟨a, ha, hb⟩ := Option.bind_eq_some_iff.1 hb
    exact Option.bind_eq_some_iff.2 ⟨a, hx a ha, hf a b hb⟩

/-- A diagnosis that ends inside a frame ends in the same way when there are more frames. -/
theorem diagnoseIn?_mono {k l : Nat} (hk : k ≤ l) {b : Body} {r : Option Diagnostic}
    (h : diagnoseIn? k b x = some r) : diagnoseIn? l b x = some r := by
  induction k generalizing l b x r with
  | zero => cases h
  | succ k ih =>
    obtain ⟨l, rfl⟩ : ∃ m, l = m + 1 := ⟨l - 1, by omega⟩
    obtain ⟨w, hw, h⟩ := Option.bind_eq_some_iff.1 h
    have hmore : keeping.rel (diagnoseWith (diagnoseIn? k) w x) (diagnoseWith (diagnoseIn? l) w x) :=
      keeping.diagnoseWith w x fun b _ y a ha => ih (by omega) ha
    exact Option.bind_eq_some_iff.2 ⟨w, hw, hmore r h⟩

/-- What an outermost frame gives: where the frames run out, that is its failure. -/
def outermost (limit : Nat) (b : Body) (x : Value) : Option (Option Diagnostic) :=
  some ((diagnoseIn? limit b x).getD (some (recursionLimit x)))

theorem diagnoseWith_outermost (limit : Nat) (v : Validator) (x : Value) :
    diagnoseWith (outermost limit) v x = some (failure? limit v x) :=
  ending.diagnoseWith v x fun _ _ _ => rfl

/-- What a diagnosis finds inside a frame it finds outside of all frames. -/
theorem failure?_of_in {k : Nat} (hk : k ≤ limit) {r : Option Diagnostic}
    (h : diagnoseWith (diagnoseIn? k) v x = some r) : failure? limit v x = r := by
  have hmore : keeping.rel (diagnoseWith (diagnoseIn? k) v x) (diagnoseWith (outermost limit) v x) := by
    refine keeping.diagnoseWith v x fun b _ y a ha => ?_
    rw [outermost, diagnoseIn?_mono hk ha]
    rfl
  have hout := hmore r h
  rw [diagnoseWith_outermost] at hout
  exact Option.some.inj hout

end Conformance.Validator
