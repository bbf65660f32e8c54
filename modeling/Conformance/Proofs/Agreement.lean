import Conformance.Proofs.Answer
/-!
# Agreement

The test stops at the first member that decides, the diagnosis looks into all of them. Where
the diagnosis comes to an end without running out of frames, so does the test, and the two
agree; only a failure that mentions the frame limit leaves the test open. A diagnosis that ends
inside a frame never mentions it.
-/

namespace Conformance

/-! ## Nodes of a failure -/

namespace Diagnostic

mutual

/-- The failure itself and all failures inside it. -/
def nodes : Diagnostic → List Diagnostic
  | node operator value children label => node operator value children label :: nodesAll children

def nodesAll : List Diagnostic → List Diagnostic
  | [] => []
  | d :: ds => nodes d ++ nodesAll ds

end

/-- Somewhere in the failure frames ran out. -/
def Limited (d : Diagnostic) : Prop := ∃ n ∈ d.nodes, n.operator = "recursionLimit"

theorem mem_nodesAll {n : Diagnostic} {ds : List Diagnostic} : n ∈ nodesAll ds ↔ ∃ d ∈ ds, n ∈ d.nodes := by
  induction ds with
  | nil => simp [nodesAll]
  | cons d ds ih => simp [nodesAll, ih]

theorem Limited.node {operator : String} {value : Value} {children : List Diagnostic} {label : Option Label}
    {d : Diagnostic} (hd : d ∈ children) (h : d.Limited) : (node operator value children label).Limited := by
  obtain ⟨n, hn, ho⟩ := h
  exact ⟨n, List.mem_cons_of_mem _ (mem_nodesAll.2 ⟨d, hd, hn⟩), ho⟩

theorem limited_labelled {d : Diagnostic} {label : Option Label} : (d.labelled label).Limited ↔ d.Limited := by
  cases d
  simp [Limited, labelled, nodes, operator]

end Diagnostic

namespace Validator

/-! ## A failure and an answer -/

/-- Yes where there is no failure, no where there is one that mentions no frame limit. -/
def Fits (d : Option Diagnostic) (t : Bool) : Prop :=
  (d = none → t = true) ∧ ∀ tree, d = some tree → ¬ tree.Limited → t = false

/-- The same for the failures of members that all have to pass. -/
def FitsAll (ds : List Diagnostic) (t : Bool) : Prop :=
  (ds = [] → t = true) ∧ (ds ≠ [] → (∀ d ∈ ds, ¬ d.Limited) → t = false)

/-- The same for the failures of members of which one has to pass. -/
def FitsAny (ds : Option (List Diagnostic)) (t : Bool) : Prop :=
  (ds = none → t = true) ∧ ∀ fs, ds = some fs → (∀ f ∈ fs, ¬ f.Limited) → t = false

/-- Where the left side ends, so does the right side, and the results are related. -/
def Agrees {α : Type} (fits : α → Bool → Prop) (d : Option α) (t : Option Bool) : Prop :=
  ∀ r, d = some r → ∃ b, t = some b ∧ fits r b

theorem agrees_pure {α : Type} {fits : α → Bool → Prop} {r : α} {b : Bool} (h : fits r b) :
    Agrees fits (pure r) (pure b) := fun _ hr => by
  cases hr
  exact ⟨b, rfl, h⟩

theorem fits_leaf (holds : Bool) (operator : String) (x : Value) : Fits (leafUnless holds operator x) holds := by
  cases holds <;> simp [Fits, leafUnless]

theorem fits_ofChildren {ds : List Diagnostic} {t : Bool} (h : FitsAll ds t) (operator : String) (x : Value) :
    Fits (Diagnostic.ofChildren operator x ds) t := by
  cases ds with
  | nil => exact ⟨fun _ => h.1 rfl, nofun⟩
  | cons d rest =>
    refine ⟨nofun, fun tree htree hl => h.2 nofun fun f hf hfl => hl ?_⟩
    cases htree
    exact hfl.node hf

theorem agrees_ofChildren {ds : Option (List Diagnostic)} {t : Option Bool} (h : Agrees FitsAll ds t)
    (operator : String) (x : Value) : Agrees Fits (do pure (Diagnostic.ofChildren operator x (← ds))) t := by
  intro r hr
  obtain ⟨fs, hfs, hr⟩ := Option.bind_eq_some_iff.1 hr
  cases hr
  obtain ⟨b, hb, hfit⟩ := h fs hfs
  exact ⟨b, hb, fits_ofChildren hfit operator x⟩

theorem agrees_some {ds : Option (Option (List Diagnostic))} {t : Option Bool} (h : Agrees FitsAny ds t)
    (x : Value) : Agrees Fits (do pure ((← ds).map fun fs => Diagnostic.node "some" x fs none)) t := by
  intro r hr
  obtain ⟨fs, hfs, hr⟩ := Option.bind_eq_some_iff.1 hr
  cases hr
  obtain ⟨b, hb, hn, hf⟩ := h fs hfs
  refine ⟨b, hb, fun h => hn (Option.map_eq_none_iff.1 h), fun tree ht hl => ?_⟩
  obtain ⟨fs, rfl, rfl⟩ := Option.map_eq_some_iff.1 ht
  exact hf fs rfl fun f hf hfl => hl (hfl.node hf)

/-- What is kept of one member's failure among those of the others: the failure, in its place. -/
def Keeps (keep : Option Diagnostic → List Diagnostic) : Prop :=
  keep none = [] ∧ ∀ f, ∃ g, keep (some f) = [g] ∧ (g.Limited ↔ f.Limited)

theorem keeps_toList : Keeps Option.toList := ⟨rfl, fun f => ⟨f, rfl, Iff.rfl⟩⟩

theorem keeps_under (l : Label) : Keeps fun d => (d.map (·.under l)).toList :=
  ⟨rfl, fun f => ⟨f.under l, rfl, Diagnostic.limited_labelled⟩⟩

/-- One more member that has to pass: its failure is kept beside those of the rest. -/
theorem agrees_all_cons {d : Option (Option Diagnostic)} {t : Option Bool} {ds : Option (List Diagnostic)}
    {ts : Option Bool} (h : Agrees Fits d t) (hs : Agrees FitsAll ds ts)
    {keep : Option Diagnostic → List Diagnostic} (hk : Keeps keep) :
    Agrees FitsAll (do let d ← d; let ds ← ds; pure (keep d ++ ds)) (do if ← t then ts else pure false) := by
  intro r hr
  obtain ⟨d₀, hd, hr⟩ := Option.bind_eq_some_iff.1 hr
  obtain ⟨ds₀, hds, hr⟩ := Option.bind_eq_some_iff.1 hr
  cases hr
  obtain ⟨b, rfl, hn, hf⟩ := h d₀ hd
  cases b with
  | false =>
    -- the test stops here, and whatever the rest fails with, this failure is among the children
    refine ⟨false, rfl, fun he => ?_, fun _ _ => rfl⟩
    cases d₀ with
    | none => exact hn rfl
    | some f =>
      obtain ⟨g, hg, _⟩ := hk.2 f
      rw [hg] at he; cases he
  | true =>
    obtain ⟨b, rfl, hns, hfs⟩ := hs ds₀ hds
    refine ⟨b, rfl, fun he => hns (List.append_eq_nil_iff.1 he).2, fun he hl => ?_⟩
    cases d₀ with
    | none => rw [hk.1] at he hl; exact hfs he hl
    | some f =>
      obtain ⟨g, hg, hgf⟩ := hk.2 f
      rw [hg] at hl
      cases hf f rfl fun hlf => hl g List.mem_cons_self (hgf.2 hlf)

/-- One more member of which one has to pass: its failure counts only if all of the rest fail. -/
theorem agrees_any_cons {d : Option (Option Diagnostic)} {t : Option Bool}
    {ds : Option (Option (List Diagnostic))} {ts : Option Bool} (h : Agrees Fits d t)
    (hs : Agrees FitsAny ds ts) :
    Agrees FitsAny (do
        match ← d with
        | none => pure none
        | some f => do pure ((← ds).map (f :: ·)))
      (do if ← t then pure true else ts) := by
  intro r hr
  obtain ⟨d₀, hd, hr⟩ := Option.bind_eq_some_iff.1 hr
  obtain ⟨b, rfl, hn, hf⟩ := h d₀ hd
  cases d₀ with
  | none =>
    cases hr
    rw [hn rfl]
    exact ⟨true, rfl, fun _ => rfl, nofun⟩
  | some f =>
    obtain ⟨ds₀, hds, hr⟩ := Option.bind_eq_some_iff.1 hr
    cases hr
    cases b with
    | true =>
      -- only a failure that mentions the frame limit leaves room for a yes
      refine ⟨true, rfl, fun _ => rfl, fun fs he hl => ?_⟩
      obtain ⟨gs, rfl, rfl⟩ := Option.map_eq_some_iff.1 he
      exact hf f rfl (hl f List.mem_cons_self)
    | false =>
      obtain ⟨b, rfl, hns, hfs⟩ := hs ds₀ hds
      refine ⟨b, rfl, fun he => hns (Option.map_eq_none_iff.1 he), fun fs he hl => ?_⟩
      obtain ⟨gs, rfl, rfl⟩ := Option.map_eq_some_iff.1 he
      exact hfs gs rfl fun g hg => hl g (List.mem_cons_of_mem _ hg)

/-! ## All validators -/

section Agree

variable {ed : Body → Value → Option (Option Diagnostic)} {et : Body → Value → Option Bool}

theorem fits_nil : FitsAll [] true := ⟨fun _ => rfl, fun h => absurd rfl h⟩

theorem agrees_items {d : Value → Option (Option Diagnostic)} {t : Value → Option Bool}
    (h : ∀ x, Agrees Fits (d x) (t x)) (position : Nat) (xs : List Value) :
    Agrees FitsAll (diagnoseItems d position xs) (xs.allM t) := by
  induction xs generalizing position with
  | nil => exact agrees_pure fits_nil
  | cons x xs ih =>
    rw [allM_cons]
    exact agrees_all_cons (h x) (ih (position + 1)) (keeps_under (.index position))

mutual

theorem agrees_with (h : ∀ b y, Agrees Fits (ed b y) (et b y)) :
    ∀ (v : Validator) (x : Value), Agrees Fits (diagnoseWith ed v x) (testWith et v x)
  | .anything, _ => agrees_pure ⟨fun _ => rfl, nofun⟩
  | .guard _, _ => agrees_pure (fits_leaf _ _ _)
  | .literal _, _ => agrees_pure (fits_leaf _ _ _)
  | .all members, x => agrees_ofChildren (agrees_all h members x) "every" x
  | .any members, x => agrees_some (agrees_any h members x) x
  | .hasKey key, x => by
    cases x with
    | obj entries =>
      refine agrees_pure ?_
      cases Entries.has key entries <;> simp [Fits]
    | _ => exact agrees_pure ⟨nofun, fun _ _ _ => rfl⟩
  | .shape coverage fields, x => by
    cases x with
    | obj entries => exact agrees_ofChildren (agrees_fields h coverage fields entries) _ _
    | _ => exact agrees_pure ⟨nofun, fun _ _ _ => rfl⟩
  | .arrayOf element, x => by
    cases x with
    | arr _ items => exact agrees_ofChildren (agrees_items (agrees_with h element) 0 items) _ _
    | _ => exact agrees_pure ⟨nofun, fun _ _ _ => rfl⟩
  | .tupleOf positions, x => by
    cases x with
    | arr _ items => exact agrees_ofChildren (agrees_positions h 0 positions items) _ _
    | _ => exact agrees_pure ⟨nofun, fun _ _ _ => rfl⟩
  | .deferred _ body, x => h (.ready body) x
  | .reference scope _ target, x => h (.node scope target) x

theorem agrees_all (h : ∀ b y, Agrees Fits (ed b y) (et b y)) :
    ∀ (vs : List Validator) (x : Value), Agrees FitsAll (diagnoseAll ed vs x) (testAll et vs x)
  | [], _ => agrees_pure fits_nil
  | v :: vs, x => agrees_all_cons (agrees_with h v x) (agrees_all h vs x) keeps_toList

theorem agrees_any (h : ∀ b y, Agrees Fits (ed b y) (et b y)) :
    ∀ (vs : List Validator) (x : Value), Agrees FitsAny (diagnoseAny ed vs x) (testAny et vs x)
  | [], _ => agrees_pure ⟨nofun, fun _ _ _ => rfl⟩
  | v :: vs, x => agrees_any_cons (agrees_with h v x) (agrees_any h vs x)

theorem agrees_fields (h : ∀ b y, Agrees Fits (ed b y) (et b y)) (coverage : Coverage) :
    ∀ (fields : List (String × Validator)) (entries : List (String × Value)),
      Agrees FitsAll (diagnoseFields ed coverage fields entries) (testFields et coverage fields entries)
  | [], _ => agrees_pure fits_nil
  | (key, v) :: fields, entries => by
    have rest := agrees_fields h coverage fields entries
    simp only [diagnoseFields, testFields]
    cases entries.lookup key with
    | some x => exact agrees_all_cons (agrees_with h v x) rest (keeps_under (.key key))
    | none =>
      intro r hr
      obtain ⟨ds, hds, hr⟩ := Option.bind_eq_some_iff.1 hr
      cases hr
      cases coverage with
      | full => exact ⟨false, rfl, nofun, fun _ _ => rfl⟩
      | present => exact rest ds hds

theorem agrees_positions (h : ∀ b y, Agrees Fits (ed b y) (et b y)) :
    ∀ (position : Nat) (vs : List Validator) (xs : List Value),
      Agrees FitsAll (diagnosePositions ed position vs xs) (testPositions et vs xs)
  | _, [], _ => agrees_pure fits_nil
  | _, _ :: _, [] => agrees_pure fits_nil
  | position, v :: vs, x :: xs =>
    agrees_all_cons (agrees_with h v x) (agrees_positions h (position + 1) vs xs) (keeps_under (.index position))

end

end Agree

/-! ## Within a frame limit -/

theorem agrees_in (limit : Nat) (b : Body) (x : Value) :
    Agrees Fits (diagnoseIn? limit b x) (testIn? limit b x) := by
  induction limit generalizing b x with
  | zero =>
    intro r hr
    cases hr
  | succ limit ih =>
    unfold diagnoseIn? testIn?
    cases b.linked? with
    | none =>
      intro r hr
      cases hr
    | some v => exact agrees_with ih v x

/-- Work without effects always ends. -/
def ending : Simulation Id Option where
  rel x y := y = some (Id.run x)
  pure _ := rfl
  bind {_ _ x y f g} hx hf := by
    rw [hx]
    exact hf (Id.run x)

theorem limited_recursionLimit (x : Value) : (recursionLimit x).Limited :=
  ⟨recursionLimit x, List.mem_cons_self, rfl⟩

/-- An outermost frame that ran out is a failure that says so, so the test may answer as it likes. -/
theorem fits_within (limit : Nat) (v : Validator) (x : Value) :
    Fits (failure? limit v x) (passes limit v x) := by
  have henter : ∀ b y, Agrees Fits (some ((diagnoseIn? limit b y).getD (some (recursionLimit y))))
      (some ((testIn? limit b y).getD false)) := by
    intro b y r hr
    cases hr
    refine ⟨_, rfl, ?_⟩
    cases hd : diagnoseIn? limit b y with
    | none => exact ⟨nofun, fun tree ht hl => by cases ht; exact absurd (limited_recursionLimit y) hl⟩
    | some d =>
      obtain ⟨t, ht, hfit⟩ := agrees_in limit b y d hd
      rw [ht]; exact hfit
  have hd : diagnoseWith (fun b y => some ((diagnoseIn? limit b y).getD (some (recursionLimit y)))) v x =
      some (failure? limit v x) := ending.diagnoseWith v x fun _ _ _ => rfl
  have ht : testWith (fun b y => some ((testIn? limit b y).getD false)) v x = some (passes limit v x) :=
    ending.testWith v x fun _ _ _ => rfl
  obtain ⟨t, ht', hfit⟩ := agrees_with henter v x _ hd
  rw [ht] at ht'
  cases ht'
  exact hfit

/-! ## Failures inside frames -/

/-- Where there is a result, it has the property. -/
def Yields {α : Type} (P : α → Prop) (r : Option α) : Prop := ∀ a, r = some a → P a

theorem yields_pure {α : Type} {P : α → Prop} {a : α} (h : P a) : Yields P (pure a) := by
  intro b hb
  cases hb
  exact h

theorem Yields.bind {α β : Type} {P : α → Prop} {Q : β → Prop} {r : Option α} {f : α → Option β} (h : Yields P r)
    (hf : ∀ a, P a → Yields Q (f a)) : Yields Q (r >>= f) := by
  intro b hb
  obtain ⟨a, ha, hb⟩ := Option.bind_eq_some_iff.1 hb
  exact hf a (h a ha) b hb

/-- None of the failures mentions the frame limit. -/
def Unlimited (ds : List Diagnostic) : Prop := ∀ d ∈ ds, ¬ d.Limited

theorem Unlimited.append {ds es : List Diagnostic} (hd : Unlimited ds) (he : Unlimited es) : Unlimited (ds ++ es) :=
  List.forall_mem_append.2 ⟨hd, he⟩

theorem Unlimited.node {ds : List Diagnostic} (h : Unlimited ds) {operator : String}
    (ho : operator ≠ "recursionLimit") (x : Value) (label : Option Label) :
    Unlimited [.node operator x ds label] := by
  intro d hd
  cases List.mem_singleton.1 hd
  rintro ⟨n, hn, hlimit⟩
  rcases List.mem_cons.1 hn with rfl | hn
  · exact ho hlimit
  · obtain ⟨d, hd, hn⟩ := Diagnostic.mem_nodesAll.1 hn
    exact h d hd ⟨n, hn, hlimit⟩

theorem unlimited_nil : Unlimited [] := List.forall_mem_nil _

theorem unlimited_leaf {operator : String} (ho : operator ≠ "recursionLimit") (x : Value) (label : Option Label) :
    Unlimited [.node operator x [] label] := unlimited_nil.node ho x label

theorem unlimited_leafUnless {operator : String} (ho : operator ≠ "recursionLimit") (holds : Bool) (x : Value) :
    Unlimited (leafUnless holds operator x).toList := by
  cases holds with
  | true => exact unlimited_nil
  | false => exact unlimited_leaf ho x none

theorem Unlimited.ofChildren {ds : List Diagnostic} (h : Unlimited ds) {operator : String}
    (ho : operator ≠ "recursionLimit") (x : Value) : Unlimited (Diagnostic.ofChildren operator x ds).toList := by
  cases ds with
  | nil => exact unlimited_nil
  | cons d ds => exact h.node ho x none

theorem Unlimited.under {d : Option Diagnostic} (h : Unlimited d.toList) (label : Label) :
    Unlimited (d.map (·.under label)).toList := by
  cases d with
  | none => exact unlimited_nil
  | some d =>
    intro e he
    cases List.mem_singleton.1 he
    exact fun hlimited => h d List.mem_cons_self (Diagnostic.limited_labelled.1 hlimited)

/-- No other operator has the first letter of a literal's. -/
theorem literalName_ne {operator : String} (h : operator.toList.head? ≠ some 'l') (expected : Value) :
    literalName expected ≠ operator := by
  rintro rfl
  simp [literalName, toString] at h

theorem kindName_ne (kind : Kind) : kind.name ≠ "recursionLimit" := by
  cases kind <;> decide

theorem shapeName_ne (coverage : Coverage) : shapeName coverage ≠ "recursionLimit" := by
  cases coverage <;> decide

section Unlimited

variable {enter : Body → Value → Option (Option Diagnostic)}

theorem unlimited_items {f : Value → Option (Option Diagnostic)}
    (h : ∀ x, Yields (fun d => Unlimited d.toList) (f x)) : ∀ (position : Nat) (xs : List Value),
      Yields Unlimited (diagnoseItems f position xs)
  | _, [] => yields_pure unlimited_nil
  | position, x :: xs => (h x).bind fun _ hd => (unlimited_items h (position + 1) xs).bind fun _ hds =>
    yields_pure ((hd.under _).append hds)

mutual

/-- A diagnosis mentions the frame limit only where a body it enters does. -/
theorem unlimited_with (h : ∀ b y, Yields (fun d => Unlimited d.toList) (enter b y)) :
    ∀ (v : Validator) (x : Value), Yields (fun d => Unlimited d.toList) (diagnoseWith enter v x)
  | .anything, _ => yields_pure unlimited_nil
  | .guard _, x => yields_pure (unlimited_leafUnless (kindName_ne _) _ x)
  | .literal _, x => yields_pure (unlimited_leafUnless (literalName_ne (by decide) _) _ x)
  | .all members, x => (unlimited_all h members x).bind fun _ hds => yields_pure (hds.ofChildren (by decide) x)
  | .any members, x => (unlimited_any h members x).bind fun ds hds => by
    refine yields_pure ?_
    cases ds with
    | none => exact unlimited_nil
    | some ds => exact (hds ds rfl).node (by decide) x none
  | .hasKey key, x => by
    cases x with
    | obj entries =>
      refine yields_pure ?_
      cases Entries.has key entries with
      | true => exact unlimited_nil
      | false => exact (unlimited_leaf (by decide) _ _).node (by decide) _ none
    | _ => exact yields_pure (unlimited_leaf (by decide) _ none)
  | .shape coverage fields, x => by
    cases x with
    | obj entries =>
      exact (unlimited_fields h coverage fields entries).bind fun _ hds =>
        yields_pure (hds.ofChildren (shapeName_ne coverage) _)
    | _ => exact yields_pure (unlimited_leaf (shapeName_ne coverage) _ none)
  | .arrayOf element, x => by
    cases x with
    | arr s items =>
      exact (unlimited_items (unlimited_with h element) 0 items).bind fun _ hds =>
        yields_pure (hds.ofChildren (by decide) _)
    | _ => exact yields_pure (unlimited_leaf (by decide) _ none)
  | .tupleOf positions, x => by
    cases x with
    | arr s items =>
      exact (unlimited_positions h 0 positions items).bind fun _ hds => yields_pure (hds.ofChildren (by decide) _)
    | _ => exact yields_pure (unlimited_leaf (by decide) _ none)
  | .deferred _ body, x => h (.ready body) x
  | .reference scope _ target, x => h (.node scope target) x

theorem unlimited_all (h : ∀ b y, Yields (fun d => Unlimited d.toList) (enter b y)) :
    ∀ (vs : List Validator) (x : Value), Yields Unlimited (diagnoseAll enter vs x)
  | [], _ => yields_pure unlimited_nil
  | v :: vs, x => (unlimited_with h v x).bind fun _ hd => (unlimited_all h vs x).bind fun _ hds =>
    yields_pure (hd.append hds)

theorem unlimited_any (h : ∀ b y, Yields (fun d => Unlimited d.toList) (enter b y)) :
    ∀ (vs : List Validator) (x : Value),
      Yields (fun ds => ∀ fs, ds = some fs → Unlimited fs) (diagnoseAny enter vs x)
  | [], _ => yields_pure fun _ hfs => by
    cases hfs
    exact unlimited_nil
  | v :: vs, x => (unlimited_with h v x).bind fun d hd => by
    cases d with
    | none => exact yields_pure nofun
    | some d =>
      refine (unlimited_any h vs x).bind fun ds hds => yields_pure fun fs hfs => ?_
      obtain ⟨gs, rfl, rfl⟩ := Option.map_eq_some_iff.1 hfs
      exact hd.append (hds gs rfl)

theorem unlimited_fields (h : ∀ b y, Yields (fun d => Unlimited d.toList) (enter b y)) (coverage : Coverage) :
    ∀ (fields : List (String × Validator)) (entries : List (String × Value)),
      Yields Unlimited (diagnoseFields enter coverage fields entries)
  | [], _ => yields_pure unlimited_nil
  | (key, v) :: fields, entries => by
    have rest := unlimited_fields h coverage fields entries
    simp only [diagnoseFields]
    cases entries.lookup key with
    | some x => exact (unlimited_with h v x).bind fun _ hd => rest.bind fun _ hds =>
        yields_pure ((hd.under _).append hds)
    | none =>
      refine rest.bind fun ds hds => yields_pure ?_
      cases coverage with
      | full => exact (unlimited_leaf (by decide) _ _).append hds
      | present => exact hds

theorem unlimited_positions (h : ∀ b y, Yields (fun d => Unlimited d.toList) (enter b y)) :
    ∀ (position : Nat) (vs : List Validator) (xs : List Value),
      Yields Unlimited (diagnosePositions enter position vs xs)
  | _, [], _ => yields_pure unlimited_nil
  | _, _ :: _, [] => yields_pure unlimited_nil
  | position, v :: vs, x :: xs => (unlimited_with h v x).bind fun _ hd =>
    (unlimited_positions h (position + 1) vs xs).bind fun _ hds => yields_pure ((hd.under _).append hds)

end

end Unlimited

/-- A diagnosis inside a frame that ends mentions no frame limit. -/
theorem unlimited_in (limit : Nat) (b : Body) (x : Value) :
    Yields (fun d => Unlimited d.toList) (diagnoseIn? limit b x) := by
  induction limit generalizing b x with
  | zero =>
    intro d hd
    cases hd
  | succ limit ih =>
    unfold diagnoseIn?
    cases b.linked? with
    | none =>
      intro d hd
      cases hd
    | some v => exact unlimited_with ih v x

end Validator

end Conformance
