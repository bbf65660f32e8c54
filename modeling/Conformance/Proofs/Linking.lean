import Conformance.Proofs.Composition
/-!
# Linking

Compiling a schema marks the definitions it meets and checks each of them once. Linking reads
the same validator off the schema alone: it takes every known definition for granted. What a
schema compiles to is what it links to, whatever is marked; and after it has compiled, the
marked definitions link among themselves, so compiling any of them again neither fails nor
marks anything.
-/

namespace Conformance

/-! ## Definitions and references -/

namespace Scope

/-- The table of the scope has the target under the name. -/
def Defines (scope : Scope) (name : String) (target : Value) : Prop :=
  ∃ table, scope.definitions = some table ∧ table.lookup name = some target

theorem find_ok {scope : Scope} {ref : Reference} {target : Value} :
    scope.find ref = .ok target ↔ scope.Defines ref.name target := by
  unfold find Defines
  cases scope.definitions with
  | none => simp [throw, throwThe, MonadExceptOf.throw]
  | some table =>
    cases h : table.lookup ref.name with
    | none => simp [h, throw, throwThe, MonadExceptOf.throw]
    | some target => simp [h, pure, Except.pure]

/-- The validator of a reference to a known definition; any other counts as not defined. -/
def link (scope : Scope) (known : String → Bool) (ref : Value) : Except SchemaError Validator := do
  let ref ← Reference.ofValue ref
  let target ← scope.find ref
  if known ref.name then pure (.reference scope ref.name target)
  else throw (.notDefined ref.text ref.name [])

/-- What a node compiles to when the known definitions are taken for granted. -/
def linked (scope : Scope) (known : String → Bool) (node : Value) : Except SchemaError Validator :=
  (Schema.ofValue node).compileWith (scope.link known)

variable {scope : Scope} {known : String → Bool}

theorem link_ok {ref : Value} {v : Validator} : scope.link known ref = .ok v ↔
    ∃ r target, Reference.ofValue ref = .ok r ∧ scope.Defines r.name target ∧ known r.name = true ∧
      v = .reference scope r.name target := by
  constructor
  · intro h
    obtain ⟨r, hr, h⟩ := except_bind_ok.1 h
    obtain ⟨target, ht, h⟩ := except_bind_ok.1 h
    cases hk : known r.name <;> rw [hk] at h
    · cases h
    · cases h; exact ⟨r, target, hr, find_ok.1 ht, hk, rfl⟩
  · rintro ⟨r, target, hr, hd, hk, rfl⟩
    refine except_bind_ok.2 ⟨r, hr, except_bind_ok.2 ⟨target, find_ok.2 hd, ?_⟩⟩
    rw [hk]; rfl

/-- What a node links to holds known definitions of the scope only. -/
theorem bodies_of_linked {node : Value} {v : Validator} (h : scope.linked known node = .ok v) : ∀ b ∈ v.bodies,
    ∃ name target, b = .node scope target ∧ scope.Defines name target ∧ known name = true := by
  refine (Validator.closed_bodies _).compileWith (fun ref w hw b hb => ?_) _ v h
  obtain ⟨r, target, _, hd, hk, rfl⟩ := link_ok.1 hw
  cases List.mem_singleton.1 hb
  exact ⟨r.name, target, rfl, hd, hk⟩

/-- What the left side finds, the right side finds. -/
def refining : Simulation (Except SchemaError) (Except SchemaError) where
  rel x y := ∀ a, x = .ok a → y = .ok a
  pure _ _ h := h
  bind hx hf b hb := by
    obtain ⟨a, ha, hb⟩ := except_bind_ok.1 hb
    exact except_bind_ok.2 ⟨a, hx a ha, hf a b hb⟩

/-- Knowing more definitions changes no link. -/
theorem linked_mono {known' : String → Bool} (h : ∀ name, known name = true → known' name = true)
    {node : Value} {v : Validator} (hv : scope.linked known node = .ok v) :
    scope.linked known' node = .ok v := by
  refine refining.compileWith (fun _ _ he => by cases he) (fun ref w hw => ?_) _ v hv
  obtain ⟨r, target, hr, hd, hk, rfl⟩ := link_ok.1 hw
  exact link_ok.2 ⟨r, target, hr, hd, h _ hk, rfl⟩

/-! ## Marks -/

def marked (scope : Scope) (marks : List Mark) (name : String) : Bool :=
  decide (⟨scope.id, name⟩ ∈ marks)

theorem marked_mono {marks marks' : List Mark} (h : marks ⊆ marks') {name : String}
    (hm : scope.marked marks name = true) : scope.marked marks' name = true := by
  simp only [marked, decide_eq_true_eq] at hm ⊢
  exact h hm

/-- How many definitions have no mark yet. -/
def unmarked (scope : Scope) (marks : List Mark) : Nat :=
  (scope.definitions.getD []).countP fun e => !scope.marked marks e.1

theorem unmarked_le_size (marks : List Mark) : scope.unmarked marks ≤ scope.size := List.countP_le_length

theorem unmarked_anti {marks marks' : List Mark} (h : marks ⊆ marks') :
    scope.unmarked marks' ≤ scope.unmarked marks := by
  refine List.countP_mono_left fun e _ he => ?_
  cases hm : scope.marked marks e.1 with
  | false => rfl
  | true => rw [marked_mono h hm] at he; exact he

theorem countP_lt_countP {α : Type} {p q : α → Bool} {l : List α} (h : ∀ x ∈ l, p x = true → q x = true)
    {a : α} (ha : a ∈ l) (hp : p a = false) (hq : q a = true) : l.countP p < l.countP q := by
  induction l with
  | nil => cases ha
  | cons x l ih =>
    have hl := List.countP_mono_left fun y hy => h y (List.mem_cons_of_mem x hy)
    have hx : (if p x = true then 1 else 0) ≤ if q x = true then 1 else 0 := by
      cases hpx : p x with
      | false => exact Nat.zero_le _
      | true => simp [h x List.mem_cons_self hpx]
    simp only [List.countP_cons]
    rcases List.mem_cons.1 ha with rfl | ha
    · rw [hp, hq, if_neg Bool.false_ne_true, if_pos rfl]
      omega
    · have := ih (fun y hy => h y (List.mem_cons_of_mem x hy)) ha
      omega

/-- Marking a definition leaves fewer without a mark. -/
theorem unmarked_mark {marks : List Mark} {name : String} {target : Value} (hd : scope.Defines name target)
    (hm : scope.marked marks name = false) :
    scope.unmarked (marks ++ [⟨scope.id, name⟩]) < scope.unmarked marks := by
  obtain ⟨table, ht, hl⟩ := hd
  simp only [unmarked, ht, Option.getD_some]
  refine countP_lt_countP (fun e _ he => ?_) (Entries.mem_of_lookup hl) (by simp [marked]) (by simp [hm])
  cases h : scope.marked marks e.1 with
  | false => rfl
  | true => rw [marked_mono (List.subset_append_left _ _) h] at he; exact he

/-! ## What compiling leaves behind -/

/-- The check of a definition that compiled it to `v`, right after its mark was set. All marks
the check left are among `marks`. -/
structure Checked (scope : Scope) (marks : List Mark) (name : String) (target : Value) (v : Validator) : Prop where
  defines : scope.Defines name target
  linked : scope.linked (scope.marked marks) target = .ok v
  compiled : ∃ fuel before after, scope.marked before name = false ∧ after ⊆ marks ∧
    ((Schema.ofValue target).compileWith (scope.resolveWithin fuel)).run (before ++ [⟨scope.id, name⟩]) =
      (.ok v, after)

theorem Checked.mono {marks marks' : List Mark} (h : marks ⊆ marks') {name : String} {target : Value}
    {v : Validator} (hc : scope.Checked marks name target v) : scope.Checked marks' name target v where
  defines := hc.defines
  linked := linked_mono (fun _ => marked_mono h) hc.linked
  compiled := by
    obtain ⟨fuel, before, after, hb, ha, hr⟩ := hc.compiled
    exact ⟨fuel, before, after, hb, List.Subset.trans ha h, hr⟩

theorem resolveWith_ok {check : Value → Build Unit} {ref : Value} {v : Validator} {marks marks' : List Mark}
    (h : (scope.resolveWith check ref).run marks = (.ok v, marks')) :
    ∃ r target, Reference.ofValue ref = .ok r ∧ scope.Defines r.name target ∧ v = .reference scope r.name target ∧
      (scope.marked marks r.name = true ∧ marks' = marks ∨ scope.marked marks r.name = false ∧
        (check target).run (marks ++ [⟨scope.id, r.name⟩]) = (.ok (), marks')) := by
  obtain ⟨r, _, h₁, h⟩ := run_bind_ok h
  obtain ⟨hr, rfl⟩ := run_ofExcept_ok h₁
  obtain ⟨target, _, h₂, h⟩ := run_bind_ok h
  obtain ⟨ht, rfl⟩ := run_ofExcept_ok h₂
  obtain ⟨_, _, hc, h₃⟩ := run_bind_ok h
  cases h₃
  refine ⟨r, target, hr, find_ok.1 ht, rfl, ?_⟩
  obtain ⟨_, _, hg, hc⟩ := run_bind_ok hc
  cases hg
  by_cases hm : ⟨scope.id, r.name⟩ ∈ marks
  · rw [if_pos hm] at hc
    cases hc
    exact .inl ⟨decide_eq_true hm, rfl⟩
  · rw [if_neg hm] at hc
    exact .inr ⟨decide_eq_false hm, hc⟩

/-- With fuel for every definition that has no mark, work on the left marks what the link on the
right has to know, and what it marks has been checked. -/
def checking (scope : Scope) (fuel : Nat) (known : String → Bool) : Simulation Build (Except SchemaError) where
  rel x y := ∀ marks a marks', scope.unmarked marks ≤ fuel → x.run marks = (.ok a, marks') →
    marks ⊆ marks' ∧ ((∀ name, scope.marked marks' name = true → known name = true) → y = .ok a) ∧
    ∀ name, scope.marked marks' name = true →
      scope.marked marks name = true ∨ ∃ target v, scope.Checked marks' name target v
  pure a marks b marks' _ h := by
    cases h
    exact ⟨List.Subset.refl _, fun _ => rfl, fun _ => .inl⟩
  bind hx hf marks b marks' hfuel h := by
    obtain ⟨a, mid, ha, hb⟩ := run_bind_ok h
    obtain ⟨hsub, hy, hnew⟩ := hx _ _ _ hfuel ha
    obtain ⟨hsub', hg, hnew'⟩ := hf a _ _ _ (Nat.le_trans (unmarked_anti hsub) hfuel) hb
    refine ⟨List.Subset.trans hsub hsub', fun hk => ?_, fun name hm => ?_⟩
    · exact except_bind_ok.2 ⟨a, hy fun name hm => hk name (marked_mono hsub' hm), hg hk⟩
    · rcases hnew' name hm with hm | hc
      · rcases hnew name hm with hm | ⟨target, v, hc⟩
        · exact .inl hm
        · -- marks only grow, so what has been checked stays checked
          exact .inr ⟨target, v, hc.mono hsub'⟩
      · exact .inr hc

theorem checking_raises (fuel : Nat) : (scope.checking fuel known).Raises :=
  fun _ _ _ _ _ h => by cases h

/-- A reference marks its definition and checks it with one unit of fuel less. -/
theorem checking_resolveWithin (fuel : Nat) (known : String → Bool) (ref : Value) :
    (scope.checking fuel known).rel (scope.resolveWithin fuel ref) (scope.link known ref) := by
  induction fuel generalizing known ref with
  | zero =>
    intro marks v marks' hfuel h
    obtain ⟨r, target, hr, hd, rfl, ⟨hm, rfl⟩ | ⟨hm, _⟩⟩ := resolveWith_ok h
    · exact ⟨List.Subset.refl _, fun hk => link_ok.2 ⟨r, target, hr, hd, hk _ hm, rfl⟩, fun _ => .inl⟩
    · -- there is no fuel left, so no definition is without a mark
      have := unmarked_mark hd hm
      omega
  | succ fuel ih =>
    intro marks v marks' hfuel h
    obtain ⟨r, target, hr, hd, rfl, ⟨hm, rfl⟩ | ⟨hm, hc⟩⟩ := resolveWith_ok h
    · exact ⟨List.Subset.refl _, fun hk => link_ok.2 ⟨r, target, hr, hd, hk _ hm, rfl⟩, fun _ => .inl⟩
    · -- the check of the definition starts with its mark already set
      obtain ⟨w, mid, hw, hp⟩ := run_bind_ok hc
      cases hp
      have hless := unmarked_mark hd hm
      obtain ⟨hsub, hy, hnew⟩ := (scope.checking fuel (scope.marked marks')).compileWith (checking_raises fuel)
        (ih _) _ _ _ _ (by omega) hw
      have hmark : scope.marked marks' r.name = true := marked_mono hsub (by simp [marked])
      refine ⟨List.Subset.trans (List.subset_append_left _ _) hsub, fun hk => ?_, fun name hn => ?_⟩
      · exact link_ok.2 ⟨r, target, hr, hd, hk _ hmark, rfl⟩
      · rcases hnew name hn with hn | hc
        · by_cases he : name = r.name
          · -- its own mark stands for the check that has just ended
            subst he
            exact .inr ⟨target, w, hd, hy fun _ hm => hm, fuel, marks, marks', hm, List.Subset.refl _, hw⟩
          · refine .inl ?_
            simpa [marked, he] using hn
        · exact .inr hc

/-- A node that compiles links with what is marked then, and each new mark has been checked. -/
theorem compile_checked {node : Value} {v : Validator} {marks marks' : List Mark}
    (h : (scope.compile node).run marks = (.ok v, marks')) :
    marks ⊆ marks' ∧ scope.linked (scope.marked marks') node = .ok v ∧ ∀ name, scope.marked marks' name = true →
      scope.marked marks name = true ∨ ∃ target v, scope.Checked marks' name target v := by
  obtain ⟨hsub, hy, hnew⟩ := (scope.checking scope.size (scope.marked marks')).compileWith (checking_raises _)
    (checking_resolveWithin _ _) (Schema.ofValue node) _ _ _ (unmarked_le_size marks) h
  exact ⟨hsub, hy fun _ hm => hm, hnew⟩

/-! ## Compiling again -/

/-- Work on the right finds at `marks` what the left side finds, and marks nothing. -/
def settled (marks : List Mark) : Simulation (Except SchemaError) Build where
  rel x y := ∀ a, x = .ok a → y.run marks = (.ok a, marks)
  pure _ _ h := by cases h; rfl
  bind hx hf b hb := by
    obtain ⟨a, ha, hb⟩ := except_bind_ok.1 hb
    rw [run_bind_of_ok (hx a ha)]
    exact hf a b hb

theorem resolveWithin_of_link {fuel : Nat} {ref : Value} {v : Validator} {marks : List Mark}
    (hk : ∀ name, known name = true → scope.marked marks name = true) (h : scope.link known ref = .ok v) :
    (scope.resolveWithin fuel ref).run marks = (.ok v, marks) := by
  obtain ⟨r, target, hr, hd, hkr, rfl⟩ := link_ok.1 h
  have hm : ⟨scope.id, r.name⟩ ∈ marks := of_decide_eq_true (hk _ hkr)
  have : ∀ check, (scope.resolveWith check ref).run marks = (.ok (.reference scope r.name target), marks) := by
    intro check
    have hcheck : (scope.checkOnce r.name target check).run marks = (.ok (), marks) := by
      refine (run_bind_of_ok (a := marks) rfl).trans ?_
      rw [if_pos hm]; rfl
    unfold resolveWith
    rw [run_bind_of_ok (run_ofExcept_of_ok hr marks), run_bind_of_ok (run_ofExcept_of_ok (find_ok.2 hd) marks),
      run_bind_of_ok hcheck]
    rfl
  cases fuel <;> exact this _

/-- A node that links with marked definitions compiles to the same and marks nothing. -/
theorem compile_of_linked {node : Value} {v : Validator} {marks : List Mark}
    (hk : ∀ name, known name = true → scope.marked marks name = true) (h : scope.linked known node = .ok v) :
    (scope.compile node).run marks = (.ok v, marks) :=
  (settled marks).compileWith (fun _ _ he => by cases he) (fun _ _ hr => resolveWithin_of_link hk hr) _ v h

/-- Work on the left finds what the right side finds, whatever is marked. -/
def markless : Simulation Build (Except SchemaError) where
  rel x y := ∀ marks a marks', x.run marks = (.ok a, marks') → y = .ok a
  pure _ _ _ _ h := by cases h; rfl
  bind hx hf marks b marks' h := by
    obtain ⟨a, mid, ha, hb⟩ := run_bind_ok h
    exact except_bind_ok.2 ⟨a, hx _ _ _ ha, hf _ _ _ _ hb⟩

/-- What a node compiles to does not depend on the marks, nor on the fuel. -/
theorem linked_of_compile {fuel : Nat} {node : Value} {v : Validator} {marks marks' : List Mark}
    (h : ((Schema.ofValue node).compileWith (scope.resolveWithin fuel)).run marks = (.ok v, marks')) :
    scope.linked (fun _ => true) node = .ok v := by
  refine markless.compileWith (fun _ _ _ _ he => by cases he) (fun ref marks w marks' hw => ?_) _ _ _ _ h
  have : ∃ check, scope.resolveWithin fuel ref = scope.resolveWith check ref := by
    cases fuel <;> exact ⟨_, rfl⟩
  obtain ⟨check, hc⟩ := this
  rw [hc] at hw
  obtain ⟨r, target, hr, hd, rfl, _⟩ := resolveWith_ok hw
  exact link_ok.2 ⟨r, target, hr, hd, rfl, rfl⟩

end Scope

end Conformance
