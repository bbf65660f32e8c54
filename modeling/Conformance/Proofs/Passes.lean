import Conformance.Proofs.Session
/-!
# Passes

A definition is checked by a pass that compiles it. Work that writes down its passes shows what
compiling does, whatever cycles the references form: there is one pass at most for a definition,
passes nest no deeper than the table has definitions, and each leaves one more definition marked.
So the bound on nested passes is never felt. Once a document has compiled, compiling any definition
again begins no pass.
-/

namespace Conformance

/-- A pass that has begun: the definition, how deep the pass is nested, and what was marked before. -/
structure Pass where
  name : String
  depth : Nat
  marks : List Mark

/-- Work that marks definitions and writes down the passes that begin. -/
abbrev Tracked (α : Type) : Type := ExceptT SchemaError (StateM (List Mark × List Pass)) α

namespace Scope

abbrev mark (scope : Scope) (name : String) : Mark := ⟨scope.id, name⟩

/-- The marks that passes set. -/
def marksOf (scope : Scope) (passes : List Pass) : List Mark := passes.map fun p => scope.mark p.name

/-- The definition that a reference names, with its name. -/
def lookUp (scope : Scope) (ref : Value) : Except SchemaError (String × Value) := do
  let ref ← Reference.ofValue ref
  let target ← scope.find ref
  pure (ref.name, target)

/-! ## Tracked work -/

/-- As `checkOnce`, where the check is a pass at the depth. -/
def passOnce (scope : Scope) (depth : Nat) (name : String) (target : Value) (check : Value → Tracked Unit) :
    Tracked Unit := do
  let (marks, passes) ← get
  if scope.mark name ∈ marks then pure ()
  else do
    set (marks ++ [scope.mark name], passes ++ [⟨name, depth, marks⟩])
    check target

def trackWith (scope : Scope) (depth : Nat) (check : Value → Tracked Unit) (ref : Value) : Tracked Validator := do
  let (name, target) ← MonadExcept.ofExcept (scope.lookUp ref)
  scope.passOnce depth name target check
  pure (.reference scope name target)

/-- As `resolveWithin`, inside of `depth` passes. -/
def trackWithin (scope : Scope) : Nat → Nat → Value → Tracked Validator
  | 0, depth => scope.trackWith (depth + 1) fun _ => pure ()
  | fuel + 1, depth => scope.trackWith (depth + 1) fun target => do
    let _ ← (Schema.ofValue target).compileWith (scope.trackWithin fuel (depth + 1))
    pure ()

/-- As `compile`, with room for `fuel` passes inside each other. -/
def track (scope : Scope) (fuel : Nat) (node : Value) : Tracked Validator :=
  (Schema.ofValue node).compileWith (scope.trackWithin fuel 0)

/-! ## One reference -/

variable {scope : Scope} {marks : List Mark} {passes : List Pass} {ref target : Value} {name : String} {depth : Nat}

theorem marked_iff : scope.marked marks name = true ↔ scope.mark name ∈ marks := decide_eq_true_iff

theorem lookUp_ok : scope.lookUp ref = .ok (name, target) ↔
    ∃ r, Reference.ofValue ref = .ok r ∧ r.name = name ∧ scope.Defines name target := by
  constructor
  · intro h
    obtain ⟨r, hr, h⟩ := except_bind_ok.1 h
    obtain ⟨t, ht, h⟩ := except_bind_ok.1 h
    cases h
    exact ⟨r, hr, rfl, find_ok.1 ht⟩
  · rintro ⟨r, hr, rfl, hd⟩
    exact except_bind_ok.2 ⟨r, hr, except_bind_ok.2 ⟨target, find_ok.2 hd, rfl⟩⟩

theorem resolveWith_eq (check : Value → Build Unit) (ref : Value) : scope.resolveWith check ref = (do
    let (name, target) ← Build.ofExcept (scope.lookUp ref)
    scope.checkOnce name target check
    pure (.reference scope name target)) := by
  unfold resolveWith lookUp
  cases Reference.ofValue ref with
  | error e => rfl
  | ok r =>
    show (Build.ofExcept (scope.find r) >>= _) = Build.ofExcept (scope.find r >>= _) >>= _
    cases scope.find r <;> rfl

theorem run_checkOnce (check : Value → Build Unit) : (scope.checkOnce name target check).run marks =
    if scope.mark name ∈ marks then (.ok (), marks) else (check target).run (marks ++ [scope.mark name]) := by
  show (if scope.mark name ∈ marks then _ else _ : Build Unit).run marks = _
  by_cases hm : scope.mark name ∈ marks
  · rw [if_pos hm, if_pos hm]
    rfl
  · rw [if_neg hm, if_neg hm]
    rfl

theorem run_passOnce (check : Value → Tracked Unit) : (scope.passOnce depth name target check).run (marks, passes) =
    if scope.mark name ∈ marks then (.ok (), marks, passes)
    else (check target).run (marks ++ [scope.mark name], passes ++ [⟨name, depth, marks⟩]) := by
  show (if scope.mark name ∈ marks then _ else _ : Tracked Unit).run (marks, passes) = _
  by_cases hm : scope.mark name ∈ marks
  · rw [if_pos hm, if_pos hm]
    rfl
  · rw [if_neg hm, if_neg hm]
    rfl

/-! ## Marks of passes -/

@[simp]
theorem marksOf_nil : scope.marksOf [] = [] := rfl

@[simp]
theorem marksOf_cons (p : Pass) (ps : List Pass) :
    scope.marksOf (p :: ps) = scope.mark p.name :: scope.marksOf ps := rfl

@[simp]
theorem marksOf_append (ps qs : List Pass) : scope.marksOf (ps ++ qs) = scope.marksOf ps ++ scope.marksOf qs :=
  List.map_append

@[simp]
theorem mem_marksOf {ps : List Pass} : scope.mark name ∈ scope.marksOf ps ↔ name ∈ ps.map (·.name) := by
  simp [marksOf, mark]

end Scope

/-! ## What passes are like -/

/-- Passes that begin one after another, each with those it begins itself behind it. -/
inductive Scope.Passes (scope : Scope) : Nat → List Mark → List Pass → Prop
  | nil {depth : Nat} {marks : List Mark} : Passes scope depth marks []
  | check {depth : Nat} {marks : List Mark} {name : String} {target : Value} {inner rest : List Pass}
    (hd : scope.Defines name target) (hm : scope.mark name ∉ marks)
    (hi : Passes scope (depth + 1) (marks ++ [scope.mark name]) inner)
    (hr : Passes scope depth (marks ++ [scope.mark name] ++ scope.marksOf inner) rest) :
    Passes scope depth marks (⟨name, depth + 1, marks⟩ :: (inner ++ rest))

namespace Scope.Passes

variable {scope : Scope} {depth : Nat} {marks : List Mark} {ps qs : List Pass}

theorem append (hp : scope.Passes depth marks ps) (hq : scope.Passes depth (marks ++ scope.marksOf ps) qs) :
    scope.Passes depth marks (ps ++ qs) := by
  induction hp with
  | nil => simpa using hq
  | check hd hm hi _ _ ih =>
    rw [List.cons_append, List.append_assoc]
    refine .check hd hm hi (ih ?_)
    simpa using hq

/-- No pass is for a definition that has a mark. -/
theorem fresh (h : scope.Passes depth marks ps) : ∀ name ∈ ps.map (·.name), scope.mark name ∉ marks := by
  induction h with
  | nil => exact List.forall_mem_nil _
  | check _ hm _ _ ihi ihr =>
    simp only [List.map_cons, List.map_append, List.forall_mem_cons, List.forall_mem_append]
    refine ⟨hm, fun name hn h => ihi name hn ?_, fun name hn h => ihr name hn ?_⟩
    · exact List.mem_append_left _ h
    · exact List.mem_append_left _ (List.mem_append_left _ h)

/-- No definition has two passes. -/
theorem nodup (h : scope.Passes depth marks ps) : (ps.map (·.name)).Nodup := by
  induction h with
  | nil => exact List.nodup_nil
  | check _ _ hi hr ihi ihr =>
    -- its mark keeps a definition out of all passes behind its own
    have hinner := hi.fresh
    have hrest := hr.fresh
    simp only [List.mem_append, List.mem_singleton, mem_marksOf, not_or] at hinner hrest
    rw [List.map_cons, List.map_append, List.nodup_cons, List.nodup_append]
    refine ⟨fun h => ?_, ihi, ihr, ?_⟩
    · rcases List.mem_append.1 h with h | h
      · exact (hinner _ h).2 rfl
      · exact (hrest _ h).1.2 rfl
    · rintro name hn _ hn' rfl
      exact (hrest _ hn').2 hn

/-- A pass is nested no deeper than there were definitions without a mark. -/
theorem depth_le (h : scope.Passes depth marks ps) : ∀ p ∈ ps, p.depth ≤ depth + scope.unmarked marks := by
  induction h with
  | nil => exact List.forall_mem_nil _
  | @check depth marks name target inner rest hd hm _ _ ihi ihr =>
    have hless : scope.unmarked (marks ++ [scope.mark name]) < scope.unmarked marks :=
      unmarked_mark hd (decide_eq_false_iff_not.2 hm)
    have hanti : scope.unmarked (marks ++ [scope.mark name] ++ scope.marksOf inner) ≤ scope.unmarked marks := by
      refine unmarked_anti ?_
      rw [List.append_assoc]
      exact List.subset_append_left _ _
    simp only [List.forall_mem_cons, List.forall_mem_append]
    refine ⟨by omega, fun p hp => ?_, fun p hp => ?_⟩
    · have := ihi p hp
      omega
    · have := ihr p hp
      omega

/-- When a pass begins, the marks are those from before all passes and one for each that has begun. -/
theorem marks_eq (h : scope.Passes depth marks ps) {i : Nat} {p : Pass} (hp : ps[i]? = some p) :
    p.marks = marks ++ scope.marksOf (ps.take i) := by
  induction h generalizing i with
  | nil => cases hp
  | @check depth marks name target inner rest _ _ _ _ ihi ihr =>
    cases i with
    | zero =>
      cases hp
      simp
    | succ i =>
      rw [List.getElem?_cons_succ] at hp
      rw [List.take_succ_cons, List.take_append]
      by_cases hi : i < inner.length
      · rw [List.getElem?_append_left hi] at hp
        have h0 : i - inner.length = 0 := by omega
        rw [ihi hp, h0]
        simp
      · have hi : inner.length ≤ i := by omega
        rw [List.getElem?_append_right hi] at hp
        rw [ihr hp, List.take_of_length_le hi]
        simp

end Scope.Passes

/-! ## Following references -/

namespace Scope

/-- A set of demands that is kept by following references, with what they can raise and which
definitions they name. -/
structure Follows (scope : Scope) (G : Demand → Prop) (E : SchemaError → Prop) (N : String → Prop) : Prop where
  type : ∀ {spec e}, G (.type spec) → Validator.ofType spec = .error e → E e
  reference : ∀ {ref e}, G (.reference ref) → scope.lookUp ref = .error e → E e
  definition : ∀ {ref name target}, G (.reference ref) → scope.lookUp ref = .ok (name, target) →
    N name ∧ ∀ d ∈ (Schema.ofValue target).demands true, G d

/-- Work on the left, inside of `depth` passes, ends as the one on the right does. It raises what `E`
allows, and its passes are for definitions that `N` allows. -/
def tracking (scope : Scope) (depth : Nat) (E : SchemaError → Prop) (N : String → Prop) :
    Simulation Tracked Build where
  rel x y := ∀ marks passes, ∃ r new, x.run (marks, passes) = (r, marks ++ scope.marksOf new, passes ++ new) ∧
    y.run marks = (r, marks ++ scope.marksOf new) ∧ scope.Passes depth marks new ∧
    (∀ e, r = .error e → E e) ∧ ∀ p ∈ new, N p.name
  pure a marks passes := ⟨.ok a, [], by simp [run_pure], by simp [run_pure], .nil, nofun, nofun⟩
  bind {_ _ x y f g} hx hf marks passes := by
    obtain ⟨r, new, hrun, hrun', hp, he, hn⟩ := hx marks passes
    rw [run_bind, run_bind, hrun, hrun']
    cases r with
    | error e => exact ⟨.error e, new, rfl, rfl, hp, fun e' h => he e' (by cases h; rfl), hn⟩
    | ok a =>
      obtain ⟨r, more, hrun, hrun', hp', he, hn'⟩ := hf a (marks ++ scope.marksOf new) (passes ++ new)
      refine ⟨r, new ++ more, ?_, ?_, hp.append hp', he, List.forall_mem_append.2 ⟨hn, hn'⟩⟩
      · simpa using hrun
      · simpa using hrun'

variable {scope : Scope} {G : Demand → Prop} {E : SchemaError → Prop} {N : String → Prop}

theorem tracking_throw {depth : Nat} {α : Type} {e : SchemaError} (he : E e) :
    (scope.tracking depth E N).rel (throw e : Tracked α) (throw e) := by
  intro marks passes
  refine ⟨.error e, [], by simp; rfl, by simp; rfl, .nil, ?_, nofun⟩
  rintro _ ⟨⟩
  exact he

/-- A pass is one more level for what it begins itself. -/
theorem tracking_once {depth : Nat} {name : String} {target : Value} (hd : scope.Defines name target) (hN : N name)
    {check : Value → Tracked Unit} {check' : Value → Build Unit}
    (hc : (scope.tracking (depth + 1) E N).rel (check target) (check' target)) :
    (scope.tracking depth E N).rel (scope.passOnce (depth + 1) name target check)
      (scope.checkOnce name target check') := by
  intro marks passes
  rw [run_passOnce, run_checkOnce]
  by_cases hm : scope.mark name ∈ marks
  · rw [if_pos hm, if_pos hm]
    exact ⟨.ok (), [], by simp, by simp, .nil, nofun, nofun⟩
  · rw [if_neg hm, if_neg hm]
    obtain ⟨r, inner, hrun, hrun', hp, he, hn⟩ :=
      hc (marks ++ [scope.mark name]) (passes ++ [⟨name, depth + 1, marks⟩])
    refine ⟨r, ⟨name, depth + 1, marks⟩ :: (inner ++ []), ?_, ?_, .check hd hm hp .nil, he, ?_⟩
    · simpa using hrun
    · simpa using hrun'
    · simpa using ⟨hN, hn⟩

theorem tracking_with (hG : scope.Follows G E N) {depth : Nat} {ref : Value} (hr : G (.reference ref))
    {check : Value → Tracked Unit} {check' : Value → Build Unit}
    (hc : ∀ target, (∀ d ∈ (Schema.ofValue target).demands true, G d) →
      (scope.tracking (depth + 1) E N).rel (check target) (check' target)) :
    (scope.tracking depth E N).rel (scope.trackWith (depth + 1) check ref) (scope.resolveWith check' ref) := by
  rw [trackWith, resolveWith_eq]
  cases hl : scope.lookUp ref with
  | error e => exact tracking_throw (hG.reference hr hl)
  | ok definition =>
    obtain ⟨name, target⟩ := definition
    obtain ⟨hN, hd⟩ := hG.definition hr hl
    obtain ⟨_, _, _, hdefines⟩ := lookUp_ok.1 hl
    have hrel := (scope.tracking depth E N).bind (tracking_once hdefines hN (hc target hd)) fun _ =>
      Simulation.pure _ (Validator.reference scope name target)
    exact hrel

theorem tracking_compile (hG : scope.Follows G E N) {depth : Nat} {resolve : Value → Tracked Validator}
    {resolve' : Value → Build Validator}
    (hr : ∀ ref, G (.reference ref) → (scope.tracking depth E N).rel (resolve ref) (resolve' ref))
    {s : Schema} (hs : ∀ d ∈ s.demands true, G d) :
    (scope.tracking depth E N).rel (s.compileWith resolve) (s.compileWith resolve') := by
  refine (scope.tracking depth E N).compileDemands s fun d hd => ?_
  cases d with
  | reference ref => exact hr ref (hs _ hd)
  | type spec =>
    show (scope.tracking depth E N).rel (MonadExcept.ofExcept _) (MonadExcept.ofExcept _)
    cases ht : Validator.ofType spec with
    | ok v => exact Simulation.pure _ v
    | error e => exact tracking_throw (hG.type (hs _ hd) ht)

theorem tracking_within (hG : scope.Follows G E N) (fuel depth : Nat) (ref : Value) (hr : G (.reference ref)) :
    (scope.tracking depth E N).rel (scope.trackWithin fuel depth ref) (scope.resolveWithin fuel ref) := by
  induction fuel generalizing depth ref with
  | zero => exact tracking_with hG hr fun _ _ => Simulation.pure _ _
  | succ fuel ih =>
    refine tracking_with hG hr fun target hd => ?_
    exact (scope.tracking (depth + 1) E N).bind (tracking_compile hG (ih (depth + 1)) hd) fun _ =>
      Simulation.pure _ _

/-! ## Room for passes -/

/-- Where at most `n` definitions have no mark, both sides do the same. -/
def steady (scope : Scope) (n : Nat) : Simulation Tracked Tracked where
  rel x y := ∀ marks passes, scope.unmarked marks ≤ n →
    x.run (marks, passes) = y.run (marks, passes) ∧ marks ⊆ (x.run (marks, passes)).2.1
  pure _ _ _ _ := ⟨rfl, List.Subset.refl _⟩
  bind {_ _ x y f g} hx hf marks passes hn := by
    obtain ⟨heq, hsub⟩ := hx marks passes hn
    rw [run_bind, run_bind, ← heq]
    rcases hr : x.run (marks, passes) with ⟨e | a, marks', passes'⟩
    · rw [hr] at hsub
      exact ⟨rfl, hsub⟩
    · rw [hr] at hsub
      obtain ⟨heq, hsub'⟩ := hf a marks' passes' (Nat.le_trans (unmarked_anti hsub) hn)
      exact ⟨heq, List.Subset.trans hsub hsub'⟩

theorem steady_raises {n : Nat} : (scope.steady n).Raises := fun _ _ _ _ => ⟨rfl, List.Subset.refl _⟩

theorem steady_with {n depth : Nat} {check check' : Value → Tracked Unit}
    (hc : ∀ target k, n = k + 1 → (scope.steady k).rel (check target) (check' target)) (ref : Value) :
    (scope.steady n).rel (scope.trackWith depth check ref) (scope.trackWith depth check' ref) := by
  unfold trackWith
  cases hl : scope.lookUp ref with
  | error e => exact steady_raises e
  | ok definition =>
    obtain ⟨name, target⟩ := definition
    obtain ⟨_, _, _, hd⟩ := lookUp_ok.1 hl
    have honce : (scope.steady n).rel (scope.passOnce depth name target check)
        (scope.passOnce depth name target check') := by
      intro marks passes hn
      rw [run_passOnce, run_passOnce]
      by_cases hm : scope.mark name ∈ marks
      · rw [if_pos hm, if_pos hm]
        exact ⟨rfl, List.Subset.refl _⟩
      · rw [if_neg hm, if_neg hm]
        -- the definition had no mark, so there is one less without a mark from here on
        have hless : scope.unmarked (marks ++ [scope.mark name]) < scope.unmarked marks :=
          unmarked_mark hd (decide_eq_false_iff_not.2 hm)
        obtain ⟨k, rfl⟩ : ∃ k, n = k + 1 := ⟨n - 1, by omega⟩
        obtain ⟨heq, hsub⟩ := hc target k rfl (marks ++ [scope.mark name]) (passes ++ [⟨name, depth, marks⟩]) (by omega)
        exact ⟨heq, List.Subset.trans (List.subset_append_left _ _) hsub⟩
    have hrel := (scope.steady n).bind honce fun _ => Simulation.pure _ (Validator.reference scope name target)
    exact hrel

/-- Room for as many passes as definitions have no mark is as good as more of it. -/
theorem steady_within {n fuel fuel' : Nat} (hf : n ≤ fuel) (hf' : n ≤ fuel') (depth : Nat) (ref : Value) :
    (scope.steady n).rel (scope.trackWithin fuel depth ref) (scope.trackWithin fuel' depth ref) := by
  induction n generalizing fuel fuel' depth ref with
  | zero =>
    have hzero : ∀ f, ∃ check, scope.trackWithin f depth = scope.trackWith (depth + 1) check := by
      intro f
      cases f <;> exact ⟨_, rfl⟩
    obtain ⟨check, hcheck⟩ := hzero fuel
    obtain ⟨check', hcheck'⟩ := hzero fuel'
    rw [hcheck, hcheck']
    exact steady_with (fun _ _ h => by cases h) ref
  | succ n ih =>
    obtain ⟨f, rfl⟩ : ∃ f, fuel = f + 1 := ⟨fuel - 1, by omega⟩
    obtain ⟨f', rfl⟩ : ∃ f', fuel' = f' + 1 := ⟨fuel' - 1, by omega⟩
    refine steady_with (fun target k hk => ?_) ref
    cases hk
    refine (scope.steady n).bind ?_ fun _ => Simulation.pure _ _
    exact (scope.steady n).compileWith steady_raises (ih (by omega) (by omega) (depth + 1)) _

theorem run_track_of_size_le {fuel : Nat} (h : scope.size ≤ fuel) (node : Value) (marks : List Mark)
    (passes : List Pass) :
    (scope.track fuel node).run (marks, passes) = (scope.track scope.size node).run (marks, passes) := by
  have hrel := (scope.steady scope.size).compileWith steady_raises
    (steady_within h (Nat.le_refl scope.size) 0) (Schema.ofValue node)
  exact (hrel marks passes (unmarked_le_size marks)).1

/-! ## Compiling again -/

/-- At `marks` the right side finds what the left side finds, and begins no pass. -/
def quiet (marks : List Mark) : Simulation (Except SchemaError) Tracked where
  rel x y := ∀ a, x = .ok a → ∀ passes, y.run (marks, passes) = (.ok a, marks, passes)
  pure _ _ h _ := by
    cases h
    rfl
  bind hx hf b hb passes := by
    obtain ⟨a, ha, hb⟩ := except_bind_ok.1 hb
    rw [run_bind_of_ok (hx a ha passes)]
    exact hf a b hb passes

/-- A node that links with marked definitions compiles without a pass. -/
theorem track_of_linked {marks : List Mark} {node : Value} {v : Validator}
    (h : scope.linked (scope.marked marks) node = .ok v) (fuel : Nat) (passes : List Pass) :
    (scope.track fuel node).run (marks, passes) = (.ok v, marks, passes) := by
  refine (quiet marks).compileWith (fun _ _ he => by cases he) (fun ref w hw passes => ?_) _ v h passes
  obtain ⟨r, target, hr, hd, hm, rfl⟩ := link_ok.1 hw
  have hl : scope.lookUp ref = .ok (r.name, target) := lookUp_ok.2 ⟨r, hr, rfl, hd⟩
  have hwith : ∀ check, (scope.trackWith 1 check ref).run (marks, passes) =
      (.ok (.reference scope r.name target), marks, passes) := by
    intro check
    have honce : (scope.passOnce 1 r.name target check).run (marks, passes) = (.ok (), marks, passes) := by
      rw [run_passOnce, if_pos (marked_iff.1 hm)]
    rw [trackWith, hl]
    exact run_bind_of_ok honce
  cases fuel <;> exact hwith _

/-! ## Compiling a document -/

theorem follows_all : scope.Follows (fun _ => True) (fun _ => True) fun _ => True where
  type _ _ := trivial
  reference _ _ := trivial
  definition _ _ := ⟨trivial, fun _ _ => trivial⟩

/-- What tracked work does is what the work does that is not tracked. -/
theorem run_track {E : SchemaError → Prop} {N : String → Prop} {G : Demand → Prop} (hG : scope.Follows G E N)
    {node : Value} (hnode : ∀ d ∈ (Schema.ofValue node).demands true, G d) (fuel : Nat) (marks : List Mark) :
    ∃ r passes, (scope.track fuel node).run (marks, []) = (r, marks ++ scope.marksOf passes, passes) ∧
      ((Schema.ofValue node).compileWith (scope.resolveWithin fuel)).run marks =
        (r, marks ++ scope.marksOf passes) ∧
      scope.Passes 0 marks passes ∧ (∀ e, r = .error e → E e) ∧ ∀ p ∈ passes, N p.name := by
  have hrel := tracking_compile hG (tracking_within hG fuel 0) hnode
  obtain ⟨r, passes, h⟩ := hrel marks []
  exact ⟨r, passes, h⟩

/-- A definition is checked by compiling it in the way in which everything is compiled: the bound on
passes inside each other is never felt. -/
theorem resolve_eq (ref : Value) : scope.resolve ref = scope.resolveWith (fun target => do
    let _ ← scope.compile target
    pure ()) ref := by
  have hrun : ∀ marks, (scope.resolveWithin scope.size ref).run marks =
      (scope.resolveWithin (scope.size + 1) ref).run marks := by
    intro marks
    obtain ⟨r, new, ht, hr, _⟩ := tracking_within follows_all scope.size 0 ref trivial marks []
    obtain ⟨r', new', ht', hr', _⟩ := tracking_within follows_all (scope.size + 1) 0 ref trivial marks []
    obtain ⟨hsame, _⟩ := steady_within (Nat.le_refl scope.size) (Nat.le_succ scope.size) 0 ref marks []
      (unmarked_le_size marks)
    rw [ht, ht'] at hsame
    obtain ⟨hresult, hsame⟩ := Prod.mk.inj hsame
    obtain ⟨hmarks, _⟩ := Prod.mk.inj hsame
    rw [hr, hr', hresult, hmarks]
  exact funext hrun

end Scope

namespace Validator

/-- Compiling a document ends: it checks a definition by compiling it in turn, and however much room there
is for passes inside each other, it needs no more than the table has definitions. No definition has two
passes, and marks are only added, one for each pass that begins. After a success in a new scope, all that
the calls of a session open compiles without a pass. -/
theorem passes_of_compile {id : Nat} {document definitions : Value} {before : List Mark}
    (fresh : ∀ m ∈ before, m.scope ≠ id) :
    let scope : Scope := ⟨id, effectiveDefinitions document definitions⟩
    (∀ ref, scope.resolve ref = scope.resolveWith (fun target => do let _ ← scope.compile target; pure ()) ref) ∧
    ∃ r after passes, (compileDocument id document definitions).run before = (r, after) ∧
      (∀ room, scope.size ≤ room → (scope.track room document).run (before, []) = (r, after, passes)) ∧
      (passes.map (·.name)).Nodup ∧ (∀ p ∈ passes, p.depth ≤ scope.size) ∧
      after = before ++ scope.marksOf passes ∧
      (∀ (i : Nat) p, passes[i]? = some p → p.marks = before ++ scope.marksOf (passes.take i)) ∧
      ∀ v, r = .ok v → ∀ limit calls, ∃ answers log,
        (session watch limit v calls).run (after, []) = (.ok answers, after, log) ∧
        ∀ o ∈ log, ∃ name target w, o.body = .node scope target ∧ o.result = .ok w ∧ scope.Defines name target ∧
          (scope.track scope.size target).run (after, []) = (.ok w, after, []) := by
  intro scope
  have hfollows : scope.Follows (fun _ => True) (fun _ => True) fun _ => True := Scope.follows_all
  have hdemands : ∀ d ∈ (Schema.ofValue document).demands true, True := fun _ _ => trivial
  obtain ⟨r, passes, ht, hc, hp, _, _⟩ := Scope.run_track hfollows hdemands scope.size before
  refine ⟨Scope.resolve_eq, r, _, passes, hc, ?_, hp.nodup, ?_, rfl, fun i p h => hp.marks_eq h, ?_⟩
  · intro room hroom
    rw [Scope.run_track_of_size_le hroom, ht]
  · intro p hmem
    have hle := hp.depth_le p hmem
    have hsize := scope.unmarked_le_size before
    omega
  · rintro v rfl limit calls
    obtain ⟨_, hcompiled⟩ := Scope.compile_fresh fresh hc
    have hrun := session_run limit (hcompiled.safe (List.Subset.refl _)) calls
    obtain ⟨answers, log, hwatched, hrun', hlog⟩ :=
      session_watched hcompiled.opens (Scope.bodies_of_linked hcompiled.linked) limit calls []
    rw [hrun] at hrun'
    cases hrun'
    refine ⟨_, log, hwatched, fun o ho => ?_⟩
    obtain ⟨name, target, w, hbody, hresult, hchecked, _⟩ := hlog o ho
    exact ⟨name, target, w, hbody, hresult, hchecked.defines, Scope.track_of_linked hchecked.linked _ []⟩

set_option maxRecDepth 2000 in
/-- The pass for the first definition begins the one for the cycle, which begins none. -/
theorem passes_of_compile_detour :
    ∃ passes, (∀ room, 2 ≤ room → (detourScope.track room detourDocument).run ([], []) =
        (.ok (.reference detourScope "A" detour), [⟨0, "A"⟩, ⟨0, "L"⟩], passes)) ∧
      passes.map (fun p => (p.name, p.depth)) = [("A", 1), ("L", 2)] ∧ (passes.map (·.name)).Nodup ∧
      (∀ p ∈ passes, p.depth ≤ 2) ∧ ∃ answers log,
        (session watch 3 (.reference detourScope "A" detour) [.diagnose (.int 1)]).run ([⟨0, "A"⟩, ⟨0, "L"⟩], []) =
          (.ok answers, [⟨0, "A"⟩, ⟨0, "L"⟩], log) ∧
        ∀ o ∈ log, ∃ name target w, o.body = .node detourScope target ∧ o.result = .ok w ∧
          detourScope.Defines name target ∧
          (detourScope.track 2 target).run ([⟨0, "A"⟩, ⟨0, "L"⟩], []) = (.ok w, [⟨0, "A"⟩, ⟨0, "L"⟩], []) := by
  have hfresh : ∀ m ∈ ([] : List Mark), m.scope ≠ 0 := List.forall_mem_nil _
  obtain ⟨_, r, after, passes, hr, hroom, hnodup, hdepth, _, _, hsession⟩ :=
    @passes_of_compile 0 detourDocument .null [] hfresh
  rw [compile_detour] at hr
  cases hr
  refine ⟨passes, hroom, ?_, hnodup, hdepth, hsession _ rfl 3 [.diagnose (.int 1)]⟩
  have hrun : ((detourScope.track 2 detourDocument).run ([], [])).2.2.map (fun p => (p.name, p.depth)) =
      [("A", 1), ("L", 2)] := rfl
  have htwo : (detourScope.track 2 detourDocument).run ([], []) = (_, _, passes) := hroom 2 (Nat.le_refl 2)
  rw [htwo] at hrun
  exact hrun

end Validator

end Conformance
