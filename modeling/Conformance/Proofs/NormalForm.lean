import Conformance.Proofs.Correctness
import Mathlib.Data.List.Basic
/-!
# Normal form

A conjunction in normal form has at least two members, none of them a conjunction or a check that
accepts anything; a disjunction has no or at least two branches, none of them a disjunction or such a
check. The combinators splice one level only. That is enough because whatever they build is in normal
form all through, and so is what a reference in it is compiled to when a value arrives. Hence members may be
grouped in any way: the same validator is built.
-/

namespace Conformance.Validator

/-! ## Checks inside a check -/

def isAll : Validator → Bool
  | all _ => true
  | _ => false

def isAny : Validator → Bool
  | any _ => true
  | _ => false

/-- A conjunction or disjunction has nothing to splice, drop, absorb or unwrap. -/
def Normal : Validator → Prop
  | all members => 2 ≤ members.length ∧ ∀ v ∈ members, v.isAll = false ∧ v.isAnything = false
  | any members => members.length ≠ 1 ∧ ∀ v ∈ members, v.isAny = false ∧ v.isAnything = false
  | _ => True

/-- The check is made of the other one. -/
inductive Part : Validator → Validator → Prop
  | conjunct {members : List Validator} {v : Validator} (h : v ∈ members) : Part (.all members) v
  | branch {members : List Validator} {v : Validator} (h : v ∈ members) : Part (.any members) v
  | field (coverage : Coverage) {fields : List (String × Validator)} {f : String × Validator} (h : f ∈ fields) :
    Part (.shape coverage fields) f.2
  | element (v : Validator) : Part (.arrayOf v) v
  | position {positions : List Validator} {v : Validator} (h : v ∈ positions) : Part (.tupleOf positions) v
  | body (name : String) (v : Validator) : Part (.deferred name v) v

/-- The other check stands in this one, at any depth and behind any number of references, each of which is
compiled at some marks. -/
inductive Inside : Validator → Validator → Prop
  | self (v : Validator) : Inside v v
  | part {v w u : Validator} (hp : Part v w) (h : Inside w u) : Inside v u
  | opened {scope : Scope} {target : Value} {marks marks' : List Mark} {w u : Validator} (name : String)
    (ho : (scope.compile target).run marks = (.ok w, marks')) (h : Inside w u) : Inside (.reference scope name target) u

/-- In normal form all through, short of references. -/
inductive Tidy : Validator → Prop
  | mk {v : Validator} (h : v.Normal) (hp : ∀ w, Part v w → Tidy w) : Tidy v

theorem Tidy.normal {v : Validator} (h : Tidy v) : v.Normal := by
  cases h with
  | mk h _ => exact h

theorem Tidy.part {v w : Validator} (h : Tidy v) (hp : Part v w) : Tidy w := by
  cases h with
  | mk _ h => exact h w hp

/-! ## Members -/

variable {v w : Validator} {vs : List Validator}

theorem conjuncts_of_not_all (hv : v.isAll = false) (ha : v.isAnything = false) : v.conjuncts = [v] := by
  cases v with
  | all members => cases hv
  | anything => cases ha
  | _ => rfl

theorem disjuncts_of_not_any (hv : v.isAny = false) : v.disjuncts = [v] := by
  cases v with
  | any members => cases hv
  | _ => rfl

/-- What a tidy check adds to a conjunction is tidy and adds itself alone. -/
theorem Tidy.conjunct (h : Tidy v) (hw : w ∈ v.conjuncts) : Tidy w ∧ w.isAll = false ∧ w.isAnything = false := by
  have hself : v.conjuncts = [v] → v.isAll = false ∧ v.isAnything = false →
      Tidy w ∧ w.isAll = false ∧ w.isAnything = false := by
    intro hc hv
    rw [hc] at hw
    cases List.mem_singleton.1 hw
    exact ⟨h, hv⟩
  cases v with
  | anything => cases hw
  | all members => exact ⟨h.part (.conjunct hw), h.normal.2 w hw⟩
  | _ => exact hself rfl ⟨rfl, rfl⟩

/-- What a tidy check adds to a disjunction, unless it absorbs it. -/
theorem Tidy.disjunct (h : Tidy v) (ha : v.isAnything = false) (hw : w ∈ v.disjuncts) :
    Tidy w ∧ w.isAny = false ∧ w.isAnything = false := by
  have hself : v.disjuncts = [v] → v.isAny = false → Tidy w ∧ w.isAny = false ∧ w.isAnything = false := by
    intro hd hv
    rw [hd] at hw
    cases List.mem_singleton.1 hw
    exact ⟨h, hv, ha⟩
  cases v with
  | any members => exact ⟨h.part (.branch hw), h.normal.2 w hw⟩
  | _ => exact hself rfl rfl

theorem tidy_conjuncts (h : ∀ v ∈ vs, Tidy v) :
    ∀ w ∈ vs.flatMap conjuncts, Tidy w ∧ w.isAll = false ∧ w.isAnything = false := by
  intro w hw
  obtain ⟨v, hv, hw⟩ := List.mem_flatMap.1 hw
  exact (h v hv).conjunct hw

theorem tidy_disjuncts (h : ∀ v ∈ vs, Tidy v) (ha : vs.any isAnything = false) :
    ∀ w ∈ vs.flatMap disjuncts, Tidy w ∧ w.isAny = false ∧ w.isAnything = false := by
  intro w hw
  obtain ⟨v, hv, hw⟩ := List.mem_flatMap.1 hw
  exact (h v hv).disjunct (Bool.eq_false_iff.2 (List.any_eq_false.1 ha v hv)) hw

/-! ## What the combinators build -/

theorem tidy_every (h : ∀ v ∈ vs, Tidy v) : Tidy (every vs) := by
  have hm := tidy_conjuncts h
  unfold every
  split
  · exact .mk trivial nofun
  · next v hv => exact (hm v (by rw [hv]; exact List.mem_singleton.2 rfl)).1
  · next members hnil hsingle =>
    refine .mk ⟨?_, fun w hw => (hm w hw).2⟩ fun w hp => ?_
    · match hl : vs.flatMap conjuncts with
      | [] => exact absurd hl hnil
      | [v] => exact absurd hl (hsingle v)
      | _ :: _ :: _ => simp
    · cases hp with
      | conjunct hw => exact (hm w hw).1

theorem tidy_either (h : ∀ v ∈ vs, Tidy v) : Tidy (either vs) := by
  unfold either
  split
  · exact .mk trivial nofun
  · next ha =>
    have hm := tidy_disjuncts h (Bool.eq_false_iff.2 ha)
    split
    · next v hv => exact (hm v (by rw [hv]; exact List.mem_singleton.2 rfl)).1
    · next members hsingle =>
      refine .mk ⟨fun hl => ?_, fun w hw => (hm w hw).2⟩ fun w hp => ?_
      · obtain ⟨v, hv⟩ := List.length_eq_one_iff.1 hl
        exact hsingle v hv
      · cases hp with
        | branch hw => exact (hm w hw).1

theorem closed_tidy : Closed Tidy where
  guard _ := .mk trivial nofun
  literal _ := .mk trivial nofun
  hasKey _ := .mk trivial nofun
  every _ h := tidy_every h
  either _ h := tidy_either h
  shape coverage fields h := .mk trivial fun w hp => by
    cases hp with
    | field _ hf => exact h _ hf
  arrayOf element h := .mk trivial fun w hp => by
    cases hp with
    | element => exact h
  tupleOf positions h := .mk trivial fun w hp => by
    cases hp with
    | position hw => exact h w hw

/-- Whatever compiles is tidy, whatever is marked. -/
theorem tidy_of_compile {scope : Scope} {node : Value} {marks marks' : List Mark}
    (h : (scope.compile node).run marks = (.ok v, marks')) : Tidy v := by
  refine closed_tidy.compileWith (fun ref w hw => ?_) _ v (Scope.linked_of_compile h)
  obtain ⟨r, target, _, _, _, rfl⟩ := Scope.link_ok.1 hw
  exact .mk trivial nofun

theorem Built.tidy {marks : List Mark} (h : Built marks v) : Tidy v := by
  induction h with
  | anything => exact .mk trivial nofun
  | guard kind => exact closed_tidy.guard kind
  | literal expected => exact closed_tidy.literal expected
  | hasKey key => exact closed_tidy.hasKey key
  | every _ ih => exact tidy_every ih
  | either _ ih => exact tidy_either ih
  | shape coverage _ ih => exact closed_tidy.shape coverage _ ih
  | arrayOf _ ih => exact closed_tidy.arrayOf _ ih
  | tupleOf _ ih => exact closed_tidy.tupleOf _ ih
  | deferred name _ ih =>
    refine .mk trivial fun w hp => ?_
    cases hp with
    | body => exact ih
  | compiled _ h _ => exact tidy_of_compile h

/-- What is inside a tidy check is tidy: behind a reference stands what has just been compiled. -/
theorem Tidy.inside (hv : Tidy v) (h : Inside v w) : Tidy w := by
  induction h with
  | self => exact hv
  | part hp _ ih => exact ih (hv.part hp)
  | opened _ ho _ ih => exact ih (tidy_of_compile ho)

/-! ## Grouping -/

/-- A conjunction adds what its members add. -/
theorem conjuncts_every (h : ∀ v ∈ vs, Tidy v) : (every vs).conjuncts = vs.flatMap conjuncts := by
  have hm := tidy_conjuncts h
  unfold every
  split
  · next hnil => rw [hnil, conjuncts]
  · next v hv =>
    obtain ⟨_, hall, hanything⟩ := hm v (by rw [hv]; exact List.mem_singleton.2 rfl)
    rw [hv, conjuncts_of_not_all hall hanything]
  · rfl

theorem isAnything_either (h : ∀ v ∈ vs, Tidy v) : (either vs).isAnything = vs.any isAnything := by
  unfold either
  split
  · next ha => rw [ha, isAnything]
  · next ha =>
    have ha' := Bool.eq_false_iff.2 ha
    rw [ha']
    split
    · next v hv => exact (tidy_disjuncts h ha' v (by rw [hv]; exact List.mem_singleton.2 rfl)).2.2
    · rfl

/-- A disjunction that is not absorbed adds what its branches add. -/
theorem disjuncts_either (h : ∀ v ∈ vs, Tidy v) (ha : vs.any isAnything = false) :
    (either vs).disjuncts = vs.flatMap disjuncts := by
  unfold either
  rw [ha, if_neg Bool.false_ne_true]
  split
  · next v hv =>
    obtain ⟨_, hany, _⟩ := tidy_disjuncts h ha v (by rw [hv]; exact List.mem_singleton.2 rfl)
    rw [hv, disjuncts_of_not_any hany]
  · rfl

theorem every_congr {ws : List Validator} (h : vs.flatMap conjuncts = ws.flatMap conjuncts) : every vs = every ws := by
  unfold every
  rw [h]

theorem either_congr {ws : List Validator} (ha : vs.any isAnything = ws.any isAnything)
    (h : vs.any isAnything = false → vs.flatMap disjuncts = ws.flatMap disjuncts) : either vs = either ws := by
  unfold either
  rw [← ha]
  split
  · rfl
  · next hno => rw [h (Bool.eq_false_iff.2 hno)]

variable {vss : List (List Validator)}

theorem every_groups (h : ∀ vs ∈ vss, ∀ v ∈ vs, Tidy v) : every (vss.map every) = every vss.flatten := by
  apply every_congr
  rw [List.flatMap_map, List.flatten_eq_flatMap, List.flatMap_assoc]
  exact List.flatMap_congr fun vs hvs => conjuncts_every (h vs hvs)

theorem either_groups (h : ∀ vs ∈ vss, ∀ v ∈ vs, Tidy v) : either (vss.map either) = either vss.flatten := by
  have hanything : (vss.map either).any isAnything = vss.flatten.any isAnything := by
    rw [List.any_map, List.any_flatten, Bool.eq_iff_iff, List.any_eq_true, List.any_eq_true]
    refine exists_congr fun vs => and_congr_right fun hvs => ?_
    rw [Function.comp_apply, isAnything_either (h vs hvs)]
  refine either_congr hanything fun hno => ?_
  -- no group is absorbed, so all of its branches are there on both sides
  have hgroup : ∀ vs ∈ vss, vs.any isAnything = false := by
    intro vs hvs
    rw [hanything, List.any_flatten] at hno
    exact Bool.eq_false_iff.2 (List.any_eq_false.1 hno vs hvs)
  rw [List.flatMap_map, List.flatten_eq_flatMap, List.flatMap_assoc]
  exact List.flatMap_congr fun vs hvs => disjuncts_either (h vs hvs) (hgroup vs hvs)

/-- Grouping the members of a conjunction or a disjunction makes no difference to what is built. In all that is
built, at any depth and behind any references, conjunctions and disjunctions are in normal form. -/
theorem combinators_associate {marks : List Mark} {vss : List (List Validator)}
    (h : ∀ vs ∈ vss, ∀ v ∈ vs, Built marks v) :
    every (vss.map every) = every vss.flatten ∧ either (vss.map either) = either vss.flatten ∧
      ∀ v w, Built marks v → Inside v w → w.Normal := by
  have htidy : ∀ vs ∈ vss, ∀ v ∈ vs, Tidy v := fun vs hvs v hv => (h vs hvs v hv).tidy
  exact ⟨every_groups htidy, either_groups htidy, fun v w hv hi => (hv.tidy.inside hi).normal⟩

/-- What the second branch of a chain asks for. -/
def chainLink : List Validator :=
  [.hasKey "value", .shape .full [("value", .guard .number)],
    .shape .present [("next", .reference chainScope "chain" chain)]]

set_option maxRecDepth 2000 in
theorem inside_chain : Inside (.reference chainScope "chain" chain) (.all chainLink) := by
  have ho : (chainScope.compile chain).run [⟨0, "chain"⟩] =
      (.ok (.any [.guard .null, .all chainLink]), [⟨0, "chain"⟩]) := rfl
  exact .opened "chain" ho (.part (.branch (.tail _ (.head _))) (.self _))

/-- Groups with an empty one, a disjunction that nothing passes, a check that accepts anything and a recursive
reference. -/
theorem combinators_associate_chain :
    let link := .reference chainScope "chain" chain
    every [every [.guard .object, .anything], every [], every [either [], link]] =
        every [.guard .object, .anything, either [], link] ∧
      either [either [.guard .object, .anything], either [], either [either [], link]] =
        either [.guard .object, .anything, either [], link] ∧
      Inside link (.all chainLink) ∧ Normal (.all chainLink) := by
  intro link
  have hlink : Built [⟨0, "chain"⟩] link := .compiled (List.forall_mem_nil _) compile_chain (List.Subset.refl _)
  have hbuilt : ∀ vs ∈ [[.guard .object, .anything], [], [either [], link]], ∀ v ∈ vs, Built [⟨0, "chain"⟩] v := by
    intro vs hvs
    simp only [List.mem_cons, List.not_mem_nil, or_false] at hvs
    rcases hvs with rfl | rfl | rfl
    · exact List.forall_mem_cons.2 ⟨.guard .object, List.forall_mem_singleton.2 .anything⟩
    · exact List.forall_mem_nil _
    · exact List.forall_mem_cons.2 ⟨.either (List.forall_mem_nil _), List.forall_mem_singleton.2 hlink⟩
  obtain ⟨hevery, heither, hnormal⟩ := combinators_associate hbuilt
  exact ⟨hevery, heither, inside_chain, hnormal _ _ hlink inside_chain⟩

end Conformance.Validator
