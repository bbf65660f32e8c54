import Conformance.Proofs.NormalForm
import Mathlib.Data.List.Forall2
/-!
# Synonyms

A schema may say the same thing in several ways. Conjunctions may be nested in each other or not, a
constraint that says nothing may be there or not, and one type may have several names. Synonyms compile
alike wherever their references are resolved to checks in normal form: to the same validator or to
the same error, and the same references are resolved on the way.
-/

namespace Conformance

namespace Schema

open Validator

/-- The two differ, at any depth, in nothing but the nesting of conjunctions, constraints that say nothing and
spellings of types. -/
inductive Synonym : Schema → Schema → Prop
  | refl (s : Schema) : Synonym s s
  | symm {s t : Schema} (h : Synonym s t) : Synonym t s
  | trans {s t u : Schema} (h : Synonym s t) (h' : Synonym t u) : Synonym s u
  | part (pre post : List Schema) {s t : Schema} (h : Synonym s t) :
    Synonym (.all (pre ++ s :: post)) (.all (pre ++ t :: post))
  | branch (pre post : List Schema) {s t : Schema} (h : Synonym s t) :
    Synonym (.choice (pre ++ s :: post)) (.choice (pre ++ t :: post))
  | field (needed : List String) (pre post : List (String × Schema)) (key : String) {s t : Schema} (h : Synonym s t) :
    Synonym (.properties needed (pre ++ (key, s) :: post)) (.properties needed (pre ++ (key, t) :: post))
  | items {s t : Schema} (h : Synonym s t) : Synonym (.items s) (.items t)
  | position (pre post : List Schema) {s t : Schema} (h : Synonym s t) :
    Synonym (.positions (pre ++ s :: post)) (.positions (pre ++ t :: post))
  | splice (pre parts post : List Schema) : Synonym (.all (pre ++ .all parts :: post)) (.all (pre ++ (parts ++ post)))
  | anything : Synonym .anything (.all [])
  | unrequired : Synonym (.required []) (.all [])
  | type {spec spec' : Value} (h : ofType spec = ofType spec') : Synonym (.type spec) (.type spec')

theorem Synonym.of_eq {s t : Schema} (h : s = t) : Synonym s t := by
  rw [h]
  exact .refl t

/-! ## Compiling -/

section Compile

variable {m : Type → Type} [Monad m] [LawfulMonad m] [MonadExcept SchemaError m] {resolve : Value → m Validator}

theorem compileAll_append (ss ts : List Schema) : compileAll resolve (ss ++ ts) = (do
    let vs ← compileAll resolve ss
    let ws ← compileAll resolve ts
    pure (vs ++ ws)) := by
  induction ss with
  | nil => simp [compileAll]
  | cons s ss ih => simp [compileAll, ih]

theorem compileFields_append (fields more : List (String × Schema)) :
    compileFields resolve (fields ++ more) = (do
      let vs ← compileFields resolve fields
      let ws ← compileFields resolve more
      pure (vs ++ ws)) := by
  induction fields with
  | nil => simp [compileFields]
  | cons f fields ih =>
    obtain ⟨key, s⟩ := f
    simp [compileFields, ih]

theorem compileAll_middle (pre post : List Schema) {s t : Schema}
    (h : s.compileWith resolve = t.compileWith resolve) :
    compileAll resolve (pre ++ s :: post) = compileAll resolve (pre ++ t :: post) := by
  rw [compileAll_append, compileAll_append, compileAll, compileAll, h]

variable [MonadAttach m] [LawfulMonadAttach m]

/-- A conjunction in a conjunction adds what its parts add. -/
theorem compileWith_splice (hr : Supplies Tidy resolve) (pre parts post : List Schema) :
    (all (pre ++ all parts :: post)).compileWith resolve = (all (pre ++ (parts ++ post))).compileWith resolve := by
  simp only [compileWith, compileAll_append, compileAll, bind_assoc, pure_bind]
  apply bind_congr
  intro us
  apply bind_congr_of_canReturn
  intro vs hvs
  apply bind_congr
  intro ws
  have htidy : ∀ v ∈ vs, Tidy v := closed_tidy.suppliedAll hr parts vs hvs
  have hevery : every (us ++ every vs :: ws) = every (us ++ (vs ++ ws)) := by
    apply every_congr
    simp only [List.flatMap_append, List.flatMap_cons, conjuncts_every htidy]
  rw [hevery]

/-- Synonyms compile alike. -/
theorem Synonym.compileWith_eq (hr : Supplies Tidy resolve) {s t : Schema} (h : Synonym s t) :
    s.compileWith resolve = t.compileWith resolve := by
  induction h with
  | refl s => rfl
  | symm _ ih => exact ih.symm
  | trans _ _ ih ih' => exact ih.trans ih'
  | part pre post _ ih => rw [compileWith, compileWith, compileAll_middle pre post ih]
  | branch pre post _ ih => rw [compileWith, compileWith, compileAll_middle pre post ih]
  | field needed pre post key _ ih =>
    rw [compileWith, compileWith, compileFields_append, compileFields_append, compileFields, compileFields, ih]
  | items _ ih => rw [compileWith, compileWith, ih]
  | position pre post _ ih => rw [compileWith, compileWith, compileAll_middle pre post ih]
  | splice pre parts post => exact compileWith_splice hr pre parts post
  | anything => simp [compileWith, compileAll, every]
  | unrequired => simp [compileWith, compileAll, every]
  | type h => rw [compileWith, compileWith, h]

end Compile

/-! ## Conjunctions -/

namespace Synonym

/-- Part by part. -/
theorem parts {ss ts : List Schema} (h : List.Forall₂ Synonym ss ts) : Synonym (.all ss) (.all ts) := by
  suffices hpre : ∀ pre, Synonym (.all (pre ++ ss)) (.all (pre ++ ts)) from hpre []
  induction h with
  | nil =>
    intro pre
    exact .refl _
  | @cons s t ss ts hs _ ih =>
    intro pre
    have hrest := ih (pre ++ [t])
    rw [List.append_assoc, List.append_assoc] at hrest
    exact (part pre ss hs).trans hrest

variable {s : Schema} {pre post : List Schema}

/-- A part that says nothing may go. -/
theorem drop (h : Synonym s (.all [])) : Synonym (.all (pre ++ s :: post)) (.all (pre ++ post)) :=
  (part pre post h).trans (splice pre [] post)

theorem drop_all {idle : List Schema} (h : ∀ s ∈ idle, Synonym s (.all [])) : Synonym (.all (idle ++ post)) (.all post) := by
  induction idle with
  | nil => exact .refl _
  | cons s idle ih =>
    obtain ⟨hs, hidle⟩ := List.forall_mem_cons.1 h
    exact (@drop s [] (idle ++ post) hs).trans (ih hidle)

end Synonym

/-! ## Meanings -/

instance setoid : Setoid Schema where
  r := Synonym
  iseqv := ⟨.refl, .symm, .trans⟩

/-- A schema up to synonyms. -/
def Sense : Type := Quotient setoid

/-- What the schema says. -/
def sense (s : Schema) : Sense := Quotient.mk _ s

theorem sense_eq_iff {s t : Schema} : sense s = sense t ↔ Synonym s t := ⟨Quotient.exact, fun h => Quotient.sound h⟩

end Schema

/-! ## References -/

namespace Scope

open Validator

/-- A reference is resolved to a check in normal form, whatever stands in the definition. -/
theorem supplies_link (scope : Scope) (known : String → Bool) : Supplies Tidy (scope.link known) where
  reference ref v h := by
    obtain ⟨_, _, _, _, _, rfl⟩ := link_ok.1 h
    exact .mk trivial nofun
  type spec v h := closed_tidy.ofType (ofExcept_ok.1 h)

theorem supplies_with (scope : Scope) (check : Value → Build Unit) : Supplies Tidy (scope.resolveWith check) where
  reference ref v h := by
    obtain ⟨r, _, h⟩ := LawfulMonadAttach.canReturn_bind_imp' h
    obtain ⟨target, _, h⟩ := LawfulMonadAttach.canReturn_bind_imp' h
    obtain ⟨_, _, h⟩ := LawfulMonadAttach.canReturn_bind_imp' h
    cases LawfulMonadAttach.eq_of_canReturn_pure h
    exact .mk trivial nofun
  type spec v h := closed_tidy.ofType (canReturn_ofExcept h)

theorem supplies_within (scope : Scope) (fuel : Nat) : Supplies Tidy (scope.resolveWithin fuel) := by
  cases fuel with
  | zero => exact scope.supplies_with _
  | succ fuel => exact scope.supplies_with _

end Scope

end Conformance
