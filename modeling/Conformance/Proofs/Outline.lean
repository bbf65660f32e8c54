import Conformance.Proofs.Built
import Conformance.Proofs.Correctness
import Conformance.Proofs.Equality
/-!
# Checks of equal values

A check cannot tell equal values apart: neither by the order of their keys, nor by the class of an array or
the spelling of a number. The test gives the same answer, and the failures have the same outline, which is all
of a failure but the values in it. This holds of work with any effects, so also of what is marked and of errors.
-/

namespace Conformance

/-! ## Outlines -/

/-- A failure without the values. -/
inductive Outline where
  | node (operator : String) (children : List Outline) (label : Option Label)

namespace Diagnostic

mutual

def outline : Diagnostic → Outline
  | node operator _ children label => .node operator (outlines children) label

def outlines : List Diagnostic → List Outline
  | [] => []
  | d :: ds => outline d :: outlines ds

end

@[simp]
theorem outlines_append (ds es : List Diagnostic) : outlines (ds ++ es) = outlines ds ++ outlines es := by
  induction ds with
  | nil => rfl
  | cons d ds ih => rw [List.cons_append, outlines, ih, outlines, List.cons_append]

variable {d e : Diagnostic} {ds es : List Diagnostic}

theorem outline_node {operator : String} {label : Option Label} {x y : Value} (h : outlines ds = outlines es) :
    (node operator x ds label).outline = (node operator y es label).outline := by
  rw [outline, outline, h]

theorem outline_under (h : d.outline = e.outline) (label : Label) : (d.under label).outline = (e.under label).outline := by
  obtain ⟨operator, x, children, _⟩ := d
  obtain ⟨operator', y, children', _⟩ := e
  simp only [outline, Outline.node.injEq] at h
  obtain ⟨rfl, hc, _⟩ := h
  exact outline_node hc

/-- The outline of a failure, if there is one. -/
def outline? (d : Option Diagnostic) : Option Outline := d.map outline

/-- Both are missing, or both are there and look the same. -/
theorem map_eq_map {α β : Type} {f : α → β} {a b : Option α} (h : a.map f = b.map f) :
    (a = none ∧ b = none) ∨ ∃ x y, a = some x ∧ b = some y ∧ f x = f y := by
  cases a with
  | none => exact .inl ⟨rfl, Option.map_eq_none_iff.1 h.symm⟩
  | some x =>
    obtain ⟨y, rfl, hy⟩ := Option.map_eq_some_iff.1 h.symm
    exact .inr ⟨x, y, rfl, rfl, hy.symm⟩

theorem outline?_ofChildren {operator : String} {x y : Value} (h : outlines ds = outlines es) :
    outline? (ofChildren operator x ds) = outline? (ofChildren operator y es) := by
  cases ds with
  | nil =>
    cases es with
    | nil => rfl
    | cons e es => cases h
  | cons d ds =>
    cases es with
    | nil => cases h
    | cons e es => exact congrArg some (outline_node h)

theorem outlines_toList {d e : Option Diagnostic} (h : outline? d = outline? e) :
    outlines d.toList = outlines e.toList := by
  rcases map_eq_map h with ⟨rfl, rfl⟩ | ⟨d, e, rfl, rfl, hde⟩
  · rfl
  · exact congrArg (fun o => [o]) hde

theorem outlines_under {d e : Option Diagnostic} (h : outline? d = outline? e) (label : Label) :
    outlines (d.map (·.under label)).toList = outlines (e.map (·.under label)).toList := by
  refine outlines_toList ?_
  rcases map_eq_map h with ⟨rfl, rfl⟩ | ⟨d, e, rfl, rfl, hde⟩
  · rfl
  · exact congrArg some (outline_under hde label)

end Diagnostic

/-! ## Work that differs in its results only -/

section Alike

variable {m : Type → Type} [Monad m] {α β γ δ : Type}

/-- The effects are the same, and so are the results as far as `f` shows them. -/
def Alike (f : α → γ) (r s : m α) : Prop := f <$> r = f <$> s

variable [LawfulMonad m] {f : α → γ} {g : β → δ} {r s : m α} {k l : α → m β}

theorem alike_pure {a b : α} (h : f a = f b) : Alike f (pure a : m α) (pure b) := by
  unfold Alike
  rw [map_pure, map_pure, h]

/-- What follows may look at its argument through `f` only. -/
theorem Alike.bind (h : Alike f r s) (hk : ∀ a b, f a = f b → Alike g (k a) (l b)) :
    Alike g (r >>= k) (s >>= l) := by
  classical
  -- what follows, as a function of what `f` shows
  let next (c : γ) : m δ := if hc : ∃ b, f b = c then g <$> l hc.choose else g <$> (s >>= l)
  have hnext : ∀ a, g <$> k a = next (f a) := by
    intro a
    have hc : ∃ b, f b = f a := ⟨a, rfl⟩
    rw [show next (f a) = g <$> l hc.choose from dif_pos hc]
    exact hk a _ hc.choose_spec.symm
  have hnext' : ∀ b, g <$> l b = next (f b) := by
    intro b
    rw [← hnext b]
    exact (hk b b rfl).symm
  calc g <$> (r >>= k) = r >>= fun a => g <$> k a := map_bind ..
    _ = f <$> r >>= next := by rw [bind_map_left]; exact bind_congr hnext
    _ = f <$> s >>= next := by rw [show f <$> r = f <$> s from h]
    _ = s >>= fun b => g <$> l b := by rw [bind_map_left]; exact (bind_congr hnext').symm
    _ = g <$> (s >>= l) := (map_bind ..).symm

end Alike

/-! ## Work with a state -/

section Run

variable {ε σ α γ : Type} {f : α → γ}

theorem run_map (f : α → γ) (r : ExceptT ε (StateM σ) α) (t : σ) :
    (f <$> r).run t = ((r.run t).1.map f, (r.run t).2) := by
  rw [← bind_pure_comp, run_bind]
  rcases r.run t with ⟨_ | _, _⟩ <;> rfl

/-- In every state the runs end alike, and in one state. -/
theorem alike_iff {r s : ExceptT ε (StateM σ) α} :
    Alike f r s ↔ ∀ t, (r.run t).1.map f = (s.run t).1.map f ∧ (r.run t).2 = (s.run t).2 := by
  constructor
  · intro h t
    have ht := congrArg (fun w => w.run t) (show f <$> r = f <$> s from h)
    simp only [run_map] at ht
    exact Prod.mk.inj ht
  · intro h
    funext t
    show (f <$> r).run t = (f <$> s).run t
    rw [run_map, run_map, (h t).1, (h t).2]

theorem map_closing (a : α) (r : Except Interrupt α) :
    (Validator.closing a r).map f = Validator.closing (f a) (r.map f) := by
  rcases r with ⟨_ | e⟩ | b <;> rfl

/-- An outermost frame that ran out answers alike. -/
theorem Alike.close {r s : Frame σ α} (h : Alike f r s) {a b : α} (hf : f a = f b) :
    Alike f (r.close a) (s.close b) := by
  rw [alike_iff] at h ⊢
  intro t
  obtain ⟨hr, ht⟩ := h t
  rw [Validator.run_close, Validator.run_close, map_closing, map_closing, hr, hf]
  exact ⟨rfl, ht⟩

end Run

namespace Validator

/-! ## Testing -/

section Test

variable {m : Type → Type} [Monad m] {enter : Body → Value → m Bool}

theorem allM_same {f : Value → m Bool} {xs ys : List Value} (h : List.Forall₂ (fun x y => x.same y = true) xs ys)
    (hf : ∀ x, ∀ y ∈ ys, x.same y = true → f x = f y) : xs.allM f = ys.allM f := by
  induction h with
  | nil => rfl
  | @cons x y xs ys hxy _ ih =>
    rw [allM_cons, allM_cons, hf x y List.mem_cons_self hxy, ih fun x y hy => hf x y (List.mem_cons_of_mem _ hy)]

mutual

/-- The test of an equal value is the same work, if it is for what is deferred. -/
theorem test_same (h : ∀ b {x y}, y.Keyed → x.same y = true → enter b x = enter b y) :
    ∀ (v : Validator) {x y : Value}, y.Keyed → x.same y = true → testWith enter v x = testWith enter v y
  | .anything, _, _, _, _ => rfl
  | .guard kind, x, y, _, hs => by
    unfold testWith
    rw [Value.hasKind, Value.hasKind, Value.kind?_of_same hs]
  | .literal expected, x, y, hy, hs => by
    unfold testWith
    rw [Value.same_congr hy hs]
  | .all members, _, _, hy, hs => testAll_same h members hy hs
  | .any members, _, _, hy, hs => testAny_same h members hy hs
  | .hasKey key, x, y, _, hs => by
    cases x with
    | obj es =>
      obtain ⟨fs, rfl, _⟩ := Value.same_obj_left hs
      unfold testWith
      rw [Value.has_of_same hs]
    | _ => cases y <;> first | rfl | cases hs
  | .shape coverage fields, x, y, hy, hs => by
    cases x with
    | obj es =>
      obtain ⟨fs, rfl, _⟩ := Value.same_obj_left hs
      cases hy with
      | obj _ hfs => exact testFields_same h coverage fields hfs hs
    | _ => cases y <;> first | rfl | cases hs
  | .arrayOf element, x, y, hy, hs => by
    cases x with
    | arr s xs =>
      obtain ⟨t, ys, rfl, hxs⟩ := Value.same_arr_left hs
      cases hy with
      | arr _ hys => exact allM_same hxs fun x y hy hs => test_same h element (hys y hy) hs
    | _ => cases y <;> first | rfl | cases hs
  | .tupleOf positions, x, y, hy, hs => by
    cases x with
    | arr s xs =>
      obtain ⟨t, ys, rfl, hxs⟩ := Value.same_arr_left hs
      cases hy with
      | arr _ hys => exact testPositions_same h positions hys hxs
    | _ => cases y <;> first | rfl | cases hs
  | .deferred _ body, _, _, hy, hs => h (.ready body) hy hs
  | .reference scope _ target, _, _, hy, hs => h (.node scope target) hy hs

theorem testAll_same (h : ∀ b {x y}, y.Keyed → x.same y = true → enter b x = enter b y) :
    ∀ (vs : List Validator) {x y : Value}, y.Keyed → x.same y = true → testAll enter vs x = testAll enter vs y
  | [], _, _, _, _ => rfl
  | v :: vs, _, _, hy, hs => by
    unfold testAll
    rw [test_same h v hy hs, testAll_same h vs hy hs]

theorem testAny_same (h : ∀ b {x y}, y.Keyed → x.same y = true → enter b x = enter b y) :
    ∀ (vs : List Validator) {x y : Value}, y.Keyed → x.same y = true → testAny enter vs x = testAny enter vs y
  | [], _, _, _, _ => rfl
  | v :: vs, _, _, hy, hs => by
    unfold testAny
    rw [test_same h v hy hs, testAny_same h vs hy hs]

theorem testFields_same (h : ∀ b {x y}, y.Keyed → x.same y = true → enter b x = enter b y) (coverage : Coverage) :
    ∀ (fields : List (String × Validator)) {es fs : List (String × Value)}, (∀ f ∈ fs, f.2.Keyed) →
      (Value.obj es).same (.obj fs) = true →
      testFields enter coverage fields es = testFields enter coverage fields fs
  | [], _, _, _, _ => rfl
  | (key, v) :: fields, es, fs, hfs, hs => by
    have rest := testFields_same h coverage fields hfs hs
    unfold testFields
    rcases Value.lookup_same hs key with ⟨hx, hy⟩ | ⟨x, y, hx, hy, hxy⟩
    · rw [hx, hy]
      cases coverage with
      | full => rfl
      | present => exact rest
    · have hv := test_same h v (hfs _ (Entries.mem_of_lookup hy)) hxy
      rw [hx, hy]
      simp only [hv, rest]

theorem testPositions_same (h : ∀ b {x y}, y.Keyed → x.same y = true → enter b x = enter b y) :
    ∀ (vs : List Validator) {xs ys : List Value}, (∀ y ∈ ys, y.Keyed) →
      List.Forall₂ (fun x y => x.same y = true) xs ys → testPositions enter vs xs = testPositions enter vs ys
  | [], _, _, _, _ => rfl
  | _ :: _, [], _, _, .nil => rfl
  | v :: vs, x :: xs, y :: ys, hys, .cons hxy hs => by
    obtain ⟨hy, hys⟩ := List.forall_mem_cons.1 hys
    unfold testPositions
    rw [test_same h v hy hxy, testPositions_same h vs hys hs]

end

end Test

/-! ## Diagnosing -/

section Diagnose

open Diagnostic

variable {m : Type → Type} [Monad m] [LawfulMonad m] {enter : Body → Value → m (Option Diagnostic)}

theorem outline_leafUnless {holds holds' : Bool} (h : holds = holds') (operator : String) (x y : Value) :
    outline? (leafUnless holds operator x) = outline? (leafUnless holds' operator y) := by
  subst h
  cases holds <;> rfl

theorem diagnoseItems_same {f : Value → m (Option Diagnostic)} {xs ys : List Value}
    (h : List.Forall₂ (fun x y => x.same y = true) xs ys)
    (hf : ∀ x, ∀ y ∈ ys, x.same y = true → Alike outline? (f x) (f y)) (position : Nat) :
    Alike outlines (diagnoseItems f position xs) (diagnoseItems f position ys) := by
  induction h generalizing position with
  | nil => exact alike_pure rfl
  | @cons x y xs ys hxy _ ih =>
    refine (hf x y List.mem_cons_self hxy).bind fun d e hd => ?_
    refine (ih (fun x y hy => hf x y (List.mem_cons_of_mem _ hy)) (position + 1)).bind fun ds es hds => ?_
    refine alike_pure ?_
    rw [outlines_append, outlines_append, outlines_under hd, hds]

mutual

/-- The failures of equal values have one outline, if they have inside what is deferred. -/
theorem diagnose_same (h : ∀ b {x y}, y.Keyed → x.same y = true → Alike outline? (enter b x) (enter b y)) :
    ∀ (v : Validator) {x y : Value}, y.Keyed → x.same y = true →
      Alike outline? (diagnoseWith enter v x) (diagnoseWith enter v y)
  | .anything, _, _, _, _ => alike_pure rfl
  | .guard kind, x, y, _, hs => by
    refine alike_pure (outline_leafUnless ?_ kind.name x y)
    rw [Value.hasKind, Value.hasKind, Value.kind?_of_same hs]
  | .literal expected, x, y, hy, hs =>
    alike_pure (outline_leafUnless (Value.same_congr hy hs expected) (literalName expected) x y)
  | .all members, _, _, hy, hs =>
    (diagnoseAll_same h members hy hs).bind fun _ _ hds => alike_pure (outline?_ofChildren hds)
  | .any members, x, y, hy, hs => by
    refine (diagnoseAny_same h members hy hs).bind fun ds es hds => alike_pure ?_
    rcases map_eq_map hds with ⟨rfl, rfl⟩ | ⟨ds, es, rfl, rfl, hall⟩
    · rfl
    · exact congrArg some (outline_node hall)
  | .hasKey key, x, y, _, hs => by
    cases x with
    | obj es =>
      obtain ⟨fs, rfl, _⟩ := Value.same_obj_left hs
      unfold diagnoseWith
      rw [Value.has_of_same hs]
      refine alike_pure ?_
      cases Entries.has key fs <;> rfl
    | _ => cases y <;> first | exact alike_pure rfl | cases hs
  | .shape coverage fields, x, y, hy, hs => by
    cases x with
    | obj es =>
      obtain ⟨fs, rfl, _⟩ := Value.same_obj_left hs
      cases hy with
      | obj _ hfs =>
        exact (diagnoseFields_same h coverage fields hfs hs).bind fun _ _ hds => alike_pure (outline?_ofChildren hds)
    | _ => cases y <;> first | exact alike_pure rfl | cases hs
  | .arrayOf element, x, y, hy, hs => by
    cases x with
    | arr s xs =>
      obtain ⟨t, ys, rfl, hxs⟩ := Value.same_arr_left hs
      cases hy with
      | arr _ hys =>
        have hitems := diagnoseItems_same hxs (fun x y hy hs => diagnose_same h element (hys y hy) hs) 0
        exact hitems.bind fun _ _ hds => alike_pure (outline?_ofChildren hds)
    | _ => cases y <;> first | exact alike_pure rfl | cases hs
  | .tupleOf positions, x, y, hy, hs => by
    cases x with
    | arr s xs =>
      obtain ⟨t, ys, rfl, hxs⟩ := Value.same_arr_left hs
      cases hy with
      | arr _ hys =>
        exact (diagnosePositions_same h 0 positions hys hxs).bind fun _ _ hds => alike_pure (outline?_ofChildren hds)
    | _ => cases y <;> first | exact alike_pure rfl | cases hs
  | .deferred _ body, _, _, hy, hs => h (.ready body) hy hs
  | .reference scope _ target, _, _, hy, hs => h (.node scope target) hy hs

theorem diagnoseAll_same (h : ∀ b {x y}, y.Keyed → x.same y = true → Alike outline? (enter b x) (enter b y)) :
    ∀ (vs : List Validator) {x y : Value}, y.Keyed → x.same y = true →
      Alike outlines (diagnoseAll enter vs x) (diagnoseAll enter vs y)
  | [], _, _, _, _ => alike_pure rfl
  | v :: vs, _, _, hy, hs => by
    refine (diagnose_same h v hy hs).bind fun d e hd => ?_
    refine (diagnoseAll_same h vs hy hs).bind fun ds es hds => alike_pure ?_
    rw [outlines_append, outlines_append, outlines_toList hd, hds]

theorem diagnoseAny_same (h : ∀ b {x y}, y.Keyed → x.same y = true → Alike outline? (enter b x) (enter b y)) :
    ∀ (vs : List Validator) {x y : Value}, y.Keyed → x.same y = true →
      Alike (Option.map outlines) (diagnoseAny enter vs x) (diagnoseAny enter vs y)
  | [], _, _, _, _ => alike_pure rfl
  | v :: vs, _, _, hy, hs => by
    refine (diagnose_same h v hy hs).bind fun d e hd => ?_
    -- the first member that accepts is the same on both sides
    rcases map_eq_map hd with ⟨rfl, rfl⟩ | ⟨d, e, rfl, rfl, hde⟩
    · exact alike_pure rfl
    refine (diagnoseAny_same h vs hy hs).bind fun ds es hds => alike_pure ?_
    rcases map_eq_map hds with ⟨rfl, rfl⟩ | ⟨ds, es, rfl, rfl, hall⟩
    · rfl
    · show some (outlines (d :: ds)) = some (outlines (e :: es))
      rw [outlines, outlines, hde, hall]

theorem diagnoseFields_same (h : ∀ b {x y}, y.Keyed → x.same y = true → Alike outline? (enter b x) (enter b y))
    (coverage : Coverage) :
    ∀ (fields : List (String × Validator)) {es fs : List (String × Value)}, (∀ f ∈ fs, f.2.Keyed) →
      (Value.obj es).same (.obj fs) = true →
      Alike outlines (diagnoseFields enter coverage fields es) (diagnoseFields enter coverage fields fs)
  | [], _, _, _, _ => alike_pure rfl
  | (key, v) :: fields, es, fs, hfs, hs => by
    have rest := diagnoseFields_same h coverage fields hfs hs
    unfold diagnoseFields
    rcases Value.lookup_same hs key with ⟨hx, hy⟩ | ⟨x, y, hx, hy, hxy⟩
    · rw [hx, hy]
      refine rest.bind fun ds es hds => alike_pure ?_
      cases coverage with
      | full => exact congrArg (_ :: ·) hds
      | present => exact hds
    · rw [hx, hy]
      refine (diagnose_same h v (hfs _ (Entries.mem_of_lookup hy)) hxy).bind fun d e hd => ?_
      refine rest.bind fun ds es hds => alike_pure ?_
      rw [outlines_append, outlines_append, outlines_under hd, hds]

theorem diagnosePositions_same (h : ∀ b {x y}, y.Keyed → x.same y = true → Alike outline? (enter b x) (enter b y)) :
    ∀ (position : Nat) (vs : List Validator) {xs ys : List Value}, (∀ y ∈ ys, y.Keyed) →
      List.Forall₂ (fun x y => x.same y = true) xs ys →
      Alike outlines (diagnosePositions enter position vs xs) (diagnosePositions enter position vs ys)
  | _, [], _, _, _, _ => alike_pure rfl
  | _, _ :: _, [], _, _, .nil => alike_pure rfl
  | position, v :: vs, x :: xs, y :: ys, hys, .cons hxy hs => by
    obtain ⟨hy, hys⟩ := List.forall_mem_cons.1 hys
    refine (diagnose_same h v hy hxy).bind fun d e hd => ?_
    refine (diagnosePositions_same h (position + 1) vs hys hs).bind fun ds es hds => alike_pure ?_
    rw [outlines_append, outlines_append, outlines_under hd, hds]

end

end Diagnose

/-! ## Frames -/

section Frames

open Diagnostic

variable {σ : Type} {opens : Body → Frame σ Validator}

theorem testFrame_same (limit : Nat) (b : Body) {x y : Value} (hy : y.Keyed) (hs : x.same y = true) :
    testFrame opens limit b x = testFrame opens limit b y := by
  induction limit generalizing b x y with
  | zero => rfl
  | succ limit ih => exact bind_congr fun v => test_same (fun b _ _ hy hs => ih b hy hs) v hy hs

/-- Whatever a check opens and marks, equal values pass alike. -/
theorem testWithin_same (limit : Nat) (v : Validator) {x y : Value} (hy : y.Keyed) (hs : x.same y = true) :
    testWithin opens limit v x = testWithin opens limit v y :=
  test_same (fun b _ _ hy hs => by rw [testFrame_same limit b hy hs]) v hy hs

theorem diagnoseFrame_same (limit : Nat) (b : Body) {x y : Value} (hy : y.Keyed) (hs : x.same y = true) :
    Alike outline? (diagnoseFrame opens limit b x) (diagnoseFrame opens limit b y) := by
  induction limit generalizing b x y with
  | zero => rfl
  | succ limit ih =>
    have hopen : Alike id (opens b) (opens b) := rfl
    refine hopen.bind fun v w hvw => ?_
    cases show v = w from hvw
    exact diagnose_same (fun b _ _ hy hs => ih b hy hs) v hy hs

/-- Whatever a check opens and marks, the failures of equal values have one outline. -/
theorem diagnoseWithin_same (limit : Nat) (v : Validator) {x y : Value} (hy : y.Keyed) (hs : x.same y = true) :
    Alike outline? (diagnoseWithin opens limit v x) (diagnoseWithin opens limit v y) := by
  unfold diagnoseWithin
  refine diagnose_same (fun b x y hy hs => ?_) v hy hs
  exact (diagnoseFrame_same limit b hy hs).close rfl

end Frames

/-! ## Validators that can be built -/

variable {marks : List Mark} {v : Validator}

/-- What can be built respects equality: the test gives equal values the same answer, and their diagnoses
find nothing, or failures of one outline. -/
theorem respects_equality (hv : Built marks v) (limit : Nat) {x y : Value} (hy : y.Keyed) (hs : x.same y = true) :
    ∃ t d e, (testWithin Body.open limit v x).run marks = (.ok t, marks) ∧
      (testWithin Body.open limit v y).run marks = (.ok t, marks) ∧
      (diagnoseWithin Body.open limit v x).run marks = (.ok d, marks) ∧
      (diagnoseWithin Body.open limit v y).run marks = (.ok e, marks) ∧
      d.map Diagnostic.outline = e.map Diagnostic.outline := by
  have htest := testWithin_run limit hv.safe y
  have hx := diagnoseWithin_run limit hv.safe x
  have hy' := diagnoseWithin_run limit hv.safe y
  refine ⟨_, _, _, ?_, htest, hx, hy', ?_⟩
  · rw [testWithin_same limit v hy hs]
    exact htest
  · have hd : Alike Diagnostic.outline? (diagnoseWithin Body.open limit v x) (diagnoseWithin Body.open limit v y) :=
      diagnoseWithin_same limit v hy hs
    have hend := (alike_iff.1 hd marks).1
    rw [hx, hy'] at hend
    exact Except.ok.inj hend

/-- A chain of two links with its keys the other way round and a decimal in it. -/
def chainTwin : Value :=
  .obj [("next", .obj [("next", .null), ("value", .str "2")]), ("value", .num (.decimal (.finite false 10 (-1))))]

theorem keyed_chainTwin : chainTwin.Keyed := by
  refine .obj (by decide) fun e he => ?_
  rcases List.mem_cons.1 he with rfl | he
  · refine .obj (by decide) fun e he => ?_
    rcases List.mem_cons.1 he with rfl | he
    · exact .null
    · cases List.mem_singleton.1 he
      exact .str _
  · cases List.mem_singleton.1 he
    exact .num _

set_option maxRecDepth 2000 in
theorem respects_equality_chain : chainTwin.Keyed ∧ (chainValue (.str "2")).same chainTwin = true ∧ ∃ d e,
    (testWithin Body.open 3 (.reference chainScope "chain" chain) chainTwin).run [⟨0, "chain"⟩] =
      (.ok false, [⟨0, "chain"⟩]) ∧
    (diagnoseWithin Body.open 3 (.reference chainScope "chain" chain) (chainValue (.str "2"))).run [⟨0, "chain"⟩] =
      (.ok (some d), [⟨0, "chain"⟩]) ∧
    (diagnoseWithin Body.open 3 (.reference chainScope "chain" chain) chainTwin).run [⟨0, "chain"⟩] =
      (.ok (some e), [⟨0, "chain"⟩]) ∧
    d.outline = e.outline := by
  have hs : (chainValue (.str "2")).same chainTwin = true := by rfl
  have hv : Built [⟨0, "chain"⟩] (.reference chainScope "chain" chain) :=
    .compiled (List.forall_mem_nil _) compile_chain (List.Subset.refl _)
  have hrun : (testWithin Body.open 3 (.reference chainScope "chain" chain) (chainValue (.str "2"))).run
      [⟨0, "chain"⟩] = (.ok false, [⟨0, "chain"⟩]) := rfl
  have hfails : ∃ d, (diagnoseWithin Body.open 3 (.reference chainScope "chain" chain) (chainValue (.str "2"))).run
      [⟨0, "chain"⟩] = (.ok (some d), [⟨0, "chain"⟩]) := ⟨_, rfl⟩
  obtain ⟨tree, htree⟩ := hfails
  obtain ⟨t, d, e, ht, ht', hd, he, hde⟩ := respects_equality hv 3 keyed_chainTwin hs
  rw [hrun] at ht
  cases ht
  rw [htree] at hd
  cases hd
  cases e with
  | none => cases hde
  | some e => exact ⟨keyed_chainTwin, hs, tree, e, ht', htree, he, Option.some.inj hde⟩

end Validator

end Conformance
