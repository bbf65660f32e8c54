import Conformance.Proofs.Faults
import Conformance.Proofs.Session
/-!
# Requests to a scope

One scope serves many requests, and some of them fail. A failed request leaves the marks behind that
it has set, also that of the definition that does not compile. The definition counts as checked from
then on: the next reference to it resolves, and the error comes out when its validator is used. So the
calls of a validator raise what is wrong with a definition that it reaches, and nothing if no request
before its own has failed.
-/

namespace Conformance

open Meaning Validator

/-! ## Serving -/

/-- What a scope is asked for: the validator of a reference, or that of a node. -/
inductive Request where
  | resolve (ref : Value)
  | compile (node : Value)

/-- The node that a request is about; a reference is a node of its own. -/
def Request.node : Request → Value
  | resolve ref => .obj [("$ref", ref)]
  | compile node => node

namespace Scope

def serve (scope : Scope) : Request → Build Validator
  | .resolve ref => scope.resolve ref
  | .compile node => scope.compile node

/-- The marks that requests leave, whether they fail or not. -/
def marksAfter (scope : Scope) (marks : List Mark) (requests : List Request) : List Mark :=
  requests.foldl (fun marks request => ((scope.serve request).run marks).2) marks

/-- None of the requests fails. -/
def Serves (scope : Scope) : List Mark → List Request → Prop
  | _, [] => True
  | marks, request :: requests =>
    ∃ v marks', (scope.serve request).run marks = (.ok v, marks') ∧ scope.Serves marks' requests

variable {scope : Scope} {marks marks' : List Mark} {request : Request} {requests : List Request} {v : Validator}

/-- A node that is a reference and nothing else compiles to what the reference resolves to. -/
theorem compile_reference (scope : Scope) (ref : Value) :
    scope.compile (.obj [("$ref", ref)]) = scope.resolve ref := by
  have hparts : Schema.ofValue (.obj [("$ref", ref)]) = .all [.reference ref, .anything, .required [], .anything,
      .anything, .anything, .all [.anything, .anything], .anything] := rfl
  have hnode : scope.compile (.obj [("$ref", ref)]) = scope.resolve ref >>= fun v => pure (every [v]) := by
    rw [compile, compileSchema, hparts]
    simp only [Schema.compileWith, Schema.compileAll, bind_assoc, pure_bind]
    rfl
  rw [hnode]
  funext marks
  show (scope.resolve ref >>= fun v => pure (every [v])).run marks = (scope.resolve ref).run marks
  rw [run_bind]
  rcases h : (scope.resolve ref).run marks with ⟨e | v, marks'⟩
  · rfl
  · -- a reference is no conjunction, so it stands for itself
    rw [resolve_eq] at h
    obtain ⟨r, target, _, _, rfl, _⟩ := resolveWith_ok h
    rfl

theorem serve_eq (scope : Scope) (request : Request) : scope.serve request = scope.compile request.node := by
  cases request with
  | resolve ref => exact (compile_reference scope ref).symm
  | compile node => rfl

/-! ## Marks of requests -/

theorem compile_subset (scope : Scope) (node : Value) (marks : List Mark) :
    marks ⊆ ((scope.compile node).run marks).2 := by
  obtain ⟨r, passes, _, hrun, _⟩ := scope.run_reachable node marks
  rw [hrun]
  exact List.subset_append_left _ _

theorem marksAfter_cons (marks : List Mark) (request : Request) (requests : List Request) :
    scope.marksAfter marks (request :: requests) = scope.marksAfter ((scope.serve request).run marks).2 requests := rfl

theorem subset_marksAfter (scope : Scope) (marks : List Mark) (requests : List Request) :
    marks ⊆ scope.marksAfter marks requests := by
  induction requests generalizing marks with
  | nil => exact List.Subset.refl _
  | cons request requests ih =>
    rw [marksAfter_cons, serve_eq]
    exact List.Subset.trans (compile_subset scope request.node marks) (ih _)

/-- All that is marked has been checked. -/
def Intact (scope : Scope) (marks : List Mark) : Prop :=
  ∀ name, scope.marked marks name = true → ∃ target w, scope.Checked marks name target w

/-- A request that succeeds leaves no mark of a definition that has not been checked. -/
theorem Intact.serve (hi : scope.Intact marks) (h : (scope.serve request).run marks = (.ok v, marks')) :
    scope.Intact marks' ∧ scope.Compiled marks' request.node v := by
  rw [serve_eq] at h
  obtain ⟨hsub, hl, hnew⟩ := compile_checked h
  have hi' : scope.Intact marks' := by
    intro name hm
    rcases hnew name hm with hm | hc
    · obtain ⟨target, w, hc⟩ := hi name hm
      exact ⟨target, w, hc.mono hsub⟩
    · exact hc
  exact ⟨hi', hl, hi'⟩

theorem Intact.marksAfter (hi : scope.Intact marks) (h : scope.Serves marks requests) :
    scope.Intact (scope.marksAfter marks requests) := by
  induction requests generalizing marks with
  | nil => exact hi
  | cons request requests ih =>
    obtain ⟨v, marks', hrun, h⟩ := h
    rw [marksAfter_cons, hrun]
    exact ih (hi.serve hrun).1 h

/-! ## A request after one that failed -/

/-- A reference to a definition resolves the second time, whether it did the first time or not. -/
theorem resolve_again {ref target : Value} {name : String} (hl : scope.lookUp ref = .ok (name, target))
    {r : Except SchemaError Validator} (h : (scope.resolve ref).run marks = (r, marks')) :
    (scope.resolve ref).run marks' = (.ok (.reference scope name target), marks') := by
  have hresolve : ∀ before, (scope.resolve ref).run before =
      (scope.checkOnce name target (fun target => do let _ ← scope.compile target; pure ()) >>= fun _ =>
        (pure (.reference scope name target) : Build Validator)).run before := by
    intro before
    rw [resolve_eq, resolveWith_eq, hl]
    rfl
  have hmark : scope.mark name ∈ marks' := by
    rw [hresolve, run_bind, run_checkOnce] at h
    by_cases hm : scope.mark name ∈ marks
    · rw [if_pos hm] at h
      cases h
      exact hm
    · rw [if_neg hm, run_bind] at h
      -- the mark was set before the definition was compiled, and compiling takes no mark away
      have hsub := compile_subset scope target (marks ++ [scope.mark name])
      rcases hc : (scope.compile target).run (marks ++ [scope.mark name]) with ⟨e | w, after⟩
      all_goals
        rw [hc] at h hsub
        cases h
        exact hsub (List.mem_append_right _ (List.mem_singleton.2 rfl))
  have honce : (scope.checkOnce name target fun target => do let _ ← scope.compile target; pure ()).run marks' =
      (.ok (), marks') := by
    rw [run_checkOnce, if_pos hmark]
  rw [hresolve, run_bind_of_ok honce]
  rfl

end Scope

/-! ## What calls raise -/

theorem Body.run_open_node (scope : Scope) (target : Value) (marks : List Mark) :
    (Body.node scope target).open.run marks =
      (((scope.compile target).run marks).1.mapError .schema, ((scope.compile target).run marks).2) := rfl

namespace Validator

/-- What the work raises is allowed, whatever state it starts in. -/
def Raising {ε σ α : Type} (P : ε → Prop) (x : ExceptT ε (StateM σ) α) : Prop :=
  ∀ s e, (x.run s).1 = .error e → P e

section

variable {ε σ α β : Type} {P : ε → Prop}

theorem raising_pure (a : α) : Raising P (pure a : ExceptT ε (StateM σ) α) := by
  intro s e h
  cases h

/-- What comes second has to be looked at only after a result that the first part can have. -/
theorem Raising.bind {x : ExceptT ε (StateM σ) α} {f : α → ExceptT ε (StateM σ) β} (hx : Raising P x)
    (hf : ∀ s a t, x.run s = (.ok a, t) → Raising P (f a)) : Raising P (x >>= f) := by
  intro s e h
  rw [run_bind] at h
  rcases hrun : x.run s with ⟨e' | a, t⟩ <;> rw [hrun] at h
  · cases h
    exact hx s e (by rw [hrun])
  · exact hf s a t hrun t e h

theorem Raising.map {x : ExceptT ε (StateM σ) α} (hx : Raising P x) (f : α → β) :
    Raising P (do pure (f (← x))) := hx.bind fun _ _ _ _ => raising_pure _

/-- The left side raises what is allowed; the right side is any work at all. -/
def raising (P : ε → Prop) : Simulation (ExceptT ε (StateM σ)) Id where
  rel x _ := Raising P x
  pure a := raising_pure a
  bind hx hf := hx.bind fun _ a _ _ => hf a

theorem Raising.testWith {enter : Body → Value → ExceptT ε (StateM σ) Bool} {v : Validator}
    (h : ∀ b ∈ v.bodies, ∀ y, Raising P (enter b y)) (x : Value) : Raising P (testWith enter v x) :=
  @Simulation.testWith _ _ _ _ (raising P) enter (fun _ _ => pure true) v x h

theorem Raising.diagnoseWith {enter : Body → Value → ExceptT ε (StateM σ) (Option Diagnostic)} {v : Validator}
    (h : ∀ b ∈ v.bodies, ∀ y, Raising P (enter b y)) (x : Value) : Raising P (diagnoseWith enter v x) :=
  @Simulation.diagnoseWith _ _ _ _ (raising P) enter (fun _ _ => pure none) v x h

end

section

variable {E : SchemaError → Prop} {I : Body → Prop} {v : Validator}

/-- Frames may run out, and errors of the schema are allowed as they are. -/
def Breaks (E : SchemaError → Prop) : Interrupt → Prop
  | .frames => True
  | .schema e => E e

theorem Raising.close {α : Type} {x : Frame (List Mark) α} (h : Raising (Breaks E) x) (fallback : α) :
    Raising E (x.close fallback) := by
  intro s e he
  rw [run_close] at he
  rcases hrun : (x.run s).1 with ⟨_ | e'⟩ | a <;> rw [hrun] at he <;> cases he
  exact h s (.schema e) hrun

/-- What `I` holds raises only what is allowed when it is opened, and opens to what `I` holds. -/
def Confines (E : SchemaError → Prop) (I : Body → Prop) : Prop :=
  ∀ b, I b → Raising (Breaks E) b.open ∧ ∀ s w s', b.open.run s = (.ok w, s') → ∀ b' ∈ w.bodies, I b'

theorem testFrame_raising (hI : Confines E I) (limit : Nat) {b : Body} (hb : I b) (x : Value) :
    Raising (Breaks E) (testFrame Body.open limit b x) := by
  induction limit generalizing b x with
  | zero =>
    intro s e h
    cases h
    trivial
  | succ limit ih =>
    obtain ⟨hopen, hw⟩ := hI b hb
    exact hopen.bind fun s w t hrun => Raising.testWith (fun b' hb' y => ih (hw s w t hrun b' hb') y) x

theorem diagnoseFrame_raising (hI : Confines E I) (limit : Nat) {b : Body} (hb : I b) (x : Value) :
    Raising (Breaks E) (diagnoseFrame Body.open limit b x) := by
  induction limit generalizing b x with
  | zero =>
    intro s e h
    cases h
    trivial
  | succ limit ih =>
    obtain ⟨hopen, hw⟩ := hI b hb
    exact hopen.bind fun s w t hrun => Raising.diagnoseWith (fun b' hb' y => ih (hw s w t hrun b' hb') y) x

theorem testWithin_raising (hI : Confines E I) (hv : ∀ b ∈ v.bodies, I b) (limit : Nat) (x : Value) :
    Raising E (testWithin Body.open limit v x) :=
  Raising.testWith (fun b hb y => (testFrame_raising hI limit (hv b hb) y).close false) x

theorem diagnoseWithin_raising (hI : Confines E I) (hv : ∀ b ∈ v.bodies, I b) (limit : Nat) (x : Value) :
    Raising E (diagnoseWithin Body.open limit v x) :=
  Raising.diagnoseWith (fun b hb y => (diagnoseFrame_raising hI limit (hv b hb) y).close _) x

theorem call_raising (hI : Confines E I) (hv : ∀ b ∈ v.bodies, I b) (limit : Nat) (c : Call) :
    Raising E (call Body.open limit v c) := by
  have hcheck : ∀ x, Raising E (checkWithin Body.open limit v x) := fun x =>
    (diagnoseWithin_raising hI hv limit x).map _
  cases c with
  | test x => exact (testWithin_raising hI hv limit x).map _
  | diagnose x => exact (diagnoseWithin_raising hI hv limit x).map _
  | cast x => exact ((hcheck x).map _).map _
  | check x => exact (hcheck x).map _

theorem session_raising (hI : Confines E I) (hv : ∀ b ∈ v.bodies, I b) (limit : Nat) (calls : List Call) :
    Raising E (session Body.open limit v calls) := by
  induction calls with
  | nil => exact raising_pure _
  | cons c calls ih => exact (call_raising hI hv limit c).bind fun _ _ _ _ => ih.map _

end

end Validator

/-! ## What is reached -/

/-- The error is that of a faulty node that the node reaches. -/
def Blamed (table : Option Definitions) (node : Value) (e : SchemaError) : Prop :=
  ∃ n, Reachable table node n ∧ Fault table n e.code

/-- The body is a definition of the scope that the node reaches. -/
def Reached (scope : Scope) (node : Value) (b : Body) : Prop :=
  ∃ target, b = .node scope target ∧ Reachable scope.definitions node target

namespace Scope

variable {scope : Scope} {node : Value} {v : Validator}

/-- What a node links to when everything is known it links to when only those definitions are known that
it refers to. -/
theorem linked_referenced (h : scope.linked (fun _ => true) node = .ok v) :
    ∃ known, (∀ name, known name = true → Referenced scope.definitions node name) ∧ scope.linked known node = .ok v := by
  classical
  refine ⟨fun name => decide (Referenced scope.definitions node name), fun _ => of_decide_eq_true, ?_⟩
  refine refining.compileDemands (Schema.ofValue node) (fun d hd => ?_) v h
  obtain ⟨n, hn, ha⟩ := Schema.mem_demands_iff.1 hd
  cases ha with
  | type hl => exact fun _ h => h
  | reference hl =>
    intro w hw
    obtain ⟨r, target, hr, hdefines, _, rfl⟩ := link_ok.1 hw
    refine link_ok.2 ⟨r, target, hr, hdefines, ?_, rfl⟩
    exact decide_eq_true ⟨_, _, Reachable.root.inside hn, hl, Reference.refersTo_iff.2 ⟨r, hr, rfl⟩⟩

theorem reached_of_linked (h : scope.linked (fun _ => true) node = .ok v) : ∀ b ∈ v.bodies, Reached scope node b := by
  obtain ⟨known, hknown, hl⟩ := linked_referenced h
  intro b hb
  obtain ⟨name, target, rfl, hd, hk⟩ := bodies_of_linked hl b hb
  obtain ⟨entries, r, hreach, hr, hrefers⟩ := hknown name hk
  obtain ⟨ref, href, rfl⟩ := Reference.refersTo_iff.1 hrefers
  obtain ⟨table, ht, htarget⟩ := hd
  exact ⟨target, rfl, .definition hreach hr ⟨ref, table, href, ht, htarget⟩⟩

/-- Compiling what a node reaches raises what is wrong with something that it reaches, and holds no more
than it reaches. -/
theorem confines_reached (scope : Scope) (node : Value) :
    Confines (Blamed scope.definitions node) (Reached scope node) := by
  rintro b ⟨target, rfl, hreach⟩
  constructor
  · intro s i h
    obtain ⟨r, passes, _, hrun, hfault, _⟩ := scope.run_reachable target s
    rw [Body.run_open_node, hrun] at h
    cases r with
    | ok w => cases h
    | error e =>
      cases h
      obtain ⟨n, hn, hf⟩ := hfault e rfl
      exact ⟨n, hreach.trans hn, hf⟩
  · intro s w s' h b' hb'
    rcases hc : (scope.compile target).run s with ⟨e | w', t⟩
    all_goals
      rw [Body.run_open_node, hc] at h
      cases h
    obtain ⟨target', rfl, hreach'⟩ := reached_of_linked (linked_of_compile hc) b' hb'
    exact ⟨target', rfl, hreach.trans hreach'⟩

end Scope

/-! ## Validators that were served -/

namespace Validator

variable {scope : Scope} {earlier : List Request} {request : Request} {v : Validator} {after : List Mark}

/-- Whatever a scope was asked for before and is asked for later, and whichever of the requests fail: the
calls of a validator that it has served raise an error only if it is that of a faulty node which the request
reaches, and none at all if no request before its own has failed. -/
theorem session_of_served (h : (scope.serve request).run (scope.marksAfter [] earlier) = (.ok v, after))
    (later : List Request) (limit : Nat) (calls : List Call) :
    ∃ r marks, (session Body.open limit v calls).run (scope.marksAfter after later) = (r, marks) ∧
      (∀ e, r = .error e →
        ∃ n, Reachable scope.definitions request.node n ∧ Fault scope.definitions n e.code) ∧
      (scope.Serves [] earlier → ∃ answers, r = .ok answers) := by
  refine ⟨_, _, rfl, fun e he => ?_, fun hserves => ?_⟩
  · have hbodies : ∀ b ∈ v.bodies, Reached scope request.node b := by
      rw [Scope.serve_eq] at h
      exact Scope.reached_of_linked (Scope.linked_of_compile h)
    exact session_raising (scope.confines_reached request.node) hbodies limit calls _ e he
  · have hnone : scope.Intact [] := by
      intro name hm
      cases of_decide_eq_true hm
    obtain ⟨_, hc⟩ := (hnone.marksAfter hserves).serve h
    have hsafe := hc.safe (scope.subset_marksAfter after later)
    exact ⟨_, congrArg Prod.fst (session_run limit hsafe calls)⟩

/-! ### A definition that does not compile -/

/-- A definition whose type is not known, and one that is fine. -/
def trapScope : Scope := ⟨0, some [("A", .obj [("type", .str "text")]), ("B", .obj [("type", .str "string")])]⟩

def refA : Value := .str "#/definitions/A"

def refB : Value := .str "#/definitions/B"

theorem lookUp_refA : trapScope.lookUp refA = .ok ("A", .obj [("type", .str "text")]) := rfl

theorem resolve_refA : (trapScope.serve (.resolve refA)).run [] = (.error (.unknownType (.str "text")), [⟨0, "A"⟩]) := rfl

/-- What is wrong with `A` is what the calls of its validator raise, and those of `B` raise nothing, although
`A` fails in between. -/
theorem session_of_served_trap :
    (∃ n, Reachable trapScope.definitions (.obj [("$ref", refA)]) n ∧
      Fault trapScope.definitions n "SCHEMA_TYPE_UNRECOGNIZED") ∧
    ∀ limit calls, ∃ answers marks, (session Body.open limit (.reference trapScope "B" (.obj [("type", .str "string")]))
      calls).run [⟨0, "B"⟩, ⟨0, "A"⟩] = (.ok answers, marks) := by
  constructor
  · have hserved : (trapScope.serve (.resolve refA)).run (trapScope.marksAfter [] [.resolve refA]) =
        (.ok (.reference trapScope "A" (.obj [("type", .str "text")])), [⟨0, "A"⟩]) := rfl
    obtain ⟨r, marks, hrun, hfault, _⟩ := session_of_served hserved [] 1 [.test .null]
    have herror : r = .error (.unknownType (.str "text")) := (congrArg Prod.fst hrun).symm
    exact hfault _ herror
  · intro limit calls
    have hserved : (trapScope.serve (.resolve refB)).run (trapScope.marksAfter [] []) =
        (.ok (.reference trapScope "B" (.obj [("type", .str "string")])), [⟨0, "B"⟩]) := rfl
    obtain ⟨r, marks, hrun, _, hok⟩ := session_of_served hserved [.resolve refA] limit calls
    obtain ⟨answers, rfl⟩ := hok trivial
    exact ⟨answers, marks, hrun⟩

section Fault

variable {scope : Scope} {name : String} {target : Value} {marks marks' : List Mark} {e : SchemaError}

theorem testWithin_of_fault (h : (scope.compile target).run marks = (.error e, marks')) (limit : Nat) (x : Value) :
    (testWithin Body.open (limit + 1) (.reference scope name target) x).run marks = (.error e, marks') := by
  show ((testFrame Body.open (limit + 1) (.node scope target) x).close false).run marks = _
  rw [run_close, testFrame, run_bind, Body.run_open_node, h]
  rfl

theorem diagnoseWithin_of_fault (h : (scope.compile target).run marks = (.error e, marks')) (limit : Nat)
    (x : Value) :
    (diagnoseWithin Body.open (limit + 1) (.reference scope name target) x).run marks = (.error e, marks') := by
  show ((diagnoseFrame Body.open (limit + 1) (.node scope target) x).close _).run marks = _
  rw [run_close, diagnoseFrame, run_bind, Body.run_open_node, h]
  rfl

/-- Every call of a reference raises what compiling its definition raises. -/
theorem call_of_fault (h : (scope.compile target).run marks = (.error e, marks')) (limit : Nat) (c : Call) :
    (call Body.open (limit + 1) (.reference scope name target) c).run marks = (.error e, marks') := by
  have hcheck : ∀ x, (checkWithin Body.open (limit + 1) (.reference scope name target) x).run marks =
      (.error e, marks') := by
    intro x
    rw [checkWithin, run_bind, diagnoseWithin_of_fault h]
  cases c with
  | test x => rw [call, run_bind, testWithin_of_fault h]
  | diagnose x => rw [call, run_bind, diagnoseWithin_of_fault h]
  | check x => rw [call, run_bind, hcheck]
  | cast x => rw [call, castWithin, run_bind, run_bind, hcheck]

end Fault

/-- The first request for `A` fails, the second one succeeds, and then every call of what it has given
raises the error of the first, whatever the value. -/
theorem trap_left_behind :
    (trapScope.serve (.resolve refA)).run [] = (.error (.unknownType (.str "text")), [⟨0, "A"⟩]) ∧
    ∃ v, (trapScope.serve (.resolve refA)).run (trapScope.marksAfter [] [.resolve refA]) = (.ok v, [⟨0, "A"⟩]) ∧
      ∀ limit c, (session Body.open (limit + 1) v [c]).run [⟨0, "A"⟩] =
        (.error (.unknownType (.str "text")), [⟨0, "A"⟩]) := by
  refine ⟨resolve_refA, _, Scope.resolve_again lookUp_refA resolve_refA, fun limit c => ?_⟩
  have hcompile : (trapScope.compile (.obj [("type", .str "text")])).run [⟨0, "A"⟩] =
      (.error (.unknownType (.str "text")), [⟨0, "A"⟩]) := rfl
  rw [session, run_bind, call_of_fault hcompile limit c]

end Validator

end Conformance
