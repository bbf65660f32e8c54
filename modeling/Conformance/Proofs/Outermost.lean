import Conformance.Proofs.Counting
import Conformance.Proofs.Findings
import Conformance.Proofs.Requests
/-!
# The outermost frame

When the frames run out, the failure is that of the outermost deferred check as a whole: no frame inside it
answers, and nothing that was found before is kept. So such a failure stands where a deferred check is applied
with none above it, has no children, and carries the value that this check was given. Nothing here asks
whether the definitions compile, or what else is marked.
-/

namespace Conformance

/-! ## Nodes and places -/

namespace Diagnostic

variable {d n : Diagnostic}

theorem At.mem_nodes {path : List Label} (h : d.At path n) : n ∈ d.nodes := by
  induction h with
  | root d => cases d; exact List.mem_cons_self
  | @child d c n path hc _ ih =>
    cases d
    exact List.mem_cons_of_mem _ (mem_nodesAll.2 ⟨c, hc, ih⟩)

mutual

theorem at_of_mem_nodes : ∀ {d : Diagnostic}, n ∈ d.nodes → ∃ path, d.At path n
  | node operator x children label, h => by
    rcases List.mem_cons.1 h with rfl | h
    · exact ⟨_, .root _⟩
    · obtain ⟨c, hc, path, hn⟩ := at_of_mem_nodesAll h
      exact ⟨_, .child hc hn⟩

theorem at_of_mem_nodesAll : ∀ {ds : List Diagnostic}, n ∈ nodesAll ds → ∃ d ∈ ds, ∃ path, d.At path n
  | d :: ds, h => by
    rcases List.mem_append.1 h with h | h
    · exact ⟨d, List.mem_cons_self, at_of_mem_nodes h⟩
    · obtain ⟨c, hc, hn⟩ := at_of_mem_nodesAll h
      exact ⟨c, List.mem_cons_of_mem _ hc, hn⟩

end

@[simp]
theorem children_placed (d : Diagnostic) (label : Option Label) : (d.placed label).children = d.children := by
  cases d
  cases label <;> rfl

@[simp]
theorem operator_placed (d : Diagnostic) (label : Option Label) : (d.placed label).operator = d.operator := by
  cases d
  cases label <;> rfl

@[simp]
theorem value_placed (d : Diagnostic) (label : Option Label) : (d.placed label).value = d.value := by
  cases d
  cases label <;> rfl

theorem label_placed (hd : d.label = none) (label : Option Label) : (d.placed label).label = label := by
  cases d
  cases label with
  | none => exact hd
  | some label => rfl

theorem ofChildren_eq_some {operator : String} {x : Value} {ds : List Diagnostic}
    (h : ofChildren operator x ds = some d) : d = node operator x ds none := by
  cases ds with
  | nil => cases h
  | cons e es => cases h; rfl

end Diagnostic

namespace Validator

/-! ## What work can give -/

section

variable {ε σ : Type}

/-- In some state the work ends with the failure. -/
def Gives (work : ExceptT ε (StateM σ) (Option Diagnostic)) (d : Diagnostic) : Prop :=
  ∃ s t, work.run s = (.ok (some d), t)

/-- How the children of a failure of `x` arise: from a key that is looked for, or a check that is looked at. -/
inductive Arises (enter : Body → Value → ExceptT ε (StateM σ) (Option Diagnostic)) (x : Value) (looks : List Look) :
    Diagnostic → Prop
  | lack (key : String) : Arises enter x looks (.missing x key)
  | check {label : Option Label} {v : Validator} {y : Value} {d : Diagnostic} (hm : .check label v y ∈ looks)
    (h : Gives (diagnoseWith enter v y) d) : Arises enter x looks (d.placed label)

variable {enter : Body → Value → ExceptT ε (StateM σ) (Option Diagnostic)} {v : Validator} {x : Value} {s t : σ}
  {looks : List Look} {d : Diagnostic}

theorem Arises.mono {more : List Look} (h : looks ⊆ more) (hk : Arises enter x looks d) : Arises enter x more d := by
  cases hk with
  | lack key => exact .lack key
  | check hm hd => exact .check (h hm) hd

/-- What arises from the first look, and what arises from the others. -/
theorem arises_cons (label : Option Label) {y : Value} {r : Option Diagnostic} {t' : σ} {ds : List Diagnostic}
    (hr : (diagnoseWith enter v y).run s = (.ok r, t')) (hds : ∀ d ∈ ds, Arises enter x looks d) :
    ∀ d ∈ (r.map (·.placed label)).toList ++ ds, Arises enter x (.check label v y :: looks) d := by
  intro d hd
  rcases List.mem_append.1 hd with hd | hd
  · obtain ⟨e, rfl, rfl⟩ : ∃ e, r = some e ∧ e.placed label = d := by
      simpa using hd
    exact .check List.mem_cons_self ⟨s, t', hr⟩
  · exact (hds d hd).mono (List.subset_cons_self _ _)

theorem arises_all {vs : List Validator} {ds : List Diagnostic} (h : (diagnoseAll enter vs x).run s = (.ok ds, t)) :
    ∀ d ∈ ds, Arises enter x (vs.map (.check none · x)) d := by
  induction vs generalizing s ds with
  | nil => cases h; exact nofun
  | cons v vs ih =>
    obtain ⟨r, t', hr, h⟩ := run_bind_ok h
    obtain ⟨es, t'', hes, h⟩ := run_bind_ok h
    cases h
    have harises := arises_cons none hr (ih hes)
    cases r <;> exact harises

theorem arises_any {vs : List Validator} {ds : List Diagnostic}
    (h : (diagnoseAny enter vs x).run s = (.ok (some ds), t)) :
    ∀ d ∈ ds, Arises enter x (vs.map (.check none · x)) d := by
  induction vs generalizing s ds with
  | nil => cases h; exact nofun
  | cons v vs ih =>
    obtain ⟨r, t', hr, h⟩ := run_bind_ok h
    cases r with
    | none => cases h
    | some e =>
      obtain ⟨es?, t'', hes, h⟩ := run_bind_ok h
      obtain ⟨hmap, rfl⟩ := Prod.mk.inj h
      obtain ⟨es, rfl, rfl⟩ := Option.map_eq_some_iff.1 (Except.ok.inj hmap)
      exact arises_cons none hr (ih hes)

theorem arises_fields {coverage : Coverage} {fields : List (String × Validator)} {entries : List (String × Value)}
    {ds : List Diagnostic} (h : (diagnoseFields enter coverage fields entries).run s = (.ok ds, t)) :
    ∀ d ∈ ds, Arises enter (.obj entries) (fields.flatMap (fieldLook coverage entries)) d := by
  induction fields generalizing s ds with
  | nil => cases h; exact nofun
  | cons field fields ih =>
    obtain ⟨key, v⟩ := field
    simp only [diagnoseFields] at h
    rw [List.flatMap_cons]
    unfold fieldLook
    cases hl : entries.lookup key with
    | none =>
      rw [hl] at h
      obtain ⟨es, t', hes, h⟩ := run_bind_ok h
      cases h
      cases coverage with
      | present => exact ih hes
      | full =>
        intro d hd
        rcases List.mem_cons.1 hd with rfl | hd
        · exact .lack key
        · exact (ih hes d hd).mono (List.subset_cons_self _ _)
    | some y =>
      rw [hl] at h
      obtain ⟨r, t', hr, h⟩ := run_bind_ok h
      obtain ⟨es, t'', hes, h⟩ := run_bind_ok h
      cases h
      exact arises_cons (some (.key key)) hr (ih hes)

theorem arises_items {xs : List Value} {position : Nat} {ds : List Diagnostic}
    (h : (diagnoseItems (diagnoseWith enter v) position xs).run s = (.ok ds, t)) :
    ∀ d ∈ ds, Arises enter x ((xs.zipIdx position).map fun (y, i) => .check (some (.index i)) v y) d := by
  induction xs generalizing position s ds with
  | nil => cases h; exact nofun
  | cons y xs ih =>
    obtain ⟨r, t', hr, h⟩ := run_bind_ok h
    obtain ⟨es, t'', hes, h⟩ := run_bind_ok h
    cases h
    exact arises_cons (some (.index position)) hr (ih hes)

theorem arises_positions {vs : List Validator} {xs : List Value} {position : Nat} {ds : List Diagnostic}
    (h : (diagnosePositions enter position vs xs).run s = (.ok ds, t)) :
    ∀ d ∈ ds, Arises enter x (((vs.zip xs).zipIdx position).map fun ((v, y), i) => .check (some (.index i)) v y) d := by
  induction vs generalizing xs position s ds with
  | nil => cases h; exact nofun
  | cons v vs ih =>
    cases xs with
    | nil => cases h; exact nofun
    | cons y xs =>
      obtain ⟨r, t', hr, h⟩ := run_bind_ok h
      obtain ⟨es, t'', hes, h⟩ := run_bind_ok h
      cases h
      exact arises_cons (some (.index position)) hr (ih hes)

/-! ## One layer -/

/-- A failure of a check that looks at something has children that arise from that, and no label. -/
theorem gives_of_looks (hl : v.looks? x = some looks) (h : Gives (diagnoseWith enter v x) d) :
    ∃ children, d = .node v.name x children none ∧ ∀ c ∈ children, Arises enter x looks c := by
  obtain ⟨s, t, h⟩ := h
  unfold looks? at hl
  split at hl
  all_goals cases hl
  · obtain ⟨ds, t', hds, h⟩ := run_bind_ok h
    exact ⟨ds, Diagnostic.ofChildren_eq_some (Except.ok.inj (Prod.mk.inj h).1), arises_all hds⟩
  · obtain ⟨ds?, t', hds, h⟩ := run_bind_ok h
    obtain ⟨ds, rfl, rfl⟩ := Option.map_eq_some_iff.1 (Except.ok.inj (Prod.mk.inj h).1)
    exact ⟨ds, rfl, arises_any hds⟩
  · next key entries =>
    have hd := Except.ok.inj (Prod.mk.inj h).1
    cases hh : Entries.has key entries with
    | true => rw [hh] at hd; cases hd
    | false =>
      rw [hh] at hd
      cases hd
      refine ⟨_, rfl, fun c hc => ?_⟩
      cases List.mem_singleton.1 hc
      exact .lack key
  · obtain ⟨ds, t', hds, h⟩ := run_bind_ok h
    exact ⟨ds, Diagnostic.ofChildren_eq_some (Except.ok.inj (Prod.mk.inj h).1), arises_fields hds⟩
  · obtain ⟨ds, t', hds, h⟩ := run_bind_ok h
    exact ⟨ds, Diagnostic.ofChildren_eq_some (Except.ok.inj (Prod.mk.inj h).1), arises_items hds⟩
  · obtain ⟨ds, t', hds, h⟩ := run_bind_ok h
    exact ⟨ds, Diagnostic.ofChildren_eq_some (Except.ok.inj (Prod.mk.inj h).1), arises_positions hds⟩

/-- A check that neither looks at anything nor defers decides without effects. -/
theorem gives_of_no_looks (hl : v.looks? x = none) (hb : v.body? = none) (h : Gives (diagnoseWith enter v x) d) :
    d = .leaf v.name x := by
  have hpure : ∃ r, diagnoseWith enter v x = pure r ∧
      diagnoseWith (fun _ _ => none : Body → Value → Option (Option Diagnostic)) v x = some r := by
    cases v
    case all | any => cases hl
    case deferred | reference => cases hb
    case anything | guard | literal => exact ⟨_, rfl, rfl⟩
    all_goals cases x <;> first | exact ⟨_, rfl, rfl⟩ | cases hl
  obtain ⟨r, hr, hr'⟩ := hpure
  obtain ⟨s, t, h⟩ := h
  rw [hr] at h
  cases h
  exact (failure_of_no_looks hl hb hr').1

/-! ## Where frames ran out -/

/-- The check applies another one to the part of the value at the end of the path, and on the way there no
deferred check is opened. -/
inductive Direct : Validator → Value → List Label → Validator → Value → Prop
  | self (v : Validator) (x : Value) : Direct v x [] v x
  | look {v w u : Validator} {x y z : Value} {looks : List Look} {label : Option Label} {path : List Label}
    (hl : v.looks? x = some looks) (hm : .check label w y ∈ looks) (h : Direct w y path u z) :
    Direct v x (label.toList ++ path) u z

/-- What is entered gives failures without a label, and they mention no frame limit, or nothing else. -/
def Whole (enter : Body → Value → ExceptT ε (StateM σ) (Option Diagnostic)) : Prop :=
  ∀ b y e, Gives (enter b y) e → e.label = none ∧ (e.Limited → e = recursionLimit y)

theorem gives_body {b : Body} (hb : v.body? = some b) (h : Gives (diagnoseWith enter v x) d) : Gives (enter b x) d := by
  rw [diagnoseWith_body hb] at h
  exact h

theorem gives_unlabelled (he : Whole enter) (h : Gives (diagnoseWith enter v x) d) : d.label = none := by
  cases hb : v.body? with
  | some b => exact (he b x d (gives_body hb h)).1
  | none =>
    cases hl : v.looks? x with
    | some looks => obtain ⟨children, rfl, _⟩ := gives_of_looks hl h; rfl
    | none => rw [gives_of_no_looks hl hb h]; rfl

/-- No check that is opened at once is called as the frame limit is. -/
theorem name_ne (hb : v.body? = none) : v.name ≠ "recursionLimit" := by
  cases v with
  | guard kind => exact kindName_ne kind
  | literal expected => exact literalName_ne (by decide) expected
  | shape coverage fields => exact shapeName_ne coverage
  | deferred name body => cases hb
  | reference scope name target => cases hb
  | _ => simp [name]

/-- A node that reports the frame limit is what entering a body gave, at a place that is reached directly. -/
theorem limited_placed (he : Whole enter) {n e : Diagnostic} {path : List Label} (hn : e.At path n)
    (ho : n.operator = "recursionLimit") {label : Option Label} (hd : e = d.placed label)
    (h : Gives (diagnoseWith enter v x) d) :
    n.children = [] ∧ ∃ q u b, path = label.toList ++ q ∧ Direct v x q u n.value ∧ u.body? = some b ∧
      Gives (enter b n.value) (recursionLimit n.value) := by
  have hnone := gives_unlabelled he h
  induction hn generalizing d v x label with
  | root e =>
    subst hd
    rw [Diagnostic.operator_placed] at ho
    rw [Diagnostic.children_placed, Diagnostic.value_placed, Diagnostic.label_placed hnone]
    cases hb : v.body? with
    | some b =>
      have hg := gives_body hb h
      have hlimit : d.Limited := ⟨d, (Diagnostic.At.root d).mem_nodes, ho⟩
      obtain rfl := (he b x d hg).2 hlimit
      exact ⟨rfl, [], v, b, (List.append_nil _).symm, .self v x, hb, hg⟩
    | none =>
      -- the node is of a check that has another name
      refine absurd ?_ (name_ne hb)
      cases hl : v.looks? x with
      | some looks => obtain ⟨children, rfl, _⟩ := gives_of_looks hl h; exact ho
      | none => rw [gives_of_no_looks hl hb h] at ho; exact ho
  | @child e c n path hc hn ih =>
    subst hd
    rw [Diagnostic.children_placed] at hc
    cases hb : v.body? with
    | some b =>
      -- what is entered gives no children above such a node
      have hlimit : d.Limited := ⟨n, (Diagnostic.At.child hc hn).mem_nodes, ho⟩
      rw [(he b x d (gives_body hb h)).2 hlimit] at hc
      cases hc
    | none =>
      cases hl : v.looks? x with
      | none =>
        rw [gives_of_no_looks hl hb h] at hc
        cases hc
      | some looks =>
        obtain ⟨children, rfl, harises⟩ := gives_of_looks hl h
        cases harises c hc with
        | lack key =>
          cases hn with
          | root => exact absurd (show "missing" = "recursionLimit" from ho) (by decide)
          | child hc _ => cases hc
        | check hm hw =>
          obtain ⟨hleaf, q, u, b, rfl, hdirect, hu, hg⟩ := ih ho rfl hw (gives_unlabelled he hw)
          refine ⟨hleaf, _, u, b, ?_, .look hl hm hdirect, hu, hg⟩
          rw [Diagnostic.label_placed hnone]

theorem limited_stands (he : Whole enter) {n : Diagnostic} {path : List Label}
    (h : Gives (diagnoseWith enter v x) d) (hn : d.At path n) (ho : n.operator = "recursionLimit") :
    n.children = [] ∧ ∃ u b, Direct v x path u n.value ∧ u.body? = some b ∧
      Gives (enter b n.value) (recursionLimit n.value) := by
  have hroot : d = d.placed none := rfl
  obtain ⟨hleaf, _, u, b, rfl, hu⟩ := limited_placed he hn ho hroot h
  exact ⟨hleaf, u, b, hu⟩

end

/-! ## Frames -/

section

variable {σ : Type} {opens : Body → Frame σ Validator} {limit : Nat} {v : Validator} {b : Body} {x : Value}
  {d : Diagnostic}

/-- No frame that is left with a failure has had the frames run out inside it. -/
theorem diagnoseFrame_unlimited (h : Gives (diagnoseFrame opens limit b x) d) : d.label = none ∧ ¬ d.Limited := by
  induction limit generalizing b x d with
  | zero =>
    obtain ⟨s, t, h⟩ := h
    cases h
  | succ limit ih =>
    obtain ⟨s, t, h⟩ := h
    obtain ⟨w, t', _, hd⟩ := run_bind_ok h
    have he : Whole (diagnoseFrame opens limit) := fun b y e hg => ⟨(ih hg).1, fun hl => absurd hl (ih hg).2⟩
    refine ⟨gives_unlabelled he ⟨t', t, hd⟩, ?_⟩
    rintro ⟨n, hn, ho⟩
    obtain ⟨path, hn⟩ := Diagnostic.at_of_mem_nodes hn
    obtain ⟨_, u, b, _, _, hg⟩ := limited_stands he ⟨t', t, hd⟩ hn ho
    exact (ih hg).2 (limited_recursionLimit _)

/-- An outermost frame ends with what the work inside ends with, or the frames have run out in there. -/
theorem gives_close (h : Gives ((diagnoseFrame opens limit b x).close (some (recursionLimit x))) d) :
    Gives (diagnoseFrame opens limit b x) d ∨
      d = recursionLimit x ∧ ∃ s, ((diagnoseFrame opens limit b x).run s).1 = .error .frames := by
  obtain ⟨s, t, h⟩ := h
  rw [run_close] at h
  rcases hr : (diagnoseFrame opens limit b x).run s with ⟨⟨_ | e⟩ | r, t'⟩ <;> rw [hr] at h <;> cases h
  · exact .inr ⟨rfl, s, by rw [hr]⟩
  · exact .inl ⟨s, _, hr⟩

theorem whole_outermost (opens : Body → Frame σ Validator) (limit : Nat) :
    Whole fun b x => (diagnoseFrame opens limit b x).close (some (recursionLimit x)) := by
  intro b y e h
  rcases gives_close h with h | ⟨rfl, _⟩
  · exact ⟨(diagnoseFrame_unlimited h).1, fun hl => absurd hl (diagnoseFrame_unlimited h).2⟩
  · exact ⟨rfl, fun _ => rfl⟩

/-- Nothing, the limit alone, or a failure that does not mention it. -/
def AllOrNothing (x : Value) (r : Option Diagnostic) : Prop :=
  r = none ∨ r = some (recursionLimit x) ∨ ∃ d, r = some d ∧ ¬ d.Limited

/-- A deferred check outside of all frames gives all of its failure or nothing but the limit. -/
theorem all_or_nothing (hb : v.body? = some b) {r : Option Diagnostic} {s t : σ}
    (h : (diagnoseWithin opens limit v x).run s = (.ok r, t)) : AllOrNothing x r := by
  cases r with
  | none => exact .inl rfl
  | some d =>
    rw [diagnoseWithin, diagnoseWith_body hb] at h
    rcases gives_close ⟨s, t, h⟩ with h | ⟨rfl, _⟩
    · exact .inr (.inr ⟨d, rfl, (diagnoseFrame_unlimited h).2⟩)
    · exact .inr (.inl rfl)

/-- Every report of the limit stands where a deferred check is applied with none above it, whose frames ran
out; it has no children and carries the value that this check was given. -/
def LimitStands (opens : Body → Frame σ Validator) (limit : Nat) (v : Validator) (x : Value) (d : Diagnostic) : Prop :=
  ∀ path n, d.At path n → n.operator = "recursionLimit" → n.children = [] ∧
    ∃ u b s, Direct v x path u n.value ∧ u.body? = some b ∧
      ((diagnoseFrame opens limit b n.value).run s).1 = .error .frames

theorem limit_stands {s t : σ} (h : (diagnoseWithin opens limit v x).run s = (.ok (some d), t)) :
    LimitStands opens limit v x d := by
  intro path n hn ho
  obtain ⟨hleaf, u, b, hdirect, hu, hg⟩ := limited_stands (whole_outermost opens limit) ⟨s, t, h⟩ hn ho
  rcases gives_close hg with hg | ⟨_, s', hs⟩
  · exact absurd (limited_recursionLimit _) (diagnoseFrame_unlimited hg).2
  · exact ⟨hleaf, u, b, s', hdirect, hu, hs⟩

end

/-! ## References that were served -/

section

variable {scope : Scope} {earlier : List Request} {ref : Value} {v : Validator} {after : List Mark}

theorem served_body (h : (scope.serve (.resolve ref)).run (scope.marksAfter [] earlier) = (.ok v, after)) :
    ∃ b, v.body? = some b := by
  rw [Scope.serve, Scope.resolve_eq] at h
  obtain ⟨r, target, _, _, rfl, _⟩ := Scope.resolveWith_ok h
  exact ⟨_, rfl⟩

variable {request : Request}

theorem served_reached (h : (scope.serve request).run (scope.marksAfter [] earlier) = (.ok v, after)) :
    ∀ b ∈ v.bodies, Reached scope request.node b := by
  rw [Scope.serve_eq] at h
  exact Scope.reached_of_linked (Scope.linked_of_compile h)

/-- What is served when no request has failed before is safe for good. -/
theorem served_safe (hserves : scope.Serves [] earlier)
    (h : (scope.serve request).run (scope.marksAfter [] earlier) = (.ok v, after)) (later : List Request) :
    v.Safe (scope.marksAfter after later) := by
  have hnone : scope.Intact [] := by
    intro name hm
    cases of_decide_eq_true hm
  obtain ⟨_, hc⟩ := (hnone.marksAfter hserves).serve h
  exact hc.safe (scope.subset_marksAfter after later)

/-- The diagnosis of a reference that a scope has served, with no frame open: it ends with nothing, with the
limit alone, or with a failure that does not mention the limit. It raises an error only if that is of a faulty
node which the reference reaches, and none at all if no request before its own has failed. In the diagnosis of
any validator the limit is reported where a deferred check is outermost. And however a check ends, the count
of open frames is what it was before. -/
theorem limit_outermost (h : (scope.serve (.resolve ref)).run (scope.marksAfter [] earlier) = (.ok v, after))
    (later : List Request) (limit : Nat) (x : Value) :
    (∃ r marks, (diagnoseWithin Body.open limit v x).run (scope.marksAfter after later) = (r, marks) ∧
      (diagnoseCounting Body.open limit v x).run (0, scope.marksAfter after later) =
        (r.mapError .schema, 0, marks) ∧
      (∀ d, r = .ok d → AllOrNothing x d) ∧
      (∀ e, r = .error e → Blamed scope.definitions (.obj [("$ref", ref)]) e) ∧
      (scope.Serves [] earlier → ∃ d, r = .ok d)) ∧
    (∀ w y d (marks marks' : List Mark), (diagnoseWithin Body.open limit w y).run marks = (.ok (some d), marks') →
      LimitStands Body.open limit w y d) ∧
    ∀ w y count (marks : List Mark),
      ((testCounting Body.open limit w y).run (count, marks)).2.1 = count ∧
      ((diagnoseCounting Body.open limit w y).run (count, marks)).2.1 = count := by
  refine ⟨⟨_, _, rfl, diagnoseCounting_outside limit v x _, fun d hd => ?_, fun e he => ?_, fun hserves => ?_⟩,
    fun w y d marks marks' h => limit_stands h,
    fun w y count marks => ⟨testCounting_count limit w y count marks, diagnoseCounting_count limit w y count marks⟩⟩
  · obtain ⟨b, hb⟩ := served_body h
    exact all_or_nothing hb (Prod.ext hd rfl)
  · exact diagnoseWithin_raising (scope.confines_reached _) (served_reached h) limit x _ e he
  · have hsafe := served_safe hserves h later
    exact ⟨_, congrArg Prod.fst (diagnoseWithin_run limit hsafe x)⟩

set_option maxRecDepth 2000 in
/-- A reference whose diagnosis goes on into a cycle reports the limit and nothing else. -/
theorem limit_outermost_detour : ∃ marks,
    (diagnoseCounting Body.open 3 (.reference detourScope "A" detour) (.int 1)).run (0, [⟨0, "A"⟩, ⟨0, "L"⟩]) =
      (.ok (some (recursionLimit (.int 1))), 0, marks) ∧ AllOrNothing (.int 1) (some (recursionLimit (.int 1))) := by
  have hserved : (detourScope.serve (.resolve (.str "#/definitions/A"))).run (detourScope.marksAfter [] []) =
      (.ok (.reference detourScope "A" detour), [⟨0, "A"⟩, ⟨0, "L"⟩]) := rfl
  have hrun : ((diagnoseWithin Body.open 3 (.reference detourScope "A" detour) (.int 1)).run
      [⟨0, "A"⟩, ⟨0, "L"⟩]).1 = .ok (some (recursionLimit (.int 1))) := rfl
  obtain ⟨⟨r, marks, hr, hcounted, hall, _, _⟩, _⟩ := limit_outermost hserved [] 3 (.int 1)
  obtain rfl : r = .ok (some (recursionLimit (.int 1))) := by
    rw [← hrun]
    exact (congrArg Prod.fst hr).symm
  exact ⟨marks, hcounted, hall _ rfl⟩

/-- After a request for `A` has failed, the second one is served, and every diagnosis with what it has given
raises an error. -/
theorem trap_gives_no_diagnosis : ∃ v,
    (trapScope.serve (.resolve refA)).run (trapScope.marksAfter [] [.resolve refA]) = (.ok v, [⟨0, "A"⟩]) ∧
    ∀ limit x, ¬ ∃ d, ((diagnoseWithin Body.open (limit + 1) v x).run [⟨0, "A"⟩]).1 = .ok d ∧ AllOrNothing x d := by
  have hcompile : (trapScope.compile (.obj [("type", .str "text")])).run [⟨0, "A"⟩] =
      (.error (.unknownType (.str "text")), [⟨0, "A"⟩]) := rfl
  refine ⟨_, Scope.resolve_again lookUp_refA resolve_refA, ?_⟩
  rintro limit x ⟨d, hd, _⟩
  rw [diagnoseWithin_of_fault hcompile] at hd
  cases hd

end

end Validator

end Conformance
