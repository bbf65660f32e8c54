import Conformance.Proofs.Agreement
import Conformance.Proofs.Correctness
import Conformance.Proofs.Faults
import Conformance.Proofs.Replacing
/-!
# Inlining references

A reference may be replaced by the definition it names, wherever it stands as a node: a document
compiles with the one if it does with the other, and then both accept the same values. The
validators differ, since a reference is checked in a frame of its own and a definition is merged
with the checks around it. So both are compared with what the documents mean.
-/

namespace Conformance

open Meaning

/-! ## A reference and its definition -/

section Reference

variable {table : Option Definitions} {r target x : Value}

theorem Names.unique {target' : Value} (h : Names table r target) (h' : Names table r target') : target = target' := by
  obtain ⟨ref, definitions, hr, ht, hl⟩ := h
  obtain ⟨ref', definitions', hr', ht', hl'⟩ := h'
  rw [hr] at hr'
  cases hr'
  rw [ht] at ht'
  cases ht'
  rw [hl] at hl'
  cases hl'
  rfl

/-- A node that is only a reference accepts what the definition accepts. -/
theorem accepts_reference (h : Names table r target) :
    Accepts table (.obj [("$ref", r)]) x ↔ Accepts table target x := by
  rw [accepts_iff]
  constructor
  · intro ho
    obtain ⟨target', hn, hx⟩ := ho.ref r rfl
    rw [Names.unique h hn]
    exact hx
  · intro hx
    have hnone : Obeys (Follow table (Accepts table)) (Accepts table) [] x := by
      constructor <;> intros <;> contradiction
    refine { hnone with ref := fun r' hl => ?_ }
    cases hl
    exact ⟨target, h, hx⟩

end Reference

namespace Scope

variable {scope : Scope} {known : String → Bool} {old new node node' : Value}

theorem linked_iff_met : (∃ v, scope.linked known node = .ok v) ↔
    ∀ d ∈ (Schema.ofValue node).demands true, d.Met (scope.link known) := Schema.compileWith_ok_iff _

/-- Putting a node for another leaves a document that links, if the new node links where the old one does. -/
theorem linked_of_replaced (hr : Replaced old new node node')
    (hnew : (∃ v, scope.linked known old = .ok v) → ∃ v, scope.linked known new = .ok v)
    (h : ∃ v, scope.linked known node = .ok v) : ∃ v, scope.linked known node' = .ok v := by
  rw [linked_iff_met] at h ⊢
  intro d hd
  rcases hr.demands hd with hd | ⟨hd, hold⟩
  · exact h d hd
  · exact linked_iff_met.1 (hnew (linked_iff_met.2 fun e he => h e (hold e he))) d hd

/-- A reference links if and only if its definition is known. -/
theorem linked_reference {r : Value} {ref : Reference} (hr : Reference.ofValue r = .ok ref) {target : Value}
    (hd : scope.Defines ref.name target) :
    (∃ v, scope.linked known (.obj [("$ref", r)]) = .ok v) ↔ known ref.name = true := by
  have hdemands : (Schema.ofValue (.obj [("$ref", r)])).demands true = [.reference r] := rfl
  rw [linked_iff_met, hdemands, List.forall_mem_singleton, met_reference]
  constructor
  · rintro ⟨name, _, hl, hk⟩
    obtain ⟨ref', hr', rfl, _⟩ := lookUp_ok.1 hl
    rw [hr] at hr'
    cases hr'
    exact hk
  · exact fun hk => ⟨ref.name, target, lookUp_ok.2 ⟨ref, hr, rfl, hd⟩, hk⟩

/-- A known definition may be put for a reference to it. -/
theorem settled_inline {r target : Value} {ref : Reference} (hr : Reference.ofValue r = .ok ref)
    (hd : scope.Defines ref.name target) (hrep : Replaced (.obj [("$ref", r)]) target node node')
    (h : ∃ known, scope.Settled known ∧ ∃ v, scope.linked known node = .ok v) :
    ∃ known, scope.Settled known ∧ ∃ v, scope.linked known node' = .ok v := by
  obtain ⟨known, hs, hnode⟩ := h
  refine ⟨known, hs, linked_of_replaced hrep (fun hl => ?_) hnode⟩
  exact hs _ _ ((linked_reference hr hd).1 hl) hd

/-- A reference may be put for its definition, which is known from then on. -/
theorem settled_refer {r target : Value} {ref : Reference} (hr : Reference.ofValue r = .ok ref)
    (hd : scope.Defines ref.name target) (hrep : Replaced target (.obj [("$ref", r)]) node node')
    (h : ∃ known, scope.Settled known ∧ ∃ v, scope.linked known node = .ok v) :
    ∃ known, scope.Settled known ∧ ∃ v, scope.linked known node' = .ok v := by
  obtain ⟨known, hs, hnode⟩ := h
  by_cases htarget : ∃ v, scope.linked known target = .ok v
  · -- the definition links, so it may count as known
    have hmono : ∀ name, known name = true → (known name || name == ref.name) = true := by
      intro name hk
      rw [hk, Bool.true_or]
    have hlinked : ∀ {n}, (∃ v, scope.linked known n = .ok v) →
        ∃ v, scope.linked (fun name => known name || name == ref.name) n = .ok v := by
      rintro n ⟨v, hv⟩
      exact ⟨v, linked_mono hmono hv⟩
    refine ⟨fun name => known name || name == ref.name, fun name t hk ht => ?_, ?_⟩
    · rcases Bool.or_eq_true_iff.1 hk with hk | hk
      · exact hlinked (hs name t hk ht)
      · cases eq_of_beq hk
        cases hd.unique ht
        exact hlinked htarget
    · refine linked_of_replaced hrep (fun _ => ?_) (hlinked hnode)
      exact (linked_reference hr hd).2 (by simp)
  · -- the definition does not link, so it does not stand in the document
    exact ⟨known, hs, linked_of_replaced hrep (fun hl => absurd hl htarget) hnode⟩

end Scope

/-! ## Checks that end -/

namespace Scope.Compiled

open Validator

variable {scope : Scope} {marks : List Mark} {node x : Value} {v : Validator} {limit : Nat}

theorem accepts_of_test (hc : scope.Compiled marks node v) {t : Bool}
    (h : testWith (testIn? limit) v x = some t) : t = true ↔ Accepts scope.definitions node x := by
  have hjudge : t = v.accepts judge x := by
    refine deciding.testWith v x (fun b hb y a ha => ?_) t h
    obtain ⟨_, _, rfl, _⟩ := bodies_of_linked hc.linked b hb
    exact testIn?_judge limit ha
  rw [hjudge]
  exact accepts_judge hc.linked

/-- A test that did not run out of frames answers whether the node accepts the value. -/
theorem test_of_ends (hc : scope.Compiled marks node v)
    (h : ((testWith (testFrame Body.open limit) v x).run marks).1 ≠ .error .frames) :
    ∃ t, (testWithin Body.open limit v x).run marks = (.ok t, marks) ∧
      (t = true ↔ Accepts scope.definitions node x) := by
  have hs : v.Safe marks := hc.safe (List.Subset.refl _)
  rw [testFrames_run limit hs] at h
  cases ht : testWith (testIn? limit) v x with
  | none =>
    rw [ht] at h
    exact absurd rfl h
  | some t =>
    refine ⟨t, ?_, hc.accepts_of_test ht⟩
    rw [testWithin_run limit hs, passes_of_ends ht]

/-- A diagnosis that did not run out of frames finds a failure unless the node accepts the value. -/
theorem diagnosis_of_ends (hc : scope.Compiled marks node v)
    (h : ((diagnoseWith (diagnoseFrame Body.open limit) v x).run marks).1 ≠ .error .frames) :
    ∃ d, (diagnoseWithin Body.open limit v x).run marks = (.ok d, marks) ∧
      (d = none ↔ Accepts scope.definitions node x) := by
  have hs : v.Safe marks := hc.safe (List.Subset.refl _)
  rw [diagnoseFrames_run limit hs] at h
  cases hd : diagnoseWith (diagnoseIn? limit) v x with
  | none =>
    rw [hd] at h
    exact absurd rfl h
  | some d =>
    refine ⟨d, by rw [diagnoseWithin_run limit hs, failure?_of_ends hd], ?_⟩
    -- the failure mentions no frame limit, so the test ends and is its opposite
    obtain ⟨t, ht, hyes, hno⟩ := agrees_with (agrees_in limit) v x d hd
    rw [← hc.accepts_of_test ht]
    constructor
    · exact hyes
    · intro htrue
      cases d with
      | none => rfl
      | some tree =>
        have hfalse := hno tree rfl (unlimited_with (unlimited_in limit) v x _ hd tree List.mem_cons_self)
        rw [htrue] at hfalse
        cases hfalse

end Scope.Compiled

/-! ## Documents with and without a reference -/

namespace Validator

/-- A reference to a mapping may be replaced by the mapping. With the one a node compiles in a new scope if
and only if it does with the other. Then the tests of a value that both come to an end give one answer, and
of its diagnoses that both come to an end one finds no failure if and only if the other finds none. -/
theorem reference_inlines {id id' : Nat} {definitions : Definitions} {r node node' : Value}
    {body : List (String × Value)} {before before' : List Mark} (fresh : ∀ m ∈ before, m.scope ≠ id)
    (fresh' : ∀ m ∈ before', m.scope ≠ id') (names : Names (some definitions) r (.obj body))
    (replaced : Replaced (.obj [("$ref", r)]) (.obj body) node node') :
    ∃ a after a' after', ((⟨id, some definitions⟩ : Scope).compile node).run before = (a, after) ∧
      ((⟨id', some definitions⟩ : Scope).compile node').run before' = (a', after') ∧
      ((∃ v, a = .ok v) ↔ ∃ v, a' = .ok v) ∧
      ∀ v v', a = .ok v → a' = .ok v' → ∀ limit limit' x,
        (((testWith (testFrame Body.open limit) v x).run after).1 ≠ .error .frames →
          ((testWith (testFrame Body.open limit') v' x).run after').1 ≠ .error .frames →
          ∃ t, (testWithin Body.open limit v x).run after = (.ok t, after) ∧
            (testWithin Body.open limit' v' x).run after' = (.ok t, after')) ∧
        (((diagnoseWith (diagnoseFrame Body.open limit) v x).run after).1 ≠ .error .frames →
          ((diagnoseWith (diagnoseFrame Body.open limit') v' x).run after').1 ≠ .error .frames →
          ∃ d d', (diagnoseWithin Body.open limit v x).run after = (.ok d, after) ∧
            (diagnoseWithin Body.open limit' v' x).run after' = (.ok d', after') ∧ (d = none ↔ d' = none)) := by
  have haccepts : ∀ x, Accepts (some definitions) node x ↔ Accepts (some definitions) node' x :=
    replaced.accepts fun _ => accepts_reference names
  obtain ⟨ref, table, href, htable, hbody⟩ := names
  have hcompiles : (∃ v, (((⟨id, some definitions⟩ : Scope).compile node).run before).1 = .ok v) ↔
      ∃ v, (((⟨id', some definitions⟩ : Scope).compile node').run before').1 = .ok v := by
    rw [Scope.compiles_iff fresh, Scope.compiles_iff fresh']
    -- which scope links the nodes is all one, so the first links both
    refine (Scope.faultless_iff ⟨id, some definitions⟩).trans (Iff.trans ?_ (Scope.faultless_iff ⟨id, _⟩).symm)
    exact ⟨Scope.settled_inline href ⟨table, htable, hbody⟩ replaced,
      Scope.settled_refer href ⟨table, htable, hbody⟩ replaced.symm⟩
  rcases hrun : ((⟨id, some definitions⟩ : Scope).compile node).run before with ⟨a, after⟩
  rcases hrun' : ((⟨id', some definitions⟩ : Scope).compile node').run before' with ⟨a', after'⟩
  refine ⟨a, after, a', after', rfl, rfl, ?_, ?_⟩
  · rw [hrun, hrun'] at hcompiles
    exact hcompiles
  · rintro v v' rfl rfl limit limit' x
    obtain ⟨_, hc⟩ := Scope.compile_fresh fresh hrun
    obtain ⟨_, hc'⟩ := Scope.compile_fresh fresh' hrun'
    constructor
    · intro hend hend'
      obtain ⟨t, ht, htiff⟩ := hc.test_of_ends hend
      obtain ⟨t', ht', htiff'⟩ := hc'.test_of_ends hend'
      have hsame : t = t' := by
        rw [Bool.eq_iff_iff, htiff, htiff']
        exact haccepts x
      rw [hsame] at ht
      exact ⟨t', ht, ht'⟩
    · intro hend hend'
      obtain ⟨d, hd, hdiff⟩ := hc.diagnosis_of_ends hend
      obtain ⟨d', hd', hdiff'⟩ := hc'.diagnosis_of_ends hend'
      refine ⟨d, d', hd, hd', ?_⟩
      rw [hdiff, hdiff']
      exact haccepts x

/-! ### Links of a chain -/

/-- An object that may have another one after it. -/
def links : List (String × Value) :=
  [("type", .str "object"), ("properties", .obj [("next", .obj [("$ref", .str "#/definitions/links")])])]

def linksScope : Scope := ⟨0, some [("links", .obj links)]⟩

def linksNode (element : Value) : Value := .obj [("type", .str "array"), ("items", element)]

/-- What the definition becomes where it is inlined. -/
def linksBody : Validator :=
  .all [.guard .object, .shape .present [("next", .reference linksScope "links" (.obj links))]]

set_option maxRecDepth 2000 in
theorem compile_links :
    (linksScope.compile (linksNode (.obj [("$ref", .str "#/definitions/links")]))).run [] =
      (.ok (.all [.guard .array, .arrayOf (.reference linksScope "links" (.obj links))]), [⟨0, "links"⟩]) ∧
    (linksScope.compile (linksNode (.obj links))).run [] =
      (.ok (.all [.guard .array, .arrayOf linksBody]), [⟨0, "links"⟩]) := ⟨rfl, rfl⟩

set_option maxRecDepth 2000 in
/-- Where the definition is inlined it takes one frame less. -/
theorem reference_inlines_links :
    (testWithin Body.open 1 (.all [.guard .array, .arrayOf linksBody])
      (.list [.obj [("next", .obj [])]])).run [⟨0, "links"⟩] = (.ok true, [⟨0, "links"⟩]) := by
  have hfresh : ∀ m ∈ ([] : List Mark), m.scope ≠ 0 := List.forall_mem_nil _
  have hnames : Names linksScope.definitions (.str "#/definitions/links") (.obj links) := ⟨_, _, rfl, rfl, rfl⟩
  have hreplaced : Replaced (.obj [("$ref", .str "#/definitions/links")]) (.obj links)
      (linksNode (.obj [("$ref", .str "#/definitions/links")])) (linksNode (.obj links)) :=
    @Replaced.keyword _ _ "items" _ _ _ _ [("type", .str "array")] [] rfl (.items nofun nofun) .here
  have htwo : (testWithin Body.open 2 (.all [.guard .array, .arrayOf (.reference linksScope "links" (.obj links))])
      (.list [.obj [("next", .obj [])]])).run [⟨0, "links"⟩] = (.ok true, [⟨0, "links"⟩]) := rfl
  obtain ⟨_, _, _, _, hrun, hrun', _, hsame⟩ := reference_inlines hfresh hfresh hnames hreplaced
  rw [show (Scope.mk 0 _) = linksScope from rfl, compile_links.1] at hrun
  rw [show (Scope.mk 0 _) = linksScope from rfl, compile_links.2] at hrun'
  cases hrun
  cases hrun'
  obtain ⟨htest, _⟩ := hsame _ _ rfl rfl 2 1 (.list [.obj [("next", .obj [])]])
  obtain ⟨t, ht, ht'⟩ := htest (fun h => by cases h) (fun h => by cases h)
  rw [htwo] at ht
  cases ht
  exact ht'

end Validator

end Conformance
