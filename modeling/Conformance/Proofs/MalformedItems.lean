import Conformance.Proofs.Exchange
import Conformance.Proofs.PlainForm
/-!
# Malformed items

Whatever stands under `items` is taken for a node, and what is neither a list nor a mapping is a node that allows
everything. So it is not passed over, as malformed values are under the other keywords. Wherever it stands, it says
what an empty mapping would say there: a value has to be a list, and nothing is asked of what is in it.
-/

namespace Conformance

open Schema (Synonym)

/-- Neither a list nor a mapping: a node that allows everything. -/
structure Blank (value : Value) : Prop where
  list : ∀ s vs, value ≠ .arr s vs
  mapping : ∀ entries, value ≠ .obj entries

/-- An empty mapping is put in the place of a malformed value under `items`. -/
inductive ItemsEmptied : Value → Value → Prop
  | mk {entries : List (String × Value)} {value : Value} (hl : entries.lookup "items" = some value) (hv : Blank value) :
    ItemsEmptied (.obj entries) (.obj (Entries.insert "items" (.obj []) entries))

/-! ## What is read -/

namespace Schema

theorem read_blank {value : Value} (h : Blank value) : read value = ⟨anything, none, none⟩ := by
  cases value with
  | arr s vs => exact absurd rfl (h.list s vs)
  | obj entries => exact absurd rfl (h.mapping entries)
  | _ => rfl

theorem part_items_blank {entries : List (String × Value)} {value : Value} (hl : entries.lookup "items" = some value)
    (hv : Blank value) : part .items entries (readEntries entries) = items anything := by
  simp only [part, lookup_readEntries, hl, Option.map_some, read_blank hv, Option.elim_none]

/-- A mapping without keywords says nothing. -/
theorem synonym_empty : Synonym (ofValue (.obj [])) anything := by
  rw [ofValue, read_mapping, ← List.append_nil (Keyword.all.map _)]
  have hidle : ∀ s ∈ Keyword.all.map fun k => part k [] (readEntries []), Synonym s (.all []) := by
    rw [List.forall_mem_map]
    intro k _
    apply part_idle
    intro key _
    rfl
  exact (Synonym.drop_all hidle).trans (.symm .anything)

end Schema

theorem ItemsEmptied.synonym (old new : Value) (h : ItemsEmptied old new) :
    Synonym (Schema.ofValue old) (Schema.ofValue new) := by
  cases h with
  | @mk entries value hl hv =>
    have hother : ∀ word, word ≠ "items" →
        (Entries.insert "items" (.obj []) entries).lookup word = entries.lookup word := by
      intro word hne
      rw [Entries.lookup_insert, if_neg hne]
    apply Schema.synonym_at hother
    intro k hk
    cases k <;> simp [Keyword.words] at hk
    rw [Schema.part_items_blank hl hv]
    simp only [Schema.part, Schema.lookup_readEntries, Entries.lookup_insert, if_pos, Option.map_some]
    exact .items Schema.synonym_empty.symm

namespace Schema

/-- Taken away, a malformed value leaves everything else as it is. -/
theorem ofValue_around_items {entries : List (String × Value)} {value : Value} (hl : entries.lookup "items" = some value)
    (hv : Blank value) : ∃ front back, ofValue (.obj entries) = all (front ++ items anything :: back) ∧
      ofValue ((Value.obj entries).without "items") = all (front ++ anything :: back) := by
  have haround : ∀ es, ofValue (.obj es) = all ([.ref, .type, .required, .properties].map (ofKeyword · (.obj es)) ++
      ofKeyword .items (.obj es) :: [.enum, .anyOf, .allOf].map (ofKeyword · (.obj es))) := by
    intro es
    rw [ofValue, read_mapping]
    rfl
  have hother : ∀ k : Keyword, "items" ∉ k.words →
      ofKeyword k (.obj (Entries.without "items" entries)) = ofKeyword k (.obj entries) := by
    intro k
    apply part_elsewhere
    intro word hne
    exact Entries.lookup_without hne entries
  have hgone : ofKeyword .items (.obj (Entries.without "items" entries)) = anything := by
    have hnone : (Entries.without "items" entries).lookup "items" = none := by
      rw [Entries.without, Entries.lookup_filter (fun k => decide (k ≠ "items")), if_neg (by decide)]
    simp only [ofKeyword, part, lookup_readEntries, hnone, Option.map_none]
  refine ⟨[.ref, .type, .required, .properties].map (ofKeyword · (.obj entries)),
    [.enum, .anyOf, .allOf].map (ofKeyword · (.obj entries)), (haround entries).trans ?_, (haround _).trans ?_⟩
  · rw [show ofKeyword .items (.obj entries) = items anything from part_items_blank hl hv]
  · rw [hgone]
    simp only [List.map_cons, List.map_nil, hother .ref (by decide), hother .type (by decide),
      hother .required (by decide), hother .properties (by decide), hother .enum (by decide),
      hother .anyOf (by decide), hother .allOf (by decide)]

/-- What always compiles to one check puts that among what is made of the other parts. -/
theorem compileWith_among {m : Type → Type} [Monad m] [LawfulMonad m] [MonadExcept SchemaError m]
    {resolve : Value → m Validator} {s : Schema} {v : Validator} (h : s.compileWith resolve = pure v)
    (front back : List Schema) : (all (front ++ s :: back)).compileWith resolve = (do
      let members ← (do
        let vs ← compileAll resolve front
        let ws ← compileAll resolve back
        pure (vs, ws))
      pure (Validator.every (members.1 ++ v :: members.2))) := by
  simp [compileWith, compileAll_append, compileAll, h]

end Schema

/-! ## Checks -/

namespace Validator

open Diagnostic

variable {limit : Nat} {x : Value} {marks : List Mark}

theorem passes_arrayOf_anything : passes limit (.arrayOf .anything) x = x.hasKind .array := by
  cases x with
  | arr s ys => exact accepts_arrayOf.2 ⟨s, ys, rfl, fun _ _ => rfl⟩
  | _ => rfl

theorem failure?_arrayOf_anything : failure? limit (.arrayOf .anything) x = leafUnless (x.hasKind .array) "arrayOf" x := by
  have hitems : ∀ (ys : List Value) (position : Nat),
      Id.run (diagnoseItems (fun _ => pure none) position ys) = [] := by
    intro ys
    induction ys with
    | nil => exact fun _ => rfl
    | cons y ys ih => exact fun position => ih (position + 1)
  cases x with
  | arr s ys => exact congrArg (Diagnostic.ofChildren "arrayOf" (.arr s ys)) (hitems ys 0)
  | _ => rfl

/-- The second check is the first one and asks for a list besides. Under any limit it passes a value if the first
one does and it is a list. It finds the leaves that the first one finds, and another one in what is no list. -/
structure AsksForList (marks : List Mark) (v w : Validator) : Prop where
  test : ∀ limit x, ∃ t, (testWithin Body.open limit v x).run marks = (.ok t, marks) ∧
    (testWithin Body.open limit w x).run marks = (.ok (t && x.hasKind .array), marks)
  diagnose : ∀ limit x, ∃ d d' front back, (diagnoseWithin Body.open limit v x).run marks = (.ok d, marks) ∧
    (diagnoseWithin Body.open limit w x).run marks = (.ok d', marks) ∧ leavesAll [] d.toList = front ++ back ∧
    leavesAll [] d'.toList = front ++ (if x.hasKind .array then [] else [⟨[], "arrayOf", x⟩]) ++ back

theorem asksForList {vs ws : List Validator} (hv : (every (vs ++ .anything :: ws)).Safe marks)
    (hw : (every (vs ++ .arrayOf .anything :: ws)).Safe marks) :
    AsksForList marks (every (vs ++ .anything :: ws)) (every (vs ++ .arrayOf .anything :: ws)) where
  test limit x := by
    have hpasses : passes limit (every (vs ++ .arrayOf .anything :: ws)) x =
        (passes limit (every (vs ++ .anything :: ws)) x && x.hasKind .array) := by
      have hevery : ∀ us, passes limit (every us) x = true ↔ ∀ u ∈ us, passes limit u x = true :=
        fun _ => accepts_every
      have hanything : passes limit .anything x = true := rfl
      rw [Bool.eq_iff_iff, Bool.and_eq_true, ← @passes_arrayOf_anything limit, hevery, hevery]
      simp only [List.forall_mem_append, List.forall_mem_cons, hanything, true_and]
      tauto
    refine ⟨_, testWithin_run limit hv x, ?_⟩
    rw [testWithin_run limit hw x, hpasses]
  diagnose limit x := by
    refine ⟨_, _, vs.flatMap fun v => leavesAll [] (failure? limit v x).toList,
      ws.flatMap fun v => leavesAll [] (failure? limit v x).toList, diagnoseWithin_run limit hv x,
      diagnoseWithin_run limit hw x, ?_, ?_⟩
    · rw [leaves_every, List.flatMap_append, List.flatMap_cons]
      rfl
    · have hleaf : leavesAll [] (failure? limit (.arrayOf .anything) x).toList =
          if x.hasKind .array then [] else [⟨[], "arrayOf", x⟩] := by
        rw [failure?_arrayOf_anything]
        unfold leafUnless
        split <;> rfl
      rw [leaves_every, List.flatMap_append, List.flatMap_cons, hleaf, List.append_assoc]

/-- A node with a malformed `items` and the same node without it compile alike, the first to a check that asks for a
list besides. -/
theorem compile_beside_items {scope : Scope} {before : List Mark} (fresh : ∀ m ∈ before, m.scope ≠ scope.id)
    {entries : List (String × Value)} {value : Value} (hl : entries.lookup "items" = some value) (hv : Blank value) :
    ∃ (r r' : Except SchemaError Validator) (after : List Mark),
      (scope.compile ((Value.obj entries).without "items")).run before = (r, after) ∧
      (scope.compile (.obj entries)).run before = (r', after) ∧ Matched (AsksForList after) r r' := by
  obtain ⟨front, back, hwith, hwithout⟩ := Schema.ofValue_around_items hl hv
  have hamong := @Schema.compileWith_among Build _ _ _ scope.resolve
  have hwithout' := hamong (s := .anything) rfl front back
  have hwith' := hamong (s := .items .anything) rfl front back
  rw [← hwithout] at hwithout'
  rw [← hwith] at hwith'
  -- what the other parts compile to is the same on both sides
  generalize (do
    let vs ← Schema.compileAll scope.resolve front
    let ws ← Schema.compileAll scope.resolve back
    pure (vs, ws)) = members at hwith' hwithout'
  have hrun : (scope.compile ((Value.obj entries).without "items")).run before = _ := congrArg (·.run before) hwithout'
  have hrun' : (scope.compile (.obj entries)).run before = _ := congrArg (·.run before) hwith'
  rw [run_bind] at hrun hrun'
  rcases hmembers : members.run before with ⟨e | p, after⟩ <;> rw [hmembers] at hrun hrun'
  · exact ⟨_, _, after, hrun, hrun', .error rfl⟩
  · have hsafe := (Scope.compile_fresh fresh hrun).2.safe (List.Subset.refl _)
    have hsafe' := (Scope.compile_fresh fresh hrun').2.safe (List.Subset.refl _)
    exact ⟨_, _, after, hrun, hrun', .ok (asksForList hsafe hsafe')⟩

/-- A malformed `items` is not passed over. In any nodes, at any depth of a document and of its definitions, it says
what an empty mapping says in its place: the document compiles with either of them, and to validators that no check
tells apart, or both times it fails with the same code. And over these definitions a node with a malformed `items`
asks for what it asks for without it, and for a list. -/
theorem compile_of_malformed_items {id id' : Nat} {document document' definitions definitions' : Value}
    {before before' : List Mark} (fresh : ∀ m ∈ before, m.scope ≠ id) (fresh' : ∀ m ∈ before', m.scope ≠ id')
    (h : Relation.EqvGen (Exchange ItemsEmptied) (document, definitions) (document', definitions')) :
    (∃ (r r' : Except SchemaError Validator) (names : List String),
      (compileDocument id document definitions).run before = (r, before ++ names.map (Mark.mk id)) ∧
      (compileDocument id' document' definitions').run before' = (r', before' ++ names.map (Mark.mk id')) ∧
      Matched (fun v w => Interchangeable (before ++ names.map (Mark.mk id)) v (before' ++ names.map (Mark.mk id')) w)
        r r') ∧
    ∀ (entries : List (String × Value)) (value : Value), entries.lookup "items" = some value → Blank value →
      ∃ (r r' : Except SchemaError Validator) (after : List Mark),
        (Scope.compile ⟨id, effectiveDefinitions document definitions⟩ ((Value.obj entries).without "items")).run before =
          (r, after) ∧
        (Scope.compile ⟨id, effectiveDefinitions document definitions⟩ (.obj entries)).run before = (r', after) ∧
        Matched (AsksForList after) r r' :=
  ⟨compile_of_same_gist fresh fresh' (gist_of_exchanged ItemsEmptied.synonym h),
    fun _ _ hl hv => compile_beside_items fresh hl hv⟩

/-- One property is a list of anything, as a malformed `items` has it. -/
def malformedDocument : Value := .obj [("properties", .obj [("a", .obj [("required", .list [.str "b"]), ("items", .int 5)])])]

/-- The same with an empty mapping. -/
def emptiedDocument : Value :=
  .obj [("properties", .obj [("a", .obj [("required", .list [.str "b"]), ("items", .obj [])])])]

theorem compile_of_malformed_items_property :
    (∃ v w, (compileDocument 0 malformedDocument .null).run [] = (.ok v, []) ∧
      (compileDocument 1 emptiedDocument .null).run [] = (.ok w, []) ∧ Interchangeable [] v [] w) ∧
    (Scope.compile ⟨0, none⟩ (.obj [("required", .list [.str "b"])])).run [] = (.ok (.hasKey "b"), []) ∧
    (Scope.compile ⟨0, none⟩ (.obj [("required", .list [.str "b"]), ("items", .int 5)])).run [] =
      (.ok (.all [.hasKey "b", .arrayOf .anything]), []) ∧
    AsksForList [] (.hasKey "b") (.all [.hasKey "b", .arrayOf .anything]) := by
  have hfresh : ∀ id, ∀ m ∈ ([] : List Mark), m.scope ≠ id := fun _ => List.forall_mem_nil _
  have hfive : Blank (.int 5) := ⟨nofun, nofun⟩
  have hreplaced : Replaced (.obj [("required", .list [.str "b"]), ("items", .int 5)])
      (.obj [("required", .list [.str "b"]), ("items", .obj [])]) malformedDocument emptiedDocument :=
    @Replaced.keyword _ _ _ _ _ _ _ [] [] rfl (.property "a" [] []) .here
  have hexchange : Exchange ItemsEmptied (malformedDocument, .null) (emptiedDocument, .null) :=
    .document .null (.mk rfl hfive) hreplaced rfl
  have hdocument : ∃ v, (compileDocument 0 malformedDocument .null).run [] = (.ok v, []) := ⟨_, rfl⟩
  have hdocument' : ∃ w, (compileDocument 1 emptiedDocument .null).run [] = (.ok w, []) := ⟨_, rfl⟩
  have hwithout : (Scope.compile ⟨0, none⟩ (.obj [("required", .list [.str "b"])])).run [] = (.ok (.hasKey "b"), []) := rfl
  have hwith : (Scope.compile ⟨0, none⟩ (.obj [("required", .list [.str "b"]), ("items", .int 5)])).run [] =
      (.ok (.all [.hasKey "b", .arrayOf .anything]), []) := rfl
  obtain ⟨v, hv⟩ := hdocument
  obtain ⟨w, hw⟩ := hdocument'
  obtain ⟨⟨r, r', names, hrun, hrun', hmatched⟩, hnode⟩ :=
    compile_of_malformed_items (hfresh 0) (hfresh 1) (.rel _ _ hexchange)
  obtain ⟨rfl, hnames⟩ := Prod.mk.inj (hv.symm.trans hrun)
  obtain ⟨rfl, hnames'⟩ := Prod.mk.inj (hw.symm.trans hrun')
  rw [← hnames, ← hnames'] at hmatched
  obtain ⟨s, s', after, hs, hs', hasks⟩ := hnode [("required", .list [.str "b"]), ("items", .int 5)] (.int 5) rfl hfive
  obtain ⟨rfl, rfl⟩ := Prod.mk.inj (hwithout.symm.trans hs)
  obtain ⟨rfl, -⟩ := Prod.mk.inj (hwith.symm.trans hs')
  cases hmatched with
  | ok hsame =>
    cases hasks with
    | ok hasks => exact ⟨⟨v, w, hv, hw, hsame⟩, hwithout, hwith, hasks⟩

/-- The text is rejected for a malformed `items` alone, although such a value is to count as absent. -/
theorem malformed_items_reject : ∃ v w,
    (compileDocument 0 (.obj [("items", .int 5)]) .null).run [] = (.ok v, []) ∧
    (compileDocument 1 ((Value.obj [("items", .int 5)]).without "items") .null).run [] = (.ok w, []) ∧
    ∀ limit, (v.test limit (.str "x")).run [] = (.ok false, []) ∧ (w.test limit (.str "x")).run [] = (.ok true, []) ∧
      (v.diagnose limit (.str "x")).run [] = (.ok (some (.leaf "arrayOf" (.str "x"))), []) ∧
      (w.diagnose limit (.str "x")).run [] = (.ok none, []) :=
  ⟨_, _, rfl, rfl, fun _ => ⟨rfl, rfl, rfl, rfl⟩⟩

end Validator

end Conformance
