import Conformance.Proofs.Exchange
/-!
# Rewording

What a node says can be put in other words. A list of nodes is a conjunction with a keyword or without it, one of
several branches has to hold under `anyOf` as under `oneOf`, an integer is a number like any other, and one type,
which is no list itself, is a list of one. Documents compile in any of these wordings, wherever and however often they
are chosen.
-/

namespace Conformance

open Schema (Synonym)

/-! ## Types -/

/-- What stands under `type`, in other words. A list is no name of a type, so a list that holds another one is no
other word for it: it does not compile. -/
inductive TypeWords : Value → Value → Prop
  | name : TypeWords (.str "integer") (.str "number")
  | member (s : Sequence) (pre post : List Value) :
    TypeWords (.arr s (pre ++ .str "integer" :: post)) (.arr s (pre ++ .str "number" :: post))
  | single (s : Sequence) {type : Value} (h : ∀ s' specs, type ≠ .arr s' specs) : TypeWords type (.arr s [type])

theorem TypeWords.ofType_eq {spec spec' : Value} (h : TypeWords spec spec') :
    Validator.ofType spec = Validator.ofType spec' := by
  cases h with
  | name => rfl
  | member s pre post =>
    have hname : Validator.ofTypeName (.str "integer") = Validator.ofTypeName (.str "number") := rfl
    simp only [Validator.ofType, List.mapM_append, List.mapM_cons, hname]
  | single s h =>
    have hname : Validator.ofType spec = Validator.ofTypeName spec := by
      cases spec with
      | arr s' specs => exact absurd rfl (h s' specs)
      | _ => rfl
    rw [hname, Validator.ofType, List.mapM_cons, List.mapM_nil]
    unfold Validator.ofTypeName
    split <;> rfl

-- a list of a list does not stand for that list
example : (Validator.ofType (.list [.str "string"])).isOk = true ∧
    (Validator.ofType (.list [.list [.str "string"]])).isOk = false := ⟨rfl, rfl⟩

/-! ## Nodes -/

/-- A node, in other words. -/
inductive Rewording : Value → Value → Prop
  | list (s s' : Sequence) (nodes : List Value) : Rewording (.arr s nodes) (.obj [("allOf", .arr s' nodes)])
  | branches {pre post : List (String × Value)} (value : Value) (hany : (pre ++ post).lookup "anyOf" = none)
    (hone : (pre ++ post).lookup "oneOf" = none) :
    Rewording (.obj (pre ++ ("anyOf", value) :: post)) (.obj (pre ++ ("oneOf", value) :: post))
  | type {pre : List (String × Value)} (post : List (String × Value)) {spec spec' : Value}
    (hp : pre.lookup "type" = none) (h : TypeWords spec spec') :
    Rewording (.obj (pre ++ ("type", spec) :: post)) (.obj (pre ++ ("type", spec') :: post))

namespace Schema

/-- The keywords that are not there say nothing. -/
theorem synonym_list (s s' : Sequence) (nodes : List Value) :
    Synonym (ofValue (.arr s nodes)) (ofValue (.obj [("allOf", .arr s' nodes)])) := by
  let node : Value := .obj [("allOf", .arr s' nodes)]
  let absent : List Keyword := [.ref, .type, .required, .properties, .items, .enum, .anyOf]
  have hlist : ofValue (.arr s nodes) = .all (nodes.map ofValue) := by rw [ofValue, read_list]
  have hallOf : ofKeyword .allOf node = .all (nodes.map ofValue) := by
    simp [node, ofKeyword, part, lookup_readEntries, read_list]
  have hmapping : ofValue node = .all (absent.map (ofKeyword · node) ++ [ofKeyword .allOf node]) := by
    rw [ofValue, read_mapping]
    rfl
  have hidle : ∀ s ∈ absent.map (ofKeyword · node), Synonym s (.all []) := by
    rw [List.forall_mem_map]
    intro k hk
    apply part_idle
    intro key hkey
    have hne : key ≠ "allOf" := by
      rintro rfl
      cases k <;> simp [Keyword.words, absent] at hkey hk
    rw [Entries.lookup_cons, if_neg hne, List.lookup_nil]
  have hnested := Synonym.splice [] (nodes.map ofValue) []
  rw [List.append_nil] at hnested
  rw [hlist, hmapping, hallOf]
  exact ((Synonym.drop_all hidle).trans hnested).symm

/-- One of the two words stands in the place of the other, which is not there. -/
theorem synonym_branches {pre post : List (String × Value)} (value : Value)
    (hany : (pre ++ post).lookup "anyOf" = none) (hone : (pre ++ post).lookup "oneOf" = none) :
    Synonym (ofValue (.obj (pre ++ ("anyOf", value) :: post))) (ofValue (.obj (pre ++ ("oneOf", value) :: post))) := by
  have hpre : pre.lookup "anyOf" = none ∧ pre.lookup "oneOf" = none := by
    rw [List.lookup_append, Option.or_eq_none_iff] at hany hone
    exact ⟨hany.1, hone.1⟩
  apply synonym_of_parts
  intro k
  by_cases hk : k = .anyOf
  · subst hk
    have hswap : ∀ s, Synonym (.all [s, .anything]) (.all [.anything, s]) := by
      intro s
      exact (@Synonym.drop _ [s] [] .anything).trans (@Synonym.drop _ [] [s] .anything).symm
    simp [part, lookup_readEntries, Entries.lookup_middle post hpre.1, Entries.lookup_middle post hpre.2, hany, hone,
      hswap]
  · apply Synonym.symm
    apply Synonym.of_eq
    apply part_congr
    intro word hword
    have hne : word ≠ "anyOf" ∧ word ≠ "oneOf" := by
      constructor <;> rintro rfl <;> cases k <;> simp [Keyword.words] at hword hk
    rw [Entries.lookup_middle post hpre.1, Entries.lookup_middle post hpre.2, if_neg hne.1, if_neg hne.2]
    exact .refl word _

end Schema

theorem Rewording.synonym (old new : Value) (h : Rewording old new) :
    Synonym (Schema.ofValue old) (Schema.ofValue new) := by
  cases h with
  | list s s' nodes => exact Schema.synonym_list s s' nodes
  | branches value hany hone => exact Schema.synonym_branches value hany hone
  | @type pre post spec spec' hp h =>
    apply Schema.synonym_at fun word hne => Entries.lookup_middle_ne post hp hne spec spec'
    intro k hk
    cases k <;> simp [Keyword.words] at hk
    simp only [Schema.part, Entries.lookup_middle post hp, if_pos, Option.elim_some]
    exact .type h.ofType_eq

/-! ## Compiling -/

namespace Validator

/-- A document and the definitions that it is compiled with may be reworded, any number of nodes in them and each
one any number of times, there and back; a type that is put into a list is a single one, and no list itself. They
compile in both wordings or in neither. The names that are checked are the same and come in the same order. An error
has the same code in both, and no check of any value tells the validators apart. -/
theorem compile_of_reworded {id id' : Nat} {document document' definitions definitions' : Value}
    {before before' : List Mark} (fresh : ∀ m ∈ before, m.scope ≠ id) (fresh' : ∀ m ∈ before', m.scope ≠ id')
    (h : Relation.EqvGen (Exchange Rewording) (document, definitions) (document', definitions')) :
    ∃ (r r' : Except SchemaError Validator) (names : List String),
      (compileDocument id document definitions).run before = (r, before ++ names.map (Mark.mk id)) ∧
      (compileDocument id' document' definitions').run before' = (r', before' ++ names.map (Mark.mk id')) ∧
      Matched (fun v w => Interchangeable (before ++ names.map (Mark.mk id)) v (before' ++ names.map (Mark.mk id')) w)
        r r' := compile_of_same_gist fresh fresh' (gist_of_exchanged Rewording.synonym h)

/-- A linked list of numbers. -/
def terseDocument : Value :=
  .obj [("$ref", .str "#/definitions/list"), ("definitions", .obj [("list", .obj [("anyOf", .list [
    .obj [("type", .str "null")],
    .obj [("properties", .obj [
      ("value", .list [.obj [("type", .str "integer")]]),
      ("next", .obj [("$ref", .str "#/definitions/list")])])]])])])]

/-- The same list, the definition reworded in four places. -/
def wordyDocument : Value :=
  .obj [("$ref", .str "#/definitions/list"), ("definitions", .obj [("list", .obj [("oneOf", .list [
    .obj [("type", .list [.str "null"])],
    .obj [("properties", .obj [
      ("value", .obj [("allOf", .list [.obj [("type", .str "number")]])]),
      ("next", .obj [("$ref", .str "#/definitions/list")])])]])])])]

theorem reworded_wordy : Relation.EqvGen (Exchange Rewording) (terseDocument, .null) (wordyDocument, .null) := by
  have hstep : ∀ {old new node node'}, Rewording old new → Replaced old new node node' →
      Relation.EqvGen (Exchange Rewording)
        (.obj [("$ref", .str "#/definitions/list"), ("definitions", .obj [("list", node)])], .null)
        (.obj [("$ref", .str "#/definitions/list"), ("definitions", .obj [("list", node')])], .null) := fun h hr =>
    .rel _ _ (@Exchange.own _ _ _ _ _ [("$ref", .str "#/definitions/list")] [] rfl [] [] "list" .null h hr)
  have hbranch : ∀ {old new node node'} (pre post : List Value), Replaced old new node node' →
      Replaced old new (.obj [("oneOf", .list (pre ++ node :: post))]) (.obj [("oneOf", .list (pre ++ node' :: post))]) :=
    fun pre post hr => @Replaced.keyword _ _ _ _ _ _ _ [] [] rfl (.element .list pre post (by decide)) hr
  have hvalue : ∀ {old new node node'} (post : List (String × Value)), Replaced old new node node' →
      Replaced old new (.obj [("properties", .obj (("value", node) :: post))])
        (.obj [("properties", .obj (("value", node') :: post))]) :=
    fun post hr => @Replaced.keyword _ _ _ _ _ _ _ [] [] rfl (.property "value" [] post) hr
  have hpart : ∀ {old new}, Rewording old new →
      Replaced old new (.obj [("allOf", .list [old])]) (.obj [("allOf", .list [new])]) :=
    fun _ => @Replaced.keyword _ _ _ _ _ _ _ [] [] rfl (.element .list [] [] (by decide)) .here
  have htype : ∀ {spec spec'}, TypeWords spec spec' → Rewording (.obj [("type", spec)]) (.obj [("type", spec')]) :=
    fun h => @Rewording.type [] [] _ _ rfl h
  refine .trans _ _ _ (hstep (@Rewording.branches [] [] _ rfl rfl) .here) ?_
  have hnull : ∀ s specs, Value.str "null" ≠ .arr s specs := nofun
  refine .trans _ _ _ (hstep (htype (.single .list hnull)) (hbranch [] _ .here)) ?_
  refine .trans _ _ _ (hstep (.list .list .list _) (hbranch [_] [] (hvalue _ .here))) ?_
  exact hstep (htype .name) (hbranch [_] [] (hvalue _ (hpart (htype .name))))

set_option maxRecDepth 2000 in
theorem compile_of_reworded_wordy : ∃ v w,
    (compileDocument 0 terseDocument .null).run [] = (.ok v, [⟨0, "list"⟩]) ∧
      (compileDocument 1 wordyDocument .null).run [] = (.ok w, [⟨1, "list"⟩]) ∧
      Interchangeable [⟨0, "list"⟩] v [⟨1, "list"⟩] w := by
  have hfresh : ∀ id, ∀ m ∈ ([] : List Mark), m.scope ≠ id := fun _ => List.forall_mem_nil _
  have hterse : ∃ v, (compileDocument 0 terseDocument .null).run [] = (.ok v, [⟨0, "list"⟩]) := ⟨_, rfl⟩
  have hwordy : ∃ w, (compileDocument 1 wordyDocument .null).run [] = (.ok w, [⟨1, "list"⟩]) := ⟨_, rfl⟩
  obtain ⟨v, hv⟩ := hterse
  obtain ⟨w, hw⟩ := hwordy
  obtain ⟨r, r', names, hrun, hrun', hmatched⟩ := compile_of_reworded (hfresh 0) (hfresh 1) reworded_wordy
  obtain ⟨rfl, hnames⟩ := Prod.mk.inj (hv.symm.trans hrun)
  obtain ⟨rfl, hnames'⟩ := Prod.mk.inj (hw.symm.trans hrun')
  rw [← hnames, ← hnames'] at hmatched
  cases hmatched with
  | ok hsame => exact ⟨v, w, hv, hw, hsame⟩

end Validator

end Conformance
