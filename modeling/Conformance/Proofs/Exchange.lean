import Conformance.Proofs.Respelling
/-!
# Exchanging nodes

Wherever a node stands, in a document or in a definition, one that reads as a synonym may stand for it.
The document compiles with either of them, and to validators that no check tells apart, or both times it
fails with the same code.
-/

namespace Conformance

open Schema (Synonym)

/-! ## Nodes inside a node -/

theorem Entries.lookup_middle_ne {key word : String} {pre : List (String × Value)} (post : List (String × Value))
    (hp : pre.lookup key = none) (hne : word ≠ key) (value value' : Value) :
    (pre ++ (key, value') :: post).lookup word = (pre ++ (key, value) :: post).lookup word := by
  rw [Entries.lookup_middle post hp, Entries.lookup_middle post hp, if_neg hne, if_neg hne]

namespace Schema

/-- What is read under each keyword makes up what is read of the mapping. -/
theorem synonym_of_parts {entries entries' : List (String × Value)}
    (h : ∀ k, Synonym (part k entries (readEntries entries)) (part k entries' (readEntries entries'))) :
    Synonym (ofValue (.obj entries)) (ofValue (.obj entries')) := by
  rw [ofValue, ofValue, read_mapping, read_mapping]
  apply Synonym.parts
  rw [List.forall₂_map_left_iff, List.forall₂_map_right_iff, List.forall₂_same]
  intro k _
  exact h k

/-- A keyword says nothing where none of its keys is there. -/
theorem part_idle {k : Keyword} {entries : List (String × Value)} (h : ∀ key ∈ k.words, entries.lookup key = none) :
    Synonym (part k entries (readEntries entries)) (.all []) := by
  cases k with
  | required =>
    simp only [part, h "required" (by decide)]
    exact .unrequired
  | anyOf =>
    simp only [part, lookup_readEntries, h "anyOf" (by decide), h "oneOf" (by decide)]
    exact (@Synonym.drop _ [] [.anything] .anything).trans (@Synonym.drop _ [] [] .anything)
  | ref => simp only [part, h "$ref" (by decide)]; exact .anything
  | type => simp only [part, h "type" (by decide)]; exact .anything
  | properties => simp only [part, lookup_readEntries, h "properties" (by decide)]; exact .anything
  | items => simp only [part, lookup_readEntries, h "items" (by decide)]; exact .anything
  | enum => simp only [part, h "enum" (by decide)]; exact .anything
  | allOf => simp only [part, lookup_readEntries, h "allOf" (by decide)]; exact .anything

/-- Where two mappings differ under one key only, a keyword that is not read under it is the same in both. -/
theorem part_elsewhere {k : Keyword} {key : String} {entries entries' : List (String × Value)}
    (h : ∀ word, word ≠ key → entries'.lookup word = entries.lookup word) (hk : key ∉ k.words) :
    part k entries' (readEntries entries') = part k entries (readEntries entries) := by
  apply part_congr
  intro word hword
  have hne : word ≠ key := by
    rintro rfl
    exact hk hword
  exact .of_eq (h word hne)

/-- Where two mappings differ under one key only, those keywords are to be looked at that are read under it. -/
theorem synonym_at {key : String} {entries entries' : List (String × Value)}
    (h : ∀ word, word ≠ key → entries'.lookup word = entries.lookup word)
    (hk : ∀ k : Keyword, key ∈ k.words →
      Synonym (part k entries (readEntries entries)) (part k entries' (readEntries entries'))) :
    Synonym (ofValue (.obj entries)) (ofValue (.obj entries')) := by
  apply synonym_of_parts
  intro k
  by_cases hmem : key ∈ k.words
  · exact hk k hmem
  · exact .symm (.of_eq (part_elsewhere h hmem))

end Schema

section Replaced

variable {old new node node' value value' : Value} {key : String}

theorem Slot.synonym {pre : List (String × Value)} (post : List (String × Value)) (hp : pre.lookup key = none)
    (hs : Slot node node' key value value') (h : Synonym (Schema.ofValue node) (Schema.ofValue node')) :
    Synonym (Schema.ofValue (.obj (pre ++ (key, value) :: post)))
      (Schema.ofValue (.obj (pre ++ (key, value') :: post))) := by
  have hlookup : ∀ v, (pre ++ (key, v) :: post).lookup key = some v := by
    intro v
    rw [Entries.lookup_middle post hp, if_pos rfl]
  have hother : ∀ v word, word ≠ key → (pre ++ (key, v) :: post).lookup word = (pre ++ post).lookup word := by
    intro v word hne
    rw [Entries.lookup_middle post hp, if_neg hne]
  apply Schema.synonym_at fun word hne => Entries.lookup_middle_ne post hp hne value value'
  intro k hk
  -- each of the keys is read by one keyword only
  cases hs with
  | element s ns ms hmem =>
    simp only [List.mem_cons, List.not_mem_nil, or_false] at hmem
    rcases hmem with rfl | rfl | rfl | rfl <;> cases k <;> simp [Keyword.words] at hk
    · simp only [Schema.part, Schema.lookup_readEntries, hlookup, hother _ "oneOf" (by decide), Option.map_some,
        Option.bind_some, Schema.read_list, List.map_append, List.map_cons]
      exact .part [] _ (.branch _ _ h)
    · simp only [Schema.part, Schema.lookup_readEntries, hlookup, hother _ "anyOf" (by decide), Option.map_some,
        Option.bind_some, Schema.read_list, List.map_append, List.map_cons]
      exact .part [_] [] (.branch _ _ h)
    · simp only [Schema.part, Schema.lookup_readEntries, hlookup, Option.map_some, Option.bind_some,
        Schema.read_list, List.map_append, List.map_cons]
      exact .part _ _ h
    · simp only [Schema.part, Schema.lookup_readEntries, hlookup, Option.map_some, Schema.read_list,
        List.map_append, List.map_cons]
      exact .position _ _ h
  | property k' ns ms =>
    cases k <;> simp [Keyword.words] at hk
    simp only [Schema.part, Schema.lookup_readEntries, hlookup, hother _ "required" (by decide), Option.map_some,
      Option.bind_some, Schema.read_mapping, List.map_append, List.map_cons]
    exact .field _ _ _ k' h
  | items hne hne' =>
    cases k <;> simp [Keyword.words] at hk
    simp only [Schema.part, Schema.lookup_readEntries, hlookup, Option.map_some, Schema.elements_eq_none hne,
      Schema.elements_eq_none hne']
    exact .items h

/-- A node may stand for another that is read as a synonym. -/
theorem Replaced.synonym (hr : Replaced old new node node') (h : Synonym (Schema.ofValue old) (Schema.ofValue new)) :
    Synonym (Schema.ofValue node) (Schema.ofValue node') := by
  induction hr with
  | here => exact h
  | item s pre post _ ih =>
    rw [Schema.ofValue, Schema.ofValue, Schema.read_list, Schema.read_list, List.map_append, List.map_append,
      List.map_cons, List.map_cons]
    exact .part _ _ ih
  | keyword post hp hs _ ih => exact hs.synonym post hp ih
  | ignored post hp h h' =>
    refine .of_eq (Schema.ofValue_middle hp ?_).symm
    exact (Ignored.sameReading h).symm.trans (Ignored.sameReading h')

end Replaced

/-! ## Nodes inside a document -/

/-- One node is exchanged, for another as `Q` has it: in a document, which leaves its own definitions alone, in
one of these, or in one of those that the caller gives. -/
inductive Exchange (Q : Value → Value → Prop) : Value × Value → Value × Value → Prop
  | document {old new document document' : Value} (definitions : Value) (h : Q old new)
    (hr : Replaced old new document document') (ho : document'.own? = document.own?) :
    Exchange Q (document, definitions) (document', definitions)
  | own {old new node node' : Value} {pre : List (String × Value)} (post : List (String × Value))
    (hp : pre.lookup "definitions" = none) (before after : Definitions) (name : String) (definitions : Value)
    (h : Q old new) (hr : Replaced old new node node') :
    Exchange Q (.obj (pre ++ ("definitions", .obj (before ++ (name, node) :: after)) :: post), definitions)
      (.obj (pre ++ ("definitions", .obj (before ++ (name, node') :: after)) :: post), definitions)
  | given {old new node node' : Value} (document : Value) (before after : Definitions) (name : String)
    (h : Q old new) (hr : Replaced old new node node') :
    Exchange Q (document, .obj (before ++ (name, node) :: after)) (document, .obj (before ++ (name, node') :: after))

/-- What a node says, in whatever words. -/
def senseOf (node : Value) : Schema.Sense := Schema.sense (Schema.ofValue node)

/-- What a document says, and what the definitions say that it is compiled with. -/
def gist (source : Value × Value) : Schema.Sense × Option (String → Option Schema.Sense) :=
  (senseOf source.1, readings senseOf (effectiveDefinitions source.1 source.2))

section Exchange

variable {Q : Value → Value → Prop}

theorem Exchange.gist_eq (hQ : ∀ old new, Q old new → Synonym (Schema.ofValue old) (Schema.ofValue new))
    {source source' : Value × Value} (h : Exchange Q source source') : gist source' = gist source := by
  have hsense : ∀ {old new node node'}, Q old new → Replaced old new node node' → senseOf node' = senseOf node :=
    fun h hr => Schema.sense_eq_iff.2 (hr.synonym (hQ _ _ h)).symm
  cases h with
  | document definitions h hr ho =>
    refine Prod.ext (hsense h hr) ?_
    show readings _ _ = readings _ _
    rw [readings_effectiveDefinitions, readings_effectiveDefinitions, ho]
  | @own old new node node' pre post hp before after name definitions h hr =>
    have hlookup : ∀ t, (pre ++ ("definitions", Value.obj t) :: post).lookup "definitions" = some (.obj t) := by
      intro t
      rw [Entries.lookup_middle post hp, if_pos rfl]
    refine Prod.ext (congrArg Schema.sense (Schema.ofValue_middle hp (.definitions _ _))) ?_
    show readings _ _ = readings _ _
    rw [readings_effectiveDefinitions, readings_effectiveDefinitions]
    simp only [Value.own?, hlookup, Option.bind_some, Value.table?, readings_middle before after name (hsense h hr)]
  | given document before after name h hr =>
    refine Prod.ext rfl ?_
    show readings _ _ = readings _ _
    rw [readings_effectiveDefinitions, readings_effectiveDefinitions]
    simp only [Value.table?, Option.map_some, List.reverse_append, List.reverse_cons, List.append_assoc,
      List.singleton_append, readings_middle after.reverse before.reverse name (hsense h hr)]

theorem gist_of_exchanged (hQ : ∀ old new, Q old new → Synonym (Schema.ofValue old) (Schema.ofValue new))
    {source source' : Value × Value} (h : Relation.EqvGen (Exchange Q) source source') :
    gist source' = gist source := by
  induction h with
  | rel _ _ h => exact h.gist_eq hQ
  | refl _ => rfl
  | symm _ _ _ ih => exact ih.symm
  | trans _ _ _ _ _ ih ih' => exact ih'.trans ih

namespace Validator

/-- Sources that say the same compile in lockstep, to validators that no check tells apart. -/
theorem compile_of_same_gist {id id' : Nat} {document document' definitions definitions' : Value}
    {before before' : List Mark} (fresh : ∀ m ∈ before, m.scope ≠ id) (fresh' : ∀ m ∈ before', m.scope ≠ id')
    (h : gist (document', definitions') = gist (document, definitions)) :
    ∃ (r r' : Except SchemaError Validator) (names : List String),
      (compileDocument id document definitions).run before = (r, before ++ names.map (Mark.mk id)) ∧
      (compileDocument id' document' definitions').run before' = (r', before' ++ names.map (Mark.mk id')) ∧
      Matched (fun v w => Interchangeable (before ++ names.map (Mark.mk id)) v (before' ++ names.map (Mark.mk id')) w)
        r r' := by
  obtain ⟨hsense, htable⟩ := Prod.mk.inj h
  have hsynonym : ∀ node node', senseOf node' = senseOf node →
      Synonym (Schema.ofValue node) (Schema.ofValue node') :=
    fun node node' hs => (Schema.sense_eq_iff.1 hs).symm
  exact Scope.compile_synonyms (Scope.concur_of_readings hsynonym htable) (hsynonym _ _ hsense)
    (fun _ _ => trivial) fresh fresh'

end Validator

end Exchange

end Conformance
