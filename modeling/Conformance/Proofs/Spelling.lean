import Conformance.Proofs.Equality
import Conformance.Proofs.Parsing
import Conformance.Proofs.Replacing
/-!
# Spelling

One schema can be written in many ways. Under each key a node is read in one form, and all that
does not have it is passed over, as are the keys that are no keywords and the order of all of them.
So there are changes to a node that leave the schema that it reads as, and so do any number of them in
any nodes inside.
-/

namespace Conformance

namespace Entries

variable {α : Type} {entries entries' : List (String × α)} {key : String}

theorem lookup_eq_some_iff (hk : (entries.map Prod.fst).Nodup) {value : α} :
    entries.lookup key = some value ↔ (key, value) ∈ entries := ⟨mem_of_lookup, lookup_of_mem hk⟩

/-- Where no key stands twice, the order of the entries does not matter. -/
theorem lookup_perm (h : entries.Perm entries') (hk : (entries.map Prod.fst).Nodup) (key : String) :
    entries'.lookup key = entries.lookup key := by
  have hk' : (entries'.map Prod.fst).Nodup := (h.map _).nodup_iff.1 hk
  refine Option.ext fun value => ?_
  rw [lookup_eq_some_iff hk, lookup_eq_some_iff hk', h.mem_iff]

/-- What is merged last wins. -/
theorem lookup_merge (base more : List (String × α)) (key : String) :
    (merge base more).lookup key = (more.reverse.lookup key).or (base.lookup key) := by
  induction more generalizing base with
  | nil => rfl
  | cons e more ih =>
    obtain ⟨k, v⟩ := e
    rw [merge_cons, ih, lookup_insert, List.reverse_cons, List.lookup_append, lookup_cons]
    by_cases h : key = k
    · rw [if_pos h, if_pos h]
      cases more.reverse.lookup key <;> rfl
    · rw [if_neg h, if_neg h]
      cases more.reverse.lookup key <;> rfl

theorem lookup_filter (keep : String → Bool) (entries : List (String × α)) (key : String) :
    (entries.filter fun e => keep e.1).lookup key = if keep key then entries.lookup key else none := by
  induction entries with
  | nil => simp
  | cons e entries ih =>
    obtain ⟨k, v⟩ := e
    rw [List.filter_cons, lookup_cons]
    by_cases hk : key = k
    · subst hk
      cases hkeep : keep key <;> simp [hkeep, ih]
    · cases keep k <;> simp [ih, lookup_cons, hk]

/-- The entries with another key. -/
def without (key : String) (entries : List (String × α)) : List (String × α) := entries.filter fun e => e.1 ≠ key

theorem lookup_without {key k : String} (hk : k ≠ key) (entries : List (String × α)) :
    (without key entries).lookup k = entries.lookup k := by
  rw [without, lookup_filter (fun k => decide (k ≠ key)), if_pos (decide_eq_true hk)]

end Entries

/-- A value without what it has under a key. -/
def Value.without (key : String) : Value → Value
  | .obj entries => .obj (Entries.without key entries)
  | v => v

/-! ## What is read under a key -/

/-- The keys that a keyword is read under. -/
def Keyword.words : Keyword → List String
  | ref => ["$ref"]
  | type => ["type"]
  | required => ["required"]
  | properties => ["required", "properties"]
  | items => ["items"]
  | enum => ["enum"]
  | anyOf => ["anyOf", "oneOf"]
  | allOf => ["allOf"]

namespace Schema

/-- The items of what stands under a key, if it is a list. -/
def items? : Option Value → Option (List Value)
  | some (.arr _ vs) => some vs
  | _ => none

theorem part_enum (entries : List (String × Value)) (readings : List (String × Reading)) :
    part .enum entries readings = (items? (entries.lookup "enum")).elim anything enum := by
  simp only [part]
  split
  · next h =>
    rw [h]
    rfl
  · next h =>
    unfold items?
    split
    · next s vs hl => exact (h s vs hl).elim
    · rfl

/-- The same is read of both under the key, either of which may be missing. -/
structure SameReading (key : String) (o o' : Option Value) : Prop where
  whole : key ∈ ["$ref", "type"] → o' = o
  names : key = "required" → keyNames o' = keyNames o
  values : key = "enum" → items? o' = items? o
  fields : key = "properties" → (o'.map read).bind (·.fields) = (o.map read).bind (·.fields)
  nodes : key ∈ ["items", "anyOf", "oneOf", "allOf"] →
    (o'.map read).bind (·.elements) = (o.map read).bind (·.elements)
  node : key = "items" → o'.map ofValue = o.map ofValue

namespace SameReading

variable {key : String} {o o' o'' : Option Value} {value value' : Value}

theorem refl (key : String) (o : Option Value) : SameReading key o o :=
  ⟨fun _ => rfl, fun _ => rfl, fun _ => rfl, fun _ => rfl, fun _ => rfl, fun _ => rfl⟩

theorem of_eq (h : o' = o) : SameReading key o o' := by
  rw [h]
  exact refl key o

theorem symm (h : SameReading key o o') : SameReading key o' o where
  whole hk := (h.whole hk).symm
  names hk := (h.names hk).symm
  values hk := (h.values hk).symm
  fields hk := (h.fields hk).symm
  nodes hk := (h.nodes hk).symm
  node hk := (h.node hk).symm

theorem trans (h : SameReading key o o') (h' : SameReading key o' o'') : SameReading key o o'' where
  whole hk := (h'.whole hk).trans (h.whole hk)
  names hk := (h'.names hk).trans (h.names hk)
  values hk := (h'.values hk).trans (h.values hk)
  fields hk := (h'.fields hk).trans (h.fields hk)
  nodes hk := (h'.nodes hk).trans (h.nodes hk)
  node hk := (h'.node hk).trans (h.node hk)

/-- Nothing is read under `definitions`. -/
theorem definitions (o o' : Option Value) : SameReading "definitions" o o' where
  whole hk := absurd hk (by decide)
  names hk := absurd hk (by decide)
  values hk := absurd hk (by decide)
  fields hk := absurd hk (by decide)
  nodes hk := absurd hk (by decide)
  node hk := absurd hk (by decide)

end SameReading

/-- Only the texts in `required` are read. -/
theorem sameReading_required {s : Sequence} {names names' : List Value}
    (h : keyNames (some (.arr s names')) = keyNames (some (.arr s names))) :
    SameReading "required" (some (.arr s names)) (some (.arr s names')) where
  whole hk := absurd hk (by decide)
  names _ := h
  values hk := absurd hk (by decide)
  fields hk := absurd hk (by decide)
  nodes hk := absurd hk (by decide)
  node hk := absurd hk (by decide)

theorem elements_eq_none {node : Value} (h : ∀ s nodes, node ≠ .arr s nodes) : (read node).elements = none := by
  cases node with
  | arr s nodes => exact absurd rfl (h s nodes)
  | _ => rfl

/-! ## What is read of a node -/

/-- A keyword reads as what is read under its keys. -/
theorem part_congr {k : Keyword} {entries entries' : List (String × Value)}
    (h : ∀ key ∈ k.words, SameReading key (entries.lookup key) (entries'.lookup key)) :
    part k entries' (readEntries entries') = part k entries (readEntries entries) := by
  cases k with
  | ref => simp only [part, (h "$ref" (by decide)).whole (by decide)]
  | type => simp only [part, (h "type" (by decide)).whole (by decide)]
  | required => simp only [part, (h "required" (by decide)).names rfl]
  | properties =>
    simp only [part, lookup_readEntries, (h "required" (by decide)).names rfl,
      (h "properties" (by decide)).fields rfl]
  | items =>
    have hnodes := (h "items" (by decide)).nodes (by decide)
    have hnode := (h "items" (by decide)).node rfl
    simp only [part, lookup_readEntries]
    cases ho : entries.lookup "items" <;> cases ho' : entries'.lookup "items" <;> rw [ho, ho'] at hnodes hnode
    · cases hnode
    · cases hnode
    · exact congrArg₂ (fun elements node => Option.elim elements (items node) positions) hnodes
        (Option.some.inj hnode)
  | enum => rw [part_enum, part_enum, (h "enum" (by decide)).values rfl]
  | anyOf =>
    simp only [part, lookup_readEntries, (h "anyOf" (by decide)).nodes (by decide),
      (h "oneOf" (by decide)).nodes (by decide)]
  | allOf => simp only [part, lookup_readEntries, (h "allOf" (by decide)).nodes (by decide)]

/-- A mapping reads as what is read under its keys. -/
theorem ofValue_congr {entries entries' : List (String × Value)}
    (h : ∀ key, SameReading key (entries.lookup key) (entries'.lookup key)) :
    ofValue (.obj entries') = ofValue (.obj entries) := by
  have hpart : ∀ k, part k entries' (readEntries entries') = part k entries (readEntries entries) :=
    fun k => part_congr fun key _ => h key
  rw [ofValue, ofValue, read_mapping, read_mapping]
  simp only [hpart]

theorem ofValue_middle {pre post : List (String × Value)} {key : String} {value value' : Value}
    (hp : pre.lookup key = none) (h : SameReading key (some value) (some value')) :
    ofValue (.obj (pre ++ (key, value') :: post)) = ofValue (.obj (pre ++ (key, value) :: post)) := by
  refine ofValue_congr fun k => ?_
  rw [Entries.lookup_middle post hp, Entries.lookup_middle post hp]
  by_cases hk : k = key
  · rw [if_pos hk, if_pos hk, hk]
    exact h
  · rw [if_neg hk, if_neg hk]
    exact .refl k _

/-- The definitions of a document are no part of its schema. -/
theorem ofValue_withoutDefinitions (document : Value) :
    ofValue (document.without "definitions") = ofValue document := by
  cases document with
  | obj entries =>
    refine ofValue_congr fun key => ?_
    by_cases hk : key = "definitions"
    · subst hk
      exact .definitions _ _
    · exact .of_eq (Entries.lookup_without hk entries)
  | _ => rfl

end Schema

section Replacing

open Schema

/-- Nothing is read of what is ignored. -/
theorem Ignored.sameReading {key : String} {value : Value} (h : Ignored key value) :
    SameReading key none (some value) where
  whole hk := by
    simp only [List.mem_cons, List.not_mem_nil, or_false] at hk
    rcases hk with rfl | rfl
    · exact absurd (by decide) h.any
    · exact absurd (by decide) h.any
  names hk := by
    subst hk
    cases value with
    | arr s vs => exact absurd rfl (h.list (by decide) s vs)
    | _ => rfl
  values hk := by
    subst hk
    cases value with
    | arr s vs => exact absurd rfl (h.list (by decide) s vs)
    | _ => rfl
  fields hk := by
    cases value with
    | obj entries => exact absurd rfl (h.mapping hk entries)
    | _ => rfl
  nodes hk := by
    simp only [List.mem_cons, List.not_mem_nil, or_false] at hk
    cases value with
    | arr s vs =>
      rcases hk with rfl | rfl | rfl | rfl
      · exact absurd (by decide) h.any
      · exact absurd rfl (h.list (by decide) s vs)
      · exact absurd rfl (h.list (by decide) s vs)
      · exact absurd rfl (h.list (by decide) s vs)
    | _ => rfl
  node hk := by
    subst hk
    exact absurd (by decide) h.any

/-- Of nodes under a keyword the schemas are read. -/
theorem Slot.sameReading {node node' value value' : Value} {key : String} (hs : Slot node node' key value value')
    (h : ofValue node' = ofValue node) : SameReading key (some value) (some value') := by
  cases hs with
  | element s pre post hk =>
    have hread : read (.arr s (pre ++ node' :: post)) = read (.arr s (pre ++ node :: post)) := by
      rw [read_list, read_list, List.map_append, List.map_append, List.map_cons, List.map_cons, h]
    refine ⟨fun hw => ?_, fun hw => ?_, fun hw => ?_, fun _ => ?_, fun _ => ?_, fun _ => ?_⟩
    · simp only [List.mem_cons, List.not_mem_nil, or_false] at hw
      rcases hw with rfl | rfl
      · exact absurd hk (by decide)
      · exact absurd hk (by decide)
    · subst hw
      exact absurd hk (by decide)
    · subst hw
      exact absurd hk (by decide)
    · rw [Option.map_some, hread, Option.map_some]
    · rw [Option.map_some, hread, Option.map_some]
    · rw [Option.map_some, ofValue, hread]
      rfl
  | property k pre post =>
    refine ⟨fun hw => absurd hw (by decide), fun hw => absurd hw (by decide), fun hw => absurd hw (by decide),
      fun _ => ?_, fun hw => absurd hw (by decide), fun hw => absurd hw (by decide)⟩
    simp only [Option.map_some, Option.bind_some, read_mapping, List.map_append, List.map_cons, h]
  | items hne hne' =>
    refine ⟨fun hw => absurd hw (by decide), fun hw => absurd hw (by decide), fun hw => absurd hw (by decide),
      fun hw => absurd hw (by decide), fun _ => ?_, fun _ => ?_⟩
    · simp only [Option.map_some, Option.bind_some, elements_eq_none hne, elements_eq_none hne']
    · rw [Option.map_some, Option.map_some, h]

/-- A node may stand for another that reads as the same schema. -/
theorem Replaced.ofValue_eq {old new node node' : Value} (hr : Replaced old new node node')
    (h : ofValue new = ofValue old) : ofValue node' = ofValue node := by
  induction hr with
  | here => exact h
  | item s pre post _ ih =>
    rw [ofValue, ofValue, read_list, read_list, List.map_append, List.map_append, List.map_cons, List.map_cons, ih]
  | keyword post hp hs _ ih => exact ofValue_middle hp (Slot.sameReading hs ih)
  | ignored post hp h h' => exact ofValue_middle hp ((Ignored.sameReading h).symm.trans (Ignored.sameReading h'))

end Replacing

/-! ## Changes to a node -/

/-- A change to a node itself. Made the other way round, it takes a key or a name out. -/
inductive Change : Value → Value → Prop
  /-- The keys change their order. -/
  | permute {entries entries' : List (String × Value)} (hk : (entries.map Prod.fst).Nodup)
    (h : entries.Perm entries') : Change (.obj entries) (.obj entries')
  /-- A key comes in that is no keyword or does not have the form of one. -/
  | ignored {key : String} {value : Value} (pre post : List (String × Value)) (h : Ignored key value)
    (hk : (pre ++ post).lookup key = none) : Change (.obj (pre ++ post)) (.obj (pre ++ (key, value) :: post))
  /-- A name comes in that is not a text. -/
  | unnamed {pre : List (String × Value)} (post : List (String × Value)) (s : Sequence) (names names' : List Value)
    {value : Value} (hp : pre.lookup "required" = none) (h : ∀ text, value ≠ .str text) :
    Change (.obj (pre ++ ("required", .arr s (names ++ names')) :: post))
      (.obj (pre ++ ("required", .arr s (names ++ value :: names')) :: post))

theorem Change.ofValue_eq {old new : Value} (h : Change old new) : Schema.ofValue new = Schema.ofValue old := by
  cases h with
  | permute hk h => exact Schema.ofValue_congr fun key => .of_eq (Entries.lookup_perm h hk key)
  | @ignored key value pre post h hk =>
    have hpre : pre.lookup key = none := by
      rw [List.lookup_append, Option.or_eq_none_iff] at hk
      exact hk.1
    refine Schema.ofValue_congr fun k => ?_
    rw [Entries.lookup_middle post hpre]
    by_cases hkey : k = key
    · rw [if_pos hkey, hkey, hk]
      exact Ignored.sameReading h
    · rw [if_neg hkey]
      exact .refl k _
  | @unnamed pre post s names names' value hp h =>
    refine Schema.ofValue_middle hp (Schema.sameReading_required ?_)
    cases value with
    | str text => exact absurd rfl (h text)
    | _ => simp [Schema.keyNames]

/-! ## Changes to the definitions -/

/-- A change to a table: its names change their order, or a node in one of its entries is changed. -/
inductive TableChange : Definitions → Definitions → Prop
  | permute {table table' : Definitions} (hk : (table.map Prod.fst).Nodup) (h : table.Perm table') :
    TableChange table table'
  | entry {old new node node' : Value} (pre post : Definitions) (name : String) (h : Change old new)
    (hr : Replaced old new node node') : TableChange (pre ++ (name, node) :: post) (pre ++ (name, node') :: post)

/-- A table, where of every node is seen what `f` reads of it. -/
def readings {α : Type} (f : Value → α) (table : Option Definitions) : Option (String → Option α) :=
  table.map fun entries name => (entries.lookup name).map f

/-- Where one node is exchanged for another, no more is seen than of these. -/
theorem readings_middle {α : Type} {f : Value → α} (pre post : Definitions) (name : String) {node node' : Value}
    (h : f node' = f node) :
    readings f (some (pre ++ (name, node') :: post)) = readings f (some (pre ++ (name, node) :: post)) := by
  refine congrArg some (funext fun key => ?_)
  show ((pre ++ (name, node') :: post).lookup key).map f = ((pre ++ (name, node) :: post).lookup key).map f
  rw [List.lookup_append, List.lookup_append, Entries.lookup_cons, Entries.lookup_cons]
  cases pre.lookup key with
  | some node => rfl
  | none =>
    by_cases hk : key = name
    · rw [if_pos hk, if_pos hk]
      exact congrArg some h
    · rw [if_neg hk, if_neg hk]

/-- Compiling can see the schemas under the names of a table, and these stay. -/
theorem TableChange.schemas_eq {table table' : Definitions} (h : TableChange table table') :
    readings Schema.ofValue (some table') = readings Schema.ofValue (some table) := by
  cases h with
  | permute hk h =>
    refine congrArg some (funext fun name => ?_)
    exact congrArg (Option.map Schema.ofValue) (Entries.lookup_perm h hk name)
  | entry pre post name h hr => exact readings_middle pre post name (Replaced.ofValue_eq hr h.ofValue_eq)

theorem TableChange.reverse {table table' : Definitions} (h : TableChange table table') :
    TableChange table.reverse table'.reverse := by
  cases h with
  | permute hk h =>
    refine .permute ?_ (table.reverse_perm.trans (h.trans table'.reverse_perm.symm))
    rw [List.map_reverse]
    exact (List.reverse_perm _).nodup_iff.2 hk
  | entry pre post name h hr =>
    rw [List.reverse_append, List.reverse_append, List.reverse_cons, List.reverse_cons, List.append_assoc,
      List.append_assoc]
    exact .entry post.reverse pre.reverse name h hr

end Conformance
