import Conformance.Proofs.Faults
/-!
# JSON pointers

A reference is written as `#` and a JSON pointer, which leads from the document through mappings by their
keys. Where the pointer is that of an entry of the definitions, and the name of the entry is not empty, the
reference names this entry; so nothing else is looked up than what the pointer leads to.
-/

namespace Conformance

namespace Pointer

/-! ## Tokens -/

/-- What the tokens of a pointer lead to, one key after the other. -/
def follow : Value → List (List Char) → Option Value
  | v, [] => some v
  | .obj entries, token :: tokens =>
    (entries.lookup (String.ofList (unescape token))).bind fun v => follow v tokens
  | _, _ :: _ => none

/-- The tokens of a pointer, each behind a slash. -/
def write (tokens : List (List Char)) : List Char := tokens.flatMap ('/' :: ·)

theorem append_write_inj {t u : List Char} {ts us : List (List Char)} (ht : '/' ∉ t) (hu : '/' ∉ u)
    (h : t ++ write ts = u ++ write us) : t = u ∧ write ts = write us := by
  have hfirst : ∀ {c : Char} {cs : List Char} {ts : List (List Char)}, write ts = c :: cs → c = '/' := by
    intro c cs ts h
    cases ts with
    | nil => cases h
    | cons t ts => exact (List.cons.inj h).1.symm
  induction t generalizing u with
  | nil =>
    cases u with
    | nil => exact ⟨rfl, h⟩
    | cons c u => exact absurd (hfirst h) fun hc => hu (hc ▸ List.mem_cons_self)
  | cons c t ih =>
    cases u with
    | nil => exact absurd (hfirst h.symm) fun hc => ht (hc ▸ List.mem_cons_self)
    | cons d u =>
      obtain ⟨rfl, htail⟩ := List.cons.inj h
      obtain ⟨rfl, hrest⟩ :=
        ih (fun hm => ht (List.mem_cons_of_mem _ hm)) (fun hm => hu (List.mem_cons_of_mem _ hm)) htail
      exact ⟨rfl, hrest⟩

/-- A pointer has one list of tokens only. -/
theorem write_inj {ts us : List (List Char)} (hts : ∀ t ∈ ts, '/' ∉ t) (hus : ∀ t ∈ us, '/' ∉ t)
    (h : write ts = write us) : ts = us := by
  induction ts generalizing us with
  | nil =>
    cases us with
    | nil => rfl
    | cons u us => cases h
  | cons t ts ih =>
    cases us with
    | nil => cases h
    | cons u us =>
      obtain ⟨ht, hts'⟩ := List.forall_mem_cons.1 hts
      obtain ⟨hu, hus'⟩ := List.forall_mem_cons.1 hus
      obtain ⟨rfl, hrest⟩ := append_write_inj ht hu (List.cons.inj h).2
      rw [ih hts' hus' hrest]

end Pointer

open Pointer

/-! ## References -/

/-- The reference leads to the target from the document. Nothing is written with percent signs. -/
def PointsTo (document r target : Value) : Prop :=
  ∃ tokens : List (List Char), (∀ t ∈ tokens, '/' ∉ t ∧ '%' ∉ t) ∧
    r = .str (String.ofList ('#' :: write tokens)) ∧ follow document tokens = some target

/-- An entry of the definitions of the document. -/
def Entry (document : Value) (name : String) (target : Value) : Prop :=
  ∃ entries own, document = .obj entries ∧ entries.lookup "definitions" = some (.obj own) ∧
    own.lookup name = some target

/-- The reference is to the entry, and written without percent signs. -/
def RefersToEntry (document r : Value) (name : String) (target : Value) : Prop :=
  ∃ token : List Char, '/' ∉ token ∧ '%' ∉ token ∧ r = .str (String.ofList (Reference.root ++ token)) ∧
    name = String.ofList (unescape token) ∧ Entry document name target

variable {document r target target' : Value} {name : String}

theorem PointsTo.unique (h : PointsTo document r target) (h' : PointsTo document r target') : target = target' := by
  obtain ⟨ts, hts, rfl, hf⟩ := h
  obtain ⟨us, hus, he, hf'⟩ := h'
  have htext := String.ofList_injective (Value.str.inj he)
  cases write_inj (fun t ht => (hts t ht).1) (fun t ht => (hus t ht).1) (List.cons.inj htext).2
  exact Option.some.inj (hf.symm.trans hf')

theorem follow_definitions {token : List Char} :
    follow document ["definitions".toList, token] = some target ↔
      Entry document (String.ofList (unescape token)) target := by
  have hkey : String.ofList (unescape "definitions".toList) = "definitions" := rfl
  constructor
  · intro h
    cases document with
    | obj entries =>
      obtain ⟨v, hv, h⟩ := Option.bind_eq_some_iff.1 h
      rw [hkey] at hv
      cases v with
      | obj own =>
        obtain ⟨w, hw, h⟩ := Option.bind_eq_some_iff.1 h
        cases h
        exact ⟨entries, own, rfl, hv, hw⟩
      | _ => cases h
    | _ => cases h
  · rintro ⟨entries, own, rfl, hv, hw⟩
    rw [follow, hkey, hv, Option.bind_some, follow, hw]
    rfl

/-- The pointer of an entry leads to it. -/
theorem RefersToEntry.pointsTo (h : RefersToEntry document r name target) : PointsTo document r target := by
  obtain ⟨token, hs, hp, rfl, rfl, he⟩ := h
  refine ⟨["definitions".toList, token], ?_, ?_, follow_definitions.2 he⟩
  · simp only [List.forall_mem_cons]
    exact ⟨by decide, ⟨hs, hp⟩, List.forall_mem_nil _⟩
  · rw [write, List.flatMap_cons, List.flatMap_cons, List.flatMap_nil, List.append_nil]
    rfl

theorem entry_iff : Entry document name target ↔
    ∃ table, effectiveDefinitions document .null = some table ∧ table.lookup name = some target := by
  constructor
  · rintro ⟨entries, own, rfl, hown, hl⟩
    refine ⟨own, ?_, hl⟩
    simp only [effectiveDefinitions, hown]
  · rintro ⟨table, ht, hl⟩
    cases document with
    | obj entries =>
      cases hown : entries.lookup "definitions" with
      | none =>
        simp only [effectiveDefinitions, hown] at ht
        cases ht
      | some own =>
        cases own with
        | obj own =>
          simp only [effectiveDefinitions, hown] at ht
          cases ht
          exact ⟨entries, _, rfl, hown, hl⟩
        | _ =>
          simp only [effectiveDefinitions, hown] at ht
          cases ht
    | _ => cases ht

/-- With a name that is not empty, the reference names the entry in the table of the document. -/
theorem RefersToEntry.names (h : RefersToEntry document r name target) (hne : name ≠ "") :
    r.RefersTo name ∧ Meaning.Names (effectiveDefinitions document .null) r target := by
  obtain ⟨token, hs, _, rfl, rfl, he⟩ := h
  have htoken : token ≠ [] := by
    rintro rfl
    exact hne rfl
  have hrefers : Value.RefersTo (.str (String.ofList (Reference.root ++ token))) (String.ofList (unescape token)) :=
    ⟨token, htoken, hs, rfl, rfl⟩
  obtain ⟨ref, href, hname⟩ := Reference.refersTo_iff.1 hrefers
  obtain ⟨table, ht, hl⟩ := entry_iff.1 he
  exact ⟨hrefers, ref, table, href, ht, by rw [hname]; exact hl⟩

end Conformance
