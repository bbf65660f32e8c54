import Conformance.Proofs.Equality
import Conformance.Proofs.Rationals
import Conformance.Proofs.RoundTrip
/-!
# Canonical form

The canonical text of a value without doubles depends on what its objects have under their keys and not on the order
of the entries, nor on whether a sequence is a list or a tuple. It depends on everything else: from the text all of
that is read back. So two values have one canonical text exactly if they are equal up to that, and what is hashed
collides no earlier.
-/

namespace Conformance

/-! ## Sorted entries -/

namespace Entries

variable {α : Type} {key : String} {value : α} {entries entries' : List (String × α)}

/-- The keys increase. -/
def Increasing (entries : List (String × α)) : Prop := (entries.map Prod.fst).Pairwise (· < ·)

theorem Increasing.nodup (h : Increasing entries) : (entries.map Prod.fst).Nodup := by
  refine h.imp fun hlt heq => ?_
  rw [heq] at hlt
  exact String.lt_irrefl _ hlt

/-- Under increasing keys, entries are told by what is found under each. -/
theorem Increasing.ext (h : Increasing entries) (h' : Increasing entries')
    (hl : ∀ key, entries'.lookup key = entries.lookup key) : entries' = entries := by
  have hmem : ∀ key, key ∈ entries'.map Prod.fst ↔ key ∈ entries.map Prod.fst := by
    intro key
    rw [← has_iff_mem, ← has_iff_mem, has, has, hl]
  have hkeys : entries'.map Prod.fst = entries.map Prod.fst :=
    ((List.perm_ext_iff_of_nodup h'.nodup h.nodup).2 hmem).eq_of_pairwise
      (fun _ _ _ _ hlt hgt => absurd hgt (String.lt_asymm hlt)) h' h
  exact ext_lookup h.nodup hkeys hl

theorem lookup_insertSorted (key k : String) (value : α) (entries : List (String × α)) :
    (insertSorted key value entries).lookup k = if k = key then some value else entries.lookup k := by
  induction entries with
  | nil => rw [insertSorted, lookup_cons]
  | cons e entries ih =>
    obtain ⟨k', v⟩ := e
    rw [insertSorted]
    split
    · next hlt =>
      rw [lookup_cons, lookup_cons, ih]
      by_cases hk : k = k'
      · have hne : k ≠ key := by
          rintro rfl
          exact String.lt_irrefl k (hk ▸ hlt)
        rw [if_pos hk, if_neg hne, if_pos hk]
      · rw [if_neg hk, if_neg hk]
    · exact lookup_cons _ _ _ _

theorem increasing_insertSorted (h : Increasing entries) (hk : entries.lookup key = none) :
    Increasing (insertSorted key value entries) := by
  induction entries with
  | nil => exact List.pairwise_singleton _ _
  | cons e entries ih =>
    obtain ⟨k, v⟩ := e
    obtain ⟨hbelow, hrest⟩ := List.pairwise_cons.1 h
    rw [lookup_cons] at hk
    have hne : key ≠ k := by
      rintro rfl
      rw [if_pos rfl] at hk
      cases hk
    rw [if_neg hne] at hk
    rw [insertSorted]
    split
    · next hlt =>
      refine List.pairwise_cons.2 ⟨fun k' hk' => ?_, ih hrest hk⟩
      obtain ⟨e, he, rfl⟩ := List.mem_map.1 hk'
      rcases mem_insertSorted he with rfl | he
      · exact hlt
      · exact hbelow _ (List.mem_map_of_mem he)
    · next hnlt =>
      have hlt : key < k := by
        by_contra h'
        exact hne (String.le_antisymm (String.not_lt.1 hnlt) (String.not_lt.1 h'))
      exact List.pairwise_cons.2 ⟨List.forall_mem_cons.2 ⟨hlt, fun k' hk' => String.lt_trans hlt (hbelow k' hk')⟩, h⟩

end Entries

namespace Value

/-! ## Normal forms -/

theorem sortItems_eq (items : List Value) : sortItems items = items.map sortKeys := by
  induction items with
  | nil => rfl
  | cons v items ih => rw [sortItems, ih, List.map_cons]

theorem lookup_sortEntries (key : String) (entries : List (String × Value)) :
    (sortEntries entries).lookup key = (entries.lookup key).map sortKeys := by
  induction entries with
  | nil => rfl
  | cons e entries ih =>
    rw [sortEntries, Entries.lookup_insertSorted, Entries.lookup_cons, ih]
    split <;> rfl

theorem increasing_sortEntries {entries : List (String × Value)} (hk : (entries.map Prod.fst).Nodup) :
    Entries.Increasing (sortEntries entries) := by
  induction entries with
  | nil => exact List.Pairwise.nil
  | cons e entries ih =>
    obtain ⟨hnew, hk⟩ := List.nodup_cons.1 hk
    refine Entries.increasing_insertSorted (ih hk) ?_
    rw [lookup_sortEntries, Option.map_eq_none_iff]
    cases hl : entries.lookup e.1 with
    | none => rfl
    | some v => exact absurd (List.mem_map_of_mem (Entries.mem_of_lookup hl)) hnew

theorem lookup_listedEntries (key : String) (entries : List (String × Value)) :
    (listedEntries entries).lookup key = (entries.lookup key).map listed := by
  induction entries with
  | nil => rfl
  | cons e entries ih =>
    rw [listedEntries, Entries.lookup_cons, Entries.lookup_cons, ih]
    split <;> rfl

theorem Plain.sortKeys {v : Value} (h : v.Plain) : v.sortKeys.Plain := by
  induction h with
  | null => exact .null
  | bool b => exact .bool b
  | int h => exact .int h
  | str s => exact .str s
  | arr s _ ih =>
    refine .arr s fun w hw => ?_
    obtain ⟨v, hv, rfl⟩ := mem_sortItems hw
    exact ih v hv
  | obj hk _ ih =>
    refine .obj (increasing_sortEntries hk).nodup fun e he => ?_
    obtain ⟨f, hf, rfl⟩ := mem_sortEntries he
    exact ih f hf

/-- The value with its keys in order and with lists in place of tuples. -/
def normal (v : Value) : Value := v.sortKeys.listed

def normalEntries (entries : List (String × Value)) : List (String × Value) := listedEntries (sortEntries entries)

theorem normal_arr (s : Sequence) (items : List Value) : normal (.arr s items) = .list (items.map normal) := by
  rw [normal, Value.sortKeys, listed, listedItems_eq, sortItems_eq, List.map_map]
  rfl

theorem lookup_normalEntries (key : String) (entries : List (String × Value)) :
    (normalEntries entries).lookup key = (entries.lookup key).map normal := by
  rw [normalEntries, lookup_listedEntries, lookup_sortEntries, Option.map_map]
  rfl

theorem increasing_normalEntries {entries : List (String × Value)} (hk : (entries.map Prod.fst).Nodup) :
    Entries.Increasing (normalEntries entries) := by
  rw [Entries.Increasing, normalEntries, keys_listedEntries]
  exact increasing_sortEntries hk

/-! ## Equality up to order -/

/-- Equal, where objects are compared as finite maps and tuples as lists. -/
inductive EqualUpToOrder : Value → Value → Prop
  | null : EqualUpToOrder .null .null
  | bool (b : Bool) : EqualUpToOrder (.bool b) (.bool b)
  | int (n : Int) : EqualUpToOrder (.int n) (.int n)
  | str (s : String) : EqualUpToOrder (.str s) (.str s)
  | arr (s t : Sequence) {xs ys : List Value} (hlength : xs.length = ys.length)
    (h : ∀ (i : Nat) (x y : Value), xs[i]? = some x → ys[i]? = some y → EqualUpToOrder x y) :
    EqualUpToOrder (.arr s xs) (.arr t ys)
  | obj {es fs : List (String × Value)} (hkeys : ∀ key, Entries.has key es = Entries.has key fs)
    (h : ∀ key x y, es.lookup key = some x → fs.lookup key = some y → EqualUpToOrder x y) :
    EqualUpToOrder (.obj es) (.obj fs)

section Parts

variable {R : Value → Value → Prop} {xs ys : List Value} {es fs : List (String × Value)}

theorem forall₂_iff_positions : List.Forall₂ R xs ys ↔
    xs.length = ys.length ∧ ∀ (i : Nat) (x y : Value), xs[i]? = some x → ys[i]? = some y → R x y := by
  rw [List.forall₂_iff_get]
  refine and_congr_right fun hlength => ⟨fun h i x y hx hy => ?_, fun h i hi hi' => ?_⟩
  · obtain ⟨hi, rfl⟩ := List.getElem?_eq_some_iff.1 hx
    obtain ⟨hi', rfl⟩ := List.getElem?_eq_some_iff.1 hy
    exact h i hi hi'
  · exact h i _ _ (List.getElem?_eq_getElem hi) (List.getElem?_eq_getElem hi')

theorem rel_lookup_iff : (∀ key, Option.Rel R (es.lookup key) (fs.lookup key)) ↔
    (∀ key, Entries.has key es = Entries.has key fs) ∧
      ∀ key x y, es.lookup key = some x → fs.lookup key = some y → R x y := by
  unfold Entries.has
  constructor
  · intro h
    refine ⟨fun key => ?_, fun key x y hx hy => ?_⟩
    · have hkey := h key
      generalize es.lookup key = u at hkey ⊢
      generalize fs.lookup key = w at hkey ⊢
      cases hkey <;> rfl
    · have hkey := h key
      rw [hx, hy] at hkey
      cases hkey with
      | some hr => exact hr
  · rintro ⟨hkeys, h⟩ key
    have hkey := hkeys key
    cases hx : es.lookup key <;> cases hy : fs.lookup key <;> rw [hx, hy] at hkey
    · exact .none
    · cases hkey
    · cases hkey
    · exact .some (h key _ _ hx hy)

theorem map_normal_eq_iff : xs.map normal = ys.map normal ↔ List.Forall₂ (fun x y => x.normal = y.normal) xs ys := by
  rw [← List.forall₂_eq_eq_eq, List.forall₂_map_left_iff, List.forall₂_map_right_iff]

theorem normalEntries_eq_iff (hes : (es.map Prod.fst).Nodup) (hfs : (fs.map Prod.fst).Nodup) :
    normalEntries es = normalEntries fs ↔
      ∀ key, Option.Rel (fun x y => x.normal = y.normal) (es.lookup key) (fs.lookup key) := by
  have hrel : ∀ u w : Option Value, u.map normal = w.map normal ↔ Option.Rel (fun x y => x.normal = y.normal) u w := by
    intro u w
    cases u <;> cases w <;> simp
  constructor
  · intro h key
    rw [← hrel, ← lookup_normalEntries, h, lookup_normalEntries]
  · intro h
    refine (increasing_normalEntries hfs).ext (increasing_normalEntries hes) fun key => ?_
    rw [lookup_normalEntries, lookup_normalEntries, hrel]
    exact h key

theorem same_obj_iff_lookup (hes : (es.map Prod.fst).Nodup) : same (.obj es) (.obj fs) = true ↔
    ∀ key, Option.Rel (fun x y => x.same y = true) (es.lookup key) (fs.lookup key) := by
  constructor
  · intro h key
    rcases lookup_same h key with ⟨hx, hy⟩ | ⟨x, y, hx, hy, hs⟩
    · rw [hx, hy]
      exact .none
    · rw [hx, hy]
      exact .some hs
  · intro h
    obtain ⟨hkeys, h⟩ := rel_lookup_iff.1 h
    refine same_obj.2 ⟨fun f hf => ?_, fun e he => ?_⟩
    · rw [hkeys]
      exact Entries.has_iff_mem.2 (List.mem_map_of_mem hf)
    · have hx := Entries.lookup_of_mem hes he
      obtain ⟨y, hy⟩ := Entries.has_iff.1 ((hkeys e.1).symm.trans (Entries.has_iff.2 ⟨_, hx⟩))
      exact ⟨y, hy, h _ _ _ hx hy⟩

end Parts

theorem EqualUpToOrder.arr_iff {s t : Sequence} {xs ys : List Value} : EqualUpToOrder (.arr s xs) (.arr t ys) ↔
    xs.length = ys.length ∧ ∀ (i : Nat) (x y : Value), xs[i]? = some x → ys[i]? = some y → EqualUpToOrder x y := by
  constructor
  · rintro (_ | _ | _ | _ | ⟨_, _, hlength, h⟩)
    exact ⟨hlength, h⟩
  · rintro ⟨hlength, h⟩
    exact .arr s t hlength h

theorem EqualUpToOrder.obj_iff {es fs : List (String × Value)} : EqualUpToOrder (.obj es) (.obj fs) ↔
    (∀ key, Entries.has key es = Entries.has key fs) ∧
      ∀ key x y, es.lookup key = some x → fs.lookup key = some y → EqualUpToOrder x y := by
  constructor
  · rintro (_ | _ | _ | _ | _ | ⟨hkeys, h⟩)
    exact ⟨hkeys, h⟩
  · rintro ⟨hkeys, h⟩
    exact .obj hkeys h

/-- Values are compared part by part, where a list counts as a tuple and the order of entries does not count. -/
structure Partwise (R : Value → Value → Prop) : Prop where
  kind : ∀ {v w}, R v w → v.kind? = w.kind?
  null : R .null .null
  bool : ∀ {b c}, R (.bool b) (.bool c) ↔ b = c
  int : ∀ {m n : Int}, R (.int m) (.int n) ↔ m = n
  str : ∀ {s t}, R (.str s) (.str t) ↔ s = t
  arr : ∀ {s t xs ys}, R (.arr s xs) (.arr t ys) ↔ List.Forall₂ R xs ys
  obj : ∀ {es fs : List (String × Value)}, (es.map Prod.fst).Nodup → (fs.map Prod.fst).Nodup →
    (R (.obj es) (.obj fs) ↔ ∀ key, Option.Rel R (es.lookup key) (fs.lookup key))

/-- There is one such comparison. -/
theorem Partwise.iff_equalUpToOrder {R : Value → Value → Prop} (hR : Partwise R) {v w : Value} (hv : v.Plain)
    (hw : w.Plain) : R v w ↔ EqualUpToOrder v w := by
  have hkind : ∀ {v w : Value}, v.kind? ≠ w.kind? → ¬ R v w := fun hne h => hne (hR.kind h)
  induction hv generalizing w with
  | null =>
    cases hw with
    | null => exact iff_of_true hR.null .null
    | _ => exact iff_of_false (hkind nofun) nofun
  | bool b =>
    cases hw with
    | bool c =>
      rw [hR.bool]
      exact ⟨fun h => by cases h; exact .bool b, fun h => by cases h; rfl⟩
    | _ => exact iff_of_false (hkind nofun) nofun
  | @int n _ =>
    cases hw with
    | @int m _ =>
      rw [hR.int]
      exact ⟨fun h => by cases h; exact .int n, fun h => by cases h; rfl⟩
    | _ => exact iff_of_false (hkind nofun) nofun
  | str s =>
    cases hw with
    | str t =>
      rw [hR.str]
      exact ⟨fun h => by cases h; exact .str s, fun h => by cases h; rfl⟩
    | _ => exact iff_of_false (hkind nofun) nofun
  | @arr s xs _ ih =>
    cases hw with
    | @arr t ys hys =>
      rw [hR.arr, forall₂_iff_positions, EqualUpToOrder.arr_iff]
      refine and_congr_right fun _ => forall_congr' fun i => forall₂_congr fun x y => forall₂_congr fun hx hy => ?_
      exact ih x (List.mem_of_getElem? hx) (hys y (List.mem_of_getElem? hy))
    | _ => exact iff_of_false (hkind nofun) nofun
  | @obj es hes _ ih =>
    cases hw with
    | @obj fs hfs hplain =>
      rw [hR.obj hes hfs, rel_lookup_iff, EqualUpToOrder.obj_iff]
      refine and_congr_right fun _ => forall_congr' fun key => forall₂_congr fun x y => forall₂_congr fun hx hy => ?_
      exact ih _ (Entries.mem_of_lookup hx) (hplain _ (Entries.mem_of_lookup hy))
    | _ => exact iff_of_false (hkind nofun) nofun

theorem kind?_normal (v : Value) : v.normal.kind? = v.kind? := by
  cases v <;> rfl

/-- Normal forms are compared part by part. -/
theorem partwise_normal : Partwise fun v w => v.normal = w.normal where
  kind {v w} h := by rw [← kind?_normal v, h, kind?_normal]
  null := rfl
  bool := ⟨fun h => by cases h; rfl, fun h => by rw [h]⟩
  int := ⟨fun h => by cases h; rfl, fun h => by rw [h]⟩
  str := ⟨fun h => by cases h; rfl, fun h => by rw [h]⟩
  arr := by
    intro s t xs ys
    rw [normal_arr, normal_arr, Value.arr.injEq, eq_self_iff_true, true_and, map_normal_eq_iff]
  obj := by
    intro es fs hes hfs
    show Value.obj (normalEntries es) = Value.obj (normalEntries fs) ↔ _
    rw [Value.obj.injEq, normalEntries_eq_iff hes hfs]

theorem same_int {m n : Int} : (Value.int m).same (.int n) = true ↔ m = n := by
  rw [same, Number.same_iff_equals]
  constructor
  · rintro (⟨q, hm, hn⟩ | ⟨_, hm, _⟩)
    · cases hm
      exact (Int.cast_injective (Option.some.inj hn)).symm
    · cases hm
  · rintro rfl
    exact .inl ⟨m, rfl, rfl⟩

/-- So are values where one is checked against another. -/
theorem partwise_same : Partwise fun v w => v.same w = true where
  kind := kind?_of_same
  null := rfl
  bool := by
    intro b c
    rw [same, beq_iff_eq]
  int := same_int
  str := by
    intro s t
    rw [same, beq_iff_eq]
  arr := same_arr
  obj hes _ := same_obj_iff_lookup hes

end Value

/-! ## Canonical texts -/

theorem Text.encodeUtf8_injective : Function.Injective encodeUtf8 := by
  intro cs ds h
  have hcs : decodeUtf8 (encodeUtf8 cs) = .ok cs := decodeUtf8_ok.2 rfl
  rw [h] at hcs
  exact Except.ok.inj (hcs.symm.trans (decodeUtf8_ok.2 rfl))

namespace Json

theorem canonicalText_eq {v : Value} {cs : List Char} (h : writeChars v.normal = .ok cs) :
    canonicalText v = .ok (String.ofList cs) := by
  rw [Value.normal, writeChars_listed] at h
  rw [canonicalText, write, h]
  rfl

theorem canonical_eq {v : Value} {cs : List Char} (h : writeChars v.normal = .ok cs) :
    canonical v = .ok ⟨String.ofList cs, Text.encodeUtf8 cs, Sha256.hex (Text.encodeUtf8 cs)⟩ := by
  refine except_bind_ok.2 ⟨_, canonicalText_eq h, ?_⟩
  rw [String.toList_ofList]
  rfl

theorem write_normal {v : Value} (hv : v.Plain) : ∃ cs, writeChars v.normal = .ok cs := by
  rw [Value.normal, writeChars_listed]
  exact writeChars_ok hv.sortKeys.writable

/-- A text is that of one normal form only. -/
theorem write_normal_iff {v w : Value} (hv : v.Plain) (hw : w.Plain) {cs ds : List Char}
    (hcs : writeChars v.normal = .ok cs) (hds : writeChars w.normal = .ok ds) : cs = ds ↔ v.normal = w.normal := by
  constructor
  · rintro rfl
    rw [Value.normal, writeChars_listed] at hcs hds
    exact listed_eq_of_write hv.sortKeys hw.sortKeys hcs hds
  · intro h
    rw [h, hds] at hcs
    exact (Except.ok.inj hcs).symm

/-- Two values have a canonical form each. The texts are the same exactly if the values are equal up to order, and so
are the bytes that are hashed, so in that case the hashes are too. -/
theorem canonical_identifies {v w : Value} (hv : v.Plain) (hw : w.Plain) : ∃ c d : Canonical,
    canonicalText v = .ok c.text ∧ canonicalText w = .ok d.text ∧ canonical v = .ok c ∧ canonical w = .ok d ∧
    (c.text = d.text ↔ v.EqualUpToOrder w) ∧ (c.bytes = d.bytes ↔ v.EqualUpToOrder w) ∧
    (v.EqualUpToOrder w → c.sha256 = d.sha256) := by
  obtain ⟨cs, hcs⟩ := write_normal hv
  obtain ⟨ds, hds⟩ := write_normal hw
  have hiff : cs = ds ↔ v.EqualUpToOrder w :=
    (write_normal_iff hv hw hcs hds).trans (Value.partwise_normal.iff_equalUpToOrder hv hw)
  refine ⟨_, _, canonicalText_eq hcs, canonicalText_eq hds, canonical_eq hcs, canonical_eq hds, ?_, ?_, fun h => ?_⟩
  · rw [← hiff, String.ofList_inj]
  · rw [← hiff, Text.encodeUtf8_injective.eq_iff]
  · rw [hiff.2 h]

/-- A negative number, a text with quotes, a control character and one outside of ASCII, and objects in each other. -/
def invoice (s t : Sequence) : Value :=
  .obj [("total", .int (-120)), ("notes", .arr s [.str "\"5\u0001é\"", .null]),
    ("", .obj [("paid", .bool true), ("lines", .arr t [])])]

/-- The keys come in another order, outside and inside. -/
def reorderedInvoice (s t : Sequence) : Value :=
  .obj [("", .obj [("lines", .arr t []), ("paid", .bool true)]), ("notes", .arr s [.str "\"5\u0001é\"", .null]),
    ("total", .int (-120))]

theorem plain_invoice (s t : Sequence) : (invoice s t).Plain ∧ (reorderedInvoice s t).Plain := by
  have htotal : (Value.int (-120)).Plain := .int (by decide)
  have hnotes : (Value.arr s [.str "\"5\u0001é\"", .null]).Plain :=
    .arr s (List.forall_mem_cons.2 ⟨.str _, List.forall_mem_singleton.2 .null⟩)
  have hlines : (Value.arr t []).Plain := .arr t (List.forall_mem_nil _)
  constructor
  · exact .obj (by simp) (List.forall_mem_cons.2 ⟨htotal, List.forall_mem_cons.2 ⟨hnotes, List.forall_mem_singleton.2
      (.obj (by simp) (List.forall_mem_cons.2 ⟨.bool true, List.forall_mem_singleton.2 hlines⟩))⟩⟩)
  · exact .obj (by simp) (List.forall_mem_cons.2
      ⟨.obj (by simp) (List.forall_mem_cons.2 ⟨hlines, List.forall_mem_singleton.2 (.bool true)⟩),
        List.forall_mem_cons.2 ⟨hnotes, List.forall_mem_singleton.2 htotal⟩⟩)

/-- The one with a tuple and the other with a list have one canonical form. -/
theorem canonical_identifies_invoice :
    (invoice .tuple .list).Plain ∧ (reorderedInvoice .list .tuple).Plain ∧
    (invoice .tuple .list).EqualUpToOrder (reorderedInvoice .list .tuple) ∧
    ∃ c d : Canonical, canonical (invoice .tuple .list) = .ok c ∧ canonical (reorderedInvoice .list .tuple) = .ok d ∧
      c.text = d.text ∧ c.bytes = d.bytes ∧ c.sha256 = d.sha256 := by
  have hv := (plain_invoice .tuple .list).1
  have hw := (plain_invoice .list .tuple).2
  have hequal := (Value.partwise_same.iff_equalUpToOrder hv hw).1 rfl
  obtain ⟨c, d, _, _, hc, hd, htext, hbytes, hhash⟩ := canonical_identifies hv hw
  exact ⟨hv, hw, hequal, c, d, hc, hd, htext.2 hequal, hbytes.2 hequal, hhash hequal⟩

end Json

end Conformance
