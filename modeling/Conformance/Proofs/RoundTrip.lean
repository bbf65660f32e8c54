import Conformance.Proofs.Entries
import Conformance.Proofs.Writing
/-!
# Reading back what has been written

What a value without doubles is written to is read back as that value, with lists in place of tuples. Escaping is
undone character by character, a whole number has no zeros in front, and what stands behind a value inside a list or
an object never goes on with it. So the text is told apart from every other value's.
-/

namespace Conformance

/-! ## Values without doubles -/

namespace Value

/-- Made of whole numbers that are not too long, texts, lists and objects without repeated keys. -/
inductive Plain : Value → Prop
  | null : Plain .null
  | bool (b : Bool) : Plain (.bool b)
  | int {n : Int} (h : (Nat.toDigits 10 n.natAbs).length ≤ Number.digitLimit) : Plain (.int n)
  | str (s : String) : Plain (.str s)
  | arr (s : Sequence) {items : List Value} (h : ∀ x ∈ items, Plain x) : Plain (.arr s items)
  | obj {entries : List (String × Value)} (hk : (entries.map Prod.fst).Nodup) (h : ∀ e ∈ entries, Plain e.2) :
    Plain (.obj entries)

theorem Plain.writable {v : Value} (h : v.Plain) : v.Writable := by
  induction h with
  | null => exact .null
  | bool b => exact .bool b
  | int h => exact .int h
  | str s => exact .str s
  | arr s _ ih => exact .arr s ih
  | obj _ _ ih => exact .obj ih

mutual

/-- The value with lists in place of tuples. -/
def listed : Value → Value
  | .arr _ items => .list (listedItems items)
  | .obj entries => .obj (listedEntries entries)
  | .null => .null
  | .bool b => .bool b
  | .num n => .num n
  | .str s => .str s
  | .foreign id text => .foreign id text

def listedItems : List Value → List Value
  | [] => []
  | v :: rest => listed v :: listedItems rest

def listedEntries : List (String × Value) → List (String × Value)
  | [] => []
  | (k, v) :: rest => (k, listed v) :: listedEntries rest

end

theorem listedItems_eq (items : List Value) : listedItems items = items.map listed := by
  induction items with
  | nil => rfl
  | cons v items ih => rw [listedItems, ih, List.map_cons]

theorem listedEntries_eq (entries : List (String × Value)) :
    listedEntries entries = entries.map fun e => (e.1, e.2.listed) := by
  induction entries with
  | nil => rfl
  | cons e entries ih => rw [listedEntries, ih, List.map_cons]

theorem keys_listedEntries (entries : List (String × Value)) :
    (listedEntries entries).map Prod.fst = entries.map Prod.fst := by
  rw [listedEntries_eq, List.map_map]
  rfl

end Value

namespace Json

/-! ## Texts -/

variable {alone : Except Stop Char}

theorem charOf_toNat (c : Char) : charOf alone c.toNat = .ok c := by
  have hv : c.toNat.isValidChar := c.valid
  rw [charOf, dif_pos hv]
  rfl

theorem unicodeNumber_hexDigits {n : Nat} (hn : n < Nat.pow 16 4) {rest : List Char} (hr : rest ≠ []) :
    unicodeNumber ('u' :: Text.hexDigits 4 n ++ rest) = .ok (n, rest) := by
  have hlength : (Text.hexDigits 4 n).length = 4 := Text.length_hexDigits 4 n
  have htake : (Text.hexDigits 4 n ++ rest).take 4 = Text.hexDigits 4 n := List.take_left' hlength
  have hdrop : (Text.hexDigits 4 n ++ rest).drop 4 = rest := List.drop_left' hlength
  have hempty : rest.isEmpty = false := by
    cases rest with
    | nil => exact absurd rfl hr
    | cons _ _ => rfl
  simp only [unicodeNumber, List.cons_append, List.drop_succ_cons, List.drop_zero, htake, hdrop, hlength, hempty,
    Nat.lt_irrefl, decide_false, Bool.or_self, if_false, Bool.false_eq_true, Text.hexNumber?_hexDigits 4 n hn]
  rfl

/-- A control character stands alone, whatever is escaped behind it. -/
theorem unicodeEscape_hexDigits {c : Char} (hc : c.toNat < 0x20) {rest : List Char} (hr : rest ≠ []) :
    unicodeEscape alone ('u' :: Text.hexDigits 4 c.toNat ++ rest) = .ok (c, rest) := by
  have hn : c.toNat < Nat.pow 16 4 := Nat.lt_trans hc (by decide)
  have hhigh : isHighSurrogate c.toNat = false := by
    rw [isHighSurrogate, Bool.and_eq_false_iff]
    exact .inl (decide_eq_false (by omega))
  refine except_bind_ok.2 ⟨_, unicodeNumber_hexDigits hn hr, ?_⟩
  dsimp only
  rw [charOf_toNat, hhigh]
  split <;> rfl

/-- A character is written as it is, or in a form that is read back as the character, with something behind it. -/
theorem escapeChar_cases (c : Char) : escapeChar c = [c] ∧ c ≠ '"' ∧ c ≠ '\\' ∧ ¬ c.toNat < 0x20 ∨
    ∃ spelled, escapeChar c = '\\' :: spelled ∧
      ∀ alone opening rest, rest ≠ [] → escaped alone opening ('\\' :: spelled ++ rest) = .ok (c, rest) := by
  by_cases hquote : c = '"'
  · subst hquote
    exact .inr ⟨_, rfl, fun _ _ _ _ => rfl⟩
  by_cases hbackslash : c = '\\'
  · subst hbackslash
    exact .inr ⟨_, rfl, fun _ _ _ _ => rfl⟩
  unfold escapeChar
  rw [if_neg hquote, if_neg hbackslash]
  split_ifs with hn hr ht hb hf hcontrol
  · subst hn
    exact .inr ⟨_, rfl, fun _ _ _ _ => rfl⟩
  · subst hr
    exact .inr ⟨_, rfl, fun _ _ _ _ => rfl⟩
  · subst ht
    exact .inr ⟨_, rfl, fun _ _ _ _ => rfl⟩
  · subst hb
    exact .inr ⟨_, rfl, fun _ _ _ _ => rfl⟩
  · subst hf
    exact .inr ⟨_, rfl, fun _ _ _ _ => rfl⟩
  · exact .inr ⟨_, rfl, fun _ _ _ hrest => unicodeEscape_hexDigits hcontrol hrest⟩
  · exact .inl ⟨rfl, hquote, hbackslash, hcontrol⟩

theorem textBody_escapeChar {opening : List Char} {fuel : Nat} (c : Char) {rest left cs : List Char} (hr : rest ≠ [])
    (h : textBody alone opening fuel rest = .ok (cs, left)) :
    textBody alone opening (fuel + 1) (escapeChar c ++ rest) = .ok (c :: cs, left) := by
  rcases escapeChar_cases c with ⟨hc, hquote, hbackslash, hcontrol⟩ | ⟨spelled, hc, hescaped⟩
  · rw [hc, List.singleton_append, textBody, if_neg hquote, if_neg hbackslash, if_neg hcontrol]
    exact except_bind_ok.2 ⟨_, h, rfl⟩
  · rw [hc, List.cons_append, textBody, if_neg (by decide), if_pos rfl]
    exact except_bind_ok.2 ⟨_, hescaped alone opening rest hr, except_bind_ok.2 ⟨_, h, rfl⟩⟩

theorem textBody_write (opening : List Char) (fuel : Nat) (cs rest : List Char) (hf : cs.length < fuel) :
    textBody alone opening fuel (cs.flatMap escapeChar ++ '"' :: rest) = .ok (cs, rest) := by
  induction cs generalizing fuel with
  | nil =>
    cases fuel with
    | zero => cases hf
    | succ fuel => rfl
  | cons c cs ih =>
    cases fuel with
    | zero => cases hf
    | succ fuel =>
      rw [List.flatMap_cons, List.append_assoc]
      exact textBody_escapeChar c (by simp) (ih fuel (Nat.lt_of_succ_lt_succ hf))

theorem writeText_append (s : String) (rest : List Char) :
    writeText s ++ rest = '"' :: (s.toList.flatMap escapeChar ++ '"' :: rest) := by simp [writeText]

theorem length_lt_writeText (s : String) : s.toList.length + 1 < (writeText s).length := by
  have hescape : ∀ c, 1 ≤ (escapeChar c).length := by
    intro c
    rcases escapeChar_cases c with ⟨hc, _⟩ | ⟨spelled, hc, _⟩ <;> simp [hc]
  have hlength : ∀ cs : List Char, cs.length ≤ (cs.flatMap escapeChar).length := by
    intro cs
    induction cs with
    | nil => exact Nat.le_refl _
    | cons c cs ih =>
      have hc := hescape c
      rw [List.flatMap_cons, List.length_append, List.length_cons]
      omega
  have hs := hlength s.toList
  simp only [writeText, List.cons_append, List.length_cons, List.length_append, List.length_nil]
  omega

/-! ## Whole numbers -/

/-- What follows a value does not go on with a number. -/
def Ends (rest : List Char) : Prop := ∀ c ∈ rest.head?, c.isDigit = false ∧ c ≠ '.' ∧ c ≠ 'e' ∧ c ≠ 'E'

theorem ends_nil : Ends [] := nofun

theorem ends_cons {c : Char} (rest : List Char) (h : c = ',' ∨ c = ']' ∨ c = '}') : Ends (c :: rest) := by
  intro d hd
  cases hd
  rcases h with rfl | rfl | rfl <;> decide

theorem digitsOf_append {digits rest : List Char} (hd : ∀ c ∈ digits, c.isDigit = true) (hr : Ends rest) :
    digitsOf (digits ++ rest) = (digits, rest) := by
  have hrest : digitsOf rest = ([], rest) := by
    cases rest with
    | nil => rfl
    | cons c rest => simp [digitsOf, List.span_eq_takeWhile_dropWhile, (hr c rfl).1]
  rw [digitsOf, List.span_eq_takeWhile_dropWhile] at hrest ⊢
  obtain ⟨htake, hdrop⟩ := Prod.mk.inj hrest
  rw [List.takeWhile_append_of_pos hd, List.dropWhile_append_of_pos hd, htake, hdrop, List.append_nil]

theorem isDigit_of_toDigits {n : Nat} : ∀ c ∈ Nat.toDigits 10 n, c.isDigit = true :=
  fun _ hc => Nat.isDigit_of_mem_toDigits (by decide) (by decide) hc

theorem natOfDigits_toDigits (n : Nat) : Decimal.natOfDigits (Nat.toDigits 10 n) = n :=
  Nat.ofDigitChars_toDigits (by decide) (by decide)

/-- Only zero is written with a zero in front. -/
theorem toDigits_zero_cons {n : Nat} {more : List Char} (h : Nat.toDigits 10 n = '0' :: more) : more = [] := by
  induction n using Nat.strongRecOn generalizing more with
  | _ n ih =>
    rw [Nat.toDigits_eq_if (by decide)] at h
    split at h
    · exact (List.cons.inj h).2.symm
    · next hn =>
      -- the digits before the last one are those of a number that is not zero
      cases hfront : Nat.toDigits 10 (n / 10) with
      | nil => exact absurd hfront Nat.toDigits_ne_nil
      | cons c front =>
        rw [hfront] at h
        obtain ⟨rfl, _⟩ := List.cons.inj h
        rw [ih (n / 10) (by omega) hfront] at hfront
        have hzero : n / 10 = 0 := (natOfDigits_toDigits (n / 10)).symm.trans (congrArg Decimal.natOfDigits hfront)
        omega

theorem wholeDigits_toDigits (n : Nat) {rest : List Char} (hr : Ends rest) :
    wholeDigits (Nat.toDigits 10 n ++ rest) = (Nat.toDigits 10 n, rest) := by
  have hdigits := digitsOf_append (isDigit_of_toDigits (n := n)) hr
  unfold wholeDigits
  split
  · next more h =>
    cases hn : Nat.toDigits 10 n with
    | nil => exact absurd hn Nat.toDigits_ne_nil
    | cons c digits =>
      rw [hn] at h
      obtain ⟨rfl, rfl⟩ := List.cons.inj h
      rw [toDigits_zero_cons hn]
      rfl
  · exact hdigits

theorem fractionDigits_of_ends {rest : List Char} (hr : Ends rest) : fractionDigits rest = ([], rest) := by
  unfold fractionDigits
  split
  · exact absurd rfl (hr _ rfl).2.1
  · rfl

theorem exponentPart_of_ends {rest : List Char} (hr : Ends rest) : exponentPart rest = (none, rest) := by
  cases rest with
  | nil => rfl
  | cons c rest =>
    obtain ⟨_, _, he, hE⟩ := hr c rfl
    rw [exponentPart, if_neg (not_or.2 ⟨he, hE⟩)]

theorem ne_of_isDigit {c d : Char} (hc : c.isDigit = true) (hd : d.isDigit = false) : c ≠ d := by
  rintro rfl
  rw [hc] at hd
  cases hd

theorem writeInt_cons (n : Int) : ∃ c tail, writeInt n = c :: tail ∧ (c = '-' ∨ c.isDigit = true) := by
  have hdigits := isDigit_of_toDigits (n := n.natAbs)
  unfold writeInt
  split
  · exact ⟨_, _, rfl, .inl rfl⟩
  · cases hd : Nat.toDigits 10 n.natAbs with
    | nil => exact absurd hd Nat.toDigits_ne_nil
    | cons d digits => exact ⟨d, digits, rfl, .inr (hdigits d (hd ▸ List.mem_cons_self))⟩

theorem numeral?_writeInt (n : Int) {rest : List Char} (hr : Ends rest) :
    numeral? (writeInt n ++ rest) = some (⟨decide (n < 0), Nat.toDigits 10 n.natAbs, none⟩, rest) := by
  have hwhole := wholeDigits_toDigits n.natAbs hr
  have hdigits := isDigit_of_toDigits (n := n.natAbs)
  unfold writeInt
  generalize hd : Nat.toDigits 10 n.natAbs = digits at hwhole hdigits ⊢
  cases digits with
  | nil => exact absurd hd Nat.toDigits_ne_nil
  | cons d digits =>
    have hsign : d ≠ '-' := ne_of_isDigit (hdigits d List.mem_cons_self) (by decide)
    by_cases hn : n < 0
    · rw [if_pos hn, decide_eq_true hn]
      simp only [numeral?, List.cons_append] at hwhole ⊢
      simp [hwhole, fractionDigits_of_ends hr, exponentPart_of_ends hr]
    · rw [if_neg hn, decide_eq_false hn]
      simp only [numeral?, List.nil_append, List.cons_append] at hwhole ⊢
      simp [hwhole, hsign, fractionDigits_of_ends hr, exponentPart_of_ends hr]

/-- No word begins like a number. -/
theorem word?_writeInt (n : Int) (rest : List Char) : word? (writeInt n ++ rest) = none := by
  have hdigits := isDigit_of_toDigits (n := n.natAbs)
  unfold writeInt
  generalize hd : Nat.toDigits 10 n.natAbs = digits at hdigits ⊢
  cases digits with
  | nil => exact absurd hd Nat.toDigits_ne_nil
  | cons d digits =>
    have hletter : ∀ c : Char, c.isDigit = false → c ≠ d :=
      fun c hc => (ne_of_isDigit (hdigits d List.mem_cons_self) hc).symm
    have hspelled : "Infinity".toList = ['I', 'n', 'f', 'i', 'n', 'i', 't', 'y'] ∧
      "-Infinity".toList = ['-', 'I', 'n', 'f', 'i', 'n', 'i', 't', 'y'] := ⟨rfl, rfl⟩
    rw [word?, Option.map_eq_none_iff]
    split <;> simp [words, hspelled, hletter]

theorem scalar_writeInt {n : Int} (hn : (Nat.toDigits 10 n.natAbs).length ≤ Number.digitLimit) {rest : List Char}
    (hr : Ends rest) : scalar (writeInt n ++ rest) = .ok (.int n, rest) := by
  have hnumber : (if decide (n < 0) = true then -(n.natAbs : Int) else n.natAbs) = n := by
    split
    · next h => have := of_decide_eq_true h; omega
    · next h => have := of_decide_eq_false (Bool.eq_false_iff.2 h); omega
  rw [scalar, word?_writeInt, numeral?_writeInt n hr]
  simp only [Numeral.number, if_pos hn, natOfDigits_toDigits, hnumber]
  rfl

/-! ## Values -/

theorem skipSpace_cons {c : Char} (h : isSpace c = false) (cs : List Char) : skipSpace (c :: cs) = c :: cs := by
  rw [skipSpace, List.dropWhile_cons, h]
  rfl

/-- Nothing that is written begins like space, like the end of a list or with a byte order mark. -/
theorem writeChars_cons {v : Value} (hv : v.Plain) {cs : List Char} (h : writeChars v = .ok cs) :
    ∃ c tail, cs = c :: tail ∧ isSpace c = false ∧ c ≠ ']' ∧ c ≠ '\ufeff' := by
  cases hv with
  | null =>
    cases h
    exact ⟨_, _, rfl, by decide, by decide, by decide⟩
  | bool b =>
    cases b <;> cases h <;> exact ⟨_, _, rfl, by decide, by decide, by decide⟩
  | @int n hn =>
    have hwrite : writeChars (.int n) = .ok (writeInt n) := if_pos hn
    rw [hwrite] at h
    cases h
    obtain ⟨c, tail, hcons, hc⟩ := writeInt_cons n
    rcases hc with rfl | hdigit
    · exact ⟨_, _, hcons, by decide, by decide, by decide⟩
    · refine ⟨_, _, hcons, ?_, ne_of_isDigit hdigit (by decide), ne_of_isDigit hdigit (by decide)⟩
      simp [isSpace, ne_of_isDigit hdigit]
  | str s =>
    cases h
    exact ⟨_, _, rfl, by decide, by decide, by decide⟩
  | arr s _ =>
    obtain ⟨body, _, h⟩ := except_bind_ok.1 h
    cases h
    exact ⟨_, _, rfl, by decide, by decide, by decide⟩
  | obj _ _ =>
    obtain ⟨body, _, h⟩ := except_bind_ok.1 h
    cases h
    exact ⟨_, _, rfl, by decide, by decide, by decide⟩

theorem skipSpace_write {v : Value} (hv : v.Plain) {cs : List Char} (h : writeChars v = .ok cs) (rest : List Char) :
    skipSpace (cs ++ rest) = cs ++ rest := by
  obtain ⟨c, tail, rfl, hc, _, _⟩ := writeChars_cons hv h
  exact skipSpace_cons hc _

/-- The value is read back from the front of a text that does not go on with it. -/
def ReadsBack (alone : Except Stop Char) (v : Value) : Prop :=
  ∀ (cs rest : List Char) (fuel : Nat), writeChars v = .ok cs → Ends rest → 2 * cs.length ≤ fuel →
    readValue alone fuel (cs ++ rest) = .ok (v.listed, rest)

theorem writeItems_cons {v : Value} {vs : List Value} {body : List Char} (h : writeItems (v :: vs) = .ok body) :
    ∃ first others, writeChars v = .ok first ∧ writeItems vs = .ok others ∧ body = ',' :: first ++ others := by
  obtain ⟨first, hfirst, h⟩ := except_bind_ok.1 h
  obtain ⟨others, hothers, h⟩ := except_bind_ok.1 h
  cases h
  exact ⟨first, others, hfirst, hothers, rfl⟩

theorem writeEntries_cons {k : String} {v : Value} {entries : List (String × Value)} {body : List Char}
    (h : writeEntries ((k, v) :: entries) = .ok body) : ∃ first others, writeChars v = .ok first ∧
      writeEntries entries = .ok others ∧ body = ',' :: writeText k ++ ':' :: first ++ others := by
  obtain ⟨first, hfirst, h⟩ := except_bind_ok.1 h
  obtain ⟨others, hothers, h⟩ := except_bind_ok.1 h
  cases h
  exact ⟨first, others, hfirst, hothers, rfl⟩

theorem ends_items {vs : List Value} {body : List Char} (h : writeItems vs = .ok body) (rest : List Char) :
    Ends (body ++ ']' :: rest) := by
  cases vs with
  | nil =>
    cases h
    exact ends_cons _ (by decide)
  | cons v vs =>
    obtain ⟨_, _, _, _, rfl⟩ := writeItems_cons h
    exact ends_cons _ (by decide)

theorem ends_entries {entries : List (String × Value)} {body : List Char} (h : writeEntries entries = .ok body)
    (rest : List Char) : Ends (body ++ '}' :: rest) := by
  cases entries with
  | nil =>
    cases h
    exact ends_cons _ (by decide)
  | cons e entries =>
    obtain ⟨_, _, _, _, rfl⟩ := writeEntries_cons h
    exact ends_cons _ (by decide)

theorem readItems_write {v : Value} {vs : List Value} (hplain : ∀ u ∈ vs, u.Plain) (hv : ReadsBack alone v)
    (hvs : ∀ u ∈ vs, ReadsBack alone u) {first others : List Char} (hfirst : writeChars v = .ok first)
    (hothers : writeItems vs = .ok others) (fuel : Nat) (hf : 2 * (first.length + 1 + others.length) ≤ fuel)
    (rest : List Char) :
    readItems alone fuel (first ++ (others ++ ']' :: rest)) = .ok (v.listed :: Value.listedItems vs, rest) := by
  induction vs generalizing v first others fuel with
  | nil =>
    cases fuel with
    | zero => omega
    | succ fuel =>
      cases hothers
      have hread := hv first (']' :: rest) fuel hfirst (ends_cons _ (by decide)) (by simp at hf; omega)
      exact except_bind_ok.2 ⟨_, hread, rfl⟩
  | cons u us ih =>
    cases fuel with
    | zero => omega
    | succ fuel =>
      obtain ⟨hu, hus⟩ := List.forall_mem_cons.1 hvs
      obtain ⟨huplain, husplain⟩ := List.forall_mem_cons.1 hplain
      have hends := ends_items hothers rest
      obtain ⟨second, more, hsecond, hmore, rfl⟩ := writeItems_cons hothers
      simp only [List.cons_append, List.length_cons, List.length_append] at hf
      have hread := hv first _ fuel hfirst hends (by omega)
      have htail := ih husplain hu hus hsecond hmore fuel (by omega)
      have hbody : ',' :: second ++ more ++ ']' :: rest = ',' :: (second ++ (more ++ ']' :: rest)) := by simp
      rw [hbody] at hread ⊢
      rw [← skipSpace_write huplain hsecond] at htail
      exact except_bind_ok.2 ⟨_, hread, except_bind_ok.2 ⟨_, htail, rfl⟩⟩

/-- The first of the entries is read, and what is behind it decides. -/
theorem readEntries_entry (k : String) {v : Value} (hplain : v.Plain) (hv : ReadsBack alone v) {first : List Char}
    (hfirst : writeChars v = .ok first) {fuel : Nat} (hf : 2 * ((writeText k).length + 1 + first.length) ≤ fuel + 1)
    {rest : List Char} (hr : Ends rest) {result : List (String × Value) × List Char}
    (h : (match skipSpace rest with
      | '}' :: rest => pure ([(k, v.listed)], rest)
      | ',' :: rest => do
        let (others, rest) ← readEntries alone fuel (skipSpace rest)
        pure ((k, v.listed) :: others, rest)
      | rest => stopAt .comma rest) = .ok result) :
    readEntries alone (fuel + 1) (writeText k ++ ':' :: (first ++ rest)) = .ok result := by
  have hlength := length_lt_writeText k
  have hread := hv first rest fuel hfirst hr (by omega)
  rw [← skipSpace_write hplain hfirst] at hread
  rw [writeText_append]
  have hname : ∀ opening, textBody alone opening fuel (k.toList.flatMap escapeChar ++ '"' :: ':' :: (first ++ rest)) =
      .ok (k.toList, ':' :: (first ++ rest)) := fun opening => textBody_write opening fuel k.toList _ (by omega)
  refine except_bind_ok.2 ⟨_, hname _, except_bind_ok.2 ⟨_, hread, ?_⟩⟩
  rw [String.ofList_toList]
  exact h

theorem readEntries_write {k : String} {v : Value} {entries : List (String × Value)} (hplain : v.Plain)
    (hplains : ∀ e ∈ entries, e.2.Plain) (hv : ReadsBack alone v) (hvs : ∀ e ∈ entries, ReadsBack alone e.2)
    {first others : List Char} (hfirst : writeChars v = .ok first) (hothers : writeEntries entries = .ok others)
    (fuel : Nat) (hf : 2 * ((writeText k).length + 1 + first.length + 1 + others.length) ≤ fuel) (rest : List Char) :
    readEntries alone fuel (writeText k ++ ':' :: (first ++ (others ++ '}' :: rest))) =
      .ok ((k, v.listed) :: Value.listedEntries entries, rest) := by
  induction entries generalizing k v first others fuel with
  | nil =>
    cases fuel with
    | zero => omega
    | succ fuel =>
      cases hothers
      exact readEntries_entry k hplain hv hfirst (by omega) (ends_cons _ (by decide)) rfl
  | cons e entries ih =>
    cases fuel with
    | zero => omega
    | succ fuel =>
      obtain ⟨key, u⟩ := e
      obtain ⟨hu, hus⟩ := List.forall_mem_cons.1 hvs
      obtain ⟨huplain, husplain⟩ := List.forall_mem_cons.1 hplains
      have hends := ends_entries hothers rest
      obtain ⟨second, more, hsecond, hmore, rfl⟩ := writeEntries_cons hothers
      simp only [List.cons_append, List.length_cons, List.length_append] at hf
      have htail := ih (k := key) huplain husplain hu hus hsecond hmore fuel (by omega)
      have hbody : ',' :: writeText key ++ ':' :: second ++ more ++ '}' :: rest =
          ',' :: (writeText key ++ ':' :: (second ++ (more ++ '}' :: rest))) := by simp
      rw [hbody] at hends ⊢
      exact readEntries_entry k hplain hv hfirst (by omega) hends (except_bind_ok.2 ⟨_, htail, rfl⟩)

theorem readValue_list {fuel : Nat} {c : Char} {tail rest : List Char} {items : List Value} (hs : isSpace c = false)
    (hc : c ≠ ']') (h : readItems alone fuel (c :: tail) = .ok (items, rest)) :
    readValue alone (fuel + 1) ('[' :: c :: tail) = .ok (.list items, rest) := by
  rw [readValue, skipSpace_cons hs]
  split
  · next heq => exact absurd (List.cons.inj heq).1 hc
  · exact except_bind_ok.2 ⟨_, h, rfl⟩

/-- What begins like a whole number is no text, list or object. -/
theorem readValue_scalar {c : Char} (hc : c = '-' ∨ c.isDigit = true) (fuel : Nat) (tail : List Char) :
    readValue alone (fuel + 1) (c :: tail) = scalar (c :: tail) := by
  have hne : ∀ d : Char, d ≠ '-' → d.isDigit = false → c ≠ d := by
    rintro d hd hdigit rfl
    rcases hc with rfl | hc
    · exact hd rfl
    · exact ne_of_isDigit hc hdigit rfl
  unfold readValue
  split
  · next heq => cases heq
  · next heq => exact absurd (List.cons.inj heq).1 (hne _ (by decide) (by decide))
  · next heq => exact absurd (List.cons.inj heq).1 (hne _ (by decide) (by decide))
  · next heq => exact absurd (List.cons.inj heq).1 (hne _ (by decide) (by decide))
  · rfl

theorem readsBack_list (s : Sequence) {items : List Value} (hplain : ∀ x ∈ items, x.Plain)
    (h : ∀ x ∈ items, ReadsBack alone x) : ReadsBack alone (.arr s items) := by
  intro cs rest fuel hw _ hf
  obtain ⟨body, hbody, hcs⟩ := except_bind_ok.1 hw
  cases hcs
  cases fuel with
  | zero => simp at hf
  | succ fuel =>
    cases items with
    | nil =>
      cases hbody
      rfl
    | cons v vs =>
      obtain ⟨hv, hvs⟩ := List.forall_mem_cons.1 h
      obtain ⟨hvplain, hvsplain⟩ := List.forall_mem_cons.1 hplain
      obtain ⟨first, others, hfirst, hothers, rfl⟩ := writeItems_cons hbody
      simp only [List.cons_append, List.drop_succ_cons, List.drop_zero, List.length_cons, List.length_append,
        List.length_nil] at hf
      have hitems := readItems_write hvsplain hv hvs hfirst hothers fuel (by omega) rest
      obtain ⟨c, tail, rfl, hs, hc, _⟩ := writeChars_cons hvplain hfirst
      have htext : '[' :: (',' :: (c :: tail) ++ others).drop 1 ++ [']'] ++ rest =
          '[' :: c :: (tail ++ (others ++ ']' :: rest)) := by simp
      rw [htext]
      exact readValue_list hs hc hitems

theorem readsBack_object {entries : List (String × Value)} (hk : (entries.map Prod.fst).Nodup)
    (hplain : ∀ e ∈ entries, e.2.Plain) (h : ∀ e ∈ entries, ReadsBack alone e.2) : ReadsBack alone (.obj entries) := by
  intro cs rest fuel hw _ hf
  obtain ⟨body, hbody, hcs⟩ := except_bind_ok.1 hw
  cases hcs
  cases fuel with
  | zero => simp at hf
  | succ fuel =>
    cases entries with
    | nil =>
      cases hbody
      rfl
    | cons e entries =>
      obtain ⟨k, v⟩ := e
      obtain ⟨hv, hvs⟩ := List.forall_mem_cons.1 h
      obtain ⟨hvplain, hvsplain⟩ := List.forall_mem_cons.1 hplain
      obtain ⟨first, others, hfirst, hothers, rfl⟩ := writeEntries_cons hbody
      simp only [List.cons_append, List.drop_succ_cons, List.drop_zero, List.length_cons, List.length_append,
        List.length_nil] at hf
      have hentries := readEntries_write (k := k) hvplain hvsplain hv hvs hfirst hothers fuel (by omega) rest
      have htext : '{' :: (',' :: writeText k ++ ':' :: first ++ others).drop 1 ++ ['}'] ++ rest =
          '{' :: (writeText k ++ ':' :: (first ++ (others ++ '}' :: rest))) := by simp
      rw [← Value.keys_listedEntries] at hk
      rw [htext]
      rw [writeText_append] at hentries ⊢
      refine except_bind_ok.2 ⟨_, hentries, ?_⟩
      show Except.ok (Value.obj (Entries.merge [] (Value.listedEntries ((k, v) :: entries))), rest) = _
      rw [Entries.merge_nil hk]
      rfl

theorem readsBack {v : Value} (hv : v.Plain) : ReadsBack alone v := by
  induction hv with
  | arr s hplain ih => exact readsBack_list s hplain ih
  | obj hk hplain ih => exact readsBack_object hk hplain ih
  | str s =>
    intro cs rest fuel hw _ hf
    cases hw
    have hlength := length_lt_writeText s
    cases fuel with
    | zero => omega
    | succ fuel =>
      rw [writeText_append]
      refine except_bind_ok.2 ⟨_, textBody_write _ _ s.toList rest (by omega), ?_⟩
      show Except.ok (Value.str (String.ofList s.toList), rest) = _
      rw [String.ofList_toList]
      rfl
  | @int n hn =>
    intro cs rest fuel hw hr hf
    have hwrite : writeChars (.int n) = .ok (writeInt n) := if_pos hn
    rw [hwrite] at hw
    cases hw
    have hscalar := scalar_writeInt hn hr
    obtain ⟨c, tail, hcons, hc⟩ := writeInt_cons n
    rw [hcons] at hf hscalar ⊢
    cases fuel with
    | zero => simp at hf
    | succ fuel => exact (readValue_scalar hc fuel _).trans hscalar
  | null =>
    intro cs rest fuel hw _ hf
    cases hw
    cases fuel with
    | zero => simp at hf
    | succ fuel => rfl
  | bool b =>
    intro cs rest fuel hw _ hf
    cases fuel with
    | zero => cases b <;> cases hw <;> simp at hf
    | succ fuel => cases b <;> cases hw <;> rfl

/-! ## Documents -/

theorem readDocument_write {v : Value} (hv : v.Plain) {cs : List Char} (h : writeChars v = .ok cs) :
    readDocument alone cs = .ok v.listed := by
  have hback : ReadsBack alone v := readsBack hv
  have hread := hback cs [] (2 * cs.length + 1) h ends_nil (by omega)
  have hskip := skipSpace_write hv h []
  rw [List.append_nil] at hread hskip
  obtain ⟨c, tail, rfl, _, _, hmark⟩ := writeChars_cons hv h
  unfold readDocument
  split
  · next heq => exact absurd (List.cons.inj heq).1 hmark
  · rw [hskip]
    exact except_bind_ok.2 ⟨_, hread, rfl⟩

/-- What is written is read back, with lists in place of tuples. -/
theorem readChars_write {v : Value} (hv : v.Plain) {cs : List Char} (h : writeChars v = .ok cs) :
    readChars cs = .ok v.listed := by
  rw [readChars, readDocument_write hv h, readDocument_write hv h]
  rfl

/-- Values that are written to the same text differ in nothing but their tuples. -/
theorem listed_eq_of_write {v w : Value} (hv : v.Plain) (hw : w.Plain) {cs : List Char} (h : writeChars v = .ok cs)
    (h' : writeChars w = .ok cs) : v.listed = w.listed :=
  Except.ok.inj ((readChars_write hv h).symm.trans (readChars_write hw h'))

mutual

/-- A tuple is written like a list. -/
theorem writeChars_listed : ∀ v : Value, writeChars v.listed = writeChars v
  | .arr _ items => by simp only [Value.listed, writeChars, writeItems_listed items]
  | .obj entries => by simp only [Value.listed, writeChars, writeEntries_listed entries]
  | .null | .bool _ | .num _ | .str _ | .foreign _ _ => rfl

theorem writeItems_listed : ∀ items : List Value, writeItems (Value.listedItems items) = writeItems items
  | [] => rfl
  | v :: rest => by simp only [Value.listedItems, writeItems, writeChars_listed v, writeItems_listed rest]

theorem writeEntries_listed : ∀ entries : List (String × Value),
    writeEntries (Value.listedEntries entries) = writeEntries entries
  | [] => rfl
  | (k, v) :: rest => by simp only [Value.listedEntries, writeEntries, writeChars_listed v, writeEntries_listed rest]

end

end Json

end Conformance
