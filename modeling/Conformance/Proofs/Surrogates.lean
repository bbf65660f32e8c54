import Conformance.Json.Reader
import Conformance.Proofs.Run
import Mathlib.Algebra.Group.Nat.Defs
import Mathlib.Data.List.TakeDrop
/-!
# Surrogates that stand alone

Reading stops at a surrogate only where the text spells one: behind a backslash and a `u`. To see this, what each
part of the reader leaves is followed: it is always the end of what the part was given.
-/

namespace Conformance

namespace Text

theorem hexValue?_lt {c : Char} {n : Nat} (h : hexValue? c = some n) : n < 16 := by
  unfold hexValue? at h
  split at h
  · next hd =>
    cases h
    simp only [Char.isDigit, ge_iff_le, Bool.and_eq_true, decide_eq_true_eq, UInt32.le_iff_toNat_le] at hd
    have hle : c.toNat ≤ 57 := hd.2
    have hzero : '0'.toNat = 48 := rfl
    omega
  · split at h
    · next hd =>
      cases h
      have hle : c.toNat ≤ 102 := hd.2
      have ha : 'a'.toNat = 97 := rfl
      omega
    · split at h
      · next hd =>
        cases h
        have hle : c.toNat ≤ 70 := hd.2
        have ha : 'A'.toNat = 65 := rfl
        omega
      · cases h

theorem hexNumber?_lt {cs : List Char} {n : Nat} (h : hexNumber? cs = some n) : n < 16 ^ cs.length := by
  -- with what has been read before in front
  have hfold : ∀ (cs : List Char) (a : Nat), cs.foldlM (fun n c => (hexValue? c).map (16 * n + ·)) a = some n →
      n < 16 ^ cs.length * (a + 1) := by
    intro cs
    induction cs with
    | nil =>
      intro a h
      cases h
      simp
    | cons c cs ih =>
      intro a h
      obtain ⟨b, hb, h⟩ := Option.bind_eq_some_iff.1 h
      obtain ⟨d, hd, rfl⟩ := Option.map_eq_some_iff.1 hb
      have hdigit := hexValue?_lt hd
      calc n
        _ < 16 ^ cs.length * (16 * a + d + 1) := ih _ h
        _ ≤ 16 ^ cs.length * (16 * (a + 1)) := Nat.mul_le_mul_left _ (by omega)
        _ = 16 ^ (cs.length + 1) * (a + 1) := by rw [pow_succ, Nat.mul_assoc]
  have hlt := hfold cs 0 h
  rwa [Nat.zero_add, Nat.mul_one] at hlt

end Text

namespace Json

/-- Somewhere in the text a surrogate is spelled by the four digits of an escape. -/
def SpellsSurrogate (cs : List Char) : Prop :=
  ∃ before digits after n, cs = before ++ '\\' :: 'u' :: (digits ++ after) ∧ digits.length = 4 ∧
    Text.hexNumber? digits = some n ∧ (isHighSurrogate n = true ∨ isLowSurrogate n = true)

variable {α β : Type} {alone : Except Stop Char} {cs rest : List Char}

theorem SpellsSurrogate.of_suffix (h : rest <:+ cs) (hs : SpellsSurrogate rest) : SpellsSurrogate cs := by
  obtain ⟨front, rfl⟩ := h
  obtain ⟨before, digits, after, n, rfl, hn⟩ := hs
  exact ⟨front ++ before, digits, after, n, by rw [List.append_assoc], hn⟩

/-! ## Answers of the reader -/

/-- What is left is the end of the text, and where reading stops at a surrogate, the text spells one. -/
inductive Within (cs : List Char) : Except Stop (α × List Char) → Prop
  | read {rest : List Char} (a : α) (h : rest <:+ cs) : Within cs (.ok (a, rest))
  | stop {e : Stop} (h : e = .surrogate → SpellsSurrogate cs) : Within cs (.error e)

theorem Within.of_suffix {r : Except Stop (α × List Char)} (h : rest <:+ cs) (hr : Within rest r) : Within cs r := by
  cases hr with
  | read a hr => exact .read a (hr.trans h)
  | stop hs => exact .stop fun he => (hs he).of_suffix h

theorem Within.bind {r : Except Stop (α × List Char)} {f : α × List Char → Except Stop (β × List Char)}
    (hr : Within cs r) (hf : ∀ a rest, Within rest (f (a, rest))) : Within cs (r >>= f) := by
  cases hr with
  | @read rest a hr => exact (hf a rest).of_suffix hr
  | stop hs => exact .stop hs

theorem within_stopAt (what : Fault) (rest : List Char) : Within cs (stopAt what rest : Except Stop (α × List Char)) :=
  .stop nofun

/-! ## Texts -/

theorem unicodeNumber_ok {n : Nat} (h : unicodeNumber ('u' :: cs) = .ok (n, rest)) :
    ∃ digits, cs = digits ++ rest ∧ digits.length = 4 ∧ Text.hexNumber? digits = some n := by
  unfold unicodeNumber at h
  dsimp only at h
  split at h
  · cases h
  · next hd =>
    split at h
    · next m hm =>
      cases h
      refine ⟨cs.take 4, (List.take_append_drop 4 cs).symm, ?_, hm⟩
      simp only [List.drop_succ_cons, List.drop_zero, Bool.or_eq_true, decide_eq_true_eq, not_or] at hd
      have hle := List.length_take_le 4 cs
      omega
    · cases h

theorem unicodeNumber_ne (cs : List Char) : unicodeNumber cs ≠ .error .surrogate := by
  intro h
  unfold unicodeNumber at h
  dsimp only at h
  split at h
  · cases h
  · split at h <;> cases h

theorem charOf_surrogate {n : Nat} (hn : n < 0x10000) (h : charOf alone n = .error .surrogate) :
    isHighSurrogate n = true ∨ isLowSurrogate n = true := by
  have hv : ¬ n.isValidChar := by
    intro hv
    rw [charOf, dif_pos hv] at h
    cases h
  simp only [Nat.isValidChar, not_or, not_and, Nat.not_lt] at hv
  simp only [isHighSurrogate, isLowSurrogate, Bool.and_eq_true, decide_eq_true_eq]
  omega

/-- The two halves of a pair are a character. -/
theorem within_pair {high low : Nat} (hh : isHighSurrogate high = true) (hl : isLowSurrogate low = true)
    (hr : rest <:+ cs) : Within cs (do pure (← charOf alone (pairSurrogates high low), rest)) := by
  simp only [isHighSurrogate, isLowSurrogate, Bool.and_eq_true, decide_eq_true_eq] at hh hl
  have hlow : 0xdfff < pairSurrogates high low := by unfold pairSurrogates; omega
  have hhigh : pairSurrogates high low < 0x110000 := by unfold pairSurrogates; omega
  generalize pairSurrogates high low = n at hlow hhigh
  rw [charOf, dif_pos (Or.inr ⟨hlow, hhigh⟩)]
  exact .read _ hr

/-- A number that is no character is that of a surrogate, and it has been spelled. -/
theorem within_charOf {digits : List Char} {n : Nat} (hd : digits.length = 4) (hn : Text.hexNumber? digits = some n)
    (after : List Char) : Within ('\\' :: 'u' :: (digits ++ after)) (do pure (← charOf alone n, after)) := by
  cases hc : charOf alone n with
  | ok c => exact .read c ⟨'\\' :: 'u' :: digits, rfl⟩
  | error e =>
    refine .stop ?_
    rintro rfl
    have hlt := Text.hexNumber?_lt hn
    rw [hd] at hlt
    exact ⟨[], digits, after, n, rfl, hd, hn, charOf_surrogate hlt hc⟩

theorem within_unicodeEscape (cs : List Char) : Within ('\\' :: 'u' :: cs) (unicodeEscape alone ('u' :: cs)) := by
  unfold unicodeEscape
  cases hn : unicodeNumber ('u' :: cs) with
  | error e => exact .stop fun he => absurd (he ▸ hn) (unicodeNumber_ne _)
  | ok read =>
    obtain ⟨high, rest⟩ := read
    obtain ⟨digits, rfl, hd, hhigh⟩ := unicodeNumber_ok hn
    have halone : ∀ after, Within ('\\' :: 'u' :: (digits ++ after)) (do pure (← charOf alone high, after)) :=
      within_charOf hd hhigh
    show Within _ (pure (high, rest) >>= _)
    rw [pure_bind]
    dsimp only
    split
    · next more =>
      split
      · next hpair =>
        cases hl : unicodeNumber ('u' :: more) with
        | error e => exact .stop fun he => absurd (he ▸ hl) (unicodeNumber_ne _)
        | ok read =>
          obtain ⟨low, rest'⟩ := read
          obtain ⟨digits', rfl, _, _⟩ := unicodeNumber_ok hl
          show Within _ (pure (low, rest') >>= _)
          rw [pure_bind]
          dsimp only
          split
          · next hlow =>
            have hsuffix : rest' <:+ '\\' :: 'u' :: (digits ++ '\\' :: 'u' :: (digits' ++ rest')) :=
              ⟨'\\' :: 'u' :: (digits ++ '\\' :: 'u' :: digits'), by simp⟩
            rw [Bool.and_eq_true] at hpair
            exact within_pair hpair.1 hlow hsuffix
          · exact halone _
      · exact halone _
    · exact halone _

theorem within_escaped (opening cs : List Char) : Within ('\\' :: cs) (escaped alone opening ('\\' :: cs)) := by
  unfold escaped
  split
  · exact within_stopAt _ _
  · next rest h =>
    cases h
    exact within_unicodeEscape rest
  · next c rest _ h =>
    cases h
    split
    · next d _ => exact .read d ⟨['\\', c], rfl⟩
    · exact within_stopAt _ _

theorem within_textBody (opening : List Char) (fuel : Nat) (cs : List Char) :
    Within cs (textBody alone opening fuel cs) := by
  induction fuel generalizing cs with
  | zero => exact within_stopAt _ _
  | succ fuel ih =>
    cases cs with
    | nil => exact within_stopAt _ _
    | cons c rest =>
      have hmore : ∀ (d : Char) (left : List Char), Within left (do
          let read ← textBody alone opening fuel left
          pure (d :: read.1, read.2)) := fun d left => (ih left).bind fun cs rest => .read _ (List.suffix_refl _)
      rw [textBody]
      split
      · exact .read _ (List.suffix_cons _ _)
      split
      · next hc =>
        subst hc
        exact (within_escaped opening rest).bind hmore
      split
      · exact within_stopAt _ _
      · exact (hmore c rest).of_suffix (List.suffix_cons _ _)

/-! ## Numbers -/

theorem digitsOf_suffix (cs : List Char) : (digitsOf cs).2 <:+ cs := by
  rw [digitsOf, List.span_eq_takeWhile_dropWhile]
  exact List.dropWhile_suffix _

theorem wholeDigits_suffix (cs : List Char) : (wholeDigits cs).2 <:+ cs := by
  unfold wholeDigits
  split
  · exact List.suffix_cons _ _
  · exact digitsOf_suffix cs

theorem fractionDigits_suffix (cs : List Char) : (fractionDigits cs).2 <:+ cs := by
  unfold fractionDigits
  split
  · next rest =>
    have hrest := digitsOf_suffix rest
    split
    · exact List.suffix_refl _
    · exact hrest.trans (List.suffix_cons _ _)
  · exact List.suffix_refl _

theorem exponentSign_suffix (cs : List Char) : (exponentSign cs).2 <:+ cs := by
  unfold exponentSign
  split
  · exact List.suffix_cons _ _
  · exact List.suffix_cons _ _
  · exact List.suffix_refl _

theorem exponentPart_suffix (cs : List Char) : (exponentPart cs).2 <:+ cs := by
  unfold exponentPart
  split
  · next c rest =>
    split
    · have hsign := exponentSign_suffix rest
      generalize exponentSign rest = read at hsign
      obtain ⟨negative, signed⟩ := read
      have hdigits := digitsOf_suffix signed
      dsimp only
      split
      · exact List.suffix_refl _
      · next digits left _ h =>
        rw [h] at hdigits
        exact (hdigits.trans hsign).trans (List.suffix_cons _ _)
    · exact List.suffix_refl _
  · exact List.suffix_refl _

theorem numeral?_suffix {n : Numeral} (h : numeral? cs = some (n, rest)) : rest <:+ cs := by
  unfold numeral? at h
  dsimp only at h
  split at h
  · cases h
  · next whole left _ hread =>
    cases h
    have hwhole := congrArg Prod.snd hread ▸ wholeDigits_suffix _
    refine (exponentPart_suffix _).trans ((fractionDigits_suffix left).trans (hwhole.trans ?_))
    split
    · exact List.suffix_cons _ _
    · exact List.suffix_refl _

theorem number_ne (n : Numeral) : n.number ≠ .error .surrogate := by
  intro h
  unfold Numeral.number at h
  split at h
  · split at h <;> cases h
  · cases h

theorem word?_suffix {v : Value} (h : word? cs = some (v, rest)) : rest <:+ cs := by
  obtain ⟨⟨w, u⟩, _, h⟩ := Option.map_eq_some_iff.1 h
  cases h
  exact List.drop_suffix _ _

/-! ## Values -/

theorem within_scalar (cs : List Char) : Within cs (scalar cs) := by
  unfold scalar
  split
  · next read h =>
    obtain ⟨v, rest⟩ := read
    exact .read v (word?_suffix h)
  · split
    · next n rest h =>
      cases hn : n.number with
      | ok m => exact .read _ (numeral?_suffix h)
      | error e => exact .stop fun he => absurd (he ▸ hn) (number_ne n)
    · exact within_stopAt _ _

theorem skipSpace_suffix (cs : List Char) : skipSpace cs <:+ cs := List.dropWhile_suffix _

/-- What is found behind some space is the end of the text. -/
theorem of_skipSpace {c : Char} {more : List Char} (h : skipSpace cs = c :: more) : more <:+ cs :=
  (List.suffix_cons c more).trans (h ▸ skipSpace_suffix cs)

mutual

theorem within_readValue (fuel : Nat) (cs : List Char) : Within cs (readValue alone fuel cs) := by
  unfold readValue
  split
  · exact within_stopAt _ _
  · next fuel rest =>
    refine Within.of_suffix (List.suffix_cons _ rest) ((within_textBody _ fuel rest).bind fun cs left => ?_)
    exact .read _ (List.suffix_refl _)
  · next fuel rest =>
    refine Within.of_suffix (List.suffix_cons _ rest) ?_
    split
    · next h => exact .read _ (of_skipSpace h)
    · refine ((within_readItems fuel _).bind fun items left => ?_).of_suffix (skipSpace_suffix rest)
      exact .read _ (List.suffix_refl _)
  · next fuel rest =>
    refine Within.of_suffix (List.suffix_cons _ rest) ?_
    split
    · next h => exact .read _ (of_skipSpace h)
    · refine ((within_readEntries fuel _).bind fun entries left => ?_).of_suffix (skipSpace_suffix rest)
      exact .read _ (List.suffix_refl _)
  · exact within_scalar cs

theorem within_readItems (fuel : Nat) (cs : List Char) : Within cs (readItems alone fuel cs) := by
  unfold readItems
  split
  · exact within_stopAt _ _
  · next fuel =>
    refine (within_readValue fuel cs).bind fun v left => ?_
    dsimp only
    split
    · next h => exact .read _ (of_skipSpace h)
    · next more h =>
      refine Within.of_suffix ((skipSpace_suffix more).trans (of_skipSpace h)) ?_
      exact (within_readItems fuel _).bind fun others left => .read _ (List.suffix_refl _)
    · exact within_stopAt _ _

theorem within_readEntries (fuel : Nat) (cs : List Char) : Within cs (readEntries alone fuel cs) := by
  unfold readEntries
  split
  · exact within_stopAt _ _
  · next fuel rest =>
    refine Within.of_suffix (List.suffix_cons _ rest) ((within_textBody _ fuel rest).bind fun name left => ?_)
    dsimp only
    split
    · next more h =>
      refine Within.of_suffix ((skipSpace_suffix more).trans (of_skipSpace h)) ?_
      refine (within_readValue fuel _).bind fun v left => ?_
      dsimp only
      split
      · next h => exact .read _ (of_skipSpace h)
      · next more h =>
        refine Within.of_suffix ((skipSpace_suffix more).trans (of_skipSpace h)) ?_
        exact (within_readEntries fuel _).bind fun others left => .read _ (List.suffix_refl _)
      · exact within_stopAt _ _
    · exact within_stopAt _ _
  · exact within_stopAt _ _

end

theorem spellsSurrogate_of_readDocument (h : readDocument alone cs = .error .surrogate) : SpellsSurrogate cs := by
  unfold readDocument at h
  split at h
  · cases h
  · have hread : Within cs (readValue alone (2 * cs.length + 1) (skipSpace cs)) :=
      (within_readValue _ _).of_suffix (skipSpace_suffix cs)
    generalize readValue alone (2 * cs.length + 1) (skipSpace cs) = r at hread h
    cases hread with
    | read v _ =>
      dsimp only [bind, Except.bind] at h
      split at h <;> cases h
    | stop hs =>
      cases h
      exact hs rfl

theorem Stop.of_error_surrogate {stop : Stop} (h : stop.error cs = .surrogate) : stop = .surrogate := by
  cases stop <;> first | rfl | cases h

/-- Reading stops at a surrogate only if the text spells one. -/
theorem spellsSurrogate_of_read (h : readChars cs = .error .surrogate) : SpellsSurrogate cs := by
  have hspells : ∀ {alone}, (readDocument alone cs).mapError (Stop.error cs) = .error .surrogate →
      SpellsSurrogate cs := by
    intro alone h
    obtain ⟨stop, hstop, hs⟩ := mapError_error h
    exact spellsSurrogate_of_readDocument (hstop.trans (congrArg Except.error (Stop.of_error_surrogate hs.symm)))
  rcases except_bind_error.1 h with h | ⟨_, _, h⟩
  · exact hspells h
  · exact hspells h

end Json

end Conformance
