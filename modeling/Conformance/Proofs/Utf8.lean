import Conformance.Proofs.Run
import Conformance.Text.Utf8
/-!
# Decoding UTF-8

Decoding is the inverse of encoding: bytes decode to a text exactly if they are what the text is encoded to. So
no text is spelled in two ways, and the bytes that are refused are those that spell no text at all.
-/

namespace Conformance.Text

/-! ## Sequences -/

/-- The bytes complete a sequence to the number `n`: the first lies in the range that the sequence asks for, and
the others just continue it. -/
inductive Completes : (value owed low high : Nat) → List UInt8 → Nat → Prop
  | last {value low high : Nat} {b : UInt8} (hb : low ≤ b.toNat ∧ b.toNat ≤ high) :
    Completes value 1 low high [b] (64 * value + b.toNat % 64)
  | more {value owed low high n : Nat} {b : UInt8} {tail : List UInt8} (hb : low ≤ b.toNat ∧ b.toNat ≤ high)
    (h : Completes (64 * value + b.toNat % 64) (owed + 1) 0x80 0xbf tail n) :
    Completes value (owed + 2) low high (b :: tail) n

theorem Completes.single {value low high n : Nat} {tail : List UInt8} (h : Completes value 1 low high tail n) :
    ∃ b, tail = [b] ∧ (low ≤ b.toNat ∧ b.toNat ≤ high) ∧ n = 64 * value + b.toNat % 64 := by
  cases h with
  | last hb => exact ⟨_, rfl, hb, rfl⟩

theorem Completes.first {value owed low high n : Nat} {tail : List UInt8}
    (h : Completes value (owed + 2) low high tail n) : ∃ b rest, tail = b :: rest ∧
      (low ≤ b.toNat ∧ b.toNat ≤ high) ∧ Completes (64 * value + b.toNat % 64) (owed + 1) 0x80 0xbf rest n := by
  cases h with
  | more hb h => exact ⟨_, _, rfl, hb, h⟩

section Steps

variable {position first value owed low high : Nat} {byte b : UInt8} {bytes : List UInt8} {cs : List Char}

theorem decodeFrom_refused (hb : ¬ (low ≤ b.toNat ∧ b.toNat ≤ high)) :
    decodeFrom position (some ⟨first, byte, value, owed, low, high⟩) (b :: bytes) =
      .error ⟨.continuationByte, byte, first, position⟩ := if_neg hb

theorem decodeFrom_last (hb : low ≤ b.toNat ∧ b.toNat ≤ high) :
    decodeFrom position (some ⟨first, byte, value, 1, low, high⟩) (b :: bytes) =
      (Char.ofNat (64 * value + b.toNat % 64) :: ·) <$> decodeFrom (position + 1) none bytes := if_pos hb

theorem decodeFrom_more (hb : low ≤ b.toNat ∧ b.toNat ≤ high) :
    decodeFrom position (some ⟨first, byte, value, owed + 2, low, high⟩) (b :: bytes) =
      decodeFrom (position + 1) (some ⟨first, byte, 64 * value + b.toNat % 64, owed + 1, 0x80, 0xbf⟩) bytes :=
  if_pos hb

/-- In the middle of a sequence the bytes that are owed have to come first. -/
theorem decodeFrom_pending : decodeFrom position (some ⟨first, byte, value, owed + 1, low, high⟩) bytes = .ok cs ↔
    ∃ tail rest n cs', bytes = tail ++ rest ∧ cs = Char.ofNat n :: cs' ∧
      Completes value (owed + 1) low high tail n ∧ decodeFrom (position + tail.length) none rest = .ok cs' := by
  induction bytes generalizing position value owed low high with
  | nil =>
    constructor
    · intro h; cases h
    · rintro ⟨tail, rest, n, cs', hbytes, _, hn, _⟩
      obtain ⟨rfl, _⟩ := List.append_eq_nil_iff.1 hbytes.symm
      cases hn
  | cons b bytes ih =>
    constructor
    · intro h
      by_cases hb : low ≤ b.toNat ∧ b.toNat ≤ high
      · cases owed with
        | zero =>
          rw [decodeFrom_last hb] at h
          obtain ⟨cs', hcs, rfl⟩ := except_map_ok h
          exact ⟨[b], bytes, _, cs', rfl, rfl, .last hb, hcs⟩
        | succ owed =>
          rw [decodeFrom_more hb] at h
          obtain ⟨tail, rest, n, cs', rfl, rfl, hn, hcs⟩ := ih.1 h
          refine ⟨b :: tail, rest, n, cs', rfl, rfl, .more hb hn, ?_⟩
          rw [List.length_cons, Nat.add_comm tail.length, ← Nat.add_assoc]
          exact hcs
      · rw [decodeFrom_refused hb] at h
        cases h
    · rintro ⟨tail, rest, n, cs', hbytes, rfl, hn, hcs⟩
      cases hn with
      | last hb =>
        cases hbytes
        rw [List.length_singleton] at hcs
        rw [decodeFrom_last hb]
        show _ <$> decodeFrom (position + 1) none rest = _
        rw [hcs]
        rfl
      | more hb hn =>
        cases hbytes
        rw [decodeFrom_more hb]
        refine ih.2 ⟨_, rest, n, cs', rfl, rfl, hn, ?_⟩
        rw [List.length_cons, Nat.add_comm _ 1, ← Nat.add_assoc] at hcs
        exact hcs

end Steps

/-! ## First bytes -/

section Lead

variable {b : Nat}

theorem utf8Lead_one (h : b < 0x80) : utf8Lead b = some (b, 0, 0, 0) := if_pos h

theorem utf8Lead_two (h : 0xc2 ≤ b) (h' : b < 0xe0) : utf8Lead b = some (b - 0xc0, 1, 0x80, 0xbf) := by
  unfold utf8Lead
  rw [if_neg (by omega), if_neg (by omega), if_pos h']

/-- After the first byte of three a short number and a surrogate are ruled out. -/
theorem utf8Lead_three (h : 0xe0 ≤ b) (h' : b < 0xf0) : ∃ low high, utf8Lead b = some (b - 0xe0, 2, low, high) ∧
    ∀ x, low ≤ x ∧ x ≤ high ↔ (0x80 ≤ x ∧ x ≤ 0xbf) ∧ (b = 0xe0 → 0xa0 ≤ x) ∧ (b = 0xed → x ≤ 0x9f) := by
  unfold utf8Lead
  rw [if_neg (by omega), if_neg (by omega), if_neg (by omega)]
  split
  · next hb => exact ⟨0xa0, 0xbf, by rw [hb], fun x => by omega⟩
  split
  · next hb => exact ⟨0x80, 0x9f, by rw [hb], fun x => by omega⟩
  exact ⟨0x80, 0xbf, rfl, fun x => by omega⟩

/-- After the first byte of four a short number and one past the last character are ruled out. -/
theorem utf8Lead_four (h : 0xf0 ≤ b) (h' : b < 0xf5) : ∃ low high, utf8Lead b = some (b - 0xf0, 3, low, high) ∧
    ∀ x, low ≤ x ∧ x ≤ high ↔ (0x80 ≤ x ∧ x ≤ 0xbf) ∧ (b = 0xf0 → 0x90 ≤ x) ∧ (b = 0xf4 → x ≤ 0x8f) := by
  unfold utf8Lead
  rw [if_neg (by omega), if_neg (by omega), if_neg (by omega), if_neg (by omega), if_neg (by omega), if_neg (by omega)]
  split
  · next hb => exact ⟨0x90, 0xbf, by rw [hb], fun x => by omega⟩
  split
  · exact ⟨0x80, 0xbf, rfl, fun x => by omega⟩
  rw [if_pos (by omega)]
  exact ⟨0x80, 0x8f, by rw [show b = 0xf4 by omega], fun x => by omega⟩

theorem utf8Lead_none (h : 0x80 ≤ b ∧ b < 0xc2 ∨ 0xf5 ≤ b) : utf8Lead b = none := by
  unfold utf8Lead
  rw [if_neg (by omega)]
  split
  · rfl
  · repeat rw [if_neg (by omega)]

end Lead

/-! ## Characters -/

section Character

variable {b : UInt8} {tail : List UInt8} {c : Char}

/-- The first byte begins a sequence that the others complete to the character. -/
def Spells (b : UInt8) (tail : List UInt8) (c : Char) : Prop :=
  ∃ value owed low high n, utf8Lead b.toNat = some (value, owed, low, high) ∧ c = Char.ofNat n ∧
    (owed = 0 ∧ tail = [] ∧ n = value ∨ Completes value owed low high tail n)

theorem encodeChar_one (h : c.toNat < 0x80) : String.utf8EncodeChar c = [UInt8.ofNat c.toNat] :=
  if_pos (Nat.lt_succ_iff.1 h)

theorem encodeChar_two (h : 0x80 ≤ c.toNat) (h' : c.toNat < 0x800) :
    String.utf8EncodeChar c = [UInt8.ofNat (c.toNat / 64 % 32 + 0xc0), UInt8.ofNat (c.toNat % 64 + 0x80)] := by
  unfold String.utf8EncodeChar
  exact (if_neg (show ¬ c.toNat ≤ 0x7f by omega)).trans (if_pos (show c.toNat ≤ 0x7ff by omega))

theorem encodeChar_three (h : 0x800 ≤ c.toNat) (h' : c.toNat < 0x10000) :
    String.utf8EncodeChar c = [UInt8.ofNat (c.toNat / 4096 % 16 + 0xe0), UInt8.ofNat (c.toNat / 64 % 64 + 0x80),
      UInt8.ofNat (c.toNat % 64 + 0x80)] := by
  unfold String.utf8EncodeChar
  refine (if_neg (show ¬ c.toNat ≤ 0x7f by omega)).trans ?_
  exact (if_neg (show ¬ c.toNat ≤ 0x7ff by omega)).trans (if_pos (show c.toNat ≤ 0xffff by omega))

theorem encodeChar_four (h : 0x10000 ≤ c.toNat) :
    String.utf8EncodeChar c = [UInt8.ofNat (c.toNat / 262144 % 8 + 0xf0), UInt8.ofNat (c.toNat / 4096 % 64 + 0x80),
      UInt8.ofNat (c.toNat / 64 % 64 + 0x80), UInt8.ofNat (c.toNat % 64 + 0x80)] := by
  unfold String.utf8EncodeChar
  refine (if_neg (show ¬ c.toNat ≤ 0x7f by omega)).trans ?_
  exact (if_neg (show ¬ c.toNat ≤ 0x7ff by omega)).trans (if_neg (show ¬ c.toNat ≤ 0xffff by omega))

theorem toNat_char {n : Nat} (h : n.isValidChar) : (Char.ofNat n).toNat = n := by
  unfold Char.ofNat
  rw [dif_pos h]
  rfl

theorem byte_eq {n : Nat} (h : n = b.toNat) : UInt8.ofNat n = b := by
  rw [h, UInt8.ofNat_toNat]

theorem toNat_byte {n : Nat} (h : n < 256) : (UInt8.ofNat n).toNat = n := UInt8.toNat_ofNat_of_lt' h

/-- The bytes that spell a character are its encoding. -/
theorem encodeChar_of_spells (h : Spells b tail c) : String.utf8EncodeChar c = b :: tail := by
  obtain ⟨value, owed, low, high, n, hlead, rfl, hn⟩ := h
  have hb := UInt8.toNat_lt b
  -- the class of the first byte says how many others there are
  by_cases h₁ : b.toNat < 0x80
  · rw [utf8Lead_one h₁] at hlead
    cases hlead
    obtain ⟨_, rfl, rfl⟩ | hn := hn
    · have hc := toNat_char (.inl (by omega : b.toNat < 0xd800))
      rw [encodeChar_one (by omega), hc, UInt8.ofNat_toNat]
    · cases hn
  by_cases h₂ : b.toNat < 0xc2
  · rw [utf8Lead_none (.inl ⟨by omega, h₂⟩)] at hlead
    cases hlead
  by_cases h₃ : b.toNat < 0xe0
  · rw [utf8Lead_two (by omega) h₃] at hlead
    simp only [Option.some.injEq, Prod.mk.injEq] at hlead
    obtain ⟨rfl, rfl, rfl, rfl⟩ := hlead
    obtain ⟨h, _⟩ | hn := hn
    · cases h
    obtain ⟨b₁, rfl, hb₁, rfl⟩ := hn.single
    have hc := toNat_char (.inl (by omega : 64 * (b.toNat - 0xc0) + b₁.toNat % 64 < 0xd800))
    rw [encodeChar_two (by omega) (by omega), hc]
    rw [byte_eq (b := b) (by omega), byte_eq (b := b₁) (by omega)]
  by_cases h₄ : b.toNat < 0xf0
  · obtain ⟨low, high, hlead', hrange⟩ := utf8Lead_three (by omega) h₄
    rw [hlead'] at hlead
    simp only [Option.some.injEq, Prod.mk.injEq] at hlead
    obtain ⟨rfl, rfl, rfl, rfl⟩ := hlead
    obtain ⟨h, _⟩ | hn := hn
    · cases h
    obtain ⟨b₁, _, rfl, hb₁, hn⟩ := hn.first
    obtain ⟨b₂, rfl, hb₂, rfl⟩ := hn.single
    obtain ⟨hb₁, hlow, hhigh⟩ := (hrange _).1 hb₁
    have hc := toNat_char (n := 64 * (64 * (b.toNat - 0xe0) + b₁.toNat % 64) + b₂.toNat % 64)
      (by unfold Nat.isValidChar; omega)
    rw [encodeChar_three (by omega) (by omega), hc]
    rw [byte_eq (b := b) (by omega), byte_eq (b := b₁) (by omega), byte_eq (b := b₂) (by omega)]
  by_cases h₅ : b.toNat < 0xf5
  · obtain ⟨low, high, hlead', hrange⟩ := utf8Lead_four (by omega) h₅
    rw [hlead'] at hlead
    simp only [Option.some.injEq, Prod.mk.injEq] at hlead
    obtain ⟨rfl, rfl, rfl, rfl⟩ := hlead
    obtain ⟨h, _⟩ | hn := hn
    · cases h
    obtain ⟨b₁, _, rfl, hb₁, hn⟩ := hn.first
    obtain ⟨b₂, _, rfl, hb₂, hn⟩ := hn.first
    obtain ⟨b₃, rfl, hb₃, rfl⟩ := hn.single
    obtain ⟨hb₁, hlow, hhigh⟩ := (hrange _).1 hb₁
    have hc := toNat_char (n := 64 * (64 * (64 * (b.toNat - 0xf0) + b₁.toNat % 64) + b₂.toNat % 64) + b₃.toNat % 64)
      (by unfold Nat.isValidChar; omega)
    rw [encodeChar_four (by omega), hc]
    rw [byte_eq (b := b) (by omega), byte_eq (b := b₁) (by omega), byte_eq (b := b₂) (by omega),
      byte_eq (b := b₃) (by omega)]
  · rw [utf8Lead_none (.inr (by omega))] at hlead
    cases hlead

section Numbers

variable {value owed low high m n : Nat} {tail : List UInt8}

theorem completes_byte (h : low ≤ m ∧ m ≤ high) (hm : m < 256) (hn : 64 * value + m % 64 = n) :
    Completes value 1 low high [UInt8.ofNat m] n := by
  subst hn
  have hlast : Completes value 1 low high [UInt8.ofNat m] (64 * value + (UInt8.ofNat m).toNat % 64) :=
    .last (by rw [toNat_byte hm]; exact h)
  rwa [toNat_byte hm] at hlast

theorem completes_bytes (h : low ≤ m ∧ m ≤ high) (hm : m < 256)
    (hn : Completes (64 * value + m % 64) (owed + 1) 0x80 0xbf tail n) :
    Completes value (owed + 2) low high (UInt8.ofNat m :: tail) n := by
  refine .more ?_ ?_
  · rw [toNat_byte hm]; exact h
  · rw [toNat_byte hm]; exact hn

end Numbers

/-- The encoding of a character spells it. -/
theorem spells_encodeChar (c : Char) : ∃ b tail, String.utf8EncodeChar c = b :: tail ∧ Spells b tail c := by
  have hchar : c = Char.ofNat c.toNat := (Char.ofNat_toNat c).symm
  have hvalid : c.toNat < 0xd800 ∨ 0xdfff < c.toNat ∧ c.toNat < 0x110000 := c.valid
  by_cases h₁ : c.toNat < 0x80
  · have hlead : utf8Lead (UInt8.ofNat c.toNat).toNat = some (c.toNat, 0, 0, 0) := by
      rw [toNat_byte (by omega), utf8Lead_one h₁]
    exact ⟨_, _, encodeChar_one h₁, _, _, _, _, _, hlead, hchar, .inl ⟨rfl, rfl, rfl⟩⟩
  by_cases h₂ : c.toNat < 0x800
  · have hlead : utf8Lead (UInt8.ofNat (c.toNat / 64 % 32 + 0xc0)).toNat =
        some (c.toNat / 64 % 32, 1, 0x80, 0xbf) := by
      rw [toNat_byte (by omega), utf8Lead_two (by omega) (by omega), Nat.add_sub_cancel]
    refine ⟨_, _, encodeChar_two (by omega) h₂, _, _, _, _, _, hlead, hchar, .inr ?_⟩
    exact completes_byte (by omega) (by omega) (by omega)
  by_cases h₃ : c.toNat < 0x10000
  · obtain ⟨low, high, hb, hrange⟩ := utf8Lead_three (b := c.toNat / 4096 % 16 + 0xe0) (by omega) (by omega)
    have hlead : utf8Lead (UInt8.ofNat (c.toNat / 4096 % 16 + 0xe0)).toNat =
        some (c.toNat / 4096 % 16, 2, low, high) := by
      rw [toNat_byte (by omega), hb, Nat.add_sub_cancel]
    -- the second byte tells the number from a shorter one, and from a surrogate
    have hsecond := (hrange (c.toNat / 64 % 64 + 0x80)).2 (by omega)
    refine ⟨_, _, encodeChar_three (by omega) h₃, _, _, _, _, _, hlead, hchar, .inr ?_⟩
    refine completes_bytes hsecond (by omega) ?_
    exact completes_byte (by omega) (by omega) (by omega)
  · obtain ⟨low, high, hb, hrange⟩ := utf8Lead_four (b := c.toNat / 262144 % 8 + 0xf0) (by omega) (by omega)
    have hlead : utf8Lead (UInt8.ofNat (c.toNat / 262144 % 8 + 0xf0)).toNat =
        some (c.toNat / 262144 % 8, 3, low, high) := by
      rw [toNat_byte (by omega), hb, Nat.add_sub_cancel]
    have hsecond := (hrange (c.toNat / 4096 % 64 + 0x80)).2 (by omega)
    refine ⟨_, _, encodeChar_four (by omega), _, _, _, _, _, hlead, hchar, .inr ?_⟩
    refine completes_bytes hsecond (by omega) ?_
    refine completes_bytes (by omega) (by omega) ?_
    exact completes_byte (by omega) (by omega) (by omega)

theorem spells_iff : Spells b tail c ↔ b :: tail = String.utf8EncodeChar c := by
  constructor
  · intro h
    exact (encodeChar_of_spells h).symm
  · intro h
    obtain ⟨b', tail', he, hs⟩ := spells_encodeChar c
    rw [he] at h
    cases h
    exact hs

end Character

/-! ## Texts -/

section Text

variable {position : Nat} {bytes : List UInt8} {cs : List Char}

theorem decodeFrom_start (position : Nat) (b : UInt8) (bytes : List UInt8) :
    decodeFrom position none (b :: bytes) = match utf8Lead b.toNat with
      | none => .error ⟨.startByte, b, position, position + 1⟩
      | some (value, 0, _, _) => (Char.ofNat value :: ·) <$> decodeFrom (position + 1) none bytes
      | some (value, owed, low, high) =>
        decodeFrom (position + 1) (some ⟨position, b, value, owed, low, high⟩) bytes := rfl

/-- Outside of a sequence there is nothing, or a character and then more. -/
theorem decodeFrom_none : decodeFrom position none bytes = .ok cs ↔ bytes = [] ∧ cs = [] ∨
    ∃ c rest cs', bytes = String.utf8EncodeChar c ++ rest ∧ cs = c :: cs' ∧
      decodeFrom (position + (String.utf8EncodeChar c).length) none rest = .ok cs' := by
  constructor
  · intro h
    cases bytes with
    | nil => cases h; exact .inl ⟨rfl, rfl⟩
    | cons b bytes =>
      refine .inr ?_
      rw [decodeFrom_start] at h
      rcases hlead : utf8Lead b.toNat with _ | ⟨value, _ | owed, low, high⟩
      · rw [hlead] at h
        cases h
      · rw [hlead] at h
        obtain ⟨cs', hcs, rfl⟩ := except_map_ok h
        have hs : Spells b [] (Char.ofNat value) := ⟨value, 0, low, high, value, hlead, rfl, .inl ⟨rfl, rfl, rfl⟩⟩
        refine ⟨_, bytes, cs', ?_, rfl, ?_⟩
        · rw [← spells_iff.1 hs]; rfl
        · rw [← spells_iff.1 hs]; exact hcs
      · rw [hlead] at h
        obtain ⟨tail, rest, n, cs', rfl, rfl, hn, hcs⟩ := decodeFrom_pending.1 h
        have hs : Spells b tail (Char.ofNat n) := ⟨value, owed + 1, low, high, n, hlead, rfl, .inr hn⟩
        refine ⟨_, rest, cs', ?_, rfl, ?_⟩
        · rw [← spells_iff.1 hs]; rfl
        · rw [← spells_iff.1 hs, List.length_cons, Nat.add_comm tail.length, ← Nat.add_assoc]
          exact hcs
  · rintro (⟨rfl, rfl⟩ | ⟨c, rest, cs', rfl, rfl, hcs⟩)
    · rfl
    · obtain ⟨b, tail, he, value, owed, low, high, n, hlead, rfl, hn⟩ := spells_encodeChar c
      rw [he, List.length_cons] at hcs
      rw [he, List.cons_append, decodeFrom_start, hlead]
      obtain ⟨rfl, rfl, rfl⟩ | hn := hn
      · show _ <$> decodeFrom (position + 1) none rest = _
        rw [show decodeFrom (position + 1) none rest = .ok cs' from hcs]
        rfl
      · cases owed with
        | zero => cases hn
        | succ owed =>
          refine decodeFrom_pending.2 ⟨tail, rest, n, cs', rfl, rfl, hn, ?_⟩
          rw [Nat.add_comm tail.length, ← Nat.add_assoc] at hcs
          exact hcs

theorem decodeFrom_encodeUtf8 (position : Nat) (cs : List Char) : decodeFrom position none (encodeUtf8 cs) = .ok cs := by
  induction cs generalizing position with
  | nil => rfl
  | cons c cs ih =>
    refine decodeFrom_none.2 (.inr ⟨c, encodeUtf8 cs, cs, ?_, rfl, ih _⟩)
    rw [encodeUtf8, encodeUtf8, List.flatMap_cons]

theorem encodeUtf8_of_decodeFrom (h : decodeFrom position none bytes = .ok cs) : bytes = encodeUtf8 cs := by
  induction cs generalizing position bytes with
  | nil =>
    obtain ⟨rfl, _⟩ | ⟨_, _, _, _, h, _⟩ := decodeFrom_none.1 h
    · rfl
    · cases h
  | cons c cs ih =>
    obtain ⟨_, h⟩ | ⟨_, rest, _, rfl, hcs, h⟩ := decodeFrom_none.1 h
    · cases h
    · cases hcs
      rw [ih h, encodeUtf8, encodeUtf8, List.flatMap_cons]

/-- Bytes decode to a text exactly if they are its encoding. -/
theorem decodeUtf8_ok : decodeUtf8 bytes = .ok cs ↔ bytes = encodeUtf8 cs := by
  constructor
  · exact encodeUtf8_of_decodeFrom
  · rintro rfl
    exact decodeFrom_encodeUtf8 0 cs

/-- What is refused is the encoding of no text. -/
theorem decodeUtf8_error : (∃ e, decodeUtf8 bytes = .error e) ↔ ∀ cs, bytes ≠ encodeUtf8 cs := by
  constructor
  · rintro ⟨e, he⟩ cs hcs
    rw [decodeUtf8_ok.2 hcs] at he
    cases he
  · intro h
    cases hd : decodeUtf8 bytes with
    | error e => exact ⟨e, rfl⟩
    | ok cs => exact absurd (decodeUtf8_ok.1 hd) (h cs)

end Text

end Conformance.Text
