import Conformance.Number.Exact
import Mathlib.NumberTheory.Padics.PadicVal.Basic
/-!
# Numbers as rationals

A finite number is a rational. The parts that numbers are compared by are those of the rational, which has
only one such form: so numbers are the same exactly if they are equal as rationals, whether they are written
as whole numbers, doubles or decimals.
-/

namespace Conformance

def signed (negative : Bool) (q : ℚ) : ℚ := if negative then -q else q

namespace Number

/-- The rational that a finite number is. -/
def rational? : Number → Option ℚ
  | .int n => some n
  | .float (.finite s m e) => some (signed s (m * 2 ^ e))
  | .decimal (.finite s c e) => some (signed s (c * 10 ^ e))
  | .float (.infinite _) | .float .nan | .decimal (.infinite _) | .decimal (.nan ..) => none

/-- The sign of an infinite number. -/
def infinity? : Number → Option Bool
  | .float (.infinite s) | .decimal (.infinite s) => some s
  | .int _ | .float (.finite ..) | .float .nan | .decimal (.finite ..) | .decimal (.nan ..) => none

/-- Both numbers are the same rational, or infinite on the same side. -/
def Equals (a b : Number) : Prop :=
  (∃ q, a.rational? = some q ∧ b.rational? = some q) ∨ ∃ s, a.infinity? = some s ∧ b.infinity? = some s

end Number

/-! ## Prime factors -/

theorem splitFactor_dvd (p fuel n : Nat) : (splitFactor p fuel n).1 ∣ n :=
  ⟨_, (splitFactor_spec p fuel n).symm⟩

/-- With enough fuel no factor is left. -/
theorem not_dvd_splitFactor {p fuel n : Nat} (hp : 1 < p) (hn : 0 < n) (hf : n < p ^ fuel) :
    ¬ p ∣ (splitFactor p fuel n).1 := by
  induction fuel generalizing n with
  | zero => rw [pow_zero] at hf; omega
  | succ fuel ih =>
    rw [splitFactor]
    split
    · next h =>
      have hdvd : p ∣ n := Nat.dvd_of_mod_eq_zero h
      refine ih (Nat.div_pos (Nat.le_of_dvd hn hdvd) (by omega)) ?_
      exact Nat.div_lt_of_lt_mul (by rwa [pow_succ'] at hf)
    · next h => exact fun hdvd => h (Nat.mod_eq_zero_of_dvd hdvd)

/-! ## One form for each rational -/

namespace Exact

/-- The rational that the parts of a finite value make up. -/
def rational? : Exact → Option ℚ
  | finite s core a b => some (signed s (core * 2 ^ a * 5 ^ b))
  | infinite _ => none

def infinity? : Exact → Option Bool
  | infinite s => some s
  | finite .. => none

/-- The core has no factor two or five, and zero has only one form. -/
def Reduced : Exact → Prop
  | finite s core a b => core = 0 ∧ s = false ∧ a = 0 ∧ b = 0 ∨ ¬ 2 ∣ core ∧ ¬ 5 ∣ core
  | infinite _ => True

variable {s t : Bool} {n m : Nat} {a b c d : Int}

/-- The parts of a scaled number make up that number. -/
theorem rational_ofScaled : (ofScaled s n a b).rational? = some (signed s (n * 2 ^ a * 5 ^ b)) := by
  unfold ofScaled
  split
  · next h => simp [rational?, signed, h]
  · have htwos := splitFactor_spec 2 (n.log2 + 1) n
    rcases h2 : splitFactor 2 (n.log2 + 1) n with ⟨m, i⟩
    have hfives := splitFactor_spec 5 (n.log2 + 1) m
    rcases h5 : splitFactor 5 (n.log2 + 1) m with ⟨core, j⟩
    rw [h2] at htwos
    rw [h5] at hfives
    have hn : (n : ℚ) = core * 5 ^ j * 2 ^ i := by
      rw [← htwos, ← hfives]
      push_cast [Nat.pow_eq]
      rfl
    simp only [h5, rational?]
    rw [zpow_add₀ two_ne_zero, zpow_add₀ (by norm_num), zpow_natCast, zpow_natCast, hn]
    congr 2
    ring

theorem infinity_ofScaled : (ofScaled s n a b).infinity? = none := by
  unfold ofScaled
  split <;> rfl

theorem infinity_eq_some {x : Exact} : x.infinity? = some s ↔ x = infinite s := by
  cases x <;> simp [infinity?]

theorem reduced_ofScaled : (ofScaled s n a b).Reduced := by
  unfold ofScaled
  split
  · exact .inl ⟨rfl, rfl, rfl, rfl⟩
  · next h =>
    have hn : 0 < n := Nat.pos_of_ne_zero h
    have hlt : n < 2 ^ (n.log2 + 1) := Nat.lt_log2_self
    have htwo := not_dvd_splitFactor Nat.one_lt_two hn hlt
    have hm := splitFactor_dvd 2 (n.log2 + 1) n
    rcases h2 : splitFactor 2 (n.log2 + 1) n with ⟨m, i⟩
    rw [h2] at htwo hm
    have hlt5 : m < 5 ^ (n.log2 + 1) := by
      calc m
        _ ≤ n := Nat.le_of_dvd hn hm
        _ < 2 ^ (n.log2 + 1) := hlt
        _ ≤ 5 ^ (n.log2 + 1) := Nat.pow_le_pow_left (by omega) _
    have hfive := not_dvd_splitFactor (p := 5) (by omega) (Nat.pos_of_dvd_of_pos hm hn) hlt5
    have hcore := splitFactor_dvd 5 (n.log2 + 1) m
    exact .inr ⟨fun h => htwo (h.trans hcore), hfive⟩

theorem scaled_pos (hn : n ≠ 0) : (0 : ℚ) < n * 2 ^ a * 5 ^ b := by
  have hpos : (0 : ℚ) < n := Nat.cast_pos.2 (Nat.pos_of_ne_zero hn)
  exact mul_pos (mul_pos hpos (zpow_pos two_pos a)) (zpow_pos (by norm_num) b)

theorem signed_ne_zero {q : ℚ} (hq : 0 < q) : signed s q ≠ 0 := by
  cases s
  · exact hq.ne'
  · exact neg_ne_zero.2 hq.ne'

theorem signed_inj {p q : ℚ} (hp : 0 < p) (hq : 0 < q) (h : signed s p = signed t q) : s = t ∧ p = q := by
  cases s <;> cases t <;> simp only [signed, if_true, Bool.false_eq_true, if_false] at h
  · exact ⟨rfl, h⟩
  · linarith
  · linarith
  · exact ⟨rfl, neg_inj.1 h⟩

theorem ne_zero_of_not_dvd {p : Nat} (h : ¬ p ∣ n) : n ≠ 0 := by
  rintro rfl
  exact h (Nat.dvd_zero p)

/-- How often two and five divide a rational is what the exponents of its reduced form say. -/
theorem valuations (h2 : ¬ 2 ∣ n) (h5 : ¬ 5 ∣ n) : padicValRat 2 (n * 2 ^ a * 5 ^ b) = a ∧
    padicValRat 5 (n * 2 ^ a * 5 ^ b) = b := by
  have : Fact (Nat.Prime 5) := ⟨Nat.prime_five⟩
  have hn : (n : ℚ) ≠ 0 := Nat.cast_ne_zero.2 (ne_zero_of_not_dvd h2)
  have ha : (2 : ℚ) ^ a ≠ 0 := zpow_ne_zero _ two_ne_zero
  have hb : (5 : ℚ) ^ b ≠ 0 := zpow_ne_zero _ (by norm_num)
  have hcore : ∀ p, ¬ p ∣ n → padicValRat p n = 0 := fun p h => by
    rw [padicValRat.of_nat, padicValNat.eq_zero_of_not_dvd h, Nat.cast_zero]
  have hpower : ∀ (p q : Nat) [Fact p.Prime] (e : Int), padicValRat p ((q : ℚ) ^ e) = e * padicValNat p q :=
    fun p q _ e => by rw [padicValRat.zpow, padicValRat.of_nat]
  constructor
  · have h22 := hpower 2 2 a
    have h25 := hpower 2 5 b
    rw [padicValNat.self (by norm_num)] at h22
    rw [padicValNat_primes (by norm_num)] at h25
    rw [padicValRat.mul (mul_ne_zero hn ha) hb, padicValRat.mul hn ha, hcore 2 h2]
    push_cast at h22 h25
    omega
  · have h52 := hpower 5 2 a
    have h55 := hpower 5 5 b
    rw [padicValNat_primes (by norm_num)] at h52
    rw [padicValNat.self (by norm_num)] at h55
    rw [padicValRat.mul (mul_ne_zero hn ha) hb, padicValRat.mul hn ha, hcore 5 h5]
    push_cast at h52 h55
    omega

/-- Only one reduced form makes up a rational. -/
theorem reduced_unique {x y : Exact} (hx : x.Reduced) (hy : y.Reduced) {q : ℚ} (hxq : x.rational? = some q)
    (hyq : y.rational? = some q) : x = y := by
  cases x with
  | infinite _ => cases hxq
  | finite s n a b =>
    cases y with
    | infinite _ => cases hyq
    | finite t m c d =>
      have heq : signed s (n * 2 ^ a * 5 ^ b) = signed t (m * 2 ^ c * 5 ^ d) :=
        Option.some.inj (hxq.trans hyq.symm)
      -- zero stands apart: there the exponents are no valuations
      rcases hx with ⟨rfl, rfl, rfl, rfl⟩ | ⟨hn2, hn5⟩
      · rcases hy with ⟨rfl, rfl, rfl, rfl⟩ | ⟨hm2, _⟩
        · rfl
        · refine absurd heq.symm ?_
          rw [Nat.cast_zero, zero_mul, zero_mul]
          exact signed_ne_zero (scaled_pos (ne_zero_of_not_dvd hm2))
      · rcases hy with ⟨rfl, rfl, rfl, rfl⟩ | ⟨hm2, hm5⟩
        · refine absurd heq ?_
          rw [Nat.cast_zero, zero_mul, zero_mul]
          exact signed_ne_zero (scaled_pos (ne_zero_of_not_dvd hn2))
        · obtain ⟨rfl, hscaled⟩ :=
            signed_inj (scaled_pos (ne_zero_of_not_dvd hn2)) (scaled_pos (ne_zero_of_not_dvd hm2)) heq
          obtain ⟨hn, hn'⟩ := @valuations n a b hn2 hn5
          obtain ⟨hm, hm'⟩ := @valuations m c d hm2 hm5
          rw [hscaled] at hn hn'
          cases hn.symm.trans hm
          cases hn'.symm.trans hm'
          have hcore : (n : ℚ) = m :=
            mul_right_cancel₀ (zpow_ne_zero _ two_ne_zero) (mul_right_cancel₀ (zpow_ne_zero _ (by norm_num)) hscaled)
          rw [Nat.cast_inj.1 hcore]

end Exact

/-! ## Equal numbers -/

namespace Number

theorem reduced_value {n : Number} {x : Exact} (h : n.value? = some x) : x.Reduced := by
  unfold value? at h
  split at h <;> cases h
  all_goals first
    | exact Exact.reduced_ofScaled
    | trivial

/-- The value of a number is the rational that it is. -/
theorem rational_value (n : Number) : n.value?.bind Exact.rational? = n.rational? := by
  unfold value?
  split
  · next n =>
    have hsigned : signed (n < 0) n.natAbs = n := by
      rcases lt_or_ge n 0 with h | h
      · rw [decide_eq_true h, signed, if_pos rfl, Nat.cast_natAbs, abs_of_neg h, Int.cast_neg, neg_neg]
      · rw [decide_eq_false (not_lt.2 h), signed, if_neg Bool.false_ne_true, Nat.cast_natAbs, abs_of_nonneg h]
    rw [Option.bind_some, Exact.rational_ofScaled, zpow_zero, zpow_zero, mul_one, mul_one, hsigned]
    rfl
  · rw [Option.bind_some, Exact.rational_ofScaled, zpow_zero, mul_one]
    rfl
  · rfl
  · rfl
  · rw [Option.bind_some, Exact.rational_ofScaled, mul_assoc, ← mul_zpow]
    norm_num [rational?]
  · rfl
  · rfl

theorem infinity_value (n : Number) : n.value?.bind Exact.infinity? = n.infinity? := by
  unfold value?
  split <;> first | rfl | exact Exact.infinity_ofScaled

/-- Numbers are the same exactly if they are equal as rationals, or infinite with one sign. -/
theorem same_iff_equals {a b : Number} : a.same b = true ↔ a.Equals b := by
  rw [same_iff]
  constructor
  · rintro ⟨x, ha, hb⟩
    cases x with
    | finite s core c d =>
      refine .inl ⟨signed s (core * 2 ^ c * 5 ^ d), ?_, ?_⟩
      · rw [← rational_value, ha]; rfl
      · rw [← rational_value, hb]; rfl
    | infinite s =>
      refine .inr ⟨s, ?_, ?_⟩
      · rw [← infinity_value, ha]; rfl
      · rw [← infinity_value, hb]; rfl
  · rintro (⟨q, ha, hb⟩ | ⟨s, ha, hb⟩)
    · rw [← rational_value] at ha hb
      obtain ⟨x, hx, hxq⟩ := Option.bind_eq_some_iff.1 ha
      obtain ⟨y, hy, hyq⟩ := Option.bind_eq_some_iff.1 hb
      cases Exact.reduced_unique (reduced_value hx) (reduced_value hy) hxq hyq
      exact ⟨x, hx, hy⟩
    · rw [← infinity_value] at ha hb
      obtain ⟨x, hx, hxs⟩ := Option.bind_eq_some_iff.1 ha
      obtain ⟨y, hy, hys⟩ := Option.bind_eq_some_iff.1 hb
      cases Exact.infinity_eq_some.1 hxs
      cases Exact.infinity_eq_some.1 hys
      exact ⟨_, hx, hy⟩

/-- One is the same as `1.0`. -/
example : (int 1).same (.float (.finite false 2 (-1))) = true := by decide

end Number

end Conformance
