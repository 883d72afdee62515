import Mathlib.Tactic.Linarith
import Mathlib.Tactic.Ring
import ChangeReview.Number.Binary64

/-!
# Quotients through doubles

A double nearest to a quotient is the quotient rounded to a multiple of a power of two. Where these
multiples include the halves and lie closer together than the multiples of the denominator's inverse,
rounding the double to an integer gives what rounding the quotient itself gives. That is the case for
all operands below `2^52`.
-/

namespace ChangeReview.Binary64

/-! ## Rounding to an integer -/

section

variable {num den : Nat}

/-- A quotient rounded to an integer is off by at most a half. -/
theorem roundHalfEven_bounds (num : Nat) (hden : 0 < den) :
    2 * num ≤ 2 * (roundHalfEven num den * den) + den ∧
      2 * (roundHalfEven num den * den) ≤ 2 * num + den := by
  have hdiv : den * (num / den) + num % den = num := Nat.div_add_mod num den
  have hmod : num % den < den := Nat.mod_lt num hden
  have hdown : num / den * den = den * (num / den) := Nat.mul_comm _ _
  have hup : (num / den + 1) * den = den * (num / den) + den := by ring
  unfold roundHalfEven
  dsimp only
  split_ifs <;> omega

theorem roundHalfEven_one (num : Nat) : roundHalfEven num 1 = num := by
  unfold roundHalfEven
  rw [Nat.div_one, Nat.mod_one]
  rfl

theorem roundHalfEven_mul_right (num den : Nat) {c : Nat} (hc : 0 < c) :
    roundHalfEven (num * c) (den * c) = roundHalfEven num den := by
  have hless (a b : Nat) : a * c < b * c ↔ a < b := Nat.mul_lt_mul_right hc
  unfold roundHalfEven
  rw [Nat.mul_div_mul_right num den hc, Nat.mul_mod_mul_right, ← Nat.mul_assoc]
  simp only [hless]

/-- An integer is a quotient rounded with halves up when it is at least a half below it and less
than a half above it. -/
theorem roundHalfUp_eq_iff (hden : 0 < den) {k : Nat} :
    roundHalfUp num den = k ↔ 2 * (k * den) ≤ 2 * num + den ∧ 2 * num < 2 * (k * den) + den := by
  rw [roundHalfUp, Nat.div_eq_iff (by omega)]
  have hup : k * (2 * den) = 2 * (k * den) := by ring
  rw [hup]
  omega

theorem le_roundHalfUp (hden : 0 < den) {k : Nat} (h : den * k ≤ num) :
    k ≤ roundHalfUp num den := by
  rw [roundHalfUp, Nat.le_div_iff_mul_le (by omega)]
  have hdouble : k * (2 * den) = 2 * (den * k) := by ring
  omega

theorem roundHalfUp_le (hden : 0 < den) {k : Nat} (h : num ≤ den * k) :
    roundHalfUp num den ≤ k := by
  rw [roundHalfUp, ← Nat.lt_succ_iff, Nat.div_lt_iff_lt_mul (by omega)]
  have hdouble : k.succ * (2 * den) = 2 * (den * k) + 2 * den := by rw [Nat.succ_eq_add_one]; ring
  omega

theorem roundHalfUp_mul_right (num den : Nat) {c : Nat} (hc : 0 < c) :
    roundHalfUp (num * c) (den * c) = roundHalfUp num den := by
  have htwice : 2 * (num * c) + den * c = (2 * num + den) * c := by ring
  rw [roundHalfUp, htwice, ← Nat.mul_assoc, Nat.mul_div_mul_right _ _ hc]
  rfl

/-- Equal quotients are rounded alike. -/
theorem roundHalfUp_congr {num' den' : Nat} (hden : 0 < den) (hden' : 0 < den')
    (h : num * den' = num' * den) : roundHalfUp num den = roundHalfUp num' den' := by
  rw [← roundHalfUp_mul_right num den hden', h, Nat.mul_comm den den',
    roundHalfUp_mul_right num' den' hden]

/-- Rounding first to multiples of `1 / (2 * h)` makes no difference to rounding with halves up, when
these multiples lie closer together than those of `1 / den`. -/
theorem roundHalfUp_roundHalfEven {h : Nat} (hden : 0 < den) (hfine : den < 2 * h) :
    roundHalfUp (roundHalfEven (num * (2 * h)) den) (2 * h) = roundHalfUp num den := by
  obtain ⟨hlow, hhigh⟩ := roundHalfEven_bounds (num * (2 * h)) hden
  generalize roundHalfEven (num * (2 * h)) den = s at *
  obtain ⟨hk, hk'⟩ := (roundHalfUp_eq_iff hden).mp (rfl : roundHalfUp num den = _)
  generalize roundHalfUp num den = k at *
  have hgrid : k * (2 * h) = 2 * (k * h) := by ring
  rw [roundHalfUp_eq_iff (by omega), hgrid]
  constructor
  · -- the half below `k` is such a multiple, so what is at least that half is not rounded below it
    have hscaled : den * (4 * (k * h)) ≤ den * (2 * s + 1 + 2 * h) := by
      have := Nat.mul_le_mul_right (2 * h) hk
      linarith
    have := Nat.le_of_mul_le_mul_left hscaled hden
    omega
  · -- what is rounded up to the half above `k` is nearer to it than `1 / (2 * den)`
    by_contra hreached
    have hs : 2 * (k * h) + h ≤ s := by omega
    have hbelow : (2 * num + 1) * (2 * h) ≤ (2 * (k * den) + den) * (2 * h) :=
      Nat.mul_le_mul_right (2 * h) hk'
    have habove := Nat.mul_le_mul_right (2 * den) hs
    have : 2 * h ≤ den := by linarith
    omega

end

/-! ## The nearest double -/

theorem scaled_neg (num den i : Nat) : scaled num den (-(i : Int)) = (num * 2 ^ i, den) := by
  cases i with
  | zero => simp [scaled]
  | succ i => rfl

/-- The bit lengths of two numbers bound their quotient. -/
theorem log2_bounds {num : Nat} (h : 0 < num) : 2 ^ num.log2 ≤ num ∧ num < 2 ^ (num.log2 + 1) :=
  ⟨Nat.log2_self_le (Nat.ne_of_gt h), Nat.lt_log2_self⟩

/-- Of a quotient between `2^(-52)` and `2^52`, the significand of 53 bits counts multiples of some
`2^(-i)` below one. -/
theorem exists_exponentOf {num den : Nat} (hnum : num < 2 ^ 52 * den) (hden : den < 2 ^ 52 * num) :
    ∃ i : Nat, 0 < i ∧ exponentOf num den = -(i : Int) ∧ 2 ^ 52 * den ≤ num * 2 ^ i ∧
      num * 2 ^ i < 2 ^ 53 * den := by
  have hnum0 : 0 < num := by omega
  have hden0 : 0 < den := by omega
  obtain ⟨hnlow, hnhigh⟩ := log2_bounds hnum0
  obtain ⟨hdlow, hdhigh⟩ := log2_bounds hden0
  generalize hn : num.log2 = a at *
  generalize hd : den.log2 = b at *
  have ha : a < b + 53 := by
    refine (Nat.pow_lt_pow_iff_right (a := 2) (by decide)).mp ?_
    have : 2 ^ (b + 53) = 2 ^ 52 * 2 ^ (b + 1) := by ring
    omega
  have hb : b < a + 53 := by
    refine (Nat.pow_lt_pow_iff_right (a := 2) (by decide)).mp ?_
    have : 2 ^ (a + 53) = 2 ^ 52 * 2 ^ (a + 1) := by ring
    omega
  obtain ⟨j, hj⟩ : ∃ j, a + (j + 1) = b + 53 := ⟨b + 52 - a, by omega⟩
  have hguess : max minExponent ((a : Int) - b - 53) = -((j + 1 : Nat) : Int) := by
    unfold minExponent
    omega
  have hlow : 2 ^ 52 * den ≤ num * 2 ^ (j + 1) := calc
    2 ^ 52 * den ≤ 2 ^ 52 * 2 ^ (b + 1) := Nat.mul_le_mul_left _ hdhigh.le
    _ = 2 ^ a * 2 ^ (j + 1) := by rw [← pow_add, ← pow_add, hj]; congr 1; omega
    _ ≤ num * 2 ^ (j + 1) := Nat.mul_le_mul_right _ hnlow
  have hhigh : num * 2 ^ (j + 1) < 2 ^ 54 * den := calc
    num * 2 ^ (j + 1) < 2 ^ (a + 1) * 2 ^ (j + 1) :=
      Nat.mul_lt_mul_of_pos_right hnhigh (Nat.two_pow_pos _)
    _ = 2 ^ 54 * 2 ^ b := by rw [← pow_add, ← pow_add]; congr 1; omega
    _ ≤ 2 ^ 54 * den := Nat.mul_le_mul_left _ hdlow
  have hhalf : num * 2 ^ (j + 1) = 2 * (num * 2 ^ j) := by ring
  have hfits : num * 2 ^ (j + 1) / den < Nat.pow 2 53 ↔ num * 2 ^ (j + 1) < 2 ^ 53 * den :=
    Nat.div_lt_iff_lt_mul (by omega)
  have hnext : -((j + 1 : Nat) : Int) + 1 = -(j : Int) := by omega
  simp only [exponentOf, hn, hd, hguess, scaled_neg, hfits, hnext]
  split_ifs with h
  · exact ⟨j + 1, Nat.succ_pos j, rfl, hlow, h⟩
  · refine ⟨j, Nat.pos_of_ne_zero ?_, rfl, by omega, by omega⟩
    rintro rfl
    omega

theorem den_pos (x : Binary64) : 0 < x.den := Nat.two_pow_pos _

theorem num_neg (negative : Bool) (s i : Nat) : num ⟨negative, s, -(i : Int)⟩ = s := by
  have hexponent : (-(i : Int)).toNat = 0 := by omega
  simp [num, hexponent]

theorem den_neg (negative : Bool) (s i : Nat) : den ⟨negative, s, -(i : Int)⟩ = 2 ^ i := by
  simp [den]

/-- The nearest double by its significand, which a carry halves. -/
theorem nearest?_of_exponentOf {num den j : Nat} (negative : Bool) (hnum : num ≠ 0)
    (hexponent : exponentOf num den = -((j + 1 : Nat) : Int)) :
    nearest? negative num den =
      some (if roundHalfEven (num * 2 ^ (j + 1)) den = 2 ^ 53 then ⟨negative, 2 ^ 52, -(j : Int)⟩
        else ⟨negative, roundHalfEven (num * 2 ^ (j + 1)) den, -((j + 1 : Nat) : Int)⟩) := by
  have hnext : -((j + 1 : Nat) : Int) + 1 = -(j : Int) := by omega
  have hmax (i : Nat) : ¬ maxExponent < -(i : Int) := by
    unfold maxExponent
    omega
  simp only [nearest?, hnum, if_false, hexponent, scaled_neg, hnext, Nat.pow_eq]
  split_ifs with hcarry
  · exact absurd ‹_› (hmax j)
  · rfl
  · exact absurd ‹_› (hmax (j + 1))
  · rfl

/-- The double nearest to a quotient between `2^(-52)` and `2^52` is the quotient rounded to a
multiple of some `2^(-i)` below one that is small beside it. -/
theorem exists_nearest? {num den : Nat} (negative : Bool) (hnum : num < 2 ^ 52 * den)
    (hden : den < 2 ^ 52 * num) :
    ∃ x i, nearest? negative num den = some x ∧ x.negative = negative ∧ 0 < i ∧
      2 ^ 52 * den ≤ num * 2 ^ i ∧
      x.num * 2 ^ i = roundHalfEven (num * 2 ^ i) den * x.den := by
  obtain ⟨i, hi, hexponent, hlow, -⟩ := exists_exponentOf hnum hden
  obtain ⟨j, rfl⟩ : ∃ j, i = j + 1 := Nat.exists_eq_succ_of_ne_zero (by omega)
  refine ⟨_, j + 1, nearest?_of_exponentOf negative (by omega) hexponent, ?_⟩
  split_ifs with hcarry
  · rw [num_neg, den_neg]
    refine ⟨rfl, hi, hlow, ?_⟩
    rw [hcarry]
    ring
  · rw [num_neg, den_neg]
    exact ⟨rfl, hi, hlow, rfl⟩

/-! ## Numbers and their quotients -/

/-- Natural numbers below `2^52` are doubles. -/
theorem ofNat_exact {n : Nat} (h : n < 2 ^ 52) :
    (ofNat n).negative = false ∧ (ofNat n).num = n * (ofNat n).den := by
  rcases Nat.eq_zero_or_pos n with rfl | hn
  · exact ⟨rfl, (Nat.zero_mul _).trans (Nat.zero_mul _).symm⟩
  · obtain ⟨x, i, hx, hnegative, -, -, hvalue⟩ :=
      exists_nearest? false (by omega : n < 2 ^ 52 * 1) (by omega)
    rw [roundHalfEven_one, Nat.mul_right_comm] at hvalue
    rw [ofNat, hx, Option.getD_some]
    exact ⟨hnegative, Nat.eq_of_mul_eq_mul_right (Nat.two_pow_pos i) hvalue⟩

theorem round_of_nonneg {x : Binary64} (h : x.negative = false) :
    x.round = roundHalfUp x.num x.den := by
  simp [round, h]

theorem roundHalfUp_zero {den : Nat} (h : 0 < den) : roundHalfUp 0 den = 0 :=
  (roundHalfUp_eq_iff h).mpr (by omega)

/-- The quotient of natural numbers below `2^52`, taken as doubles and rounded to an integer, is the
quotient itself rounded with halves up. -/
theorem exists_div?_round {num den : Nat} (hnum : num < 2 ^ 52) (hden : den < 2 ^ 52)
    (hpos : 0 < den) :
    ∃ q, (ofNat num).div? (ofNat den) = some q ∧ q.round = roundHalfUp num den := by
  obtain ⟨hnegative, hx⟩ := ofNat_exact hnum
  obtain ⟨hnegative', hy⟩ := ofNat_exact hden
  have hcommon := Nat.mul_pos (ofNat num).den_pos (ofNat den).den_pos
  have hnum' : (ofNat num).num * (ofNat den).den = num * ((ofNat num).den * (ofNat den).den) := by
    rw [hx, Nat.mul_assoc]
  have hden' : (ofNat num).den * (ofNat den).num = den * ((ofNat num).den * (ofNat den).den) := by
    rw [hy, Nat.mul_left_comm]
  rw [div?, hnegative, hnegative', hnum', hden', bne_self_eq_false]
  generalize (ofNat num).den * (ofNat den).den = c at *
  rcases Nat.eq_zero_or_pos num with rfl | hnum0
  · rw [Nat.zero_mul, nearest?_zero]
    refine ⟨_, rfl, ?_⟩
    rw [roundHalfUp_zero hpos, round_of_nonneg rfl, num, zero, Nat.zero_mul,
      roundHalfUp_zero (den_pos _)]
  · have hscaledNum : num * c < 2 ^ 52 * (den * c) := by nlinarith
    have hscaledDen : den * c < 2 ^ 52 * (num * c) := by nlinarith
    obtain ⟨q, i, hq, hsign, hi, hlow, hvalue⟩ := exists_nearest? false hscaledNum hscaledDen
    obtain ⟨j, rfl⟩ : ∃ j, i = j + 1 := Nat.exists_eq_succ_of_ne_zero (by omega)
    have hgrid : 2 ^ (j + 1) = 2 * 2 ^ j := by ring
    have hscaled : 2 ^ 52 * den * c ≤ num * 2 ^ (j + 1) * c := by linarith
    have hfine : den < 2 * 2 ^ j := by
      rw [← hgrid]
      refine Nat.lt_of_mul_lt_mul_left (a := 2 ^ 52) ?_
      calc 2 ^ 52 * den ≤ num * 2 ^ (j + 1) := Nat.le_of_mul_le_mul_right hscaled hcommon
        _ < 2 ^ 52 * 2 ^ (j + 1) := Nat.mul_lt_mul_of_pos_right hnum (Nat.two_pow_pos _)
    rw [Nat.mul_right_comm, roundHalfEven_mul_right _ _ hcommon] at hvalue
    refine ⟨q, hq, ?_⟩
    rw [round_of_nonneg hsign, roundHalfUp_congr q.den_pos (Nat.two_pow_pos (j + 1)) hvalue, hgrid,
      roundHalfUp_roundHalfEven hpos hfine]

end ChangeReview.Binary64
