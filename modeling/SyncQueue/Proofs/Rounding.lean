import Mathlib.Algebra.Order.Field.Power
import Mathlib.Algebra.Order.Floor.Semifield
import Mathlib.Data.Rat.Floor
import Mathlib.Tactic.FieldSimp
import Mathlib.Tactic.Linarith
import Mathlib.Tactic.Positivity
import SyncQueue.Number.Binary64

/-!
# Rounding to the nearest number

A finite binary64 number denotes a rational number, `Binary64.value?`. An operation gives a number
that denotes the nearest one to the exact result, which is all that is said here: nothing depends on
how a tie is broken. That a result lies on one side of a number that is not rounded carries over to
the rounded result, and so do exact results.

* `IsNearest`: a representable number to which no other one is nearer.
* `IsNearest.le_of_le`, `IsNearest.le_of_lt_half`, `IsNearest.abs_sub_le`: the order and the
  distance of nearest values.
* `IsNearest.mul_le`: two roundings in a row.
* `Binary64.exists_ofRatio`: the rounding of this project gives the nearest value.
* `Binary64.exists_mul`, `Binary64.exists_add`: and so do the operations.
* `Binary64.le_iff`, `Binary64.value?_round`, `Binary64.toNatUpTo_eq`: the order, and whole numbers.
-/

namespace SyncQueue.Number

variable {x y p : ℚ}

/-! ## Nearest values -/

/-- The number has a significand of 53 bits and an exponent that is not too small. -/
def Representable (x : ℚ) : Prop := ∃ m e : ℤ, |m| ≤ 2 ^ 53 ∧ -1074 ≤ e ∧ x = m * 2 ^ e

/-- No representable number is nearer to `x` than `y` is. -/
structure IsNearest (x y : ℚ) : Prop where
  representable : Representable y
  le_abs_sub : ∀ p, Representable p → |x - y| ≤ |x - p|

theorem representable_intCast {n : ℤ} (h : |n| ≤ 2 ^ 53) : Representable n :=
  ⟨n, 0, h, by decide, by rw [zpow_zero, mul_one]⟩

theorem representable_mul_zpow {m g : ℤ} (hm : 0 ≤ m) (hm' : m ≤ 2 ^ 53) (hg : -1074 ≤ g) :
    Representable (m * 2 ^ g) :=
  ⟨m, g, by rwa [abs_of_nonneg hm], hg, rfl⟩

theorem Representable.neg (h : Representable x) : Representable (-x) := by
  obtain ⟨m, e, hm, he, rfl⟩ := h
  exact ⟨-m, e, by rwa [abs_neg], he, by push_cast; ring⟩

/-- Between neighbours with full significands there is no representable number. -/
theorem Representable.add_one_le {m g : ℤ} (h : Representable y) (hm : 2 ^ 52 ≤ m)
    (hy : m * 2 ^ g < y) : (m + 1) * (2 : ℚ) ^ g ≤ y := by
  obtain ⟨n, f, hn, -, rfl⟩ := h
  have hpow : (0 : ℚ) < 2 ^ f := zpow_pos two_pos f
  have hn' : (n : ℚ) ≤ 2 ^ 53 := by exact_mod_cast (le_abs_self n).trans hn
  have hm' : (2 : ℚ) ^ 52 ≤ m := by exact_mod_cast hm
  obtain ⟨k, rfl⟩ | ⟨k, rfl⟩ : (∃ k : ℕ, f = g + k) ∨ ∃ k : ℕ, g = f + 1 + k := by
    obtain hle | hlt := le_or_gt g f
    · exact .inl ⟨(f - g).toNat, by omega⟩
    · exact .inr ⟨(g - f - 1).toNat, by omega⟩
  · -- the number is a whole multiple of the distance of the neighbours
    rw [zpow_add₀ two_ne_zero, zpow_natCast, mul_comm ((2 : ℚ) ^ g), ← mul_assoc] at hy ⊢
    have hg : (0 : ℚ) < 2 ^ g := zpow_pos two_pos g
    have hlt : (m : ℚ) < n * 2 ^ k := lt_of_mul_lt_mul_right hy hg.le
    have hlt' : m < n * 2 ^ k := by exact_mod_cast hlt
    have hle : ((m + 1 : ℤ) : ℚ) ≤ (n * 2 ^ k : ℤ) := by exact_mod_cast hlt'
    refine mul_le_mul_of_nonneg_right ?_ hg.le
    exact_mod_cast hle
  · -- its significand would need more bits
    exfalso
    rw [zpow_add₀ two_ne_zero, zpow_add₀ two_ne_zero, zpow_natCast, zpow_one] at hy
    have hone : (1 : ℚ) ≤ 2 ^ k := one_le_pow₀ one_le_two
    nlinarith [mul_pos hpow (lt_of_lt_of_le one_pos hone)]

namespace IsNearest

theorem neg (h : IsNearest x y) : IsNearest (-x) (-y) where
  representable := h.representable.neg
  le_abs_sub p hp := by
    have hnear := h.le_abs_sub (-p) hp.neg
    rwa [neg_sub_neg, abs_sub_comm, ← neg_add', abs_neg, ← sub_neg_eq_add]

/-- The nearest value is not above a representable number that the exact one is not above. -/
theorem le_of_le (h : IsNearest x y) (hp : Representable p) (hle : x ≤ p) : y ≤ p := by
  by_contra hlt
  rw [not_le] at hlt
  have hnear := h.le_abs_sub p hp
  rw [abs_of_nonpos (by linarith), abs_of_nonpos (by linarith)] at hnear
  linarith

/-- The nearest value is not below a representable number that the exact one is not below. -/
theorem ge_of_ge (h : IsNearest x y) (hp : Representable p) (hle : p ≤ x) : p ≤ y :=
  neg_le_neg_iff.1 (h.neg.le_of_le hp.neg (neg_le_neg hle))

/-- A representable number is the nearest one to itself. -/
theorem eq_of_representable (h : IsNearest x y) (hx : Representable x) : y = x :=
  le_antisymm (h.le_of_le hx le_rfl) (h.ge_of_ge hx le_rfl)

/-- The nearest value is away by half the distance of neighbours at most. -/
theorem abs_sub_le {g : ℤ} (h : IsNearest x y) (hg : -1074 ≤ g) (hx : |x| ≤ 2 ^ (g + 53)) :
    |x - y| ≤ 2 ^ g / 2 := by
  have hpow : (0 : ℚ) < 2 ^ g := zpow_pos two_pos g
  have hround := abs_sub_round (x / 2 ^ g)
  set n := round (x / 2 ^ g) with hn
  have hscaled : |x / 2 ^ g| ≤ 2 ^ 53 := by
    rw [abs_div, abs_of_pos hpow, div_le_iff₀ hpow]
    rwa [add_comm, zpow_add₀ two_ne_zero] at hx
  have hbound : |n| ≤ 2 ^ 53 := by
    rw [abs_le] at hround hscaled ⊢
    have hleast : (-2 ^ 53 - 1 : ℚ) < n := by linarith
    have hmost : (n : ℚ) < 2 ^ 53 + 1 := by linarith
    have hleast' : (-2 ^ 53 - 1 : ℤ) < n := by exact_mod_cast hleast
    have hmost' : n < (2 ^ 53 + 1 : ℤ) := by exact_mod_cast hmost
    omega
  refine (h.le_abs_sub (n * 2 ^ g) ⟨n, g, hbound, hg, rfl⟩).trans ?_
  have hsplit : x - n * 2 ^ g = (x / 2 ^ g - n) * 2 ^ g := by
    rw [sub_mul, div_mul_cancel₀ _ hpow.ne']
  rw [hsplit, abs_mul, abs_of_pos hpow]
  linarith [mul_le_mul_of_nonneg_right hround hpow.le]

/-- The nearest value is a number with a full significand, or below it, if the exact one is nearer
to it than to the next one. -/
theorem le_of_lt_half {m g : ℤ} (h : IsNearest x y) (hm : 2 ^ 52 ≤ m) (hm' : m ≤ 2 ^ 53)
    (hg : -1074 ≤ g) (hx : x < (m + 1 / 2) * 2 ^ g) : y ≤ m * 2 ^ g := by
  have hpow : (0 : ℚ) < 2 ^ g := zpow_pos two_pos g
  have hrep : Representable (m * 2 ^ g) := representable_mul_zpow (by omega) hm' hg
  obtain hle | hgt := le_or_gt x (m * 2 ^ g)
  · exact h.le_of_le hrep hle
  · by_contra hlt
    have hnext := h.representable.add_one_le hm (not_le.1 hlt)
    have hnear := h.le_abs_sub _ hrep
    rw [abs_of_nonpos (by nlinarith), abs_of_pos (by linarith)] at hnear
    nlinarith

/-- A product with a part of a number that is rounded itself does not come to lie above a number
that the exact product is not above. -/
theorem mul_le {m g : ℤ} {r z w : ℚ} (hr : IsNearest x r) (hz : IsNearest (r * w) z)
    (hw : 0 ≤ w) (hw' : w ≤ 1) (hm : 2 ^ 52 ≤ m) (hm' : m ≤ 2 ^ 53) (hg : -1074 ≤ g)
    (hx : |x| ≤ 2 ^ (g + 53)) (hle : x * w ≤ m * 2 ^ g) : z ≤ m * 2 ^ g := by
  have hpow : (0 : ℚ) < 2 ^ g := zpow_pos two_pos g
  obtain rfl | hlt := hw'.eq_or_lt
  · have hrep : Representable (m * 2 ^ g) := representable_mul_zpow (by omega) hm' hg
    rw [mul_one] at hle hz
    exact hz.le_of_le hrep (hr.le_of_le hrep hle)
  · -- the rounding of the number moves the product by less than half a unit
    refine hz.le_of_lt_half hm hm' hg ?_
    have hnear := (abs_le.1 (hr.abs_sub_le hg hx)).1
    have hmoved : r * w ≤ x * w + 2 ^ g / 2 * w := by
      rw [← add_mul]
      exact mul_le_mul_of_nonneg_right (by linarith) hw
    have hpart : (2 : ℚ) ^ g / 2 * w < 2 ^ g / 2 := mul_lt_of_lt_one_right (by linarith) hlt
    linarith

end IsNearest

/-- A whole number written with a full significand. -/
theorem exists_significand {n : ℕ} (hn : 0 < n) (hn' : n < 2 ^ 53) :
    ∃ (m : ℤ) (k : ℕ), k ≤ 52 ∧ 2 ^ 52 ≤ m ∧ m ≤ 2 ^ 53 ∧ n < 2 ^ (k + 1) ∧
      (n : ℚ) = m * 2 ^ (k - 52 : ℤ) := by
  have hlow := Nat.log2_self_le hn.ne'
  have hhigh := Nat.lt_log2_self (n := n)
  set k := Nat.log2 n with hk
  have hk' : k < 53 := (Nat.pow_lt_pow_iff_right (by decide : 1 < 2)).1 (hlow.trans_lt hn')
  have hsplit : (2 : ℕ) ^ 52 = 2 ^ k * 2 ^ (52 - k) := by
    rw [← Nat.pow_add]
    congr 1
    omega
  have hleast : 2 ^ 52 ≤ n * 2 ^ (52 - k) := hsplit ▸ Nat.mul_le_mul_right _ hlow
  have hmost : n * 2 ^ (52 - k) ≤ 2 ^ 53 := by
    calc n * 2 ^ (52 - k) ≤ 2 ^ (k + 1) * 2 ^ (52 - k) := Nat.mul_le_mul_right _ hhigh.le
      _ = 2 ^ 53 := by
        rw [← Nat.pow_add]
        congr 1
        omega
  refine ⟨(n * 2 ^ (52 - k) : ℕ), k, by omega, by exact_mod_cast hleast, by exact_mod_cast hmost,
    hhigh, ?_⟩
  · have hcancel : (2 : ℚ) ^ (52 - k) * 2 ^ (k - 52 : ℤ) = 1 := by
      rw [← zpow_natCast, ← zpow_add₀ two_ne_zero, show ((52 - k : ℕ) : ℤ) + (k - 52) = 0 by omega,
        zpow_zero]
    rw [Int.cast_natCast, Nat.cast_mul, Nat.cast_pow, Nat.cast_ofNat, mul_assoc, hcancel, mul_one]

theorem isNearest_zero : IsNearest 0 0 where
  representable := ⟨0, 0, by decide, by decide, by rw [Int.cast_zero, zero_mul]⟩
  le_abs_sub p _ := by
    rw [sub_zero, abs_zero]
    exact abs_nonneg _

namespace Binary64

/-- The rational number that a finite number denotes. -/
def value? : Binary64 → Option ℚ
  | .finite negative m e => some (signed negative m * 2 ^ e)
  | _ => none

end Binary64

/-! ## The rounding of a quotient -/

/-- A whole number within a half is a nearest one. -/
theorem abs_sub_le_abs_sub {q : ℚ} {m : ℤ} (hm : |q - m| ≤ 1 / 2) (n : ℤ) :
    |q - m| ≤ |q - n| := by
  obtain rfl | hne := eq_or_ne n m
  · exact le_rfl
  · have hapart : (1 : ℚ) ≤ |(n : ℚ) - m| := by
      exact_mod_cast Int.one_le_abs (sub_ne_zero.2 hne)
    have htriangle := abs_sub_le (n : ℚ) q m
    rw [abs_sub_comm (n : ℚ) q] at htriangle
    linarith

/-- The nearest whole number of units is the nearest value, if the unit is the one of neighbours
with full significands, or the smallest one. -/
theorem isNearest_of_scaled {m : ℕ} {e : ℤ} (he : -1074 ≤ e)
    (hx' : x < 2 ^ (e + 53)) (hnormal : e = -1074 ∨ 2 ^ (e + 52) ≤ x)
    (hm : |x / 2 ^ e - m| ≤ 1 / 2) : IsNearest x (m * 2 ^ e) := by
  have hpow : (0 : ℚ) < 2 ^ e := zpow_pos two_pos e
  have hscaled : x / 2 ^ e < 2 ^ 53 := by
    rw [div_lt_iff₀ hpow]
    rwa [add_comm, zpow_add₀ two_ne_zero] at hx'
  have hbound : m ≤ 2 ^ 53 := by
    rw [abs_le] at hm
    have hmost : (m : ℚ) < 2 ^ 53 + 1 := by linarith
    have hmost' : m < 2 ^ 53 + 1 := by exact_mod_cast hmost
    omega
  have hsplit : ∀ n : ℚ, |x - n * 2 ^ e| = |x / 2 ^ e - n| * 2 ^ e := fun n => by
    rw [← abs_of_pos hpow, ← abs_mul, abs_of_pos hpow, sub_mul, div_mul_cancel₀ _ hpow.ne']
  have hwhole : ∀ n : ℤ, |x - m * 2 ^ e| ≤ |x - n * 2 ^ e| := fun n => by
    rw [hsplit, hsplit]
    exact mul_le_mul_of_nonneg_right (abs_sub_le_abs_sub (m := m) hm n) hpow.le
  refine ⟨⟨m, e, ?_, he, by rw [Int.cast_natCast]⟩, fun p hp => ?_⟩
  · rw [abs_of_nonneg (Int.natCast_nonneg m)]
    exact_mod_cast hbound
  obtain ⟨n, f, hn, hf, rfl⟩ := hp
  obtain hle | hlt := le_or_gt e f
  · obtain ⟨k, rfl⟩ := Int.le.dest hle
    have hmultiple := hwhole (n * 2 ^ k)
    rwa [Int.cast_mul, Int.cast_pow, Int.cast_ofNat, mul_assoc, mul_comm ((2 : ℚ) ^ k),
      ← zpow_natCast, ← zpow_add₀ two_ne_zero] at hmultiple
  · -- a number with a smaller unit is below the least one with a full significand
    have hleast := hnormal.resolve_left (by omega)
    have hsmall : n * (2 : ℚ) ^ f ≤ 2 ^ (e + 52) := by
      have hn' : (n : ℚ) ≤ 2 ^ 53 := by exact_mod_cast (le_abs_self n).trans hn
      calc n * (2 : ℚ) ^ f ≤ 2 ^ 53 * 2 ^ f :=
            mul_le_mul_of_nonneg_right hn' (zpow_pos two_pos f).le
        _ = 2 ^ (f + 53) := by rw [add_comm f, zpow_add₀ two_ne_zero]; rfl
        _ ≤ 2 ^ (e + 52) := zpow_le_zpow_right₀ one_le_two (by omega)
    have hfull := hwhole (2 ^ 52)
    rw [Int.cast_pow, Int.cast_ofNat] at hfull
    rw [show (2 : ℚ) ^ 52 * 2 ^ e = 2 ^ (e + 52) by
      rw [add_comm e, zpow_add₀ two_ne_zero]; rfl] at hfull
    rw [abs_of_nonneg (sub_nonneg.2 hleast)] at hfull
    rw [abs_of_nonneg (sub_nonneg.2 (hsmall.trans hleast))]
    linarith

namespace Binary64

theorem abs_sub_divideToEven_le (num : ℕ) {den : ℕ} (hden : 0 < den) :
    |(num : ℚ) / den - divideToEven num den| ≤ 1 / 2 := by
  have hsum : (num : ℚ) = den * (num / den : ℕ) + (num % den : ℕ) := by
    exact_mod_cast (Nat.div_add_mod num den).symm
  have hrest : ((num % den : ℕ) : ℚ) < den := by exact_mod_cast Nat.mod_lt num hden
  have hden' : (0 : ℚ) < den := by exact_mod_cast hden
  have hnonneg : (0 : ℚ) ≤ (num % den : ℕ) := Nat.cast_nonneg _
  have hdown : 2 * (num % den) ≤ den → |(num : ℚ) / den - (num / den : ℕ)| ≤ 1 / 2 := fun h => by
    have h' : 2 * ((num % den : ℕ) : ℚ) ≤ den := by exact_mod_cast h
    have hdiff : (num : ℚ) / den - (num / den : ℕ) = (num % den : ℕ) / den := by
      rw [hsum]
      field_simp
      ring
    rw [hdiff, abs_of_nonneg (by positivity), div_le_iff₀ hden']
    linarith
  have hup : den ≤ 2 * (num % den) → |(num : ℚ) / den - (num / den + 1 : ℕ)| ≤ 1 / 2 := fun h => by
    have h' : (den : ℚ) ≤ 2 * (num % den : ℕ) := by exact_mod_cast h
    have hdiff : (num : ℚ) / den - (num / den + 1 : ℕ) = -((den - (num % den : ℕ)) / den) := by
      rw [hsum]
      push_cast
      field_simp
      ring
    rw [hdiff, abs_neg, abs_of_nonneg (div_nonneg (by linarith) hden'.le), div_le_iff₀ hden']
    linarith
  unfold divideToEven
  dsimp only
  split_ifs with hbelow habove heven
  · exact hdown hbelow.le
  · exact hup habove.le
  · exact hdown (by omega)
  · exact hup (by omega)

theorem two_zpow_of_nonneg {k : ℤ} (h : 0 ≤ k) : (2 : ℚ) ^ k = (Nat.pow 2 k.toNat : ℕ) := by
  obtain ⟨n, rfl⟩ := Int.eq_ofNat_of_zero_le h
  rw [Int.toNat_natCast, Nat.pow_eq, Nat.cast_pow, zpow_natCast, Nat.cast_ofNat]

theorem two_zpow_of_nonpos {k : ℤ} (h : k ≤ 0) :
    (2 : ℚ) ^ k = ((Nat.pow 2 (-k).toNat : ℕ) : ℚ)⁻¹ := by
  rw [← two_zpow_of_nonneg (by omega), zpow_neg, inv_inv]

theorem two_zpow_eq (k : ℤ) :
    (2 : ℚ) ^ k = (Nat.pow 2 k.toNat : ℕ) / (Nat.pow 2 (-k).toNat : ℕ) := by
  have hone : ((Nat.pow 2 0 : ℕ) : ℚ) = 1 := Nat.cast_one
  obtain hle | hle := le_total 0 k
  · rw [two_zpow_of_nonneg hle, show (-k).toNat = 0 by omega, hone, div_one]
  · rw [two_zpow_of_nonpos hle, show k.toNat = 0 by omega, hone, one_div]

theorem two_zpow_log2_le {n : ℕ} (hn : 0 < n) : (2 : ℚ) ^ (Nat.log2 n : ℤ) ≤ n := by
  exact_mod_cast Nat.log2_self_le hn.ne'

theorem lt_two_zpow_log2 (n : ℕ) : (n : ℚ) < 2 ^ (Nat.log2 n + 1 : ℤ) := by
  exact_mod_cast Nat.lt_log2_self

/-- The logarithm of a quotient is the difference of the logarithms, or one less. -/
theorem log2Ratio_eq (num : ℕ) {den : ℕ} (hden : 0 < den) :
    log2Ratio num den =
      if (2 : ℚ) ^ (Nat.log2 num - Nat.log2 den : ℤ) ≤ num / den then
        (Nat.log2 num - Nat.log2 den : ℤ)
      else (Nat.log2 num - Nat.log2 den : ℤ) - 1 := by
  have hden' : (0 : ℚ) < den := by exact_mod_cast hden
  unfold log2Ratio
  dsimp only
  generalize (Nat.log2 num - Nat.log2 den : ℤ) = k
  have hreached : (if 0 ≤ k then decide (den * Nat.pow 2 k.toNat ≤ num)
      else decide (den ≤ num * Nat.pow 2 (-k).toNat)) = decide ((2 : ℚ) ^ k ≤ num / den) := by
    split_ifs with hsign
    · rw [decide_eq_decide, le_div_iff₀ hden', two_zpow_of_nonneg hsign, mul_comm]
      norm_cast
    · rw [decide_eq_decide, le_div_iff₀ hden', two_zpow_of_nonpos (by omega),
        inv_mul_le_iff₀ (by exact_mod_cast Nat.two_pow_pos _), mul_comm]
      norm_cast
  rw [hreached]
  simp only [decide_eq_true_eq]

theorem log2Ratio_bounds {num den : ℕ} (hnum : 0 < num) (hden : 0 < den) :
    (2 : ℚ) ^ log2Ratio num den ≤ num / den ∧ (num : ℚ) / den < 2 ^ (log2Ratio num den + 1) := by
  have hden' : (0 : ℚ) < den := by exact_mod_cast hden
  have hdenLow := two_zpow_log2_le hden
  have hdenHigh := lt_two_zpow_log2 den
  rw [log2Ratio_eq num hden]
  set k : ℤ := (Nat.log2 num : ℤ) - Nat.log2 den with hk
  have hhigh : (num : ℚ) / den < 2 ^ (k + 1) := by
    rw [div_lt_iff₀ hden']
    calc (num : ℚ) < 2 ^ (Nat.log2 num + 1 : ℤ) := lt_two_zpow_log2 num
      _ = 2 ^ (k + 1) * 2 ^ (Nat.log2 den : ℤ) := by
        rw [← zpow_add₀ two_ne_zero]
        congr 1
        omega
      _ ≤ 2 ^ (k + 1) * den := mul_le_mul_of_nonneg_left hdenLow (zpow_pos two_pos _).le
  have hlow : (2 : ℚ) ^ (k - 1) ≤ num / den := by
    rw [le_div_iff₀ hden']
    calc (2 : ℚ) ^ (k - 1) * den ≤ 2 ^ (k - 1) * 2 ^ (Nat.log2 den + 1 : ℤ) :=
          mul_le_mul_of_nonneg_left hdenHigh.le (zpow_pos two_pos _).le
      _ = 2 ^ (Nat.log2 num : ℤ) := by
        rw [← zpow_add₀ two_ne_zero]
        congr 1
        omega
      _ ≤ num := two_zpow_log2_le hnum
  split_ifs with hreached
  · exact ⟨hreached, hhigh⟩
  · rw [sub_add_cancel]
    exact ⟨hlow, not_le.1 hreached⟩

theorem isNearest_signed {num den m : ℕ} {e : ℤ} (h : IsNearest (num / den) (m * 2 ^ e))
    (negative : Bool) : IsNearest (signed negative num / den) (signed negative m * 2 ^ e) := by
  cases negative with
  | false => exact h
  | true =>
    have hneg := h.neg
    rwa [← neg_div, ← neg_mul, ← Int.cast_natCast, ← Int.cast_neg, ← Int.cast_natCast m,
      ← Int.cast_neg] at hneg

/-- The significand that the rounding of a quotient computes for an exponent. -/
theorem abs_sub_significand_le {num den : ℕ} (hden : 0 < den) (e : ℤ) :
    |(num : ℚ) / den / 2 ^ e - (if 0 ≤ e then divideToEven num (den * Nat.pow 2 e.toNat)
      else divideToEven (num * Nat.pow 2 (-e).toNat) den : ℕ)| ≤ 1 / 2 := by
  split_ifs with hsign
  · have hnear := abs_sub_divideToEven_le num (Nat.mul_pos hden (Nat.two_pow_pos e.toNat))
    rwa [Nat.cast_mul, ← div_div, ← Nat.pow_eq, ← two_zpow_of_nonneg hsign] at hnear
  · have hnear := abs_sub_divideToEven_le (num * Nat.pow 2 (-e).toNat) hden
    rwa [Nat.cast_mul, mul_div_right_comm, ← inv_inv (Nat.cast (Nat.pow 2 (-e).toNat)),
      ← two_zpow_of_nonpos (by omega), ← div_eq_mul_inv] at hnear

/-- **The rounding of a quotient** that is not too large is a nearest number to it. -/
theorem exists_ofRatio (negative : Bool) {num den : ℕ} (hden : 0 < den)
    (hsmall : (num : ℚ) / den < 2 ^ (1023 : ℤ)) :
    ∃ z, (ofRatio negative num den).value? = some z ∧
      IsNearest (signed negative num / den) z := by
  obtain rfl | hnum := Nat.eq_zero_or_pos num
  · refine ⟨_, rfl, isNearest_signed ?_ negative⟩
    rw [Nat.cast_zero, zero_div, zero_mul]
    exact isNearest_zero
  obtain ⟨hlow, hhigh⟩ := log2Ratio_bounds hnum hden
  have hlog : log2Ratio num den < 1023 :=
    (zpow_lt_zpow_iff_right₀ one_lt_two).1 (hlow.trans_lt hsmall)
  set e := max (log2Ratio num den - 52) minExponent with he
  have hmin : minExponent = -1074 := rfl
  have hmax : maxExponent = 971 := rfl
  have hsignificand : |(num : ℚ) / den / 2 ^ e - _| ≤ 1 / 2 := abs_sub_significand_le hden e
  unfold ofRatio
  rw [if_neg hnum.ne']
  dsimp only
  rw [← he]
  generalize (if 0 ≤ e then divideToEven num (den * Nat.pow 2 e.toNat)
      else divideToEven (num * Nat.pow 2 (-e).toNat) den) = m at hsignificand ⊢
  have hfits : (num : ℚ) / den < 2 ^ (e + 53) :=
    hhigh.trans_le (zpow_le_zpow_right₀ one_le_two (by omega))
  have hnormal : e = -1074 ∨ (2 : ℚ) ^ (e + 52) ≤ num / den := by
    obtain hsmallest | hlarger := le_or_gt (log2Ratio num den - 52) minExponent
    · exact .inl (by omega)
    · exact .inr (by rwa [show e + 52 = log2Ratio num den by omega])
  have hnear := isNearest_of_scaled (by omega) hfits hnormal hsignificand
  by_cases hfull : m = Nat.pow 2 precision
  · -- the significand has become too long by the rounding
    rw [if_pos hfull]
    dsimp only
    rw [if_neg (by omega)]
    refine ⟨_, rfl, isNearest_signed ?_ negative⟩
    have hcarry : ((Nat.pow 2 precision : ℕ) : ℚ) * 2 ^ e = (Nat.pow 2 52 : ℕ) * 2 ^ (e + 1) := by
      rw [zpow_add_one₀ two_ne_zero, mul_comm ((2 : ℚ) ^ e), ← mul_assoc]
      norm_num [precision]
    rwa [hfull, hcarry] at hnear
  · rw [if_neg hfull]
    dsimp only
    rw [if_neg (by omega)]
    exact ⟨_, rfl, isNearest_signed hnear negative⟩

/-! ## Operations -/

variable {a b : Binary64}

theorem signed_natAbs (i : ℤ) : signed (decide (i < 0)) i.natAbs = i := by
  unfold signed
  split_ifs with h <;> rw [decide_eq_true_eq] at h <;> omega

theorem signed_bne (s t : Bool) (m n : ℕ) :
    signed (s != t) (m * n) = signed s m * signed t n := by
  cases s <;> cases t <;> simp [signed]

theorem abs_signed (negative : Bool) (m : ℕ) : |signed negative m| = m := by
  cases negative <;> simp [signed]

theorem signed_mul (negative : Bool) (m k : ℕ) :
    (signed negative (m * k) : ℚ) = signed negative m * k := by
  cases negative <;> simp [signed]

theorem exists_ofDyadic {negative : Bool} {m : ℕ} {e : ℤ} (hx : signed negative m * 2 ^ e = x)
    (hsmall : |x| < 2 ^ (1023 : ℤ)) :
    ∃ z, (ofDyadic negative m e).value? = some z ∧ IsNearest x z := by
  rw [two_zpow_eq, ← mul_div_assoc, ← signed_mul] at hx
  have habs : ((m * Nat.pow 2 e.toNat : ℕ) : ℚ) / (Nat.pow 2 (-e).toNat : ℕ) = |x| := by
    rw [← hx, abs_div, Nat.abs_cast, ← Int.cast_abs, abs_signed, Int.cast_natCast]
  rw [← habs] at hsmall
  rw [← hx]
  exact exists_ofRatio negative (Nat.two_pow_pos _) hsmall

/-- A number written with a smaller unit. -/
theorem signed_shift {e g : ℤ} (negative : Bool) (m : ℕ) (h : g ≤ e) :
    (signed negative (m * Nat.pow 2 (e - g).toNat) : ℚ) * 2 ^ g = signed negative m * 2 ^ e := by
  rw [signed_mul, ← two_zpow_of_nonneg (by omega), mul_assoc, ← zpow_add₀ two_ne_zero,
    sub_add_cancel]

/-- **The product** of two numbers, if it is not too large, is a nearest number to it. -/
theorem exists_mul (ha : a.value? = some x) (hb : b.value? = some y)
    (hsmall : |x * y| < 2 ^ (1023 : ℤ)) :
    ∃ z, (a.mul b).value? = some z ∧ IsNearest (x * y) z := by
  cases a with
  | finite s m e =>
    cases b with
    | finite t n f =>
      cases ha
      cases hb
      refine exists_ofDyadic ?_ hsmall
      rw [signed_bne, zpow_add₀ two_ne_zero, Int.cast_mul]
      ring
    | nan | infinite => cases hb
  | nan | infinite => cases ha

/-- **The sum** of two numbers, if it is not too large, is a nearest number to it. -/
theorem exists_add (ha : a.value? = some x) (hb : b.value? = some y)
    (hsmall : |x + y| < 2 ^ (1023 : ℤ)) :
    ∃ z, (a.add b).value? = some z ∧ IsNearest (x + y) z := by
  cases a with
  | finite s m e =>
    cases b with
    | finite t n f =>
      cases ha
      cases hb
      have hsum : ((signed s (m * Nat.pow 2 (e - min e f).toNat) +
          signed t (n * Nat.pow 2 (f - min e f).toNat) : ℤ) : ℚ) * 2 ^ min e f =
            signed s m * 2 ^ e + signed t n * 2 ^ f := by
        rw [Int.cast_add, add_mul, signed_shift s m (min_le_left e f),
          signed_shift t n (min_le_right e f)]
      unfold add
      dsimp only
      split_ifs with hzero
      · rw [← hsum, hzero, Int.cast_zero, zero_mul]
        exact ⟨0, by cases s <;> cases t <;> simp [zero, value?, signed], isNearest_zero⟩
      · refine exists_ofDyadic ?_ hsmall
        rw [signed_natAbs, hsum]
    | nan | infinite => cases hb
  | nan | infinite => cases ha

theorem value?_neg (ha : a.value? = some x) : a.neg.value? = some (-x) := by
  cases a with
  | finite s m e =>
    cases ha
    cases s <;> simp [neg, value?, signed]
  | nan | infinite => cases ha

/-- Numbers of 53 bits are far from the largest ones. -/
theorem lt_of_le_two_pow (h : x ≤ 2 ^ 53) : x < 2 ^ (1023 : ℤ) := by
  rw [← zpow_natCast] at h
  exact h.trans_lt (zpow_lt_zpow_right₀ one_lt_two (by decide))

/-- A quotient that is representable is not rounded. -/
theorem value?_ofRatio {negative : Bool} {num den : ℕ} (hden : 0 < den)
    (hx : (signed negative num : ℚ) / den = x) (hrep : Representable x)
    (hsmall : (num : ℚ) / den < 2 ^ (1023 : ℤ)) :
    (ofRatio negative num den).value? = some x := by
  obtain ⟨z, hz, hnear⟩ := exists_ofRatio negative hden hsmall
  rw [hz, ← hx, hnear.eq_of_representable (hx ▸ hrep)]

theorem value?_ofRatio_one {n : ℕ} (h : n ≤ 2 ^ 53) (negative : Bool) :
    (ofRatio negative n 1).value? = some (signed negative n : ℚ) := by
  refine value?_ofRatio one_pos (by rw [Nat.cast_one, div_one]) (representable_intCast ?_) ?_
  · rw [abs_signed]
    exact_mod_cast h
  · rw [Nat.cast_one, div_one]
    exact lt_of_le_two_pow (by exact_mod_cast h)

/-- A whole number of 53 bits is not rounded. -/
theorem value?_ofNat {n : ℕ} (h : n ≤ 2 ^ 53) : (ofNat n).value? = some (n : ℚ) :=
  value?_ofRatio_one h false

/-! ## Order and whole numbers -/

/-- **The order of numbers** is that of the values. -/
theorem le_iff (ha : a.value? = some x) (hb : b.value? = some y) : a.le b ↔ x ≤ y := by
  cases a with
  | finite s m e =>
    cases b with
    | finite t n f =>
      cases ha
      cases hb
      have hpow : (0 : ℚ) < 2 ^ min e f := zpow_pos two_pos _
      rw [← signed_shift s m (min_le_left e f), ← signed_shift t n (min_le_right e f),
        mul_le_mul_iff_left₀ hpow, Int.cast_le]
      unfold le compare?
      dsimp only
      generalize signed s (m * Nat.pow 2 (e - min e f).toNat) = i
      generalize signed t (n * Nat.pow 2 (f - min e f).toNat) = j
      rw [← not_lt, ← compare_gt_iff_gt]
      cases compare i j <;> simp
    | nan | infinite => cases hb
  | nan | infinite => cases ha

theorem eq_zero_of_nonneg {m : ℕ} {e : ℤ} (h : 0 ≤ (signed true m : ℚ) * 2 ^ e) : m = 0 := by
  have hpow : (0 : ℚ) < 2 ^ e := zpow_pos two_pos e
  have hle : 0 ≤ signed true m := by exact_mod_cast nonneg_of_mul_nonneg_left h hpow
  simpa [signed] using hle

theorem value?_clampBelow (ha : a.value? = some x) (hx : 0 ≤ x) : a.clampBelow.value? = some x := by
  cases a with
  | finite s m e =>
    cases ha
    cases s with
    | false => rfl
    | true =>
      rw [eq_zero_of_nonneg hx]
      simp [clampBelow, zero, value?, signed]
  | nan | infinite => cases ha

theorem toNatUpTo_eq (ha : a.value? = some x) (hx : 0 ≤ x) (bound : ℕ) :
    a.toNatUpTo bound = min bound ⌊x⌋₊ := by
  cases a with
  | finite s m e =>
    cases ha
    cases s with
    | false =>
      change min bound (m * Nat.pow 2 e.toNat / Nat.pow 2 (-e).toNat) =
        min bound ⌊((m : ℤ) : ℚ) * 2 ^ e⌋₊
      rw [two_zpow_eq, ← mul_div_assoc, Int.cast_natCast, ← Nat.cast_mul, Nat.floor_div_eq_div]
    | true =>
      rw [eq_zero_of_nonneg hx]
      simp [toNatUpTo, signed]
  | nan | infinite => cases ha

/-- The nearest whole number to a quotient. -/
theorem floor_add_half {num den : ℕ} (hden : 0 < den) :
    ⌊(num : ℚ) / den + 1 / 2⌋₊ = (2 * num + den) / (2 * den) := by
  have hden' : (den : ℚ) ≠ 0 := by exact_mod_cast hden.ne'
  have hsum : (num : ℚ) / den + 1 / 2 = ((2 * num + den : ℕ) : ℚ) / (2 * den : ℕ) := by
    push_cast
    field_simp
  rw [hsum, Nat.floor_div_eq_div]

/-- **The rounding to a whole number** takes the nearest one, and the upper one of two. -/
theorem value?_round (ha : a.value? = some x) (hx : 0 ≤ x) (hx' : x ≤ 2 ^ 52) :
    a.round.value? = some (⌊x + 1 / 2⌋₊ : ℚ) := by
  cases a with
  | finite s m e =>
    cases ha
    have hunit : 0 < Nat.pow 2 (-e).toNat := Nat.two_pow_pos _
    cases s with
    | false =>
      change ((if 0 ≤ e then finite false m e else ofRatio false _ 1) : Binary64).value? = _
      split_ifs with hsign
      · have hwhole : (signed false m : ℚ) * 2 ^ e = (m * Nat.pow 2 e.toNat : ℕ) := by
          rw [two_zpow_of_nonneg hsign, Nat.cast_mul]
          rfl
        have hfloor : ⌊((m * Nat.pow 2 e.toNat : ℕ) : ℚ) + 1 / 2⌋₊ = m * Nat.pow 2 e.toNat :=
          (Nat.floor_eq_iff (by positivity)).2 ⟨by linarith, by linarith⟩
        rw [value?, hwhole, hfloor]
      · have hquot : (signed false m : ℚ) * 2 ^ e = m / (Nat.pow 2 (-e).toNat : ℕ) := by
          rw [two_zpow_of_nonpos (by omega), ← div_eq_mul_inv]
          rfl
        have hbound : ⌊(signed false m : ℚ) * 2 ^ e + 1 / 2⌋₊ ≤ 2 ^ 53 := by
          refine Nat.floor_le_of_le ?_
          push_cast
          linarith
        rw [hquot, floor_add_half hunit] at hbound ⊢
        exact value?_ofRatio_one hbound false
    | true =>
      obtain rfl := eq_zero_of_nonneg hx
      have hfloor : ⌊(signed true 0 : ℚ) * 2 ^ e + 1 / 2⌋₊ = 0 := by norm_num [signed]
      rw [hfloor]
      change ((if 0 ≤ e then finite true 0 e else ofRatio true _ 1) : Binary64).value? = _
      split_ifs with hsign
      · simp [value?, signed]
      · rw [Nat.div_eq_of_lt (by omega), value?_ofRatio_one (Nat.zero_le _)]
        simp [signed]
  | nan | infinite => cases ha

/-- A number between zero and one in the order of numbers. -/
theorem exists_value_of_le (hlow : (ofNat 0).le a) (hhigh : a.le (ofNat 1)) :
    ∃ x, a.value? = some x ∧ 0 ≤ x ∧ x ≤ 1 := by
  cases a with
  | nan => exact absurd hlow (by decide)
  | infinite s => cases s <;> revert hlow hhigh <;> decide
  | finite s m e =>
    refine ⟨_, rfl, ?_, ?_⟩
    · have hzero := (le_iff (value?_ofNat (Nat.zero_le _)) rfl).1 hlow
      rwa [Nat.cast_zero] at hzero
    · have hone := (le_iff rfl (value?_ofNat (by decide))).1 hhigh
      rwa [Nat.cast_one] at hone

end Binary64

end SyncQueue.Number
