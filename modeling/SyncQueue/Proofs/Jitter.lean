import SyncQueue.Proofs.Accepted
import SyncQueue.Proofs.Rounding

/-!
# Delays moved by chance

Chance moves a delay by four operations on binary64 numbers, two of which round, and one more
rounding takes the result to whole milliseconds. What is said here compares the outcome with the
same computation without any rounding, `Backoff.exactMillis`.

* `Backoff.exists_jittered`: the computation, one operation at a time.
* `Backoff.jittered_le`: a delay is doubled at most.
* `Backoff.one_le_jittered`: a delay that is half a millisecond or longer does not vanish.
-/

namespace SyncQueue.Backoff

open Number (Binary64 IsNearest Representable representable_intCast isNearest_zero
  exists_significand)
open Number.Binary64

variable {ratio : Binary64} {ρ : ℚ} {capped : ℕ}

/-- The number in `[0, 1)` that a random word stands for. -/
def unit (word : ℕ) : ℚ := (word / 2 ^ 12 % 2 ^ 52 : ℕ) / 2 ^ 52

/-- The delay that chance has moved, in milliseconds, as it were without rounding. -/
def exactMillis (ratio : ℚ) (capped word : ℕ) : ℚ := capped * (1 + ratio * (2 * unit word - 1))

theorem unit_nonneg (word : ℕ) : 0 ≤ unit word := by
  unfold unit
  positivity

theorem unit_lt_one (word : ℕ) : unit word < 1 := by
  rw [unit, div_lt_one (by positivity)]
  exact_mod_cast Nat.mod_lt _ (Nat.two_pow_pos 52)

/-- Half a whole number of 53 bits and the like are not rounded. -/
theorem representable_div {n : ℤ} {k : ℕ} (h : |n| ≤ 2 ^ 53) (hk : k ≤ 1074) :
    Representable (n / 2 ^ k) :=
  ⟨n, -k, h, by omega, by rw [zpow_neg, zpow_natCast, div_eq_mul_inv]⟩

theorem value?_unitOfWord (word : ℕ) : (unitOfWord word).value? = some (unit word) := by
  have hlt : word / 2 ^ 12 % 2 ^ 52 < 2 ^ 52 := Nat.mod_lt _ (Nat.two_pow_pos 52)
  have hunit : (signed false (word / 2 ^ 12 % 2 ^ 52) : ℚ) / (2 ^ 52 : ℕ) = unit word := by
    rw [unit, Nat.cast_pow, Nat.cast_ofNat]
    rfl
  refine value?_ofRatio (Nat.two_pow_pos 52) hunit ?_ (lt_of_le_two_pow ?_)
  · exact representable_div (by rw [Nat.abs_cast]; omega) (by decide)
  · change (signed false (word / 2 ^ 12 % 2 ^ 52) : ℚ) / (2 ^ 52 : ℕ) ≤ 2 ^ 53
    rw [hunit]
    linarith [unit_lt_one word]

/-- The part of the amplitude by which chance moves a delay is not rounded. -/
theorem value?_sway (word : ℕ) :
    (((ofNat 2).mul (unitOfWord word)).sub (ofNat 1)).value? = some (2 * unit word - 1) := by
  have hlt : word / 2 ^ 12 % 2 ^ 52 < 2 ^ 52 := Nat.mod_lt _ (Nat.two_pow_pos 52)
  have hunit := unit_nonneg word
  have hunit' := unit_lt_one word
  have hdouble : 2 * unit word = ((word / 2 ^ 12 % 2 ^ 52 : ℕ) : ℤ) / 2 ^ 51 := by
    rw [unit, Int.cast_natCast]
    ring
  have hdouble' : 2 * unit word - 1 = ((word / 2 ^ 12 % 2 ^ 52 : ℕ) - 2 ^ 51 : ℤ) / 2 ^ 51 := by
    rw [hdouble, Int.cast_sub]
    norm_num
    ring
  obtain ⟨twice, htwice, hnear⟩ := exists_mul (value?_ofNat (n := 2) (by decide))
    (value?_unitOfWord word) (lt_of_le_two_pow (by
      rw [Nat.cast_ofNat, abs_of_nonneg (by linarith)]
      linarith))
  rw [Nat.cast_ofNat] at hnear
  obtain rfl : twice = 2 * unit word := by
    refine hnear.eq_of_representable ?_
    rw [hdouble]
    exact representable_div (by rw [Nat.abs_cast]; omega) (by decide)
  obtain ⟨sway, hsway, hnear'⟩ := exists_add htwice (value?_neg (value?_ofNat (n := 1) (by decide)))
    (lt_of_le_two_pow (by
      rw [Nat.cast_one, abs_le]
      constructor <;> linarith))
  rw [Nat.cast_one, ← sub_eq_add_neg] at hnear'
  rw [sub, hsway, hnear'.eq_of_representable ?_]
  rw [hdouble']
  refine representable_div ?_ (by decide)
  rw [abs_le]
  omega

theorem abs_sway_le_one (word : ℕ) : |2 * unit word - 1| ≤ 1 := by
  have hunit := unit_nonneg word
  have hunit' := unit_lt_one word
  rw [abs_le]
  constructor <;> linarith

theorem representable_natCast {n : ℕ} (h : n ≤ 2 ^ 53) : Representable n := by
  rw [← Int.cast_natCast]
  exact representable_intCast (by rw [Nat.abs_cast]; omega)

/-- The amplitude is the nearest value to a part of the delay, and at most the delay. -/
theorem exists_amplitude (hratio : ratio.value? = some ρ) (hlow : 0 ≤ ρ) (hhigh : ρ ≤ 1)
    (hcapped : capped ≤ 2 ^ 51) :
    ∃ amplitude, ((ofNat capped).mul ratio).value? = some amplitude ∧
      IsNearest (capped * ρ) amplitude ∧ 0 ≤ amplitude ∧ amplitude ≤ capped := by
  have hcapped' : (capped : ℚ) ≤ 2 ^ 51 := by exact_mod_cast hcapped
  have hnonneg : (0 : ℚ) ≤ capped := Nat.cast_nonneg capped
  have hpart : (capped : ℚ) * ρ ≤ capped := mul_le_of_le_one_right hnonneg hhigh
  have hpart' : 0 ≤ (capped : ℚ) * ρ := mul_nonneg hnonneg hlow
  have hbounded : |(capped : ℚ) * ρ| ≤ 2 ^ 53 := by
    rw [abs_of_nonneg hpart']
    linarith
  obtain ⟨amplitude, hvalue, hnear⟩ := exists_mul (value?_ofNat (by omega)) hratio
    (lt_of_le_two_pow hbounded)
  exact ⟨amplitude, hvalue, hnear, hnear.ge_of_ge isNearest_zero.representable hpart',
    hnear.le_of_le (representable_natCast (by omega)) hpart⟩

/-- What chance adds is the nearest value to a part of the amplitude, on either side. -/
theorem exists_offset {x : Binary64} {amplitude : ℚ} (hx : x.value? = some amplitude)
    (hlow : 0 ≤ amplitude) (hhigh : amplitude ≤ capped) (hcapped : capped ≤ 2 ^ 51)
    (word : ℕ) :
    ∃ offset, (x.mul (((ofNat 2).mul (unitOfWord word)).sub (ofNat 1))).value? = some offset ∧
      IsNearest (amplitude * (2 * unit word - 1)) offset ∧ |offset| ≤ capped := by
  have hcapped' : (capped : ℚ) ≤ 2 ^ 51 := by exact_mod_cast hcapped
  have hrep : Representable capped := representable_natCast (by omega)
  have hsway : |amplitude * (2 * unit word - 1)| ≤ capped := by
    rw [abs_mul, abs_of_nonneg hlow]
    exact (mul_le_of_le_one_right hlow (abs_sway_le_one word)).trans hhigh
  obtain ⟨offset, hvalue, hnear⟩ := exists_mul hx (value?_sway word)
    (lt_of_le_two_pow (by linarith))
  rw [abs_le] at hsway
  exact ⟨offset, hvalue, hnear, abs_le.2 ⟨hnear.ge_of_ge hrep.neg hsway.1,
    hnear.le_of_le hrep hsway.2⟩⟩

/-- **A delay moved by chance**, one operation at a time. -/
theorem exists_jittered (hratio : ratio.value? = some ρ) (hlow : 0 ≤ ρ) (hhigh : ρ ≤ 1)
    (hcapped : capped ≤ 2 ^ 51) (word : ℕ) :
    ∃ amplitude offset total : ℚ, IsNearest (capped * ρ) amplitude ∧
      IsNearest (amplitude * (2 * unit word - 1)) offset ∧ IsNearest (capped + offset) total ∧
      0 ≤ amplitude ∧ 0 ≤ total ∧ total ≤ 2 * capped ∧
      jittered ratio capped word = ⌊total + 1 / 2⌋₊ := by
  have hcapped' : (capped : ℚ) ≤ 2 ^ 51 := by exact_mod_cast hcapped
  obtain ⟨amplitude, hamplitude, hnear, hleast, hmost⟩ :=
    exists_amplitude hratio hlow hhigh hcapped
  obtain ⟨offset, hoffset, hnear', hbounds⟩ :=
    exists_offset hamplitude hleast hmost hcapped word
  rw [abs_le] at hbounds
  have hsum : |(capped : ℚ) + offset| ≤ 2 ^ 53 := by
    rw [abs_of_nonneg (by linarith)]
    linarith
  obtain ⟨total, htotal, hnear''⟩ := exists_add (value?_ofNat (by omega)) hoffset
    (lt_of_le_two_pow hsum)
  have htwice : Representable (2 * capped) := by
    have hwhole := representable_natCast (show 2 * capped ≤ 2 ^ 53 by omega)
    rwa [Nat.cast_mul, Nat.cast_ofNat] at hwhole
  have htotal' : total ≤ 2 * capped := hnear''.le_of_le htwice (by linarith)
  have hpos : 0 ≤ total := hnear''.ge_of_ge isNearest_zero.representable (by linarith)
  refine ⟨amplitude, offset, total, hnear, hnear', hnear'', hleast, hpos, htotal', ?_⟩
  have hround := value?_round htotal hpos (by linarith)
  have hclamp := value?_clampBelow hround (Nat.cast_nonneg _)
  have hresult := toNatUpTo_eq hclamp (Nat.cast_nonneg _) maxMillis
  rw [Nat.floor_natCast] at hresult
  have hmax : maxMillis = 18446744073709551615 := rfl
  have hfits : ⌊total + 1 / 2⌋₊ ≤ maxMillis := by
    refine Nat.floor_le_of_le ?_
    rw [hmax]
    push_cast
    linarith
  exact hresult.trans (min_eq_right hfits)

/-- **Chance doubles a delay** at most. -/
theorem jittered_le (hratio : ratio.value? = some ρ) (hlow : 0 ≤ ρ) (hhigh : ρ ≤ 1)
    (hcapped : capped ≤ 2 ^ 51) (word : ℕ) : jittered ratio capped word ≤ 2 * capped := by
  obtain ⟨-, -, total, -, -, -, -, -, hmost, hjittered⟩ :=
    exists_jittered hratio hlow hhigh hcapped word
  have hlt : total + 1 / 2 < (2 * capped + 1 : ℕ) := by
    push_cast
    linarith
  rw [hjittered]
  exact Nat.lt_succ_iff.1 ((Nat.floor_lt' (Nat.succ_ne_zero _)).2 hlt)

/-- **A delay of half a millisecond** or more, exactly computed, is not rounded away, whatever the
roundings before did to it. -/
theorem one_le_jittered (hratio : ratio.value? = some ρ) (hlow : 0 ≤ ρ) (hhigh : ρ ≤ 1)
    (hpos : 1 ≤ capped) (hcapped : capped ≤ 2 ^ 51) {word : ℕ}
    (hexact : 1 / 2 ≤ exactMillis ρ capped word) : 1 ≤ jittered ratio capped word := by
  obtain ⟨amplitude, offset, total, hnear, hnear', hnear'', hleast, -, -, hjittered⟩ :=
    exists_jittered hratio hlow hhigh hcapped word
  have hpos' : (1 : ℚ) ≤ capped := by exact_mod_cast hpos
  have hsway := abs_le.1 (abs_sway_le_one word)
  -- what chance takes away leaves half a millisecond
  have hoffset : -offset ≤ capped - 1 / 2 := by
    obtain hup | hdown := le_total 0 (2 * unit word - 1)
    · have hgain : 0 ≤ offset :=
        hnear'.ge_of_ge isNearest_zero.representable (mul_nonneg hleast hup)
      linarith
    · obtain ⟨m, k, hk, hm, hm', hlt, heq⟩ :=
        exists_significand (n := 2 * capped - 1) (by omega) (by omega)
      rw [Nat.cast_sub (by omega), Nat.cast_mul, Nat.cast_ofNat, Nat.cast_one] at heq
      have hhalf : (capped : ℚ) - 1 / 2 = m * 2 ^ (k - 53 : ℤ) := by
        rw [show (k : ℤ) - 53 = k - 52 - 1 by omega, zpow_sub_one₀ two_ne_zero, ← mul_assoc, ← heq]
        ring
      rw [hhalf]
      have hloss := hnear'.neg
      rw [← mul_neg] at hloss
      refine hnear.mul_le hloss (by linarith) (by linarith) hm hm' (by omega) ?_ ?_
      · have hle : capped ≤ 2 ^ k := by
          rw [Nat.pow_succ] at hlt
          omega
        rw [sub_add_cancel, zpow_natCast, abs_of_nonneg (by positivity)]
        calc (capped : ℚ) * ρ ≤ capped := mul_le_of_le_one_right (Nat.cast_nonneg _) hhigh
          _ ≤ 2 ^ k := by exact_mod_cast hle
      · rw [← hhalf]
        unfold exactMillis at hexact
        linarith
  have hhalf : Representable (1 / 2) := ⟨1, -1, by decide, by decide, by norm_num⟩
  have htotal : 1 / 2 ≤ total := hnear''.ge_of_ge hhalf (by linarith)
  rw [hjittered]
  exact Nat.le_floor (by push_cast; linarith)

end SyncQueue.Backoff
