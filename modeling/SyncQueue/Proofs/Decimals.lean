import Mathlib.Algebra.Group.Nat.Defs
import SyncQueue.Proofs.Literals

/-!
# Decimals read back

A number with a fraction is written as a decimal with a point, with an exponent, or with both, so it
is never read as a whole number. It is read as some number if it is written with few digits before
the point and does not carry a positive exponent: nothing is out of range then. Numbers up to one
are written like that. Which number is read is not said here: two roundings lie in between.

* `Number.Binary64.Scientific.top`: how many digits a decimal has before its point.
* `Number.Binary64.top_shortest_le`: the shortest decimal of a number up to one.
* `Json.NumberText.ofScientific`: a decimal as it is written.
* `Json.NumberText.exists_value?_ofScientific`: a decimal that is not too large is read as some
  number.
-/

namespace SyncQueue

open Text (natDigits intDigits)

/-! ## Digits before the point -/

namespace Number.Binary64

variable {m d : Nat} {e g : Int} {tie : Tie}

/-- The number of digits before the point, less the zeros that follow the point if there are none
before it. -/
def Scientific.top (x : Scientific) : Int := (natDigits x.digits).length + x.exponent

theorem length_natDigits_pos (n : Nat) : 0 < (natDigits n).length :=
  List.length_pos_iff.2 (Text.natDigits_ne_nil n)

theorem top_le_one (hg : g ≤ 0) (h : d < 10 ^ ((-g).toNat + 1)) : Scientific.top ⟨d, g⟩ ≤ 1 := by
  have hlength : (natDigits d).length ≤ (-g).toNat + 1 :=
    (Nat.length_toDigits_le_iff (by decide) (by omega)).2 h
  simp only [Scientific.top]
  omega

theorem log10Ratio_nonpos {num den : Nat} (hden : 0 < den) (h : num ≤ den) :
    log10Ratio num den ≤ 0 := by
  unfold log10Ratio
  split
  · rename_i hle
    obtain rfl : num = den := Nat.le_antisymm h hle
    rw [Nat.div_self hden]
    decide
  · have hlength := length_natDigits_pos (den / num)
    dsimp only
    split <;> omega

/-- A multiple that reads back is one of the two around the number. -/
theorem onGrid?_cases (h : onGrid? tie m e g = some d) :
    let below := m * Nat.pow 2 e.toNat * Nat.pow 10 (-g).toNat /
      (Nat.pow 2 (-e).toNat * Nat.pow 10 g.toNat)
    d = below ∨ d = below + 1 := by
  unfold onGrid? at h
  dsimp only at h ⊢
  split at h
  · split at h
    · cases h
      exact .inl rfl
    · cases h
      exact .inr rfl
    · cases tie with
      | toEven =>
        dsimp only at h
        split at h
        · cases h
          exact .inl rfl
        · cases h
          exact .inr rfl
      | away =>
        cases h
        exact .inr rfl
  · cases h
    exact .inl rfl
  · cases h
    exact .inr rfl
  · cases h

theorem onGrid?_le (hle : m * Nat.pow 2 e.toNat ≤ Nat.pow 2 (-e).toNat) (hg : g ≤ 0)
    (h : onGrid? tie m e g = some d) : d ≤ 10 ^ (-g).toNat + 1 := by
  have hbelow : m * Nat.pow 2 e.toNat * Nat.pow 10 (-g).toNat /
      (Nat.pow 2 (-e).toNat * Nat.pow 10 g.toNat) ≤ 10 ^ (-g).toNat := by
    have hunit : Nat.pow 10 g.toNat = 1 := by rw [Int.toNat_of_nonpos hg, Nat.pow_eq, Nat.pow_zero]
    rw [hunit, Nat.mul_one]
    exact Nat.div_le_of_le_mul (Nat.mul_le_mul_right _ hle)
  have hcases := onGrid?_cases h
  dsimp only at hcases
  omega

/-- Zeros that are moved into the exponent were digits before the point, and still are. -/
theorem top_dropZeros (fuel : Nat) (x : Scientific) : (dropZeros fuel x).top = x.top := by
  induction fuel generalizing x with
  | zero => rfl
  | succ fuel ih =>
    rw [dropZeros]
    split
    · rename_i hzero
      simp only [Bool.and_eq_true, decide_eq_true_eq, bne_iff_ne] at hzero
      have hdigits : natDigits x.digits = natDigits (x.digits / 10) ++ [(x.digits % 10).digitChar] :=
        Nat.toDigits_of_base_le (by decide) (by omega)
      rw [ih]
      simp only [Scientific.top, hdigits, List.length_append, List.length_singleton]
      omega
    · rfl

theorem exponent_nonpos (hm : 0 < m) (hle : m * 2 ^ e.toNat ≤ 2 ^ (-e).toNat) : e ≤ 0 := by
  by_contra hpos
  have hunit : 2 ^ (-e).toNat = 1 := by rw [Int.toNat_of_nonpos (by omega), Nat.pow_zero]
  have htwo : 2 ^ 1 ≤ 2 ^ e.toNat := Nat.pow_le_pow_right (by decide) (by omega)
  have hmul := Nat.mul_le_mul hm htwo
  omega

/-- **The shortest decimal of a number up to one** has at most one digit before the point. -/
theorem top_shortest_le (tie : Tie) (hle : m * Nat.pow 2 e.toNat ≤ Nat.pow 2 (-e).toNat) :
    (shortest tie m e).top ≤ 1 := by
  unfold shortest
  split
  · decide
  rename_i hm
  dsimp only
  generalize hfound : List.findSome? _ _ = found
  cases found with
  | some x =>
    obtain ⟨n, -, hgrid⟩ := List.exists_of_findSome?_eq_some hfound
    obtain ⟨d, hd, rfl⟩ := Option.map_eq_some_iff.1 hgrid
    have hlog := log10Ratio_nonpos (Nat.two_pow_pos _) hle
    generalize log10Ratio _ _ = k at hd hlog
    have hg : k - (n : Int) ≤ 0 := by omega
    have hbound := onGrid?_le hle hg hd
    have hpow : 1 ≤ 10 ^ (-(k - (n : Int))).toNat := Nat.one_le_pow _ _ (by decide)
    rw [Option.getD_some, top_dropZeros]
    exact top_le_one hg (by rw [Nat.pow_succ]; omega)
  | none =>
    -- seventeen digits always suffice, but the bound holds without knowing that
    rw [Option.getD_none]
    simp only [Nat.pow_eq] at hle
    have hm' : m ≤ 2 ^ (-e).toNat :=
      Nat.le_trans (Nat.le_mul_of_pos_right m Nat.one_le_two_pow) hle
    have he := exponent_nonpos (Nat.pos_of_ne_zero hm) hle
    refine top_le_one he (Nat.lt_of_le_of_lt hm' ?_)
    calc 2 ^ (-e).toNat ≤ 10 ^ (-e).toNat := Nat.pow_le_pow_left (by decide) _
      _ < 10 ^ ((-e).toNat + 1) := Nat.pow_lt_pow_right (by decide) (Nat.lt_succ_self _)

end Number.Binary64

/-! ## Decimals as they are written -/

namespace Json.NumberText

open Number.Binary64 (Scientific)
open Json.Tree (IsDigits)

variable {n : NumberText} {x : Scientific} {negative : Bool}

/-- A decimal as it is written. -/
def ofScientific (negative : Bool) (x : Scientific) : NumberText :=
  let ds := natDigits x.digits
  let places := (-x.exponent).toNat
  if x.digits = 0 then ⟨negative, ['0'], some ['0'], none⟩
  else if 0 ≤ x.exponent && x.top ≤ 16 then
    ⟨negative, ds ++ List.replicate x.exponent.toNat '0', some ['0'], none⟩
  else if -5 < x.top && x.top ≤ 16 then
    if places < ds.length then
      ⟨negative, ds.take (ds.length - places), some (ds.drop (ds.length - places)), none⟩
    else ⟨negative, ['0'], some (List.replicate (places - ds.length) '0' ++ ds), none⟩
  else
    ⟨negative, ds.take 1, if (ds.drop 1).isEmpty then none else some (ds.drop 1),
      some (decide (x.top - 1 < 0), natDigits (x.top - 1).natAbs)⟩

theorem exponentChars_some (i : Int) :
    exponentChars (some (decide (i < 0), natDigits i.natAbs)) = 'e' :: intDigits i := by
  cases i with
  | ofNat m => rfl
  | negSucc m => simp [exponentChars, intDigits]

theorem magnitude_ofScientific (negative : Bool) (x : Scientific) :
    (ofScientific negative x).magnitude = Number.Binary64.pointed x := by
  have htop : ((natDigits x.digits).length : Int) + x.exponent = x.top := rfl
  unfold ofScientific Number.Binary64.pointed Number.Binary64.positional
  simp only [htop, Bool.and_eq_true, decide_eq_true_eq]
  by_cases hzero : x.digits = 0
  · simp only [if_pos hzero]
    rfl
  by_cases hwhole : 0 ≤ x.exponent ∧ x.top ≤ 16
  · simp [if_neg hzero, if_pos hwhole, if_pos hwhole.1, magnitude, fractionChars, exponentChars]
  by_cases hpoint : -5 < x.top ∧ x.top ≤ 16
  · have hexponent : ¬0 ≤ x.exponent := fun h => hwhole ⟨h, hpoint.2⟩
    simp only [if_neg hzero, if_neg hwhole, if_pos hpoint, if_neg hexponent]
    split
    · simp [magnitude, fractionChars, exponentChars]
    · simp [magnitude, fractionChars, exponentChars]
  · simp only [if_neg hzero, if_neg hwhole, if_neg hpoint, magnitude, exponentChars_some]
    split <;> simp [fractionChars]

/-- A decimal as it is written is the text of a number. -/
theorem chars_ofScientific (negative : Bool) (x : Scientific) :
    (ofScientific negative x).chars =
      (Number.Binary64.signText negative (Number.Binary64.pointed x)).toList := by
  have hsign : (ofScientific negative x).negative = negative := by
    unfold ofScientific
    dsimp only
    split_ifs <;> rfl
  rw [chars, hsign, magnitude_ofScientific]
  cases negative <;> simp [Number.Binary64.signText]

theorem isDigits_of_mem {m : Nat} {cs : List Char} (hne : cs ≠ [])
    (h : ∀ c ∈ cs, c = '0' ∨ c ∈ natDigits m) : IsDigits cs := by
  refine ⟨hne, fun c hc => ?_⟩
  obtain rfl | hc := h c hc
  · rfl
  · exact Text.isDigit_of_mem_natDigits hc

/-- The ways to write a decimal: zero, digits with zeros behind them, a point among the digits, a
point before them, and an exponent. -/
theorem ofScientific_cases {P : NumberText → Prop} (negative : Bool) (x : Scientific)
    (hzero : P ⟨negative, ['0'], some ['0'], none⟩)
    (hwhole : x.digits ≠ 0 → 0 ≤ x.exponent → x.top ≤ 16 →
      P ⟨negative, natDigits x.digits ++ List.replicate x.exponent.toNat '0', some ['0'], none⟩)
    (hinside : ∀ places, x.digits ≠ 0 → 0 < places → places < (natDigits x.digits).length →
      ((natDigits x.digits).length : Int) - places ≤ 16 →
      P ⟨negative, (natDigits x.digits).take ((natDigits x.digits).length - places),
        some ((natDigits x.digits).drop ((natDigits x.digits).length - places)), none⟩)
    (hbelow : ∀ zeros, P ⟨negative, ['0'], some (List.replicate zeros '0' ++ natDigits x.digits),
      none⟩)
    (hexponent : ∀ fraction, ¬(-5 < x.top ∧ x.top ≤ 16) →
      (∀ ds ∈ fraction, ds ≠ [] ∧ ds = (natDigits x.digits).drop 1) →
      P ⟨negative, (natDigits x.digits).take 1, fraction,
        some (decide (x.top - 1 < 0), natDigits (x.top - 1).natAbs)⟩) :
    P (ofScientific negative x) := by
  have htop : x.top = (natDigits x.digits).length + x.exponent := rfl
  unfold ofScientific
  simp only [Bool.and_eq_true, decide_eq_true_eq]
  split_ifs with hdigits hbounds hpoint hplaces hlast
  · exact hzero
  · exact hwhole hdigits hbounds.1 hbounds.2
  · exact hinside _ hdigits (by omega) hplaces (by omega)
  · exact hbelow _
  · exact hexponent none hpoint (by simp)
  · exact hexponent (some _) hpoint (by simpa using hlast)

/-- **A decimal as it is written** follows the grammar. -/
theorem wellFormed_ofScientific (negative : Bool) (x : Scientific) :
    (ofScientific negative x).WellFormed := by
  have hzeros : IsDigits ['0'] := ⟨List.cons_ne_nil _ _, by simp⟩
  have hpos := Number.Binary64.length_natDigits_pos x.digits
  have hhead (h : x.digits ≠ 0) : (natDigits x.digits).head? ≠ some '0' :=
    fun hhead => h (head?_natDigits hhead)
  have hdrop (n : Nat) (hn : (natDigits x.digits).drop n ≠ []) :
      IsDigits ((natDigits x.digits).drop n) :=
    isDigits_of_mem hn fun c hc => .inr (List.mem_of_mem_drop hc)
  have htake (n : Nat) (hn : n ≠ 0) : IsDigits ((natDigits x.digits).take n) :=
    isDigits_of_mem (by simp [Text.natDigits_ne_nil, hn]) fun c hc => .inr (List.mem_of_mem_take hc)
  refine ofScientific_cases negative x ?zero ?whole ?inside ?below ?exponent
  case zero => exact ⟨hzeros, fun _ => rfl, by simpa using hzeros, by simp⟩
  case whole =>
    intro hdigits _ _
    refine ⟨isDigits_of_mem (m := x.digits) ?_ ?_, fun h => absurd ?_ (hhead hdigits),
      by simpa using hzeros, by simp⟩
    · simp [Text.natDigits_ne_nil]
    · intro c hc
      simp only [List.mem_append, List.mem_replicate] at hc
      tauto
    · rwa [List.head?_append_of_ne_nil _ (Text.natDigits_ne_nil _)] at h
  case inside =>
    intro places hdigits hplaces hplaces' _
    refine ⟨htake _ (by omega), fun h => absurd ?_ (hhead hdigits), ?_, by simp⟩
    · rwa [List.head?_take, if_neg (by omega)] at h
    · simpa using hdrop _ (by simp; omega)
  case below =>
    intro zeros
    have hafter : IsDigits (List.replicate zeros '0' ++ natDigits x.digits) := by
      refine isDigits_of_mem (m := x.digits) (by simp [Text.natDigits_ne_nil]) fun c hc => ?_
      simp only [List.mem_append, List.mem_replicate] at hc
      tauto
    exact ⟨hzeros, fun _ => rfl, by simpa using hafter, by simp⟩
  case exponent =>
    intro fraction _ hfraction
    refine ⟨htake 1 (by decide), fun _ => ?_, fun ds hds => ?_, fun e he => ?_⟩
    · simp only [List.length_take]
      omega
    · obtain ⟨hne, rfl⟩ := hfraction ds hds
      exact hdrop 1 hne
    · cases he
      exact isDigits_natDigits _

/-! ## The value of a decimal -/

/-- With one digit more a number has one digit more, and up to nineteen of them always fit. -/
theorem next_lt {m k : Nat} {c : Char} (hc : c.isDigit) (hm : m < 10 ^ k) (hk : k + 1 ≤ 19) :
    m * 10 + (c.toNat - '0'.toNat) < 10 ^ (k + 1) ∧
      ¬maxWhole < m * 10 + (c.toNat - '0'.toNat) := by
  have hdigit := (Text.toNat_of_isDigit hc).2
  have hzero : '0'.toNat = 48 := rfl
  have hpow : 10 ^ (k + 1) = 10 ^ k * 10 := Nat.pow_succ ..
  have hfits : 10 ^ (k + 1) ≤ 10 ^ 19 := Nat.pow_le_pow_right (by decide) hk
  have hmax : maxWhole = 18446744073709551615 := rfl
  omega

/-- A number with few digits is taken as a whole. -/
theorem takeDigits_of_lt {m k : Nat} {ds : List Char} (hds : ∀ c ∈ ds, c.isDigit)
    (hm : m < 10 ^ k) (hk : k + ds.length ≤ 19) :
    ∃ r < 10 ^ (k + ds.length), takeDigits m ds = (r, 0) := by
  induction ds generalizing m k with
  | nil => exact ⟨m, hm, rfl⟩
  | cons c ds ih =>
    obtain ⟨hnext, hfits⟩ := next_lt (hds c List.mem_cons_self) hm
      (by rw [List.length_cons] at hk; omega)
    rw [takeDigits, if_neg hfits]
    rw [List.length_cons, Nat.add_comm ds.length, ← Nat.add_assoc] at hk ⊢
    exact ih (fun d hd => hds d (List.mem_cons_of_mem c hd)) hnext hk

theorem takeDigits_snd_le (m : Nat) (ds : List Char) : (takeDigits m ds).2 ≤ ds.length := by
  induction ds generalizing m with
  | nil => exact Nat.le_refl 0
  | cons c ds ih =>
    rw [takeDigits]
    split
    · simp
    · exact Nat.le_succ_of_le (ih _)

/-- Behind a number with few digits at least one more is taken. -/
theorem takeDigits_snd_lt {m : Nat} {ds : List Char} (hds : IsDigits ds) (hm : m < 10 ^ 18) :
    (takeDigits m ds).2 < ds.length := by
  obtain ⟨c, ds, rfl⟩ := List.exists_cons_of_ne_nil hds.1
  have hfits := (next_lt (hds.2 c List.mem_cons_self) hm (by decide)).2
  rw [takeDigits, if_neg hfits, List.length_cons]
  exact Nat.lt_succ_of_le (takeDigits_snd_le _ ds)

/-- The digits of a number that are taken, and the power of ten that they count. -/
def taken (n : NumberText) : Nat × Int :=
  let (digits, dropped) := takeDigits 0 n.whole
  match n.fraction with
  | none => (digits, dropped)
  | some ds =>
    let (digits, ignored) := takeDigits digits ds
    (digits, (dropped : Int) - (ds.length - ignored : Nat))

/-- If all digits before the point are taken, the power of ten is the place of the last digit that
is taken behind it. -/
theorem taken_snd (h : n.WellFormed) (hwhole : n.whole.length ≤ 18) :
    n.taken.2 ≤ 0 ∧ (n.fraction ≠ none → n.taken.2 < 0) := by
  obtain ⟨m, hm, htake⟩ := takeDigits_of_lt (m := 0) (k := 0) h.whole.2 (by decide) (by omega)
  rw [taken, htake]
  cases hfraction : n.fraction with
  | none => simp
  | some ds =>
    have hm' : m < 10 ^ 18 := by
      refine Nat.lt_of_lt_of_le hm (Nat.pow_le_pow_right (by decide) ?_)
      omega
    have hlast := takeDigits_snd_lt (h.fraction ds hfraction) hm'
    dsimp only
    omega

theorem real?_eq (n : NumberText) : n.real? =
    match n.exponent with
    | none => (scaled? n.taken.1 n.taken.2).map (withSign n.negative)
    | some (negative, ds) =>
      let shift := Nat.ofDigitChars 10 ds 0
      if maxExponent < shift then
        if n.taken.1 != 0 && !negative then none else some (withSign n.negative (.zero false))
      else
        (scaled? n.taken.1 (if negative then n.taken.2 - shift else n.taken.2 + shift)).map
          (withSign n.negative) := by
  rfl

/-- A number below its digits is never out of range. -/
theorem scaled?_of_neg (digits : Nat) {e : Int} (he : e < 0) :
    scaled? digits e = some (scaleDown 4 (.ofNat digits) e) := by
  rw [scaled?, if_neg (by omega), if_neg (by omega)]

theorem exists_real?_of_point (h : n.WellFormed) (hwhole : n.whole.length ≤ 18)
    (hfraction : n.fraction ≠ none) (hexponent : n.exponent = none) :
    ∃ y, n.real? = some y := by
  have hneg := (taken_snd h hwhole).2 hfraction
  rw [real?_eq, hexponent]
  exact ⟨_, by rw [scaled?_of_neg _ hneg, Option.map_some]⟩

theorem exists_real?_of_exponent {ds : List Char} (h : n.WellFormed) (hwhole : n.whole.length ≤ 18)
    (hexponent : n.exponent = some (true, ds)) (hds : 0 < Nat.ofDigitChars 10 ds 0) :
    ∃ y, n.real? = some y := by
  have hle := (taken_snd h hwhole).1
  rw [real?_eq, hexponent]
  dsimp only
  split
  · exact ⟨_, if_neg (by simp)⟩
  · have hneg : n.taken.2 - Nat.ofDigitChars 10 ds 0 < 0 := by omega
    exact ⟨_, by rw [if_pos rfl, scaled?_of_neg _ hneg, Option.map_some]⟩

/-- What has a point or an exponent is not a whole number. -/
theorem value?_of_real? {y : Number.Binary64} (hparts : n.fraction ≠ none ∨ n.exponent ≠ none)
    (hreal : n.real? = some y) : n.value? = some (.number y) := by
  have hwhole : (n.fraction.isNone && n.exponent.isNone) = false := by
    cases hfraction : n.fraction <;> cases hexponent : n.exponent <;> simp_all
  rw [value?]
  simp only [hwhole, Bool.false_and, Bool.false_eq_true, if_false, hreal, Option.map_some]

/-- **A decimal that is not too large** is read as some number. -/
theorem exists_value?_ofScientific (negative : Bool) (htop : x.top ≤ 16) :
    ∃ y, (ofScientific negative x).value? = some (.number y) := by
  have hpointed {n : NumberText} (hwhole : n.whole.length ≤ 18) (hfraction : n.fraction ≠ none)
      (hexponent : n.exponent = none) (h : n.WellFormed) : ∃ y, n.value? = some (.number y) := by
    obtain ⟨y, hy⟩ := exists_real?_of_point h hwhole hfraction hexponent
    exact ⟨y, value?_of_real? (.inl hfraction) hy⟩
  -- the grammar is carried through the cases, since the digits are read by it
  suffices h : (ofScientific negative x).WellFormed →
      ∃ y, (ofScientific negative x).value? = some (.number y) from
    h (wellFormed_ofScientific negative x)
  refine ofScientific_cases (P := fun n => n.WellFormed → ∃ y, n.value? = some (.number y))
    negative x ?zero ?whole ?inside ?below ?exponent
  case zero => exact hpointed (by simp) (by simp) rfl
  case whole =>
    intro _ hexponent htop
    refine hpointed ?_ (by simp) rfl
    simp only [Scientific.top] at htop
    simp only [List.length_append, List.length_replicate]
    omega
  case inside =>
    intro places _ _ _ hplaces
    refine hpointed ?_ (by simp) rfl
    simp only [List.length_take]
    omega
  case below => exact fun zeros => hpointed (by simp) (by simp) rfl
  case exponent =>
    intro fraction hpoint _ h
    have hsign : x.top - 1 < 0 := by omega
    have hshift : Nat.ofDigitChars 10 (natDigits (x.top - 1).natAbs) 0 = (x.top - 1).natAbs :=
      Nat.ofDigitChars_ten_toDigits
    have hfirst : ((natDigits x.digits).take 1).length ≤ 18 := by
      rw [List.length_take]
      omega
    rw [decide_eq_true hsign] at h ⊢
    obtain ⟨y, hy⟩ := exists_real?_of_exponent h hfirst rfl (by rw [hshift]; omega)
    exact ⟨y, value?_of_real? (.inr (by simp)) hy⟩

end Json.NumberText

end SyncQueue
