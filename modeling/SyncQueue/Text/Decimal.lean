/-!
# Whole numbers in decimal

Writing whole numbers and reading them back: `natural?_natDigits` and `integer?_intDigits` say that
what is written is read as the same number. Reading accepts a sign in front, at least one ASCII digit,
and nothing else; leading zeros are allowed.
-/

namespace SyncQueue.Text

/-- The decimal digits of a natural number, without leading zeros. -/
def natDigits (n : Nat) : List Char := Nat.toDigits 10 n

/-- The decimal text of an integer: a minus sign in front of negative ones only. -/
def intDigits : Int → List Char
  | .ofNat n => natDigits n
  | .negSucc n => '-' :: natDigits (n + 1)

/-- `n` with at least `width` digits. -/
def padded (width n : Nat) : List Char :=
  let ds := natDigits n
  List.replicate (width - ds.length) '0' ++ ds

/-- The number written by one or more decimal digits. -/
def digits? (cs : List Char) : Option Nat :=
  if cs.isEmpty || !cs.all Char.isDigit then none else some (Nat.ofDigitChars 10 cs 0)

/-- Read a natural number: an optional plus sign, then digits. -/
def natural? : List Char → Option Nat
  | '+' :: cs => digits? cs
  | cs => digits? cs

/-- Read an integer: an optional sign, then digits. -/
def integer? : List Char → Option Int
  | '-' :: cs => (digits? cs).map fun n => -(n : Int)
  | cs => (natural? cs).map Int.ofNat

/-- A natural number that is at most `bound`. -/
def naturalUpTo? (bound : Nat) (cs : List Char) : Option Nat :=
  (natural? cs).filter (· ≤ bound)

/-- An integer between `low` and `high`. -/
def integerWithin? (low high : Int) (cs : List Char) : Option Int :=
  (integer? cs).filter fun n => low ≤ n && n ≤ high

theorem toNat_of_isDigit {c : Char} (h : c.isDigit) : 48 ≤ c.toNat ∧ c.toNat ≤ 57 := by
  simpa [Char.isDigit, UInt32.le_iff_toNat_le] using h

theorem isDigit_of_mem_natDigits {n : Nat} {c : Char} (h : c ∈ natDigits n) : c.isDigit :=
  Nat.isDigit_of_mem_toDigits (by omega) (by omega) h

theorem natDigits_ne_nil (n : Nat) : natDigits n ≠ [] := Nat.toDigits_ne_nil

theorem digits?_natDigits (n : Nat) : digits? (natDigits n) = some n := by
  have hall : (natDigits n).all Char.isDigit = true :=
    List.all_eq_true.2 fun _ h => isDigit_of_mem_natDigits h
  have hne : (natDigits n).isEmpty = false := by
    simp [natDigits_ne_nil]
  rw [digits?, hall, hne]
  simp [natDigits]

/-- Written natural numbers begin with a digit, hence with no sign. -/
theorem natDigits_eq_cons (n : Nat) :
    ∃ c cs, natDigits n = c :: cs ∧ c ≠ '+' ∧ c ≠ '-' := by
  cases h : natDigits n with
  | nil => exact absurd h (natDigits_ne_nil n)
  | cons c cs =>
    have hm : c ∈ natDigits n := by simp [h]
    have hd : c.isDigit := isDigit_of_mem_natDigits hm
    refine ⟨c, cs, rfl, ?_, ?_⟩ <;> (rintro rfl; simp [Char.isDigit] at hd)

theorem natural?_natDigits (n : Nat) : natural? (natDigits n) = some n := by
  obtain ⟨c, cs, h, hp, _⟩ := natDigits_eq_cons n
  have := digits?_natDigits n
  rw [h] at this ⊢
  unfold natural?
  split
  · next heq => simp_all
  · simpa using this

theorem integer?_intDigits (i : Int) : integer? (intDigits i) = some i := by
  cases i with
  | ofNat n =>
    obtain ⟨c, cs, h, _, hm⟩ := natDigits_eq_cons n
    have hn := natural?_natDigits n
    rw [intDigits]
    rw [h] at hn ⊢
    unfold integer?
    split
    · next heq => simp_all
    · simp [hn]
  | negSucc n =>
    simp [intDigits, integer?, digits?_natDigits, Int.negSucc_eq]

end SyncQueue.Text
