/-!
# White space

The characters with the Unicode property `White_Space`, and trimming of them. `trim` removes a
longest blank stretch at each end: `trim_eq_nil_iff` says when nothing is left.
-/

namespace SyncQueue.Text

/-- The characters with the Unicode property `White_Space`. -/
def isBlank (c : Char) : Bool :=
  let n := c.toNat
  (0x09 ≤ n && n ≤ 0x0d) || n == 0x20 || n == 0x85 || n == 0xa0 || n == 0x1680 ||
    (0x2000 ≤ n && n ≤ 0x200a) || n == 0x2028 || n == 0x2029 || n == 0x202f || n == 0x205f ||
    n == 0x3000

/-- Drop the blanks in front. -/
def trimStart (cs : List Char) : List Char := cs.dropWhile isBlank

/-- Drop the blanks at the end. -/
def trimEnd (cs : List Char) : List Char := (cs.reverse.dropWhile isBlank).reverse

/-- Drop the blanks at both ends. -/
def trim (cs : List Char) : List Char := trimEnd (trimStart cs)

/-- Drop the blanks at both ends of a string. -/
def trimString (s : String) : String := String.ofList (trim s.toList)

theorem trimStart_eq_nil_iff {cs : List Char} : trimStart cs = [] ↔ ∀ c ∈ cs, isBlank c := by
  induction cs with
  | nil => simp [trimStart]
  | cons c cs ih =>
    by_cases h : isBlank c = true
    · simp only [trimStart] at ih
      simp [trimStart, h, ih]
    · simp [trimStart, h]

theorem trimEnd_eq_nil_iff {cs : List Char} : trimEnd cs = [] ↔ ∀ c ∈ cs, isBlank c := by
  have h : trimStart cs.reverse = [] ↔ ∀ c ∈ cs.reverse, isBlank c := trimStart_eq_nil_iff
  simp only [trimStart] at h
  simp [trimEnd, h]

/-- Trimming leaves nothing exactly when every character is blank. -/
theorem trim_eq_nil_iff {cs : List Char} : trim cs = [] ↔ ∀ c ∈ cs, isBlank c := by
  rw [trim, trimEnd_eq_nil_iff]
  constructor
  · intro h
    refine trimStart_eq_nil_iff.1 ?_
    cases hc : trimStart cs with
    | nil => rfl
    | cons c r =>
      have hb := h c (by simp [hc])
      have hn := List.head?_dropWhile_not isBlank cs
      rw [show cs.dropWhile isBlank = c :: r from hc] at hn
      simp [hb] at hn
  · intro h c hc
    exact h c ((List.dropWhile_sublist _).subset hc)

end SyncQueue.Text
