import Mathlib.Data.List.Basic
import Mathlib.Data.List.TakeDrop
import SyncQueue.Json.Printer
import SyncQueue.Json.Reader

/-!
# Literals read back

What is written for a text or for a number is read as that text and as that number, whatever
follows the quote, and with nothing behind the number that could be a part of it. A text is written
character by character, so it is enough to know that one character gives the code unit that it is,
escaped or not. A number is written part by part, and each part ends where the next one begins.

* `Json.Tree.units?_escapeChar`: a character reads back.
* `Json.Tree.string?_quoted`: a text reads back.
* `Json.NumberText.chars`, `Json.NumberText.WellFormed`: a number as it is written, and the grammar.
* `Json.NumberText.number?_chars`: a number reads back.
* `Json.NumberText.ofInt`, `Json.NumberText.value?_ofInt`: whole numbers and their values.
-/

namespace SyncQueue

open Text (natDigits intDigits)

theorem Uuid.hexValue?_digitChar : ∀ n < 16, hexValue? (Nat.digitChar n) = some n := by decide

namespace Json

namespace Tree

variable {cs rest : List Char}

/-! ## Strings -/

theorem units?_simpleEscape {letter c : Char} (h : simpleEscape? letter = some c)
    (cs : List Char) :
    units? ('\\' :: letter :: cs) = (units? cs).map fun p => (c.toNat :: p.1, p.2) := by
  have hletter : letter ≠ 'u' := by
    rintro rfl
    cases h
  rw [units?.eq_4 _ _ (by simp [hletter]), h]
  cases units? cs <;> rfl

/-- **A character reads back** as the one code unit that it is. -/
theorem units?_escapeChar (c : Char) (cs : List Char) :
    units? (escapeChar c ++ cs) = (units? cs).map fun p => (c.toNat :: p.1, p.2) := by
  have hsimple {d letter : Char} (hc : c = d) (hletter : simpleEscape? letter = some d) :
      units? ('\\' :: letter :: cs) = (units? cs).map fun p => (c.toNat :: p.1, p.2) := by
    rw [hc]
    exact units?_simpleEscape hletter cs
  unfold escapeChar
  split_ifs with hquote hbackslash hline hreturn htab hback hfeed hcontrol
  · exact hsimple hquote rfl
  · exact hsimple hbackslash rfl
  · exact hsimple hline rfl
  · exact hsimple hreturn rfl
  · exact hsimple htab rfl
  · exact hsimple hback rfl
  · exact hsimple hfeed rfl
  · have hhigh := Uuid.hexValue?_digitChar (c.toNat / 16) (by omega)
    have hlow := Uuid.hexValue?_digitChar (c.toNat % 16) (by omega)
    have hunit : hex4? '0' '0' (Nat.digitChar (c.toNat / 16)) (Nat.digitChar (c.toNat % 16)) =
        some c.toNat := by
      have hzero : Uuid.hexValue? '0' = some 0 := rfl
      have hsum : ((0 * 16 + 0) * 16 + c.toNat / 16) * 16 + c.toNat % 16 = c.toNat := by omega
      simp only [hex4?, hzero, hhigh, hlow, Option.bind_eq_bind, Option.bind_some,
        Option.pure_def, hsum]
    simp only [List.cons_append, List.nil_append, units?, hunit]
    cases units? cs <;> rfl
  · rw [List.singleton_append, units?.eq_def]
    cases h : units? cs <;> simp_all

theorem units?_escaped (cs rest : List Char) :
    units? (cs.flatMap escapeChar ++ '"' :: rest) = some (cs.map Char.toNat, rest) := by
  induction cs with
  | nil => rfl
  | cons c cs ih =>
    rw [List.flatMap_cons, List.append_assoc, units?_escapeChar, ih]
    rfl

/-- No character is half of a surrogate pair. -/
theorem not_isHigh_or_isLow (c : Char) : isHigh c.toNat = false ∧ isLow c.toNat = false := by
  have hvalid : c.toNat < 0xd800 ∨ 0xdfff < c.toNat ∧ c.toNat < 0x110000 := c.valid
  simp only [isHigh, isLow, Bool.and_eq_false_iff, decide_eq_false_iff_not]
  omega

theorem chars?_map_toNat : ∀ cs : List Char, chars? (cs.map Char.toNat) = some cs
  | [] => rfl
  | [c] => by
    obtain ⟨hhigh, hlow⟩ := not_isHigh_or_isLow c
    simp [chars?, hhigh, hlow]
  | c :: d :: cs => by
    obtain ⟨hhigh, hlow⟩ := not_isHigh_or_isLow c
    have ih := chars?_map_toNat (d :: cs)
    rw [List.map_cons] at ih
    rw [List.map_cons, List.map_cons, chars?, if_neg (by simp [hhigh]), if_neg (by simp [hlow]),
      ih, Option.map_some, Char.ofNat_toNat]

/-- **A string reads back.** -/
theorem string?_quoted (s : String) (rest : List Char) :
    string? (s.toList.flatMap escapeChar ++ '"' :: rest) = some (some s, rest) := by
  have hchars : (chars? (s.toList.map Char.toNat)).map String.ofList = some s := by
    rw [chars?_map_toNat, Option.map_some, String.ofList_toList]
  rw [string?, units?_escaped]
  exact congrArg (fun string => some (string, rest)) hchars

/-! ## Numbers -/

/-- One or more digits. -/
def IsDigits (ds : List Char) : Prop := ds ≠ [] ∧ ∀ c ∈ ds, c.isDigit

/-- The text does not go on with a digit. -/
def StopsDigits (rest : List Char) : Prop := ∀ c ∈ rest.head?, c.isDigit = false

/-- The text does not go on as a number. -/
def StopsNumber (rest : List Char) : Prop :=
  ∀ c ∈ rest.head?, c.isDigit = false ∧ c ≠ '.' ∧ c ≠ 'e' ∧ c ≠ 'E'

theorem StopsNumber.stopsDigits (h : StopsNumber rest) : StopsDigits rest := fun c hc => (h c hc).1

theorem digits1?_append {ds : List Char} (hds : IsDigits ds) (hrest : StopsDigits rest) :
    digits1? (ds ++ rest) = some (ds, rest) := by
  have htake : (ds ++ rest).takeWhile Char.isDigit = ds := by
    rw [List.takeWhile_append_of_pos hds.2]
    cases rest with
    | nil => simp
    | cons c rest => simp [hrest c rfl]
  have hdrop : (ds ++ rest).dropWhile Char.isDigit = rest := by
    rw [List.dropWhile_append_of_pos hds.2]
    cases rest with
    | nil => rfl
    | cons c rest => simp [hrest c rfl]
  rw [digits1?, List.span_eq_takeWhile_dropWhile, htake, hdrop]
  simp [hds.1]

theorem whole?_append {ds : List Char} (hds : IsDigits ds)
    (hzero : ds.head? = some '0' → ds.length = 1) (hrest : StopsDigits rest) :
    whole? (ds ++ rest) = some (ds, rest) := by
  rw [whole?, digits1?_append hds hrest]
  simp only [Option.bind_eq_bind, Option.bind_some]
  exact if_neg (by simpa using hzero)

end Tree

namespace NumberText

open Json.Tree (IsDigits StopsDigits StopsNumber)

/-- The number follows the grammar. -/
structure WellFormed (n : NumberText) : Prop where
  whole : IsDigits n.whole
  leadingZero : n.whole.head? = some '0' → n.whole.length = 1
  fraction : ∀ ds ∈ n.fraction, IsDigits ds
  exponent : ∀ e ∈ n.exponent, IsDigits e.2

/-- The point and what follows it. -/
def fractionChars : Option (List Char) → List Char
  | none => []
  | some ds => '.' :: ds

/-- The exponent with its letter. -/
def exponentChars : Option (Bool × List Char) → List Char
  | none => []
  | some (negative, ds) => 'e' :: if negative then '-' :: ds else ds

/-- The number as it is written, without its sign. -/
def magnitude (n : NumberText) : List Char :=
  n.whole ++ fractionChars n.fraction ++ exponentChars n.exponent

/-- The number as it is written. -/
def chars (n : NumberText) : List Char := (if n.negative then ['-'] else []) ++ n.magnitude

variable {n : NumberText} {rest : List Char}

theorem ne_of_isDigit {c d : Char} (hc : c.isDigit) (hd : d.isDigit = false) : c ≠ d := by
  rintro rfl
  rw [hc] at hd
  cases hd

theorem exponentDigits?_append {negative : Bool} {ds : List Char} (hds : IsDigits ds)
    (hrest : StopsDigits rest) :
    Tree.exponentDigits? ((if negative then '-' :: ds else ds) ++ rest) =
      some (some (negative, ds), rest) := by
  have hdigits := Tree.digits1?_append hds hrest
  cases negative with
  | true =>
    rw [if_pos rfl, List.cons_append, Tree.exponentDigits?, hdigits]
    rfl
  | false =>
    obtain ⟨c, cs, rfl⟩ := List.exists_cons_of_ne_nil hds.1
    have hc := hds.2 c List.mem_cons_self
    rw [if_neg Bool.false_ne_true, List.cons_append] at *
    rw [Tree.exponentDigits?.eq_3, hdigits]
    · rfl
    · simp [ne_of_isDigit hc (d := '+') rfl]
    · simp [ne_of_isDigit hc (d := '-') rfl]

theorem exponent?_append (h : ∀ e ∈ n.exponent, IsDigits e.2) (hrest : StopsNumber rest) :
    Tree.exponent? (exponentChars n.exponent ++ rest) = some (n.exponent, rest) := by
  cases he : n.exponent with
  | none =>
    rw [exponentChars, List.nil_append, Tree.exponent?.eq_3]
    · rintro cs rfl
      exact (hrest 'e' rfl).2.2.1 rfl
    · rintro cs rfl
      exact (hrest 'E' rfl).2.2.2 rfl
  | some e =>
    obtain ⟨negative, ds⟩ := e
    rw [exponentChars, List.cons_append, Tree.exponent?]
    exact exponentDigits?_append (h _ he) hrest.stopsDigits

theorem fraction?_append (h : ∀ ds ∈ n.fraction, IsDigits ds) (hrest : StopsDigits rest)
    (hpoint : ∀ c ∈ rest.head?, c ≠ '.') :
    Tree.fraction? (fractionChars n.fraction ++ rest) = some (n.fraction, rest) := by
  cases hf : n.fraction with
  | none =>
    rw [fractionChars, List.nil_append, Tree.fraction?.eq_2]
    rintro cs rfl
    exact hpoint '.' rfl rfl
  | some ds =>
    rw [fractionChars, List.cons_append, Tree.fraction?, Tree.digits1?_append (h _ hf) hrest]
    rfl

theorem exponentChars_append_cases (hrest : StopsNumber rest) :
    ∀ c ∈ (exponentChars n.exponent ++ rest).head?, c.isDigit = false ∧ c ≠ '.' := by
  intro c hc
  cases he : n.exponent with
  | none =>
    rw [he, exponentChars, List.nil_append] at hc
    exact ⟨(hrest c hc).1, (hrest c hc).2.1⟩
  | some e =>
    rw [he, exponentChars, List.cons_append, List.head?_cons, Option.mem_some_iff] at hc
    subst hc
    decide

theorem unsigned?_append (h : n.WellFormed) (hrest : StopsNumber rest) :
    Tree.unsigned? n.negative (n.magnitude ++ rest) = some (n, rest) := by
  -- what follows a part, even if the parts in between are missing, cannot be more of it
  have hexponent := exponentChars_append_cases (n := n) hrest
  have hfraction : StopsDigits (fractionChars n.fraction ++ (exponentChars n.exponent ++ rest)) := by
    intro c hc
    cases hf : n.fraction with
    | none =>
      rw [hf, fractionChars, List.nil_append] at hc
      exact (hexponent c hc).1
    | some ds =>
      rw [hf, fractionChars, List.cons_append, List.head?_cons, Option.mem_some_iff] at hc
      subst hc
      rfl
  rw [Tree.unsigned?, magnitude, List.append_assoc, List.append_assoc,
    Tree.whole?_append h.whole h.leadingZero hfraction]
  simp only [Option.bind_eq_bind, Option.bind_some]
  rw [fraction?_append h.fraction (fun c hc => (hexponent c hc).1) fun c hc => (hexponent c hc).2]
  simp only [Option.bind_some]
  rw [exponent?_append h.exponent hrest]
  rfl

/-- **A number reads back.** -/
theorem number?_chars (h : n.WellFormed) (hrest : StopsNumber rest) :
    Tree.number? (n.chars ++ rest) = some (n, rest) := by
  have hunsigned := unsigned?_append h hrest
  cases hsign : n.negative with
  | true =>
    rw [hsign] at hunsigned
    rw [chars, hsign, if_pos rfl, List.append_assoc]
    exact hunsigned
  | false =>
    rw [hsign] at hunsigned
    obtain ⟨c, cs, hwhole⟩ := List.exists_cons_of_ne_nil h.whole.1
    have hc : c.isDigit := h.whole.2 c (by simp [hwhole])
    have hhead : n.magnitude ++ rest =
        c :: (cs ++ fractionChars n.fraction ++ exponentChars n.exponent ++ rest) := by
      rw [magnitude, hwhole]
      rfl
    rw [chars, hsign, if_neg Bool.false_ne_true, List.nil_append]
    rw [hhead] at hunsigned ⊢
    rw [Tree.number?.eq_2, hunsigned]
    simp [ne_of_isDigit hc (d := '-') rfl]

/-! ## Numbers as they are written -/

theorem isDigits_natDigits (m : Nat) : IsDigits (natDigits m) :=
  ⟨Text.natDigits_ne_nil m, fun _ hc => Text.isDigit_of_mem_natDigits hc⟩

/-- Only the digits of zero begin with a zero. -/
theorem head?_natDigits {m : Nat} (h : (natDigits m).head? = some '0') : m = 0 := by
  induction m using Nat.strongRecOn with
  | _ m ih =>
    rw [natDigits, Nat.toDigits_eq_if (by decide)] at h
    split at h
    · simpa using h
    · rename_i hlarge
      rw [List.head?_append_of_ne_nil _ Nat.toDigits_ne_nil] at h
      have hquotient := ih (m / 10) (by omega) h
      omega

theorem length_natDigits_of_head? {m : Nat} (h : (natDigits m).head? = some '0') :
    (natDigits m).length = 1 := by
  rw [head?_natDigits h]
  rfl

/-- A whole number as it is written. -/
def ofInt (i : Int) : NumberText := ⟨decide (i < 0), natDigits i.natAbs, none, none⟩

theorem chars_ofInt (i : Int) : (ofInt i).chars = intDigits i := by
  cases i with
  | ofNat m => simp [ofInt, chars, magnitude, fractionChars, exponentChars, intDigits]
  | negSucc m =>
    have hsign : Int.negSucc m < 0 := Int.negSucc_lt_zero m
    simp [ofInt, chars, magnitude, fractionChars, exponentChars, intDigits, hsign]

theorem wellFormed_ofInt (i : Int) : (ofInt i).WellFormed where
  whole := isDigits_natDigits _
  leadingZero := length_natDigits_of_head?
  fraction _ h := by cases h
  exponent _ h := by cases h

/-- **The value of a whole number** is the number. -/
theorem value?_ofInt {i : Int} (hlow : -Nat.pow 2 63 ≤ i) (hhigh : i ≤ maxWhole) :
    (ofInt i).value? = some (.integer i) := by
  have hdigits : Nat.ofDigitChars 10 (natDigits i.natAbs) 0 = i.natAbs :=
    Nat.ofDigitChars_ten_toDigits
  have hpow : Nat.pow 2 63 = 9223372036854775808 := rfl
  have hmax : maxWhole = 18446744073709551615 := rfl
  rw [hpow] at hlow
  rw [hmax] at hhigh
  simp only [value?, ofInt, hdigits, Option.isNone_none, Bool.true_and, hpow, hmax]
  by_cases hsign : i < 0
  · have hwhole : (0 < i.natAbs && i.natAbs ≤ 9223372036854775808) = true := by
      simp only [Bool.and_eq_true, decide_eq_true_eq]
      omega
    have hvalue : -(i.natAbs : Int) = i := by omega
    simp only [hsign, decide_true, if_true, hwhole, hvalue]
  · have hwhole : decide (i.natAbs ≤ 18446744073709551615) = true := by
      simp only [decide_eq_true_eq]
      omega
    have hvalue : (i.natAbs : Int) = i := by omega
    simp only [hsign, decide_false, Bool.false_eq_true, if_false, hwhole, hvalue, if_true]

end NumberText

end Json

end SyncQueue
