import Mathlib.Data.List.Infix
import SyncQueue.Settings.Document

/-!
# Masking of passwords

The address of a database is cut at the first `://`, at the last `@` and at the first `:`. Its parts
may contain each other's separators: a password may hold all three of them. The cuts are the
intended ones nevertheless, because each separator is missing in the one part that could hide it.

* `Text.splitFirst?_eq_some_iff`, `Text.splitLast?_eq_some_iff`: where a text is cut.
* `Text.infix_of_infix_append_dropLast`: a separator that does not overlap itself does not appear
  by being appended.
* `redactChars_masks`: an address with a password is masked.
* `redactChars_cases`: every other text stays as it is.
* `Settings.password_masked`: what this means for the document of the settings.
-/

namespace SyncQueue

/-! ## Where a text is cut -/

namespace Text

variable {separator cs before after : List Char}

theorem splitFirst?_of_prefix (h : separator <+: cs) :
    splitFirst? separator cs = some ([], cs.drop separator.length) := by
  cases cs with
  | nil => simp [splitFirst?, List.prefix_nil.1 h]
  | cons c cs => rw [splitFirst?, if_pos (List.isPrefixOf_iff_prefix.2 h)]

/-- A separator that does not fit into the text before it and all of itself but its last character
has not occurred earlier. -/
theorem splitFirst?_append (h : ¬separator <:+: before ++ separator.dropLast) :
    splitFirst? separator (before ++ separator ++ after) = some (before, after) := by
  induction before with
  | nil =>
    rw [List.nil_append, splitFirst?_of_prefix (List.prefix_append ..), List.drop_left]
  | cons c before ih =>
    have hrest : ¬separator <:+: before ++ separator.dropLast := fun hinside =>
      h (List.infix_cons_iff.2 (.inr hinside))
    have hnot : ¬separator <+: c :: (before ++ separator ++ after) := by
      intro hbegins
      -- an occurrence at the front is too short to reach the last character of the separator
      have hfront : c :: (before ++ separator.dropLast) <+:
          c :: (before ++ separator ++ after) := by
        refine List.prefix_cons_inj c |>.2 ?_
        rw [List.append_assoc]
        refine (List.prefix_append_right_inj before).2 ?_
        exact (List.dropLast_prefix separator).trans (List.prefix_append ..)
      have hlength : separator.length ≤ (c :: (before ++ separator.dropLast)).length := by
        simp only [List.length_cons, List.length_append, List.length_dropLast]
        omega
      exact h (List.prefix_of_prefix_length_le hbegins hfront hlength).isInfix
    rw [List.cons_append, List.cons_append, splitFirst?,
      if_neg fun hbegins => hnot (List.isPrefixOf_iff_prefix.1 hbegins), ih hrest]
    rfl

theorem not_infix_of_splitFirst? (hne : separator ≠ [])
    (h : splitFirst? separator cs = some (before, after)) :
    ¬separator <:+: before ++ separator.dropLast := by
  induction cs generalizing before with
  | nil =>
    rw [splitFirst?, if_neg (by simpa using hne)] at h
    cases h
  | cons c cs ih =>
    have hcs : c :: cs = before ++ separator ++ after := eq_of_splitFirst? h
    rw [splitFirst?] at h
    split at h
    · cases h
      rw [List.nil_append]
      intro hinside
      have hlength := hinside.length_le
      have hpos : 0 < separator.length := List.length_pos_iff.2 hne
      rw [List.length_dropLast] at hlength
      omega
    · rename_i hnot
      obtain ⟨⟨front, rest⟩, hfront, heq⟩ := Option.map_eq_some_iff.1 h
      cases heq
      rw [List.cons_append, List.infix_cons_iff]
      rintro (hbegins | hinside)
      · refine hnot (List.isPrefixOf_iff_prefix.2 (hbegins.trans ?_))
        rw [hcs, List.cons_append, List.cons_append, List.append_assoc]
        refine List.prefix_cons_inj c |>.2 ((List.prefix_append_right_inj front).2 ?_)
        exact (List.dropLast_prefix separator).trans (List.prefix_append ..)
      · exact ih hfront hinside

/-- **The first cut.** -/
theorem splitFirst?_eq_some_iff (hne : separator ≠ []) :
    splitFirst? separator cs = some (before, after) ↔
      cs = before ++ separator ++ after ∧ ¬separator <:+: before ++ separator.dropLast := by
  constructor
  · exact fun h => ⟨eq_of_splitFirst? h, not_infix_of_splitFirst? hne h⟩
  · rintro ⟨rfl, h⟩
    exact splitFirst?_append h

/-- A single character is cut at where it was not before. -/
theorem splitFirst?_singleton_iff {c : Char} :
    splitFirst? [c] cs = some (before, after) ↔ cs = before ++ c :: after ∧ c ∉ before := by
  rw [splitFirst?_eq_some_iff (List.cons_ne_nil c [])]
  simp [List.singleton_infix_iff]

/-- A separator that does not overlap itself does not arise where it begins to be appended. -/
theorem infix_of_infix_append_dropLast
    (hne : separator ≠ [])
    (hborder : ∀ p ∈ separator.inits, p <:+ separator → p = [] ∨ p = separator)
    (h : separator <:+: cs ++ separator.dropLast) : separator <:+: cs := by
  obtain ⟨front, rest, heq⟩ := h
  have hshort : separator.dropLast.length < separator.length := by
    have hpos : 0 < separator.length := List.length_pos_iff.2 hne
    rw [List.length_dropLast]
    omega
  obtain ⟨tail, hcs, -⟩ | ⟨beyond, hcross, hdrop⟩ := List.append_eq_append_iff.1 heq
  · exact ⟨front, tail, hcs.symm⟩
  · -- what stands beyond `cs` begins the separator
    have hbegins : beyond <+: separator :=
      (show beyond <+: separator.dropLast from ⟨rest, hdrop.symm⟩).trans (List.dropLast_prefix _)
    have hbeyond : beyond.length < separator.length := by
      have hle := congrArg List.length hdrop
      rw [List.length_append] at hle
      omega
    obtain ⟨inside, hcs, hseparator⟩ | ⟨inside, -, hseparator⟩ := List.append_eq_append_iff.1 hcross
    · obtain rfl | rfl := hborder beyond ((List.mem_inits _ _).2 hbegins) ⟨inside, hseparator.symm⟩
      · rw [List.append_nil] at hseparator
        exact ⟨front, [], by rw [List.append_nil, hcs, hseparator]⟩
      · omega
    · have hle := congrArg List.length hseparator
      rw [List.length_append] at hle
      omega

theorem splitLast?_eq_none_iff {c : Char} : splitLast? c cs = none ↔ c ∉ cs := by
  induction cs with
  | nil => simp [splitLast?]
  | cons a cs ih =>
    rw [splitLast?, List.mem_cons, not_or, ← ih]
    cases splitLast? c cs with
    | none => simp [eq_comm]
    | some parts => simp

/-- **The last cut.** -/
theorem splitLast?_eq_some_iff {c : Char} :
    splitLast? c cs = some (before, after) ↔ cs = before ++ c :: after ∧ c ∉ after := by
  constructor
  · intro h
    refine ⟨eq_of_splitLast? h, ?_⟩
    induction cs generalizing before with
    | nil => simp [splitLast?] at h
    | cons a cs ih =>
      rw [splitLast?] at h
      split at h
      · rename_i parts hparts
        cases h
        exact ih hparts
      · rename_i hnone
        split at h
        · cases h
          exact splitLast?_eq_none_iff.1 hnone
        · cases h
  · rintro ⟨rfl, h⟩
    induction before with
    | nil => simp [splitLast?, splitLast?_eq_none_iff.2 h]
    | cons a before ih => rw [List.cons_append, splitLast?, ih]

end Text

/-! ## Addresses with a password -/

section

variable {scheme user host : List Char}

/-- What stands between the scheme of an address and the rest does not overlap itself. -/
theorem mem_scheme_of_overlap {cs : List Char}
    (h : "://".toList <:+: cs ++ "://".toList.dropLast) : "://".toList <:+: cs :=
  Text.infix_of_infix_append_dropLast (by decide) (by decide) h

/-- **An address with a password** is masked, whatever the password is. -/
theorem redactChars_masks (hscheme : ¬"://".toList <:+: scheme) (huser : ':' ∉ user)
    (hhost : '@' ∉ host) (password : List Char) :
    redactChars (scheme ++ "://".toList ++ (user ++ ':' :: password ++ '@' :: host)) =
      scheme ++ "://".toList ++ user ++ ':' :: passwordMask ++ '@' :: host := by
  have hfirst : Text.splitFirst? "://".toList
      (scheme ++ "://".toList ++ (user ++ ':' :: password ++ '@' :: host)) =
        some (scheme, user ++ ':' :: password ++ '@' :: host) :=
    Text.splitFirst?_append fun h => hscheme (mem_scheme_of_overlap h)
  have hlast : Text.splitLast? '@' (user ++ ':' :: password ++ '@' :: host) =
      some (user ++ ':' :: password, host) := Text.splitLast?_eq_some_iff.2 ⟨rfl, hhost⟩
  have hpassword : Text.splitFirst? [':'] (user ++ ':' :: password) = some (user, password) :=
    Text.splitFirst?_singleton_iff.2 ⟨rfl, huser⟩
  simp only [redactChars, hfirst, hlast, hpassword]

/-- A text that does not stay as it is when it is redacted is an address with a password. -/
theorem redactChars_cases (url : List Char) :
    redactChars url = url ∨
      ∃ scheme user host password, ¬"://".toList <:+: scheme ∧ ':' ∉ user ∧ '@' ∉ host ∧
        url = scheme ++ "://".toList ++ (user ++ ':' :: password ++ '@' :: host) := by
  cases hfirst : Text.splitFirst? "://".toList url with
  | none => exact .inl (by simp only [redactChars, hfirst])
  | some parts =>
    obtain ⟨scheme, rest⟩ := parts
    cases hlast : Text.splitLast? '@' rest with
    | none => exact .inl (by simp only [redactChars, hfirst, hlast])
    | some parts =>
      obtain ⟨credentials, host⟩ := parts
      cases hcolon : Text.splitFirst? [':'] credentials with
      | none => exact .inl (by simp only [redactChars, hfirst, hlast, hcolon])
      | some parts =>
        obtain ⟨user, password⟩ := parts
        obtain ⟨rfl, hscheme⟩ := (Text.splitFirst?_eq_some_iff (by decide)).1 hfirst
        obtain ⟨rfl, hhost⟩ := Text.splitLast?_eq_some_iff.1 hlast
        obtain ⟨rfl, huser⟩ := Text.splitFirst?_singleton_iff.1 hcolon
        refine .inr ⟨scheme, user, host, password, fun h => hscheme ?_, huser, hhost, rfl⟩
        exact h.trans (List.prefix_append ..).isInfix

/-- Redacting twice is redacting once. -/
theorem redactChars_redactChars (url : List Char) :
    redactChars (redactChars url) = redactChars url := by
  obtain hsame | ⟨scheme, user, host, password, hscheme, huser, hhost, rfl⟩ := redactChars_cases url
  · rw [hsame, hsame]
  · have hmask := redactChars_masks hscheme huser hhost passwordMask
    rw [redactChars_masks hscheme huser hhost password]
    simpa only [List.append_assoc] using hmask

end

/-! ## The document of the settings -/

/-- The address of a database with the name and the password of a user. -/
def addressFor (scheme user password host : String) : String :=
  scheme ++ "://" ++ user ++ ":" ++ password ++ "@" ++ host

/-- **The password does not show.** Of two settings that differ in the password of their database
only, the documents are the same: those of the settings with the mask in the place of the password.
Redacting an address twice, whatever it is, gives the same as redacting it once. -/
theorem Settings.password_masked {scheme user host : String}
    (hscheme : ¬"://".toList <:+: scheme.toList) (huser : ':' ∉ user.toList)
    (hhost : '@' ∉ host.toList) (s : Settings) :
    (∀ password password' : String,
      { s with databaseUrl := addressFor scheme user password host }.redactedText =
        { s with databaseUrl := addressFor scheme user password' host }.redactedText) ∧
    (∀ password : String,
      { s with databaseUrl := addressFor scheme user password host }.redactedText =
        { s with databaseUrl := addressFor scheme user "[REDACTED]" host }.toJson.prettyText) ∧
    ∀ url : String, redactUrl (redactUrl url) = redactUrl url := by
  have hmasks (password : String) : redactUrl (addressFor scheme user password host) =
      addressFor scheme user "[REDACTED]" host := by
    have hmask := redactChars_masks hscheme huser hhost password.toList
    rw [redactUrl, ← String.toList_inj, String.toList_ofList]
    simp only [addressFor, String.toList_append, List.append_assoc] at hmask ⊢
    exact hmask
  have htext (password : String) :
      { s with databaseUrl := addressFor scheme user password host }.redactedText =
        { s with databaseUrl := addressFor scheme user "[REDACTED]" host }.toJson.prettyText := by
    rw [redactedText, redacted, hmasks]
  refine ⟨fun password password' => (htext password).trans (htext password').symm, htext, ?_⟩
  intro url
  rw [redactUrl, redactUrl, String.toList_ofList, redactChars_redactChars]

/-- A password that holds all separators. -/
theorem Settings.password_masked_tricky :
    { Settings.default "w" with
        databaseUrl := "postgresql://calsync:p@ss://w:rd@db:5432/calsync" }.redactedText =
      { Settings.default "w" with
        databaseUrl := "postgresql://calsync:[REDACTED]@db:5432/calsync" }.toJson.prettyText :=
  (@password_masked "postgresql" "calsync" "db:5432/calsync" (by decide) (by decide) (by decide)
    (.default "w")).2.1 "p@ss://w:rd"

end SyncQueue
