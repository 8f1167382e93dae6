/-!
# Splitting texts

Splitting at the first occurrence of a separator, and at the last or at every occurrence of a
character. `eq_of_splitFirst?` and `eq_of_splitLast?` say that nothing is lost. Where bytes are split
as well, the kind of the parts is left open.
-/

namespace SyncQueue.Text

variable {α : Type}

/-- The text before and after the first occurrence of a separator. -/
def splitFirst? [BEq α] (separator : List α) : List α → Option (List α × List α)
  | [] => if separator.isEmpty then some ([], []) else none
  | c :: cs =>
    if separator.isPrefixOf (c :: cs) then some ([], (c :: cs).drop separator.length)
    else (splitFirst? separator cs).map fun (before, after) => (c :: before, after)

/-- The text before and after the last occurrence of a character. -/
def splitLast? (separator : Char) : List Char → Option (List Char × List Char)
  | [] => none
  | c :: cs =>
    match splitLast? separator cs with
    | some (before, after) => some (c :: before, after)
    | none => if c = separator then some ([], cs) else none

/-- The parts between the occurrences of a character. -/
def splitAll [DecidableEq α] (separator : α) : List α → List (List α)
  | [] => [[]]
  | c :: cs =>
    if c = separator then [] :: splitAll separator cs
    else
      match splitAll separator cs with
      | part :: parts => (c :: part) :: parts
      | [] => [[c]]

/-- The text after a beginning that it must have. -/
def after? [BEq α] (beginning cs : List α) : Option (List α) :=
  if beginning.isPrefixOf cs then some (cs.drop beginning.length) else none

theorem eq_append_of_after? [BEq α] [LawfulBEq α] {beginning cs rest : List α}
    (h : after? beginning cs = some rest) : cs = beginning ++ rest := by
  unfold after? at h
  split at h
  · next hp =>
    obtain ⟨t, rfl⟩ := List.isPrefixOf_iff_prefix.1 hp
    simp at h
    rw [h]
  · simp at h

theorem eq_of_splitFirst? [BEq α] [LawfulBEq α] {separator cs before after : List α}
    (h : splitFirst? separator cs = some (before, after)) : cs = before ++ separator ++ after := by
  induction cs generalizing before with
  | nil =>
    unfold splitFirst? at h
    split at h <;> simp_all
  | cons c cs ih =>
    unfold splitFirst? at h
    split at h
    · next hp =>
      obtain ⟨t, ht⟩ := List.isPrefixOf_iff_prefix.1 hp
      simp only [Option.some.injEq, Prod.mk.injEq] at h
      rw [← h.1, ← h.2, ← ht]
      simp
    · obtain ⟨⟨b, a⟩, hs, he⟩ := Option.map_eq_some_iff.1 h
      simp only [Prod.mk.injEq] at he
      obtain ⟨rfl, rfl⟩ := he
      simp [ih hs]

theorem eq_of_splitLast? {separator : Char} {cs before after : List Char}
    (h : splitLast? separator cs = some (before, after)) : cs = before ++ separator :: after := by
  induction cs generalizing before after with
  | nil => simp [splitLast?] at h
  | cons c cs ih =>
    unfold splitLast? at h
    split at h
    · next b a hs =>
      simp only [Option.some.injEq, Prod.mk.injEq] at h
      rw [← h.1, ← h.2, ih hs]
      rfl
    · split at h
      · next hc =>
        simp only [Option.some.injEq, Prod.mk.injEq] at h
        rw [← h.1, ← h.2, hc]
        rfl
      · simp at h

end SyncQueue.Text
