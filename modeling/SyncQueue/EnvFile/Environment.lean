import SyncQueue.Text.Split

/-!
# The environment of a process

A process has variables, each of them a name with a value. The system keeps both as bytes, and
nothing makes them Unicode. A single variable that is not Unicode is as good as missing when it is
asked for by its name (`Environment.get?`, `Environment.value?`), but the variables cannot be gone
through as texts when one of them is not Unicode (`Environment.variables?`).
-/

namespace SyncQueue.EnvFile

open SyncQueue.Text

/-- Names with values, in order. -/
abbrev Variables := List (String × String)

/-- A name or a value as the system keeps it: bytes, which need not be Unicode. -/
structure SystemText where
  bytes : List UInt8
  deriving DecidableEq

namespace SystemText

/-- Unicode text as the system keeps it. -/
def ofString (s : String) : SystemText := ⟨s.toUTF8.data.toList⟩

/-- The text that the bytes are, if they are Unicode. -/
def text? (t : SystemText) : Option String := String.fromUTF8? ⟨t.bytes.toArray⟩

@[simp]
theorem text?_ofString (s : String) : (ofString s).text? = some s := by
  simp only [text?, ofString, String.fromUTF8?, String.toUTF8_eq_toByteArray,
    Array.toArray_toList, dif_pos s.isValidUTF8]
  rfl

theorem text?_eq_some_iff {t : SystemText} {s : String} : t.text? = some s ↔ t = ofString s := by
  constructor
  · intro h
    unfold text? String.fromUTF8? at h
    split at h
    · obtain rfl := Option.some.inj h
      rfl
    · cases h
  · rintro rfl
    exact text?_ofString s

theorem ofString_inj {s s' : String} : ofString s = ofString s' ↔ s = s' := by
  rw [← text?_eq_some_iff, text?_ofString, Option.some.injEq]

end SystemText

/-- The variables of a process, names with values, in the order in which the system keeps them. -/
abbrev Environment := List (SystemText × SystemText)

namespace Environment

/-- The environment that texts make up. -/
def ofVariables (vs : Variables) : Environment := vs.map fun v => (.ofString v.1, .ofString v.2)

/-- All variables as texts; none when a name or a value is not Unicode. -/
def variables? : Environment → Option Variables
  | [] => some []
  | (name, value) :: e => do return (← name.text?, ← value.text?) :: (← variables? e)

/-- Every name and every value is Unicode. -/
def IsUnicode (e : Environment) : Prop := ∀ v ∈ e, v.1.text?.isSome ∧ v.2.text?.isSome

instance (e : Environment) : Decidable e.IsUnicode :=
  inferInstanceAs (Decidable (∀ v ∈ e, v.1.text?.isSome ∧ v.2.text?.isSome))

/-- The value of a variable, which is the first one of the name, if that is Unicode. -/
def get? (e : Environment) (name : String) : Option String :=
  (e.lookup (.ofString name)).bind SystemText.text?

/-- The value that is found in a list of texts `name=value`: what follows the name and an equals
sign in the first text that begins so, if that is Unicode. The name asked for may thus take in a
part of the value. -/
def value? (e : Environment) (name : List Char) : Option (List Char) :=
  if name.isEmpty then none
  else
    let beginning := (SystemText.ofString (String.ofList name)).bytes ++ ['='.toUInt8]
    let found := e.findSome? fun (n, v) => after? beginning (n.bytes ++ '='.toUInt8 :: v.bytes)
    (found.bind fun rest => SystemText.text? ⟨rest⟩).map String.toList

/-- The variables in a block of texts `name=value`, each of which ends with a byte of zero. A text
without an equals sign after its first byte is left out. -/
def ofBlock (block : List UInt8) : Environment :=
  (splitAll 0 block).filterMap fun entry =>
    match entry with
    | [] => none
    | b :: rest =>
      (splitFirst? ['='.toUInt8] rest).map fun (name, value) =>
        (⟨b :: name⟩, ⟨value⟩)

/-! ## Environments of texts -/

theorem variables?_eq_some_iff {e : Environment} {vs : Variables} :
    e.variables? = some vs ↔ e = ofVariables vs := by
  induction e generalizing vs with
  | nil => cases vs <;> simp [variables?, ofVariables]
  | cons v e ih =>
    have hcons : variables? (v :: e) = some vs ↔ ∃ name, v.1 = .ofString name ∧
        ∃ value, v.2 = .ofString value ∧ ∃ rest, e = ofVariables rest ∧
          (name, value) :: rest = vs := by
      simp [variables?, Option.bind_eq_some_iff, SystemText.text?_eq_some_iff, ih]
    rw [hcons]
    constructor
    · rintro ⟨name, hname, value, hvalue, rest, rfl, rfl⟩
      exact congrArg (· :: ofVariables rest) (Prod.ext hname hvalue)
    · intro h
      cases vs with
      | nil => cases h
      | cons u rest =>
        obtain ⟨hv, he⟩ := List.cons.inj h
        exact ⟨u.1, congrArg Prod.fst hv, u.2, congrArg Prod.snd hv, rest, he, rfl⟩

theorem variables?_ofVariables (vs : Variables) : (ofVariables vs).variables? = some vs :=
  variables?_eq_some_iff.2 rfl

theorem ofVariables_inj {vs vs' : Variables} : ofVariables vs = ofVariables vs' ↔ vs = vs' := by
  rw [← variables?_eq_some_iff, variables?_ofVariables, Option.some.injEq]

theorem isUnicode_ofVariables (vs : Variables) : (ofVariables vs).IsUnicode := by
  intro v hv
  obtain ⟨u, -, rfl⟩ := List.mem_map.1 hv
  simp

theorem isUnicode_iff {e : Environment} : e.IsUnicode ↔ ∃ vs, e = ofVariables vs := by
  constructor
  · intro h
    induction e with
    | nil => exact ⟨[], rfl⟩
    | cons v e ih =>
      obtain ⟨⟨hname, hvalue⟩, hrest⟩ := List.forall_mem_cons.1 h
      obtain ⟨name, hname⟩ := Option.isSome_iff_exists.1 hname
      obtain ⟨value, hvalue⟩ := Option.isSome_iff_exists.1 hvalue
      obtain ⟨vs, rfl⟩ := ih hrest
      refine ⟨(name, value) :: vs, congrArg (· :: ofVariables vs) (Prod.ext ?_ ?_)⟩
      · exact SystemText.text?_eq_some_iff.1 hname
      · exact SystemText.text?_eq_some_iff.1 hvalue
  · rintro ⟨vs, rfl⟩
    exact isUnicode_ofVariables vs

end Environment

end SyncQueue.EnvFile
