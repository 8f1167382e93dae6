import Mathlib.Data.List.Nodup
import Mathlib.Logic.Function.Basic
import Mathlib.Tactic.Set
import SyncQueue.Proofs.Layers

/-!
# The profile that is loaded

The profile decides which files are read, so it is fixed before they are. The settings name a
profile as well, and like every other setting it is read from what lies on top in the end. A file
of a profile may therefore make the settings name another profile than the one it belongs to.

* `Settings.Consults`: what is in a file matters for loading.
* `Settings.consults_iff`: the files that matter are those of the profile as it is written, and the
  two common ones.
* `Settings.profile_loaded`: how the profile that the settings name is related to that one.
-/

namespace SyncQueue

open EnvFile (Environment Variables)
open Files (FileContent)

theorem bind_eq_ok {ε α β : Type} {x : Except ε α} {f : α → Except ε β} {b : β} :
    (x >>= f) = .ok b ↔ ∃ a, x = .ok a ∧ f a = .ok b := by
  cases x <;> simp [bind, Except.bind]

theorem mapError_eq_ok {ε ε' α : Type} {x : Except ε α} {f : ε → ε'} {a : α} :
    x.mapError f = .ok a ↔ x = .ok a := by
  cases x with
  | ok b => exact ⟨fun h => congrArg _ (Except.ok.inj h), fun h => congrArg _ (Except.ok.inj h)⟩
  | error e => exact ⟨nofun, nofun⟩

/-! ## Texts without blanks around them -/

theorem Text.trim_ne_nil {cs : List Char} (h : trim cs ≠ []) : trim (trim cs) ≠ [] := by
  intro hblank
  have hall : ∀ c ∈ trim cs, isBlank c := trim_eq_nil_iff.1 hblank
  rw [trim, trimEnd] at h hall
  cases hrest : (trimStart cs).reverse.dropWhile isBlank with
  | nil => simp [hrest] at h
  | cons c rest =>
    have hc := hall c (by simp [hrest])
    have hnot := List.head?_dropWhile_not isBlank (trimStart cs).reverse
    simp [hrest, hc] at hnot

theorem textOr_self {p : String} (htrim : Text.trim p.toList = p.toList) :
    textOr p (some p) = p := by
  rw [textOr, Text.trimString, htrim, String.ofList_toList]
  exact ite_self p

/-- With a fallback that is not blank, no text is. -/
theorem trim_textOr_ne_nil {p : String} (hp : Text.trim p.toList ≠ []) (text? : Option String) :
    Text.trim (textOr p text?).toList ≠ [] := by
  cases text? with
  | none => exact hp
  | some text =>
    rw [textOr]
    split
    · exact hp
    · rename_i htext
      rw [Text.trimString, String.toList_ofList]
      exact Text.trim_ne_nil (by simpa using htext)

namespace EnvFile.Variables

variable {vs : Variables} {name : String}

theorem last?_eq_none_iff : vs.last? name = none ↔ vs.lookup name = none := by
  rw [last?, List.lookup_eq_none_iff, List.lookup_eq_none_iff]
  simp

/-- Where no name comes twice, the last value of a name is the first one. -/
theorem last?_eq_lookup (h : (vs.map (·.1)).Nodup) : vs.last? name = vs.lookup name := by
  induction vs with
  | nil => rfl
  | cons v vs ih =>
    obtain ⟨other, value⟩ := v
    obtain ⟨hnew, hrest⟩ := List.nodup_cons.1 h
    rw [last?_cons, lookup_cons, ih hrest]
    split
    · rename_i heq
      have hnone : vs.lookup name = none := by
        refine List.lookup_eq_none_iff.2 fun v hv => ?_
        have hne : name ≠ v.1 := by
          rintro rfl
          have hmem : v.1 ∈ vs.map (·.1) := List.mem_map_of_mem hv
          exact hnew (heq ▸ hmem)
        simpa using hne
      rw [hnone]
      rfl
    · rw [Option.or_none]

end EnvFile.Variables

/-! ## What loading reads -/

namespace Layers

/-- The layers that a process and its files make up; a file that cannot be read assigns nothing. -/
def read (process : Environment) (file : String → FileContent) : Layers where
  process
  file name := (Settings.fileVariables process name (file name)).toOption.getD []

variable {process : Environment} {file file' : String → FileContent} {workerId : String}
  {settings : Settings}

theorem file_read {name : String} {vs : Variables}
    (h : Settings.fileVariables process name (file name) = .ok vs) :
    (read process file).file name = vs := by
  change (Settings.fileVariables process name (file name)).toOption.getD [] = vs
  rw [h]
  rfl

theorem loadedProfile_read {base baseLocal : Variables}
    (hbase : Settings.fileVariables process ".env" (file ".env") = .ok base)
    (hlocal : Settings.fileVariables process ".env.local" (file ".env.local") = .ok baseLocal) :
    Settings.loadedProfile process ((RawSettings.overlay [] base).overlay baseLocal) =
      (read process file).profile := by
  rw [← loadedProfile_eq, common, file_read hbase, file_read hlocal]
  rfl

/-- Loading that succeeds has read the two common files and the two of the profile. -/
theorem describes_of_load (h : Settings.load workerId process file = .ok settings) :
    (read process file).Describes file := by
  unfold Settings.load at h
  obtain ⟨base, hbase, h⟩ := bind_eq_ok.1 h
  obtain ⟨baseLocal, hlocal, h⟩ := bind_eq_ok.1 h
  obtain ⟨own, hown, h⟩ := bind_eq_ok.1 h
  obtain ⟨ownLocal, hownLocal, -⟩ := bind_eq_ok.1 h
  rw [mapError_eq_ok] at hbase hlocal hown hownLocal
  rw [loadedProfile_read hbase hlocal] at hown hownLocal
  intro name hname
  simp only [files, List.mem_cons, List.not_mem_nil, or_false] at hname
  obtain rfl | rfl | rfl | rfl := hname
  · exact hbase.trans (congrArg _ (file_read hbase).symm)
  · exact hlocal.trans (congrArg _ (file_read hlocal).symm)
  · exact hown.trans (congrArg _ (file_read hown).symm)
  · exact hownLocal.trans (congrArg _ (file_read hownLocal).symm)

/-- Loading that succeeds has gone through the variables of the process. -/
theorem exists_variables_of_load (h : Settings.load workerId process file = .ok settings) :
    ∃ vs, process = .ofVariables vs := by
  by_contra hnone
  have hpanic := (describes_of_load h).load_panic (fun hunicode => hnone
    (Environment.isUnicode_iff.1 hunicode)) workerId
  cases h.symm.trans hpanic

/-- The profile that is read depends on the common files only. -/
theorem profile_read_congr (hbase : file' ".env" = file ".env")
    (hlocal : file' ".env.local" = file ".env.local") :
    (read process file').profile = (read process file).profile := by
  simp only [profile, read, hbase, hlocal]

/-- The text that lies on top of the one that decides on the profile: that of the process, else that
of a file of the profile. -/
def overruling? (s : Layers) : Option String :=
  (s.process.last? "CALSYNC_PROFILE").or <|
    ((s.file (".env." ++ s.profile ++ ".local")).last? "CALSYNC_PROFILE").or <|
    (s.file (".env." ++ s.profile)).last? "CALSYNC_PROFILE"

/-- Where no text lies on top, the settings name the profile that is read. -/
theorem textOr_profile {s : Layers} {vs : Variables} (hprocess : s.process = .ofVariables vs)
    (htrim : Text.trim s.profile.toList = s.profile.toList) :
    textOr s.profile (s.text? "PROFILE") = textOr s.profile s.overruling? := by
  set common? := ((s.file ".env.local").last? "CALSYNC_PROFILE").or
    ((s.file ".env").last? "CALSYNC_PROFILE") with hcommon
  have htext : s.text? "PROFILE" = s.overruling?.or common? := by
    simp only [overruling?, Option.or_assoc]
    rfl
  rw [htext]
  cases hover : s.overruling? with
  | some text => rfl
  | none =>
    rw [overruling?, Option.or_eq_none_iff, hprocess, Environment.last?_ofVariables,
      Variables.last?_eq_none_iff] at hover
    have hprofile : s.profile = common?.getD "local" := by
      rw [profile, hprocess, Environment.get?_ofVariables, hover.1, Option.none_or]
    rw [Option.none_or]
    cases hfound : common? with
    | none => rfl
    | some text =>
      rw [hfound, Option.getD_some] at hprofile
      rw [← hprofile]
      exact textOr_self htrim

theorem Describes.congr {s : Layers} (h : s.Describes file)
    (hfile : ∀ name ∈ s.files, file' name = file name) : s.Describes file' :=
  fun name hname => hfile name hname ▸ h name hname

end Layers

namespace Settings

/-- What is in a file matters for loading: with some other content it would come out otherwise. -/
def Consults (workerId : String) (process : Environment) (file : String → FileContent)
    (name : String) : Prop :=
  ∃ content, load workerId process (Function.update file name content) ≠
    load workerId process file

variable {workerId : String} {process : Environment} {file : String → FileContent}
  {settings : Settings}

/-- A file that cannot be read is never loaded. -/
theorem load_unreadable {name : String} (hname : name ∈ (Layers.read process file).files)
    (cause : String) (settings : Settings) :
    load workerId process (Function.update file name (.unreadable cause)) ≠ .ok settings := by
  intro h
  have hdescribes := Layers.describes_of_load h
  set file' := Function.update file name (.unreadable cause) with hfile'
  have hbad : file' name = .unreadable cause := Function.update_self ..
  -- the file is read, be it a common one or one of the profile, which the common ones decide on
  have hread : name ∈ (Layers.read process file').files := by
    by_cases hbase : name = ".env"
    · simp [Layers.files, hbase]
    by_cases hlocal : name = ".env.local"
    · simp [Layers.files, hlocal]
    rw [Layers.files, Layers.profile_read_congr (Function.update_of_ne (Ne.symm hbase) _ _)
      (Function.update_of_ne (Ne.symm hlocal) _ _)]
    exact hname
  have hok := hdescribes name hread
  rw [hbad] at hok
  cases hok

/-- **The files that matter** are the two common ones and the two of the profile as it is
written. -/
theorem consults_iff (h : load workerId process file = .ok settings) (name : String) :
    Consults workerId process file name ↔ name ∈ (Layers.read process file).files := by
  have hdescribes := Layers.describes_of_load h
  constructor
  · rintro ⟨content, hne⟩
    by_contra hname
    refine hne ?_
    have hothers : ∀ other ∈ (Layers.read process file).files,
        Function.update file name content other = file other := by
      intro other hother
      have hdiffers : other ≠ name := by
        rintro rfl
        exact hname hother
      exact Function.update_of_ne hdiffers _ _
    exact ((hdescribes.congr hothers).load_eq workerId).trans (hdescribes.load_eq workerId).symm
  · intro hname
    refine ⟨.unreadable "", ?_⟩
    rw [h]
    exact load_unreadable hname "" settings

theorem eq_of_accept {s settings : Settings} (h : s.accept = .ok settings) : settings = s := by
  obtain ⟨_, -, hsettings⟩ := bind_eq_ok.1 h
  exact (Except.ok.inj hsettings).symm

/-- The settings name the profile as any other setting. -/
theorem profile_of_load (h : load workerId process file = .ok settings) :
    settings.profile = textOr (Layers.read process file).profile
      ((Layers.read process file).text? "PROFILE") := by
  obtain ⟨vs, hprocess⟩ := Layers.exists_variables_of_load h
  have hload := (Layers.describes_of_load h).load_ofVariables hprocess workerId
  rw [eq_of_accept (mapError_eq_ok.1 (hload.symm.trans h))]
  exact ((Layers.read process file).denotes hprocess workerId).profile

/-! ## A profile file that names another profile -/

/-- The files of two profiles: one names the other, which does not exist. -/
def diverted (name : String) : FileContent :=
  if name = ".env" then .bytes "CALSYNC_PROFILE=dev\n".toUTF8
  else if name = ".env.dev" then .bytes "CALSYNC_PROFILE=prod\n".toUTF8
  else .absent

/-- The settings name a profile whose files were not looked at, while those of another profile
were; and a process makes them name a blank one. -/
theorem reported_not_loaded :
    (¬∀ (workerId : String) (process : Environment) (file : String → FileContent)
      (settings : Settings), load workerId process file = .ok settings →
      ∀ name, Consults workerId process file name ↔
        name ∈ [".env", ".env.local", ".env." ++ settings.profile,
          ".env." ++ settings.profile ++ ".local"]) ∧
    ¬∀ (workerId : String) (process : Environment) (file : String → FileContent)
      (settings : Settings), load workerId process file = .ok settings →
      Text.trim settings.profile.toList ≠ [] := by
  have hnamed {process : Environment} {file : String → FileContent} {profile : String}
      (h : (load "w" process file).toOption.map (·.profile) = some profile) :
      ∃ settings, load "w" process file = .ok settings ∧ settings.profile = profile := by
    cases hload : load "w" process file with
    | error e =>
      rw [hload] at h
      cases h
    | ok settings =>
      rw [hload] at h
      exact ⟨settings, rfl, Option.some.inj h⟩
  constructor
  · intro hclaim
    obtain ⟨settings, hload, hprod⟩ := @hnamed [] diverted "prod" (by decide +kernel)
    have hread : ".env.dev" ∈ (Layers.read [] diverted).files := by decide +kernel
    have hconsults := (consults_iff hload ".env.dev").2 hread
    have hlisted := (hclaim "w" [] diverted settings hload ".env.dev").1 hconsults
    rw [hprod] at hlisted
    revert hlisted
    decide +kernel
  · intro hclaim
    obtain ⟨settings, hload, hblank⟩ := @hnamed (.ofVariables [("CALSYNC_PROFILE", " ")])
      (fun _ => .absent) " " (by decide +kernel)
    refine hclaim _ _ _ settings hload ?_
    rw [hblank]
    decide

/-- The profile of a process that has the name once. -/
theorem text?_profile_of_process (h : load workerId process file = .ok settings)
    (hnodup : (process.map (·.1)).Nodup) (hset : (process.get? "CALSYNC_PROFILE").isSome) :
    (Layers.read process file).text? "PROFILE" = some (Layers.read process file).profile ∧
      (Layers.read process file).overruling? = some (Layers.read process file).profile := by
  obtain ⟨vs, rfl⟩ := Layers.exists_variables_of_load h
  obtain ⟨p, hp⟩ := Option.isSome_iff_exists.1 hset
  have hprofile : (Layers.read (.ofVariables vs) file).profile = p := by
    rw [Layers.profile]
    change ((Environment.ofVariables vs).get? "CALSYNC_PROFILE" |>.or _).getD _ = p
    rw [hp]
    rfl
  have hvs : (vs.map (·.1)).Nodup := by
    rw [Environment.ofVariables, List.map_map] at hnodup
    exact List.Nodup.of_map EnvFile.SystemText.ofString (by rwa [List.map_map])
  have hlast (rest : Option String) :
      ((Environment.ofVariables vs).last? "CALSYNC_PROFILE").or rest = some p := by
    rw [Environment.last?_ofVariables, Variables.last?_eq_lookup hvs,
      ← Environment.get?_ofVariables, hp, Option.some_or]
  rw [hprofile]
  exact ⟨hlast _, hlast _⟩

/-- **The profile that is loaded.** The files that matter are the two common ones and the two of
the profile `s.profile` as it is written. The settings name the profile as any other setting, and
with `s.profile` as the default, so they do not name a blank one unless that is blank. If it has no
blanks around it, they name this one, unless a text lies on top of it which is neither blank nor the
same. The process, unless it has the name twice, has no such text. -/
theorem profile_loaded (h : load workerId process file = .ok settings) :
    ∃ s : Layers, s.process = process ∧ s.Describes file ∧
      (∀ name, Consults workerId process file name ↔ name ∈ s.files) ∧
      settings.profile = textOr s.profile (s.text? "PROFILE") ∧
      (Text.trim s.profile.toList ≠ [] → Text.trim settings.profile.toList ≠ []) ∧
      ((process.map (·.1)).Nodup → (process.get? "CALSYNC_PROFILE").isSome →
        settings.profile = textOr s.profile (some s.profile)) ∧
      (Text.trim s.profile.toList = s.profile.toList →
        settings.profile = textOr s.profile s.overruling? ∧
        ((process.map (·.1)).Nodup → (process.get? "CALSYNC_PROFILE").isSome →
          settings.profile = s.profile)) := by
  obtain ⟨vs, hprocess⟩ := Layers.exists_variables_of_load h
  have hprofile := profile_of_load h
  refine ⟨.read process file, rfl, Layers.describes_of_load h, consults_iff h, hprofile,
    fun hblank => hprofile ▸ trim_textOr_ne_nil hblank _, fun hnodup hset => ?_,
    fun htrim => ⟨?_, fun hnodup hset => ?_⟩⟩
  · rw [hprofile, (text?_profile_of_process h hnodup hset).1]
  · rw [hprofile, Layers.textOr_profile hprocess htrim]
  · rw [hprofile, (text?_profile_of_process h hnodup hset).1, textOr_self htrim]

/-- A process that sets the profile. -/
def steadfast : Environment := .ofVariables [("CALSYNC_PROFILE", "dev")]

/-- A process that sets the profile keeps it, whatever the file of the profile says. -/
theorem profile_loaded_kept :
    ∃ settings : Settings, load "w" steadfast diverted = .ok settings ∧
      settings.profile = "dev" ∧ Consults "w" steadfast diverted ".env.dev.local" := by
  have hisOk : (load "w" steadfast diverted).isOk = true := by decide +kernel
  cases hload : load "w" steadfast diverted with
  | error e =>
    rw [hload] at hisOk
    cases hisOk
  | ok settings =>
    obtain ⟨s, hprocess, -, hconsults, -, -, -, hkept⟩ := profile_loaded hload
    have hdev : s.profile = "dev" := by
      rw [Layers.profile, hprocess, steadfast, Environment.get?_ofVariables]
      rfl
    rw [hdev] at hkept
    have hsame := (hkept (by decide +kernel)).2 (by decide +kernel) (by decide +kernel)
    refine ⟨settings, rfl, hsame, (hconsults _).2 ?_⟩
    rw [Layers.files, hdev]
    decide +kernel

end Settings

end SyncQueue
