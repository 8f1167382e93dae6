import SyncQueue.Settings.Loading

/-!
# Layers of settings

Loading lays the variables of up to five sources over one another, the last one of a name on top,
and then reads each setting from what it finds on top. So each setting is read from one text only:
that of the highest source which has the name at all, whether or not the text makes sense. All of
this needs a process whose variables are Unicode; of any other one no setting is read.

* `RawSettings.lookup_overlay`: what is found after a layer has been laid over others.
* `RawSettings.overlay_filter`: variables that are no settings leave no trace.
* `Layers.text?`, `Layers.Denotes`: the text of each setting and what it denotes.
* `Settings.layered`: loading gives what the layers denote, or panics.
-/

namespace SyncQueue

open EnvFile (Environment SystemText Variables)
open Files (FileContent)
open Number (Binary64)

theorem Text.after?_eq_some_iff {beginning cs rest : List Char} :
    after? beginning cs = some rest ↔ cs = beginning ++ rest := by
  refine ⟨eq_append_of_after?, ?_⟩
  rintro rfl
  simp [after?]

namespace EnvFile.Variables

/-- The last value that a name has. -/
def last? (vs : Variables) (name : String) : Option String := vs.reverse.lookup name

section

variable {α β : Type} [DecidableEq α]

theorem lookup_cons (name other : α) (value : β) (vs : List (α × β)) :
    List.lookup other ((name, value) :: vs) =
      if other = name then some value else vs.lookup other := by
  rw [List.lookup_cons]
  by_cases h : other = name
  · simp [h]
  · have hne : (other == name) = false := by simpa using h
    rw [hne, if_neg h]

/-- A name is found among the variables of any kind that it belongs to. -/
theorem lookup_filter (kind : α → Bool) {name : α} (h : kind name) (vs : List (α × β)) :
    (vs.filter fun v => kind v.1).lookup name = vs.lookup name := by
  induction vs with
  | nil => rfl
  | cons v vs ih =>
    obtain ⟨other, value⟩ := v
    rw [List.filter_cons, lookup_cons]
    split
    · rw [lookup_cons, ih]
    · rename_i hother
      have hne : name ≠ other := by
        rintro rfl
        exact hother h
      rw [ih, if_neg hne]

end

theorem last?_cons (name value other : String) (vs : Variables) :
    last? ((name, value) :: vs) other =
      (vs.last? other).or (if other = name then some value else none) := by
  rw [last?, List.reverse_cons, List.lookup_append, lookup_cons, List.lookup_nil]
  rfl

end EnvFile.Variables

namespace EnvFile.Environment

/-- The last value that a name has, if it is Unicode. -/
def last? (e : Environment) (name : String) : Option String :=
  (e.reverse.lookup (.ofString name)).bind SystemText.text?

variable (vs : Variables) (name : String)

theorem lookup_ofVariables :
    (ofVariables vs).lookup (.ofString name) = (vs.lookup name).map .ofString := by
  induction vs with
  | nil => rfl
  | cons v vs ih =>
    obtain ⟨other, value⟩ := v
    rw [Variables.lookup_cons]
    change List.lookup _ ((SystemText.ofString other, SystemText.ofString value) ::
      ofVariables vs) = _
    rw [Variables.lookup_cons, ih]
    simp only [SystemText.ofString_inj]
    split <;> rfl

@[simp]
theorem get?_ofVariables : (ofVariables vs).get? name = vs.lookup name := by
  rw [get?, lookup_ofVariables]
  cases vs.lookup name with
  | none => rfl
  | some value => exact SystemText.text?_ofString value

@[simp]
theorem last?_ofVariables : (ofVariables vs).last? name = vs.last? name := by
  have hreverse : (ofVariables vs).reverse = ofVariables vs.reverse := List.map_reverse.symm
  exact (congrArg (fun e : Environment => e.get? name) hreverse).trans (get?_ofVariables ..)

end EnvFile.Environment

namespace RawSettings

/-- A name is that of a setting: it begins with the marker. -/
def isSetting (name : String) : Bool := marker.toList.isPrefixOf name.toList

/-- A name that a process uses is that of a setting. -/
def isSystemSetting (name : SystemText) : Bool := name.text?.any isSetting

theorem shortName?_eq_some_iff {name short : String} :
    shortName? name = some short ↔ name = marker ++ short := by
  rw [shortName?, Option.map_eq_some_iff]
  simp only [Text.after?_eq_some_iff]
  constructor
  · rintro ⟨rest, hname, rfl⟩
    rw [← String.toList_inj, hname, String.toList_append, String.toList_ofList]
  · rintro rfl
    exact ⟨short.toList, String.toList_append, String.ofList_toList⟩

theorem isSetting_marker (short : String) : isSetting (marker ++ short) := by
  simp [isSetting, String.toList_append]

@[simp]
theorem isSystemSetting_ofString (name : String) :
    isSystemSetting (.ofString name) = isSetting name := by
  simp [isSystemSetting]

theorem filter_ofVariables (vs : Variables) :
    ((Environment.ofVariables vs).filter fun v => isSystemSetting v.1) =
      Environment.ofVariables (vs.filter fun v => isSetting v.1) := by
  simp [Environment.ofVariables, List.filter_map, Function.comp_def]

/-! ## What is found on top -/

theorem lookup_insert (raw : RawSettings) (name text short : String) :
    (raw.insert name text).lookup short = if short = name then some text else raw.lookup short := by
  rw [insert, Variables.lookup_cons]
  split
  · rfl
  · rename_i hne
    have hother : (short != name) = true := by simpa using hne
    exact Variables.lookup_filter (· != name) hother raw

theorem lookup_put (raw : RawSettings) (name text short : String) :
    (raw.put name text).lookup short =
      if marker ++ short = name then some text else raw.lookup short := by
  unfold put
  cases hname : shortName? name with
  | none =>
    have hne : marker ++ short ≠ name := by
      intro heq
      rw [shortName?_eq_some_iff.2 heq.symm] at hname
      cases hname
    rw [if_neg hne]
  | some other =>
    obtain rfl := shortName?_eq_some_iff.1 hname
    have hsame : marker ++ short = marker ++ other ↔ short = other := by
      simp [← String.toList_inj, String.toList_append]
    simp only [lookup_insert, hsame]

/-- **A layer on top**: its last value of a name hides what lies under it. -/
theorem lookup_overlay (raw : RawSettings) (layer : Variables) (short : String) :
    (raw.overlay layer).lookup short =
      (layer.last? (marker ++ short)).or (raw.lookup short) := by
  induction layer generalizing raw with
  | nil => rfl
  | cons v layer ih =>
    obtain ⟨name, value⟩ := v
    have hrest : raw.overlay ((name, value) :: layer) = (raw.put name value).overlay layer := rfl
    rw [hrest, ih, lookup_put, Variables.last?_cons, Option.or_assoc]
    split <;> rfl

/-- Variables that are no settings leave no trace. -/
theorem overlay_filter (raw : RawSettings) (layer : Variables) :
    raw.overlay (layer.filter fun v => isSetting v.1) = raw.overlay layer := by
  have hput (raw : RawSettings) (v : String × String) :
      (if isSetting v.1 then raw.put v.1 v.2 else raw) = raw.put v.1 v.2 := by
    split
    · rfl
    · rename_i hother
      have hnone : shortName? v.1 = none := by
        unfold isSetting at hother
        rw [shortName?, Text.after?, if_neg hother, Option.map_none]
      rw [put, hnone]
  rw [overlay, List.foldl_filter]
  simp only [hput]
  rfl

/-- Layers that assign the same settings are laid over texts with the same effect. -/
theorem overlay_congr {layer layer' : Variables}
    (h : (layer.filter fun v => isSetting v.1) = layer'.filter fun v => isSetting v.1)
    (raw : RawSettings) : raw.overlay layer = raw.overlay layer' := by
  rw [← overlay_filter, h, overlay_filter]

end RawSettings

/-! ## Layers and what they denote -/

/-- What the sources of settings assign: the process, and each environment file under its name. A
file that does not exist assigns nothing. -/
structure Layers where
  process : Environment
  file : String → Variables

/-- The text without the blanks around it; a fallback when there is no text or nothing is left. -/
def textOr (fallback : String) : Option String → String
  | none => fallback
  | some text => if (Text.trim text.toList).isEmpty then fallback else Text.trimString text

/-- The value that the text without the blanks around it denotes; a fallback when there is no text
or it denotes none. -/
def valueOr {α : Type} (read? : List Char → Option α) (fallback : α) : Option String → α
  | none => fallback
  | some text => (read? (Text.trim text.toList)).getD fallback

namespace Layers

/-- The profile whose files are read, as it is written: that of the process, which is the first one
if it has several, else the last one in `.env.local`, else the last one in `.env`, else `local`. -/
def profile (s : Layers) : String :=
  ((s.process.get? "CALSYNC_PROFILE").or <|
    ((s.file ".env.local").last? "CALSYNC_PROFILE").or <|
    (s.file ".env").last? "CALSYNC_PROFILE").getD "local"

/-- The names of the files that are read, lowest layer first. -/
def files (s : Layers) : List String :=
  [".env", ".env.local", ".env." ++ s.profile, ".env." ++ s.profile ++ ".local"]

/-- The text that a setting is read from, under its short name: that of the process, else that of
the highest file which assigns one. Of several texts in one source it is the last. -/
def text? (s : Layers) (short : String) : Option String :=
  let name := "CALSYNC_" ++ short
  (s.process.last? name).or <|
  ((s.file (".env." ++ s.profile ++ ".local")).last? name).or <|
  ((s.file (".env." ++ s.profile)).last? name).or <|
  ((s.file ".env.local").last? name).or <|
  (s.file ".env").last? name

/-- The files that are read assign what the layers say. -/
def Describes (s : Layers) (file : String → FileContent) : Prop :=
  ∀ name ∈ s.files, Settings.fileVariables s.process name (file name) = .ok (s.file name)

/-- The layers assign the same settings. -/
structure SameSettings (s s' : Layers) : Prop where
  process : (s.process.filter fun v => RawSettings.isSystemSetting v.1) =
    s'.process.filter fun v => RawSettings.isSystemSetting v.1
  file : ∀ name, ((s.file name).filter fun v => RawSettings.isSetting v.1) =
    (s'.file name).filter fun v => RawSettings.isSetting v.1

/-- The settings are those of the layers; each that has no text, or none that makes sense, has its
default. -/
structure Denotes (s : Layers) (d settings : Settings) : Prop where
  profile : settings.profile = textOr s.profile (s.text? "PROFILE")
  logLevel : settings.logLevel = textOr d.logLevel (s.text? "LOG_LEVEL")
  logFormat : settings.logFormat = textOr d.logFormat (s.text? "LOG_FORMAT")
  databaseUrl : settings.databaseUrl = textOr d.databaseUrl (s.text? "DATABASE_URL")
  maxConnections : settings.maxConnections =
    valueOr (Text.naturalUpTo? (Number.maxUnsigned 32)) d.maxConnections
      (s.text? "DB_MAX_CONNECTIONS")
  acquireTimeoutMillis : settings.acquireTimeoutMillis =
    valueOr (Text.naturalUpTo? (Number.maxUnsigned 64)) d.acquireTimeoutMillis
      (s.text? "DB_ACQUIRE_TIMEOUT_MS")
  workerId : settings.worker.id = textOr d.worker.id (s.text? "WORKER_ID")
  pollIntervalMillis : settings.worker.pollIntervalMillis =
    valueOr (Text.naturalUpTo? (Number.maxUnsigned 64)) d.worker.pollIntervalMillis
      (s.text? "WORKER_POLL_INTERVAL_MS")
  heartbeatIntervalSeconds : settings.worker.heartbeatIntervalSeconds =
    valueOr (Text.naturalUpTo? (Number.maxUnsigned 64)) d.worker.heartbeatIntervalSeconds
      (s.text? "WORKER_HEARTBEAT_INTERVAL_SECONDS")
  shutdownPollMillis : settings.worker.shutdownPollMillis =
    valueOr (Text.naturalUpTo? (Number.maxUnsigned 64)) d.worker.shutdownPollMillis
      (s.text? "WORKER_SHUTDOWN_POLL_MS")
  jitterRatio : settings.retry.jitterRatio =
    valueOr Binary64.read? d.retry.jitterRatio (s.text? "RETRY_JITTER_RATIO")
  maxDelayMinutes : settings.retry.maxDelayMinutes =
    valueOr (Text.naturalUpTo? (Number.maxUnsigned 64)) d.retry.maxDelayMinutes
      (s.text? "RETRY_MAX_DELAY_MINUTES")
  defaultMaxRetries : settings.retry.defaultMaxRetries =
    valueOr (Text.integerWithin? (Number.minSigned 32) (Number.maxSigned 32))
      d.retry.defaultMaxRetries (s.text? "RETRY_DEFAULT_MAX_RETRIES")
  failureThreshold : settings.breaker.failureThreshold =
    valueOr (Text.integerWithin? (Number.minSigned 32) (Number.maxSigned 32))
      d.breaker.failureThreshold (s.text? "CIRCUIT_BREAKER_FAILURE_THRESHOLD")
  pauseMinutes : settings.breaker.pauseMinutes =
    valueOr (Text.integerWithin? (Number.minSigned 64) (Number.maxSigned 64))
      d.breaker.pauseMinutes (s.text? "CIRCUIT_BREAKER_PAUSE_MINUTES")

/-- The texts of the files that are read whatever the profile is. -/
def common (s : Layers) : RawSettings :=
  (RawSettings.overlay [] (s.file ".env")).overlay (s.file ".env.local")

/-- The texts of all files. -/
def written (s : Layers) : RawSettings :=
  (s.common.overlay (s.file (".env." ++ s.profile))).overlay
    (s.file (".env." ++ s.profile ++ ".local"))

variable (s : Layers) {vs vs' : Variables}

theorem lookup_common (short : String) :
    s.common.lookup short =
      ((s.file ".env.local").last? ("CALSYNC_" ++ short)).or
        ((s.file ".env").last? ("CALSYNC_" ++ short)) := by
  rw [common, RawSettings.lookup_overlay, RawSettings.lookup_overlay, List.lookup_nil,
    Option.or_none]
  rfl

theorem loadedProfile_eq : Settings.loadedProfile s.process s.common = s.profile := by
  rw [Settings.loadedProfile, lookup_common, profile]
  cases s.process.get? "CALSYNC_PROFILE" <;> rfl

theorem lookup_overlay_written (h : s.process = .ofVariables vs) (short : String) :
    (s.written.overlay vs).lookup short = s.text? short := by
  rw [written, RawSettings.lookup_overlay, RawSettings.lookup_overlay, RawSettings.lookup_overlay,
    lookup_common, ← Environment.last?_ofVariables, ← h]
  rfl

/-! ## Reading the settings -/

theorem getD_string? (raw : RawSettings) (name fallback : String) :
    (raw.string? name).getD fallback = textOr fallback (raw.lookup name) := by
  rw [RawSettings.string?]
  cases raw.lookup name with
  | none => rfl
  | some text =>
    have hempty : (Text.trimString text).isEmpty = (Text.trim text.toList).isEmpty := by
      rw [Bool.eq_iff_iff, String.isEmpty_iff, List.isEmpty_iff]
      exact String.ofList_eq_empty_iff
    simp only [Option.map_some, Option.filter_some, textOr, hempty]
    cases (Text.trim text.toList).isEmpty <;> rfl

theorem getD_parsed? {α : Type} (raw : RawSettings) (name : String)
    (read? : List Char → Option α) (fallback : α) :
    (raw.parsed? name read?).getD fallback = valueOr read? fallback (raw.lookup name) := by
  rw [RawSettings.parsed?]
  cases raw.lookup name <;> rfl

/-- The settings that are read from all texts are what the layers denote. -/
theorem denotes (h : s.process = .ofVariables vs) (workerId : String) :
    s.Denotes (.default workerId) (({ Settings.default workerId with
      profile := s.profile } : Settings).ofRaw (s.written.overlay vs)) := by
  constructor <;>
    simp only [Settings.ofRaw, RawSettings.natural?, getD_string?, getD_parsed?,
      s.lookup_overlay_written h]

/-! ## Loading -/

variable {s} {s' : Layers} {file file' : String → FileContent}

/-- Loading files that can be read comes down to the variables of the process and the texts of the
files. -/
theorem Describes.load_eq (h : s.Describes file) (workerId : String) :
    Settings.load workerId s.process file =
      match s.process.variables? with
      | none => .error .panic
      | some vs => (({ Settings.default workerId with profile := s.profile } : Settings).ofRaw
          (s.written.overlay vs)).accept.mapError .refused := by
  have hread : ∀ name ∈ s.files, (Settings.fileVariables s.process name (file name)).mapError
      LoadFailure.refused = .ok (s.file name) := fun name hname => congrArg _ (h name hname)
  have hbase := hread ".env" (by simp [files])
  have hlocal := hread ".env.local" (by simp [files])
  have hown := hread (".env." ++ s.profile) (by simp [files])
  have hownLocal := hread (".env." ++ s.profile ++ ".local") (by simp [files])
  have hprofile := s.loadedProfile_eq
  rw [common] at hprofile
  unfold Settings.load
  simp only [Settings.commonFiles, Settings.profileFiles, hbase, hlocal, bind, Except.bind,
    hprofile, hown, hownLocal]
  rfl

/-- The variables of a process that are Unicode are laid over the texts of the files. -/
theorem Describes.load_ofVariables (h : s.Describes file) (hprocess : s.process = .ofVariables vs)
    (workerId : String) :
    Settings.load workerId s.process file =
      (({ Settings.default workerId with profile := s.profile } : Settings).ofRaw
        (s.written.overlay vs)).accept.mapError .refused := by
  rw [h.load_eq, Environment.variables?_eq_some_iff.2 hprocess]

/-- **A variable that is not Unicode** makes loading panic, when the files have been read. -/
theorem Describes.load_panic (h : s.Describes file) (hprocess : ¬s.process.IsUnicode)
    (workerId : String) : Settings.load workerId s.process file = .error .panic := by
  rw [h.load_eq]
  cases hvariables : s.process.variables? with
  | none => rfl
  | some vs =>
    exact absurd (Environment.isUnicode_iff.2 ⟨vs, Environment.variables?_eq_some_iff.1 hvariables⟩)
      hprocess

namespace SameSettings

variable (h : s.SameSettings s')

include h

theorem common : s'.common = s.common := by
  rw [Layers.common, Layers.common, RawSettings.overlay_congr (h.file ".env"),
    RawSettings.overlay_congr (h.file ".env.local")]

theorem profile : s'.profile = s.profile := by
  have hprocess : s'.process.get? "CALSYNC_PROFILE" = s.process.get? "CALSYNC_PROFILE" := by
    have hsetting : RawSettings.isSystemSetting (.ofString "CALSYNC_PROFILE") := by
      rw [RawSettings.isSystemSetting_ofString]
      exact RawSettings.isSetting_marker "PROFILE"
    rw [Environment.get?, ← Variables.lookup_filter _ hsetting, ← h.process,
      Variables.lookup_filter _ hsetting]
    rfl
  rw [← loadedProfile_eq, ← loadedProfile_eq, h.common, Settings.loadedProfile,
    Settings.loadedProfile, hprocess]

theorem written : s'.written = s.written := by
  rw [Layers.written, Layers.written, h.common, h.profile, RawSettings.overlay_congr (h.file _),
    RawSettings.overlay_congr (h.file _)]

theorem overlay (hprocess : s.process = .ofVariables vs) (hprocess' : s'.process = .ofVariables vs')
    (raw : RawSettings) : raw.overlay vs' = raw.overlay vs := by
  have hsame := h.process
  rw [hprocess, hprocess', RawSettings.filter_ofVariables, RawSettings.filter_ofVariables] at hsame
  exact (RawSettings.overlay_congr (Environment.ofVariables_inj.1 hsame) raw).symm

end SameSettings

end Layers

/-- **Layers of settings.** If the variables of the process are Unicode, loading gives what the
layers denote as far as that keeps the bounds, and fails with the first bound that is broken
otherwise. If they are not, it panics. Which of the two it is apart, it depends on the settings among
the variables only. -/
theorem Settings.layered {s : Layers} {file : String → FileContent} (h : s.Describes file)
    (workerId : String) :
    (s.process.IsUnicode → ∃ settings, s.Denotes (.default workerId) settings ∧
      load workerId s.process file = settings.accept.mapError .refused) ∧
    (¬s.process.IsUnicode → load workerId s.process file = .error .panic) ∧
    ∀ (s' : Layers) (file' : String → FileContent), s'.Describes file' → s.SameSettings s' →
      (s'.process.IsUnicode ↔ s.process.IsUnicode) →
      load workerId s'.process file' = load workerId s.process file := by
  refine ⟨fun hunicode => ?_, fun hunicode => h.load_panic hunicode workerId,
    fun s' file' h' hsame hiff => ?_⟩
  · obtain ⟨vs, hprocess⟩ := Environment.isUnicode_iff.1 hunicode
    exact ⟨_, s.denotes hprocess workerId, h.load_ofVariables hprocess workerId⟩
  · by_cases hunicode : s.process.IsUnicode
    · obtain ⟨vs, hprocess⟩ := Environment.isUnicode_iff.1 hunicode
      obtain ⟨vs', hprocess'⟩ := Environment.isUnicode_iff.1 (hiff.2 hunicode)
      rw [h.load_ofVariables hprocess, h'.load_ofVariables hprocess', hsame.profile,
        hsame.written, hsame.overlay hprocess hprocess']
    · rw [h.load_panic hunicode, h'.load_panic fun h => hunicode (hiff.1 h)]

/-! ## What is not layered -/

namespace Layers

/-- A process with one variable, which is no setting and not Unicode. -/
def stray : Environment := [(.ofString "FOO", ⟨[0xff]⟩)]

/-- The layers of a process without files. -/
def ofProcess (process : Environment) : Layers := ⟨process, fun _ => []⟩

theorem describes_ofProcess {process : Environment} {file : String → FileContent}
    (h : ∀ name ∈ (ofProcess process).files, file name = .absent) :
    (ofProcess process).Describes file := by
  intro name hname
  rw [h name hname]
  rfl

theorem load_stray : Settings.load "w" stray (fun _ => .absent) = .error .panic :=
  (describes_ofProcess fun _ _ => rfl).load_panic (by decide +kernel) "w"

theorem sameSettings_stray : (ofProcess []).SameSettings (ofProcess stray) :=
  ⟨by decide +kernel, fun _ => rfl⟩

end Layers

theorem Settings.exists_error {α : Type} {loaded : Except LoadFailure α}
    (h : loaded.isOk = false) : ∃ failure, loaded = .error failure := by
  cases loaded with
  | error failure => exact ⟨failure, rfl⟩
  | ok a => cases h

/-- The name of a profile that no file can have. -/
def Settings.longProfile : String := String.ofList (List.replicate 300 'x')

open Layers in
/-- A variable that is no setting is enough for loading to give nothing at all, and that it is there
makes a difference. Nor is a file that does not exist always passed over: in an empty directory a
profile with too long a name is refused. -/
theorem Settings.not_layered :
    (¬∀ (s : Layers) (file : String → FileContent), s.Describes file →
      ∀ workerId, ∃ settings, s.Denotes (.default workerId) settings ∧
        load workerId s.process file = settings.accept.mapError .refused) ∧
    (¬∀ (s s' : Layers) (file file' : String → FileContent), s.Describes file →
      s'.Describes file' → s.SameSettings s' →
      ∀ workerId, load workerId s'.process file' = load workerId s.process file) ∧
    ∃ failure, load "w" (.ofVariables [("CALSYNC_PROFILE", longProfile)])
      (Files.WorkingDirectory.content ⟨"/srv", []⟩) = .error failure := by
  have hdescribes (process : Environment) :
      (ofProcess process).Describes fun _ => .absent := describes_ofProcess fun _ _ => rfl
  refine ⟨fun hclaim => ?_, fun hclaim => ?_, ?_⟩
  · obtain ⟨settings, -, hload⟩ := hclaim _ _ (hdescribes stray) "w"
    have hpanic := hload.symm.trans load_stray
    cases haccept : settings.accept <;> rw [haccept] at hpanic <;> cases hpanic
  · have hsame := hclaim _ _ _ _ (hdescribes []) (hdescribes stray) sameSettings_stray "w"
    have hok : (load "w" [] fun _ => .absent).isOk = true := by decide +kernel
    have hpanic : load "w" [] (fun _ => .absent) = .error .panic := hsame.symm.trans load_stray
    rw [hpanic] at hok
    cases hok
  · exact exists_error (by decide +kernel)

/-! ## A higher layer without a value -/

namespace Layers

/-- The process sets a worker name of blanks, and the profile files overrule the others. -/
def overruled : Layers where
  process := .ofVariables [("CALSYNC_WORKER_ID", " "), ("HOME", "/root")]
  file name :=
    if name = ".env" then
      [("CALSYNC_PROFILE", "dev"), ("CALSYNC_WORKER_ID", "low"), ("CALSYNC_LOG_FORMAT", "pretty")]
    else if name = ".env.dev" then
      [("CALSYNC_LOG_LEVEL", "warn"), ("CALSYNC_LOG_LEVEL", "debug"),
        ("CALSYNC_DB_MAX_CONNECTIONS", "7")]
    else if name = ".env.dev.local" then [("CALSYNC_DB_MAX_CONNECTIONS", "many")]
    else []

/-- The files of these layers. -/
def overruledFile (name : String) : FileContent :=
  if name = ".env" then
    .bytes "CALSYNC_PROFILE=dev\nCALSYNC_WORKER_ID=low\nCALSYNC_LOG_FORMAT=pretty\n".toUTF8
  else if name = ".env.dev" then
    .bytes ("CALSYNC_LOG_LEVEL=warn\nCALSYNC_LOG_LEVEL='debug'\n" ++
      "CALSYNC_DB_MAX_CONNECTIONS=7\n").toUTF8
  else if name = ".env.dev.local" then .bytes "CALSYNC_DB_MAX_CONNECTIONS=many\n".toUTF8
  else .absent

theorem overruled_describes : overruled.Describes overruledFile := by
  have hread : ∀ name ∈ overruled.files,
      (Settings.fileVariables overruled.process name (overruledFile name)).toOption =
        some (overruled.file name) := by decide +kernel
  intro name hname
  have hsome := hread name hname
  cases hvariables : Settings.fileVariables overruled.process name (overruledFile name) with
  | ok vs =>
    rw [hvariables] at hsome
    exact congrArg _ (Option.some.inj hsome)
  | error e =>
    rw [hvariables] at hsome
    cases hsome

end Layers

open Layers in
/-- The name of blanks and the number that is none hide what lies under them. -/
theorem Settings.layered_overruled :
    ∃ settings : Settings,
      load "generated" overruled.process overruledFile = settings.accept.mapError .refused ∧
      settings.profile = "dev" ∧ settings.worker.id = "generated" ∧
      settings.maxConnections = 10 ∧ settings.logLevel = "debug" ∧
      settings.logFormat = "pretty" := by
  obtain ⟨settings, hdenotes, hload⟩ :=
    (layered overruled_describes "generated").1 (Environment.isUnicode_ofVariables _)
  refine ⟨settings, hload, ?_, ?_, ?_, ?_, ?_⟩
  · exact hdenotes.profile.trans (by decide +kernel)
  · exact hdenotes.workerId.trans (by decide +kernel)
  · exact hdenotes.maxConnections.trans (by decide +kernel)
  · exact hdenotes.logLevel.trans (by decide +kernel)
  · exact hdenotes.logFormat.trans (by decide +kernel)

end SyncQueue
