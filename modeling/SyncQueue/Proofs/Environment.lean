import Mathlib.Data.List.TakeDrop
import Mathlib.Data.List.TakeWhile
import SyncQueue.Proofs.Accepted

/-!
# Settings from the environment

Every setting has a variable of its own, and there are no settings that only a file can make: a
process that sets all variables is loaded with what it sets, without a default in between. That
takes texts which loading leaves as they are. Numbers are such texts, because nothing that is read
as a number has a blank in it; of the others it has to be said.

* `Text.IsPlain`, `Text.HasNoBlank`: texts that are the same when they are trimmed.
* `Number.Binary64.hasNoBlank_of_read?`: what is read as a number.
* `EnvFile.Environment.Sets`: a process sets a variable.
* `Settings.texts`: the settings as texts.
* `Layers.Denotes.eq_of_texts`: the only settings that these texts denote.
* `Settings.loaded_exactly`: loading gives the settings that the process sets, if all its variables
  are Unicode.
-/

namespace SyncQueue

open EnvFile (Environment SystemText)
open Files (FileContent)
open Number (Binary64)

/-! ## Texts that stay as they are -/

namespace Text

/-- The text is not empty, and neither its first nor its last character is blank. -/
structure IsPlain (cs : List Char) : Prop where
  ne_nil : cs ≠ []
  head : ∀ c ∈ cs.head?, isBlank c = false
  last : ∀ c ∈ cs.getLast?, isBlank c = false

-- Written with `Option.all`, so that nothing is decided by going through all characters.
instance (cs : List Char) : Decidable (IsPlain cs) :=
  decidable_of_iff (cs ≠ [] ∧ cs.head?.all (fun c => !isBlank c) ∧
      cs.getLast?.all fun c => !isBlank c) <| by
    simp only [Option.all_eq_true, Bool.not_eq_true']
    exact ⟨fun ⟨hne, hhead, hlast⟩ => ⟨hne, hhead, hlast⟩, fun h => ⟨h.ne_nil, h.head, h.last⟩⟩

/-- None of the characters is blank. -/
def HasNoBlank (cs : List Char) : Prop := ∀ c ∈ cs, isBlank c = false

variable {c : Char} {cs ds : List Char}

theorem trimStart_eq_self (h : ∀ c ∈ cs.head?, isBlank c = false) : trimStart cs = cs := by
  cases cs with
  | nil => rfl
  | cons c cs => rw [trimStart, List.dropWhile_cons_of_neg (by simp [h c rfl])]

theorem trimEnd_eq_self (h : ∀ c ∈ cs.getLast?, isBlank c = false) : trimEnd cs = cs := by
  rw [← List.head?_reverse] at h
  have hreverse := trimStart_eq_self h
  rw [trimStart] at hreverse
  rw [trimEnd, hreverse, List.reverse_reverse]

theorem IsPlain.trim_eq (h : IsPlain cs) : trim cs = cs := by
  rw [trim, trimStart_eq_self h.head, trimEnd_eq_self h.last]

theorem HasNoBlank.trim_eq (h : HasNoBlank cs) : trim cs = cs := by
  rw [trim, trimStart_eq_self fun c hc => h c (List.mem_of_head? hc),
    trimEnd_eq_self fun c hc => h c (List.mem_of_getLast? hc)]

@[simp]
theorem hasNoBlank_nil : HasNoBlank [] := fun _ hc => absurd hc List.not_mem_nil

@[simp]
theorem hasNoBlank_cons : HasNoBlank (c :: cs) ↔ isBlank c = false ∧ HasNoBlank cs :=
  List.forall_mem_cons

@[simp]
theorem hasNoBlank_append : HasNoBlank (cs ++ ds) ↔ HasNoBlank cs ∧ HasNoBlank ds :=
  List.forall_mem_append

theorem isBlank_of_isDigit (h : c.isDigit) : isBlank c = false := by
  have hbounds := toNat_of_isDigit h
  simp [isBlank]
  omega

/-- Blanks have no case. -/
theorem toLower_of_isBlank (h : isBlank c) : c.toLower = c := by
  refine dif_neg ?_
  rintro ⟨hlow, hhigh⟩
  have hbounds : 65 ≤ c.toNat ∧ c.toNat ≤ 90 := ⟨hlow, hhigh⟩
  simp [isBlank] at h
  omega

theorem hasNoBlank_of_map_toLower (h : HasNoBlank (cs.map Char.toLower)) : HasNoBlank cs := by
  intro c hc
  by_contra hblank
  rw [Bool.not_eq_false] at hblank
  have hlower := h c.toLower (List.mem_map_of_mem hc)
  rw [toLower_of_isBlank hblank, hblank] at hlower
  cases hlower

/-! ### Whole numbers -/

theorem hasNoBlank_of_digits? {n : Nat} (h : digits? cs = some n) : HasNoBlank cs := by
  unfold digits? at h
  split at h
  · cases h
  · rename_i hdigits
    simp only [Bool.or_eq_true, not_or, Bool.not_eq_true', Bool.not_eq_false] at hdigits
    exact fun c hc => isBlank_of_isDigit (List.all_eq_true.1 hdigits.2 c hc)

theorem hasNoBlank_of_natural? {n : Nat} (h : natural? cs = some n) : HasNoBlank cs := by
  unfold natural? at h
  split at h
  · exact hasNoBlank_cons.2 ⟨rfl, hasNoBlank_of_digits? h⟩
  · exact hasNoBlank_of_digits? h

theorem hasNoBlank_of_integer? {i : Int} (h : integer? cs = some i) : HasNoBlank cs := by
  unfold integer? at h
  split at h
  · obtain ⟨_, hcast, -⟩ := Option.map_eq_some_iff.1 h
    obtain ⟨_, hdigits, -⟩ := Option.bind_eq_some_iff.1 hcast
    exact hasNoBlank_cons.2 ⟨rfl, hasNoBlank_of_digits? hdigits⟩
  · obtain ⟨_, hnatural, -⟩ := Option.map_eq_some_iff.1 h
    exact hasNoBlank_of_natural? hnatural

theorem hasNoBlank_natDigits (n : Nat) : HasNoBlank (natDigits n) :=
  hasNoBlank_of_natural? (natural?_natDigits n)

theorem hasNoBlank_intDigits (i : Int) : HasNoBlank (intDigits i) :=
  hasNoBlank_of_integer? (integer?_intDigits i)

end Text

/-! ### Binary numbers -/

namespace Number.Binary64

open Text (HasNoBlank)

variable {cs whole rest : List Char} {negative : Bool} {x : Binary64}

theorem hasNoBlank_of_spanDigits (h : spanDigits cs = (whole, rest)) (hrest : HasNoBlank rest) :
    HasNoBlank cs := by
  rw [spanDigits, List.span_eq_takeWhile_dropWhile, Prod.mk.injEq] at h
  rw [← List.takeWhile_append_dropWhile (p := Char.isDigit) (l := cs), Text.hasNoBlank_append, h.2]
  exact ⟨fun c hc => Text.isBlank_of_isDigit (List.mem_takeWhile_imp hc), hrest⟩

theorem hasNoBlank_of_exponent? {e : Int} (h : exponent? cs = some e) : HasNoBlank cs := by
  unfold exponent? at h
  split at h
  · exact Text.hasNoBlank_nil
  · split at h
    · rename_i c _ hletter
      have hc : Text.isBlank c = false := by
        obtain rfl | rfl : c = 'e' ∨ c = 'E' := by simpa using hletter
        · rfl
        · rfl
      exact Text.hasNoBlank_cons.2 ⟨hc, Text.hasNoBlank_of_integer? h⟩
    · cases h

theorem hasNoBlank_of_unsigned? (h : unsigned? negative cs = some x) : HasNoBlank cs := by
  unfold unsigned? at h
  cases hwhole : spanDigits cs with
  | mk whole rest =>
    refine hasNoBlank_of_spanDigits hwhole ?_
    simp only [hwhole] at h
    split at h
    · rename_i afterPoint
      cases hfraction : spanDigits afterPoint with
      | mk fraction rest =>
        simp only [hfraction] at h
        split at h
        · cases h
        · obtain ⟨_, hexponent, -⟩ := Option.map_eq_some_iff.1 h
          refine Text.hasNoBlank_cons.2 ⟨rfl, hasNoBlank_of_spanDigits hfraction ?_⟩
          exact hasNoBlank_of_exponent? hexponent
    · split at h
      · cases h
      · obtain ⟨_, hexponent, -⟩ := Option.map_eq_some_iff.1 h
        exact hasNoBlank_of_exponent? hexponent

theorem hasNoBlank_of_magnitude? (h : magnitude? negative cs = some x) : HasNoBlank cs := by
  have hword (word : List Char) (hblank : word.all fun c => !Text.isBlank c)
      (heq : cs.map Char.toLower = word) : HasNoBlank cs := by
    subst heq
    refine Text.hasNoBlank_of_map_toLower fun c hc => ?_
    simpa using List.all_eq_true.1 hblank c hc
  simp only [magnitude?] at h
  split at h
  · rename_i hinfinite
    rw [Bool.or_eq_true, decide_eq_true_eq, decide_eq_true_eq] at hinfinite
    obtain hinf | hinf := hinfinite
    · exact hword _ (by decide) hinf
    · exact hword _ (by decide) hinf
  · split at h
    · rename_i hnan
      exact hword _ (by decide) hnan
    · exact hasNoBlank_of_unsigned? h

/-- **What is read as a number** has no blank in it. -/
theorem hasNoBlank_of_read? (h : read? cs = some x) : HasNoBlank cs := by
  unfold read? at h
  split at h
  · exact Text.hasNoBlank_cons.2 ⟨rfl, hasNoBlank_of_magnitude? h⟩
  · exact Text.hasNoBlank_cons.2 ⟨rfl, hasNoBlank_of_magnitude? h⟩
  · exact hasNoBlank_of_magnitude? h

end Number.Binary64

/-! ### What the texts denote -/

theorem textOr_of_isPlain {text : String} (h : Text.IsPlain text.toList) (fallback : String) :
    textOr fallback (some text) = text := by
  rw [textOr, Text.trimString, h.trim_eq, String.ofList_toList]
  exact if_neg (by simpa using h.ne_nil)

theorem valueOr_of_hasNoBlank {α : Type} {read? : List Char → Option α} {cs : List Char} {a : α}
    (h : Text.HasNoBlank cs) (hread : read? cs = some a) (fallback : α) :
    valueOr read? fallback (some (String.ofList cs)) = a := by
  rw [valueOr, String.toList_ofList, h.trim_eq, hread, Option.getD_some]

theorem valueOr_natDigits {n bound : Nat} (h : n ≤ bound) (fallback : Nat) :
    valueOr (Text.naturalUpTo? bound) fallback (some (String.ofList (Text.natDigits n))) = n := by
  have hread : Text.naturalUpTo? bound (Text.natDigits n) = some n := by
    rw [Text.naturalUpTo?, Text.natural?_natDigits, Option.filter_some, if_pos (by simpa using h)]
  exact valueOr_of_hasNoBlank (Text.hasNoBlank_natDigits n) hread fallback

theorem valueOr_intDigits {i low high : Int} (h : low ≤ i ∧ i ≤ high) (fallback : Int) :
    valueOr (Text.integerWithin? low high) fallback (some (String.ofList (Text.intDigits i))) =
      i := by
  have hread : Text.integerWithin? low high (Text.intDigits i) = some i := by
    rw [Text.integerWithin?, Text.integer?_intDigits, Option.filter_some,
      if_pos (by simpa using h)]
  exact valueOr_of_hasNoBlank (Text.hasNoBlank_intDigits i) hread fallback

/-! ## Variables of a process -/

namespace EnvFile.Environment

variable {e : Environment} {name text : String}

/-- The variables give a name a text, and never another one. -/
structure Sets (e : Environment) (name text : String) : Prop where
  mem : (.ofString name, .ofString text) ∈ e
  unique : ∀ v ∈ e, v.1 = .ofString name → v.2 = .ofString text

instance (e : Environment) (name text : String) : Decidable (e.Sets name text) :=
  decidable_of_iff ((.ofString name, .ofString text) ∈ e ∧
      ∀ v ∈ e, v.1 = .ofString name → v.2 = .ofString text)
    ⟨fun ⟨hmem, hunique⟩ => ⟨hmem, hunique⟩, fun h => ⟨h.mem, h.unique⟩⟩

theorem Sets.get?_eq (h : e.Sets name text) : e.get? name = some text := by
  rw [get?]
  cases hfound : e.lookup (.ofString name) with
  | none =>
    have hother := List.lookup_eq_none_iff.1 hfound _ h.mem
    simp at hother
  | some value =>
    obtain ⟨before, after, rfl, -⟩ := List.lookup_eq_some_iff.1 hfound
    have hvalue : value = .ofString text := h.unique (.ofString name, value) (by simp) rfl
    rw [hvalue, Option.bind_some, SystemText.text?_ofString]

theorem Sets.last?_eq (h : e.Sets name text) : e.last? name = some text :=
  get?_eq ⟨List.mem_reverse.2 h.mem, fun v hv => h.unique v (List.mem_reverse.1 hv)⟩

end EnvFile.Environment

/-! ## Settings as texts -/

attribute [ext] WorkerSettings RetrySettings BreakerSettings Settings

namespace Settings

/-- The settings that are texts. -/
def strings (s : Settings) : List String :=
  [s.profile, s.logLevel, s.logFormat, s.databaseUrl, s.worker.id]

/-- All settings as texts under their short names, whole numbers in decimal, and the part of a delay
that is left to chance in the way that is given. -/
def texts (s : Settings) (ratio : String) : List (String × String) :=
  let natural (n : Nat) := String.ofList (Text.natDigits n)
  let integer (i : Int) := String.ofList (Text.intDigits i)
  [("PROFILE", s.profile),
    ("LOG_LEVEL", s.logLevel),
    ("LOG_FORMAT", s.logFormat),
    ("DATABASE_URL", s.databaseUrl),
    ("DB_MAX_CONNECTIONS", natural s.maxConnections),
    ("DB_ACQUIRE_TIMEOUT_MS", natural s.acquireTimeoutMillis),
    ("WORKER_ID", s.worker.id),
    ("WORKER_POLL_INTERVAL_MS", natural s.worker.pollIntervalMillis),
    ("WORKER_HEARTBEAT_INTERVAL_SECONDS", natural s.worker.heartbeatIntervalSeconds),
    ("WORKER_SHUTDOWN_POLL_MS", natural s.worker.shutdownPollMillis),
    ("RETRY_JITTER_RATIO", ratio),
    ("RETRY_MAX_DELAY_MINUTES", natural s.retry.maxDelayMinutes),
    ("RETRY_DEFAULT_MAX_RETRIES", integer s.retry.defaultMaxRetries),
    ("CIRCUIT_BREAKER_FAILURE_THRESHOLD", integer s.breaker.failureThreshold),
    ("CIRCUIT_BREAKER_PAUSE_MINUTES", integer s.breaker.pauseMinutes)]

end Settings

namespace Layers

variable {l : Layers} {d settings s : Settings} {ratio : String} {process : Environment}

/-- **Layers with a text for every setting** denote the settings whose texts they are, whatever the
defaults are. -/
theorem Denotes.eq_of_texts (h : l.Denotes d settings)
    (htexts : ∀ v ∈ s.texts ratio, l.text? v.1 = some v.2)
    (hplain : ∀ text ∈ s.strings, Text.IsPlain text.toList) (hfits : s.Fits)
    (hratio : Binary64.read? ratio.toList = some s.retry.jitterRatio) : settings = s := by
  simp only [Settings.texts, Settings.strings, List.forall_mem_cons, List.not_mem_nil,
    false_implies, forall_const, and_true] at htexts hplain
  obtain ⟨hprofile, hlogLevel, hlogFormat, hdatabaseUrl, hmaxConnections, hacquireTimeout,
    hworkerId, hpoll, hheartbeat, hshutdown, hjitter, hmaxDelay, hmaxRetries, hthreshold,
    hpause⟩ := htexts
  obtain ⟨hplainProfile, hplainLevel, hplainFormat, hplainUrl, hplainId⟩ := hplain
  have hworker : settings.worker = s.worker := WorkerSettings.ext
    (by rw [h.workerId, hworkerId, textOr_of_isPlain hplainId])
    (by rw [h.pollIntervalMillis, hpoll, valueOr_natDigits hfits.worker.pollIntervalMillis])
    (by rw [h.heartbeatIntervalSeconds, hheartbeat,
      valueOr_natDigits hfits.worker.heartbeatIntervalSeconds])
    (by rw [h.shutdownPollMillis, hshutdown, valueOr_natDigits hfits.worker.shutdownPollMillis])
  have hretry : settings.retry = s.retry := RetrySettings.ext
    (by rw [h.jitterRatio, hjitter, ← String.ofList_toList (s := ratio),
      valueOr_of_hasNoBlank (Binary64.hasNoBlank_of_read? hratio) hratio])
    (by rw [h.maxDelayMinutes, hmaxDelay, valueOr_natDigits hfits.retry.maxDelayMinutes])
    (by rw [h.defaultMaxRetries, hmaxRetries, valueOr_intDigits hfits.retry.defaultMaxRetries])
  have hbreaker : settings.breaker = s.breaker := BreakerSettings.ext
    (by rw [h.failureThreshold, hthreshold, valueOr_intDigits hfits.breaker.failureThreshold])
    (by rw [h.pauseMinutes, hpause, valueOr_intDigits hfits.breaker.pauseMinutes])
  exact Settings.ext
    (by rw [h.profile, hprofile, textOr_of_isPlain hplainProfile])
    (by rw [h.logLevel, hlogLevel, textOr_of_isPlain hplainLevel])
    (by rw [h.logFormat, hlogFormat, textOr_of_isPlain hplainFormat])
    (by rw [h.databaseUrl, hdatabaseUrl, textOr_of_isPlain hplainUrl])
    (by rw [h.maxConnections, hmaxConnections, valueOr_natDigits hfits.maxConnections])
    (by rw [h.acquireTimeoutMillis, hacquireTimeout,
      valueOr_natDigits hfits.acquireTimeoutMillis])
    hworker hretry hbreaker

/-! ## A process without files -/

theorem profile_ofProcess {text : String} (h : process.Sets "CALSYNC_PROFILE" text) :
    (ofProcess process).profile = text := by
  rw [profile, ofProcess, h.get?_eq]
  rfl

theorem text?_ofProcess {short text : String} (h : process.Sets ("CALSYNC_" ++ short) text) :
    (ofProcess process).text? short = some text := by
  simp only [text?, ofProcess, h.last?_eq, Option.some_or]

end Layers

namespace Settings

/-- **Everything can be set through the environment**, and exactly. If none of the files that are
looked for exists, and the process sets the variable of every setting to the text of some accepted
settings, then loading succeeds with these settings, to the last bit. Chance may be written in any
way that denotes it. Whatever other variables the process has do not matter as long as they are
Unicode; one that is not makes loading panic. -/
theorem loaded_exactly {s : Settings} {ratio : String} {process : Environment}
    {file : String → FileContent} (hvalid : s.validate = .ok ()) (hfits : s.Fits)
    (hplain : ∀ text ∈ s.strings, Text.IsPlain text.toList)
    (hratio : Binary64.read? ratio.toList = some s.retry.jitterRatio)
    (hsets : ∀ v ∈ s.texts ratio, process.Sets ("CALSYNC_" ++ v.1) v.2)
    (habsent : ∀ name ∈ [".env", ".env.local", ".env." ++ s.profile,
      ".env." ++ s.profile ++ ".local"], file name = .absent) (workerId : String) :
    load workerId process file = if process.IsUnicode then .ok s else .error .panic := by
  have hprofile : (Layers.ofProcess process).profile = s.profile :=
    Layers.profile_ofProcess (hsets ("PROFILE", s.profile) List.mem_cons_self)
  rw [← hprofile] at habsent
  have hdescribes := Layers.describes_ofProcess habsent
  split
  · rename_i hunicode
    obtain ⟨vs, hprocess⟩ := Environment.isUnicode_iff.1 hunicode
    have hdenotes := (Layers.ofProcess process).denotes hprocess workerId
    have hload := hdescribes.load_ofVariables hprocess workerId
    rw [hdenotes.eq_of_texts (fun v hv => Layers.text?_ofProcess (hsets v hv)) hplain hfits
      hratio] at hload
    refine hload.trans ?_
    rw [accept, hvalid]
    rfl
  · rename_i hunicode
    exact hdescribes.load_panic hunicode workerId

/-- Settings of which every number is the largest that is accepted. -/
def largest : Settings where
  profile := "night shift"
  logLevel := "warn,sqlx=off"
  logFormat := "pretty"
  databaseUrl := "sqlite://queue.db?mode=rwc"
  maxConnections := 4294967295
  acquireTimeoutMillis := 18446744073709551615
  worker := ⟨"w=1", 300000, 3600, 1000⟩
  retry := ⟨.ofNat 1, 10080, 2147483647⟩
  breaker := ⟨2147483647, 10080⟩

/-- A process that sets them with a profile, among other variables. -/
def settingLargest (profile : String) : Environment := .ofVariables [
  ("HOME", "/root"),
  ("CALSYNC_PROFILE", profile),
  ("CALSYNC_LOG_LEVEL", "warn,sqlx=off"),
  ("CALSYNC_LOG_FORMAT", "pretty"),
  ("CALSYNC_DATABASE_URL", "sqlite://queue.db?mode=rwc"),
  ("CALSYNC_DB_MAX_CONNECTIONS", "4294967295"),
  ("CALSYNC_DB_ACQUIRE_TIMEOUT_MS", "18446744073709551615"),
  ("CALSYNC_WORKER_ID", "w=1"),
  ("CALSYNC_WORKER_POLL_INTERVAL_MS", "300000"),
  ("CALSYNC_WORKER_HEARTBEAT_INTERVAL_SECONDS", "3600"),
  ("CALSYNC_WORKER_SHUTDOWN_POLL_MS", "1000"),
  ("CALSYNC_RETRY_JITTER_RATIO", "+10.E-1"),
  ("CALSYNC_RETRY_MAX_DELAY_MINUTES", "10080"),
  ("CALSYNC_RETRY_DEFAULT_MAX_RETRIES", "2147483647"),
  ("CALSYNC_CIRCUIT_BREAKER_FAILURE_THRESHOLD", "2147483647"),
  ("CALSYNC_CIRCUIT_BREAKER_PAUSE_MINUTES", "10080"),
  ("calsync_PROFILE", "day"),
  ("PROFILE", "day")]

theorem fits_largest : largest.Fits :=
  ⟨by decide, by decide, ⟨by decide, by decide, by decide⟩, ⟨by decide, by decide⟩,
    ⟨by decide, by decide⟩⟩

/-- The largest numbers are loaded as they are set. -/
theorem loaded_exactly_largest :
    load "generated" (settingLargest "night shift") (fun _ => .absent) = .ok largest := by
  have hload := loaded_exactly (by decide +kernel) fits_largest (by decide +kernel)
    (show Binary64.read? "+10.E-1".toList = _ by decide +kernel)
    (show ∀ v ∈ largest.texts "+10.E-1",
      (settingLargest "night shift").Sets ("CALSYNC_" ++ v.1) v.2 by decide +kernel)
    (fun _ _ => rfl : ∀ name ∈ _, (fun _ => FileContent.absent) name = .absent) "generated"
  exact hload.trans (if_pos (Environment.isUnicode_ofVariables _))

/-- With one more variable, which is no setting and not Unicode, they are not loaded. Nor is it
enough that there are no files: with too long a profile, looking for one finds more than that it is
absent. -/
theorem not_loaded_exactly :
    (¬∀ (s : Settings) (ratio : String) (process : Environment) (file : String → FileContent),
      s.validate = .ok () → s.Fits → (∀ text ∈ s.strings, Text.IsPlain text.toList) →
      Binary64.read? ratio.toList = some s.retry.jitterRatio →
      (∀ v ∈ s.texts ratio, process.Sets ("CALSYNC_" ++ v.1) v.2) →
      (∀ name ∈ [".env", ".env.local", ".env." ++ s.profile, ".env." ++ s.profile ++ ".local"],
        file name = .absent) →
      ∀ workerId, load workerId process file = .ok s) ∧
    ∃ failure, load "generated" (settingLargest longProfile)
      (Files.WorkingDirectory.content ⟨"/srv", []⟩) = .error failure := by
  refine ⟨fun hclaim => ?_, ?_⟩
  · have hload := hclaim largest "+10.E-1" (Layers.stray ++ settingLargest "night shift")
      (fun _ => .absent) (by decide +kernel) fits_largest (by decide +kernel) (by decide +kernel)
      (by decide +kernel) (fun _ _ => rfl) "generated"
    have hpanic : load "generated" (Layers.stray ++ settingLargest "night shift")
        (fun _ => .absent) = .error .panic :=
      (Layers.describes_ofProcess fun _ _ => rfl).load_panic (by decide +kernel) "generated"
    cases hload.symm.trans hpanic
  · exact exists_error (by decide +kernel)

end Settings

end SyncQueue
