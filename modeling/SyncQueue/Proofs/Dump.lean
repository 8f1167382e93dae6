import SyncQueue.Proofs.Accepted
import SyncQueue.Proofs.Documents
import SyncQueue.Proofs.Masking
import SyncQueue.Proofs.Rounding
import SyncQueue.Settings.Document

/-!
# The dump of settings

Settings are shown as a document, with the password of the database masked, and a document can be
read as settings. Every field that is written is read again, under the same name and within the
bounds that there are for it; otherwise a default would stand in its place and nobody would be told.
So the dump of accepted settings gives the settings that it shows. Only the part of a delay that is
left to chance may come out as another number: it is written as a decimal.

* `Settings.ofTree?_toJson`: the settings of a document.
* `Settings.exists_read?_redactedText`: the settings of a dump.
* `Settings.dump_reads_back`: the dump of accepted settings.
-/

namespace SyncQueue

open Json (NumberText Tree)
open Number (Binary64)

/-! ## Values -/

section

variable {bits n : Nat} {i : Int} {x : Binary64}

/-- Up to 64 bits the bounds of natural numbers are those of JSON. -/
theorem le_maxWhole (hbits : bits ≤ 64) (h : n ≤ Number.maxUnsigned bits) : n ≤ Json.maxWhole := by
  have hpow : 2 ^ bits ≤ 2 ^ 64 := Nat.pow_le_pow_right (by decide) hbits
  simp only [Json.maxWhole, Number.maxUnsigned, Nat.pow_eq] at h ⊢
  omega

theorem integerWithin?_integer {low high : Int} (hlow : -Nat.pow 2 63 ≤ i)
    (hhigh : i ≤ Json.maxWhole) (h : low ≤ i ∧ i ≤ high) :
    (Json.integer i).tree.integerWithin? low high = some i := by
  rw [Json.tree, Tree.integerWithin?, NumberText.value?_ofInt hlow hhigh]
  simp [h]

theorem naturalOfBits?_nat (hbits : bits ≤ 64) (h : n ≤ Number.maxUnsigned bits) :
    naturalOfBits? bits (Json.nat n).tree = some n := by
  have hwhole := le_maxWhole hbits h
  rw [naturalOfBits?, Json.nat, integerWithin?_integer (by omega) (by omega) (by omega),
    Option.map_some, Int.toNat_natCast]

theorem signedOfBits?_integer (hbits : bits ≤ 64)
    (h : Number.minSigned bits ≤ i ∧ i ≤ Number.maxSigned bits) :
    signedOfBits? bits (Json.integer i).tree = some i := by
  have hpow : 2 ^ (bits - 1) ≤ 2 ^ 63 := Nat.pow_le_pow_right (by decide) (by omega)
  have hwhole : Json.maxWhole = 2 ^ 64 - 1 := rfl
  have hbounds := h
  simp only [Number.minSigned, Number.maxSigned, Number.maxUnsigned, Nat.pow_eq] at hbounds
  exact integerWithin?_integer (by simp only [Nat.pow_eq]; omega) (by omega) h

/-- A number between zero and one, written with its unit as a whole number. -/
theorem exists_finite_of_le (hlow : (Binary64.ofNat 0).le x) (hhigh : x.le (.ofNat 1)) :
    ∃ negative m e, x = .finite negative m e ∧
      m * Nat.pow 2 e.toNat ≤ Nat.pow 2 (-e).toNat := by
  obtain ⟨value, hvalue, hnonneg, hle⟩ := Binary64.exists_value_of_le hlow hhigh
  cases x with
  | nan | infinite => cases hvalue
  | finite negative m e =>
    refine ⟨negative, m, e, rfl, ?_⟩
    cases hvalue
    have hunit : (0 : ℚ) < (Nat.pow 2 (-e).toNat : ℕ) := by exact_mod_cast Nat.two_pow_pos _
    have habs : (m : ℚ) * 2 ^ e ≤ 1 := by
      rw [← abs_of_nonneg hnonneg, abs_mul, ← Int.cast_abs, Binary64.abs_signed] at hle
      simpa using hle
    rw [Binary64.two_zpow_eq, ← mul_div_assoc, div_le_one hunit] at habs
    exact_mod_cast habs

/-- **A number between zero and one** is read as some number. -/
theorem exists_binary64?_number (hlow : (Binary64.ofNat 0).le x) (hhigh : x.le (.ofNat 1)) :
    ∃ y, binary64? (Json.number x).tree = some y := by
  obtain ⟨negative, m, e, rfl, hle⟩ := exists_finite_of_le hlow hhigh
  have htop := Binary64.top_shortest_le .toEven hle
  obtain ⟨y, hy⟩ := NumberText.exists_value?_ofScientific negative (Int.le_trans htop (by decide))
  exact ⟨y, by rw [Json.tree, binary64?, hy]⟩

end

/-! ## Records -/

theorem WorkerSettings.ofTree?_toJson {s : WorkerSettings} (h : s.Fits) (d : WorkerSettings) :
    d.ofTree? s.toJson.tree = some s := by
  rw [ofTree?, toJson, Tree.record?_object]
  · simp only [Option.bind_eq_bind, Option.bind_some, Json.Parts.optional, List.map_cons,
      List.map_nil, orDefault, naturalOfBits?_nat (Nat.le_refl 64) h.pollIntervalMillis,
      naturalOfBits?_nat (Nat.le_refl 64) h.heartbeatIntervalSeconds,
      naturalOfBits?_nat (Nat.le_refl 64) h.shutdownPollMillis]
    rfl
  · rfl
  · decide

theorem RetrySettings.ofTree?_toJson {s : RetrySettings} (h : s.Fits) {ratio : Binary64}
    (hratio : binary64? (Json.number s.jitterRatio).tree = some ratio) (d : RetrySettings) :
    d.ofTree? s.toJson.tree = some { s with jitterRatio := ratio } := by
  rw [ofTree?, toJson, Tree.record?_object]
  · simp only [Option.bind_eq_bind, Option.bind_some, Json.Parts.optional, List.map_cons,
      List.map_nil, orDefault, hratio, naturalOfBits?_nat (Nat.le_refl 64) h.maxDelayMinutes,
      signedOfBits?_integer (by decide : 32 ≤ 64) h.defaultMaxRetries]
    rfl
  · rfl
  · decide

theorem BreakerSettings.ofTree?_toJson {s : BreakerSettings} (h : s.Fits) (d : BreakerSettings) :
    d.ofTree? s.toJson.tree = some s := by
  rw [ofTree?, toJson, Tree.record?_object]
  · simp only [Option.bind_eq_bind, Option.bind_some, Json.Parts.optional, List.map_cons,
      List.map_nil, orDefault, signedOfBits?_integer (by decide : 32 ≤ 64) h.failureThreshold,
      signedOfBits?_integer (Nat.le_refl 64) h.pauseMinutes]
    rfl
  · rfl
  · decide

/-- **The settings of a document** are those that the document is of, whatever the defaults are. -/
theorem Settings.ofTree?_toJson {s : Settings} (h : s.Fits) {ratio : Binary64}
    (hratio : binary64? (Json.number s.retry.jitterRatio).tree = some ratio) (d : Settings) :
    d.ofTree? s.toJson.tree = some { s with retry := { s.retry with jitterRatio := ratio } } := by
  rw [ofTree?, toJson, Tree.record?_object]
  · simp only [Option.bind_eq_bind, Option.bind_some, Json.Parts.optional, List.map_cons,
      List.map_nil, orDefault, naturalOfBits?_nat (by decide : 32 ≤ 64) h.maxConnections,
      naturalOfBits?_nat (Nat.le_refl 64) h.acquireTimeoutMillis,
      WorkerSettings.ofTree?_toJson h.worker, RetrySettings.ofTree?_toJson h.retry hratio,
      BreakerSettings.ofTree?_toJson h.breaker]
    rfl
  · rfl
  · decide

/-! ## The address of the database -/

/-- An address that is masked holds the mask, so it is not blank. -/
theorem trim_redactChars_ne_nil {url : List Char} (h : Text.trim url ≠ []) :
    Text.trim (redactChars url) ≠ [] := by
  obtain hsame | ⟨scheme, user, host, password, hscheme, huser, hhost, rfl⟩ := redactChars_cases url
  · rwa [hsame]
  · rw [redactChars_masks hscheme huser hhost password]
    intro hnil
    have hcolon := Text.trim_eq_nil_iff.1 hnil ':' (by simp)
    revert hcolon
    decide

theorem trim_redactUrl_ne_nil {url : String} (h : Text.trim url.toList ≠ []) :
    Text.trim (redactUrl url).toList ≠ [] := by
  rw [redactUrl, String.toList_ofList]
  exact trim_redactChars_ne_nil h

namespace Settings

variable {s : Settings}

/-- Only a blank address is refused as a missing one. -/
theorem validate_ne_missingDatabaseUrl (h : Text.trim s.databaseUrl.toList ≠ []) :
    s.validate ≠ .error .missingDatabaseUrl := by
  have hworker : s.worker.validate ≠ .error .missingDatabaseUrl := by
    unfold WorkerSettings.validate
    split_ifs <;> simp
  have hretry : s.retry.validate ≠ .error .missingDatabaseUrl := by
    unfold RetrySettings.validate
    split_ifs <;> simp
  have hbreaker : s.breaker.validate ≠ .error .missingDatabaseUrl := by
    unfold BreakerSettings.validate
    split_ifs <;> simp
  unfold validate
  rw [if_neg (by simpa using h)]
  split_ifs
  · rintro ⟨⟩
  · intro hrefused
    obtain hrefused | hrefused := seq_eq_error hrefused
    · exact hworker hrefused
    obtain hrefused | hrefused := seq_eq_error hrefused
    · exact hretry hrefused
    · exact hbreaker hrefused

theorem Fits.redacted (h : s.Fits) : s.redacted.Fits :=
  ⟨h.maxConnections, h.acquireTimeoutMillis, h.worker, h.retry, h.breaker⟩

/-! ## Reading a dump -/

/-- **The dump of settings** gives the settings that it shows. -/
theorem exists_read?_redactedText (hbounded : s.retry.Bounded) (hfits : s.Fits)
    (workerId : String) :
    ∃ ratio, read? workerId s.redactedText.toList =
      some { s.redacted with retry := { s.retry with jitterRatio := ratio } } := by
  obtain ⟨ratio, hratio⟩ := exists_binary64?_number hbounded.jitterRatio.1 hbounded.jitterRatio.2
  refine ⟨ratio, ?_⟩
  rw [read?, redactedText, Json.read?_prettyText, Option.bind_some]
  exact ofTree?_toJson hfits.redacted hratio (.default workerId)

/-- **The dump of accepted settings reads back.** It gives the settings, with the password masked
and some part of a delay that is left to chance; its address is not refused as a missing one,
because an address that is not blank does not become blank when it is masked. -/
theorem dump_reads_back (hvalid : s.validate = .ok ()) (hfits : s.Fits) (workerId : String) :
    (∃ ratio, read? workerId s.redactedText.toList =
      some { s.redacted with retry := { s.retry with jitterRatio := ratio } }) ∧
    (∀ back, read? workerId s.redactedText.toList = some back →
      back.validate ≠ .error .missingDatabaseUrl) ∧
    ∀ url : String, Text.trim url.toList ≠ [] → Text.trim (redactUrl url).toList ≠ [] := by
  have hbounded := validate_eq_ok_iff.1 hvalid
  obtain ⟨ratio, hread⟩ := exists_read?_redactedText hbounded.retry hfits workerId
  refine ⟨⟨ratio, hread⟩, ?_, fun url => trim_redactUrl_ne_nil⟩
  intro back hback
  rw [hread] at hback
  cases hback
  exact validate_ne_missingDatabaseUrl (trim_redactUrl_ne_nil hbounded.databaseUrl)

/-- Settings whose texts have to be escaped, with a ratio that is written with an exponent. -/
def escaped : Settings where
  profile := "say \"local\""
  logLevel := "\\ \t \n \r"
  logFormat := "\x00\x08\x0c\x1f\x7f"
  databaseUrl := "postgresql://ключ:p\"@\\ss@db/😀"
  maxConnections := 1
  acquireTimeoutMillis := 0
  worker := ⟨"", 100, 1, 1⟩
  retry := ⟨.finite false 1 (-1074), 1, 1⟩
  breaker := ⟨1, 1⟩

/-- Whatever has to be escaped is read as it was, and the password is not there. -/
theorem dump_reads_back_escaped :
    ∃ ratio, read? "generated" escaped.redactedText.toList =
      some { escaped with
        databaseUrl := "postgresql://ключ:[REDACTED]@db/😀", retry := ⟨ratio, 1, 1⟩ } := by
  have hmasked : redactUrl escaped.databaseUrl = "postgresql://ключ:[REDACTED]@db/😀" := by
    decide +kernel
  obtain ⟨ratio, hread⟩ := (dump_reads_back (s := escaped) (by decide +kernel)
    ⟨by decide, by decide, ⟨by decide, by decide, by decide⟩, ⟨by decide, by decide⟩,
      ⟨by decide, by decide⟩⟩ "generated").1
  rw [redacted, hmasked] at hread
  exact ⟨ratio, hread⟩

end Settings

end SyncQueue
