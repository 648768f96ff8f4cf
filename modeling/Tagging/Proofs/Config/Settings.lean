import Mathlib.Tactic.SplitIfs
import Tagging.Config.Validate
import Tagging.Report.Options

/-!
# The check of settings

The settings of a report are checked behind all others, and can be replaced on their own.  What the
check asks of them, and the options that are made of them.

* `Settings.workFault?`, `ReportSettings.fault?`, `Settings.fault?_eq` — the faults of the other
  settings, then those of the report;
* `Settings.load_eq_ok` — settings that are read pass the check;
* `ReportSettings.Sound`, `ReportSettings.fault?_eq_none_iff`, `Settings.validate_eq_ok_iff` — what
  the check asks for;
* `ReportSettings.modeOfSettings_eq_live_iff`, `ReportSettings.ofSettings_eq_ok_iff` — the options
  that they give.
-/

namespace Tagging

open Text (isBlankText)

/-! ## The check in two parts -/

/-- The first fault of the settings that no argument replaces. -/
def Settings.workFault? (s : Settings) : Option SettingFault :=
  if isBlankText s.logLevel then some (.empty "service.log_level")
  else if s.estimator.maxThreads = 0 then some (.zero "estimator.max_threads")
  else if s.estimator.maxSeconds = 0 then some (.zero "estimator.max_seconds")
  else if s.aggregator.maxWorkers = 0 then some (.zero "aggregator.max_workers")
  else if s.aggregator.hardHitCeiling = 0 then some (.zero "aggregator.hard_hit_ceiling")
  else if s.aggregator.normalization ∉ Policy.all.map Policy.name then
    some (.unknownName "aggregator.normalization"
      "one, inverse_rank, weighted_inverse_rank, or inverse_priority")
  else if s.aggregator.scratchBackend ∉ Backend.all.map Backend.name then
    some (.unknownName "aggregator.scratch_backend" "sqlite or memory")
  else if s.aggregator.statusLogInterval = 0 then
    some (.zero "aggregator.status_log_interval_ms")
  else none

/-- The first fault of the settings of a report. -/
def ReportSettings.fault? (s : ReportSettings) : Option SettingFault :=
  if s.mode ∉ reportModes then some (.unknownName "report.mode" "live or static")
  else if s.output.text = "" then some (.empty "report.output")
  else if s.output.fileStem?.isNone then some .unnamedOutput
  else if s.mode = "live" && isBlankText s.liveBaseUrl then
    some (.emptyInMode "report.live_base_url" "live")
  else if s.mode = "static" && isBlankText s.snapshotSuffix then
    some (.emptyInMode "report.snapshot_suffix" "static")
  else none

namespace Settings

/-- **The check** looks at the settings of the report last. -/
theorem fault?_eq (s : Settings) : s.fault? = s.workFault?.or s.report.fault? := by
  have hfirst : ∀ {c : Prop} [Decidable c] (fault : SettingFault)
      (later last : Option SettingFault), (if c then some fault else later).or last =
        if c then some fault else later.or last := by
    intro c _ fault later last
    split <;> rfl
  simp only [workFault?, hfirst, Option.none_or]
  rfl

theorem validate_eq (s : Settings) :
    s.validate = match s.fault? with
      | some fault => .error (.invalid fault)
      | none => .ok () := rfl

/-- Settings that are read pass the check, and never ask for zero rows. -/
theorem load_eq_ok {path : Path} {text : Option String} {s : Settings}
    (h : load path text = .ok s) : s.fault? = none ∧ s.report.topN ≠ some 0 := by
  unfold load at h
  split at h
  · cases h
  split at h
  · cases h
  rename_i written _
  split at h
  · rename_i hvalid
    cases h
    constructor
    · rw [validate_eq] at hvalid
      split at hvalid
      · cases hvalid
      · assumption
    · show written.report.topN.bind nonZero ≠ some 0
      cases written.report.topN with
      | none => simp
      | some n => simp [nonZero, Option.bind_some]
  · cases h

end Settings

/-! ## Settings of a report -/

/-- Only a path with a text ends in a name. -/
theorem Path.text_ne_of_fileName? {p : Path} {s : String} (h : p.fileName? = some s) :
    p.text ≠ "" := by
  intro hempty
  have hnone : (⟨""⟩ : Path).fileName? = none := by decide +kernel
  rw [show p = ⟨""⟩ from congrArg Path.mk hempty, hnone] at h
  cases h

/-- Settings of a report that make sense. -/
structure ReportSettings.Sound (s : ReportSettings) : Prop where
  /-- The mode is one of the two. -/
  mode : s.mode = "live" ∨ s.mode = "static"
  /-- The output ends in a name. -/
  output : ∃ stem, s.output.fileStem? = some stem
  /-- A live report has a base for its links. -/
  base : s.mode = "live" → isBlankText s.liveBaseUrl = false
  /-- A static report has a suffix for its snapshots. -/
  suffix : s.mode = "static" → isBlankText s.snapshotSuffix = false

namespace ReportSettings

variable {s : ReportSettings}

/-- The output of such settings is a path that ends in a name. -/
theorem Sound.exists_fileName? (h : s.Sound) : ∃ name, s.output.fileName? = some name := by
  obtain ⟨stem, hstem⟩ := h.output
  obtain ⟨name, hname, -⟩ := Option.map_eq_some_iff.1 hstem
  exact ⟨name, hname⟩

/-- **The check** accepts the settings of a report that make sense, and no others. -/
theorem fault?_eq_none_iff : s.fault? = none ↔ s.Sound := by
  unfold fault?
  constructor
  · intro h
    split_ifs at h with hmode hempty hstem hbase hsuffix
    have hnamed : s.output.fileStem? ≠ none := fun hnone => hstem (by rw [hnone]; rfl)
    refine ⟨by simpa [reportModes] using hmode, Option.ne_none_iff_exists'.1 hnamed,
      fun hlive => ?_, fun hstatic => ?_⟩
    · simpa [hlive] using hbase
    · simpa [hstatic] using hsuffix
  · intro h
    obtain ⟨name, hname⟩ := h.exists_fileName?
    obtain ⟨hmode, ⟨stem, hstem⟩, hbase, hsuffix⟩ := h
    have hlisted : s.mode ∈ reportModes := by simpa [reportModes] using hmode
    rw [if_neg (not_not_intro hlisted), if_neg (Path.text_ne_of_fileName? hname),
      if_neg (by simp [hstem]), if_neg (by simpa using hbase), if_neg (by simpa using hsuffix)]

/-- A static report is what settings in static mode ask for, with their suffix. -/
theorem modeOfSettings_eq_static_iff {suffix : String} :
    ReportOptions.modeOfSettings s = .ok (.static suffix) ↔
      s.mode = "static" ∧ s.snapshotSuffix = suffix := by
  unfold ReportOptions.modeOfSettings
  by_cases hlive : s.mode = "live"
  · have hstatic : s.mode ≠ "static" := by
      rw [hlive]
      decide
    rw [if_pos hlive]
    cases Url.ofText s.liveBaseUrl <;> simp [hstatic]
  · rw [if_neg hlive]
    by_cases hstatic : s.mode = "static" <;> simp [hstatic]

/-- A live report is what settings in live mode ask for, with their base. -/
theorem modeOfSettings_eq_live_iff {base : Url} :
    ReportOptions.modeOfSettings s = .ok (.live base) ↔
      s.mode = "live" ∧ Url.ofText s.liveBaseUrl = .ok base := by
  unfold ReportOptions.modeOfSettings
  by_cases hlive : s.mode = "live"
  · rw [if_pos hlive]
    cases Url.ofText s.liveBaseUrl <;> simp [hlive]
  · rw [if_neg hlive]
    by_cases hstatic : s.mode = "static" <;> simp [hstatic, hlive]

theorem ofSettings_eq_ok_iff {o : ReportOptions} : ReportOptions.ofSettings s = .ok o ↔
    ReportOptions.modeOfSettings s = .ok o.mode ∧
      o = ⟨s.output, o.mode, s.topN, s.maxHyperlinks⟩ := by
  unfold ReportOptions.ofSettings
  cases ReportOptions.modeOfSettings s with
  | ok mode =>
    constructor
    · rintro ⟨⟩
      exact ⟨rfl, rfl⟩
    · rintro ⟨⟨⟩, ho⟩
      rw [ho]
  | error e => simp

end ReportSettings

/-- **Settings that are accepted** have no fault in front of those of the report, which make
sense. -/
theorem Settings.validate_eq_ok_iff {s : Settings} :
    s.validate = .ok () ↔ s.workFault? = none ∧ s.report.Sound := by
  rw [← ReportSettings.fault?_eq_none_iff, ← Option.or_eq_none_iff, ← fault?_eq, validate_eq]
  cases s.fault? <;> simp

end Tagging
