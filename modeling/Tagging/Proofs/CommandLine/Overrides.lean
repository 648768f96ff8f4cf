import Tagging.CommandLine.Program
import Tagging.Proofs.Config.Settings
import Tagging.Proofs.Report.Planning
import Tagging.Proofs.Run.Storage

/-!
# Settings that arguments replace

A file's settings are checked when they are read; what the arguments put in their place is not
checked again.  But the options of a report and its writer are made from the settings in force, and
refuse most of what the check refuses.

* `Url.ofText_of_isBlankText` — a blank text is no URL;
* `ReportSettings.fault?_of_ofSettings` — **what is left to check** when options and a writer are
  made;
* `Program.prepare_eq_ok` — what a run is made from;
* `validate_of_prepare` — **the settings in force pass the check**, but for the suffix of snapshots
  that the arguments ask for and the file did not;
* `unchecked_snapshot_suffix` — a run with such a suffix.
-/

namespace Tagging

open Text (isBlank isBlankText)

/-! ## What is refused without the check -/

namespace Url

/-- No letter is a blank. -/
theorem isLetter_of_isBlank {c : Char} (h : isBlank c = true) : isLetter c = false := by
  have hbetween : ∀ n < 123, 65 ≤ n → Text.inRanges n Text.blankRanges = false := by decide
  rw [Bool.eq_false_iff]
  intro hletter
  have hbounds : c.toNat < 123 ∧ 65 ≤ c.toNat := by
    simp only [isLetter, Bool.or_eq_true, Bool.and_eq_true, decide_eq_true_eq, Char.le_def,
      UInt32.le_iff_toNat_le] at hletter
    have hz : 'z'.val.toNat = 122 := rfl
    have hZ : 'Z'.val.toNat = 90 := rfl
    have ha : 'a'.val.toNat = 97 := rfl
    have hA : 'A'.val.toNat = 65 := rfl
    rw [Char.toNat]
    omega
  rw [isBlank, hbetween _ hbounds.1 hbounds.2] at h
  cases h

/-- What is read of a text are some of its characters. -/
theorem mem_of_mem_significant {cs : List Char} {c : Char} (h : c ∈ significant cs) : c ∈ cs := by
  unfold significant at h
  have hkept := List.mem_reverse.1 (List.mem_of_mem_filter h)
  exact (List.dropWhile_subset _) (List.mem_reverse.1 ((List.dropWhile_subset _) hkept))

/-- **A blank text is no URL.** -/
theorem ofText_of_isBlankText {s : String} (h : isBlankText s = true) :
    ofText s = .error .noScheme := by
  have hnone : readScheme (significant s.toList) = none := by
    rcases hcs : significant s.toList with - | ⟨c, rest⟩
    · rfl
    · have hmem : c ∈ s.toList := mem_of_mem_significant (by simp [hcs])
      have hblank : isBlank c = true := List.all_eq_true.1 h c hmem
      rw [readScheme, if_neg (by simp [isLetter_of_isBlank hblank])]
  rw [ofText, hnone]

end Url

/-- **What is left to check** of settings of which options are made, with a path for a writer: only
the suffix of snapshots. -/
theorem ReportSettings.fault?_of_ofSettings {s : ReportSettings} {o : ReportOptions} {name : String}
    (hoptions : ReportOptions.ofSettings s = .ok o) (hname : o.output.fileName? = some name) :
    s.fault? = if s.mode = "static" ∧ isBlankText s.snapshotSuffix = true then
      some (.emptyInMode "report.snapshot_suffix" "static") else none := by
  unfold ReportOptions.ofSettings at hoptions
  split at hoptions
  case h_2 => cases hoptions
  rename_i mode hmode
  cases hoptions
  have hstem : s.output.fileStem?.isNone ≠ true := by
    rw [Path.fileStem?, hname]
    simp
  unfold ReportOptions.modeOfSettings at hmode
  unfold fault?
  by_cases hlive : s.mode = "live"
  · -- a base that is blank would be no URL
    have hbase : isBlankText s.liveBaseUrl ≠ true := by
      intro hblank
      rw [if_pos hlive, Url.ofText_of_isBlankText hblank] at hmode
      cases hmode
    have hstatic : s.mode ≠ "static" := by
      rw [hlive]
      decide
    rw [if_neg (by simp [reportModes, hlive]), if_neg (Path.text_ne_of_fileName? hname),
      if_neg hstem, if_neg (by simp [hbase]), if_neg (by simp [hstatic]),
      if_neg fun h => hstatic h.1]
  · have hstatic : s.mode = "static" := by
      by_contra hother
      rw [if_neg hlive, if_neg hother] at hmode
      cases hmode
    rw [if_neg (by simp [reportModes, hstatic]), if_neg (Path.text_ne_of_fileName? hname),
      if_neg hstem, if_neg (by simp [hlive])]
    simp [hstatic]

/-! ## Settings in force -/

namespace Program

variable {a : Arguments} {tree : FileTree Content} {s : Settings} {queries : List NamedQuery}
  {index : SearchIndex} {r : Run}

/-- **What a run is made from**: options of a report whose path ends in a name, and options of its
own. -/
theorem runFor_eq_ok (h : runFor s queries index = .ok r) :
    ReportOptions.ofSettings s.report = .ok r.writer.options ∧
      (∃ name, r.writer.options.output.fileName? = some name) ∧
      RunOptions.ofSettings s = .ok r.options := by
  unfold runFor at h
  split at h
  case h_1 => cases h
  rename_i report hreport
  split at h
  case h_1 => cases h
  rename_i writer hwriter
  split at h
  case h_1 => cases h
  rename_i options hoptions
  obtain ⟨rfl, -⟩ := Run.new_eq_ok h
  obtain ⟨rfl, hname, -⟩ := Writer.new_eq_ok.1 hwriter
  exact ⟨hreport, hname, hoptions⟩

/-- A program that comes to a run has read its settings. -/
theorem prepare_eq_ok (h : prepare a tree = .ok r) :
    ∃ s queries index, Settings.load a.config (textOf tree a.config) = .ok s ∧
      runFor (a.override s) queries index = .ok r := by
  unfold prepare settings at h
  split at h
  case h_1 => cases h
  rename_i s' hsettings
  split at hsettings
  case h_2 => cases hsettings
  rename_i s hload
  cases hsettings
  split at h
  case h_1 => cases h
  split at h
  case h_1 => cases h
  split at h
  case h_1 => cases h
  rename_i hrun
  cases h
  exact ⟨s, _, _, hload, hrun⟩

end Program

/-- Zero rows are never asked for, neither by settings nor by arguments. -/
theorem Arguments.topN_override_ne (a : Arguments) {s : Settings} (h : s.report.topN ≠ some 0) :
    (a.override s).report.topN ≠ some 0 := by
  unfold override
  cases a.topN with
  | none => exact h
  | some n => simp [nonZero]

/-- A suffix comes into force without a check if the arguments ask for snapshots and the settings
did not. -/
theorem Arguments.mode_override_iff (a : Arguments) {s : Settings} (h : s.fault? = none) :
    (a.override s).report.mode = "static" ∧ isBlankText s.report.snapshotSuffix = true ↔
      a.mode = some "static" ∧ s.report.mode = "live" ∧
        isBlankText s.report.snapshotSuffix = true := by
  rw [Settings.fault?_eq, Option.or_eq_none_iff, ReportSettings.fault?_eq_none_iff] at h
  constructor
  · rintro ⟨hforce, hblank⟩
    have hlive : s.report.mode = "live" := by
      refine h.2.mode.resolve_right fun hstatic => ?_
      rw [h.2.suffix hstatic] at hblank
      cases hblank
    refine ⟨?_, hlive, hblank⟩
    cases hgiven : a.mode with
    | none =>
      rw [override, hgiven] at hforce
      exact absurd (hlive.symm.trans hforce) (by decide)
    | some mode =>
      rw [override, hgiven] at hforce
      exact congrArg some hforce
  · rintro ⟨hgiven, -, hblank⟩
    refine ⟨?_, hblank⟩
    rw [override, hgiven]
    rfl

/-- **The settings in force pass the check** in every run that the program comes to, and ask for no
zero rows, except for one thing: if the arguments ask for snapshots where the file asks for a live
report, the suffix of their names may be blank. -/
theorem validate_of_prepare {a : Arguments} {tree : FileTree Content} {r : Run}
    (h : Program.prepare a tree = .ok r) :
    ∃ s, Program.settings a tree = .ok (a.override s) ∧
      Settings.load a.config (Program.textOf tree a.config) = .ok s ∧
      ReportOptions.ofSettings (a.override s).report = .ok r.writer.options ∧
      (a.override s).report.topN ≠ some 0 ∧
      (a.override s).validate =
        if a.mode = some "static" ∧ s.report.mode = "live" ∧
            isBlankText s.report.snapshotSuffix = true then
          .error (.invalid (.emptyInMode "report.snapshot_suffix" "static"))
        else .ok () := by
  obtain ⟨s, queries, index, hload, hrun⟩ := Program.prepare_eq_ok h
  obtain ⟨hreport, ⟨name, hname⟩, -⟩ := Program.runFor_eq_ok hrun
  obtain ⟨hvalid, htop⟩ := Settings.load_eq_ok hload
  refine ⟨s, ?_, hload, hreport, a.topN_override_ne htop, ?_⟩
  · rw [Program.settings, hload]
  -- no argument replaces a setting that has nothing to do with the report
  have hwork : (a.override s).workFault? = none := by
    rw [Settings.fault?_eq, Option.or_eq_none_iff] at hvalid
    exact hvalid.1
  have hfault := ReportSettings.fault?_of_ofSettings hreport hname
  rw [Settings.validate_eq, Settings.fault?_eq, hwork, Option.none_or, hfault]
  by_cases hblank : (a.override s).report.mode = "static" ∧
      isBlankText (a.override s).report.snapshotSuffix = true
  · rw [if_pos ((a.mode_override_iff hvalid).1 hblank), if_pos hblank]
  · rw [if_neg fun h => hblank ((a.mode_override_iff hvalid).2 h), if_neg hblank]

/-- Settings of a live report with a suffix that it does not need, one query and one document. -/
def Program.smallTree (suffix : String) : FileTree Content :=
  ⟨[(["rtag.toml"], .file (.text ("[service]\nlog_level = \"info\"\n" ++
      "[estimator]\nmax_threads = 4\nmax_seconds = 30\n[aggregator]\nnormalization = \"one\"\n" ++
      "[report]\nmode = \"live\"\noutput = \"tags.xlsx\"\nlive_base_url = \"http://h/\"\n" ++
      "snapshot_suffix = \"" ++ suffix ++ "\"\n"))),
    (["q.toml"], .file (.text "[[query]]\nid = 1\nname = \"One\"\nquery = \"a\"\n")),
    (["c.jsonl"], .file (.text
      "[\"c-1\", \"a.txt\", \"docs/a.txt\", \x7b\"body\": \"a\"\x7d]\n"))], []⟩

/-- Snapshots instead of a live report, all of them, with a suffix from the file. -/
theorem validate_of_prepare_static :
    let a : Arguments :=
      ⟨⟨"rtag.toml"⟩, ⟨"q.toml"⟩, ⟨"c.jsonl"⟩, some ⟨"other.xlsx"⟩, some "static", some 0⟩
    let tree := Program.smallTree ".html"
    ∃ r s, Program.prepare a tree = .ok r ∧ Program.settings a tree = .ok (a.override s) ∧
      (a.override s).validate = .ok () := by
  intro a tree
  obtain ⟨hok, hsuffix⟩ : (Program.prepare a tree).isOk = true ∧
      ((Settings.load a.config (Program.textOf tree a.config)).toOption.map
        fun s => isBlankText s.report.snapshotSuffix) = some false := by
    decide +kernel
  rcases hprepare : Program.prepare a tree with e | r
  · rw [hprepare] at hok
    cases hok
  obtain ⟨s, hsettings, hload, -, -, hvalid⟩ := validate_of_prepare hprepare
  refine ⟨r, s, rfl, hsettings, ?_⟩
  have hfilled : isBlankText s.report.snapshotSuffix = false := by
    rw [hload] at hsuffix
    exact Option.some.inj hsuffix
  rw [hvalid, if_neg (by simp [hfilled])]

/-- **A suffix that no check has seen**: snapshots are asked for by the arguments, and the file has
an empty suffix for them. -/
theorem unchecked_snapshot_suffix :
    let a : Arguments := ⟨⟨"rtag.toml"⟩, ⟨"q.toml"⟩, ⟨"c.jsonl"⟩, none, some "static", none⟩
    let tree := Program.smallTree ""
    (Program.prepare a tree).toOption.map (fun r => r.writer.options.mode) = some (.static "") ∧
      (Program.settings a tree).toOption.map Settings.validate =
        some (.error (.invalid (.emptyInMode "report.snapshot_suffix" "static"))) := by
  decide +kernel

end Tagging
