import Tagging.Corpus.Basic
import Tagging.Proofs.Config.QuerySets
import Tagging.Proofs.Config.Settings
import Tagging.Proofs.Report.Planning

/-!
# Settings that pass can be used

Settings are checked once, when they are read, and their names are read again where options are
made of them.  What passes the check is understood there, but for one thing: the base of live links
is only looked at when the options of a report are made.

* `Policy.ofName?_name`, `Backend.ofName?_name` — the listed names are understood;
* `RunOptions.ofSettings_of_workFault?`, `ReportSettings.Sound.ofSettings_cases` — **options can be
  made** of what passes;
* `Writer.planRows_static` — a static report writes snapshots if there is a directory and a
  renderer;
* `accepted_settings_usable` — all of it, from the texts of the files.
-/

namespace Tagging

/-! ## Names -/

/-- **The name of a policy** is read as that policy. -/
theorem Policy.ofName?_name (p : Policy) : ofName? p.name = some p := by
  cases p <;> decide +kernel

/-- **The name of a backend** is read as that backend. -/
theorem Backend.ofName?_name (b : Backend) : ofName? b.name = some b := by
  cases b <;> decide +kernel

/-! ## Options of a run -/

/-- Settings that pass name a policy and a backend. -/
theorem Settings.names_of_workFault? {s : Settings} (h : s.workFault? = none) :
    (∃ p : Policy, p.name = s.aggregator.normalization) ∧
      ∃ b : Backend, b.name = s.aggregator.scratchBackend := by
  unfold workFault? at h
  split_ifs at h with _ _ _ _ _ hpolicy hbackend
  obtain ⟨p, -, hp⟩ := List.mem_map.1 hpolicy
  obtain ⟨b, -, hb⟩ := List.mem_map.1 hbackend
  exact ⟨⟨p, hp⟩, b, hb⟩

/-- **A run gets its options** from settings that pass: the policy and the backend that they
name. -/
theorem RunOptions.ofSettings_of_workFault? {s : Settings} (h : s.workFault? = none) :
    ∃ o, ofSettings s = .ok o ∧ o.policy.name = s.aggregator.normalization ∧
      o.backend.name = s.aggregator.scratchBackend := by
  obtain ⟨⟨p, hp⟩, b, hb⟩ := Settings.names_of_workFault? h
  unfold ofSettings
  rw [← hp, ← hb, Policy.ofName?_name, Backend.ofName?_name]
  exact ⟨_, rfl, rfl, rfl⟩

/-! ## Options of a report -/

namespace ReportSettings

variable {s : ReportSettings}

/-- **A report gets its options** from settings that make sense, unless it is to be live and its
base is no URL. -/
theorem Sound.ofSettings_cases (h : s.Sound) : (∃ o, ReportOptions.ofSettings s = .ok o) ∨
    s.mode = "live" ∧ ∃ e, Url.ofText s.liveBaseUrl = .error e ∧
      ReportOptions.ofSettings s = .error (.badBaseUrl e) := by
  unfold ReportOptions.ofSettings
  rcases h.mode with hlive | hstatic
  · cases hbase : Url.ofText s.liveBaseUrl with
    | ok base =>
      rw [modeOfSettings_eq_live_iff.2 ⟨hlive, hbase⟩]
      exact .inl ⟨_, rfl⟩
    | error e =>
      rw [ReportOptions.modeOfSettings, if_pos hlive, hbase]
      exact .inr ⟨hlive, e, rfl, rfl⟩
  · rw [modeOfSettings_eq_static_iff.2 ⟨hstatic, rfl⟩]
    exact .inl ⟨_, rfl⟩

end ReportSettings

/-- Queries that are read pass the check. -/
theorem loadQuerySet_eq_ok {path : Path} {text : Option String} {queries : List NamedQuery}
    (h : loadQuerySet path text = .ok queries) : validateQuerySet queries = .ok () := by
  unfold loadQuerySet at h
  split at h
  · cases h
  split at h
  · cases h
  split at h
  · rename_i hvalid
    cases h
    exact hvalid
  · cases h

/-- **With a directory and a renderer**, a static report goes through its rows with both: no row is
left out for want of one. -/
theorem Writer.planRows_static {x : Writer} {suffix : String} {directory : Path} {r : Renderer}
    (hmode : x.options.mode = .static suffix)
    (hdirectory : x.options.snapshotDirectory? = some directory) (hrenderer : x.renderer = some r)
    (queries : List NamedQuery) (rows : List SortedRow) (w : Workspace) :
    x.planRows queries rows w = planStaticRows x.index r directory suffix queries
      ⟨.ofCap x.options.maxHyperlinks, []⟩ w rows := by
  unfold planRows
  simp only [hmode, hdirectory, hrenderer]

/-- **Settings that pass can be used.**  Take the settings and the queries of two files that are
accepted, whatever is in them.  A run gets its options, with the policy and the backend that are
named.  A report gets its options unless it is to be live and its base is no URL.  With them a
writer is made, in static mode with any renderer; a static report then has a directory for its
snapshots, and goes through its rows with that directory and its renderer.  And a run is made of the
queries. -/
theorem accepted_settings_usable {path : Path} {text : Option String} {s : Settings}
    (hload : Settings.load path text = .ok s) :
    (∃ o, RunOptions.ofSettings s = .ok o ∧ o.policy.name = s.aggregator.normalization ∧
      o.backend.name = s.aggregator.scratchBackend) ∧
    ((∃ o, ReportOptions.ofSettings s.report = .ok o) ∨
      s.report.mode = "live" ∧ ∃ e, Url.ofText s.report.liveBaseUrl = .error e ∧
        ReportOptions.ofSettings s.report = .error (.badBaseUrl e)) ∧
    (∀ o, ReportOptions.ofSettings s.report = .ok o → ∀ index given,
      (s.report.mode = "static" → given ≠ none) →
      Writer.new o index given = .ok ⟨o, index, given, false⟩ ∧
      (s.report.mode = "static" → ∃ directory r, o.snapshotDirectory? = some directory ∧
        given = some r ∧ ∀ queries rows w,
          (⟨o, index, given, false⟩ : Writer).planRows queries rows w =
            planStaticRows index r directory s.report.snapshotSuffix queries
              ⟨.ofCap o.maxHyperlinks, []⟩ w rows)) ∧
    ∀ queryPath queryText queries, loadQuerySet queryPath queryText = .ok queries →
      ∀ index options writer, Run.new queries index options writer =
        .ok ⟨queries, index, options, writer, false⟩ := by
  obtain ⟨hvalid, -⟩ := Settings.load_eq_ok hload
  rw [Settings.fault?_eq, Option.or_eq_none_iff] at hvalid
  have hsound := ReportSettings.fault?_eq_none_iff.1 hvalid.2
  refine ⟨RunOptions.ofSettings_of_workFault? hvalid.1, ?_, fun o ho index given hgiven => ?_,
    fun queryPath queryText queries hqueries index options writer => ?_⟩
  · exact hsound.ofSettings_cases
  · obtain ⟨hmode, ho⟩ := ReportSettings.ofSettings_eq_ok_iff.1 ho
    obtain ⟨name, hname⟩ : ∃ name, o.output.fileName? = some name := by
      rw [ho]
      exact hsound.exists_fileName?
    refine ⟨Writer.new_eq_ok.2 ⟨rfl, ⟨name, hname⟩, fun suffix hstatic => ?_⟩, fun hstatic => ?_⟩
    · rw [hstatic, ReportSettings.modeOfSettings_eq_static_iff] at hmode
      exact Option.ne_none_iff_exists'.1 (hgiven hmode.1)
    · obtain ⟨r, rfl⟩ := Option.ne_none_iff_exists'.1 (hgiven hstatic)
      have hsuffix := Except.ok.inj <|
        hmode.symm.trans (ReportSettings.modeOfSettings_eq_static_iff.2 ⟨hstatic, rfl⟩)
      have hdirectory := Writer.snapshotDirectory?_eq hsuffix hname
      exact ⟨_, r, hdirectory, rfl, Writer.planRows_static hsuffix hdirectory rfl⟩
  · obtain ⟨hsome, -, hqueriesSound⟩ := validateQuerySet_eq_ok_iff.1 (loadQuerySet_eq_ok hqueries)
    exact Run.new_eq_ok_iff.2 ⟨rfl, hsome, hqueriesSound⟩

/-- Settings of a static report whose names have blanks and capitals, and two queries. -/
theorem accepted_settings_usable_capitals :
    let text := "[service]\nlog_level = \"info\"\n" ++
      "[estimator]\nmax_threads = 4\nmax_seconds = 30\n" ++
      "[aggregator]\nnormalization = \" Inverse_Rank\"\nscratch_backend = \"MEMORY\"\n" ++
      "[report]\nmode = \"Static \"\noutput = \"out/tags.v2.xlsx\"\nlive_base_url = \"\"\n"
    let queryText := "[[query]]\nid = 1\nname = \"One\"\nquery = \"a\"\n" ++
      "[[query]]\nid = 2\nname = \"Two\"\nquery = \"b\"\nmax_hits = 5\npriority = 3\n"
    ∃ s queries, Settings.load ⟨"rtag.toml"⟩ (some text) = .ok s ∧
      loadQuerySet ⟨"q.toml"⟩ (some queryText) = .ok queries ∧
      (∃ o, RunOptions.ofSettings s = .ok o ∧ o.policy.name = "inverse_rank") ∧
      (∃ o, ReportOptions.ofSettings s.report = .ok o ∧ o.snapshotDirectory? ≠ none ∧
        ∀ index, ∃ x, Writer.new o index (some .highlighting) = .ok x) ∧
      ∀ index options writer, ∃ r, Run.new queries index options writer = .ok r := by
  intro text queryText
  have hnames : (Settings.load ⟨"rtag.toml"⟩ (some text)).toOption.map
      (fun s => (s.report.mode, s.aggregator.normalization)) = some ("static", "inverse_rank") := by
    decide +kernel
  have hqueries : (loadQuerySet ⟨"q.toml"⟩ (some queryText)).isOk = true := by decide +kernel
  rcases hload : Settings.load ⟨"rtag.toml"⟩ (some text) with e | s
  · rw [hload] at hnames
    cases hnames
  rcases hset : loadQuerySet ⟨"q.toml"⟩ (some queryText) with e | queries
  · rw [hset] at hqueries
    cases hqueries
  rw [hload] at hnames
  obtain ⟨hstatic, hpolicy⟩ := Prod.mk.inj (Option.some.inj hnames)
  obtain ⟨⟨o, hoptions, hname, -⟩, hreport, hwriter, hrun⟩ := accepted_settings_usable hload
  obtain ⟨report, hreport⟩ := hreport.resolve_right fun hbad =>
    absurd (hstatic.symm.trans hbad.1) (by decide)
  have hmade := fun index => hwriter report hreport index (some .highlighting) (fun _ => nofun)
  obtain ⟨directory, -, hdirectory, -⟩ := (hmade (Corpus.ofDocuments []).index).2 hstatic
  exact ⟨s, queries, rfl, rfl, ⟨o, hoptions, hname.trans hpolicy⟩,
    ⟨report, hreport, by rw [hdirectory]; nofun, fun index => ⟨_, (hmade index).1⟩⟩,
    fun index options writer => ⟨_, hrun ⟨"q.toml"⟩ _ queries hset index options writer⟩⟩

end Tagging
