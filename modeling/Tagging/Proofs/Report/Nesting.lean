import Tagging.Proofs.Report.SnapshotFiles

/-!
# Snapshots that stand in each other's way

The place of a snapshot is free when no earlier snapshot lies there.  It is not asked whether a
directory stands there, or will have to: so a snapshot may get a place above that of another one,
and then the report cannot be written.

* `Path.Above` — a path leads to a place above that of another one;
* `above_iff` — **when one snapshot lies above another**: it lies at one of the directories that
  lead to the other;
* `exists_directory_of_above` — this takes a directory whose name ends like a snapshot;
* `not_above_of_stands` — snapshots that stand are not nested;
* `nested_snapshots` — **a report of nested snapshots fails**;
* `snapshot_above_another` — two files whose snapshots are nested.
-/

namespace Tagging

/-- The path leads to a place above the place of the other. -/
def Path.Above (p q : Path) : Prop := p.components <+: q.components ∧ p.components ≠ q.components

instance (p q : Path) : Decidable (p.Above q) := inferInstanceAs (Decidable (_ ∧ _))

section Above

variable {directory : Path} {suffix : String} {p q : SnapshotPlan} {r r' : SortedRow}

/-- **One snapshot lies above another** if, and only if, it lies at one of the directories that lead
to the other. -/
theorem above_iff (hsuffix : '/' ∉ suffix.toList) (hq : q.Of directory suffix r') (l : Path) :
    l.Above q.location ↔ l.components <+:
      (locationNames r'.relativePath r'.fileId).dropLast.map .name := by
  obtain ⟨tag, htag⟩ := hq.location
  rw [Path.Above, htag, components_snapshotLocation hsuffix, snapshotNames, List.map_append,
    List.map_singleton, List.prefix_concat_iff]
  constructor
  · rintro ⟨heq | habove, hne⟩
    · exact absurd heq hne
    · exact habove
  · intro habove
    refine ⟨.inr habove, fun heq => ?_⟩
    have hlength := habove.length_le
    rw [heq, List.length_append, List.length_singleton] at hlength
    omega

/-- A snapshot above another one takes a directory whose name ends like a snapshot. -/
theorem exists_directory_of_above (hsuffix : '/' ∉ suffix.toList) (hp : p.Of directory suffix r)
    (hq : q.Of directory suffix r') (h : p.location.Above q.location) :
    ∃ name ∈ (locationNames r'.relativePath r'.fileId).dropLast, suffix.toList <:+ name.toList := by
  obtain ⟨tag, htag⟩ := hp.location
  have habove := (above_iff hsuffix hq p.location).1 h
  rw [htag, components_snapshotLocation hsuffix] at habove
  have hlast : taggedName ((locationNames r.relativePath r.fileId).getLastD "") tag suffix ∈
      snapshotNames r.relativePath r.fileId suffix tag :=
    List.mem_append_right _ (List.mem_singleton_self _)
  obtain ⟨name, hname, heq⟩ := List.mem_map.1 (habove.subset (List.mem_map_of_mem hlast))
  cases heq
  exact ⟨_, hname, suffix_taggedName _ tag suffix⟩

/-- **Two snapshots that stand** are not nested: a file cannot be a directory. -/
theorem not_above_of_stands {index : SearchIndex} {renderer : Renderer} {queries : List NamedQuery}
    {t₀ t : FileTree Content} (hsuffix : '/' ∉ suffix.toList) (hp : p.Of directory suffix r)
    (hq : q.Of directory suffix r') (hcurrent : t.current = t₀.current)
    (hstand : SnapshotStands index renderer queries t (directory.join p.location)
      (p.place t₀ directory) r p)
    (hstand' : SnapshotStands index renderer queries t (directory.join q.location)
      (q.place t₀ directory) r' q) : ¬ p.location.Above q.location := by
  intro habove
  obtain ⟨names, -, hnames, hlocation, hplace⟩ := hp.exists_names hsuffix t₀
  obtain ⟨names', -, hnames', hlocation', -⟩ := hq.exists_names hsuffix t₀
  have hnested : names <+: names' ∧ names ≠ names' := by
    rw [hlocation, hlocation', Path.Above, Path.components_ofNames hnames,
      Path.components_ofNames hnames'] at habove
    have hinj : Function.Injective Component.name := fun _ _ h => Component.name.inj h
    refine ⟨(List.prefix_map_iff_of_injective hinj).1 habove.1, ?_⟩
    rintro rfl
    exact habove.2 rfl
  obtain ⟨⟨back, rfl⟩, hne⟩ := hnested
  have hback : back ≠ [] := by
    rintro rfl
    exact hne (List.append_nil names).symm
  obtain ⟨d, text, -, -, hfile⟩ := hstand.content
  have hresolve := hstand'.resolve
  rw [hlocation'] at hresolve
  have hdir := FileTree.get?_of_resolve_join hback hnames' hresolve
  rw [hplace] at hfile
  rw [FileTree.goal_congr hcurrent, hfile] at hdir
  cases hdir

end Above

/-! ## Reports of nested snapshots -/

section Nested

variable {options : ReportOptions} {suffix : String} {index : SearchIndex} {given : Option Renderer}
  {x : Writer} {queries : List NamedQuery} {rows : List SortedRow} {directory : Path}

/-- **Nested snapshots.**  Of the snapshots that a report has links for, one lies above another if,
and only if, it lies at one of the directories that lead to the other; so none does if no directory
ends like a snapshot.  And if one does, the report fails, wherever it is written. -/
theorem nested_snapshots (hmode : options.mode = .static suffix) (hsuffix : '/' ∉ suffix.toList)
    (hnew : Writer.new options index given = .ok x)
    (hdirectory : options.snapshotDirectory? = some directory) :
    let shown := rows.take (options.shown rows.length)
    let plans := keepFirst options.maxHyperlinks (snapshotPlans directory suffix [] shown)
    (∀ (j : Nat) p q, some p ∈ plans → plans[j]? = some (some q) →
      ∃ row, shown[j]? = some row ∧
        (p.location.Above q.location ↔ p.location.components <+:
          (locationNames row.relativePath row.fileId).dropLast.map .name)) ∧
    ((∀ row ∈ shown, ∀ name ∈ (locationNames row.relativePath row.fileId).dropLast,
        ¬ suffix.toList <:+ name.toList) →
      ∀ p q, some p ∈ plans → some q ∈ plans → ¬ p.location.Above q.location) ∧
    ((∃ p q, some p ∈ plans ∧ some q ∈ plans ∧ p.location.Above q.location) →
      ∀ w, ∃ e, (x.write queries rows w).2.2 = .error e) := by
  intro shown plans
  have hof : ∀ {j : Nat} {q : SnapshotPlan}, plans[j]? = some (some q) →
      ∃ row, shown[j]? = some row ∧ q.Of directory suffix row :=
    fun hj => of_snapshotPlans (getElem?_of_keepFirst hj)
  have hof' : ∀ {q : SnapshotPlan}, some q ∈ plans → ∃ row ∈ shown, q.Of directory suffix row := by
    intro q hq
    obtain ⟨j, hj⟩ := List.mem_iff_getElem?.1 hq
    obtain ⟨row, hrow, hqof⟩ := hof hj
    exact ⟨row, List.mem_of_getElem? hrow, hqof⟩
  refine ⟨?_, ?_, ?_⟩
  · intro j p q _ hj
    obtain ⟨row, hrow, hqof⟩ := hof hj
    exact ⟨row, hrow, above_iff hsuffix hqof p.location⟩
  · intro hfree p q hp hq habove
    obtain ⟨row, -, hpof⟩ := hof' hp
    obtain ⟨row', hrow', hqof⟩ := hof' hq
    obtain ⟨name, hname, hends⟩ := exists_directory_of_above hsuffix hpof hqof habove
    exact hfree row' hrow' name hname hends
  · rintro ⟨p, q, hp, hq, habove⟩ w
    rcases hwrite : x.write queries rows w with ⟨y, v, e | artifact⟩
    · exact ⟨e, rfl⟩
    obtain ⟨directory', renderer, sheet, hdirectory', -, -, hreport⟩ :=
      staticReport_of_write hmode hsuffix hnew hwrite
    obtain rfl : directory' = directory := Option.some.inj (hdirectory'.symm.trans hdirectory)
    obtain ⟨i, hi⟩ := List.mem_iff_getElem?.1 hp
    obtain ⟨j, hj⟩ := List.mem_iff_getElem?.1 hq
    obtain ⟨r, -, hpof, hstand⟩ := hreport.stands hi
    obtain ⟨r', -, hqof, hstand'⟩ := hreport.stands hj
    exact absurd habove (not_above_of_stands hsuffix hpof hqof hreport.current hstand hstand')

end Nested

/-- Two files, one of them in a directory that is named like the snapshot of the other: wherever
their report is written, it fails. -/
theorem nested_snapshots_two_rows :
    let options : ReportOptions := ⟨⟨"tags.xlsx"⟩, .static ".html", none, 9⟩
    let index : SearchIndex := Script.index ⟨[(0, Script.plainDocument "f0"),
      (1, Script.plainDocument "f1")], [], [], [], [], [], [], false⟩
    let queries : List NamedQuery := [⟨1, "Q1", "q1", -1, -1⟩]
    let rows : List SortedRow := [⟨"f0", 1, "f0.txt", "a.html/b", some 0, [(1, 1)]⟩,
      ⟨"f1", 1, "f1.txt", "a", some 1, [(1, 1)]⟩]
    ∃ x, Writer.new options index (some .naming) = .ok x ∧
      ∀ w, ∃ e, (x.write queries rows w).2.2 = .error e := by
  intro options index queries rows
  have hname : options.output.fileName? = some "tags.xlsx" := by decide +kernel
  have hnew : Writer.new options index (some .naming) =
      .ok ⟨options, index, some .naming, false⟩ :=
    Writer.new_eq_ok.2 ⟨rfl, ⟨_, hname⟩, fun _ _ => ⟨_, rfl⟩⟩
  have hdirectory : options.snapshotDirectory? = some ⟨"./tags_files"⟩ := by decide +kernel
  have habove : ∃ p q : SnapshotPlan,
      some p ∈ keepFirst 9 (snapshotPlans ⟨"./tags_files"⟩ ".html" [] rows) ∧
      some q ∈ keepFirst 9 (snapshotPlans ⟨"./tags_files"⟩ ".html" [] rows) ∧
      p.location.Above q.location :=
    ⟨⟨1, ⟨"a.html"⟩, "file:///tags_files/a.html"⟩,
      ⟨0, ⟨"a.html/b.html"⟩, "file:///tags_files/a.html/b.html"⟩,
      by decide +kernel, by decide +kernel, by decide +kernel⟩
  obtain ⟨-, -, hfails⟩ := nested_snapshots rfl (by decide) hnew hdirectory
  exact ⟨_, hnew, hfails habove⟩

/-- **A snapshot above another one.**  Each of two files has a report of its own, but their report
fails: the second snapshot is to be written where the first one made a directory. -/
theorem snapshot_above_another :
    let options : ReportOptions := ⟨⟨"tags.xlsx"⟩, .static ".html", none, 9⟩
    let index : SearchIndex := Script.index ⟨[(0, Script.plainDocument "f0"),
      (1, Script.plainDocument "f1")], [], [], [], [], [], [], false⟩
    let queries : List NamedQuery := [⟨1, "Q1", "q1", -1, -1⟩]
    let first : SortedRow := ⟨"f0", 1, "f0.txt", "a.html/b", some 0, [(1, 1)]⟩
    let second : SortedRow := ⟨"f1", 1, "f1.txt", "a", some 1, [(1, 1)]⟩
    let x : Writer := ⟨options, index, some .naming, false⟩
    let w : Workspace := ⟨⟨[(["work"], .directory)], ["work"]⟩, [], .sound⟩
    (snapshotPlans ⟨"./tags_files"⟩ ".html" [] [first, second]).map
        (Option.map fun plan => plan.location.components) =
      [some [.name "a.html", .name "b.html"], some [.name "a.html"]] ∧
      (x.write queries [first] w).2.2.isOk = true ∧ (x.write queries [second] w).2.2.isOk = true ∧
      (x.write queries [first, second] w).2.2 =
        .error (.report (.snapshotFile ⟨"./tags_files/a.html"⟩ .isDirectory)) := by
  decide +kernel

end Tagging
