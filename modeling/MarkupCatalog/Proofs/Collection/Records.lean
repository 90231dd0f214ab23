import MarkupCatalog.Proofs.Collection.MainLine
import MarkupCatalog.Proofs.Collection.Output
import MarkupCatalog.Proofs.Scan.Registry
import MarkupCatalog.Proofs.Text.Occurrence

/-!
# The records of a collection

A collection parses only the files that hold the keyword, hands the records on one by one while
it goes through the files, and counts as it goes.  What it comes to is simpler than that: parse
every candidate, put the blocks of all files in one list, and number them
(`records_eq_mapIdx_blocksOf`).

Two facts carry this.  A text without the keyword has no blocks (`parse_eq_nil`), so nothing is
lost when such files are left out; and the count never starts again nor leaves a number out
(`kept_assemble`), whatever the files yield.
-/

namespace MarkupCatalog

/-- A text without the keyword has no blocks. -/
theorem Annotation.Dialect.parse_eq_nil {d : Dialect} {text : Text}
    (h : Scan.Scanner.mayAnnotate d.keyword text = false) : d.parse text = [] := by
  have hlacks : Text.Lacks d.keyword text := Text.lacks_iff.mpr h
  have hnone : Text.occurrences d.keyword text = [] := by
    rw [List.eq_nil_iff_forall_not_mem]
    intro i hi
    exact hlacks i (Text.mem_occurrences hi)
  rw [parse, markers, hnone]
  rfl

namespace Collection

/-! ## Numbering -/

/-- The blocks of all files, each with the file that it was found in. -/
def blocksOf (d : Annotation.Dialect) (files : List (Path × Text)) :
    List (Path × Annotation.Block) :=
  files.flatMap fun file => (d.parse file.2).map (file.1, ·)

/-- **Nothing is lost** when the files without the keyword are left out. -/
theorem blocksOf_filter (d : Annotation.Dialect) (files : List (Path × Text)) :
    blocksOf d (files.filter fun file => Scan.Scanner.mayAnnotate d.keyword file.2) =
      blocksOf d files := by
  induction files with
  | nil => rfl
  | cons file files ih =>
      rw [List.filter_cons]
      split
      · rw [blocksOf, List.flatMap_cons, ← blocksOf, ih]
        rfl
      · next hlacks =>
        have hnone : d.parse file.2 = [] :=
          Annotation.Dialect.parse_eq_nil (by simpa using hlacks)
        rw [ih]
        show _ = (d.parse file.2).map (file.1, ·) ++ blocksOf d files
        rw [hnone]
        rfl

/-- The records of the blocks of a file are these blocks with their numbers. -/
theorem recordsOf_eq_mapIdx (template : Template) (source : Path) (ordinal : Nat)
    (blocks : List Annotation.Block) :
    recordsOf template source ordinal blocks =
      (blocks.map (source, ·)).mapIdx fun i found =>
        .ofBlock template found.1 (ordinal + i) found.2 := by
  induction blocks generalizing ordinal with
  | nil => rfl
  | cons b blocks ih =>
      rw [recordsOf, ih, List.map_cons, List.mapIdx_cons]
      simp only [Nat.add_zero, Nat.add_comm 1, Nat.add_assoc]

/-- **The count goes on from file to file.** -/
theorem kept_assemble (s : Settings) (d : Annotation.Dialect) (index ordinal : Nat)
    (registry : Scan.Registry) :
    (assemble s (.ofDialect d) index ordinal registry).flatMap Action.kept =
      (blocksOf d registry).mapIdx fun i found =>
        .ofBlock s.template found.1 (ordinal + i) found.2 := by
  induction registry generalizing index ordinal with
  | nil => rfl
  | cons entry rest ih =>
      obtain ⟨source, text⟩ := entry
      have hassemble : assemble s (.ofDialect d) index ordinal ((source, text) :: rest) =
          keepFile s source ordinal (d.parse text) ++
            assemble s (.ofDialect d) (index + 1) (ordinal + (d.parse text).length) rest := rfl
      have hblocks : blocksOf d ((source, text) :: rest) =
          (d.parse text).map (source, ·) ++ blocksOf d rest := rfl
      -- a file without blocks leaves the count as it is, so no number is left out
      rw [hassemble, hblocks, List.flatMap_append, (yields_keepFile s source ordinal _).kept, ih,
        recordsOf_eq_mapIdx, List.mapIdx_append, List.length_map]
      simp only [Nat.add_comm _ (d.parse text).length, Nat.add_assoc, Nat.add_left_comm]

/-- The records that a plan keeps are the blocks of all files with their numbers. -/
theorem kept_plan (s : Settings) (registry : Scan.Registry) :
    (plan s (.ofDialect s.dialect) registry).flatMap Action.kept =
      (blocksOf s.dialect registry).mapIdx fun i found =>
        .ofBlock s.template found.1 i found.2 := by
  have hkept := kept_assemble s s.dialect 0 0 registry
  simp only [Nat.zero_add] at hkept
  exact hkept

/-- The usual collector announces the end. -/
theorem finish_mem_plan (s : Settings) (d : Annotation.Dialect) (registry : Scan.Registry) :
    Action.finish ∈ plan s (.ofDialect d) registry := by
  obtain ⟨_, front, hfront, _⟩ := plan_spec s d registry
  rw [hfront]
  exact List.mem_append_right front List.mem_cons_self

/-- The usual collector gives up at no file. -/
theorem fail_not_mem_plan (s : Settings) (d : Annotation.Dialect) (registry : Scan.Registry)
    (f : Failure) : Action.fail f ∉ plan s (.ofDialect d) registry := by
  obtain ⟨body, ending, hplan⟩ := exists_isPlan s (.ofDialect d) registry
  intro hfail
  rw [hplan.eq_of_finish_mem (finish_mem_plan s d registry)] at hfail
  have hbody : Action.fail f ∈ body := by simpa using hfail
  cases hplan.assembly _ hbody

/-! ## Whole runs -/

variable {settings : Settings} {codecs : Charset.Codecs} {io : OutputFile.Operations}
  {shared : Shared} {registry : Scan.Registry} {acted : List Action} {made : List Writer.Call}
  {state : State} {failure : Option Failure}

/-- **A run that has come to its end.**  All records of the plan are in the channel, and only
the callback can have failed, in its place at the end of the plan. -/
theorem records_of_moves (hstart : shared.collected = [])
    (h : Moves io settings.onComplete ((Collector.ofSettings settings codecs).begin shared registry)
      acted made ⟨state, [], failure⟩) :
    state.shared.channel.records =
      (plan settings (.ofDialect settings.dialect) registry).flatMap Action.kept ∧
      failure = if settings.output.isSome then none
        else settings.onComplete.bind Callback.raises := by
  have hmain := h.mainLine hstart
  cases failure with
  | none =>
      have hacted : acted = plan settings (.ofDialect settings.dialect) registry := by
        have hsplit := hmain.split rfl
        rwa [List.append_nil] at hsplit
      refine ⟨hacted ▸ hmain.records, ?_⟩
      split
      · rfl
      · next hnone =>
        have houtput : settings.output = none := by simpa using hnone
        have hfinish : .finish ∈ acted :=
          hacted ▸ finish_mem_plan settings settings.dialect registry
        exact (hmain.returned hfinish houtput).symm
  | some f =>
      obtain ⟨_, ⟨_, hfail⟩ | ⟨houtput, hraises, hacted⟩⟩ := hmain.failed f rfl
      · exact absurd hfail (fail_not_mem_plan settings settings.dialect registry f)
      · -- the callback fails in the very last action, and all records were kept before
        have hlast : [Action.finish].flatMap Action.kept = [] := rfl
        have hkept := congrArg (List.flatMap Action.kept) hacted
        rw [List.flatMap_append, hlast, List.append_nil] at hkept
        refine ⟨hmain.records.trans hkept, ?_⟩
        have houtput' : settings.output = none := houtput
        rw [houtput']
        exact hraises.symm

end Collection

namespace Collector

open Collection

/-- The file system in which a collection looks for files.  That it has begun was noted, and
the log may be kept in a file. -/
def systemAtScan (c : Collector) (fs : FileSystem) (journal : Log.Journal) : FileSystem :=
  (journal.note fs
    (Collection.note .info ("Collecting components under " ++ c.settings.root.text))).2

/-- **A collection is what its files hold.**  If all candidates can be read, the channel comes
to hold one record for each block of each candidate, in the order of the files and of the blocks
in them, with the numbers from zero on; whether a file holds the keyword does not matter.  The
collection succeeds, unless it calls the callback itself and this fails. -/
theorem records_eq_mapIdx_blocksOf {settings : Settings} {codecs : Charset.Codecs}
    {fs : FileSystem} {account : Account} {journal : Log.Journal} {o : Outcome} {root : Path}
    {paths : List Path}
    (hroot : Scan.Scanner.findRoot ((ofSettings settings codecs).systemAtScan fs journal) account
      settings.root.text = .ok root)
    (hpaths : (ofSettings settings codecs).scanner.candidatePaths
      ((ofSettings settings codecs).systemAtScan fs journal) root = .ok paths)
    (hreadable : ∀ path ∈ paths, ∃ text,
      ((ofSettings settings codecs).systemAtScan fs journal).readText codecs settings.charset
        path.text = .ok text)
    (hruns : (ofSettings settings codecs).Runs fs account journal o) :
    ∃ files : List (Path × Text),
      (ofSettings settings codecs).scanner.Reads
        ((ofSettings settings codecs).systemAtScan fs journal) paths files ∧
      o.state.shared.channel.records =
        (blocksOf settings.dialect files).mapIdx (fun i found =>
          { source := found.1
            ordinal := i
            metadata := found.2.metadata
            raw := found.2.raw
            rendered := settings.template.render found.2.raw }) ∧
      o.failure =
        if settings.output.isSome then none else settings.onComplete.bind Callback.raises := by
  obtain ⟨files, hreads⟩ : ∃ files, (ofSettings settings codecs).scanner.Reads
      ((ofSettings settings codecs).systemAtScan fs journal) paths files :=
    Scan.Scanner.exists_reads hreadable
  refine ⟨files, hreads, ?_⟩
  have hregistry := (Scan.Scanner.scan_eq_readAll hroot hpaths).trans
    (Scan.Scanner.readAll_of_reads hreads)
  simp only [Runs] at hruns
  split at hruns
  · next log f hscan =>
    have hfailed := congrArg Prod.snd hscan
    cases hfailed.symm.trans hregistry
  · next log registry hscan =>
    obtain ⟨acted, made, hmoves, _⟩ := hruns
    have hfound := congrArg Prod.snd hscan
    cases hfound.symm.trans hregistry
    obtain ⟨hrecords, hfailure⟩ := records_of_moves (afterScan_frame _ log _).1 hmoves
    refine ⟨?_, hfailure⟩
    rw [hrecords, kept_plan]
    exact congrArg _ (blocksOf_filter settings.dialect files)

/-! ## Four pages -/

/-- Pages: one without the keyword, one with two annotations, one with the keyword alone, and
one with an annotation. -/
def shelf : List (Path × Text) :=
  [(.absolute ["a.html"], "<p>"),
    (.absolute ["b.html"], "<!-- @component A -->x<!-- @component B -->y"),
    (.absolute ["c.html"], "@component"),
    (.absolute ["d.html"], "<!-- @component C -->z")]

/-- A file system that holds nothing but the pages. -/
def shelfSystem : FileSystem :=
  ⟨.directory (shelf.map fun file => (file.1.name, .file (Charset.Utf8.encode file.2))), []⟩

/-- Settings by which no file is written. -/
def shelfSettings : Settings := { pageSettings with output := none }

/-- The records of the pages. -/
def shelfRecords : List Record :=
  [⟨.absolute ["b.html"], 0, [("name", "A")], "x", "x"⟩,
    ⟨.absolute ["b.html"], 1, [("name", "B")], "y", "y"⟩,
    ⟨.absolute ["d.html"], 2, [("name", "C")], "z", "z"⟩]

theorem reads_shelf :
    (ofSettings shelfSettings .ascii).scanner.Reads shelfSystem (shelf.map (·.1)) shelf := by
  have hbytes : ∀ file ∈ shelf,
      shelfSystem.readBytes file.1.text = .ok (Charset.Utf8.encode file.2) ∧
        Text.withLineFeeds file.2 = file.2 := by
    simp only [shelf, List.forall_mem_cons]
    refine ⟨⟨by cbv, by cbv⟩, ⟨by cbv, by cbv⟩, ⟨by cbv, by cbv⟩, ⟨by cbv, by cbv⟩, ?_⟩
    exact List.forall_mem_nil _
  refine ⟨rfl, fun file hfile => ?_⟩
  obtain ⟨hread, hfeeds⟩ := hbytes file hfile
  exact (FileSystem.readText_utf8 hread).trans (congrArg Except.ok hfeeds)

/-- The numbers go on from the second page to the fourth. -/
theorem records_eq_mapIdx_blocksOf_shelf :
    let o := (ofSettings shelfSettings .ascii).run shelfSystem ⟨"/", []⟩ pageJournal
    o.state.shared.channel.records = shelfRecords ∧ o.failure = none := by
  intro o
  have hsystem : (ofSettings shelfSettings .ascii).systemAtScan shelfSystem pageJournal =
      shelfSystem := by
    cbv
  have hroot : Scan.Scanner.findRoot shelfSystem ⟨"/", []⟩ shelfSettings.root.text =
      .ok (.absolute []) := by
    cbv
  have hpaths : (ofSettings shelfSettings .ascii).scanner.candidatePaths shelfSystem
      (.absolute []) = .ok (shelf.map (·.1)) := by
    cbv
  have hreadable : ∀ path ∈ shelf.map (·.1), ∃ text,
      shelfSystem.readText .ascii shelfSettings.charset path.text = .ok text := by
    intro path hpath
    obtain ⟨file, hfile, rfl⟩ := List.mem_map.mp hpath
    exact ⟨file.2, reads_shelf.text_eq file hfile⟩
  rw [← hsystem] at hroot hpaths hreadable
  obtain ⟨files, hreads, hrecords, hfailure⟩ := records_eq_mapIdx_blocksOf hroot hpaths hreadable
    ((ofSettings shelfSettings .ascii).runs_run shelfSystem ⟨"/", []⟩ pageJournal)
  rw [hsystem] at hreads
  cases hreads.unique reads_shelf
  refine ⟨hrecords.trans ?_, hfailure⟩
  decide +kernel

end Collector

end MarkupCatalog
