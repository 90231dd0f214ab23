import MarkupCatalog.Proofs.Scan.Candidate
import MarkupCatalog.Proofs.Writer.OutputFile
import MarkupCatalog.Scan.Registry

/-!
# What a scan registers

A scan reads the candidates one after the other.  If all of them can be read, the registry
holds those with the keyword, in their order (`readAll_of_reads`); otherwise the first one that
cannot be read decides how the scan fails (`readAll_of_unreadable`).  Together with what the
candidates are, this is `candidates_iff_and_registry`.
-/

namespace MarkupCatalog.Scan

namespace Scanner

variable {s : Scanner} {fs : FileSystem}

/-- All files at these paths can be read, and these are their texts. -/
structure Reads (s : Scanner) (fs : FileSystem) (paths : List Path) (files : List (Path × Text)) :
    Prop where
  paths_eq : files.map (·.1) = paths
  text_eq : ∀ file ∈ files, fs.readText s.codecs s.charset file.1.text = .ok file.2

theorem exists_reads {paths : List Path}
    (h : ∀ path ∈ paths, ∃ text, fs.readText s.codecs s.charset path.text = .ok text) :
    ∃ files, s.Reads fs paths files := by
  induction paths with
  | nil => exact ⟨[], rfl, List.forall_mem_nil _⟩
  | cons path rest ih =>
      obtain ⟨text, htext⟩ := h path List.mem_cons_self
      obtain ⟨files, hpaths, htexts⟩ := ih fun p hp => h p (List.mem_cons_of_mem path hp)
      refine ⟨(path, text) :: files, by rw [List.map_cons, hpaths], ?_⟩
      exact List.forall_mem_cons.mpr ⟨htext, htexts⟩

/-- The texts of files are determined by their paths. -/
theorem Reads.unique {paths : List Path} {files files' : List (Path × Text)}
    (h : s.Reads fs paths files) (h' : s.Reads fs paths files') : files = files' := by
  obtain ⟨rfl, htexts⟩ := h
  obtain ⟨hpaths', htexts'⟩ := h'
  induction files generalizing files' with
  | nil => exact (List.map_eq_nil_iff.mp hpaths').symm
  | cons file files ih =>
      obtain ⟨file', rest, rfl, hpath, hpaths⟩ := List.map_eq_cons_iff.mp hpaths'
      obtain ⟨hfirst, hrest⟩ := List.forall_mem_cons.mp htexts
      obtain ⟨hfirst', hrest'⟩ := List.forall_mem_cons.mp htexts'
      have htext : file.2 = file'.2 := by
        rw [hpath, hfirst] at hfirst'
        exact Except.ok.inj hfirst'
      rw [Prod.ext hpath.symm htext, ih hrest hpaths hrest']

/-- **If all files can be read,** those with the keyword are registered in their order. -/
theorem readAll_of_reads {paths : List Path} {files : List (Path × Text)}
    (h : s.Reads fs paths files) :
    (s.readAll fs paths).2 = .ok (files.filter fun file => mayAnnotate s.keyword file.2) := by
  obtain ⟨rfl, htexts⟩ := h
  induction files with
  | nil => rfl
  | cons file files ih =>
      obtain ⟨hfirst, hrest⟩ := List.forall_mem_cons.mp htexts
      rw [List.map_cons, readAll]
      simp only [hfirst, List.filter_cons]
      split
      · simp only [ih hrest]
        rfl
      · exact ih hrest

/-- **The first file that cannot be read** decides how the reading fails. -/
theorem readAll_of_unreadable {before after : List Path} {path : Path} {failure : Failure}
    (hbefore : ∀ p ∈ before, ∃ text, fs.readText s.codecs s.charset p.text = .ok text)
    (hpath : fs.readText s.codecs s.charset path.text = .error failure) :
    (s.readAll fs (before ++ path :: after)).2 = .error failure := by
  induction before with
  | nil =>
      rw [List.nil_append, readAll, hpath]
  | cons p before ih =>
      obtain ⟨⟨text, htext⟩, hrest⟩ := List.forall_mem_cons.mp hbefore
      rw [List.cons_append, readAll]
      simp only [htext]
      split
      · simp only [ih hrest]
        rfl
      · exact ih hrest

theorem candidatePaths_eq {root : Path} {entries : List (Text × Entry)}
    (h : fs.listDirectory root = .ok entries) :
    s.candidatePaths fs root =
      .ok ((candidates s.filter entries).map fun names => root.join ⟨[], names⟩) := by
  rw [candidatePaths, h]
  rfl

/-- What a scan comes to when its candidates are known is what reading them comes to. -/
theorem scan_eq_readAll {account : Account} {given : Text} {root : Path} {paths : List Path}
    (hroot : findRoot fs account given = .ok root) (hpaths : s.candidatePaths fs root = .ok paths) :
    (s.scan fs account given).2 = (s.readAll fs paths).2 := by
  simp only [scan, hroot, hpaths]
  rcases s.readAll fs paths with ⟨log, failure | registry⟩ <;> rfl

/-- **All candidates, in order, and what becomes of them.**  Let no directory below the root
list a name twice.  The names that lead to a candidate stand in the list of candidates once,
and no others do; the list is in the order of the names.  If all candidates can be read, those
with the keyword are registered in this order; otherwise the scan fails as reading the first of
them does that cannot be read. -/
theorem candidates_iff_and_registry (s : Scanner) {account : Account} {given : Text} {root : Path}
    {entries : List (Text × Entry)} (hroot : findRoot fs account given = .ok root)
    (hentries : fs.listDirectory root = .ok entries)
    (hnames : (Entry.directory entries).UniqueNames) :
    let found := candidates s.filter entries
    let paths := found.map fun names => root.join ⟨[], names⟩
    s.candidatePaths fs root = .ok paths ∧
    (∀ names, (found.count names = 1 ↔ IsCandidate s.filter entries names) ∧
      (found.count names = 0 ↔ ¬ IsCandidate s.filter entries names)) ∧
    found.Pairwise (· < ·) ∧
    (∀ files, s.Reads fs paths files →
      (s.scan fs account given).2 =
        .ok (files.filter fun file => mayAnnotate s.keyword file.2)) ∧
    (∀ before path after failure, paths = before ++ path :: after →
      (∀ p ∈ before, ∃ text, fs.readText s.codecs s.charset p.text = .ok text) →
      fs.readText s.codecs s.charset path.text = .error failure →
      (s.scan fs account given).2 = .error failure) := by
  intro found paths
  have hpaths : s.candidatePaths fs root = .ok paths := candidatePaths_eq hentries
  have hscan : (s.scan fs account given).2 = (s.readAll fs paths).2 := scan_eq_readAll hroot hpaths
  have hordered : found.Pairwise (· < ·) := pairwise_candidates hnames
  have hnodup : found.Nodup := hordered.imp fun hlt heq => by
    rw [heq] at hlt
    exact List.lt_irrefl _ hlt
  refine ⟨hpaths, ?_, hordered, ?_, ?_⟩
  · intro names
    rw [← mem_candidates_iff hnames names, hnodup.count]
    by_cases hmem : names ∈ candidates s.filter entries <;> simp [found, hmem]
  · intro files hreads
    rw [hscan, readAll_of_reads hreads]
  · intro before path after failure hsplit hbefore hpath
    rw [hscan, hsplit, readAll_of_unreadable hbefore hpath]

/-! ## A tree that is listed in disorder -/

/-- A directory with a file, a directory that is left out, a link to a directory that has the
name of a file, and that directory with another file. -/
def sampleTree : List (Text × Entry) :=
  [("b.html", .file (Charset.Utf8.encode "@component")),
    ("skip", .directory [("x.html", .file [])]),
    ("l.html", .link "a"),
    ("a", .directory [("z.html", .file []), ("c.txt", .file [])])]

/-- The candidates of the tree, if one directory is left out. -/
def sampleCandidates : List (List Text) := [["a", "z.html"], ["b.html"], ["l.html"]]

/-- A file system that holds nothing but the tree. -/
def sampleSystem : FileSystem := ⟨.directory sampleTree, []⟩

/-- A scanner that leaves a directory out. -/
def sampleScanner : Scanner := ⟨"@component", [".html"], ["skip/"], "utf-8", .ascii⟩

theorem uniqueNames_sampleTree : (Entry.directory sampleTree).UniqueNames := by
  have hfile (content : Bytes) : (Entry.file content).UniqueNames :=
    Entry.uniqueNames_of_not_isDirectory rfl
  have hlink (target : Text) : (Entry.link target).UniqueNames :=
    Entry.uniqueNames_of_not_isDirectory rfl
  simp [sampleTree, Entry.uniqueNames_directory_iff, hfile, hlink]

/-- The link is a candidate, and because it leads to a directory the scan fails, although the
two files before it can be read. -/
theorem candidates_iff_and_registry_sampleTree :
    candidates sampleScanner.filter sampleTree = sampleCandidates ∧
    IsCandidate sampleScanner.filter sampleTree ["l.html"] ∧
    ¬ IsCandidate sampleScanner.filter sampleTree ["skip", "x.html"] ∧
    (sampleScanner.scan sampleSystem ⟨"/", []⟩ "/").2 =
      .error (FileSystem.refusal .isDirectory "/l.html") := by
  have hroot : findRoot sampleSystem ⟨"/", []⟩ "/" = .ok (.absolute []) := by cbv
  have hentries : sampleSystem.listDirectory (.absolute []) = .ok sampleTree := by cbv
  have hfound : candidates sampleScanner.filter sampleTree = sampleCandidates := by cbv
  have hfirst : sampleSystem.readBytes "/a/z.html" = .ok (Charset.Utf8.encode []) := by cbv
  have hsecond : sampleSystem.readBytes "/b.html" =
      .ok (Charset.Utf8.encode "@component") := by cbv
  have hlink : sampleSystem.readText .ascii "utf-8" "/l.html" =
      .error (FileSystem.refusal .isDirectory "/l.html") := by cbv
  obtain ⟨_, hcount, _, _, hfails⟩ :=
    sampleScanner.candidates_iff_and_registry hroot hentries uniqueNames_sampleTree
  rw [hfound] at hcount hfails
  refine ⟨hfound, (hcount _).1.mp (by decide), (hcount _).2.mp (by decide), ?_⟩
  refine hfails [.absolute ["a", "z.html"], .absolute ["b.html"]] (.absolute ["l.html"]) [] _ rfl
    ?_ hlink
  rintro path hpath
  rcases List.mem_pair.mp hpath with rfl | rfl
  · exact ⟨_, FileSystem.readText_utf8 hfirst⟩
  · exact ⟨_, FileSystem.readText_utf8 hsecond⟩

end Scanner

end MarkupCatalog.Scan
