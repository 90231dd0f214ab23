import Mathlib.Data.List.Permutation
import MarkupCatalog.Scan.Candidate

/-!
# Which files are candidates, and in which order

The walk through a directory tree sorts the entries of one directory at a time and leaves out
whole directories on its way.  Two statements say what this comes to for the tree as a whole,
in whatever order its directories list their entries:

* `mem_candidates_iff` — the candidates are the entries that are no directories, have one of
  the extensions, are not excluded themselves and lie below no excluded directory;
* `pairwise_candidates` — they come in the lexicographic order of the names that lead to them.

Both follow the tree entry by entry, by `Entry.induction`.
-/

namespace MarkupCatalog

/-! ## The order of names -/

namespace Text

/-- The order of texts is that of lists of characters. -/
theorem le_iff {a b : Text} : le a b = true ↔ a = b ∨ a < b := by
  induction a generalizing b with
  | nil =>
      cases b with
      | nil => simp [le]
      | cons y ys => simp [le]
  | cons x xs ih =>
      cases b with
      | nil => simp [le]
      | cons y ys =>
          rw [le, List.cons_lt_cons_iff, List.cons.injEq]
          by_cases h : x = y
          · have hirrefl : ¬ y < y := Nat.lt_irrefl y.toNat
            simp only [h, if_true, ih, true_and, hirrefl, false_or]
          · have hlt : x < y ↔ x.toNat < y.toNat := Iff.rfl
            simp [h, hlt]

/-- The order of texts is transitive, as sorting needs it. -/
theorem le_trans {a b c : Text} (hab : le a b = true) (hbc : le b c = true) :
    le a c = true := by
  rw [le_iff] at hab hbc ⊢
  rcases hab with rfl | hab
  · exact hbc
  · rcases hbc with rfl | hbc
    · exact Or.inr hab
    · exact Or.inr (List.lt_trans hab hbc)

end Text

/-! ## Trees -/

namespace Entry

/-- **Induction along a tree:** what holds of everything that is no directory, and of a
directory if it holds of its entries, holds of every entry. -/
@[elab_as_elim]
theorem induction {motive : Entry → Prop}
    (other : ∀ e, e.isDirectory = false → motive e)
    (directory : ∀ entries, (∀ entry ∈ entries, motive entry.2) → motive (.directory entries))
    (e : Entry) : motive e :=
  match e with
  | .file _ => other _ rfl
  | .link _ => other _ rfl
  | .device _ => other _ rfl
  | .directory entries => directory entries fun entry _hentry => induction other directory entry.2
termination_by sizeOf e
decreasing_by
  have hlist := List.sizeOf_lt_of_mem _hentry
  have hpair : sizeOf entry = 1 + sizeOf entry.1 + sizeOf entry.2 := by
    cases entry
    rfl
  simp only [Entry.directory.sizeOf_spec]
  omega

/-- No directory at or below the entry lists a name twice. -/
def UniqueNames (e : Entry) : Prop :=
  ∀ place entries, e.at? place = some (.directory entries) → (entries.map (·.1)).Nodup

/-- Below a directory, the first name leads to one of its entries. -/
theorem at?_cons_directory (entries : List (Text × Entry)) (name : Text) (place : List Text) :
    (Entry.directory entries).at? (name :: place) =
      ((Entry.directory entries).child? name).bind (·.at? place) := rfl

/-- What is found by its name is an entry under this name. -/
theorem mem_of_child? {entries : List (Text × Entry)} {name : Text} {child : Entry}
    (h : (Entry.directory entries).child? name = some child) : (name, child) ∈ entries := by
  obtain ⟨entry, hfind, rfl⟩ := Option.map_eq_some_iff.mp h
  have hname : entry.1 = name := by simpa using List.find?_some hfind
  rw [← hname]
  exact List.mem_of_find?_eq_some hfind

/-- In a directory that lists no name twice, every entry is found by its name. -/
theorem child?_of_mem {entries : List (Text × Entry)} {name : Text} {child : Entry}
    (hnodup : (entries.map (·.1)).Nodup) (h : (name, child) ∈ entries) :
    (Entry.directory entries).child? name = some child := by
  induction entries with
  | nil => cases h
  | cons entry rest ih =>
      rw [List.map_cons, List.nodup_cons] at hnodup
      rw [child?]
      rcases List.mem_cons.mp h with rfl | hrest
      · simp
      · have hne : entry.1 ≠ name := by
          intro heq
          exact hnodup.1 (List.mem_map.mpr ⟨_, hrest, heq.symm⟩)
        rw [List.find?_cons_of_neg (by simpa using hne)]
        exact ih hnodup.2 hrest

/-- The condition on names goes through a tree directory by directory. -/
theorem uniqueNames_directory_iff {entries : List (Text × Entry)} :
    (Entry.directory entries).UniqueNames ↔
      (entries.map (·.1)).Nodup ∧ ∀ entry ∈ entries, entry.2.UniqueNames := by
  constructor
  · intro h
    have hnodup : (entries.map (·.1)).Nodup := h [] entries rfl
    refine ⟨hnodup, fun entry hentry place inner hat => h (entry.1 :: place) inner ?_⟩
    rw [at?_cons_directory, child?_of_mem hnodup hentry]
    exact hat
  · rintro ⟨hnodup, hrest⟩ place inner hat
    cases place with
    | nil =>
        cases hat
        exact hnodup
    | cons name place =>
        rw [at?_cons_directory] at hat
        obtain ⟨child, hchild, hbelow⟩ := Option.bind_eq_some_iff.mp hat
        exact hrest _ (mem_of_child? hchild) place inner hbelow

/-- What is no directory has nothing below it. -/
theorem at?_of_not_isDirectory {e x : Entry} {place : List Text} (he : e.isDirectory = false) :
    e.at? place = some x ↔ place = [] ∧ x = e := by
  cases place with
  | nil => simp [at?, eq_comm]
  | cons name place =>
      have hnone : e.child? name = none := by
        cases e with
        | directory entries => cases he
        | _ => rfl
      simp [at?, hnone]

/-- What is no directory lists no names. -/
theorem uniqueNames_of_not_isDirectory {e : Entry} (he : e.isDirectory = false) :
    e.UniqueNames := by
  intro place entries hat
  obtain ⟨_, rfl⟩ := (at?_of_not_isDirectory he).mp hat
  cases he

end Entry

namespace Scan

/-! ## Candidates of one directory -/

variable {f : Filter} {names : List Text} {entries : List (Text × Entry)}

/-- Each entry of a directory has the candidates at and below it for a result. -/
theorem candidatesOfEach_eq_map (f : Filter) (names : List Text) (entries : List (Text × Entry)) :
    candidatesOfEach f names entries =
      entries.map fun entry => (entry.1, candidatesAt f (names ++ [entry.1]) entry.2) := by
  induction entries with
  | nil => rfl
  | cons entry rest ih =>
      obtain ⟨name, e⟩ := entry
      rw [candidatesOfEach, ih]
      rfl

/-- The candidates below a directory at this place, which is entered. -/
def candidatesInside (f : Filter) (names : List Text) (entries : List (Text × Entry)) :
    List (List Text) :=
  (byName (candidatesOfEach f names entries)).flatMap (·.2)

theorem candidates_eq_inside (f : Filter) (entries : List (Text × Entry)) :
    candidates f entries = candidatesInside f [] entries := rfl

/-- A directory that is not entered has no candidates, whatever is below it. -/
theorem candidatesAt_directory (f : Filter) (names : List Text) (entries : List (Text × Entry)) :
    candidatesAt f names (.directory entries) =
      if f.enters names then candidatesInside f names entries else [] := by
  rw [candidatesAt]
  rfl

/-- What is no directory is a candidate itself or nothing. -/
theorem candidatesAt_of_not_isDirectory {e : Entry} (he : e.isDirectory = false)
    (f : Filter) (names : List Text) :
    candidatesAt f names e = if f.accepts names then [names] else [] := by
  cases e with
  | directory entries => cases he
  | _ => simp [candidatesAt]

/-- Sorting loses no result and adds none. -/
theorem byName_perm {α : Type} (results : List (Text × α)) : (byName results).Perm results :=
  List.mergeSort_perm results _

/-- The results of entries with different names come in the order of their names. -/
theorem pairwise_byName {α : Type} {results : List (Text × α)}
    (h : (results.map (·.1)).Nodup) : (byName results).Pairwise fun a b => a.1 < b.1 := by
  have hsorted : (byName results).Pairwise fun a b => Text.le a.1 b.1 = true := by
    apply List.pairwise_mergeSort
    · intro a b c hab hbc
      exact Text.le_trans hab hbc
    · intro a b
      exact Text.le_total a.1 b.1
  have hnodup : ((byName results).map (·.1)).Nodup := ((byName_perm results).map _).nodup_iff.mpr h
  refine hsorted.imp₂ ?_ (List.pairwise_map.mp hnodup)
  intro a b hle hne
  exact (Text.le_iff.mp hle).resolve_left hne

/-- The results that are sorted are those of the entries. -/
theorem mem_byName_candidatesOfEach {result : Text × List (List Text)} :
    result ∈ byName (candidatesOfEach f names entries) ↔
      ∃ entry ∈ entries, (entry.1, candidatesAt f (names ++ [entry.1]) entry.2) = result := by
  rw [(byName_perm _).mem_iff, candidatesOfEach_eq_map, List.mem_map]

/-- The candidates below a directory are those at and below its entries. -/
theorem mem_candidatesInside {found : List Text} :
    found ∈ candidatesInside f names entries ↔
      ∃ entry ∈ entries, found ∈ candidatesAt f (names ++ [entry.1]) entry.2 := by
  rw [candidatesInside, List.mem_flatMap]
  constructor
  · rintro ⟨result, hresult, hfound⟩
    obtain ⟨entry, hentry, rfl⟩ := mem_byName_candidatesOfEach.mp hresult
    exact ⟨entry, hentry, hfound⟩
  · rintro ⟨entry, hentry, hfound⟩
    exact ⟨_, mem_byName_candidatesOfEach.mpr ⟨entry, hentry, rfl⟩, hfound⟩

/-! ## Which files are candidates -/

/-- The names `below` lead from the entry at the place `names` to a file that is accepted,
through directories that are all entered. -/
structure LeadsToFile (f : Filter) (e : Entry) (names below : List Text) : Prop where
  isFile : ∃ x, e.at? below = some x ∧ x.isDirectory = false
  accepted : f.accepts (names ++ below) = true
  entered : ∀ above, above <+: below → above ≠ below → f.enters (names ++ above) = true

/-- The way to a file below a directory leads through the directory and one of its entries. -/
theorem leadsToFile_directory_iff {below : List Text} :
    LeadsToFile f (.directory entries) names below ↔
      f.enters names = true ∧ ∃ name rest child, below = name :: rest ∧
        (Entry.directory entries).child? name = some child ∧
        LeadsToFile f child (names ++ [name]) rest := by
  constructor
  · rintro ⟨⟨x, hat, hx⟩, haccepted, hentered⟩
    cases below with
    | nil =>
        cases hat
        cases hx
    | cons name rest =>
        rw [Entry.at?_cons_directory] at hat
        obtain ⟨child, hchild, hat⟩ := Option.bind_eq_some_iff.mp hat
        have hhere := hentered [] List.nil_prefix (List.cons_ne_nil name rest).symm
        refine ⟨by simpa using hhere, name, rest, child, rfl, hchild, ⟨x, hat, hx⟩,
          by simpa using haccepted, ?_⟩
        intro above habove hne
        have hnext := hentered (name :: above) (List.cons_prefix_cons.mpr ⟨rfl, habove⟩)
          (fun heq => hne (List.cons.inj heq).2)
        simpa using hnext
  · rintro ⟨hhere, name, rest, child, rfl, hchild, ⟨x, hat, hx⟩, haccepted, hentered⟩
    refine ⟨⟨x, ?_, hx⟩, by simpa using haccepted, ?_⟩
    · rw [Entry.at?_cons_directory, hchild]
      exact hat
    · intro above habove hne
      cases above with
      | nil => simpa using hhere
      | cons name' above =>
          obtain ⟨rfl, hbelow⟩ := List.cons_prefix_cons.mp habove
          have hnext := hentered above hbelow (fun heq => hne (by rw [heq]))
          simpa using hnext

/-- What leads to the files below each entry of a directory leads to those below the
directory. -/
theorem mem_candidatesInside_iff (hnodup : (entries.map (·.1)).Nodup)
    (heach : ∀ entry ∈ entries, ∀ names found, found ∈ candidatesAt f names entry.2 ↔
      ∃ below, found = names ++ below ∧ LeadsToFile f entry.2 names below)
    (names found : List Text) :
    found ∈ candidatesInside f names entries ↔
      ∃ name rest child, found = names ++ name :: rest ∧
        (Entry.directory entries).child? name = some child ∧
        LeadsToFile f child (names ++ [name]) rest := by
  rw [mem_candidatesInside]
  constructor
  · rintro ⟨⟨name, child⟩, hentry, hfound⟩
    obtain ⟨rest, rfl, hleads⟩ := (heach _ hentry _ _).mp hfound
    exact ⟨name, rest, child, by simp, Entry.child?_of_mem hnodup hentry, hleads⟩
  · rintro ⟨name, rest, child, rfl, hchild, hleads⟩
    have hentry := Entry.mem_of_child? hchild
    exact ⟨_, hentry, (heach _ hentry _ _).mpr ⟨rest, by simp, hleads⟩⟩

/-- **The candidates at and below an entry** are what the names below it lead to. -/
theorem mem_candidatesAt {e : Entry} (h : e.UniqueNames) (names found : List Text) :
    found ∈ candidatesAt f names e ↔
      ∃ below, found = names ++ below ∧ LeadsToFile f e names below := by
  induction e using Entry.induction generalizing names found with
  | other e he =>
      rw [candidatesAt_of_not_isDirectory he]
      constructor
      · intro hfound
        split at hfound
        · next haccepts =>
          rw [List.mem_singleton] at hfound
          refine ⟨[], by rw [hfound, List.append_nil], ⟨e, rfl, he⟩, ?_, ?_⟩
          · rw [List.append_nil]
            exact haccepts
          · intro above habove hne
            exact absurd (List.prefix_nil.mp habove) hne
        · cases hfound
      · rintro ⟨below, rfl, ⟨x, hat, _⟩, haccepted, _⟩
        obtain ⟨rfl, _⟩ := (Entry.at?_of_not_isDirectory he).mp hat
        rw [List.append_nil] at haccepted ⊢
        rw [if_pos haccepted]
        exact List.mem_singleton_self names
  | directory entries ih =>
      obtain ⟨hnodup, hchildren⟩ := Entry.uniqueNames_directory_iff.mp h
      have hinside := mem_candidatesInside_iff hnodup
        (fun entry hentry => ih entry hentry (hchildren entry hentry)) names found
      rw [candidatesAt_directory]
      constructor
      · intro hfound
        split at hfound
        · next henters =>
          obtain ⟨name, rest, child, rfl, hchild, hleads⟩ := hinside.mp hfound
          exact ⟨_, rfl, leadsToFile_directory_iff.mpr
            ⟨henters, name, rest, child, rfl, hchild, hleads⟩⟩
        · cases hfound
      · rintro ⟨below, rfl, hleads⟩
        obtain ⟨henters, name, rest, child, rfl, hchild, hleads⟩ :=
          leadsToFile_directory_iff.mp hleads
        rw [if_pos henters]
        exact hinside.mpr ⟨name, rest, child, rfl, hchild, hleads⟩

/-- The names lead from the root to a candidate: a file with one of the extensions that is not
excluded, below no directory that is excluded.  The root itself is never excluded. -/
structure IsCandidate (f : Filter) (entries : List (Text × Entry)) (names : List Text) :
    Prop where
  isFile : ∃ e, (Entry.directory entries).at? names = some e ∧ e.isDirectory = false
  hasExtension : ∃ extension ∈ f.extensions, extension <:+ names.getLast?.getD []
  notExcluded : Exclusion.isExcluded f.rules (Filter.rulePath names) false = false
  noneAbove : ∀ above, above ≠ [] → above <+: names → above ≠ names →
    Exclusion.isExcluded f.rules (Filter.rulePath above) true = false

/-- A file is accepted for its extension unless a rule excludes it. -/
theorem accepts_iff :
    f.accepts names = true ↔
      (∃ extension ∈ f.extensions, extension <:+ names.getLast?.getD []) ∧
        Exclusion.isExcluded f.rules (Filter.rulePath names) false = false := by
  simp [Filter.accepts, Filter.hasExtension]

/-- A directory is entered unless a rule excludes it. -/
theorem enters_iff :
    f.enters names = true ↔ Exclusion.isExcluded f.rules (Filter.rulePath names) true = false := by
  simp [Filter.enters]

/-- **Nothing else and nothing less.**  The candidates below a directory are all files that
may be candidates, by what they and the directories above them are called. -/
theorem mem_candidates_iff (h : (Entry.directory entries).UniqueNames) (found : List Text) :
    found ∈ candidates f entries ↔ IsCandidate f entries found := by
  obtain ⟨hnodup, hchildren⟩ := Entry.uniqueNames_directory_iff.mp h
  rw [candidates_eq_inside, mem_candidatesInside_iff hnodup
    (fun entry hentry => mem_candidatesAt (hchildren entry hentry))]
  constructor
  · rintro ⟨name, rest, child, rfl, hchild, ⟨x, hat, hx⟩, haccepted, hentered⟩
    obtain ⟨hextension, hexcluded⟩ := accepts_iff.mp haccepted
    refine ⟨⟨x, ?_, hx⟩, hextension, hexcluded, ?_⟩
    · rw [List.nil_append, Entry.at?_cons_directory, hchild]
      exact hat
    · intro above hnil habove hne
      obtain ⟨name', above, rfl⟩ := List.exists_cons_of_ne_nil hnil
      obtain ⟨rfl, hbelow⟩ := List.cons_prefix_cons.mp habove
      exact enters_iff.mp (hentered above hbelow fun heq => hne (by rw [heq]; rfl))
  · rintro ⟨⟨x, hat, hx⟩, hextension, hexcluded, habove⟩
    cases found with
    | nil =>
        cases hat
        cases hx
    | cons name rest =>
        rw [Entry.at?_cons_directory] at hat
        obtain ⟨child, hchild, hat⟩ := Option.bind_eq_some_iff.mp hat
        refine ⟨name, rest, child, rfl, hchild, ⟨x, hat, hx⟩,
          accepts_iff.mpr ⟨hextension, hexcluded⟩, ?_⟩
        intro above hbelow hne
        exact enters_iff.mpr (habove _ (List.cons_ne_nil name above)
          (List.cons_prefix_cons.mpr ⟨rfl, hbelow⟩) fun heq => hne (List.cons.inj heq).2)

/-! ## Their order -/

/-- The candidates below a directory are in order if those below each of its entries are: they
are told apart by the name of the entry. -/
theorem pairwise_candidatesInside (hnodup : (entries.map (·.1)).Nodup)
    (hchildren : ∀ entry ∈ entries, entry.2.UniqueNames)
    (heach : ∀ entry ∈ entries, ∀ names, (candidatesAt f names entry.2).Pairwise (· < ·))
    (names : List Text) : (candidatesInside f names entries).Pairwise (· < ·) := by
  rw [candidatesInside, List.pairwise_flatMap]
  constructor
  · intro result hresult
    obtain ⟨entry, hentry, rfl⟩ := mem_byName_candidatesOfEach.mp hresult
    exact heach entry hentry _
  · have hnames : ((candidatesOfEach f names entries).map (·.1)).Nodup := by
      rw [candidatesOfEach_eq_map, List.map_map]
      exact hnodup
    refine (pairwise_byName hnames).imp_of_mem ?_
    intro a b ha hb hlt x hx y hy
    obtain ⟨entry, hentry, rfl⟩ := mem_byName_candidatesOfEach.mp ha
    obtain ⟨entry', hentry', rfl⟩ := mem_byName_candidatesOfEach.mp hb
    obtain ⟨below, rfl, _⟩ := (mem_candidatesAt (hchildren entry hentry) _ _).mp hx
    obtain ⟨below', rfl, _⟩ := (mem_candidatesAt (hchildren entry' hentry') _ _).mp hy
    rw [List.append_assoc, List.append_assoc]
    exact List.append_left_lt (List.cons_lt_cons_iff.mpr (Or.inl hlt))

/-- The candidates at and below an entry are in order, by induction along the tree. -/
theorem pairwise_candidatesAt {e : Entry} (h : e.UniqueNames) (names : List Text) :
    (candidatesAt f names e).Pairwise (· < ·) := by
  induction e using Entry.induction generalizing names with
  | other e he =>
      rw [candidatesAt_of_not_isDirectory he]
      split
      · exact List.pairwise_singleton _ names
      · exact List.Pairwise.nil
  | directory entries ih =>
      obtain ⟨hnodup, hchildren⟩ := Entry.uniqueNames_directory_iff.mp h
      rw [candidatesAt_directory]
      split
      · exact pairwise_candidatesInside hnodup hchildren
          (fun entry hentry => ih entry hentry (hchildren entry hentry)) names
      · exact List.Pairwise.nil

/-- **The order of the candidates** is that of the names that lead to them. -/
theorem pairwise_candidates (h : (Entry.directory entries).UniqueNames) :
    (candidates f entries).Pairwise (· < ·) := by
  obtain ⟨hnodup, hchildren⟩ := Entry.uniqueNames_directory_iff.mp h
  exact pairwise_candidatesInside hnodup hchildren
    (fun entry hentry => pairwise_candidatesAt (hchildren entry hentry)) []

end Scan

end MarkupCatalog
