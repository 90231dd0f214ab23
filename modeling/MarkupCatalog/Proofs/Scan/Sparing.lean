import MarkupCatalog.Proofs.Exclusion.Literal
import MarkupCatalog.Proofs.Scan.Candidate

/-!
# What a literal pattern leaves out

Rules leave a file out when they exclude it, or a directory above it; otherwise they spare it.  A
walk under rules finds what a walk without rules finds and the rules spare, in the same order
(`candidates_eq_filter`).  It is enough to compare members for that, since both walks go in the
order of the names.

For the rule of a literal pattern, this says which names and paths a file must not have:
`spares_name_iff` and `spares_path_iff`.  The tree has to be one that a file system can hold, where
no directory lists a name twice and no name has a slash in it.
-/

namespace MarkupCatalog

/-! ## Names without slashes -/

namespace Entry

/-- No name below the entry holds a slash. -/
def SlashFree (e : Entry) : Prop :=
  ∀ place x, e.at? place = some x → ∀ name ∈ place, '/' ∉ name

theorem slashFree_of_not_isDirectory {e : Entry} (he : e.isDirectory = false) : e.SlashFree := by
  intro place x hat name hname
  obtain ⟨rfl, _⟩ := (at?_of_not_isDirectory he).mp hat
  cases hname

/-- Names without slashes can be told entry by entry. -/
theorem slashFree_directory {entries : List (Text × Entry)}
    (h : ∀ entry ∈ entries, '/' ∉ entry.1 ∧ entry.2.SlashFree) :
    (Entry.directory entries).SlashFree := by
  intro place x hat name hname
  cases place with
  | nil => cases hname
  | cons first below =>
      rw [at?_cons_directory] at hat
      obtain ⟨child, hchild, hbelow⟩ := Option.bind_eq_some_iff.mp hat
      obtain ⟨hfirst, hfree⟩ := h _ (mem_of_child? hchild)
      rcases List.mem_cons.mp hname with rfl | hrest
      · exact hfirst
      · exact hfree below x hbelow name hrest

end Entry

namespace Exclusion

/-- The rules leave the file at this place alone, and every directory above it. -/
structure Spares (rules : List Rule) (found : List Text) : Prop where
  file : isExcluded rules (pathText found) false = false
  above : ∀ above, above ≠ [] → above <+: found → above ≠ found →
    isExcluded rules (pathText above) true = false

end Exclusion

namespace Scan

open Exclusion

variable {extensions names : List Text} {rules : List Rule} {entries : List (Text × Entry)}
  {found : List Text} {d : Text}

/-! ## Any rules -/

/-- A file is a candidate if it is one without the rules and the rules spare it. -/
theorem isCandidate_iff_spares :
    IsCandidate ⟨extensions, rules⟩ entries found ↔
      IsCandidate ⟨extensions, []⟩ entries found ∧ Spares rules found := by
  constructor
  · rintro ⟨hfile, hextension, hexcluded, habove⟩
    exact ⟨⟨hfile, hextension, rfl, fun _ _ _ _ => rfl⟩, hexcluded, habove⟩
  · rintro ⟨⟨hfile, hextension, _, _⟩, hexcluded, habove⟩
    exact ⟨hfile, hextension, hexcluded, habove⟩

/-- No candidate is listed twice. -/
theorem nodup_candidates (h : (Entry.directory entries).UniqueNames) (f : Filter) :
    (candidates f entries).Nodup :=
  (pairwise_candidates h).imp fun hlt heq => by
    rw [heq] at hlt
    exact List.lt_irrefl _ hlt

/-- **Leaving directories out** comes to the same as looking at every candidate alone. -/
theorem candidates_eq_filter (hunique : (Entry.directory entries).UniqueNames)
    (hfree : (Entry.directory entries).SlashFree) {keep : List Text → Bool}
    (h : ∀ found, (∀ name ∈ found, '/' ∉ name) → found ≠ [] →
      (Spares rules found ↔ keep found = true)) :
    candidates ⟨extensions, rules⟩ entries =
      (candidates ⟨extensions, []⟩ entries).filter keep := by
  have hmem (found : List Text) : found ∈ candidates ⟨extensions, rules⟩ entries ↔
      found ∈ (candidates ⟨extensions, []⟩ entries).filter keep := by
    rw [List.mem_filter, mem_candidates_iff hunique, mem_candidates_iff hunique,
      isCandidate_iff_spares]
    refine and_congr_right fun hcandidate => ?_
    obtain ⟨e, hat, he⟩ := hcandidate.isFile
    refine h found (hfree found e hat) ?_
    rintro rfl
    cases hat
    cases he
  have hperm := (List.perm_ext_iff_of_nodup (nodup_candidates hunique _)
    ((nodup_candidates hunique _).filter keep)).mpr hmem
  refine hperm.eq_of_pairwise ?_ (pairwise_candidates hunique)
    ((pairwise_candidates hunique).filter _)
  intro a b _ _ hab hba
  exact absurd (List.lt_trans hab hba) (List.lt_irrefl a)

/-! ## One literal pattern -/

/-- What stands above a file are the beginnings of its names without the last one. -/
theorem prefix_dropLast_iff {above : List Text} (hne : found ≠ []) :
    above <+: found.dropLast ↔ above <+: found ∧ above ≠ found := by
  obtain ⟨front, last, rfl⟩ := (List.eq_nil_or_concat' found).resolve_left hne
  rw [List.dropLast_concat, List.prefix_concat_iff]
  constructor
  · intro h
    refine ⟨.inr h, ?_⟩
    rintro rfl
    have := h.length_le
    rw [List.length_append, List.length_singleton] at this
    omega
  · rintro ⟨heq | hfront, hother⟩
    · exact absurd heq hother
    · exact hfront

variable {anchored directoryOnly : Bool} (hfound : ∀ name ∈ found, '/' ∉ name) (hne : found ≠ [])

include hfound hne

/-- A rule that takes nothing back in spares what it does not apply to. -/
theorem spares_singleton_iff {rule : Rule} (hrule : rule.negated = false)
    {Applies : Bool → List Text → Prop}
    (happlies : ∀ place, (∀ name ∈ place, '/' ∉ name) → place ≠ [] → ∀ isDirectory,
      rule.applies (pathText place) isDirectory = true ↔ Applies isDirectory place) :
    Spares [rule] found ↔
      ¬ Applies false found ∧ ∀ above, above ≠ [] → above <+: found.dropLast →
        ¬ Applies true above := by
  have hexcluded {place : List Text} (hplace : place <+: found) (hne : place ≠ [])
      (isDirectory : Bool) :
      isExcluded [rule] (pathText place) isDirectory = false ↔ ¬ Applies isDirectory place := by
    rw [isExcluded_singleton hrule, Bool.eq_false_iff, ne_eq,
      happlies place (fun name hname => hfound name (hplace.subset hname)) hne]
  have hself := hexcluded (List.prefix_refl found) hne false
  constructor
  · rintro ⟨hfile, habove⟩
    refine ⟨hself.mp hfile, fun above hnonempty hfront => ?_⟩
    obtain ⟨hfront, hother⟩ := (prefix_dropLast_iff hne).mp hfront
    exact (hexcluded hfront hnonempty true).mp (habove above hnonempty hfront hother)
  · rintro ⟨hfile, habove⟩
    refine ⟨hself.mpr hfile, fun above hnonempty hfront hother => ?_⟩
    exact (hexcluded hfront hnonempty true).mpr
      (habove above hnonempty ((prefix_dropLast_iff hne).mpr ⟨hfront, hother⟩))

/-- **A file is spared by the rule of a name** if no name that leads to it is this one, or for
directories, if none before its own is. -/
theorem spares_name_iff (h : IsLiteral [d]) :
    Spares [literalRule false directoryOnly [d]] found ↔
      d ∉ if directoryOnly then found.dropLast else found := by
  rw [spares_singleton_iff hfound hne rfl fun place hplace hne _ =>
    applies_literalRule_name hplace hne h]
  cases directoryOnly with
  | false =>
      simp only [Bool.false_eq_true, false_implies, true_and, if_false]
      refine and_iff_left_of_imp fun hnone above _ hfront habove => hnone ?_
      exact (List.dropLast_sublist found).subset (hfront.subset habove)
  | true =>
      simp only [Bool.false_eq_true, true_implies, false_and, not_false_eq_true, true_and, if_true]
      constructor
      · intro habove hmem
        exact habove _ (List.ne_nil_of_mem hmem) (List.prefix_refl _) hmem
      · intro hnone above _ hfront habove
        exact hnone (hfront.subset habove)

/-- **A file is spared by the rule of a path** if the path does not lead to it or to a directory
above it, or for directories, if it does not lead to a directory above it. -/
theorem spares_path_iff (h : IsLiteral names) (hpath : anchored = true ∨ 2 ≤ names.length) :
    Spares [literalRule anchored directoryOnly names] found ↔
      ¬ names <+: if directoryOnly then found.dropLast else found := by
  rw [spares_singleton_iff hfound hne rfl fun place hplace hne _ =>
    applies_literalRule_path hplace hne h hpath]
  have habove : (∀ above, above ≠ [] → above <+: found.dropLast → ¬ above = names) ↔
      ¬ names <+: found.dropLast := by
    constructor
    · exact fun habove hfront => habove names h.ne_nil hfront rfl
    · rintro hnone above _ hfront rfl
      exact hnone hfront
  cases directoryOnly with
  | false =>
      simp only [Bool.false_eq_true, false_implies, true_and, if_false, habove]
      rw [prefix_dropLast_iff hne, not_and_not_right]
      constructor
      · exact fun ⟨hother, himp⟩ hfront => hother (himp hfront).symm
      · exact fun hnone => ⟨fun heq => hnone (heq ▸ List.prefix_refl _),
          fun hfront => absurd hfront hnone⟩
  | true =>
      simpa only [Bool.false_eq_true, true_implies, false_and, not_false_eq_true, true_and,
        if_true] using habove

omit hfound hne

/-- One literal pattern makes one rule. -/
theorem ofPatterns_literal (h : IsLiteral names) (anchored directoryOnly : Bool) :
    Filter.ofPatterns extensions [literalPattern anchored directoryOnly names] =
      ⟨extensions, [literalRule anchored directoryOnly names]⟩ := by
  rw [Filter.ofPatterns, Exclusion.rules, List.filterMap_cons_some (ofPattern?_literal h _ _)]
  rfl

/-- **What a literal pattern means.**  Take a tree that a file system can hold, and all its
candidates.  A name as a pattern leaves out those that have this name somewhere on their way; with a
slash after it, those that have it before their last name; with a slash before it, those that start
with it.  A path of two or more names leaves out what is at the path or below it, with or without a
slash before it; with a slash after it, what is below it.  All others stay, in their order. -/
theorem candidates_of_isLiteral (hunique : (Entry.directory entries).UniqueNames)
    (hfree : (Entry.directory entries).SlashFree) (extensions : List Text) :
    let all := candidates (.ofPatterns extensions []) entries
    let under (pattern : Text) := candidates (.ofPatterns extensions [pattern]) entries
    (∀ d, IsLiteral [d] →
      under d = all.filter (fun found => d ∉ found) ∧
      under (d ++ ['/']) = all.filter (fun found => d ∉ found.dropLast) ∧
      under ('/' :: d) = all.filter (fun found => found.head? ≠ some d)) ∧
    (∀ q, IsLiteral q → 2 ≤ q.length →
      under (pathText q) = all.filter (fun found => ¬ q <+: found) ∧
      under ('/' :: pathText q) = all.filter (fun found => ¬ q <+: found) ∧
      under (pathText q ++ ['/']) = all.filter (fun found => ¬ (q <+: found ∧ q ≠ found))) := by
  intro all under
  have hname (directoryOnly : Bool) {d : Text} (hd : IsLiteral [d]) :
      under (literalPattern false directoryOnly [d]) =
        all.filter (fun found => d ∉ if directoryOnly then found.dropLast else found) := by
    simp only [under, ofPatterns_literal hd]
    refine candidates_eq_filter hunique hfree fun found hfound hne => ?_
    rw [decide_eq_true_eq]
    exact spares_name_iff hfound hne hd
  have hpath (anchored directoryOnly : Bool) {q : List Text} (hq : IsLiteral q)
      (hwhole : anchored = true ∨ 2 ≤ q.length) {keep : List Text → Bool}
      (hkeep : ∀ found, found ≠ [] →
        ((¬ q <+: if directoryOnly then found.dropLast else found) ↔ keep found = true)) :
      under (literalPattern anchored directoryOnly q) = all.filter keep := by
    simp only [under, ofPatterns_literal hq]
    exact candidates_eq_filter hunique hfree fun found hfound hne =>
      (spares_path_iff hfound hne hq hwhole).trans (hkeep found hne)
  refine ⟨fun d hd => ⟨?_, ?_, ?_⟩, fun q hq hlong => ⟨?_, ?_, ?_⟩⟩
  · simpa [literalPattern, Text.joinWith] using hname false hd
  · simpa [literalPattern, Text.joinWith] using hname true hd
  · have hpattern : '/' :: d = literalPattern true false [d] := by
      simp [literalPattern, Text.joinWith]
    rw [hpattern]
    refine hpath true false hd (.inl rfl) fun found hne => ?_
    obtain ⟨first, rest, rfl⟩ := List.exists_cons_of_ne_nil hne
    simp [List.cons_prefix_cons, @eq_comm _ d]
  · simpa [literalPattern] using hpath false false hq (.inr hlong) (by simp)
  · simpa [literalPattern] using hpath true false hq (.inl rfl) (by simp)
  · refine hpath false true hq (.inr hlong) fun found hne => ?_
    rw [if_pos rfl, prefix_dropLast_iff hne, decide_eq_true_eq]

/-! ### A tree with a name that comes up twice -/

/-- A file and a directory of the same name, at different depths. -/
def draftsTree : List (Text × Entry) :=
  let draft := Entry.directory [("a", .file [])]
  [("index", .file []), ("draft", .file []),
    ("docs", .directory [("draft", draft), ("b", .file [])])]

theorem uniqueNames_draftsTree : (Entry.directory draftsTree).UniqueNames := by
  have hfile : (Entry.file []).UniqueNames := Entry.uniqueNames_of_not_isDirectory rfl
  simp [draftsTree, Entry.uniqueNames_directory_iff, hfile]

theorem slashFree_draftsTree : (Entry.directory draftsTree).SlashFree := by
  have hfile : (Entry.file []).SlashFree := Entry.slashFree_of_not_isDirectory rfl
  refine Entry.slashFree_directory ?_
  refine List.forall_mem_cons.mpr ⟨⟨by decide, hfile⟩, ?_⟩
  refine List.forall_mem_cons.mpr ⟨⟨by decide, hfile⟩, ?_⟩
  refine List.forall_mem_singleton.mpr ⟨by decide, Entry.slashFree_directory ?_⟩
  refine List.forall_mem_cons.mpr ⟨⟨by decide, Entry.slashFree_directory ?_⟩, ?_⟩
  · exact List.forall_mem_singleton.mpr ⟨by decide, hfile⟩
  · exact List.forall_mem_singleton.mpr ⟨by decide, hfile⟩

theorem candidates_of_isLiteral_draftsTree :
    let yields (patterns : List Text) (found : List (List Text)) : Prop :=
      candidates (.ofPatterns [""] patterns) draftsTree = found
    yields [] [["docs", "b"], ["docs", "draft", "a"], ["draft"], ["index"]] ∧
    yields ["draft"] [["docs", "b"], ["index"]] ∧
    yields ["draft/"] [["docs", "b"], ["draft"], ["index"]] ∧
    yields ["/draft"] [["docs", "b"], ["docs", "draft", "a"], ["index"]] ∧
    yields ["docs/draft"] [["docs", "b"], ["draft"], ["index"]] ∧
    yields ["/docs/draft"] [["docs", "b"], ["draft"], ["index"]] ∧
    yields ["docs/draft/"] [["docs", "b"], ["draft"], ["index"]] := by
  intro yields
  have hall : yields [] [["docs", "b"], ["docs", "draft", "a"], ["draft"], ["index"]] := by
    unfold yields
    cbv
  have hplain : ∀ name ∈ ([String.toList "docs", String.toList "draft"] : List Text),
      ∀ c ∈ name, Glob.isWildcard c = false := by
    simp [Glob.isWildcard]
  have hunmarked : ∀ c ∈ some 'd', c ≠ '#' ∧ c ≠ '!' := by simp
  have hdraft : IsLiteral ["draft"] :=
    ⟨by decide, by decide, by decide, fun name hname => hplain name (List.mem_cons_of_mem _ hname),
      by decide, hunmarked⟩
  have hdocs : IsLiteral ["docs", "draft"] :=
    ⟨by decide, by decide, by decide, hplain, by decide, hunmarked⟩
  obtain ⟨hname, hpath⟩ := candidates_of_isLiteral uniqueNames_draftsTree slashFree_draftsTree [""]
  obtain ⟨hanywhere, hdirectory, hfirst⟩ := hname _ hdraft
  obtain ⟨hat, hanchored, hbelow⟩ := hpath _ hdocs (by decide)
  rw [hall] at hanywhere hdirectory hfirst hat hanchored hbelow
  exact ⟨hall, hanywhere.trans (by decide), hdirectory.trans (by decide), hfirst.trans (by decide),
    hat.trans (by decide), hanchored.trans (by decide), hbelow.trans (by decide)⟩

end Scan

end MarkupCatalog
