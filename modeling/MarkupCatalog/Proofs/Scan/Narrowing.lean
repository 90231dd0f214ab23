import Mathlib.Data.List.Flatten
import MarkupCatalog.Proofs.Scan.Candidate
import MarkupCatalog.Proofs.Text.Strip

/-!
# What one more exclusion pattern does

The last rule that applies to an entry decides about it.  A rule at the end of the list can
therefore only exclude more or, if it is negated, only exclude less, whatever the rules before it
say (`excludesMore_concat`, `excludesMore_of_readmits`).  A walk that is told to exclude more finds
a part of what it would find otherwise, in the same order (`candidates_sublist`).  This goes by
induction along the tree, since a directory that is left out takes all that is below it with it.
-/

namespace MarkupCatalog

namespace Exclusion

/-! ## Patterns -/

/-- Does the pattern make no rule, since it is blank or a comment? -/
def isRemark (pattern : Text) : Bool :=
  Text.isAllBlank pattern || Text.startsWith '#' (Text.strip pattern)

/-- Does the pattern take entries back in? -/
def readmits (pattern : Text) : Bool := Text.startsWith '!' (Text.strip pattern)

theorem ofPattern?_eq_none_iff {pattern : Text} :
    Rule.ofPattern? pattern = none ↔ isRemark pattern = true := by
  rw [isRemark, Bool.or_eq_true, ← Text.strip_eq_nil_iff, ← List.isEmpty_iff, ← Bool.or_eq_true]
  unfold Rule.ofPattern?
  simp only
  split
  · next hremark => exact iff_of_true rfl hremark
  · next hrule => exact iff_of_false nofun hrule

theorem negated_of_ofPattern? {pattern : Text} {rule : Rule}
    (h : Rule.ofPattern? pattern = some rule) : rule.negated = readmits pattern := by
  unfold Rule.ofPattern? at h
  simp only at h
  split at h
  · cases h
  · cases h
    rfl

/-- **Remarks make no difference** to the rules. -/
theorem rules_filter_isRemark (patterns : List Text) :
    rules (patterns.filter (!isRemark ·)) = rules patterns := by
  rw [rules, List.filterMap_filter]
  refine List.filterMap_congr fun pattern _ => ?_
  cases h : isRemark pattern with
  | true => simp [ofPattern?_eq_none_iff.mpr h]
  | false => simp

theorem rules_concat (patterns : List Text) (pattern : Text) :
    rules (patterns ++ [pattern]) = rules patterns ++ (Rule.ofPattern? pattern).toList := by
  rw [rules, List.filterMap_append, rules]
  cases h : Rule.ofPattern? pattern <;> simp [h]

/-! ## Decisions -/

/-- The last rule decides where it applies. -/
theorem isExcluded_concat (rules : List Rule) (rule : Rule) (path : Text) (isDirectory : Bool) :
    isExcluded (rules ++ [rule]) path isDirectory =
      if rule.applies path isDirectory then !rule.negated
      else isExcluded rules path isDirectory := by
  rw [isExcluded, List.foldl_concat, isExcluded]

/-- Whatever the first rules exclude is excluded by the others too. -/
def ExcludesMore (rules others : List Rule) : Prop :=
  ∀ path isDirectory, isExcluded rules path isDirectory = true →
    isExcluded others path isDirectory = true

/-- **One more pattern** excludes more if it takes nothing back in. -/
theorem excludesMore_concat (patterns : List Text) {pattern : Text}
    (h : readmits pattern = false) :
    ExcludesMore (rules patterns) (rules (patterns ++ [pattern])) := by
  intro path isDirectory hexcluded
  rw [rules_concat]
  cases hrule : Rule.ofPattern? pattern with
  | none => simpa using hexcluded
  | some rule =>
      rw [Option.toList_some, isExcluded_concat, negated_of_ofPattern? hrule, h, hexcluded]
      exact ite_self _

/-- **One more pattern** excludes less if it takes entries back in. -/
theorem excludesMore_of_readmits (patterns : List Text) {pattern : Text}
    (h : readmits pattern = true) :
    ExcludesMore (rules (patterns ++ [pattern])) (rules patterns) := by
  intro path isDirectory hexcluded
  rw [rules_concat] at hexcluded
  cases hrule : Rule.ofPattern? pattern with
  | none => simpa [hrule] using hexcluded
  | some rule =>
      rw [hrule, Option.toList_some, isExcluded_concat, negated_of_ofPattern? hrule, h] at hexcluded
      split at hexcluded
      · cases hexcluded
      · exact hexcluded

end Exclusion

namespace Scan

open Exclusion

variable {f g : Filter}

/-! ## Walks -/

/-- The filter lets through no entry that the other one does not let through. -/
structure Filter.Within (f g : Filter) : Prop where
  accepts : ∀ names, f.accepts names = true → g.accepts names = true
  enters : ∀ names, f.enters names = true → g.enters names = true

theorem Filter.within_of_excludesMore {extensions : List Text} {rules others : List Rule}
    (h : ExcludesMore rules others) : Filter.Within ⟨extensions, others⟩ ⟨extensions, rules⟩ where
  accepts names haccepts := by
    obtain ⟨hextension, hexcluded⟩ := accepts_iff.mp haccepts
    refine accepts_iff.mpr ⟨hextension, Bool.eq_false_iff.mpr fun hbefore => ?_⟩
    exact Bool.eq_false_iff.mp hexcluded (h _ _ hbefore)
  enters names henters := by
    have hexcluded := enters_iff.mp henters
    refine enters_iff.mpr (Bool.eq_false_iff.mpr fun hbefore => ?_)
    exact Bool.eq_false_iff.mp hexcluded (h _ _ hbefore)

/-- The entries of a directory are put in order before it is known what is found at them. -/
theorem candidatesInside_eq_flatMap (f : Filter) (names : List Text)
    (entries : List (Text × Entry)) :
    candidatesInside f names entries =
      (byName entries).flatMap fun entry => candidatesAt f (names ++ [entry.1]) entry.2 := by
  rw [candidatesInside, candidatesOfEach_eq_map, byName,
    ← List.map_mergeSort (r := fun a b => Text.le a.1 b.1) fun _ _ _ _ => rfl, List.flatMap_map,
    byName]

theorem candidatesInside_sublist {entries : List (Text × Entry)}
    (h : ∀ entry ∈ entries, ∀ names,
      (candidatesAt f names entry.2).Sublist (candidatesAt g names entry.2)) (names : List Text) :
    (candidatesInside f names entries).Sublist (candidatesInside g names entries) := by
  rw [candidatesInside_eq_flatMap, candidatesInside_eq_flatMap]
  refine List.Sublist.flatMap_right _ fun entry hentry => ?_
  exact h entry ((byName_perm entries).mem_iff.mp hentry) _

/-- **What is found at and below an entry** is a part of what a wider filter finds there. -/
theorem candidatesAt_sublist (h : f.Within g) (e : Entry) (names : List Text) :
    (candidatesAt f names e).Sublist (candidatesAt g names e) := by
  induction e using Entry.induction generalizing names with
  | other e he =>
      rw [candidatesAt_of_not_isDirectory he, candidatesAt_of_not_isDirectory he]
      split
      · next haccepts => rw [if_pos (h.accepts names haccepts)]
      · exact List.nil_sublist _
  | directory entries ih =>
      rw [candidatesAt_directory, candidatesAt_directory]
      split
      · next henters =>
        rw [if_pos (h.enters names henters)]
        exact candidatesInside_sublist ih names
      · exact List.nil_sublist _

/-- **The walk through a whole tree.** -/
theorem candidates_sublist (h : f.Within g) (entries : List (Text × Entry)) :
    (candidates f entries).Sublist (candidates g entries) := by
  rw [candidates_eq_inside, candidates_eq_inside]
  exact candidatesInside_sublist (fun entry _ => candidatesAt_sublist h entry.2) []

/-! ## Lists of patterns -/

/-- **More patterns, fewer candidates.**  One more pattern leaves candidates out and neither adds
any nor changes their order; one that takes entries back in does the opposite; and remarks, wherever
they stand among the patterns, make no difference. -/
theorem candidates_concat_and_remarks (extensions patterns : List Text)
    (entries : List (Text × Entry)) :
    (∀ pattern, readmits pattern = false →
      (candidates (.ofPatterns extensions (patterns ++ [pattern])) entries).Sublist
        (candidates (.ofPatterns extensions patterns) entries)) ∧
    (∀ pattern, readmits pattern = true →
      (candidates (.ofPatterns extensions patterns) entries).Sublist
        (candidates (.ofPatterns extensions (patterns ++ [pattern])) entries)) ∧
    ∀ others : List Text, others.filter (!isRemark ·) = patterns.filter (!isRemark ·) →
      candidates (.ofPatterns extensions others) entries =
        candidates (.ofPatterns extensions patterns) entries := by
  refine ⟨fun pattern h => ?_, fun pattern h => ?_, fun others h => ?_⟩
  · exact candidates_sublist
      (Filter.within_of_excludesMore (excludesMore_concat patterns h)) entries
  · exact candidates_sublist
      (Filter.within_of_excludesMore (excludesMore_of_readmits patterns h)) entries
  · rw [Filter.ofPatterns, Filter.ofPatterns, ← rules_filter_isRemark others, h,
      rules_filter_isRemark]

/-- A tree with drafts in one of its directories. -/
def draftTree : List (Text × Entry) :=
  [("index.html", .file []),
    ("docs", .directory [("draft", .directory [("b.html", .file [])]), ("a.html", .file [])])]

/-- The candidates of the tree under exclusion patterns. -/
def draftCandidates (patterns : List Text) : List (List Text) :=
  candidates (.ofPatterns [".html"] patterns) draftTree

/-- Of the two candidates beside the drafts, one is lost if the documents are left out; the draft is
the third if it is taken back in; and they stay the same whatever is remarked about them. -/
theorem candidates_concat_and_remarks_draftTree :
    ((draftCandidates ["draft/", " /docs"]).Sublist (draftCandidates ["draft/"]) ∧
      (draftCandidates ["draft/", " /docs"]).length = 1) ∧
    ((draftCandidates ["draft/"]).Sublist (draftCandidates ["draft/", " !draft"]) ∧
      (draftCandidates ["draft/", " !draft"]).length = 3) ∧
    draftCandidates ["# drafts", "draft/", " "] = draftCandidates ["draft/"] ∧
    (draftCandidates ["draft/"]).length = 2 := by
  obtain ⟨hfewer, hmore, hsame⟩ := candidates_concat_and_remarks [".html"] ["draft/"] draftTree
  refine ⟨⟨hfewer _ (by decide), ?_⟩, ⟨hmore _ (by decide), ?_⟩, hsame _ (by decide), ?_⟩
  · cbv
  · cbv
  · cbv

end Scan

end MarkupCatalog
