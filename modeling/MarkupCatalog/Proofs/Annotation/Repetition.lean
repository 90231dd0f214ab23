import Mathlib.Data.List.Basic
import MarkupCatalog.Proofs.Annotation.NormalForm

/-!
# Keys that come up more than once

A header gives a list of pairs, line by line, and a key may come up in it any number of times; even
the name on the keyword's own line may be given again by a later line.  What the metadata holds in
the end can be said without the loop that sets one key after the other: it sums the pairs up
(`SumsUp`), and nothing else does (`SumsUp.unique`).  The order of the entries is decided by the
first pairs with their keys, and their values by the last ones.

The loop keeps this pair by pair (`SumsUp.insert`).  A line that gives no pair has no part in it.
-/

namespace MarkupCatalog.Metadata

variable {m pairs : Metadata} {key value : Text} {entry pair : Text × Text}

/-! ## What pairs come to -/

/-- The pair is one of the pairs, and the last one with its key. -/
def IsLastIn (pair : Text × Text) (pairs : List (Text × Text)) : Prop :=
  ∃ before after, pairs = before ++ pair :: after ∧ pair.1 ∉ keys after

/-- The metadata has each key of the pairs once, in the order in which the keys come up first, and
each with the value that comes up last. -/
structure SumsUp (m : Metadata) (pairs : List (Text × Text)) : Prop where
  nodup : m.keys.Nodup
  mem_keys : ∀ key, key ∈ m.keys ↔ key ∈ keys pairs
  ordered : m.keys.Pairwise fun a b => (keys pairs).idxOf a < (keys pairs).idxOf b
  last : ∀ entry, entry ∈ m ↔ IsLastIn entry pairs

/-- **Pairs are summed up in one way only.** -/
theorem SumsUp.unique {other : Metadata} (h : SumsUp m pairs) (hother : SumsUp other pairs) :
    m = other := by
  have hperm : m.Perm other :=
    (List.perm_ext_iff_of_nodup (h.nodup.of_map _) (hother.nodup.of_map _)).mpr fun entry =>
      (h.last entry).trans (hother.last entry).symm
  have hordered {m : Metadata} (h : SumsUp m pairs) :
      m.Pairwise fun a b => (keys pairs).idxOf a.1 < (keys pairs).idxOf b.1 := by
    have hkeys : (m.map (·.1)).Pairwise fun a b => (keys pairs).idxOf a < (keys pairs).idxOf b :=
      h.ordered
    rwa [List.pairwise_map] at hkeys
  refine hperm.eq_of_pairwise ?_ (hordered h) (hordered hother)
  intro a b _ _ hab hba
  omega

/-! ## One more pair -/

/-- A key that is there already keeps its place. -/
theorem keys_insert_of_mem (h : key ∈ m.keys) : (m.insert key value).keys = m.keys := by
  induction m with
  | nil => cases h
  | cons first rest ih =>
      obtain ⟨k, v⟩ := first
      rw [insert]
      split
      · rfl
      · next hk =>
        have hrest := (List.mem_cons.mp h).resolve_left (Ne.symm hk)
        exact congrArg (k :: ·) (ih hrest)

/-- A key takes its new value, and the other entries stay. -/
theorem mem_insert_iff (hnodup : m.keys.Nodup) :
    entry ∈ m.insert key value ↔ entry = (key, value) ∨ entry.1 ≠ key ∧ entry ∈ m := by
  induction m with
  | nil => simp [insert]
  | cons first rest ih =>
      obtain ⟨k, v⟩ := first
      obtain ⟨hnew, hrest⟩ := List.nodup_cons.mp hnodup
      rw [insert]
      split
      · next hk =>
        subst hk
        have hother : entry ∈ rest → entry.1 ≠ k :=
          fun hmem heq => hnew (List.mem_map.mpr ⟨entry, hmem, heq⟩)
        rw [List.mem_cons, List.mem_cons]
        constructor
        · exact Or.imp_right fun hmem => ⟨hother hmem, .inr hmem⟩
        · rintro (heq | ⟨hne, rfl | hmem⟩)
          · exact .inl heq
          · exact absurd rfl hne
          · exact .inr hmem
      · next hk =>
        rw [List.mem_cons, List.mem_cons, ih hrest]
        constructor
        · rintro (rfl | heq | ⟨hne, hmem⟩)
          · exact .inr ⟨hk, .inl rfl⟩
          · exact .inl heq
          · exact .inr ⟨hne, .inr hmem⟩
        · rintro (heq | ⟨hne, rfl | hmem⟩)
          · exact .inr (.inl heq)
          · exact .inl rfl
          · exact .inr (.inr ⟨hne, hmem⟩)

/-- The pair at the end is the last one with its key. -/
theorem isLastIn_concat :
    IsLastIn entry (pairs ++ [pair]) ↔ entry = pair ∨ entry.1 ≠ pair.1 ∧ IsLastIn entry pairs := by
  constructor
  · rintro ⟨before, after, hsplit, hlast⟩
    rcases List.eq_nil_or_concat' after with rfl | ⟨after, final, rfl⟩
    · obtain ⟨_, hpair⟩ := List.append_inj' hsplit rfl
      exact .inl (List.cons.inj hpair).1.symm
    · rw [← List.cons_append, ← List.append_assoc] at hsplit
      obtain ⟨rfl, hpair⟩ := List.append_inj' hsplit rfl
      cases hpair
      rw [keys, List.map_append, List.mem_append, not_or] at hlast
      exact .inr ⟨fun heq => hlast.2 (List.mem_singleton.mpr heq), before, after, rfl, hlast.1⟩
  · rintro (rfl | ⟨hne, before, after, rfl, hlast⟩)
    · exact ⟨pairs, [], rfl, List.not_mem_nil⟩
    · refine ⟨before, after ++ [pair], by simp, ?_⟩
      rw [keys, List.map_append, List.mem_append, not_or]
      exact ⟨hlast, fun hmem => hne (List.mem_singleton.mp hmem)⟩

/-- **What a pair that is set keeps.** -/
theorem SumsUp.insert (h : SumsUp m pairs) (pair : Text × Text) :
    SumsUp (m.insert pair.1 pair.2) (pairs ++ [pair]) := by
  have hkeys : keys (pairs ++ [pair]) = keys pairs ++ [pair.1] := List.map_append
  -- the keys that were there have the same first places as before
  have hplaces : m.keys.Pairwise fun a b =>
      (keys (pairs ++ [pair])).idxOf a < (keys (pairs ++ [pair])).idxOf b := by
    refine h.ordered.imp_of_mem fun ha hb hlt => ?_
    rwa [hkeys, List.idxOf_append_of_mem ((h.mem_keys _).mp ha),
      List.idxOf_append_of_mem ((h.mem_keys _).mp hb)]
  refine ⟨nodup_keys_insert h.nodup _ _, fun key => ?_, ?_, fun entry => ?_⟩
  · rw [mem_keys_insert, hkeys, List.mem_append, List.mem_singleton, h.mem_keys, or_comm]
  · by_cases hold : pair.1 ∈ m.keys
    · rwa [keys_insert_of_mem hold]
    · have hend : (m.insert pair.1 pair.2).keys = m.keys ++ [pair.1] := by
        rw [insert_of_not_mem_keys hold, keys, List.map_append]
        rfl
      rw [hend]
      refine List.pairwise_append.mpr ⟨hplaces, List.pairwise_singleton _ _, ?_⟩
      intro a ha b hb
      cases List.mem_singleton.mp hb
      have hmem := (h.mem_keys a).mp ha
      have hnew : pair.1 ∉ keys pairs := fun hnew => hold ((h.mem_keys _).mpr hnew)
      rw [hkeys, List.idxOf_append_of_mem hmem, List.idxOf_append_of_notMem hnew]
      have := List.idxOf_lt_length_of_mem hmem
      omega
  · rw [mem_insert_iff h.nodup, isLastIn_concat, h.last]

/-- **All pairs of a list** are summed up when they are set one after the other. -/
theorem SumsUp.insertAll {before : List (Text × Text)} (h : SumsUp m before)
    (pairs : List (Text × Text)) : SumsUp (m.insertAll pairs) (before ++ pairs) := by
  induction pairs generalizing m before with
  | nil => rwa [List.append_nil]
  | cons pair pairs ih =>
      rw [List.append_cons]
      exact ih (h.insert pair)

theorem sumsUp_nil : SumsUp [] [] where
  nodup := List.nodup_nil
  mem_keys _ := Iff.rfl
  ordered := List.Pairwise.nil
  last entry := by
    refine iff_of_false List.not_mem_nil ?_
    rintro ⟨before, after, hsplit, _⟩
    simp at hsplit

/-! ## Headers -/

/-- **What a header comes to.**  Its metadata sums up the pairs of its lines, the name on the first
line among them, and this says all about it.  A line that gives no pair may be put in or taken out
anywhere after the first line. -/
theorem eq_ofHeader_iff_sumsUp_and_skips (header : Text) :
    (∀ m, m = ofHeader header ↔ SumsUp m (headerPairs header)) ∧
    ∀ other first before line after,
      Text.lines header = first :: (before ++ after) →
      Text.lines other = first :: (before ++ line :: after) →
      Annotation.pair? line = none → ofHeader other = ofHeader header := by
  constructor
  · intro m
    have hsum : SumsUp (ofHeader header) (headerPairs header) := sumsUp_nil.insertAll _
    constructor
    · rintro rfl
      exact hsum
    · exact fun h => h.unique hsum
  · intro other first before line after hheader hother hline
    have hsame : headerPairs other = headerPairs header := by
      simp only [headerPairs, hheader, hother, List.filterMap_append,
        List.filterMap_cons_none hline]
    rw [ofHeader, ofHeader, hsame]

/-- A name that is given again, and a line that is no pair. -/
def renamedHeader : Text := " Card\n@since 2\nsee below\n- name: Tile"

/-- What it comes to. -/
def renamedMetadata : Metadata := [("name", "Tile"), ("since", "2")]

/-- The name keeps its place and takes its last value; without the line that is no pair, it is the
same. -/
theorem eq_ofHeader_iff_sumsUp_and_skips_renamedHeader :
    (headerPairs renamedHeader).map (·.1) = [nameKey, "since", nameKey] ∧
    SumsUp renamedMetadata (headerPairs renamedHeader) ∧
    ofHeader renamedHeader = ofHeader " Card\n@since 2\n- name: Tile" := by
  have hvalue : renamedMetadata = ofHeader renamedHeader := by decide
  refine ⟨by decide, ((eq_ofHeader_iff_sumsUp_and_skips renamedHeader).1 _).mp hvalue, ?_⟩
  exact (eq_ofHeader_iff_sumsUp_and_skips " Card\n@since 2\n- name: Tile").2 renamedHeader " Card"
    ["@since 2"] "see below" ["- name: Tile"] (by decide) (by decide) (by decide)

end MarkupCatalog.Metadata
