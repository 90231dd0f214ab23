import MarkupCatalog.Proofs.Annotation.Layout

/-!
# Comments read from left to right

Whether a comment is open at some place can be found out in two ways.  A dialect looks back from
the place for the last opener and then for a closer behind it.  A reader who goes through the
text once, from the left, waits for an opener, then for a closer, then for an opener again.

The two agree if no opener overlaps a closer, and in any case a dialect finds open what the
reader finds open.  What carries the proof is `openBehind_spec`: behind the last delimiter at
which the reader has turned, the delimiter that it waits for does not stand.  It is one statement
for both states of the reader.
-/

namespace MarkupCatalog.Annotation.Dialect

/-! ## The reader -/

/-- The delimiter that a reader waits for: a closer if a comment is open, otherwise an opener. -/
def awaited (d : Dialect) (isOpen : Bool) : Text := if isOpen then d.closing else d.opening

/-- Is a comment open behind the text, for a reader who has found it open or not before the
text?  The number is that of the characters which still belong to the last delimiter. -/
def openBehind (d : Dialect) : Bool → Nat → Text → Bool
  | isOpen, _, [] => isOpen
  | isOpen, skip + 1, _ :: rest => d.openBehind isOpen skip rest
  | isOpen, 0, c :: rest =>
      if (d.awaited isOpen).isPrefixOf (c :: rest) then
        d.openBehind (!isOpen) ((d.awaited isOpen).length - 1) rest
      else d.openBehind isOpen 0 rest

/-- Is a comment open at this offset of the text?  The reader starts in front of the text, and
delimiters that end behind the offset do not count. -/
def isOpenAt (d : Dialect) (text : Text) (i : Nat) : Bool :=
  d.openBehind false 0 (text.take i)

variable {d : Dialect}

/-- **What the reader knows.**  Either it has not turned, and what it waits for does not stand in
the text; or it has turned at some delimiter, and what it waits for does not stand behind that.
The induction is along the text, for both states at once. -/
theorem openBehind_spec (hne : ∀ isOpen, d.awaited isOpen ≠ []) (isOpen : Bool) (skip : Nat)
    (text : Text) {found : Bool} (h : d.openBehind isOpen skip text = found) :
    (isOpen = found ∧ Text.Lacks (d.awaited found) (text.drop skip)) ∨
      ∃ i, Text.OccursAt (d.awaited (!found)) text i ∧
        Text.Lacks (d.awaited found) (text.drop (i + (d.awaited (!found)).length)) := by
  induction text generalizing isOpen skip with
  | nil =>
      left
      refine ⟨h, ?_⟩
      intro i hocc
      rw [List.drop_nil] at hocc
      exact hne found (Text.occursAt_nil.mp hocc).2
  | cons c rest ih =>
      have hlater : (∃ i, Text.OccursAt (d.awaited (!found)) rest i ∧
            Text.Lacks (d.awaited found) (rest.drop (i + (d.awaited (!found)).length))) →
          ∃ i, Text.OccursAt (d.awaited (!found)) (c :: rest) i ∧
            Text.Lacks (d.awaited found) ((c :: rest).drop (i + (d.awaited (!found)).length)) := by
        intro ⟨i, hocc, hlacks⟩
        refine ⟨i + 1, Text.occursAt_cons_succ.mpr hocc, ?_⟩
        rw [Nat.add_right_comm, List.drop_succ_cons]
        exact hlacks
      cases skip with
      | succ skip =>
          obtain ⟨heq, hlacks⟩ | hturned := ih isOpen skip h
          · exact Or.inl ⟨heq, hlacks⟩
          · exact Or.inr (hlater hturned)
      | zero =>
          by_cases hpre : d.awaited isOpen <+: c :: rest
          · have hstep : d.openBehind (!isOpen) ((d.awaited isOpen).length - 1) rest = found := by
              rw [← h]
              simp [openBehind, hpre]
            right
            obtain ⟨heq, hlacks⟩ | hturned := ih _ _ hstep
            · have hback : (!found) = isOpen := by rw [← heq, Bool.not_not]
              have hpos : 0 < (d.awaited isOpen).length := List.length_pos_iff.mpr (hne isOpen)
              have hsucc : 0 + (d.awaited isOpen).length = (d.awaited isOpen).length - 1 + 1 := by
                omega
              refine ⟨0, ?_, ?_⟩
              · rw [hback]
                exact Text.occursAt_zero.mpr hpre
              · rw [hback, hsucc, List.drop_succ_cons]
                exact hlacks
            · exact hlater hturned
          · have hstep : d.openBehind isOpen 0 rest = found := by
              rw [← h]
              simp [openBehind, hpre]
            obtain ⟨heq, hlacks⟩ | hturned := ih _ _ hstep
            · left
              refine ⟨heq, ?_⟩
              intro i hocc
              cases i with
              | zero =>
                  rw [← heq] at hocc
                  exact hpre (Text.occursAt_zero.mp hocc)
              | succ i => exact hlacks i (Text.occursAt_cons_succ.mp hocc)
            · exact Or.inr (hlater hturned)

/-! ## Looking back and reading forward -/

theorem insideComment_iff {before : Text} :
    d.insideComment before = true ↔
      ∃ i, Text.OccursAt d.opening before i ∧ (∀ j, i < j → ¬ Text.OccursAt d.opening before j) ∧
        Text.Lacks d.closing (before.drop (i + d.opening.length)) := by
  unfold insideComment
  constructor
  · intro h
    split at h
    · cases h
    · next i hi =>
      obtain ⟨hocc, hlast⟩ := Text.lastIndex?_eq_some_iff.mp hi
      exact ⟨i, hocc, hlast, Text.lastIndex?_eq_none_iff.mp (Option.isNone_iff_eq_none.mp h)⟩
  · intro ⟨i, hocc, hlast, hlacks⟩
    rw [Text.lastIndex?_eq_some_iff.mpr ⟨hocc, hlast⟩]
    exact Option.isNone_iff_eq_none.mpr (Text.lastIndex?_eq_none_iff.mpr hlacks)

/-- No opener shares a character with a closer. -/
def Apart (d : Dialect) (text : Text) : Prop :=
  ∀ i j, Text.OccursAt d.opening text i → Text.OccursAt d.closing text j →
    i + d.opening.length ≤ j ∨ j + d.closing.length ≤ i

/-- It is enough to look within the text. -/
theorem apart_iff {text : Text} :
    d.Apart text ↔ ∀ i ≤ text.length, ∀ j ≤ text.length, Text.OccursAt d.opening text i →
      Text.OccursAt d.closing text j → i + d.opening.length ≤ j ∨ j + d.closing.length ≤ i :=
  ⟨fun h i _ j _ => h i j, fun h i j hi hj => h i hi.1 j hj.1 hi hj⟩

instance (text : Text) : Decidable (d.Apart text) := decidable_of_iff _ apart_iff.symm

theorem awaited_ne_nil (hopening : d.opening ≠ []) (hclosing : d.closing ≠ []) (isOpen : Bool) :
    d.awaited isOpen ≠ [] := by
  cases isOpen
  · exact hopening
  · exact hclosing

/-- What the reader finds open is open: between its opener and the last one there is no closer,
and neither is there one behind the last. -/
theorem insideComment_of_openBehind (hopening : d.opening ≠ []) (hclosing : d.closing ≠ [])
    {before : Text} (h : d.openBehind false 0 before = true) : d.insideComment before = true := by
  obtain ⟨hfalse, _⟩ | ⟨i, hopen, hlacks⟩ :=
    openBehind_spec (awaited_ne_nil hopening hclosing) false 0 before h
  · cases hfalse
  · have hopen : Text.OccursAt d.opening before i := hopen
    have hlacks : Text.Lacks d.closing (before.drop (i + d.opening.length)) := hlacks
    obtain ⟨k, hk, hocc, hlast⟩ | ⟨_, hnone⟩ := Text.lastIndex?_spec d.opening before
    · have hik : i ≤ k := by
        by_contra hlt
        exact hlast i (by omega) hopen
      refine insideComment_iff.mpr ⟨k, hocc, hlast, ?_⟩
      have hdrop : (before.drop (i + d.opening.length)).drop (k - i)
          = before.drop (k + d.opening.length) := by
        rw [List.drop_drop]
        congr 1
        omega
      rw [← hdrop]
      exact hlacks.drop (k - i)
    · exact absurd hopen (hnone i)

/-- What is open, the reader finds open if delimiters are apart.  Otherwise the last opener would
overlap the closer at which the reader has turned last. -/
theorem openBehind_of_insideComment (hopening : d.opening ≠ []) (hclosing : d.closing ≠ [])
    {before : Text} (hapart : d.Apart before) (h : d.insideComment before = true) :
    d.openBehind false 0 before = true := by
  obtain ⟨k, hopen, _, hclosed⟩ := insideComment_iff.mp h
  by_contra hfound
  obtain ⟨_, hlacks⟩ | ⟨m, hclose, hlacks⟩ :=
    openBehind_spec (awaited_ne_nil hopening hclosing) false 0 before (Bool.eq_false_iff.mpr hfound)
  · exact hlacks k hopen
  · have hclose : Text.OccursAt d.closing before m := hclose
    have hlacks : Text.Lacks d.opening (before.drop (m + d.closing.length)) := hlacks
    obtain hbefore | hbehind := hapart k m hopen hclose
    · have hm : k + d.opening.length + (m - (k + d.opening.length)) = m := by omega
      apply hclosed (m - (k + d.opening.length))
      rw [Text.occursAt_drop hopen.add_length_le, hm]
      exact hclose
    · have hk : m + d.closing.length + (k - (m + d.closing.length)) = k := by omega
      apply hlacks (k - (m + d.closing.length))
      rw [Text.occursAt_drop hclose.add_length_le, hk]
      exact hopen

/-- Delimiters that are apart in a text are apart in every beginning of it. -/
theorem Apart.take {text : Text} (h : d.Apart text) (n : Nat) : d.Apart (text.take n) := by
  intro i j hi hj
  exact h i j (Text.occursAt_take.mp hi).1 (Text.occursAt_take.mp hj).1

/-- **Markers and the reader.**  Among the leftmost keywords that do not overlap, all those are
markers at which the reader finds a comment open, in increasing order; and they are the only
ones if no opener of the text overlaps a closer. -/
theorem markers_eq_filter_isOpenAt (d : Dialect) (text : Text) (hopening : d.opening ≠ [])
    (hclosing : d.closing ≠ []) :
    let keywords := Text.occurrences d.keyword text
    Text.Leftmost d.keyword text keywords ∧
    (d.markers text).Pairwise (· < ·) ∧
    (∀ i ∈ keywords, d.isOpenAt text i = true → i ∈ d.markers text) ∧
    (d.Apart text → d.markers text = keywords.filter (d.isOpenAt text)) := by
  intro keywords
  have hpos : 0 < d.keyword.length := List.length_pos_iff.mpr d.keyword_ne_nil
  refine ⟨Text.leftmost_occurrences d.keyword_ne_nil text, ?_, ?_, ?_⟩
  · apply (d.pairwise_markers text).imp
    intro i j hij
    omega
  · intro i hi hopen
    exact List.mem_filter.mpr ⟨hi, insideComment_of_openBehind hopening hclosing hopen⟩
  · intro hapart
    apply List.filter_congr
    intro i _
    rw [Bool.eq_iff_iff]
    exact ⟨openBehind_of_insideComment hopening hclosing (hapart.take i),
      insideComment_of_openBehind hopening hclosing⟩

/-- Delimiters that may overlap each other. -/
def mirrored : Dialect := ⟨['@'], ['<', '!'], ['!', '<'], by decide⟩

/-- Of three keywords only the second one stands in a comment, which is opened twice. -/
theorem markers_eq_filter_isOpenAt_mirrored :
    mirrored.Apart "@<! <!@ !< @" ∧ mirrored.markers "@<! <!@ !< @" = [6] := by
  have hapart : mirrored.Apart "@<! <!@ !< @" := by decide
  obtain ⟨_, _, _, hmarkers⟩ := markers_eq_filter_isOpenAt mirrored "@<! <!@ !< @" (by decide)
    (by decide)
  exact ⟨hapart, hmarkers hapart⟩

/-- The opener that overlaps the closer counts for the dialect and not for the reader. -/
example : mirrored.markers "<! !<! @" = [7] ∧ mirrored.isOpenAt "<! !<! @" 7 = false := by decide

end MarkupCatalog.Annotation.Dialect
