import Mathlib.Data.List.Chain
import MarkupCatalog.Annotation.Block
import MarkupCatalog.Proofs.Text.Occurrence

/-!
# How blocks lie in a text

Every block is a stretch of its text, word for word, behind its keyword; two blocks that
follow each other do not overlap; and what lies between them is nothing at all, or the
beginning of the comment that the second keyword stands in.

The key fact is `insideComment_append_of_lastIndex?`: the opener at which a block is cut
is the very one that makes the next keyword a marker, so no closer can stand between the
two.
-/

namespace MarkupCatalog.Annotation

/-! ## Terminators lie within their region -/

theorem lineBreak?_length {text rest : Text} {n : Nat}
    (h : lineBreak? text = some (n, rest)) : text.length = n + rest.length := by
  unfold lineBreak? at h
  split at h
  · cases h
    simp only [List.length_cons]
    omega
  · cases h
    simp only [List.length_cons]
    omega
  · cases h

/-- Only two characters start a line end. -/
theorem lineBreak?_cons_of_ne {c : Char} (hreturn : c ≠ '\r') (hfeed : c ≠ '\n') (t : Text) :
    lineBreak? (c :: t) = none := by
  unfold lineBreak?
  split
  · next heq => exact absurd (List.cons.inj heq).1 hfeed
  · next heq => exact absurd (List.cons.inj heq).1 hreturn
  · rfl

theorem blankLineLength?_le {text : Text} {n : Nat}
    (h : blankLineLength? text = some n) : n ≤ text.length := by
  simp only [blankLineLength?, Option.bind_eq_bind, Option.bind_eq_some_iff] at h
  obtain ⟨⟨first, rest⟩, hfirst, ⟨second, rest'⟩, hsecond, hn⟩ := h
  have hlen := lineBreak?_length hfirst
  have hlen' : (rest.dropWhile isSpaceOrTab).length = second + rest'.length :=
    lineBreak?_length hsecond
  have hsplit : (rest.takeWhile isSpaceOrTab).length + (rest.dropWhile isSpaceOrTab).length
      = rest.length := by
    rw [← List.length_append, List.takeWhile_append_dropWhile]
  have heq : first + (rest.takeWhile isSpaceOrTab).length + second = n := by
    simpa using hn
  omega

theorem findBlankLine?_le {text : Text} {i j : Nat}
    (h : findBlankLine? text = some (i, j)) : j ≤ text.length := by
  induction text generalizing i j with
  | nil => cases h
  | cons c rest ih =>
      simp only [findBlankLine?] at h
      split at h
      · next n hn =>
        cases h
        exact blankLineLength?_le hn
      · obtain ⟨⟨i', j'⟩, hrest, heq⟩ := Option.map_eq_some_iff.mp h
        cases heq
        exact Nat.succ_le_succ (ih hrest)

namespace Dialect

variable {d : Dialect}

theorem findClosing?_le {region : Text} {i j : Nat}
    (h : d.findClosing? region = some (i, j)) : j ≤ region.length := by
  obtain ⟨k, hk, heq⟩ := Option.map_eq_some_iff.mp h
  cases heq
  exact (Text.firstIndex?_eq_some_iff.mp hk).1.add_length_le

/-- A terminator ends within the region that it was looked for in. -/
theorem terminator?_le {region : Text} {headerEnd blockStart : Nat}
    (h : d.terminator? region = some (headerEnd, blockStart)) :
    blockStart ≤ region.length := by
  unfold terminator? at h
  split at h
  · next closed blank hclosed hblank =>
    have hc : closed.2 ≤ region.length := findClosing?_le hclosed
    have hb : blank.2 ≤ region.length := findBlankLine?_le hblank
    have heq : earlier closed blank = (headerEnd, blockStart) := Option.some.inj h
    unfold earlier at heq
    split at heq
    · rwa [heq] at hc
    · rwa [heq] at hb
  · next closed hclosed _ =>
    cases h
    exact findClosing?_le hclosed
  · exact findBlankLine?_le h

/-! ## The gap between two blocks -/

/-- What may lie between a block and the keyword after it: nothing, or a comment opener
with neither a closer nor a further opener behind it. -/
def IsGap (d : Dialect) (gap : Text) : Prop :=
  gap = [] ∨
    (d.opening <+: gap ∧ Text.Lacks d.closing (gap.drop d.opening.length) ∧
      ∀ j, 0 < j → ¬ Text.OccursAt d.opening gap j)

/-- The last opener of the part behind `front` decides whether a comment is open at the
end of the whole. -/
theorem insideComment_append_of_lastIndex? {front rest : Text} {i : Nat}
    (hi : Text.lastIndex? d.opening rest = some i) :
    d.insideComment (front ++ rest)
      = (Text.lastIndex? d.closing (rest.drop (i + d.opening.length))).isNone := by
  have hdrop : (front ++ rest).drop (front.length + i + d.opening.length)
      = rest.drop (i + d.opening.length) := by
    rw [Nat.add_assoc, ← List.drop_drop, List.drop_left]
  simp only [insideComment, Text.lastIndex?_append hi, hdrop]

/-- What is cut off before a marker starts with the opener of the marker's comment. -/
theorem isGap_drop_beforeOpener {front rest : Text}
    (hinside : d.insideComment (front ++ rest) = true) :
    d.IsGap (rest.drop (d.beforeOpener rest).length) := by
  unfold beforeOpener
  split
  · next i hi =>
    rw [insideComment_append_of_lastIndex? hi, Option.isNone_iff_eq_none,
      Text.lastIndex?_eq_none_iff] at hinside
    obtain ⟨hocc, hlast⟩ := Text.lastIndex?_eq_some_iff.mp hi
    have hlen : (rest.take i).length = i := by
      rw [List.length_take]
      exact Nat.min_eq_left hocc.1
    right
    refine ⟨?_, ?_, ?_⟩
    · rw [hlen]
      exact hocc.2
    · rw [hlen, List.drop_drop]
      exact hinside
    · intro j hj hopen
      have hat : Text.OccursAt d.opening (rest.take i ++ rest.drop i)
          ((rest.take i).length + j) := by
        rw [hlen] at hopen
        exact Text.occursAt_append_right.mpr hopen
      rw [List.take_append_drop, hlen] at hat
      exact hlast (i + j) (by omega) hat
  · left
    simp

/-- What is left before the last opener is a beginning of the region. -/
theorem beforeOpener_prefix (d : Dialect) (region : Text) : d.beforeOpener region <+: region := by
  unfold beforeOpener
  split
  · exact List.take_prefix _ _
  · exact List.prefix_rfl

/-- What is left before an opener that is the last one. -/
theorem beforeOpener_append {front rest : Text} (h : Text.lastIndex? d.opening rest = some 0) :
    d.beforeOpener (front ++ rest) = front := by
  rw [beforeOpener, Text.lastIndex?_append h]
  exact List.take_left

/-! ## One block -/

/-- The block stands in the text word for word, behind its keyword. -/
structure Verbatim (d : Dialect) (text : Text) (b : Block) : Prop where
  keyword : Text.OccursAt d.keyword text b.start
  header : b.start + d.keyword.length ≤ b.stop - b.raw.length
  within : b.stop ≤ text.length
  raw : text.slice (b.stop - b.raw.length) b.stop = b.raw

/-- The second block comes after the first one, with a proper gap between them. -/
structure Follows (d : Dialect) (text : Text) (b c : Block) : Prop where
  order : b.stop ≤ c.start
  gap : d.IsGap (text.slice b.stop c.start)

/-- A stretch that starts behind the keyword and holds `raw` makes a verbatim block. -/
theorem verbatim_of_prefix {text : Text} {b : Block} (front : Nat)
    (hkey : Text.OccursAt d.keyword text b.start)
    (hfront : b.start + d.keyword.length ≤ front)
    (hstop : b.stop = front + b.raw.length) (hwithin : b.stop ≤ text.length)
    (hraw : b.raw <+: text.drop front) : d.Verbatim text b where
  keyword := hkey
  header := by omega
  within := hwithin
  raw := by
    have hsub : b.stop - b.raw.length = front := by omega
    have hlen : b.stop - front = b.raw.length := by omega
    rw [Text.slice, hsub, List.drop_take, hlen]
    exact (List.prefix_iff_eq_take.mp hraw).symm

/-- What a marker is: a keyword inside a comment. -/
def IsMarker (d : Dialect) (text : Text) (i : Nat) : Prop :=
  Text.OccursAt d.keyword text i ∧ d.insideComment (text.take i) = true

/-- **One block.**  The block of a marker lies between its keyword and the next marker,
and what is left before that marker is a proper gap. -/
theorem blockAt?_layout {text : Text} {start : Nat} {next : Option Nat} {b : Block}
    (hstart : d.IsMarker text start)
    (hnext : ∀ n ∈ next, d.IsMarker text n ∧ start + d.keyword.length ≤ n)
    (hb : d.blockAt? text start next = some b) :
    d.Verbatim text b ∧ ∀ n ∈ next, b.stop ≤ n ∧ d.IsGap (text.slice b.stop n) := by
  cases next with
  | none =>
      simp only [blockAt?, Option.getD_none] at hb
      split at hb
      · cases hb
      · next hnone => cases hnone
      · next headerEnd blockStart hterm =>
        cases hb
        have hkey := hstart.1.add_length_le
        have hle := terminator?_le hterm
        rw [Text.length_slice (Nat.le_refl _)] at hle
        refine ⟨?_, by simp⟩
        refine verbatim_of_prefix (start + d.keyword.length + blockStart) hstart.1
          (Nat.le_add_right _ _) rfl ?_ ?_
        · simp only [Option.isSome_none, Bool.false_eq_true, if_false, Text.drop_slice,
            Text.length_slice (Nat.le_refl _)]
          omega
        · simp only [Option.isSome_none, Bool.false_eq_true, if_false, Text.drop_slice]
          exact Text.slice_prefix_drop _ _ _
  | some n =>
      obtain ⟨hmarker, hgap⟩ := hnext n rfl
      have hn : n ≤ text.length := hmarker.1.1
      simp only [blockAt?, Option.getD_some] at hb
      split at hb
      · next hnone => cases hnone
      · next stop hterm heq =>
        cases heq
        cases hb
        refine ⟨?_, ?_⟩
        · exact verbatim_of_prefix n hstart.1 hgap (by simp) hn (by simp)
        · rintro _ ⟨⟩
          exact ⟨Nat.le_refl _, Or.inl (by simp [Text.slice])⟩
      · next headerEnd blockStart hterm =>
        cases hb
        have hle := terminator?_le hterm
        rw [Text.length_slice hn] at hle
        simp only [Option.isSome_some, if_true, Text.drop_slice]
        generalize hfront : start + d.keyword.length + blockStart = front
        have hraw := d.beforeOpener_prefix (text.slice front n)
        have hlen := hraw.length_le
        rw [Text.length_slice hn] at hlen
        have hinside : d.insideComment (text.take front ++ text.slice front n) = true := by
          rw [Text.take_append_slice (by omega)]
          exact hmarker.2
        refine ⟨?_, ?_⟩
        · exact verbatim_of_prefix front hstart.1 (by simp only; omega) rfl
            (by simp only; omega) (hraw.trans (Text.slice_prefix_drop _ _ _))
        · rintro _ ⟨⟩
          refine ⟨by omega, ?_⟩
          have hcut := isGap_drop_beforeOpener hinside
          rwa [Text.drop_slice] at hcut

/-! ## All blocks -/

/-- A marker with another marker behind it always has a block. -/
theorem blockAt?_some_isSome (d : Dialect) (text : Text) (start n : Nat) :
    (d.blockAt? text start (some n)).isSome := by
  simp only [blockAt?]
  split
  · next hnone => cases hnone
  · rfl
  · rfl

theorem start_of_blockAt? {text : Text} {start : Nat} {next : Option Nat} {b : Block}
    (hb : d.blockAt? text start next = some b) : b.start = start := by
  simp only [blockAt?] at hb
  split at hb
  · cases hb
  · cases hb
    rfl
  · cases hb
    rfl

/-- The first block, if there is one, belongs to the first marker. -/
theorem start_of_mem_head?_blocksAt {text : Text} {m : Nat} {rest : List Nat} {b : Block}
    (hb : b ∈ (d.blocksAt text (m :: rest)).head?) : b.start = m := by
  cases rest with
  | nil =>
      simp only [blocksAt] at hb
      cases h : d.blockAt? text m none with
      | none => simp [h] at hb
      | some c =>
          simp only [h, Option.toList_some, List.head?_cons] at hb
          cases hb
          exact start_of_blockAt? h
  | cons n rest =>
      obtain ⟨c, hc⟩ := Option.isSome_iff_exists.mp (d.blockAt?_some_isSome text m n)
      simp only [blocksAt, hc, Option.toList_some, List.cons_append, List.head?_cons] at hb
      cases hb
      exact start_of_blockAt? hc

/-- **A chain of markers gives a chain of blocks.**  The induction goes along the
markers; a marker hands on to the next one the gap that its own block leaves. -/
theorem blocksAt_layout {text : Text} {ms : List Nat} (hms : ∀ m ∈ ms, d.IsMarker text m)
    (hchain : ms.IsChain (fun m n => m + d.keyword.length ≤ n)) :
    (∀ b ∈ d.blocksAt text ms, d.Verbatim text b) ∧
      (d.blocksAt text ms).IsChain (d.Follows text) := by
  induction ms with
  | nil => simp [blocksAt]
  | cons m rest ih =>
      have hm := hms m List.mem_cons_self
      have hrest := ih (fun n hn => hms n (List.mem_cons_of_mem _ hn)) hchain.tail
      cases rest with
      | nil =>
          simp only [blocksAt]
          cases hb : d.blockAt? text m none with
          | none => simp
          | some b =>
              have hlayout := blockAt?_layout hm (by simp) hb
              simpa using hlayout.1
      | cons n rest =>
          obtain ⟨b, hb⟩ := Option.isSome_iff_exists.mp (d.blockAt?_some_isSome text m n)
          have hn := hms n (List.mem_cons_of_mem _ List.mem_cons_self)
          have hmn : m + d.keyword.length ≤ n := (List.isChain_cons_cons.mp hchain).1
          have hnext : ∀ k ∈ some n, d.IsMarker text k ∧ m + d.keyword.length ≤ k := by
            rintro _ ⟨⟩
            exact ⟨hn, hmn⟩
          obtain ⟨hverb, hgap⟩ := blockAt?_layout hm hnext hb
          simp only [blocksAt, hb, Option.toList_some, List.cons_append, List.nil_append]
          refine ⟨List.forall_mem_cons.mpr ⟨hverb, hrest.1⟩, ?_⟩
          refine List.isChain_cons.mpr ⟨?_, hrest.2⟩
          intro c hc
          have hcstart : c.start = n := start_of_mem_head?_blocksAt hc
          rw [← hcstart] at hgap
          exact ⟨(hgap _ rfl).1, (hgap _ rfl).2⟩

/-- The keywords that the markers are found among do not overlap. -/
theorem pairwise_markers (d : Dialect) (text : Text) :
    (d.markers text).Pairwise (fun m n => m + d.keyword.length ≤ n) :=
  (Text.pairwise_occurrences d.keyword_ne_nil text).filter _

theorem markers_isChain (d : Dialect) (text : Text) :
    (d.markers text).IsChain (fun m n => m + d.keyword.length ≤ n) :=
  (d.pairwise_markers text).isChain

theorem isMarker_of_mem_markers {text : Text} {m : Nat} (hm : m ∈ d.markers text) :
    d.IsMarker text m := by
  obtain ⟨hocc, hinside⟩ := List.mem_filter.mp hm
  exact ⟨Text.mem_occurrences hocc, hinside⟩

/-- **Verbatim blocks without overlap.**  For every text and every dialect, each block
stands in the text word for word behind its keyword, and two neighbouring blocks are
apart: between them lies nothing, or the opener of the second one's comment with no
closer and no other opener behind it. -/
theorem parse_verbatim_and_isChain_follows (d : Dialect) (text : Text) :
    (∀ b ∈ d.parse text, d.Verbatim text b) ∧
      (d.parse text).IsChain (d.Follows text) :=
  blocksAt_layout (fun _ hm => isMarker_of_mem_markers hm) (d.markers_isChain text)

end Dialect

end MarkupCatalog.Annotation
