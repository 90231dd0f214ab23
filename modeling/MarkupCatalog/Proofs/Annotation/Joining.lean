import MarkupCatalog.Proofs.Annotation.Header
import MarkupCatalog.Proofs.Annotation.Printing

/-!
# Texts that are joined

Let a text be continued by another one that starts with the comment of its first marker.  Then
the annotations of the whole are those of the two parts, one after the other.

The opener at the seam does all the work.  Its first character belongs to no keyword, closer or
blank line, so none of these lies across the seam.  It is the last opener before every keyword of
the second part that has no later one, so what came before it does not matter there
(`markers_append`).  And the last block of the first part is cut right before it
(`blockAt?_append_seam`).
-/

namespace MarkupCatalog.Annotation

/-- The block at a place that is `n` characters further on. -/
def Block.shift (n : Nat) (b : Block) : Block := { b with start := n + b.start, stop := n + b.stop }

namespace Dialect

variable {d : Dialect} {a b : Text}

/-- Openers cannot be mixed up with anything else: no character of an opener belongs to the
keyword, and its first one neither to a closer nor to a blank line. -/
structure Distinct (d : Dialect) : Prop where
  opening : d.opening ≠ []
  closing : d.closing ≠ []
  keyword : ∀ c ∈ d.opening, c ∉ d.keyword
  terminator : ∀ c ∈ d.opening.head?, c ∉ d.closing ∧ c ∉ ['\r', '\n', ' ', '\t']

theorem usual_distinct : usual.Distinct where
  opening := by decide
  closing := by decide
  keyword := by
    -- decided along the opener, since to decide it for every character takes too long
    have hall : usual.opening.all (fun c => !usual.keyword.contains c) = true := by decide
    simpa using hall
  terminator := by
    intro c hc
    obtain rfl : '<' = c := Option.some.inj hc
    exact ⟨by decide, by decide⟩

/-! ## Markers of joined texts -/

/-- A keyword behind an opener does not overlap it. -/
theorem Distinct.length_opening_le (hd : d.Distinct) (hopen : d.opening <+: b) {i : Nat}
    (hi : Text.OccursAt d.keyword b i) : d.opening.length ≤ i := by
  by_contra hlt
  obtain ⟨rest, rfl⟩ := hopen
  obtain ⟨k, ks, hk⟩ := List.exists_cons_of_ne_nil d.keyword_ne_nil
  have hat : (d.opening ++ rest)[i]? = some k := by
    obtain ⟨tail, htail⟩ := hi.2
    have hfirst := congrArg List.head? htail
    rwa [hk, List.cons_append, List.head?_cons, List.head?_drop, eq_comm] at hfirst
  rw [List.getElem?_append_left (by omega)] at hat
  exact hd.keyword k (List.mem_of_getElem? hat) (by simp [hk])

/-- Behind an opener it does not matter what came before. -/
theorem insideComment_append_of_prefix {front before : Text} (hopen : d.opening <+: before) :
    d.insideComment (front ++ before) = d.insideComment before := by
  obtain ⟨k, hk, _⟩ | ⟨_, hnone⟩ := Text.lastIndex?_spec d.opening before
  · have hpart : d.insideComment ([] ++ before) = _ := insideComment_append_of_lastIndex? hk
    rw [insideComment_append_of_lastIndex? hk, ← hpart, List.nil_append]
  · exact absurd (Text.occursAt_zero.mpr hopen) (hnone 0)

/-- **The markers of joined texts** are those of both. -/
theorem markers_append (hd : d.Distinct) (hopen : d.opening <+: b) :
    d.markers (a ++ b) = d.markers a ++ (d.markers b).map (a.length + ·) := by
  have hkeywords : Text.occurrences d.keyword (a ++ b)
      = Text.occurrences d.keyword a ++ (Text.occurrences d.keyword b).map (a.length + ·) := by
    obtain ⟨c, o, ho⟩ := List.exists_cons_of_ne_nil hd.opening
    obtain ⟨rest, rfl⟩ := hopen
    have hc : c ∉ d.keyword := hd.keyword c (by rw [ho]; exact List.mem_cons_self)
    rw [ho, List.cons_append]
    exact Text.occurrences_append_cons d.keyword_ne_nil hc
  have hfirst : ∀ i ∈ Text.occurrences d.keyword a, (a ++ b).take i = a.take i := by
    intro i hi
    exact List.take_append_of_le_length (Text.mem_occurrences hi).1
  have hsecond : ∀ i ∈ Text.occurrences d.keyword b,
      d.insideComment ((a ++ b).take (a.length + i)) = d.insideComment (b.take i) := by
    intro i hi
    have hle := hd.length_opening_le hopen (Text.mem_occurrences hi)
    have hbefore : d.opening <+: b.take i := List.prefix_take_iff.mpr ⟨hopen, hle⟩
    rw [List.take_length_add_append, insideComment_append_of_prefix hbefore]
  rw [markers, hkeywords, List.filter_append, List.filter_map]
  congr 1
  · apply List.filter_congr
    intro i hi
    rw [hfirst i hi]
  · congr 1
    apply List.filter_congr
    intro i hi
    exact hsecond i hi

/-! ## Blocks of joined texts -/

/-- A block does not depend on anything but its region. -/
theorem blockAt?_shift {text text' : Text} {start : Nat} {next : Option Nat} (n : Nat)
    (h : d.region text' (n + start) (next.map (n + ·)) = d.region text start next) :
    d.blockAt? text' (n + start) (next.map (n + ·))
      = (d.blockAt? text start next).map (Block.shift n) := by
  unfold region at h
  simp only [blockAt?, h]
  cases d.terminator? (text.slice (start + d.keyword.length) (next.getD text.length)) with
  | none => cases next <;> rfl
  | some span => cases next <;> simp [Block.shift] <;> omega

/-- The blocks of the second part. -/
theorem blocksAt_append_right (d : Dialect) (a b : Text) (ms : List Nat) :
    d.blocksAt (a ++ b) (ms.map (a.length + ·))
      = (d.blocksAt b ms).map (Block.shift a.length) := by
  have hregion : ∀ m (next : Option Nat),
      d.region (a ++ b) (a.length + m) (next.map (a.length + ·)) = d.region b m next := by
    intro m next
    have hstop : (next.map (a.length + ·)).getD (a ++ b).length
        = a.length + next.getD b.length := by
      cases next <;> simp
    rw [region, region, hstop, Nat.add_assoc, Text.slice, Text.slice, List.take_length_add_append,
      List.drop_length_add_append]
  induction ms with
  | nil => rfl
  | cons m ms ih =>
      cases ms with
      | nil =>
          have hblock := blockAt?_shift a.length (hregion m none)
          rw [Option.map_none] at hblock
          rw [List.map_singleton, blocksAt, hblock, blocksAt, Option.toList_map]
      | cons n ms =>
          have hblock := blockAt?_shift a.length (hregion m (some n))
          rw [Option.map_some] at hblock
          rw [List.map_cons] at ih
          rw [List.map_cons, List.map_cons, blocksAt, hblock, ih, blocksAt, List.map_append,
            Option.toList_map]

/-- A block of the first part that ends before another marker of that part. -/
theorem blockAt?_append_left {m n : Nat} (hn : n ≤ a.length) :
    d.blockAt? (a ++ b) m (some n) = d.blockAt? a m (some n) := by
  simp only [blockAt?, Option.getD_some, Text.slice, List.take_append_of_le_length hn]

/-- The terminator of a region is not changed by what follows an opener behind it. -/
theorem terminator?_append (hd : d.Distinct) {region x : Text} {i j : Nat}
    (hopen : d.opening <+: x) (h : d.terminator? region = some (i, j)) :
    d.terminator? (region ++ x) = some (i, j) := by
  obtain ⟨c, o, ho⟩ := List.exists_cons_of_ne_nil hd.opening
  obtain ⟨rest, rfl⟩ := hopen
  have hsep : ∀ v, d.IsTerminator v → v ≠ [] ∧ c ∉ v := by
    obtain ⟨hclosing, hblank⟩ := hd.terminator c (by rw [ho]; rfl)
    intro v hv
    obtain rfl | hv := hv
    · exact ⟨hd.closing, hclosing⟩
    · exact ⟨hv.ne_nil, fun hc => hblank (hv.mem hc)⟩
  obtain ⟨w, hw, hj⟩ := terminator?_eq_some_iff.mp h
  rw [ho, List.cons_append]
  exact terminator?_eq_some_iff.mpr ⟨w, hw.append_cons hsep, hj⟩

/-- **The block at the seam.**  The last block of the first part ends where the second part
begins. -/
theorem blockAt?_append_seam (hd : d.Distinct) {m n : Nat} (hm : m + d.keyword.length ≤ a.length)
    (hterm : d.Terminated (d.region a m none)) (hopen : d.opening <+: b.take n)
    (hlast : Text.lastIndex? d.opening (b.take n) = some 0) :
    d.blockAt? (a ++ b) m (some (a.length + n)) = d.blockAt? a m none := by
  have hregion : d.region (a ++ b) m (some (a.length + n)) = d.region a m none ++ b.take n := by
    rw [region_none, region, Option.getD_some, Text.slice, List.take_length_add_append,
      List.drop_append_of_le_length hm]
  obtain ⟨i, w, hfound, hw⟩ | ⟨_, hnone⟩ := d.terminator?_spec (d.region a m none)
  · have hend := hw.occurs.add_length_le
    have hsame := terminator?_append hd hopen hfound
    have hheader : (d.region a m none ++ b.take n).take i = (d.region a m none).take i :=
      List.take_append_of_le_length (by omega)
    have hraw : d.beforeOpener ((d.region a m none ++ b.take n).drop (i + w.length))
        = (d.region a m none).drop (i + w.length) := by
      rw [List.drop_append_of_le_length hend, beforeOpener_append hlast]
    rw [← hregion] at hsame hheader hraw
    unfold region at hfound hsame hheader hraw
    simp only [blockAt?, hfound, hsame, hheader, hraw]
    rfl
  · exact absurd hterm hnone

/-- The blocks of joined texts, along the markers of the first part. -/
theorem blocksAt_append (hd : d.Distinct) {ms ms' : List Nat} {n : Nat}
    (hms : ∀ m ∈ ms, m + d.keyword.length ≤ a.length)
    (hterm : ∀ m ∈ ms.getLast?, d.Terminated (d.region a m none))
    (hopen : d.opening <+: b.take n) (hlast : Text.lastIndex? d.opening (b.take n) = some 0) :
    d.blocksAt (a ++ b) (ms ++ (n :: ms').map (a.length + ·))
      = d.blocksAt a ms ++ (d.blocksAt b (n :: ms')).map (Block.shift a.length) := by
  have hright := d.blocksAt_append_right a b (n :: ms')
  induction ms with
  | nil => exact hright
  | cons m ms ih =>
      rw [List.forall_mem_cons] at hms
      cases ms with
      | nil =>
          have hseam := blockAt?_append_seam hd hms.1 (hterm m rfl) hopen hlast
          show (d.blockAt? (a ++ b) m (some (a.length + n))).toList
            ++ d.blocksAt (a ++ b) ((n :: ms').map (a.length + ·)) = _
          rw [hseam, hright]
          rfl
      | cons m' ms =>
          have hm' : m' ≤ a.length := by
            have := hms.2 m' List.mem_cons_self
            omega
          have hrest := ih hms.2 (by rwa [List.getLast?_cons_cons] at hterm)
          show (d.blockAt? (a ++ b) m (some m')).toList
            ++ d.blocksAt (a ++ b) (m' :: ms ++ (n :: ms').map (a.length + ·)) = _
          rw [hrest, blockAt?_append_left hm', ← List.append_assoc]
          rfl

/-- If every marker has a block, then there is a terminator behind the last one. -/
theorem terminated_of_forall_mem_markers {text : Text}
    (h : ∀ m ∈ d.markers text, ∃ b ∈ d.parse text, b.start = m) :
    ∀ m ∈ (d.markers text).getLast?, d.Terminated (d.region text m none) := by
  intro m hm
  by_contra hnone
  have hstarts := (d.map_start_blocksAt text (d.markers text)).2 m hm hnone
  obtain ⟨b, hb, hstart⟩ := h m (List.mem_of_getLast? hm)
  have hmem : m ∈ (d.markers text).dropLast := by
    rw [← hstarts, ← hstart]
    exact List.mem_map_of_mem hb
  have hsplit := List.dropLast_append_getLast? m hm
  have hpos : 0 < d.keyword.length := List.length_pos_iff.mpr d.keyword_ne_nil
  have hpairwise := d.pairwise_markers text
  rw [← hsplit, List.pairwise_append] at hpairwise
  have hbefore := hpairwise.2.2 m hmem m List.mem_cons_self
  omega

/-- **Joined texts.** -/
theorem parse_append_of_distinct (hd : d.Distinct)
    (hblocks : ∀ m ∈ d.markers a, ∃ block ∈ d.parse a, block.start = m)
    (hopen : d.opening <+: b) {n : Nat} (hfirst : (d.markers b).head? = some n)
    (hlast : ∀ j, 0 < j → ¬ Text.OccursAt d.opening (b.take n) j) :
    d.parse (a ++ b) = d.parse a ++ (d.parse b).map (Block.shift a.length) := by
  obtain ⟨ms, hms⟩ : ∃ ms, d.markers b = n :: ms := List.head?_eq_some_iff.mp hfirst
  have hmarker : d.IsMarker b n := isMarker_of_mem_markers (by rw [hms]; exact List.mem_cons_self)
  have hbefore : d.opening <+: b.take n :=
    List.prefix_take_iff.mpr ⟨hopen, hd.length_opening_le hopen hmarker.1⟩
  have hindex : Text.lastIndex? d.opening (b.take n) = some 0 :=
    Text.lastIndex?_eq_some_iff.mpr ⟨Text.occursAt_zero.mpr hbefore, hlast⟩
  have hwithin : ∀ m ∈ d.markers a, m + d.keyword.length ≤ a.length :=
    fun m hm => (isMarker_of_mem_markers hm).1.add_length_le
  rw [parse, parse, parse, markers_append hd hopen, hms]
  exact blocksAt_append hd hwithin (terminated_of_forall_mem_markers hblocks) hbefore hindex

/-- **Parsing is compositional.**  In the usual dialect, let every marker of a text have its
block, and let the text be continued by another one that starts with an opener, and this be the
last opener before its first marker.  Then the blocks of the whole are those of the first text
and, further on by its length, those of the second one.  So what follows does not change the
blocks before it, and what came before does not change what later blocks say. -/
theorem parse_append_usual (a b : Text)
    (hblocks : ∀ m ∈ usual.markers a, ∃ block ∈ usual.parse a, block.start = m)
    (hopen : usual.opening <+: b) (n : Nat) (hfirst : (usual.markers b).head? = some n)
    (hlast : ∀ j, 0 < j → ¬ Text.OccursAt usual.opening (b.take n) j) :
    usual.parse (a ++ b) = usual.parse a ++ (usual.parse b).map (Block.shift a.length) ∧
      (usual.parse (a ++ b)).take (usual.parse a).length = usual.parse a ∧
      ((usual.parse (a ++ b)).drop (usual.parse a).length).map Block.content
        = (usual.parse b).map Block.content := by
  have hparse := parse_append_of_distinct usual_distinct hblocks hopen hfirst hlast
  refine ⟨hparse, ?_, ?_⟩
  · rw [hparse, List.take_left]
  · rw [hparse, List.drop_left, List.map_map]
    rfl

/-- A text that ends within an open comment. -/
def openEnded : Text := "<!-- @component A\n--> <a> <!-- b"

/-- A text with a marker that has no block. -/
def unfinished : Text := "<!-- @component B\n\nb <!-- @component C"

/-- The comment that is open at the seam does not matter, and neither does the marker that is
dropped. -/
theorem parse_append_usual_openEnded :
    (usual.parse openEnded).length = 1 ∧ (usual.parse unfinished).length = 1 ∧
      usual.parse (openEnded ++ unfinished)
        = usual.parse openEnded ++ (usual.parse unfinished).map (Block.shift openEnded.length) := by
  have hblocks :
      ∀ m ∈ usual.markers openEnded, ∃ block ∈ usual.parse openEnded, block.start = m := by
    decide
  have hlast : Text.lastIndex? usual.opening (unfinished.take 5) = some 0 := by decide
  refine ⟨by decide, by decide, ?_⟩
  exact (parse_append_usual openEnded unfinished hblocks (by decide) 5 (by decide)
    (Text.lastIndex?_eq_some_iff.mp hlast).2).1

end Dialect

end MarkupCatalog.Annotation
