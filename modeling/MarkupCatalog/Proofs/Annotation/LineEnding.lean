import MarkupCatalog.Proofs.Annotation.Joining
import MarkupCatalog.Proofs.Text.CarriageReturn

/-!
# Line ends

It makes no difference to the annotations of a text whether its lines end with a line feed or
with a carriage return and a line feed: the blocks say the same, at the places to which the
carriage returns move them (`parse_withCarriageReturns`).

1.  A blank line is found where it was: the carriage return before its first line feed belongs to
    it (`findBlankLine?_withCarriageReturns`), so the terminator of a header is found where it was
    (`terminator?_withCarriageReturns`).
2.  Openers, closers and keywords hold no line end, so they are found where they were
    (`beforeOpener_withCarriageReturns`, `markers_withCarriageReturns`).
3.  The region of a marker is its old region with carriage returns, so its block is the old one
    with carriage returns (`blockAt?_withCarriageReturns`).
-/

namespace MarkupCatalog

open Text (place withCarriageReturns)

/-- Headers say the same with either line end. -/
theorem Metadata.ofHeader_withCarriageReturns {header : Text} (h : '\r' ∉ header) :
    Metadata.ofHeader (withCarriageReturns header) = Metadata.ofHeader header := by
  rw [ofHeader, headerPairs, Text.lines_withCarriageReturns h, ofHeader, headerPairs]

namespace Annotation

variable {t : Text}

/-! ## Blank lines -/

/-- A line end gets its carriage return. -/
theorem lineBreak?_withCarriageReturns (h : '\r' ∉ t) :
    lineBreak? (withCarriageReturns t)
      = (lineBreak? t).map fun found => (found.1 + 1, withCarriageReturns found.2) := by
  cases t with
  | nil => rfl
  | cons c rest =>
      by_cases hfeed : c = '\n'
      · subst hfeed
        rfl
      · have hreturn : c ≠ '\r' := fun hc => h (by rw [hc]; exact List.mem_cons_self)
        rw [Text.withCarriageReturns_cons_of_ne hfeed, lineBreak?_cons_of_ne hreturn hfeed,
          lineBreak?_cons_of_ne hreturn hfeed, Option.map_none]

/-- Spaces and tabulators end where they ended. -/
theorem span_isSpaceOrTab_withCarriageReturns (t : Text) :
    (withCarriageReturns t).takeWhile isSpaceOrTab = t.takeWhile isSpaceOrTab ∧
      (withCarriageReturns t).dropWhile isSpaceOrTab
        = withCarriageReturns (t.dropWhile isSpaceOrTab) := by
  induction t with
  | nil => exact ⟨rfl, rfl⟩
  | cons c rest ih =>
      by_cases hfeed : c = '\n'
      · subst hfeed
        exact ⟨rfl, rfl⟩
      · rw [Text.withCarriageReturns_cons_of_ne hfeed]
        by_cases hspace : isSpaceOrTab c = true
        · simp [hspace, ih]
        · simp [hspace, Text.withCarriageReturns_cons_of_ne hfeed]

/-- A blank line holds two line feeds. -/
theorem IsBlankLine.count_feed {w : Text} (h : IsBlankLine w) : w.count '\n' = 2 := by
  have hbreak : ∀ {b : Text}, IsLineBreak b → b.count '\n' = 1 := by
    rintro b (rfl | rfl) <;> rfl
  obtain ⟨first, blanks, second, hfirst, hblanks, hsecond, rfl⟩ := h
  have hnone : blanks.count '\n' = 0 := by
    rw [List.count_eq_zero]
    intro hmem
    exact absurd (hblanks _ hmem) (by decide)
  rw [List.count_append, List.count_append, hbreak hfirst, hnone, hbreak hsecond]

/-- A blank line at the front is two characters longer with carriage returns. -/
theorem blankLineLength?_withCarriageReturns (h : '\r' ∉ t) :
    blankLineLength? (withCarriageReturns t) = (blankLineLength? t).map (place t) := by
  have hplace : ∀ {n : Nat}, blankLineLength? t = some n → place t n = n + 2 := by
    intro n hn
    obtain ⟨w, hw, rfl, hpre⟩ := blankLineLength?_eq_some_iff.mp hn
    rw [place, ← List.prefix_iff_eq_take.mp hpre, hw.count_feed]
  cases hfirst : lineBreak? t with
  | none => simp [blankLineLength?, lineBreak?_withCarriageReturns h, hfirst]
  | some found =>
      obtain ⟨first, rest⟩ := found
      have hrest : '\r' ∉ rest.dropWhile isSpaceOrTab := by
        obtain ⟨b, _, _, rfl⟩ := lineBreak?_eq_some_iff.mp hfirst
        intro hmem
        exact h (List.mem_append_right b ((List.dropWhile_sublist _).subset hmem))
      obtain ⟨htake, hdrop⟩ := span_isSpaceOrTab_withCarriageReturns rest
      have hsecond := lineBreak?_withCarriageReturns hrest
      cases hfound : lineBreak? (rest.dropWhile isSpaceOrTab) with
      | none =>
          rw [hfound] at hsecond
          simp [blankLineLength?, lineBreak?_withCarriageReturns h, hfirst, hdrop, hsecond, hfound]
      | some found' =>
          rw [hfound] at hsecond
          have hlength : blankLineLength? t
              = some (first + (rest.takeWhile isSpaceOrTab).length + found'.1) := by
            simp [blankLineLength?, hfirst, hfound]
          have hlength' : blankLineLength? (withCarriageReturns t)
              = some (first + 1 + (rest.takeWhile isSpaceOrTab).length + (found'.1 + 1)) := by
            simp [blankLineLength?, lineBreak?_withCarriageReturns h, hfirst, htake, hdrop, hsecond]
          rw [hlength, hlength', Option.map_some, hplace hlength, Option.some.injEq]
          omega

/-- A carriage return before a line feed does not make a blank line. -/
theorem blankLineLength?_feed {t : Text} (h : blankLineLength? ('\r' :: '\n' :: t) = none) :
    blankLineLength? ('\n' :: t) = none := by
  have hreturn : lineBreak? ('\r' :: '\n' :: t) = some (2, t) := rfl
  have hfeed : lineBreak? ('\n' :: t) = some (1, t) := rfl
  simp only [blankLineLength?, hreturn, Option.bind_eq_bind, Option.bind_some] at h
  simp only [blankLineLength?, hfeed, Option.bind_eq_bind, Option.bind_some]
  cases hsecond : lineBreak? (t.dropWhile isSpaceOrTab) with
  | none => rfl
  | some found => simp [hsecond] at h

theorem findBlankLine?_cons_of_some {c : Char} {n : Nat} (h : blankLineLength? (c :: t) = some n) :
    findBlankLine? (c :: t) = some (0, n) := by
  rw [findBlankLine?, h]

theorem findBlankLine?_cons_of_none {c : Char} (h : blankLineLength? (c :: t) = none) :
    findBlankLine? (c :: t) = (findBlankLine? t).map (Prod.map (· + 1) (· + 1)) := by
  rw [findBlankLine?, h]
  rfl

/-- **Blank lines are found where they were.**  The search stops at the carriage return, one
character before it would stop at the line feed. -/
theorem findBlankLine?_withCarriageReturns (h : '\r' ∉ t) :
    findBlankLine? (withCarriageReturns t)
      = (findBlankLine? t).map (Prod.map (place t) (place t)) := by
  induction t with
  | nil => rfl
  | cons c rest ih =>
      have hrest := ih (fun hmem => h (List.mem_cons_of_mem _ hmem))
      have hfront := blankLineLength?_withCarriageReturns h
      cases hlength : blankLineLength? (c :: rest) with
      | some n =>
          rw [hlength, Option.map_some] at hfront
          rw [findBlankLine?_cons_of_some hlength, Option.map_some, Prod.map, Text.place_zero]
          by_cases hfeed : c = '\n'
          · subst hfeed
            exact findBlankLine?_cons_of_some hfront
          · rw [Text.withCarriageReturns_cons_of_ne hfeed] at hfront ⊢
            exact findBlankLine?_cons_of_some hfront
      | none =>
          have hlater : ∀ {n : Nat}, (if c = '\n' then 2 else 1) = n →
              (findBlankLine? (withCarriageReturns rest)).map (Prod.map (· + n) (· + n))
                = (findBlankLine? (c :: rest)).map
                    (Prod.map (place (c :: rest)) (place (c :: rest))) := by
            rintro n rfl
            rw [hrest, findBlankLine?_cons_of_none hlength, Option.map_map, Option.map_map,
              Prod.map_comp_map, Prod.map_comp_map]
            simp only [Function.comp_def, Text.place_cons_succ]
          rw [hlength, Option.map_none] at hfront
          by_cases hfeed : c = '\n'
          · have hlater := hlater (if_pos hfeed)
            subst hfeed
            rw [Text.withCarriageReturns_feed] at hfront ⊢
            rw [findBlankLine?_cons_of_none hfront,
              findBlankLine?_cons_of_none (blankLineLength?_feed hfront), Option.map_map,
              Prod.map_comp_map]
            exact hlater
          · rw [Text.withCarriageReturns_cons_of_ne hfeed] at hfront ⊢
            rw [findBlankLine?_cons_of_none hfront, hlater (if_neg hfeed)]

namespace Dialect

variable {d : Dialect}

/-! ## Delimiters -/

/-- No line end lies in the keyword or in a delimiter, and no delimiter is empty. -/
structure Inline (d : Dialect) : Prop where
  keyword : Text.Solid d.keyword
  opening : Text.Solid d.opening
  closing : Text.Solid d.closing

theorem findClosing?_withCarriageReturns (hd : d.Inline) (region : Text) :
    d.findClosing? (withCarriageReturns region)
      = (d.findClosing? region).map (Prod.map (place region) (place region)) := by
  rw [findClosing?, findClosing?, Text.firstIndex?_withCarriageReturns hd.closing]
  cases hfirst : Text.firstIndex? d.closing region with
  | none => rfl
  | some i =>
      have hocc := (Text.firstIndex?_eq_some_iff.mp hfirst).1
      simp only [Option.map_some, Prod.map, hocc.place_add_length hd.closing.2.2]

/-- Which of two spans comes first depends on the order of their offsets only. -/
theorem earlier_map {f : Nat → Nat} (hf : StrictMono f) (a b : Nat × Nat) :
    earlier (Prod.map f f a) (Prod.map f f b) = Prod.map f f (earlier a b) := by
  simp only [earlier, Prod.map_fst, Prod.map_snd, hf.lt_iff_lt, hf.le_iff_le, hf.injective.eq_iff]
  split <;> rfl

/-- **The terminator is found where it was.** -/
theorem terminator?_withCarriageReturns (hd : d.Inline) {region : Text} (h : '\r' ∉ region) :
    d.terminator? (withCarriageReturns region)
      = (d.terminator? region).map (Prod.map (place region) (place region)) := by
  rw [terminator?, terminator?, findClosing?_withCarriageReturns hd,
    findBlankLine?_withCarriageReturns h]
  cases d.findClosing? region with
  | none => rfl
  | some closed =>
      cases findBlankLine? region with
      | none => rfl
      | some blank =>
          simp only [Option.map_some, earlier_map (Text.place_strictMono region)]

/-- A region is cut where it was. -/
theorem beforeOpener_withCarriageReturns (hd : d.Inline) (region : Text) :
    d.beforeOpener (withCarriageReturns region) = withCarriageReturns (d.beforeOpener region) := by
  rw [beforeOpener, beforeOpener, Text.lastIndex?_withCarriageReturns hd.opening]
  cases hlast : Text.lastIndex? d.opening region with
  | none => rfl
  | some i =>
      have hocc := (Text.lastIndex?_eq_some_iff.mp hlast).1
      exact (Text.take_place_and_drop_place hocc.1).1

theorem insideComment_withCarriageReturns (hd : d.Inline) (before : Text) :
    d.insideComment (withCarriageReturns before) = d.insideComment before := by
  rw [insideComment, insideComment, Text.lastIndex?_withCarriageReturns hd.opening]
  cases hlast : Text.lastIndex? d.opening before with
  | none => rfl
  | some i =>
      have hocc := (Text.lastIndex?_eq_some_iff.mp hlast).1
      simp only [Option.map_some, ← hocc.place_add_length hd.opening.2.2,
        (Text.take_place_and_drop_place hocc.add_length_le).2,
        Text.lastIndex?_withCarriageReturns hd.closing, Option.isNone_map]

/-- **The markers are those that were, at their places.** -/
theorem markers_withCarriageReturns (hd : d.Inline) (text : Text) :
    d.markers (withCarriageReturns text) = (d.markers text).map (place text) := by
  rw [markers, markers, Text.occurrences_withCarriageReturns hd.keyword, List.filter_map]
  congr 1
  apply List.filter_congr
  intro i hi
  have hle : i ≤ text.length := (Text.mem_occurrences hi).1
  rw [Function.comp_apply, (Text.take_place_and_drop_place hle).1,
    insideComment_withCarriageReturns hd]

/-! ## Blocks -/

/-- The region of a marker gets its carriage returns. -/
theorem region_withCarriageReturns (hd : d.Inline) {text : Text} {start : Nat} {next : Option Nat}
    (hstart : Text.OccursAt d.keyword text start)
    (hnext : ∀ n ∈ next, start + d.keyword.length ≤ n ∧ n ≤ text.length) :
    d.region (withCarriageReturns text) (place text start) (next.map (place text))
      = withCarriageReturns (d.region text start next) := by
  have hstop : (next.map (place text)).getD (withCarriageReturns text).length
      = place text (next.getD text.length) := by
    cases next with
    | none => exact (Text.place_length text).symm
    | some n => rfl
  have hbounds : start + d.keyword.length ≤ next.getD text.length ∧
      next.getD text.length ≤ text.length := by
    cases next with
    | none => exact ⟨hstart.add_length_le, Nat.le_refl _⟩
    | some n => exact hnext n rfl
  rw [region, region, hstop, ← hstart.place_add_length hd.keyword.2.2,
    Text.slice_place hbounds.1 hbounds.2]

/-- What is cut out of a region behind its terminator ends at its place. -/
theorem place_stop (hd : d.Inline) {text region raw : Text} {start n : Nat}
    (hstart : Text.OccursAt d.keyword text start)
    (hregion : region <+: text.drop (start + d.keyword.length)) (hn : n ≤ region.length)
    (hraw : raw <+: region.drop n) :
    place text (start + d.keyword.length + n + raw.length)
      = place text start + d.keyword.length + place region n
        + (withCarriageReturns raw).length := by
  have hstretch : region.take n ++ raw <+: text.drop (start + d.keyword.length) := by
    obtain ⟨tail, htail⟩ := hraw
    have hpre : region.take n ++ raw <+: region :=
      ⟨tail, by rw [List.append_assoc, htail, List.take_append_drop]⟩
    exact hpre.trans hregion
  have hplace := Text.place_length_of_prefix hstretch
  rw [Text.withCarriageReturns_append, List.length_append, List.length_append,
    List.length_take_of_le hn, Text.length_withCarriageReturns_take hn] at hplace
  rw [Nat.add_assoc, Text.place_add, hplace, hstart.place_add_length hd.keyword.2.2, Nat.add_assoc,
    Nat.add_assoc, Nat.add_assoc]

end Dialect

attribute [ext] Block

/-- The block in a text whose lines have got carriage returns: it says the same, its stretch of
the text has got them too, and it stands at the place to which they have moved it. -/
def Block.withCarriageReturns (text : Text) (b : Block) : Block where
  metadata := b.metadata
  raw := Text.withCarriageReturns b.raw
  start := place text b.start
  stop := place text b.stop

namespace Dialect

variable {d : Dialect}

/-- **One block** is the one that was, with carriage returns. -/
theorem blockAt?_withCarriageReturns (hd : d.Inline) {text : Text} (h : '\r' ∉ text) {start : Nat}
    {next : Option Nat} (hstart : Text.OccursAt d.keyword text start)
    (hnext : ∀ n ∈ next, start + d.keyword.length ≤ n ∧ n ≤ text.length) :
    d.blockAt? (withCarriageReturns text) (place text start) (next.map (place text))
      = (d.blockAt? text start next).map (Block.withCarriageReturns text) := by
  have hregion := region_withCarriageReturns hd hstart hnext
  have hpre : d.region text start next <+: text.drop (start + d.keyword.length) :=
    Text.slice_prefix_drop _ _ _
  have hreturn : '\r' ∉ d.region text start next :=
    fun hmem => h (List.mem_of_mem_drop (hpre.subset hmem))
  have hterm := terminator?_withCarriageReturns hd hreturn
  rw [← hregion] at hterm
  cases hfound : d.terminator? (d.region text start next) with
  | none =>
      rw [hfound, Option.map_none] at hterm
      have hheader : '\r' ∉ d.beforeOpener (d.region text start next) :=
        fun hmem => hreturn ((d.beforeOpener_prefix _).subset hmem)
      rw [blockAt?_of_not_terminated hfound, blockAt?_of_not_terminated hterm, hregion,
        beforeOpener_withCarriageReturns hd, Metadata.ofHeader_withCarriageReturns hheader]
      cases next with
      | none => rfl
      | some stop => rfl
  | some span =>
      obtain ⟨headerEnd, blockStart⟩ := span
      rw [hfound, Option.map_some] at hterm
      obtain ⟨w, hw, rfl⟩ := terminator?_eq_some_iff.mp hfound
      have hwithin := hw.occurs.add_length_le
      have hheader : '\r' ∉ (d.region text start next).take headerEnd :=
        fun hmem => hreturn (List.mem_of_mem_take hmem)
      obtain ⟨b, hb, hbstart, hmetadata, hraw, hstop⟩ := blockAt?_of_terminator? hfound
      obtain ⟨b', hb', hbstart', hmetadata', hraw', hstop'⟩ := blockAt?_of_terminator? hterm
      rw [hregion] at hmetadata' hraw'
      have hbraw : b'.raw = withCarriageReturns b.raw := by
        rw [hraw', hraw, (Text.take_place_and_drop_place hwithin).2, Option.isSome_map]
        split
        · exact beforeOpener_withCarriageReturns hd _
        · rfl
      have hrest : b.raw <+: (d.region text start next).drop (headerEnd + w.length) := by
        rw [hraw]
        split
        · exact d.beforeOpener_prefix _
        · exact List.prefix_rfl
      rw [hb, hb', Option.map_some, Option.some.injEq]
      apply Block.ext
      · rw [hmetadata', (Text.take_place_and_drop_place hw.occurs.1).1,
          Metadata.ofHeader_withCarriageReturns hheader, ← hmetadata]
        rfl
      · exact hbraw
      · rw [hbstart', ← hbstart]
        rfl
      · rw [hstop', hbraw, ← place_stop hd hstart hpre hwithin hrest, ← hstop]
        rfl

/-- The blocks, marker by marker. -/
theorem blocksAt_withCarriageReturns (hd : d.Inline) {text : Text} (h : '\r' ∉ text)
    {ms : List Nat} (hms : ∀ m ∈ ms, Text.OccursAt d.keyword text m)
    (hchain : ms.IsChain (fun m n => m + d.keyword.length ≤ n)) :
    d.blocksAt (withCarriageReturns text) (ms.map (place text))
      = (d.blocksAt text ms).map (Block.withCarriageReturns text) := by
  induction ms with
  | nil => rfl
  | cons m ms ih =>
      rw [List.forall_mem_cons] at hms
      cases ms with
      | nil =>
          have hnone : ∀ n ∈ none, m + d.keyword.length ≤ n ∧ n ≤ text.length := by simp
          have hblock := blockAt?_withCarriageReturns hd h hms.1 hnone
          rw [Option.map_none] at hblock
          rw [List.map_singleton, blocksAt, hblock, blocksAt, Option.toList_map]
      | cons n ms =>
          obtain ⟨hmn, htail⟩ := List.isChain_cons_cons.mp hchain
          have hnext : ∀ k ∈ some n, m + d.keyword.length ≤ k ∧ k ≤ text.length := by
            rintro k ⟨⟩
            exact ⟨hmn, (hms.2 n List.mem_cons_self).1⟩
          have hblock := blockAt?_withCarriageReturns hd h hms.1 hnext
          have hrest := ih hms.2 htail
          rw [Option.map_some] at hblock
          rw [List.map_cons] at hrest
          rw [List.map_cons, List.map_cons, blocksAt, hblock, hrest, blocksAt, List.map_append,
            Option.toList_map]

/-- **Line ends make no difference.**  Let a text without carriage returns get one before each of
its line feeds, and let no delimiter be empty or hold a line end.  Then the blocks of the new
text are those of the old one, with the same metadata, their stretches of text with carriage
returns, and their offsets further on by the number of the line feeds before them. -/
theorem parse_withCarriageReturns (d : Dialect) (hd : d.Inline) (text : Text) (h : '\r' ∉ text) :
    d.parse (withCarriageReturns text)
      = (d.parse text).map (Block.withCarriageReturns text) := by
  rw [parse, parse, markers_withCarriageReturns hd]
  exact blocksAt_withCarriageReturns hd h (fun _ hm => (isMarker_of_mem_markers hm).1)
    (d.markers_isChain text)

/-- A text with a blank line that ends a header, a line end within a block, and line ends that
are no line feeds. -/
def manyLines : Text :=
  "a\n<!-- @component A\nx: 1\x0b@y\n \t\n<b>\n</b>\n<!-- @component B\n\n c-->\n"

/-- Two blocks in both texts, behind a blank line each; the second one ends behind nine line
feeds. -/
theorem parse_withCarriageReturns_manyLines :
    (usual.Inline ∧ '\r' ∉ manyLines) ∧
      (usual.parse manyLines).map (fun b => (b.start, b.stop)) = [(7, 40), (45, 65)] ∧
      (usual.parse (withCarriageReturns manyLines)).map (fun b => (b.start, b.stop))
        = [(8, 46), (51, 74)] := by
  have hd : usual.Inline := ⟨by decide, by decide, by decide⟩
  have h : '\r' ∉ manyLines := by decide
  refine ⟨⟨hd, h⟩, by decide, ?_⟩
  rw [parse_withCarriageReturns usual hd manyLines h]
  decide

end Dialect

end Annotation

end MarkupCatalog
