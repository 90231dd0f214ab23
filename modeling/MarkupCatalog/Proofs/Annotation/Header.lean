import Mathlib.Data.List.TakeWhile
import MarkupCatalog.Proofs.Annotation.Layout

/-!
# Headers and their terminators

A header ends at the first terminator behind its keyword, and the terminators are the words of a
small language: the closer, and the blank lines.  This file says what the searches for closers
and blank lines find in these terms, and reads off what every block of a text consists of.

1.  The first word of either of two kinds is the one of the two first words that comes earlier
    (`IsFirst.or`).
2.  The searches find the first closer and the first blank line (`findBlankLine?_spec`), so the
    terminator that is found is the first one (`terminator?_spec`).
3.  A marker has no block only if it is the last one and has no terminator
    (`blockAt?_eq_none_iff`), and what a block says follows from its region (`blockAt?_readFrom`).
-/

namespace MarkupCatalog.Annotation

/-! ## The first word of a kind -/

/-- A word of the kind stands at the offset, and no word of the kind starts before it; of those
that start there it is the shortest. -/
structure IsFirst (kind : Text → Prop) (region : Text) (i : Nat) (w : Text) : Prop where
  ofKind : kind w
  occurs : Text.OccursAt w region i
  first : ∀ v j, kind v → Text.OccursAt v region j → i < j ∨ (i = j ∧ w.length ≤ v.length)

namespace IsFirst

variable {P Q : Text → Prop} {region v w : Text} {i j : Nat}

/-- Where the first word starts and how long it is, is certain. -/
theorem unique (hw : IsFirst P region i w) (hv : IsFirst P region j v) :
    i = j ∧ w.length = v.length := by
  have hwv := hw.first v j hv.ofKind hv.occurs
  have hvw := hv.first w i hw.ofKind hw.occurs
  omega

/-- Of two kinds, the first word of one is the first word of both if it comes before the first
word of the other, or at the same place and is not longer. -/
theorem or (hw : IsFirst P region i w) (hv : IsFirst Q region j v)
    (h : i < j ∨ (i = j ∧ w.length ≤ v.length)) :
    IsFirst (fun u => P u ∨ Q u) region i w where
  ofKind := Or.inl hw.ofKind
  occurs := hw.occurs
  first := by
    intro u k hu hocc
    obtain hu | hu := hu
    · exact hw.first u k hu hocc
    · have hlater := hv.first u k hu hocc
      omega

theorem or_of_lacks (hw : IsFirst P region i w) (hnone : ∀ u, Q u → Text.Lacks u region) :
    IsFirst (fun u => P u ∨ Q u) region i w where
  ofKind := Or.inl hw.ofKind
  occurs := hw.occurs
  first := by
    intro u k hu hocc
    obtain hu | hu := hu
    · exact hw.first u k hu hocc
    · exact absurd hocc (hnone u hu k)

theorem congr (hw : IsFirst P region i w) (h : ∀ u, P u ↔ Q u) : IsFirst Q region i w where
  ofKind := (h w).mp hw.ofKind
  occurs := hw.occurs
  first := fun u k hu => hw.first u k ((h u).mpr hu)

/-- Where no word of the kind stands, a character more puts off the first one. -/
theorem cons {c : Char} (hw : IsFirst P region i w) (hnone : ∀ v, P v → ¬ v <+: c :: region) :
    IsFirst P (c :: region) (i + 1) w where
  ofKind := hw.ofKind
  occurs := Text.occursAt_cons_succ.mpr hw.occurs
  first := by
    intro v j hv hocc
    cases j with
    | zero => exact absurd (Text.occursAt_zero.mp hocc) (hnone v hv)
    | succ j =>
        have hlater := hw.first v j hv (Text.occursAt_cons_succ.mp hocc)
        omega

/-- A character that no word of the kind holds keeps off whatever comes behind it. -/
theorem append_cons {c : Char} {t : Text} (hw : IsFirst P region i w)
    (hsep : ∀ v, P v → v ≠ [] ∧ c ∉ v) : IsFirst P (region ++ c :: t) i w where
  ofKind := hw.ofKind
  occurs := (Text.occursAt_append_left hw.occurs.add_length_le).mpr hw.occurs
  first := by
    intro v j hv hocc
    obtain hbefore | ⟨k, hk, _⟩ := (Text.occursAt_append_cons (hsep v hv).1 (hsep v hv).2).mp hocc
    · exact hw.first v j hv hbefore
    · have hwithin := hw.occurs.1
      omega

/-- Before the first word, no word of the kind stands, unless it is empty. -/
theorem lacks_take (hw : IsFirst P region i w) (hv : P v) (hne : v ≠ []) :
    Text.Lacks v (region.take i) := by
  intro j hocc
  obtain ⟨hocc, hend⟩ := Text.occursAt_take.mp hocc
  have hpos : 0 < v.length := List.length_pos_iff.mpr hne
  have hlater := hw.first v j hv hocc
  omega

end IsFirst

/-! ## Blank lines -/

/-- A line end: a line feed, with or without a carriage return before it. -/
def IsLineBreak (t : Text) : Prop := t = ['\n'] ∨ t = ['\r', '\n']

/-- A blank line: two line ends with nothing but spaces and tabulators between them. -/
def IsBlankLine (t : Text) : Prop :=
  ∃ first blanks second, IsLineBreak first ∧ (∀ c ∈ blanks, isSpaceOrTab c = true) ∧
    IsLineBreak second ∧ t = first ++ (blanks ++ second)

theorem IsLineBreak.ne_nil {t : Text} (h : IsLineBreak t) : t ≠ [] := by
  obtain rfl | rfl := h <;> simp

theorem IsBlankLine.ne_nil {t : Text} (h : IsBlankLine t) : t ≠ [] := by
  obtain ⟨first, blanks, second, hfirst, -, -, rfl⟩ := h
  simp [hfirst.ne_nil]

/-- Only four characters stand in blank lines. -/
theorem IsBlankLine.mem {t : Text} (h : IsBlankLine t) {c : Char} (hc : c ∈ t) :
    c ∈ ['\r', '\n', ' ', '\t'] := by
  have hbreak : ∀ {b : Text}, IsLineBreak b → c ∈ b → c ∈ ['\r', '\n', ' ', '\t'] := by
    have hall : ∀ x ∈ ['\r', '\n'], x ∈ ['\r', '\n', ' ', '\t'] := by simp
    intro b hb hmem
    obtain rfl | rfl := hb
    · exact hall c (List.mem_cons_of_mem _ hmem)
    · exact hall c hmem
  obtain ⟨first, blanks, second, hfirst, hblanks, hsecond, rfl⟩ := h
  obtain hmem | hmem := List.mem_append.mp hc
  · exact hbreak hfirst hmem
  · obtain hmem | hmem := List.mem_append.mp hmem
    · have hspace := hblanks c hmem
      simp only [isSpaceOrTab, Bool.or_eq_true, beq_iff_eq] at hspace
      obtain rfl | rfl := hspace <;> simp
    · exact hbreak hsecond hmem

theorem lineBreak?_eq_some_iff {t rest : Text} {n : Nat} :
    lineBreak? t = some (n, rest) ↔ ∃ b, IsLineBreak b ∧ b.length = n ∧ t = b ++ rest := by
  constructor
  · intro h
    unfold lineBreak? at h
    split at h
    · cases h
      exact ⟨['\n'], Or.inl rfl, rfl, rfl⟩
    · cases h
      exact ⟨['\r', '\n'], Or.inr rfl, rfl, rfl⟩
    · cases h
  · intro ⟨b, hb, hn, ht⟩
    obtain rfl | rfl := hb
    · rw [ht, ← hn]
      rfl
    · rw [ht, ← hn]
      rfl

/-- Spaces and tabulators end where a line ends. -/
theorem span_isSpaceOrTab {blanks second : Text}
    (hblanks : ∀ c ∈ blanks, isSpaceOrTab c = true) (hsecond : IsLineBreak second) (rest : Text) :
    (blanks ++ (second ++ rest)).takeWhile isSpaceOrTab = blanks ∧
      (blanks ++ (second ++ rest)).dropWhile isSpaceOrTab = second ++ rest := by
  have hstop : (second ++ rest).takeWhile isSpaceOrTab = [] ∧
      (second ++ rest).dropWhile isSpaceOrTab = second ++ rest := by
    obtain rfl | rfl := hsecond
    · exact ⟨rfl, rfl⟩
    · exact ⟨rfl, rfl⟩
  constructor
  · rw [List.takeWhile_append_of_pos hblanks, hstop.1, List.append_nil]
  · rw [List.dropWhile_append_of_pos hblanks, hstop.2]

/-- A blank line is seen at the front of a text if the text starts with one. -/
theorem blankLineLength?_eq_some_iff {t : Text} {n : Nat} :
    blankLineLength? t = some n ↔ ∃ w, IsBlankLine w ∧ w.length = n ∧ w <+: t := by
  constructor
  · intro h
    simp only [blankLineLength?, Option.bind_eq_bind, Option.bind_eq_some_iff] at h
    obtain ⟨⟨first, rest⟩, hfirst, ⟨second, rest'⟩, hsecond, hn⟩ := h
    obtain ⟨a, ha, rfl, rfl⟩ := lineBreak?_eq_some_iff.mp hfirst
    obtain ⟨b, hb, rfl, hdrop⟩ := lineBreak?_eq_some_iff.mp hsecond
    have hblanks : ∀ c ∈ rest.takeWhile isSpaceOrTab, isSpaceOrTab c = true :=
      fun c hc => List.mem_takeWhile_imp hc
    refine ⟨a ++ (rest.takeWhile isSpaceOrTab ++ b), ⟨a, _, b, ha, hblanks, hb, rfl⟩, ?_, ?_⟩
    · have heq : a.length + (rest.takeWhile isSpaceOrTab).length + b.length = n := by
        simpa using hn
      rw [List.length_append, List.length_append, ← heq, Nat.add_assoc]
    · refine ⟨rest', ?_⟩
      have hsplit : rest.takeWhile isSpaceOrTab ++ (b ++ rest') = rest := by
        rw [← hdrop, List.takeWhile_append_dropWhile]
      rw [List.append_assoc, List.append_assoc, hsplit]
  · rintro ⟨w, hw, hn, tail, ht⟩
    obtain ⟨a, blanks, b, ha, hblanks, hb, rfl⟩ := hw
    obtain ⟨htake, hdrop⟩ := span_isSpaceOrTab hblanks hb tail
    have hfirst : lineBreak? t = some (a.length, blanks ++ (b ++ tail)) :=
      lineBreak?_eq_some_iff.mpr ⟨a, ha, rfl, by rw [← ht]; simp⟩
    have hsecond : lineBreak? (b ++ tail) = some (b.length, tail) :=
      lineBreak?_eq_some_iff.mpr ⟨b, hb, rfl, rfl⟩
    simp only [blankLineLength?, hfirst, Option.bind_eq_bind, Option.bind_some, htake, hdrop,
      hsecond]
    rw [← hn]
    simp [Nat.add_assoc]

/-- At one place stands at most one blank line. -/
theorem IsBlankLine.length_eq {v w t : Text} (hv : IsBlankLine v) (hw : IsBlankLine w)
    (hvt : v <+: t) (hwt : w <+: t) : v.length = w.length := by
  have hlength := blankLineLength?_eq_some_iff.mpr ⟨v, hv, rfl, hvt⟩
  have hlength' := blankLineLength?_eq_some_iff.mpr ⟨w, hw, rfl, hwt⟩
  exact Option.some.inj (hlength.symm.trans hlength')

/-- The search finds the first blank line, and nothing only if there is none. -/
theorem findBlankLine?_spec (t : Text) :
    (∃ i w, findBlankLine? t = some (i, i + w.length) ∧ IsFirst IsBlankLine t i w) ∨
      (findBlankLine? t = none ∧ ∀ v, IsBlankLine v → Text.Lacks v t) := by
  induction t with
  | nil =>
      right
      refine ⟨rfl, ?_⟩
      intro v hv i hocc
      exact hv.ne_nil (Text.occursAt_nil.mp hocc).2
  | cons c rest ih =>
      cases hlength : blankLineLength? (c :: rest) with
      | some n =>
          obtain ⟨w, hw, rfl, hpre⟩ := blankLineLength?_eq_some_iff.mp hlength
          left
          refine ⟨0, w, by simp [findBlankLine?, hlength], hw, Text.occursAt_zero.mpr hpre, ?_⟩
          intro v j hv hocc
          by_cases hj : j = 0
          · rw [hj] at hocc
            have hlen := hw.length_eq hv hpre (Text.occursAt_zero.mp hocc)
            omega
          · omega
      | none =>
          have hstep : findBlankLine? (c :: rest)
              = (findBlankLine? rest).map fun span => (span.1 + 1, span.2 + 1) := by
            simp [findBlankLine?, hlength]
          have hfront : ∀ v, IsBlankLine v → ¬ v <+: c :: rest := by
            intro v hv hpre
            rw [blankLineLength?_eq_some_iff.mpr ⟨v, hv, rfl, hpre⟩] at hlength
            cases hlength
          obtain ⟨i, w, hfind, hfirst⟩ | ⟨hfind, hlacks⟩ := ih
          · left
            refine ⟨i + 1, w, ?_, hfirst.cons hfront⟩
            rw [hstep, hfind, Option.map_some, Nat.add_right_comm]
          · right
            refine ⟨by rw [hstep, hfind, Option.map_none], ?_⟩
            intro v hv j hocc
            cases j with
            | zero => exact hfront v hv (Text.occursAt_zero.mp hocc)
            | succ j => exact hlacks v hv j (Text.occursAt_cons_succ.mp hocc)

namespace Dialect

variable {d : Dialect}

/-! ## Terminators -/

/-- The search finds the first closer, and nothing only if there is none. -/
theorem findClosing?_spec (d : Dialect) (region : Text) :
    (∃ i, d.findClosing? region = some (i, i + d.closing.length) ∧
      IsFirst (· = d.closing) region i d.closing) ∨
    (d.findClosing? region = none ∧ ∀ v, v = d.closing → Text.Lacks v region) := by
  unfold findClosing?
  obtain ⟨i, hi, hocc, hclear⟩ | ⟨hnone, hlacks⟩ := Text.firstIndex?_spec d.closing region
  · left
    refine ⟨i, by rw [hi]; rfl, rfl, hocc, ?_⟩
    intro v j hv hocc'
    rw [hv] at hocc' ⊢
    have hij : ¬ j < i := fun hlt => hclear j hlt hocc'
    omega
  · right
    refine ⟨by rw [hnone]; rfl, ?_⟩
    intro v hv
    rw [hv]
    exact hlacks

/-- What may end a header: a closer or a blank line. -/
def IsTerminator (d : Dialect) (w : Text) : Prop := w = d.closing ∨ IsBlankLine w

/-- A terminator stands somewhere in the region. -/
def Terminated (d : Dialect) (region : Text) : Prop :=
  ∃ w i, d.IsTerminator w ∧ Text.OccursAt w region i

/-- **The terminator that is found is the first one,** and nothing is found only if there is
none. -/
theorem terminator?_spec (d : Dialect) (region : Text) :
    (∃ i w, d.terminator? region = some (i, i + w.length) ∧ IsFirst d.IsTerminator region i w) ∨
      (d.terminator? region = none ∧ ¬ d.Terminated region) := by
  have hcomm : ∀ u, (IsBlankLine u ∨ u = d.closing) ↔ d.IsTerminator u := fun u => or_comm
  unfold terminator?
  obtain ⟨i, hclosed, hfirst⟩ | ⟨hclosed, hlacks⟩ := d.findClosing?_spec region
  · left
    obtain ⟨j, w, hblank, hfirst'⟩ | ⟨hblank, hlacks'⟩ := findBlankLine?_spec region
    · rw [hclosed, hblank]
      by_cases horder : i < j ∨ (i = j ∧ i + d.closing.length ≤ j + w.length)
      · exact ⟨i, d.closing, by simp [earlier, horder], hfirst.or hfirst' (by omega)⟩
      · exact ⟨j, w, by simp [earlier, horder], (hfirst'.or hfirst (by omega)).congr hcomm⟩
    · rw [hclosed, hblank]
      exact ⟨i, d.closing, rfl, hfirst.or_of_lacks hlacks'⟩
  · rw [hclosed]
    obtain ⟨j, w, hblank, hfirst'⟩ | ⟨hblank, hlacks'⟩ := findBlankLine?_spec region
    · left
      rw [hblank]
      exact ⟨j, w, rfl, (hfirst'.or_of_lacks hlacks).congr hcomm⟩
    · right
      refine ⟨hblank, ?_⟩
      intro ⟨w, i, hw, hocc⟩
      obtain hw | hw := hw
      · exact hlacks w hw i hocc
      · exact hlacks' w hw i hocc

/-- Where a blank line starts with the closer, the header ends at the closer. -/
example : (⟨['@'], ['<'], ['\n'], by decide⟩ : Dialect).terminator? "\n\n" = some (0, 1) := by
  decide

theorem terminator?_eq_some_iff {region : Text} {i j : Nat} :
    d.terminator? region = some (i, j) ↔
      ∃ w, IsFirst d.IsTerminator region i w ∧ j = i + w.length := by
  obtain ⟨k, v, hfound, hv⟩ | ⟨hfound, hnone⟩ := d.terminator?_spec region
  · rw [hfound]
    constructor
    · intro h
      cases h
      exact ⟨v, hv, rfl⟩
    · intro ⟨w, hw, hj⟩
      obtain ⟨hi, hlen⟩ := hw.unique hv
      rw [hj, hi, hlen]
  · rw [hfound]
    constructor
    · intro h
      cases h
    · intro ⟨w, hw, _⟩
      exact absurd ⟨w, i, hw.ofKind, hw.occurs⟩ hnone

theorem terminator?_eq_none_iff {region : Text} :
    d.terminator? region = none ↔ ¬ d.Terminated region := by
  obtain ⟨i, w, hfound, hw⟩ | ⟨hfound, hnone⟩ := d.terminator?_spec region
  · rw [hfound]
    constructor
    · intro h
      cases h
    · intro hnone
      exact absurd ⟨w, i, hw.ofKind, hw.occurs⟩ hnone
  · exact ⟨fun _ => hnone, fun _ => hfound⟩

/-! ## One block -/

/-- What stands between a keyword and the next marker or the end of the text. -/
def region (d : Dialect) (text : Text) (start : Nat) (next : Option Nat) : Text :=
  text.slice (start + d.keyword.length) (next.getD text.length)

theorem region_none (d : Dialect) (text : Text) (start : Nat) :
    d.region text start none = text.drop (start + d.keyword.length) := by
  rw [region, Option.getD_none, Text.slice, List.take_length]

/-- A region is cut before the last opener in it, or not at all if there is none. -/
def IsCut (d : Dialect) (region cut : Text) : Prop :=
  (∃ i, Text.OccursAt d.opening region i ∧ (∀ j, i < j → ¬ Text.OccursAt d.opening region j) ∧
    cut = region.take i) ∨
  (Text.Lacks d.opening region ∧ cut = region)

theorem isCut_beforeOpener (d : Dialect) (region : Text) :
    d.IsCut region (d.beforeOpener region) := by
  unfold beforeOpener
  split
  · next i hi =>
    obtain ⟨hocc, hlast⟩ := Text.lastIndex?_eq_some_iff.mp hi
    exact Or.inl ⟨i, hocc, hlast, rfl⟩
  · next hnone => exact Or.inr ⟨Text.lastIndex?_eq_none_iff.mp hnone, rfl⟩

/-- What a block says when its region ends at the marker `next`, or at the end of the text. -/
structure ReadFrom (d : Dialect) (text : Text) (next : Option Nat) (b : Block) : Prop where
  /-- The header reaches to the first terminator, and no other stands in it.  The block begins
  right behind that terminator and goes on to the end of the region, without the opener that
  belongs to the next marker. -/
  terminated : d.Terminated (d.region text b.start next) →
    ∃ i w, IsFirst d.IsTerminator (d.region text b.start next) i w ∧
      b.metadata = Metadata.ofHeader ((d.region text b.start next).take i) ∧
      (∀ v, d.IsTerminator v → v ≠ [] → Text.Lacks v ((d.region text b.start next).take i)) ∧
      b.stop = b.start + d.keyword.length + (i + w.length) + b.raw.length ∧
      (next = none → b.raw = (d.region text b.start next).drop (i + w.length)) ∧
      (next ≠ none → d.IsCut ((d.region text b.start next).drop (i + w.length)) b.raw)
  /-- Without terminator the block is empty and ends at the next marker, and all of the region
  is header but for the opener that belongs to that marker. -/
  unterminated : ¬ d.Terminated (d.region text b.start next) →
    next = some b.stop ∧ b.raw = [] ∧
      ∃ cut, d.IsCut (d.region text b.start next) cut ∧ b.metadata = Metadata.ofHeader cut

/-- The block of a marker with a terminator. -/
theorem blockAt?_of_terminator? {text : Text} {start headerEnd blockStart : Nat}
    {next : Option Nat}
    (h : d.terminator? (d.region text start next) = some (headerEnd, blockStart)) :
    ∃ b, d.blockAt? text start next = some b ∧ b.start = start ∧
      b.metadata = Metadata.ofHeader ((d.region text start next).take headerEnd) ∧
      b.raw = (if next.isSome then d.beforeOpener ((d.region text start next).drop blockStart)
        else (d.region text start next).drop blockStart) ∧
      b.stop = start + d.keyword.length + blockStart + b.raw.length := by
  rw [region] at h ⊢
  simp only [blockAt?, h]
  exact ⟨_, rfl, rfl, rfl, rfl, rfl⟩

/-- The block of a marker without terminator: there is one if another marker follows. -/
theorem blockAt?_of_not_terminated {text : Text} {start : Nat} {next : Option Nat}
    (h : d.terminator? (d.region text start next) = none) :
    d.blockAt? text start next = next.map fun stop =>
      { metadata := Metadata.ofHeader (d.beforeOpener (d.region text start next)),
        raw := [], start, stop } := by
  rw [region] at h ⊢
  cases next with
  | none => simp only [blockAt?, h, Option.map_none]
  | some stop => simp only [blockAt?, h, Option.map_some]

/-- A marker has no block only if it is the last one and has no terminator. -/
theorem blockAt?_eq_none_iff {text : Text} {start : Nat} {next : Option Nat} :
    d.blockAt? text start next = none ↔
      next = none ∧ ¬ d.Terminated (d.region text start next) := by
  rw [← terminator?_eq_none_iff]
  cases hterm : d.terminator? (d.region text start next) with
  | none => simp [blockAt?_of_not_terminated hterm]
  | some span =>
      obtain ⟨b, hb, -⟩ := blockAt?_of_terminator? hterm
      simp [hb]

/-- **What a block says follows from its region.** -/
theorem blockAt?_readFrom {text : Text} {start : Nat} {next : Option Nat} {b : Block}
    (hb : d.blockAt? text start next = some b) : d.ReadFrom text next b := by
  cases hterm : d.terminator? (d.region text start next) with
  | none =>
      have hnone := terminator?_eq_none_iff.mp hterm
      rw [blockAt?_of_not_terminated hterm, Option.map_eq_some_iff] at hb
      obtain ⟨stop, hnext, rfl⟩ := hb
      exact ⟨fun h => absurd h hnone, fun _ => ⟨hnext, rfl, _, d.isCut_beforeOpener _, rfl⟩⟩
  | some span =>
      obtain ⟨i, j⟩ := span
      obtain ⟨w, hw, rfl⟩ := terminator?_eq_some_iff.mp hterm
      obtain ⟨c, hc, hstart, hmetadata, hraw, hstop⟩ := blockAt?_of_terminator? hterm
      obtain rfl : b = c := Option.some.inj (hb.symm.trans hc)
      subst hstart
      have hsome : d.Terminated (d.region text b.start next) := ⟨w, i, hw.ofKind, hw.occurs⟩
      refine ⟨fun _ => ⟨i, w, hw, ?_⟩, fun h => absurd hsome h⟩
      refine ⟨hmetadata, fun v hv hne => hw.lacks_take hv hne, hstop, ?_, ?_⟩
      · intro hnext
        rw [hraw, hnext]
        rfl
      · intro hnext
        rw [hraw, if_pos (Option.isSome_iff_ne_none.mpr hnext)]
        exact d.isCut_beforeOpener _

/-! ## All blocks -/

/-- A marker with another one behind it has a block, so the blocks behind it are its own and
those of the other markers. -/
theorem blocksAt_cons_cons (d : Dialect) (text : Text) (m n : Nat) (ms : List Nat) :
    ∃ b, d.blockAt? text m (some n) = some b ∧
      d.blocksAt text (m :: n :: ms) = b :: d.blocksAt text (n :: ms) := by
  obtain ⟨b, hb⟩ := Option.isSome_iff_exists.mp (d.blockAt?_some_isSome text m n)
  refine ⟨b, hb, ?_⟩
  rw [blocksAt, hb]
  rfl

/-- Each block belongs to the marker at its own place, and is read up to the next one. -/
theorem readFrom_of_getElem?_blocksAt {text : Text} {ms : List Nat} {k : Nat} {b : Block}
    (hb : (d.blocksAt text ms)[k]? = some b) :
    ms[k]? = some b.start ∧ d.ReadFrom text ms[k + 1]? b := by
  induction ms generalizing k with
  | nil => cases hb
  | cons m ms ih =>
      cases ms with
      | nil =>
          have hblock : d.blockAt? text m none = some b ∧ k = 0 := by
            rw [blocksAt] at hb
            cases hblock : d.blockAt? text m none with
            | none => simp [hblock] at hb
            | some c =>
                cases k with
                | zero => simpa [hblock] using hb
                | succ k => simp [hblock] at hb
          rw [hblock.2, start_of_blockAt? hblock.1]
          exact ⟨rfl, blockAt?_readFrom hblock.1⟩
      | cons n ms =>
          obtain ⟨c, hc, hblocks⟩ := d.blocksAt_cons_cons text m n ms
          rw [hblocks] at hb
          cases k with
          | zero =>
              obtain rfl : c = b := by simpa using hb
              rw [start_of_blockAt? hc]
              exact ⟨rfl, blockAt?_readFrom hc⟩
          | succ k => exact ih (by simpa using hb)

/-- Every marker has its block but for a last one without terminator. -/
theorem map_start_blocksAt (d : Dialect) (text : Text) (ms : List Nat) :
    ((∀ m ∈ ms.getLast?, d.Terminated (d.region text m none)) →
      (d.blocksAt text ms).map Block.start = ms) ∧
    ∀ m ∈ ms.getLast?, ¬ d.Terminated (d.region text m none) →
      (d.blocksAt text ms).map Block.start = ms.dropLast := by
  induction ms with
  | nil => simp [blocksAt]
  | cons m ms ih =>
      cases ms with
      | nil =>
          rw [blocksAt]
          constructor
          · intro hterminated
            have hsome : d.blockAt? text m none ≠ none := by
              intro hnone
              exact (blockAt?_eq_none_iff.mp hnone).2 (hterminated m rfl)
            obtain ⟨b, hb⟩ := Option.ne_none_iff_exists'.mp hsome
            simp [hb, start_of_blockAt? hb]
          · intro k hk hnone
            obtain rfl : m = k := Option.some.inj hk
            rw [blockAt?_eq_none_iff.mpr ⟨rfl, hnone⟩]
            rfl
      | cons n ms =>
          obtain ⟨b, hb, hblocks⟩ := d.blocksAt_cons_cons text m n ms
          rw [hblocks, List.map_cons, start_of_blockAt? hb, List.getLast?_cons_cons,
            List.dropLast_cons_cons]
          exact ⟨fun h => by rw [ih.1 h], fun k hk h => by rw [ih.2 k hk h]⟩

/-- **Markers and blocks.**  Every text has a block for each of its markers, in their order, but
for a last marker with neither a closer nor a blank line behind it.  The header of a block ends
at the first of these in its region, of two at one place at the shorter, and the block begins
right behind; a marker with another one behind it and no terminator between them has an empty
block, and all that lies between them is its header, but for the opener of the other one. -/
theorem map_start_parse_and_readFrom (d : Dialect) (text : Text) :
    ((∀ m ∈ (d.markers text).getLast?, d.Terminated (text.drop (m + d.keyword.length))) →
      (d.parse text).map Block.start = d.markers text) ∧
    (∀ m ∈ (d.markers text).getLast?, ¬ d.Terminated (text.drop (m + d.keyword.length)) →
      (d.parse text).map Block.start = (d.markers text).dropLast) ∧
    ∀ k b, (d.parse text)[k]? = some b →
      (d.markers text)[k]? = some b.start ∧ d.ReadFrom text (d.markers text)[k + 1]? b := by
  have hstarts := d.map_start_blocksAt text (d.markers text)
  simp only [region_none] at hstarts
  exact ⟨hstarts.1, hstarts.2, fun k b hb => readFrom_of_getElem?_blocksAt hb⟩

end Dialect

end MarkupCatalog.Annotation
