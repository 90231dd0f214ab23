import MarkupCatalog.Proofs.Annotation.Grammar
import MarkupCatalog.Proofs.Annotation.Layout
import MarkupCatalog.Settings.Basic

/-!
# Printing annotations

The reverse of parsing: entries are written one after the other as annotated blocks in
the usual dialect, and parsing what was written gives them back.

1.  A header line `key: value` is read as that pair (`pair?_pairLine`), so a printed
    header is read as its name and its pairs (`ofHeader_header`).
2.  No closer, no keyword and no blank line arises where two printed parts meet: a
    character that belongs to none of them stands at every seam.
3.  Hence the markers of a printed text are the printed keywords (`markers_print`), and
    the region of each of them is cut where its header and its body end.
-/

namespace MarkupCatalog.Annotation

/-- The usual keyword and comment delimiters. -/
def Dialect.usual : Dialect :=
  ⟨Settings.defaultKeyword, Settings.defaultOpening, Settings.defaultClosing,
    Settings.defaultKeyword_ne_nil⟩

/-- What one annotation says: a name, pairs, and the block behind them. -/
structure Entry where
  name : Text
  pairs : List (Text × Text)
  body : Text

namespace Entry

/-- A pair on a line of its own. -/
def pairLine (pair : Text × Text) : Text := pair.1 ++ ": " ++ pair.2

/-- The pairs, each with a line feed behind it. -/
def printPairs (pairs : List (Text × Text)) : Text :=
  pairs.flatMap fun pair => pairLine pair ++ "\n"

/-- The header of the entry: what stands between the keyword and the closer. -/
def header (e : Entry) : Text := ' ' :: e.name ++ '\n' :: printPairs e.pairs

/-- The entry as an annotated block. -/
def print (e : Entry) : Text :=
  "<!-- @component " ++ e.name ++ "\n" ++ printPairs e.pairs ++ "-->" ++ e.body

/-- The metadata that the entry stands for. -/
def metadata (e : Entry) : Metadata :=
  Metadata.insertAll (Metadata.insert [] Metadata.nameKey e.name) e.pairs

/-- The text stays on one line, has no white space at its ends, and holds neither a
closer nor a keyword. -/
structure Inline (t : Text) : Prop where
  stripped : Text.strip t = t
  oneLine : ∀ c ∈ t, Text.isLineEnd c = false
  noCloser : Text.Lacks Dialect.usual.closing t
  noKeyword : Text.Lacks Dialect.usual.keyword t

/-- The entry can be printed: its name is no pair, its keys are keys, and neither a
delimiter nor a keyword is hidden in it.  The body is free but for the keyword. -/
structure WellFormed (e : Entry) : Prop where
  name_ne_nil : e.name ≠ []
  name_inline : Inline e.name
  name_colon : e.name.head? ≠ some ':'
  name_pair : pair? e.name = none
  keys : ∀ pair ∈ e.pairs, isKey pair.1 = true
  values : ∀ pair ∈ e.pairs, Inline pair.2
  body : Text.Lacks Dialect.usual.keyword e.body

theorem inline_iff {t : Text} :
    Inline t ↔ Text.strip t = t ∧ t.any Text.isLineEnd = false ∧
      Text.Lacks Dialect.usual.closing t ∧ Text.Lacks Dialect.usual.keyword t := by
  simp only [List.any_eq_false, Bool.not_eq_true]
  exact ⟨fun ⟨h₁, h₂, h₃, h₄⟩ => ⟨h₁, h₂, h₃, h₄⟩, fun ⟨h₁, h₂, h₃, h₄⟩ => ⟨h₁, h₂, h₃, h₄⟩⟩

instance (t : Text) : Decidable (Inline t) := decidable_of_iff _ inline_iff.symm

theorem wellFormed_iff {e : Entry} :
    e.WellFormed ↔ e.name ≠ [] ∧ Inline e.name ∧ e.name.head? ≠ some ':' ∧
      pair? e.name = none ∧ (∀ pair ∈ e.pairs, isKey pair.1 = true) ∧
      (∀ pair ∈ e.pairs, Inline pair.2) ∧ Text.Lacks Dialect.usual.keyword e.body :=
  ⟨fun ⟨h₁, h₂, h₃, h₄, h₅, h₆, h₇⟩ => ⟨h₁, h₂, h₃, h₄, h₅, h₆, h₇⟩,
    fun ⟨h₁, h₂, h₃, h₄, h₅, h₆, h₇⟩ => ⟨h₁, h₂, h₃, h₄, h₅, h₆, h₇⟩⟩

instance (e : Entry) : Decidable e.WellFormed := decidable_of_iff _ wellFormed_iff.symm

end Entry

/-- What a block says, without its place in the text. -/
def Block.content (b : Block) : Metadata × Text := (b.metadata, b.raw)

/-! ## Header lines -/

open Annotation.Entry

theorem pairLine_eq (key value : Text) :
    pairLine (key, value) = key ++ ':' :: ' ' :: value := by
  simp [pairLine]

/-- What stands behind the colon of a printed pair, without white space at its end. -/
def spacedValue (value : Text) : Text := if value = [] then [] else ' ' :: value

theorem exists_spacedValue_eq (value : Text) :
    ∃ blanks, Text.isAllBlank blanks = true ∧ spacedValue value = blanks ++ value := by
  unfold spacedValue
  split
  · next h => exact ⟨[], rfl, by rw [h]; rfl⟩
  · exact ⟨[' '], by decide, rfl⟩

/-- The core of a printed pair is the pair itself, without the blank behind the colon
when there is no value. -/
theorem lineCore_pairLine {key value : Text} (hkey : isKey key = true)
    (hstrip : Text.strip value = value) :
    lineCore (pairLine (key, value)) = key ++ ':' :: spacedValue value := by
  obtain ⟨c, rest, rfl⟩ : ∃ c rest, key = c :: rest := by
    cases key with
    | nil => cases hkey
    | cons c rest => exact ⟨c, rest, rfl⟩
  have hc : isKeyStart c = true := by
    rw [isKey, Bool.and_eq_true] at hkey
    exact hkey.1
  have hblank : Text.isBlank c = false :=
    isBlank_eq_false_of_isKeyRest (isKeyRest_of_isKeyStart hc)
  have hdecor : isDecoration c = false := by
    rw [Bool.eq_false_iff]
    intro hd
    simp only [isDecoration, Bool.or_eq_true, beq_iff_eq] at hd
    rcases hd with rfl | rfl <;> exact absurd hc (by decide)
  generalize hcore : c :: rest ++ ':' :: spacedValue value = core
  have hhead : ∀ d ∈ core.head?, Text.isBlank d = false := by
    rw [← hcore]
    rintro _ ⟨⟩
    exact hblank
  have hlast : ∀ d ∈ core.getLast?, Text.isBlank d = false := by
    intro d hd
    by_cases hv : value = []
    · have hcore' : core = (c :: rest) ++ [':'] := by
        rw [← hcore, spacedValue, if_pos hv]
      rw [hcore', List.getLast?_concat] at hd
      cases hd
      decide
    · have hcore' : core = (c :: rest ++ [':', ' ']) ++ value := by
        rw [← hcore, spacedValue, if_neg hv]
        simp
      rw [hcore', List.getLast?_append_of_ne_nil _ hv] at hd
      exact (Text.strip_eq_self_iff.mp hstrip).2 d hd
  have hstripped : Text.strip core = core := Text.strip_eq_self_iff.mpr ⟨hhead, hlast⟩
  have hline : Text.strip (pairLine (c :: rest, value)) = core := by
    rw [pairLine_eq]
    by_cases hv : value = []
    · have hspace : c :: rest ++ ':' :: ' ' :: value = core ++ [' '] := by
        rw [← hcore, hv]
        simp [spacedValue]
      have hfirst : ∀ d ∈ (core ++ [' ']).head?, Text.isBlank d = false := by
        rw [← hcore]
        rintro _ ⟨⟩
        exact hblank
      rw [hspace, Text.strip, Text.stripStart_eq_self hfirst,
        Text.stripEnd_concat_of_isBlank (by decide), Text.stripEnd_eq_self hlast]
    · rw [spacedValue, if_neg hv] at hcore
      rw [hcore, hstripped]
  have hdrop : core.dropWhile isDecoration = core := by
    rw [← hcore]
    simp [hdecor]
  rw [lineCore, hline, hdrop, hstripped]

/-- **A printed pair is read back** if its value is stripped and stays on one line. -/
theorem pair?_pairLine {key value : Text} (hkey : isKey key = true)
    (hstrip : Text.strip value = value) (hline : ∀ c ∈ value, Text.isLineEnd c = false) :
    pair? (pairLine (key, value)) = some (key, value) := by
  have hfeed : '\n' ∉ value :=
    fun hmem => absurd (hline '\n' hmem) (by decide)
  obtain ⟨blanks, hblanks, hspaced⟩ := exists_spacedValue_eq value
  have hnone : Text.isAllBlank [] = true := rfl
  have hpair := IsPair.named hkey hnone hblanks hfeed
  rw [hstrip] at hpair
  rw [pair?, lineCore_pairLine hkey hstrip, hspaced]
  exact corePair?_eq_some_iff.mpr hpair

/-! ## Headers -/

variable {e : Entry} {pairs : List (Text × Text)}

theorem printPairs_cons (pair : Text × Text) (pairs : List (Text × Text)) :
    printPairs (pair :: pairs) = pairLine pair ++ '\n' :: printPairs pairs := by
  simp [printPairs]

/-- A printed pair stays on its line. -/
theorem isLineEnd_eq_false_of_mem_pairLine {key value : Text} (hkey : isKey key = true)
    (hline : ∀ c ∈ value, Text.isLineEnd c = false) {c : Char} (hc : c ∈ pairLine (key, value)) :
    Text.isLineEnd c = false := by
  rw [pairLine_eq] at hc
  simp only [List.mem_append, List.mem_cons] at hc
  rcases hc with hmem | rfl | rfl | hmem
  · have hblank := isBlank_eq_false_of_isKeyRest (isKeyRest_of_mem_of_isKey hkey hmem)
    rw [Bool.eq_false_iff]
    intro hend
    exact Bool.eq_false_iff.mp hblank (Text.isBlank_of_isLineEnd hend)
  · decide
  · decide
  · exact hline c hmem

theorem lines_printPairs (hkeys : ∀ pair ∈ pairs, isKey pair.1 = true)
    (hvalues : ∀ pair ∈ pairs, Inline pair.2) :
    Text.lines (printPairs pairs) = pairs.map pairLine := by
  induction pairs with
  | nil => rfl
  | cons pair pairs ih =>
      rw [List.forall_mem_cons] at hkeys hvalues
      rw [printPairs_cons, Text.lines_append_newline, ih hkeys.2 hvalues.2, List.map_cons]
      intro c hc
      exact isLineEnd_eq_false_of_mem_pairLine hkeys.1 hvalues.1.oneLine hc

/-- Printed pairs are read back line by line. -/
theorem filterMap_pair?_pairLine (hkeys : ∀ pair ∈ pairs, isKey pair.1 = true)
    (hvalues : ∀ pair ∈ pairs,
      Text.strip pair.2 = pair.2 ∧ ∀ c ∈ pair.2, Text.isLineEnd c = false) :
    (pairs.map pairLine).filterMap pair? = pairs := by
  induction pairs with
  | nil => rfl
  | cons pair pairs ih =>
      rw [List.forall_mem_cons] at hkeys hvalues
      have hpair : pair? (pairLine pair) = some pair :=
        pair?_pairLine hkeys.1 hvalues.1.1 hvalues.1.2
      rw [List.map_cons, List.filterMap_cons_some hpair, ih hkeys.2 hvalues.2]

/-- The name is read back from the keyword's own line. -/
theorem firstPair?_name (h : e.WellFormed) :
    Metadata.firstPair? (' ' :: e.name) = some (Metadata.nameKey, e.name) := by
  have hstrip : Text.strip (' ' :: e.name) = e.name := by
    rw [Text.strip_cons_of_isBlank (by decide), h.name_inline.stripped]
  have hpair : pair? (' ' :: e.name) = none := by
    have hnone := h.name_pair
    rw [pair?, lineCore, h.name_inline.stripped] at hnone
    rw [pair?, lineCore, hstrip, hnone]
  have hname : Metadata.nameText (' ' :: e.name) = e.name := by
    have hdrop : e.name.dropWhile (· == ':') = e.name := by
      cases hn : e.name with
      | nil => rfl
      | cons c rest =>
          have hc : c ≠ ':' := fun hc => h.name_colon (by rw [hn, hc]; rfl)
          simp [hc]
    rw [Metadata.nameText, hstrip, hdrop, h.name_inline.stripped]
  simp [Metadata.firstPair?, hpair, hname, h.name_ne_nil]

/-- **A printed header is read back** as its name and its pairs. -/
theorem ofHeader_header (h : e.WellFormed) : Metadata.ofHeader e.header = e.metadata := by
  have hline : ∀ c ∈ ' ' :: e.name, Text.isLineEnd c = false := by
    rw [List.forall_mem_cons]
    exact ⟨by decide, h.name_inline.oneLine⟩
  have hpairs : (e.pairs.map pairLine).filterMap pair? = e.pairs :=
    filterMap_pair?_pairLine h.keys
      (fun pair hpair => ⟨(h.values pair hpair).stripped, (h.values pair hpair).oneLine⟩)
  rw [Metadata.ofHeader, Metadata.headerPairs, header, Text.lines_append_newline hline,
    lines_printPairs h.keys h.values]
  simp only [firstPair?_name h, Option.toList_some, hpairs, List.singleton_append]
  rfl

/-! ## Seams -/

/-- No delimiter arises in a printed header or at its end, if it is made of characters
that separate nothing in the header and that none of the parts holds. -/
theorem clearFor_header_append {p rest : Text} {n : Nat} (hp : p ≠ [])
    (hsep : ' ' ∉ p ∧ ':' ∉ p ∧ '\n' ∉ p) (hname : Text.Lacks p e.name)
    (hkeys : ∀ pair ∈ e.pairs, Text.Lacks p pair.1)
    (hvalues : ∀ pair ∈ e.pairs, Text.Lacks p pair.2) (hrest : Text.ClearFor p rest n) :
    Text.ClearFor p (e.header ++ rest) (e.header.length + n) := by
  obtain ⟨hspace, hcolon, hnewline⟩ := hsep
  have hpairs : ∀ pairs : List (Text × Text), (∀ pair ∈ pairs, Text.Lacks p pair.1) →
      (∀ pair ∈ pairs, Text.Lacks p pair.2) →
      Text.ClearFor p (printPairs pairs ++ rest) ((printPairs pairs).length + n) := by
    intro pairs hkeys hvalues
    induction pairs with
    | nil => simpa [printPairs] using hrest
    | cons pair pairs ih =>
        rw [List.forall_mem_cons] at hkeys hvalues
        have hline := (((ih hkeys.2 hvalues.2).append_cons hp hnewline hvalues.1).cons hp
          hspace).append_cons hp hcolon hkeys.1
        rw [printPairs_cons, pairLine_eq]
        simpa [Nat.add_assoc, Nat.add_comm, Nat.add_left_comm] using hline
  have hall := ((hpairs e.pairs hkeys hvalues).append_cons hp hnewline hname).cons hp hspace
  simpa [header, Nat.add_assoc, Nat.add_comm, Nat.add_left_comm] using hall

/-- A key holds none of the characters that begin or end a delimiter. -/
theorem lacks_of_isKey {p key : Text} {c : Char} (hc : c ∈ p) (hrest : isKeyRest c = false)
    (hkey : isKey key = true) : Text.Lacks p key := by
  apply Text.lacks_of_not_mem hc
  intro hmem
  rw [isKeyRest_of_mem_of_isKey hkey hmem] at hrest
  cases hrest

/-- The first closer behind a printed header is the one that was printed. -/
theorem findClosing?_header (h : e.WellFormed) (rest : Text) :
    Dialect.usual.findClosing? (e.header ++ (Dialect.usual.closing ++ rest))
      = some (e.header.length, e.header.length + Dialect.usual.closing.length) := by
  have hclear : Text.ClearFor Dialect.usual.closing
      (e.header ++ (Dialect.usual.closing ++ rest)) (e.header.length + 0) :=
    clearFor_header_append (by decide) (by decide) h.name_inline.noCloser
      (fun pair hpair => lacks_of_isKey (c := '>') (by decide) (by decide) (h.keys pair hpair))
      (fun pair hpair => (h.values pair hpair).noCloser) (by simp [Text.ClearFor])
  have hocc : Text.OccursAt Dialect.usual.closing
      (e.header ++ (Dialect.usual.closing ++ rest)) (e.header.length + 0) :=
    Text.occursAt_append_right.mpr (Text.occursAt_zero.mpr (List.prefix_append _ _))
  have hfirst := Text.firstIndex?_eq_some_iff.mpr ⟨hocc, hclear⟩
  rw [Dialect.findClosing?, hfirst]
  rfl

/-- What is printed behind the keyword. -/
def Entry.region (e : Entry) : Text := e.header ++ (Dialect.usual.closing ++ e.body)

/-- What is printed before the keyword. -/
def lead : Text := ['<', '!', '-', '-', ' ']

theorem print_eq (e : Entry) : e.print = lead ++ (Dialect.usual.keyword ++ e.region) := by
  have hkeyword : Dialect.usual.keyword = ['@', 'c', 'o', 'm', 'p', 'o', 'n', 'e', 'n', 't'] := rfl
  have hclosing : Dialect.usual.closing = ['-', '-', '>'] := rfl
  unfold print
  simp [hkeyword, hclosing, Entry.region, header, lead]

/-- The entries, printed one after the other. -/
def printAll (entries : List Entry) : Text := entries.flatMap print

theorem printAll_cons (e : Entry) (entries : List Entry) :
    printAll (e :: entries) =
      lead ++ (Dialect.usual.keyword ++ (e.region ++ printAll entries)) := by
  rw [printAll, List.flatMap_cons, print_eq, List.append_assoc, List.append_assoc]
  rfl

/-- No keyword arises in a body, nor where the next printed entry begins. -/
theorem clearFor_body_append (h : e.WellFormed) (entries : List Entry) :
    Text.ClearFor Dialect.usual.keyword (e.body ++ printAll entries) e.body.length := by
  cases entries with
  | nil =>
      intro j _
      simpa [printAll] using h.body j
  | cons e' entries =>
      obtain ⟨rest, hrest⟩ : ∃ rest, printAll (e' :: entries) = '<' :: rest :=
        ⟨_, printAll_cons e' entries⟩
      rw [hrest]
      intro j hj hocc
      rcases (Text.occursAt_append_cons (by decide) (by decide)).mp hocc with hleft | ⟨k, hk, _⟩
      · exact h.body j hleft
      · omega

/-- No keyword arises in a printed region, nor where the next printed entry begins. -/
theorem clearFor_region_append (h : e.WellFormed) (entries : List Entry) :
    Text.ClearFor Dialect.usual.keyword (e.region ++ printAll entries) e.region.length := by
  have hbody := clearFor_body_append h entries
  have hclosing : Text.ClearFor Dialect.usual.keyword
      ('-' :: '-' :: '>' :: (e.body ++ printAll entries)) (e.body.length + 1 + 1 + 1) :=
    ((hbody.cons (by decide) (by decide)).cons (by decide) (by decide)).cons (by decide)
      (by decide)
  have hregion := clearFor_header_append (by decide) (by decide) h.name_inline.noKeyword
    (fun pair hpair => lacks_of_isKey (c := '@') (by decide) (by decide) (h.keys pair hpair))
    (fun pair hpair => (h.values pair hpair).noKeyword) hclosing
  have htext : e.region ++ printAll entries
      = e.header ++ '-' :: '-' :: '>' :: (e.body ++ printAll entries) := by
    rw [Entry.region, List.append_assoc, List.append_assoc]
    rfl
  have hlen : e.region.length = e.header.length + (e.body.length + 1 + 1 + 1) := by
    rw [Entry.region, List.length_append, List.length_append,
      show Dialect.usual.closing.length = 3 from rfl]
    omega
  rw [htext, hlen]
  exact hregion

/-! ## Markers -/

/-- The offsets of the printed keywords, if the first entry is printed at `offset`. -/
def marks (offset : Nat) : List Entry → List Nat
  | [] => []
  | e :: entries => (offset + lead.length) :: marks (offset + e.print.length) entries

/-- The keywords of a printed text are the printed ones. -/
theorem occurrencesFrom_printAll {entries : List Entry} (h : ∀ e ∈ entries, e.WellFormed)
    (offset : Nat) :
    Text.occurrencesFrom Dialect.usual.keyword 0 offset (printAll entries)
      = marks offset entries := by
  induction entries generalizing offset with
  | nil => rfl
  | cons e entries ih =>
      rw [List.forall_mem_cons] at h
      have hlead : Text.ClearFor Dialect.usual.keyword
          (lead ++ (Dialect.usual.keyword ++ (e.region ++ printAll entries))) lead.length := by
        have hstop : ∀ t : Text, Text.ClearFor Dialect.usual.keyword t 0 := by
          simp [Text.ClearFor]
        exact (((((hstop _).cons (by decide) (by decide)).cons (by decide) (by decide)).cons
          (by decide) (by decide)).cons (by decide) (by decide)).cons (by decide) (by decide)
      have hoffset : offset + lead.length + Dialect.usual.keyword.length + e.region.length
          = offset + e.print.length := by
        rw [print_eq, List.length_append, List.length_append]
        omega
      rw [printAll_cons, Text.occurrencesFrom_append_of_clearFor _ hlead,
        Text.occurrencesFrom_self_append (by decide),
        Text.occurrencesFrom_append_of_clearFor _ (clearFor_region_append h.1 entries), hoffset,
        ih h.2, marks]

/-- A comment is open right behind a printed opener. -/
theorem insideComment_append_lead (front : Text) :
    Dialect.usual.insideComment (front ++ lead) = true := by
  have hopen : Text.lastIndex? Dialect.usual.opening lead = some 0 := by decide
  rw [Dialect.insideComment_append_of_lastIndex? hopen]
  decide

/-- **The markers of a printed text** are its printed keywords: each of them stands in
the comment that was opened for it. -/
theorem markers_printAll {entries : List Entry} (h : ∀ e ∈ entries, e.WellFormed) :
    Dialect.usual.markers (printAll entries) = marks 0 entries := by
  have hinside : ∀ (front : Text) (entries : List Entry), ∀ i ∈ marks front.length entries,
      Dialect.usual.insideComment ((front ++ printAll entries).take i) = true := by
    intro front entries
    induction entries generalizing front with
    | nil => simp [marks]
    | cons e entries ih =>
        intro i hi
        rw [marks, List.mem_cons] at hi
        rcases hi with rfl | hi
        · rw [printAll_cons, ← List.append_assoc, ← List.length_append, List.take_left]
          exact insideComment_append_lead front
        · have hfront := ih (front ++ e.print) i (by rwa [List.length_append])
          rwa [List.append_assoc] at hfront
  rw [Dialect.markers, Text.occurrences, occurrencesFrom_printAll h]
  exact List.filter_eq_self.mpr (hinside [] entries)

/-! ## Terminators -/

/-- No blank line starts in the first `n` characters. -/
def Unbroken (text : Text) (n : Nat) : Prop :=
  ∀ i j, findBlankLine? text = some (i, j) → n ≤ i

/-- A character at which no blank line starts puts off the first one. -/
theorem Unbroken.cons_of_none {c : Char} {t : Text} {n : Nat} (h : Unbroken t n)
    (hnone : blankLineLength? (c :: t) = none) : Unbroken (c :: t) (n + 1) := by
  intro i j hij
  simp only [findBlankLine?, hnone] at hij
  obtain ⟨⟨i', j'⟩, hrest, heq⟩ := Option.map_eq_some_iff.mp hij
  cases heq
  exact Nat.succ_le_succ (h i' j' hrest)

theorem lineBreak?_eq_none_of_not_isLineEnd {c : Char} {t : Text}
    (hc : Text.isLineEnd c = false) : lineBreak? (c :: t) = none := by
  apply lineBreak?_cons_of_ne
  · rintro rfl
    exact absurd hc (by decide)
  · rintro rfl
    exact absurd hc (by decide)

/-- No blank line starts within a line. -/
theorem Unbroken.append {a t : Text} {n : Nat} (h : Unbroken t n)
    (ha : ∀ c ∈ a, Text.isLineEnd c = false) : Unbroken (a ++ t) (a.length + n) := by
  induction a with
  | nil => simpa using h
  | cons c a ih =>
      rw [List.forall_mem_cons] at ha
      have hnone : blankLineLength? (c :: (a ++ t)) = none := by
        simp [blankLineLength?, lineBreak?_eq_none_of_not_isLineEnd ha.1]
      have hcons := (ih ha.2).cons_of_none hnone
      rwa [Nat.add_right_comm] at hcons

/-- No blank line starts at the end of a line if the next one starts with something that
is no white space. -/
theorem Unbroken.newline {c : Char} {t : Text} {n : Nat} (h : Unbroken (c :: t) n)
    (hc : Text.isBlank c = false) : Unbroken ('\n' :: c :: t) (n + 1) := by
  apply h.cons_of_none
  have hspace : isSpaceOrTab c = false := by
    rw [Bool.eq_false_iff]
    intro hs
    simp only [isSpaceOrTab, Bool.or_eq_true, beq_iff_eq] at hs
    rcases hs with rfl | rfl <;> exact absurd hc (by decide)
  have hend : Text.isLineEnd c = false := by
    rw [Bool.eq_false_iff]
    intro hend
    exact Bool.eq_false_iff.mp hc (Text.isBlank_of_isLineEnd hend)
  have hfirst : lineBreak? ('\n' :: c :: t) = some (1, c :: t) := rfl
  simp [blankLineLength?, hfirst, hspace, lineBreak?_eq_none_of_not_isLineEnd hend]

/-- No blank line starts in printed pairs, nor at the closer behind them; and what is
printed starts with a key or with the closer, so none starts at a line end before it. -/
theorem unbroken_printPairs (rest : Text) (hkeys : ∀ pair ∈ pairs, isKey pair.1 = true)
    (hvalues : ∀ pair ∈ pairs, Inline pair.2) :
    ∃ c t, printPairs pairs ++ '-' :: rest = c :: t ∧ Text.isBlank c = false ∧
      Unbroken (c :: t) ((printPairs pairs).length + 1) := by
  induction pairs with
  | nil =>
      refine ⟨'-', rest, rfl, by decide, ?_⟩
      have hnone : blankLineLength? ('-' :: rest) = none := rfl
      exact Unbroken.cons_of_none (fun _ _ _ => Nat.zero_le _) hnone
  | cons pair pairs ih =>
      rw [List.forall_mem_cons] at hkeys hvalues
      obtain ⟨c, t, htext, hc, hunbroken⟩ := ih hkeys.2 hvalues.2
      obtain ⟨key, value⟩ := pair
      have hlines := (hunbroken.newline hc).append
        (fun d hd => isLineEnd_eq_false_of_mem_pairLine hkeys.1 hvalues.1.oneLine hd)
      have hprinted : printPairs ((key, value) :: pairs) ++ '-' :: rest
          = pairLine (key, value) ++ '\n' :: c :: t := by
        rw [printPairs_cons, List.append_assoc, List.cons_append, htext]
      have hlen : (printPairs ((key, value) :: pairs)).length + 1
          = (pairLine (key, value)).length + ((printPairs pairs).length + 1 + 1) := by
        rw [printPairs_cons, List.length_append, List.length_cons]
        omega
      rw [hprinted, hlen]
      rw [pairLine_eq] at hlines ⊢
      cases hk : key with
      | nil => simp [hk, isKey] at hkeys
      | cons k key' =>
          rw [hk] at hlines
          refine ⟨k, _, rfl, ?_, hlines⟩
          apply isBlank_eq_false_of_isKeyRest
          exact isKeyRest_of_mem_of_isKey hkeys.1 (by simp [hk])

/-- No blank line starts in a printed header, nor at the closer behind it. -/
theorem unbroken_header (h : e.WellFormed) (rest : Text) :
    Unbroken (e.header ++ '-' :: rest) (e.header.length + 1) := by
  obtain ⟨c, t, htext, hc, hunbroken⟩ := unbroken_printPairs rest h.keys h.values
  have hline : ∀ c ∈ ' ' :: e.name, Text.isLineEnd c = false := by
    rw [List.forall_mem_cons]
    exact ⟨by decide, h.name_inline.oneLine⟩
  have hall := (hunbroken.newline hc).append hline
  rw [← htext] at hall
  simpa [header, Nat.add_assoc, Nat.add_comm, Nat.add_left_comm] using hall

/-- **The terminator of a printed header** is the printed closer. -/
theorem terminator?_header (h : e.WellFormed) (rest : Text) :
    Dialect.usual.terminator? (e.header ++ (Dialect.usual.closing ++ rest))
      = some (e.header.length, e.header.length + Dialect.usual.closing.length) := by
  rw [Dialect.terminator?, findClosing?_header h]
  cases hblank : findBlankLine? (e.header ++ (Dialect.usual.closing ++ rest)) with
  | none => rfl
  | some span =>
      have hlater : e.header.length + 1 ≤ span.1 :=
        unbroken_header h ('-' :: '>' :: rest) span.1 span.2 hblank
      simp only [earlier, Option.some.injEq]
      exact if_pos (Or.inl (by omega))

/-! ## The round trip -/

/-- What is left of a body before the next printed entry is the body. -/
theorem beforeOpener_append_lead (body : Text) :
    Dialect.usual.beforeOpener (body ++ lead) = body := by
  have hopen : Text.lastIndex? Dialect.usual.opening lead = some 0 := by decide
  exact Dialect.beforeOpener_append hopen

/-- What a block says follows from its region alone. -/
theorem content_blockAt? {d : Dialect} {text region : Text} {start headerEnd blockStart : Nat}
    {next : Option Nat}
    (hregion : text.slice (start + d.keyword.length) (next.getD text.length) = region)
    (hterm : d.terminator? region = some (headerEnd, blockStart)) :
    (d.blockAt? text start next).map Block.content
      = some (Metadata.ofHeader (region.take headerEnd),
          if next.isSome then d.beforeOpener (region.drop blockStart)
          else region.drop blockStart) := by
  simp only [Dialect.blockAt?, hregion, hterm]
  rfl

/-- The header and the rest of a printed region. -/
theorem take_drop_header (e : Entry) (rest : Text) :
    (e.header ++ (Dialect.usual.closing ++ rest)).take e.header.length = e.header ∧
      (e.header ++ (Dialect.usual.closing ++ rest)).drop
        (e.header.length + Dialect.usual.closing.length) = rest := by
  constructor
  · exact List.take_left
  · rw [← List.drop_drop, List.drop_left, List.drop_left]

/-- The last printed entry is read back as its metadata and its body. -/
theorem content_blockAt?_last (h : e.WellFormed) (front : Text) :
    (Dialect.usual.blockAt? (front ++ printAll [e]) (front.length + lead.length) none).map
      Block.content = some (e.metadata, e.body) := by
  have hregion : (front ++ printAll [e]).slice
      (front.length + lead.length + Dialect.usual.keyword.length)
        ((none : Option Nat).getD (front ++ printAll [e]).length)
      = e.header ++ (Dialect.usual.closing ++ e.body) := by
    have hslice := Text.slice_append_append (front ++ lead ++ Dialect.usual.keyword) e.region []
    rw [← List.length_append] at hslice
    simpa [printAll, print_eq, Nat.add_assoc, Entry.region] using hslice
  obtain ⟨htake, hdrop⟩ := take_drop_header e e.body
  rw [content_blockAt? hregion (terminator?_header h e.body), htake, hdrop, ofHeader_header h]
  rfl

/-- A printed entry with another one behind it is read back as its metadata and its
body: the opener of the other one is cut off. -/
theorem content_blockAt?_next (h : e.WellFormed) (front : Text) (e' : Entry)
    (entries : List Entry) :
    (Dialect.usual.blockAt? (front ++ printAll (e :: e' :: entries)) (front.length + lead.length)
      (some (front.length + e.print.length + lead.length))).map Block.content
        = some (e.metadata, e.body) := by
  have hregion : (front ++ printAll (e :: e' :: entries)).slice
      (front.length + lead.length + Dialect.usual.keyword.length)
        ((some (front.length + e.print.length + lead.length)).getD
          (front ++ printAll (e :: e' :: entries)).length)
      = e.header ++ (Dialect.usual.closing ++ (e.body ++ lead)) := by
    have hslice := Text.slice_append_append (front ++ lead ++ Dialect.usual.keyword)
      (e.region ++ lead) (Dialect.usual.keyword ++ (e'.region ++ printAll entries))
    rw [← List.length_append] at hslice
    simpa [printAll_cons e, printAll_cons e', print_eq, Nat.add_assoc, Entry.region] using hslice
  obtain ⟨htake, hdrop⟩ := take_drop_header e (e.body ++ lead)
  rw [content_blockAt? hregion (terminator?_header h _), htake, hdrop, ofHeader_header h]
  simp only [Option.isSome_some, if_true, beforeOpener_append_lead]

theorem content_blocksAt_printAll {entries : List Entry} (h : ∀ e ∈ entries, e.WellFormed)
    (front : Text) :
    (Dialect.usual.blocksAt (front ++ printAll entries) (marks front.length entries)).map
      Block.content = entries.map fun e => (e.metadata, e.body) := by
  induction entries generalizing front with
  | nil => rfl
  | cons e entries ih =>
      rw [List.forall_mem_cons] at h
      cases entries with
      | nil =>
          simp only [marks, Dialect.blocksAt]
          rw [← Option.toList_map, content_blockAt?_last h.1]
          rfl
      | cons e' entries =>
          have hfront : front ++ printAll (e :: e' :: entries)
              = (front ++ e.print) ++ printAll (e' :: entries) := by
            rw [List.append_assoc]
            rfl
          have htail := ih h.2 (front ++ e.print)
          rw [← hfront, List.length_append] at htail
          simp only [marks, Dialect.blocksAt, List.map_append] at htail ⊢
          rw [← Option.toList_map, content_blockAt?_next h.1, htail]
          rfl

/-- **Round trip.**  Parsing printed entries gives them back, each with its metadata and
its body, and nothing else. -/
theorem content_parse_printAll (entries : List Entry) (h : ∀ e ∈ entries, e.WellFormed) :
    (Dialect.usual.parse (printAll entries)).map Block.content
      = entries.map fun e => (e.metadata, e.body) := by
  rw [Dialect.parse, markers_printAll h]
  exact content_blocksAt_printAll h []

/-- Two entries whose bodies hold delimiters and blank lines. -/
def sampleEntries : List Entry :=
  [⟨"Button <!-- 2", [("status", "ok: -- yes"), ("a.b-c", "")], "\n\n--> <!-- x <b>"⟩,
    ⟨"Card", [("status", "a"), ("name", "Plain"), ("status", "b")], ""⟩]

theorem content_parse_printAll_sampleEntries :
    (∀ e ∈ sampleEntries, e.WellFormed) ∧
      (Dialect.usual.parse (printAll sampleEntries)).map Block.content
        = sampleEntries.map fun e => (e.metadata, e.body) :=
  ⟨by decide, content_parse_printAll sampleEntries (by decide)⟩

end MarkupCatalog.Annotation
