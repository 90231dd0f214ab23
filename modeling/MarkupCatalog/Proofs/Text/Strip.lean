import Mathlib.Data.List.Basic
import Mathlib.Data.List.TakeWhile
import MarkupCatalog.Annotation.Pair
import MarkupCatalog.Text.Lines

/-!
# Stripped texts and single lines

When taking white space off the ends of a text changes nothing, and when a text is one
line.  Keys are made of characters that are neither white space nor line ends, which is
why a key is never broken by either of the two.
-/

namespace MarkupCatalog.Text

variable {t : Text} {c : Char}

/-! ## Classes of characters -/

/-- The code points of the white space characters. -/
def blankCodes : List Nat :=
  [0x09, 0x0A, 0x0B, 0x0C, 0x0D, 0x1C, 0x1D, 0x1E, 0x1F, 0x20, 0x85, 0xA0, 0x1680, 0x2000, 0x2001,
   0x2002, 0x2003, 0x2004, 0x2005, 0x2006, 0x2007, 0x2008, 0x2009, 0x200A, 0x2028, 0x2029, 0x202F,
   0x205F, 0x3000]

theorem mem_blankCodes_of_isBlank (h : isBlank c = true) : c.toNat ∈ blankCodes := by
  simp only [isBlank, Bool.or_eq_true, Bool.and_eq_true, decide_eq_true_eq, beq_iff_eq] at h
  simp only [blankCodes, List.mem_cons, List.not_mem_nil, or_false]
  omega

/-- White space is no word character. -/
theorem isWord_eq_false_of_isBlank (h : isBlank c = true) : isWord c = false := by
  have hall : ∀ n ∈ blankCodes, isWord (Char.ofNat n) = false := by decide +kernel
  have hc := hall c.toNat (mem_blankCodes_of_isBlank h)
  rwa [Char.ofNat_toNat] at hc

/-- A character that ends a line is white space. -/
theorem isBlank_of_isLineEnd (h : isLineEnd c = true) : isBlank c = true := by
  simp only [isLineEnd, Bool.or_eq_true, Bool.and_eq_true, decide_eq_true_eq, beq_iff_eq] at h
  simp only [isBlank, Bool.or_eq_true, Bool.and_eq_true, decide_eq_true_eq, beq_iff_eq]
  omega

/-! ## Stripping -/

theorem stripStart_cons_of_not_isBlank (hc : isBlank c = false) :
    stripStart (c :: t) = c :: t := by
  simp [stripStart, hc]

theorem stripStart_cons_of_isBlank (hc : isBlank c = true) :
    stripStart (c :: t) = stripStart t := by
  simp [stripStart, hc]

theorem stripEnd_concat_of_not_isBlank (hc : isBlank c = false) :
    stripEnd (t ++ [c]) = t ++ [c] := by
  simp [stripEnd, dropEndWhile, hc]

theorem stripEnd_concat_of_isBlank (hc : isBlank c = true) :
    stripEnd (t ++ [c]) = stripEnd t := by
  simp [stripEnd, dropEndWhile, hc]

/-- No blank is left at the start. -/
theorem isBlank_head?_stripStart (hc : c ∈ (stripStart t).head?) : isBlank c = false := by
  have h := List.head?_dropWhile_not isBlank t
  rw [stripStart] at hc
  rw [hc] at h
  exact h

/-- No blank is left at the end. -/
theorem isBlank_getLast?_stripEnd (hc : c ∈ (stripEnd t).getLast?) : isBlank c = false := by
  have h := List.head?_dropWhile_not isBlank t.reverse
  rw [stripEnd, dropEndWhile, List.getLast?_reverse] at hc
  rw [hc] at h
  exact h

/-- What is left without the white space at its end is a beginning of the text. -/
theorem stripEnd_prefix (t : Text) : stripEnd t <+: t := by
  have h := List.dropWhile_suffix (l := t.reverse) isBlank
  rwa [← List.reverse_prefix, List.reverse_reverse] at h

/-- A stripped text does not begin with a blank. -/
theorem isBlank_head?_strip (hc : c ∈ (strip t).head?) : isBlank c = false := by
  obtain ⟨rest, hrest⟩ := stripEnd_prefix (stripStart t)
  apply isBlank_head?_stripStart (t := t)
  cases hs : strip t with
  | nil => simp [hs] at hc
  | cons d front =>
      rw [← hrest, ← strip, hs]
      rw [hs] at hc
      exact hc

/-- A text that does not begin with a blank keeps its start. -/
theorem stripStart_eq_self (h : ∀ c ∈ t.head?, isBlank c = false) : stripStart t = t := by
  cases t with
  | nil => rfl
  | cons c rest => exact stripStart_cons_of_not_isBlank (h c rfl)

/-- A text that does not end with a blank keeps its end. -/
theorem stripEnd_eq_self (h : ∀ c ∈ t.getLast?, isBlank c = false) : stripEnd t = t := by
  rcases List.eq_nil_or_concat' t with rfl | ⟨front, c, rfl⟩
  · rfl
  · exact stripEnd_concat_of_not_isBlank (h c (by simp))

/-- **Stripped texts.**  Stripping changes nothing exactly when the text starts and ends
with characters that are no white space. -/
theorem strip_eq_self_iff :
    strip t = t ↔
      (∀ c ∈ t.head?, isBlank c = false) ∧ ∀ c ∈ t.getLast?, isBlank c = false := by
  constructor
  · intro h
    constructor
    · intro c hc
      rw [← h] at hc
      exact isBlank_head?_strip hc
    · intro c hc
      rw [← h] at hc
      exact isBlank_getLast?_stripEnd hc
  · rintro ⟨hhead, hlast⟩
    rw [strip, stripStart_eq_self hhead, stripEnd_eq_self hlast]

/-- White space in front is stripped. -/
theorem strip_cons_of_isBlank (hc : isBlank c = true) : strip (c :: t) = strip t := by
  rw [strip, stripStart_cons_of_isBlank hc, strip]

/-- White space in front makes no difference to what is left. -/
theorem stripStart_append {w : Text} (hw : isAllBlank w = true) (t : Text) :
    stripStart (w ++ t) = stripStart t := by
  rw [stripStart, List.dropWhile_append_of_pos (List.all_eq_true.mp hw), stripStart]

/-- A text is the white space at its start and the rest. -/
theorem exists_append_stripStart (t : Text) :
    ∃ w, isAllBlank w = true ∧ t = w ++ stripStart t :=
  ⟨t.takeWhile isBlank, List.all_takeWhile, (List.takeWhile_append_dropWhile).symm⟩

/-- Blanks that are gone already make no difference. -/
theorem strip_stripStart (t : Text) : strip (stripStart t) = strip t := by
  rw [strip, strip, stripStart_eq_self (fun _ hc => isBlank_head?_stripStart hc)]

theorem stripStart_sublist (t : Text) : (stripStart t).Sublist t := List.dropWhile_sublist _

/-- Stripping adds nothing. -/
theorem strip_sublist (t : Text) : (strip t).Sublist t := by
  have hend := stripEnd_prefix (stripStart t)
  exact hend.sublist.trans (stripStart_sublist t)

/-- Nothing is left of a text if it is blank. -/
theorem strip_eq_nil_iff : strip t = [] ↔ isAllBlank t = true := by
  rw [isAllBlank, List.all_eq_true, ← List.dropWhile_eq_nil_iff]
  constructor
  · intro h
    rw [strip, stripEnd, dropEndWhile, List.reverse_eq_nil_iff, List.dropWhile_eq_nil_iff] at h
    rcases hstart : stripStart t with _ | ⟨c, rest⟩
    · exact hstart
    · have hblank := h c (by simp [hstart])
      rw [isBlank_head?_stripStart (t := t) (by rw [hstart]; rfl)] at hblank
      cases hblank
  · intro h
    rw [strip, stripStart, h]
    rfl

/-- What is stripped is stripped for good. -/
theorem strip_strip (t : Text) : strip (strip t) = strip t :=
  strip_eq_self_iff.mpr
    ⟨fun _ hc => isBlank_head?_strip hc, fun _ hc => isBlank_getLast?_stripEnd hc⟩

/-! ## Lines -/

/-- A line ends at its line feed. -/
theorem lines_append_newline {line rest : Text} (h : ∀ c ∈ line, isLineEnd c = false) :
    lines (line ++ '\n' :: rest) = line :: lines rest := by
  induction line with
  | nil =>
      have hend : isLineEnd '\n' = true := by decide
      simp [lines, hend]
  | cons c line ih =>
      have hc := h c List.mem_cons_self
      have hrest := ih (fun d hd => h d (List.mem_cons_of_mem _ hd))
      have hcr : c ≠ '\r' := by
        rintro rfl
        revert hc
        decide
      rw [List.cons_append, lines.eq_3 _ _ (fun _ heq _ => hcr heq), hrest]
      simp [hc, consLine]

/-- A text without line ends is one line, unless it is empty. -/
theorem lines_eq_singleton (hne : t ≠ []) (h : ∀ c ∈ t, isLineEnd c = false) : lines t = [t] := by
  induction t with
  | nil => exact absurd rfl hne
  | cons c t ih =>
      rw [List.forall_mem_cons] at h
      have hcr : c ≠ '\r' := by
        rintro rfl
        exact absurd h.1 (by decide)
      rw [lines.eq_3 _ _ (fun _ heq _ => hcr heq), h.1]
      cases t with
      | nil => rfl
      | cons d t => simp [ih (List.cons_ne_nil d t) h.2, consLine]

/-- No line holds a line end. -/
theorem isLineEnd_eq_false_of_mem_lines {line : Text} (hline : line ∈ lines t) :
    ∀ c ∈ line, isLineEnd c = false := by
  fun_induction lines t generalizing line with
  | case1 => cases hline
  | case2 rest ih =>
      obtain rfl | hline := List.mem_cons.mp hline
      · simp
      · exact ih hline
  | case3 c rest _ hend ih =>
      obtain rfl | hline := List.mem_cons.mp hline
      · simp
      · exact ih hline
  | case4 c rest _ hend ih =>
      have hc : isLineEnd c = false := Bool.eq_false_iff.mpr hend
      cases hlines : lines rest with
      | nil =>
          rw [hlines, consLine, List.mem_singleton] at hline
          simpa [hline] using hc
      | cons first others =>
          rw [hlines, consLine] at hline
          obtain rfl | hline := List.mem_cons.mp hline
          · rw [List.forall_mem_cons]
            exact ⟨hc, ih (by rw [hlines]; exact List.mem_cons_self)⟩
          · exact ih (by rw [hlines]; exact List.mem_cons_of_mem _ hline)

end MarkupCatalog.Text

namespace MarkupCatalog.Annotation

/-! ## Keys -/

variable {c : Char} {key : Text}

theorem isBlank_eq_false_of_isKeyRest (h : isKeyRest c = true) : Text.isBlank c = false := by
  by_contra hblank
  rw [Bool.not_eq_false] at hblank
  simp only [isKeyRest, Text.isWord_eq_false_of_isBlank hblank, Bool.false_or, Bool.or_eq_true,
    beq_iff_eq] at h
  rcases h with rfl | rfl
  · exact absurd hblank (by decide)
  · exact absurd hblank (by decide)

/-- A character that may start a key may also go on with it. -/
theorem isKeyRest_of_isKeyStart (h : isKeyStart c = true) : isKeyRest c = true := by
  simp only [isKeyStart, Bool.or_eq_true, beq_iff_eq] at h
  rcases h with halpha | rfl
  · have hword : Text.isWord c = true :=
      Text.isWord_of_isAlphanum (by simp [Char.isAlphanum, halpha])
    simp [isKeyRest, hword]
  · decide

/-- Every character of a key is one that a key may go on with. -/
theorem isKeyRest_of_mem_of_isKey (hkey : isKey key = true) (hc : c ∈ key) :
    isKeyRest c = true := by
  cases key with
  | nil => cases hc
  | cons d rest =>
      rw [isKey, Bool.and_eq_true] at hkey
      rcases List.mem_cons.mp hc with rfl | hrest
      · exact isKeyRest_of_isKeyStart hkey.1
      · exact List.all_eq_true.mp hkey.2 c hrest

end MarkupCatalog.Annotation
