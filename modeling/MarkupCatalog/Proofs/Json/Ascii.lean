import MarkupCatalog.Proofs.Charset.Utf8
import MarkupCatalog.Proofs.Json.Roundtrip

/-!
# Printing in ASCII

Whatever is printed for the console is ASCII (`isAscii_indented`).  All that is printed beside the
literals is, and of a literal the characters that are kept are, and the digits of those that are
escaped by number.
-/

namespace MarkupCatalog

namespace Text

/-- Every character of the text is one of the first 128. -/
def IsAscii (t : Text) : Prop := ∀ c ∈ t, c.toNat < 0x80

instance (t : Text) : Decidable (IsAscii t) := List.decidableBAll _ t

variable {t u : Text}

theorem isAscii_nil : IsAscii [] := List.forall_mem_nil _

theorem IsAscii.append (ht : IsAscii t) (hu : IsAscii u) : IsAscii (t ++ u) :=
  fun c hc => (List.mem_append.mp hc).elim (ht c) (hu c)

theorem IsAscii.cons {c : Char} (hc : c.toNat < 0x80) (ht : IsAscii t) : IsAscii (c :: t) :=
  List.forall_mem_cons.mpr ⟨hc, ht⟩

/-- What is put together out of ASCII is ASCII. -/
theorem isAscii_flatMap {α : Type} {f : α → Text} {items : List α}
    (h : ∀ item ∈ items, IsAscii (f item)) : IsAscii (items.flatMap f) := by
  intro c hc
  obtain ⟨item, hitem, hmem⟩ := List.mem_flatMap.mp hc
  exact h item hitem c hmem

/-- Pieces in ASCII, with ASCII between them, are ASCII. -/
theorem isAscii_joinWith {glue : Text} {pieces : List Text} (hglue : IsAscii glue)
    (h : ∀ piece ∈ pieces, IsAscii piece) : IsAscii (joinWith glue pieces) := by
  intro c hc
  rcases mem_joinWith hc with hmem | ⟨piece, hpiece, hmem⟩
  · exact hglue c hmem
  · exact h piece hpiece c hmem

/-- Decimal digits are ASCII. -/
theorem isAscii_ofNat (n : Nat) : IsAscii (ofNat n) := by
  intro c hc
  have hdigit := Json.isDigit_of_mem_ofNat hc
  simp only [Char.isDigit, Bool.and_eq_true, decide_eq_true_eq, UInt32.le_iff_toNat_le] at hdigit
  exact Nat.lt_of_le_of_lt hdigit.2 (by decide)

end Text

namespace Json

open Text

/-! ## Literals -/

theorem toNat_digitChar_lt : ∀ d < 16, d.digitChar.toNat < 0x80 := by decide

/-- An escape by number is ASCII: a backslash, a letter and four digits. -/
theorem isAscii_numericEscape {unit : Nat} (hunit : unit < 0x10000) :
    IsAscii (numericEscape unit) := by
  rw [numericEscape, hexDigits_four hunit]
  refine .cons (by decide) (.cons (by decide) ?_)
  simp only [IsAscii, List.forall_mem_cons]
  exact ⟨toNat_digitChar_lt _ (by omega), toNat_digitChar_lt _ (by omega),
    toNat_digitChar_lt _ (by omega), toNat_digitChar_lt _ (by omega), List.forall_mem_nil _⟩

/-- Whatever stands for a character by number fits into four digits. -/
theorem lt_of_mem_units {c : Char} {unit : Nat} (h : unit ∈ units c) : unit < 0x10000 := by
  have hbound := Charset.Utf8.toNat_bounds c
  rw [units] at h
  split at h
  · next hsmall => rwa [List.mem_singleton.mp h]
  · simp only [List.mem_cons, List.not_mem_nil, or_false] at h
    omega

/-- The characters that have a short escape have an ASCII letter for it. -/
theorem isAscii_of_shortEscape? {c letter : Char} (h : shortEscape? c = some letter) :
    IsAscii ['\\', letter] := by
  unfold shortEscape? at h
  repeat' split at h
  all_goals cases h
  · next hc => rcases hc with rfl | rfl <;> decide
  all_goals decide

/-- **Every character of a literal for the console** is written in ASCII. -/
theorem isAscii_literalChar (c : Char) : IsAscii (literalChar .ascii c) := by
  rw [literalChar]
  split
  · next hshort => exact isAscii_of_shortEscape? hshort
  · split
    · next hkept =>
      simp only [Alphabet.ascii, Bool.and_eq_true, decide_eq_true_eq] at hkept
      exact .cons (by omega) isAscii_nil
    · exact isAscii_flatMap fun unit hunit => isAscii_numericEscape (lt_of_mem_units hunit)

/-- A literal for the console is ASCII, with its quotes. -/
theorem isAscii_literal (t : Text) : IsAscii (literal .ascii t) :=
  .append (.cons (by decide) (isAscii_flatMap fun c _ => isAscii_literalChar c)) (by decide)

/-! ## Values -/

/-- A line is indented by spaces. -/
theorem isAscii_newLine (depth : Nat) : IsAscii (newLine depth) := by
  refine .cons (by decide) fun c hc => ?_
  rw [List.eq_of_mem_replicate hc]
  decide

/-- What stands between brackets over several lines is ASCII if its parts and the brackets are. -/
theorem isAscii_bracketed {opening closing : Text} {parts : List Text} (hopening : IsAscii opening)
    (hclosing : IsAscii closing) (depth : Nat) (h : ∀ part ∈ parts, IsAscii part) :
    IsAscii (bracketed opening closing depth parts) := by
  have hglue : IsAscii (',' :: newLine (depth + 1)) := .cons (by decide) (isAscii_newLine _)
  rw [bracketed]
  split
  · exact hopening.append hclosing
  · exact (((hopening.append (isAscii_newLine _)).append (isAscii_joinWith hglue h)).append
      (isAscii_newLine _)).append hclosing

mutual

/-- **What is printed over several lines** is ASCII. -/
theorem isAscii_indented (depth : Nat) : ∀ j : Json, IsAscii (j.indented depth)
  | .text t => by
      rw [indented]
      exact isAscii_literal t
  | .number n => by
      rw [indented]
      exact isAscii_ofNat n
  | .array items => by
      rw [indented]
      exact isAscii_bracketed (by decide) (by decide) depth
        (isAscii_indentedItems (depth + 1) items)
  | .object members => by
      rw [indented]
      exact isAscii_bracketed (by decide) (by decide) depth
        (isAscii_indentedMembers (depth + 1) members)

/-- The items of an array. -/
theorem isAscii_indentedItems (depth : Nat) :
    ∀ items : List Json, ∀ part ∈ indentedItems depth items, IsAscii part
  | [] => by
      rw [indentedItems]
      exact List.forall_mem_nil _
  | item :: items => by
      rw [indentedItems, List.forall_mem_cons]
      exact ⟨isAscii_indented depth item, isAscii_indentedItems depth items⟩

/-- The members of an object. -/
theorem isAscii_indentedMembers (depth : Nat) :
    ∀ members : List (Text × Json), ∀ part ∈ indentedMembers depth members, IsAscii part
  | [] => by
      rw [indentedMembers]
      exact List.forall_mem_nil _
  | (key, item) :: members => by
      rw [indentedMembers, List.forall_mem_cons]
      exact ⟨((isAscii_literal key).append (by decide)).append (isAscii_indented depth item),
        isAscii_indentedMembers depth members⟩

end

end Json

end MarkupCatalog
