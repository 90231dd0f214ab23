import Mathlib.Data.List.Basic
import MarkupCatalog.Text.Basic

/-!
# Joined and split texts

Pieces that lack the separator come back when the text that is joined of them is split.
-/

namespace MarkupCatalog.Text

theorem joinWith_cons_cons (glue p q : Text) (pieces : List Text) :
    joinWith glue (p :: q :: pieces) = p ++ glue ++ joinWith glue (q :: pieces) := rfl

/-- Pieces that are joined begin with the first one. -/
theorem joinWith_cons (glue p : Text) (pieces : List Text) :
    ∃ t, joinWith glue (p :: pieces) = p ++ t := by
  cases pieces with
  | nil => exact ⟨[], (List.append_nil p).symm⟩
  | cons q pieces => exact ⟨_, List.append_assoc p glue _⟩

/-- They end with the last one. -/
theorem joinWith_concat (glue : Text) (pieces : List Text) (p : Text) :
    ∃ t, joinWith glue (pieces ++ [p]) = t ++ p := by
  induction pieces with
  | nil => exact ⟨[], rfl⟩
  | cons q pieces ih =>
      obtain ⟨t, ht⟩ := ih
      obtain ⟨next, rest, hrest⟩ := List.exists_cons_of_ne_nil (List.concat_ne_nil p pieces)
      rw [hrest] at ht
      refine ⟨q ++ glue ++ t, ?_⟩
      rw [List.cons_append, hrest, joinWith_cons_cons, ht, ← List.append_assoc]

/-- All characters come from the pieces and from what joins them. -/
theorem mem_joinWith {glue : Text} {pieces : List Text} {c : Char}
    (h : c ∈ joinWith glue pieces) : c ∈ glue ∨ ∃ piece ∈ pieces, c ∈ piece := by
  induction pieces with
  | nil => cases h
  | cons p pieces ih =>
      cases pieces with
      | nil => exact .inr ⟨p, List.mem_cons_self, h⟩
      | cons q pieces =>
          rw [joinWith_cons_cons, List.mem_append, List.mem_append] at h
          rcases h with (hp | hglue) | hrest
          · exact .inr ⟨p, List.mem_cons_self, hp⟩
          · exact .inl hglue
          · exact (ih hrest).imp_right fun ⟨piece, hpiece, hc⟩ =>
              ⟨piece, List.mem_cons_of_mem p hpiece, hc⟩

/-- Joining is the library's `List.intercalate`. -/
theorem joinWith_eq_intercalate (glue : Text) (pieces : List Text) :
    joinWith glue pieces = List.intercalate glue pieces := by
  induction pieces with
  | nil => rfl
  | cons piece pieces ih =>
      cases pieces with
      | nil => rw [joinWith, List.intercalate_singleton]
      | cons next pieces =>
          show piece ++ glue ++ joinWith glue (next :: pieces) = _
          rw [ih, List.intercalate_cons_cons]

/-- Splitting is the library's `List.splitOn`. -/
theorem splitOnChar_eq_splitOn (sep : Char) (text : Text) :
    splitOnChar sep text = text.splitOn sep := by
  induction text with
  | nil => rfl
  | cons c rest ih =>
      rw [splitOnChar, ih, List.splitOn_eq_splitOnP, List.splitOn_eq_splitOnP,
        List.splitOnP_cons_eq_if_modifyHead]
      by_cases hc : c = sep
      · simp [hc]
      · rw [if_neg hc, if_neg (by simpa using hc)]
        cases h : rest.splitOnP (· == sep) with
        | nil => exact absurd h (List.splitOnP_ne_nil _ _)
        | cons piece pieces => rfl

theorem splitOnChar_ne_nil (sep : Char) (text : Text) : splitOnChar sep text ≠ [] := by
  rw [splitOnChar_eq_splitOn]
  exact List.splitOn_ne_nil sep text

/-- **What is joined is split again** if the pieces lack the separator. -/
theorem splitOnChar_joinWith {sep : Char} {pieces : List Text} (hne : pieces ≠ [])
    (h : ∀ piece ∈ pieces, sep ∉ piece) : splitOnChar sep (joinWith [sep] pieces) = pieces := by
  rw [splitOnChar_eq_splitOn, joinWith_eq_intercalate, List.splitOn_intercalate sep h hne]

end MarkupCatalog.Text
