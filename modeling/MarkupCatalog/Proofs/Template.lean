import MarkupCatalog.Proofs.Text.Joining
import MarkupCatalog.Proofs.Text.Occurrence
import MarkupCatalog.Template

/-!
# Segments of a template

A template is cut at its placeholders, from left to right, and a block is put into every cut.
How it is cut does not depend on the block: the segments are determined by the template and the
placeholder alone (`segmentation_iff_eq_pieces`), also when placeholders could overlap each other.

What carries the proof is `pieces_append`: a front part in which no placeholder starts is cut off
as the first segment, and the rest is cut as if nothing stood before it.
-/

namespace MarkupCatalog

namespace Text

variable {p s t : Text} {segments : List Text}

/-! ## Cutting a text -/

theorem piecesFrom_ne_nil (p : Text) (skip : Nat) (t : Text) : piecesFrom p skip t ≠ [] := by
  fun_induction piecesFrom p skip t with
  | case1 => exact List.cons_ne_nil _ _
  | case2 skip c rest ih => exact ih
  | case3 => exact List.cons_ne_nil _ _
  | case4 => exact List.cons_ne_nil _ _
  | case5 => exact List.cons_ne_nil _ _

/-- What is to be passed over is passed over. -/
theorem piecesFrom_append_of_length (a t : Text) : piecesFrom p a.length (a ++ t) = pieces p t := by
  induction a with
  | nil => rfl
  | cons c a ih => exact ih

/-- A text that starts with the pattern is cut at its front. -/
theorem pieces_self_append (hp : p ≠ []) (t : Text) : pieces p (p ++ t) = [] :: pieces p t := by
  obtain ⟨c, rest, rfl⟩ := List.exists_cons_of_ne_nil hp
  have hpre : c :: rest <+: c :: (rest ++ t) := List.prefix_append (c :: rest) t
  rw [pieces, List.cons_append, piecesFrom, if_pos (List.isPrefixOf_iff_prefix.mpr hpre),
    List.length_cons, Nat.add_sub_cancel, piecesFrom_append_of_length]

/-- A character at which the pattern does not start belongs to the first piece. -/
theorem pieces_cons {c : Char} (h : ¬ p <+: c :: t) :
    pieces p (c :: t) = (pieces p t).modifyHead (c :: ·) := by
  rw [pieces, piecesFrom, if_neg (fun hpre => h (List.isPrefixOf_iff_prefix.mp hpre)), pieces]
  split
  · next hpieces => rw [hpieces, List.modifyHead_cons]
  · next hnone => exact absurd hnone (piecesFrom_ne_nil p 0 t)

/-- A front part in which the pattern does not start belongs to the first piece. -/
theorem pieces_append_of_clearFor {a : Text} (h : ClearFor p (a ++ t) a.length) :
    pieces p (a ++ t) = (pieces p t).modifyHead (a ++ ·) := by
  induction a with
  | nil =>
      cases hpieces : pieces p t with
      | nil => exact absurd hpieces (piecesFrom_ne_nil p 0 t)
      | cons piece others => rw [List.nil_append, hpieces, List.modifyHead_cons, List.nil_append]
  | cons c a ih =>
      have hhead : ¬ p <+: c :: (a ++ t) := fun hpre => h 0 (by simp) (occursAt_zero.mpr hpre)
      have htail : ClearFor p (a ++ t) a.length :=
        fun j hj hocc => h (j + 1) (by simpa using hj) (occursAt_cons_succ.mpr hocc)
      rw [List.cons_append, pieces_cons hhead, ih htail, List.modifyHead_modifyHead]
      rfl

/-- A text without the pattern is not cut. -/
theorem pieces_of_lacks (h : Lacks p t) : pieces p t = [t] := by
  have hclear : ClearFor p (t ++ []) t.length := by
    rw [List.append_nil]
    exact fun j _ => h j
  have hall := pieces_append_of_clearFor hclear
  rw [List.append_nil] at hall
  rw [hall, pieces, piecesFrom, List.modifyHead_cons, List.append_nil]

/-- **The first cut** is where the pattern stands first. -/
theorem pieces_append (hp : p ≠ []) (hs : ClearFor p (s ++ p) s.length) (t : Text) :
    pieces p (s ++ (p ++ t)) = s :: pieces p t := by
  have hclear : ClearFor p (s ++ (p ++ t)) s.length := by
    intro j hj hocc
    rw [← List.append_assoc] at hocc
    exact hs j hj ((occursAt_append_left (by rw [List.length_append]; omega)).mp hocc)
  rw [pieces_append_of_clearFor hclear, pieces_self_append hp, List.modifyHead_cons,
    List.append_nil]

/-! ## Segments -/

/-- The segments of a text: with the pattern between neighbours they make up the text, the
pattern stands in none of them, and behind each of them but the last it stands no earlier than
where the segment ends. -/
structure Segmentation (p t : Text) (segments : List Text) : Prop where
  ne_nil : segments ≠ []
  joined : t = List.intercalate p segments
  lacks : ∀ s ∈ segments, Lacks p s
  leftmost : ∀ s ∈ segments.dropLast, firstIndex? p (s ++ p) = some s.length

theorem segmentation_iff {p t : Text} {segments : List Text} :
    Segmentation p t segments ↔ segments ≠ [] ∧ t = List.intercalate p segments ∧
      (∀ s ∈ segments, Lacks p s) ∧
      ∀ s ∈ segments.dropLast, firstIndex? p (s ++ p) = some s.length :=
  ⟨fun ⟨h₁, h₂, h₃, h₄⟩ => ⟨h₁, h₂, h₃, h₄⟩, fun ⟨h₁, h₂, h₃, h₄⟩ => ⟨h₁, h₂, h₃, h₄⟩⟩

instance (p t : Text) (segments : List Text) : Decidable (Segmentation p t segments) :=
  decidable_of_iff _ segmentation_iff.symm

theorem segmentation_singleton (h : Lacks p t) : Segmentation p t [t] where
  ne_nil := List.cons_ne_nil _ _
  joined := List.intercalate_singleton.symm
  lacks := by simpa using h
  leftmost := by simp

/-- The pattern does not stand in a part behind which it stands first where the part ends. -/
theorem lacks_of_clearFor (hp : p ≠ []) (hs : ClearFor p (s ++ p) s.length) : Lacks p s := by
  intro j hocc
  have hpos : 0 < p.length := List.length_pos_iff.mpr hp
  have hend := hocc.add_length_le
  exact hs j (by omega) ((occursAt_append_left hend).mpr hocc)

theorem Segmentation.cons (h : Segmentation p t segments) (hp : p ≠ [])
    (hs : ClearFor p (s ++ p) s.length) : Segmentation p (s ++ (p ++ t)) (s :: segments) := by
  obtain ⟨next, others, rfl⟩ := List.exists_cons_of_ne_nil h.ne_nil
  have hself : OccursAt p (s ++ p) s.length :=
    occursAt_append_right.mpr (occursAt_zero.mpr List.prefix_rfl)
  refine ⟨List.cons_ne_nil _ _, ?_, ?_, ?_⟩
  · rw [List.intercalate_cons_cons, ← h.joined, List.append_assoc]
  · rw [List.forall_mem_cons]
    exact ⟨lacks_of_clearFor hp hs, h.lacks⟩
  · rw [List.dropLast_cons_cons, List.forall_mem_cons]
    exact ⟨firstIndex?_eq_some_iff.mpr ⟨hself, hs⟩, h.leftmost⟩

/-- The pieces of a text are segments of it.  The induction is on the length of the text, from
one occurrence of the pattern to the next. -/
theorem segmentation_pieces (hp : p ≠ []) (t : Text) : Segmentation p t (pieces p t) := by
  induction hn : t.length using Nat.strongRecOn generalizing t with
  | ind n ih =>
      obtain ⟨i, -, hocc, hclear⟩ | ⟨-, hnone⟩ := firstIndex?_spec p t
      · obtain ⟨rest, hrest⟩ := hocc.2
        have hsplit : t = t.take i ++ (p ++ rest) := by
          rw [hrest, List.take_append_drop]
        have hlen : (t.take i).length = i := List.length_take_of_le hocc.1
        have hs : ClearFor p (t.take i ++ p) (t.take i).length := by
          intro j hj hstart
          rw [hlen] at hj
          apply hclear j hj
          rw [hsplit, ← List.append_assoc]
          exact (occursAt_append_left hstart.add_length_le).mpr hstart
        have hshort : rest.length < n := by
          have hpos : 0 < p.length := List.length_pos_iff.mpr hp
          have hlength := congrArg List.length hsplit
          rw [List.length_append, List.length_append] at hlength
          omega
        rw [hsplit, pieces_append hp hs]
        exact (ih rest.length hshort rest rfl).cons hp hs
      · rw [pieces_of_lacks hnone]
        exact segmentation_singleton hnone

/-- **A text has one segmentation.** -/
theorem segmentation_iff_eq_pieces (hp : p ≠ []) :
    Segmentation p t segments ↔ segments = pieces p t := by
  constructor
  · intro h
    induction segments generalizing t with
    | nil => exact absurd rfl h.ne_nil
    | cons s segments ih =>
        cases segments with
        | nil =>
            have hjoined : t = s := by
              rw [h.joined, List.intercalate_singleton]
            rw [hjoined, pieces_of_lacks (h.lacks s List.mem_cons_self)]
        | cons next segments =>
            have hfirst := h.leftmost s (by simp)
            have htail :
                Segmentation p (List.intercalate p (next :: segments)) (next :: segments) :=
              ⟨List.cons_ne_nil _ _, rfl, fun u hu => h.lacks u (List.mem_cons_of_mem _ hu),
                fun u hu => h.leftmost u (List.mem_cons_of_mem _ hu)⟩
            rw [h.joined, List.intercalate_cons_cons, List.append_assoc,
              pieces_append hp (firstIndex?_eq_some_iff.mp hfirst).2, ← ih htail]
  · rintro rfl
    exact segmentation_pieces hp t

end Text

namespace Template

/-- **Rendering is literal, leftmost and done in one pass.**  A template with a placeholder has
one segmentation, and rendering puts the block between its segments, whatever the block holds:
a placeholder in it, or a part of one that the text around it would complete. -/
theorem exists_segmentation_and_render_eq (text placeholder : Text) (hne : placeholder ≠ []) :
    ∃ segments, Text.Segmentation placeholder text segments ∧
      (∀ other, Text.Segmentation placeholder text other → other = segments) ∧
      ∀ block, render ⟨text, placeholder⟩ block = List.intercalate block segments := by
  refine ⟨Text.pieces placeholder text, Text.segmentation_pieces hne text, ?_, ?_⟩
  · intro other hother
    exact (Text.segmentation_iff_eq_pieces hne).mp hother
  · intro block
    rw [render, segments, if_neg (by simpa using hne), Text.joinWith_eq_intercalate]

/-- A placeholder that overlaps itself, and a block that holds it and is completed to it. -/
theorem exists_segmentation_and_render_eq_dashes :
    ("--" : Text) ≠ [] ∧ Text.Segmentation "--" "a---b--" ["a", "-b", ""] ∧
      render ⟨"a---b--", "--"⟩ "-x--" = "a-x---b-x--" := by
  have hne : ("--" : Text) ≠ [] := by decide
  have hsegments : Text.Segmentation "--" "a---b--" ["a", "-b", ""] := by decide
  obtain ⟨segments, -, hunique, hrender⟩ := exists_segmentation_and_render_eq "a---b--" "--" hne
  refine ⟨hne, hsegments, ?_⟩
  rw [hrender, ← hunique _ hsegments]
  decide

end Template

end MarkupCatalog
