import Mathlib.Order.Monotone.Basic
import MarkupCatalog.Proofs.Text.Occurrence
import MarkupCatalog.Text.Lines

/-!
# Texts with carriage returns

What becomes of a text when every line feed gets a carriage return before it.  An offset moves
on by the number of the line feeds that it has before it (`place`), and whatever is cut at such
offsets is what was cut before, with carriage returns (`slice_place`).

A pattern that holds no line end is found where it was: each search commutes with `place`
(`firstIndex?_withCarriageReturns`, `lastIndex?_withCarriageReturns`,
`occurrences_withCarriageReturns`).  The lines of the text stay the same
(`lines_withCarriageReturns`).
-/

namespace MarkupCatalog.Text

variable {p t : Text} {c : Char}

/-! ## Places -/

/-- Where an offset of the text lies when the text has got its carriage returns: further on by
the number of the line feeds before it. -/
def place (t : Text) (i : Nat) : Nat := i + (t.take i).count '\n'

@[simp] theorem place_zero (t : Text) : place t 0 = 0 := by
  simp [place]

/-- A line feed takes two places, and any other character one. -/
theorem place_cons_succ (c : Char) (t : Text) (i : Nat) :
    place (c :: t) (i + 1) = place t i + (if c = '\n' then 2 else 1) := by
  by_cases hc : c = '\n'
  · simp only [place, List.take_succ_cons, hc, List.count_cons_self, if_true]
    omega
  · simp only [place, List.take_succ_cons, List.count_cons_of_ne hc, hc, if_false]
    omega

/-- Places are counted on from wherever a text is cut. -/
theorem place_add (t : Text) (i n : Nat) :
    place t (i + n) = place t i + place (t.drop i) n := by
  simp only [place, List.take_add, List.count_append]
  omega

/-- Places keep the order of the offsets. -/
theorem place_strictMono (t : Text) : StrictMono (place t) := by
  intro i j hij
  obtain ⟨n, rfl⟩ := Nat.exists_eq_add_of_lt hij
  rw [Nat.add_assoc, place_add]
  have hpos : n + 1 ≤ place (t.drop i) (n + 1) := Nat.le_add_right _ _
  omega

/-! ## Cutting -/

theorem withCarriageReturns_feed (t : Text) :
    withCarriageReturns ('\n' :: t) = '\r' :: '\n' :: withCarriageReturns t := rfl

theorem withCarriageReturns_cons_of_ne (hc : c ≠ '\n') (t : Text) :
    withCarriageReturns (c :: t) = c :: withCarriageReturns t := by
  rw [withCarriageReturns, if_neg hc]

/-- Carriage returns are put into two texts one after the other. -/
theorem withCarriageReturns_append (s t : Text) :
    withCarriageReturns (s ++ t) = withCarriageReturns s ++ withCarriageReturns t := by
  induction s with
  | nil => rfl
  | cons c s ih =>
      by_cases hc : c = '\n'
      · subst hc
        rw [List.cons_append, withCarriageReturns_feed, ih]
        rfl
      · rw [List.cons_append, withCarriageReturns_cons_of_ne hc, ih,
          withCarriageReturns_cons_of_ne hc, List.cons_append]

/-- A text without line feeds gets no carriage return. -/
theorem withCarriageReturns_eq_self (h : '\n' ∉ t) : withCarriageReturns t = t := by
  induction t with
  | nil => rfl
  | cons c t ih =>
      rw [List.mem_cons, not_or] at h
      obtain ⟨hc, ht⟩ := h
      rw [withCarriageReturns_cons_of_ne (Ne.symm hc), ih ht]

/-- A text grows by one character for each of its line feeds. -/
theorem length_withCarriageReturns (t : Text) :
    (withCarriageReturns t).length = t.length + t.count '\n' := by
  induction t with
  | nil => rfl
  | cons c t ih =>
      by_cases hc : c = '\n'
      · subst hc
        rw [withCarriageReturns_feed, List.length_cons, List.length_cons, ih, List.length_cons,
          List.count_cons_self]
        omega
      · rw [withCarriageReturns_cons_of_ne hc, List.length_cons, ih, List.length_cons,
          List.count_cons_of_ne hc]
        omega

/-- A beginning of the text ends where its own carriage returns put its end. -/
theorem place_length_of_prefix {s : Text} (h : s <+: t) :
    place t s.length = (withCarriageReturns s).length := by
  rw [length_withCarriageReturns, place, ← List.prefix_iff_eq_take.mp h]

/-- The place of an offset is the length of the text before it, with carriage returns. -/
theorem length_withCarriageReturns_take {i : Nat} (hi : i ≤ t.length) :
    (withCarriageReturns (t.take i)).length = place t i := by
  rw [← place_length_of_prefix (List.take_prefix i t), List.length_take_of_le hi]

theorem place_length (t : Text) : place t t.length = (withCarriageReturns t).length :=
  place_length_of_prefix List.prefix_rfl

/-- An occurrence of a pattern without line feeds keeps its length. -/
theorem OccursAt.place_add_length {i : Nat} (h : OccursAt p t i) (hp : '\n' ∉ p) :
    place t (i + p.length) = place t i + p.length := by
  rw [place_add, place_length_of_prefix h.2, withCarriageReturns_eq_self hp]

/-- The text with carriage returns, cut in two at the place of an offset. -/
theorem take_place_and_drop_place {i : Nat} (hi : i ≤ t.length) :
    (withCarriageReturns t).take (place t i) = withCarriageReturns (t.take i) ∧
      (withCarriageReturns t).drop (place t i) = withCarriageReturns (t.drop i) := by
  have hsplit : withCarriageReturns t
      = withCarriageReturns (t.take i) ++ withCarriageReturns (t.drop i) := by
    rw [← withCarriageReturns_append, List.take_append_drop]
  rw [hsplit, ← length_withCarriageReturns_take hi]
  exact ⟨List.take_left, List.drop_left⟩

/-- A slice between two offsets is found again between their places. -/
theorem slice_place {start stop : Nat} (hstart : start ≤ stop) (hstop : stop ≤ t.length) :
    (withCarriageReturns t).slice (place t start) (place t stop)
      = withCarriageReturns (t.slice start stop) := by
  have hwithin : start ≤ (t.take stop).length := by
    rwa [List.length_take_of_le hstop]
  have hsame : place (t.take stop) start = place t start := by
    rw [place, place, List.take_take, Nat.min_eq_left hstart]
  rw [slice, (take_place_and_drop_place hstop).1, ← hsame,
    (take_place_and_drop_place hwithin).2, slice]

/-! ## Searching -/

/-- The pattern is not empty, and no line end lies in it. -/
def Solid (p : Text) : Prop := p ≠ [] ∧ '\r' ∉ p ∧ '\n' ∉ p

instance (p : Text) : Decidable (Solid p) := by
  unfold Solid; infer_instance

/-- What holds no line end is found at the front of both texts or of none. -/
theorem prefix_withCarriageReturns_iff (hreturn : '\r' ∉ p) (hfeed : '\n' ∉ p) :
    p <+: withCarriageReturns t ↔ p <+: t := by
  induction p generalizing t with
  | nil => simp
  | cons x p ih =>
      rw [List.mem_cons, not_or] at hreturn hfeed
      obtain ⟨hxr, hpr⟩ := hreturn
      obtain ⟨hxn, hpn⟩ := hfeed
      cases t with
      | nil => rfl
      | cons c t =>
          by_cases hc : c = '\n'
          · subst hc
            simp [withCarriageReturns_feed, List.cons_prefix_cons, Ne.symm hxr, Ne.symm hxn]
          · rw [withCarriageReturns_cons_of_ne hc, List.cons_prefix_cons, List.cons_prefix_cons,
              ih hpr hpn]

namespace Solid

/-- No occurrence starts at a character that the pattern does not hold. -/
theorem not_prefix_cons (hp : Solid p) (hc : c ∉ p) (u : Text) : ¬ p <+: c :: u := by
  obtain ⟨x, rest, rfl⟩ := List.exists_cons_of_ne_nil hp.1
  rw [List.cons_prefix_cons]
  rintro ⟨rfl, -⟩
  exact hc List.mem_cons_self

/-- A solid text does not begin with a carriage return. -/
theorem not_prefix_return (hp : Solid p) (u : Text) : ¬ p <+: '\r' :: u :=
  hp.not_prefix_cons hp.2.1 u

/-- A solid text does not begin with a line feed. -/
theorem not_prefix_feed (hp : Solid p) (u : Text) : ¬ p <+: '\n' :: u :=
  hp.not_prefix_cons hp.2.2 u

/-- At a character that is no line feed, a solid text is found in both texts or in none. -/
theorem prefix_cons_iff (hp : Solid p) (hc : c ≠ '\n') :
    p <+: c :: withCarriageReturns t ↔ p <+: c :: t := by
  rw [← withCarriageReturns_cons_of_ne hc, prefix_withCarriageReturns_iff hp.2.1 hp.2.2]

end Solid

/-- The first occurrence stays the first. -/
theorem firstIndex?_withCarriageReturns (hp : Solid p) (t : Text) :
    firstIndex? p (withCarriageReturns t) = (firstIndex? p t).map (place t) := by
  induction t with
  | nil => simp [withCarriageReturns, firstIndex?, hp.1]
  | cons c rest ih =>
      by_cases hc : c = '\n'
      · subst hc
        simp [withCarriageReturns_feed, firstIndex?, hp.not_prefix_return, hp.not_prefix_feed, ih,
          Function.comp_def, place_cons_succ]
      · rw [withCarriageReturns_cons_of_ne hc]
        by_cases hpre : p <+: c :: rest
        · simp [firstIndex?, hp.prefix_cons_iff hc, hpre]
        · simp [firstIndex?, hp.prefix_cons_iff hc, hpre, ih, hc, Function.comp_def,
            place_cons_succ]

/-- The last occurrence stays the last. -/
theorem lastIndex?_withCarriageReturns (hp : Solid p) (t : Text) :
    lastIndex? p (withCarriageReturns t) = (lastIndex? p t).map (place t) := by
  induction t with
  | nil => simp [withCarriageReturns, lastIndex?, hp.1]
  | cons c rest ih =>
      by_cases hc : c = '\n'
      · subst hc
        cases hlast : lastIndex? p rest with
        | none =>
            simp [withCarriageReturns_feed, lastIndex?, hp.not_prefix_return, hp.not_prefix_feed,
              ih, hlast]
        | some i => simp [withCarriageReturns_feed, lastIndex?, ih, hlast, place_cons_succ]
      · rw [withCarriageReturns_cons_of_ne hc]
        cases hlast : lastIndex? p rest with
        | none =>
            by_cases hpre : p <+: c :: rest
            · simp [lastIndex?, hp.prefix_cons_iff hc, hpre, ih, hlast]
            · simp [lastIndex?, hp.prefix_cons_iff hc, hpre, ih, hlast]
        | some i => simp [lastIndex?, ih, hlast, hc, place_cons_succ]

/-- What is met from left to right is met again.  What is passed over lies within a pattern, so
no line feed is passed over. -/
theorem occurrencesFrom_withCarriageReturns (hp : Solid p) {skip : Nat} (t : Text)
    (hskip : '\n' ∉ t.take skip) (offset : Nat) :
    occurrencesFrom p skip offset (withCarriageReturns t)
      = (occurrencesFrom p skip 0 t).map (offset + place t ·) := by
  induction t generalizing skip offset with
  | nil => simp [withCarriageReturns, occurrencesFrom]
  | cons c rest ih =>
      have hlater : ∀ {skip : Nat}, '\n' ∉ rest.take skip →
          occurrencesFrom p skip (offset + if c = '\n' then 2 else 1) (withCarriageReturns rest)
            = (occurrencesFrom p skip 1 rest).map (offset + place (c :: rest) ·) := by
        intro skip hskip
        have hone := occurrencesFrom_add (p := p) skip 1 0 rest
        rw [ih hskip, hone, List.map_map]
        apply List.map_congr_left
        intro i _
        rw [Function.comp_apply, Nat.add_comm 1 i, place_cons_succ]
        omega
      cases skip with
      | succ skip =>
          obtain ⟨hc, hrest⟩ : '\n' ≠ c ∧ '\n' ∉ rest.take skip := by
            simpa using hskip
          have hlater := hlater hrest
          rw [if_neg (Ne.symm hc)] at hlater
          rw [withCarriageReturns_cons_of_ne (Ne.symm hc)]
          exact hlater
      | zero =>
          have hnone : '\n' ∉ rest.take 0 := by simp
          by_cases hc : c = '\n'
          · have hlater := hlater hnone
            rw [if_pos hc] at hlater
            subst hc
            simpa [withCarriageReturns_feed, occurrencesFrom, hp.not_prefix_return,
              hp.not_prefix_feed] using hlater
          · rw [if_neg hc] at hlater
            rw [withCarriageReturns_cons_of_ne hc]
            by_cases hpre : p <+: c :: rest
            · have hpassed : '\n' ∉ rest.take (p.length - 1) := by
                obtain ⟨x, q, hpq⟩ := List.exists_cons_of_ne_nil hp.1
                rw [hpq, List.cons_prefix_cons] at hpre
                rw [hpq, List.length_cons, Nat.add_sub_cancel, ← List.prefix_iff_eq_take.mp hpre.2]
                intro hmem
                exact hp.2.2 (by rw [hpq]; exact List.mem_cons_of_mem _ hmem)
              simpa [occurrencesFrom, hp.prefix_cons_iff hc, hpre] using hlater hpassed
            · simpa [occurrencesFrom, hp.prefix_cons_iff hc, hpre] using hlater hnone

/-- **The occurrences of a solid text** are moved to their places, and there are no others. -/
theorem occurrences_withCarriageReturns (hp : Solid p) (t : Text) :
    occurrences p (withCarriageReturns t) = (occurrences p t).map (place t) := by
  have hnone : '\n' ∉ t.take 0 := by simp
  have hall := occurrencesFrom_withCarriageReturns hp t hnone 0
  simpa [occurrences] using hall

/-! ## Lines -/

/-- The lines of a text do not depend on how they end. -/
theorem lines_withCarriageReturns (h : '\r' ∉ t) : lines (withCarriageReturns t) = lines t := by
  induction t with
  | nil => rfl
  | cons c rest ih =>
      rw [List.mem_cons, not_or] at h
      obtain ⟨hc, hrest⟩ := h
      rw [lines.eq_3 c rest (fun _ heq _ => hc heq.symm), ← ih hrest]
      by_cases hfeed : c = '\n'
      · have hend : isLineEnd '\n' = true := by decide
        subst hfeed
        rw [withCarriageReturns_feed, lines, if_pos hend]
      · rw [withCarriageReturns_cons_of_ne hfeed, lines.eq_3 c _ (fun _ heq _ => hc heq.symm)]

end MarkupCatalog.Text
