import Mathlib.Data.List.Basic
import MarkupCatalog.Text.Search

/-!
# Occurrences of a pattern

What the searches of `MarkupCatalog.Text.Search` find, said in terms of one relation:
`OccursAt pattern text i`, the pattern stands in the text at offset `i`.

* `firstIndex?_eq_some_iff` and `lastIndex?_eq_some_iff` — the two searches find the
  least and the greatest offset at which the pattern stands;
* `leftmost_occurrences` — the occurrences met from left to right do not overlap, and what is
  not met overlaps one that starts before it;
* `occursAt_append_cons` — a character that the pattern does not hold separates its
  occurrences: none lies across it, and what is met before and behind it is met apart
  (`occurrences_append_cons`).
-/

namespace MarkupCatalog.Text

/-! ## Slices -/

theorem length_slice {text : Text} {start stop : Nat} (h : stop ≤ text.length) :
    (text.slice start stop).length = stop - start := by
  rw [slice, List.length_drop, List.length_take, Nat.min_eq_left h]

theorem drop_slice (text : Text) (start stop n : Nat) :
    (text.slice start stop).drop n = text.slice (start + n) stop := by
  rw [slice, slice, List.drop_drop]

/-- A slice is the beginning of what stands behind its start. -/
theorem slice_prefix_drop (text : Text) (start stop : Nat) :
    text.slice start stop <+: text.drop start := by
  rw [slice, List.drop_take]
  exact List.take_prefix _ _

/-- A text up to `stop` is the text up to an earlier place and the slice from there. -/
theorem take_append_slice {text : Text} {start stop : Nat} (h : start ≤ stop) :
    text.take start ++ text.slice start stop = text.take stop := by
  have htake : text.take start = (text.take stop).take start := by
    rw [List.take_take, Nat.min_eq_left h]
  rw [htake, slice, List.take_append_drop]

/-- The middle one of three parts is the slice between the other two. -/
theorem slice_append_append (a b c : Text) :
    (a ++ (b ++ c)).slice a.length (a.length + b.length) = b := by
  rw [slice, ← List.append_assoc, ← List.length_append, List.take_left, List.drop_left]

/-! ## Occurrences -/

/-- The pattern stands in the text at this offset. -/
def OccursAt (pattern text : Text) (i : Nat) : Prop :=
  i ≤ text.length ∧ pattern <+: text.drop i

instance (pattern text : Text) (i : Nat) : Decidable (OccursAt pattern text i) := by
  unfold OccursAt; infer_instance

variable {p t : Text} {i : Nat}

theorem occursAt_zero : OccursAt p t 0 ↔ p <+: t := by
  simp [OccursAt]

theorem occursAt_nil : OccursAt p [] i ↔ i = 0 ∧ p = [] := by
  simp [OccursAt]

theorem occursAt_cons_succ {c : Char} :
    OccursAt p (c :: t) (i + 1) ↔ OccursAt p t i := by
  simp [OccursAt]

/-- An occurrence lies within the text. -/
theorem OccursAt.add_length_le (h : OccursAt p t i) : i + p.length ≤ t.length := by
  have hlen := h.2.length_le
  have hi := h.1
  rw [List.length_drop] at hlen
  omega

/-- Offsets behind a front part count from its end. -/
theorem occursAt_append_right {a : Text} :
    OccursAt p (a ++ t) (a.length + i) ↔ OccursAt p t i := by
  have hdrop : (a ++ t).drop (a.length + i) = t.drop i := by
    rw [← List.drop_drop, List.drop_left]
  simp only [OccursAt, hdrop, List.length_append]
  constructor
  · rintro ⟨hi, hp⟩
    exact ⟨by omega, hp⟩
  · rintro ⟨hi, hp⟩
    exact ⟨by omega, hp⟩

/-- An occurrence that ends within the front part is one of the front part. -/
theorem occursAt_append_left {a : Text} (hi : i + p.length ≤ a.length) :
    OccursAt p (a ++ t) i ↔ OccursAt p a i := by
  have hdrop : (a ++ t).drop i = a.drop i ++ t := by
    rw [List.drop_append_of_le_length (by omega)]
  simp only [OccursAt, hdrop, List.length_append]
  constructor
  · rintro ⟨_, hp⟩
    refine ⟨by omega, ?_⟩
    exact List.prefix_of_prefix_length_le hp (List.prefix_append _ _)
      (by rw [List.length_drop]; omega)
  · rintro ⟨_, hp⟩
    exact ⟨by omega, hp.trans (List.prefix_append _ _)⟩

/-- The occurrences in a beginning of the text are those that end within it. -/
theorem occursAt_take {n : Nat} :
    OccursAt p (t.take n) i ↔ OccursAt p t i ∧ i + p.length ≤ n := by
  have hsplit : t.take n ++ t.drop n = t := List.take_append_drop n t
  constructor
  · intro h
    have hlen := h.add_length_le
    have hwhole : OccursAt p (t.take n ++ t.drop n) i := (occursAt_append_left hlen).mpr h
    rw [hsplit] at hwhole
    rw [List.length_take] at hlen
    exact ⟨hwhole, by omega⟩
  · intro ⟨h, hn⟩
    have hlen := h.add_length_le
    have hwhole : OccursAt p (t.take n ++ t.drop n) i := by rwa [hsplit]
    exact (occursAt_append_left (by rw [List.length_take]; omega)).mp hwhole

/-- Offsets in the rest of a text count from where the rest starts. -/
theorem occursAt_drop {n : Nat} (hn : n ≤ t.length) :
    OccursAt p (t.drop n) i ↔ OccursAt p t (n + i) := by
  have hright : OccursAt p (t.take n ++ t.drop n) ((t.take n).length + i) ↔
      OccursAt p (t.drop n) i := occursAt_append_right
  rw [List.take_append_drop, List.length_take, Nat.min_eq_left hn] at hright
  exact hright.symm

/-! ## The first and the last occurrence -/

/-- The first search finds the least offset, and nothing only if there is none. -/
theorem firstIndex?_spec (p t : Text) :
    (∃ i, firstIndex? p t = some i ∧ OccursAt p t i ∧ ∀ j < i, ¬ OccursAt p t j) ∨
      (firstIndex? p t = none ∧ ∀ j, ¬ OccursAt p t j) := by
  induction t with
  | nil =>
      by_cases hp : p = []
      · left
        exact ⟨0, by simp [firstIndex?, hp], by simp [occursAt_nil, hp], by simp⟩
      · right
        exact ⟨by simp [firstIndex?, hp], by simp [occursAt_nil, hp]⟩
  | cons c rest ih =>
      by_cases hp : p <+: c :: rest
      · left
        have hfirst : firstIndex? p (c :: rest) = some 0 := by
          simp [firstIndex?, hp]
        exact ⟨0, hfirst, occursAt_zero.mpr hp, by simp⟩
      · have hstep : firstIndex? p (c :: rest) = (firstIndex? p rest).map (· + 1) := by
          simp [firstIndex?, hp]
        rcases ih with ⟨i, hi, hocc, hmin⟩ | ⟨hnone, hno⟩
        · left
          refine ⟨i + 1, by simp [hstep, hi], occursAt_cons_succ.mpr hocc, ?_⟩
          intro j hj
          cases j with
          | zero => exact fun h => hp (occursAt_zero.mp h)
          | succ j => exact fun h => hmin j (by omega) (occursAt_cons_succ.mp h)
        · right
          refine ⟨by simp [hstep, hnone], ?_⟩
          intro j
          cases j with
          | zero => exact fun h => hp (occursAt_zero.mp h)
          | succ j => exact fun h => hno j (occursAt_cons_succ.mp h)

theorem firstIndex?_eq_some_iff :
    firstIndex? p t = some i ↔ OccursAt p t i ∧ ∀ j < i, ¬ OccursAt p t j := by
  rcases firstIndex?_spec p t with ⟨k, hk, hocc, hmin⟩ | ⟨hnone, hno⟩
  · rw [hk, Option.some.injEq]
    constructor
    · rintro rfl
      exact ⟨hocc, hmin⟩
    · rintro ⟨hi, hlow⟩
      rcases Nat.lt_trichotomy k i with h | h | h
      · exact absurd hocc (hlow k h)
      · exact h
      · exact absurd hi (hmin i h)
  · simp [hnone, hno]

theorem firstIndex?_eq_none_iff : firstIndex? p t = none ↔ ∀ j, ¬ OccursAt p t j := by
  rcases firstIndex?_spec p t with ⟨k, hk, hocc, _⟩ | ⟨hnone, hno⟩
  · simp only [hk, reduceCtorEq, false_iff, not_forall, not_not]
    exact ⟨k, hocc⟩
  · simp [hnone, hno]

/-- The last search finds the greatest offset, and nothing only if there is none. -/
theorem lastIndex?_spec (p t : Text) :
    (∃ i, lastIndex? p t = some i ∧ OccursAt p t i ∧ ∀ j, i < j → ¬ OccursAt p t j) ∨
      (lastIndex? p t = none ∧ ∀ j, ¬ OccursAt p t j) := by
  induction t with
  | nil =>
      by_cases hp : p = []
      · left
        exact ⟨0, by simp [lastIndex?, hp], by simp [occursAt_nil, hp],
          fun j hj => by simp [occursAt_nil]; omega⟩
      · right
        exact ⟨by simp [lastIndex?, hp], by simp [occursAt_nil, hp]⟩
  | cons c rest ih =>
      rcases ih with ⟨i, hi, hocc, hmax⟩ | ⟨hnone, hno⟩
      · left
        refine ⟨i + 1, by simp [lastIndex?, hi], occursAt_cons_succ.mpr hocc, ?_⟩
        intro j hj
        obtain ⟨k, rfl⟩ : ∃ k, j = k + 1 := ⟨j - 1, by omega⟩
        exact fun h => hmax k (by omega) (occursAt_cons_succ.mp h)
      · have hlater : ∀ k, ¬ OccursAt p (c :: rest) (k + 1) :=
          fun k h => hno k (occursAt_cons_succ.mp h)
        by_cases hp : p <+: c :: rest
        · left
          refine ⟨0, by simp [lastIndex?, hnone, hp], occursAt_zero.mpr hp, ?_⟩
          intro j hj
          obtain ⟨k, rfl⟩ : ∃ k, j = k + 1 := ⟨j - 1, by omega⟩
          exact hlater k
        · right
          refine ⟨by simp [lastIndex?, hnone, hp], ?_⟩
          intro j
          cases j with
          | zero => exact fun h => hp (occursAt_zero.mp h)
          | succ j => exact hlater j

theorem lastIndex?_eq_some_iff :
    lastIndex? p t = some i ↔ OccursAt p t i ∧ ∀ j, i < j → ¬ OccursAt p t j := by
  rcases lastIndex?_spec p t with ⟨k, hk, hocc, hmax⟩ | ⟨hnone, hno⟩
  · rw [hk, Option.some.injEq]
    constructor
    · rintro rfl
      exact ⟨hocc, hmax⟩
    · rintro ⟨hi, hhigh⟩
      rcases Nat.lt_trichotomy k i with h | h | h
      · exact absurd hi (hmax i h)
      · exact h
      · exact absurd hocc (hhigh k h)
  · simp [hnone, hno]

theorem lastIndex?_eq_none_iff : lastIndex? p t = none ↔ ∀ j, ¬ OccursAt p t j := by
  rcases lastIndex?_spec p t with ⟨k, hk, hocc, _⟩ | ⟨hnone, hno⟩
  · simp only [hk, reduceCtorEq, false_iff, not_forall, not_not]
    exact ⟨k, hocc⟩
  · simp [hnone, hno]

/-- A text in front does not hide the last occurrence. -/
theorem lastIndex?_append {a : Text} (h : lastIndex? p t = some i) :
    lastIndex? p (a ++ t) = some (a.length + i) := by
  induction a with
  | nil => simpa using h
  | cons c a ih =>
      simp only [List.cons_append, lastIndex?, ih, List.length_cons]
      congr 1
      omega

/-! ## Occurrences that do not overlap -/

/-- What is met lies in the text, behind what was to be passed over. -/
theorem mem_occurrencesFrom {skip offset : Nat} (h : i ∈ occurrencesFrom p skip offset t) :
    ∃ k, i = offset + k ∧ skip ≤ k ∧ OccursAt p t k := by
  induction t generalizing skip offset with
  | nil => simp [occurrencesFrom] at h
  | cons c rest ih =>
      have hlater : ∀ {s : Nat}, i ∈ occurrencesFrom p s (offset + 1) rest →
          ∃ k, i = offset + (k + 1) ∧ s ≤ k ∧ OccursAt p (c :: rest) (k + 1) := by
        intro s hs
        obtain ⟨k, hk, hsk, hocc⟩ := ih hs
        exact ⟨k, by omega, hsk, occursAt_cons_succ.mpr hocc⟩
      cases skip with
      | succ skip =>
          obtain ⟨k, hk, hsk, hocc⟩ := hlater (by simpa [occurrencesFrom] using h)
          exact ⟨k + 1, hk, by omega, hocc⟩
      | zero =>
          by_cases hp : p <+: c :: rest
          · have hcases : i = offset ∨ i ∈ occurrencesFrom p (p.length - 1) (offset + 1) rest := by
              simpa [occurrencesFrom, hp] using h
            rcases hcases with rfl | hmem
            · exact ⟨0, by omega, by omega, occursAt_zero.mpr hp⟩
            · obtain ⟨k, hk, _, hocc⟩ := hlater hmem
              exact ⟨k + 1, hk, by omega, hocc⟩
          · obtain ⟨k, hk, _, hocc⟩ := hlater (by simpa [occurrencesFrom, hp] using h)
            exact ⟨k + 1, hk, by omega, hocc⟩

theorem mem_occurrences (h : i ∈ occurrences p t) : OccursAt p t i := by
  obtain ⟨k, hk, _, hocc⟩ := mem_occurrencesFrom h
  rwa [hk, Nat.zero_add]

/-- **No overlap.**  Each occurrence that is met ends before the next one starts. -/
theorem pairwise_occurrencesFrom (hp : p ≠ []) (skip offset : Nat) (t : Text) :
    (occurrencesFrom p skip offset t).Pairwise (fun i j => i + p.length ≤ j) := by
  have hpos : 0 < p.length := List.length_pos_iff.mpr hp
  induction t generalizing skip offset with
  | nil => simp [occurrencesFrom]
  | cons c rest ih =>
      cases skip with
      | succ skip => simpa [occurrencesFrom] using ih skip (offset + 1)
      | zero =>
          by_cases hpre : p <+: c :: rest
          · have hstep : occurrencesFrom p 0 offset (c :: rest)
                = offset :: occurrencesFrom p (p.length - 1) (offset + 1) rest := by
              simp [occurrencesFrom, hpre]
            rw [hstep, List.pairwise_cons]
            refine ⟨?_, ih _ _⟩
            intro j hj
            obtain ⟨k, hk, hskip, _⟩ := mem_occurrencesFrom hj
            omega
          · have hstep : occurrencesFrom p 0 offset (c :: rest)
                = occurrencesFrom p 0 (offset + 1) rest := by
              simp [occurrencesFrom, hpre]
            rw [hstep]
            exact ih _ _

theorem pairwise_occurrences (hp : p ≠ []) (t : Text) :
    (occurrences p t).Pairwise (fun i j => i + p.length ≤ j) :=
  pairwise_occurrencesFrom hp 0 0 t

/-- What is not met overlaps something that was met before it. -/
theorem exists_mem_occurrencesFrom {k skip : Nat} (hp : p ≠ []) (offset : Nat)
    (h : OccursAt p t k) (hskip : skip ≤ k) :
    ∃ j ∈ occurrencesFrom p skip offset t, j ≤ offset + k ∧ offset + k < j + p.length := by
  induction t generalizing k skip offset with
  | nil => exact absurd (occursAt_nil.mp h).2 hp
  | cons c rest ih =>
      have hlater : ∀ s, k ≠ 0 → s < k → ∃ j ∈ occurrencesFrom p s (offset + 1) rest,
          j ≤ offset + k ∧ offset + k < j + p.length := by
        intro s hk hs
        obtain ⟨k', rfl⟩ : ∃ k', k = k' + 1 := ⟨k - 1, by omega⟩
        obtain ⟨j, hj, hle, hlt⟩ := ih (offset + 1) (occursAt_cons_succ.mp h) (Nat.le_of_lt_succ hs)
        exact ⟨j, hj, by omega, by omega⟩
      cases skip with
      | succ skip => exact hlater skip (by omega) (by omega)
      | zero =>
          by_cases hpre : p <+: c :: rest
          · have hstep : occurrencesFrom p 0 offset (c :: rest)
                = offset :: occurrencesFrom p (p.length - 1) (offset + 1) rest := by
              simp [occurrencesFrom, hpre]
            have hpos : 0 < p.length := List.length_pos_iff.mpr hp
            rw [hstep]
            by_cases hk : k < p.length
            · exact ⟨offset, List.mem_cons_self, by omega, by omega⟩
            · obtain ⟨j, hj, hbounds⟩ := hlater (p.length - 1) (by omega) (by omega)
              exact ⟨j, List.mem_cons_of_mem _ hj, hbounds⟩
          · have hstep : occurrencesFrom p 0 offset (c :: rest)
                = occurrencesFrom p 0 (offset + 1) rest := by
              simp [occurrencesFrom, hpre]
            have hk : k ≠ 0 := by
              intro hk
              rw [hk] at h
              exact hpre (occursAt_zero.mp h)
            rw [hstep]
            exact hlater 0 hk (by omega)

/-- The offsets are those of the leftmost occurrences that do not overlap. -/
structure Leftmost (pattern text : Text) (found : List Nat) : Prop where
  occurs : ∀ i ∈ found, OccursAt pattern text i
  apart : found.Pairwise (fun i j => i + pattern.length ≤ j)
  /-- An occurrence is left out only if it overlaps one that starts before it. -/
  covers : ∀ i, OccursAt pattern text i → ∃ j ∈ found, j ≤ i ∧ i < j + pattern.length

/-- **The leftmost occurrences** are met when a text is read from left to right. -/
theorem leftmost_occurrences (hp : p ≠ []) (t : Text) : Leftmost p t (occurrences p t) where
  occurs := fun _ hi => mem_occurrences hi
  apart := pairwise_occurrences hp t
  covers := by
    intro i hi
    have hmet := exists_mem_occurrencesFrom hp 0 hi (Nat.zero_le i)
    rwa [Nat.zero_add] at hmet

/-- What is to be passed over is passed over. -/
theorem occurrencesFrom_append_of_length (a : Text) (offset : Nat) :
    occurrencesFrom p a.length offset (a ++ t) = occurrencesFrom p 0 (offset + a.length) t := by
  induction a generalizing offset with
  | nil => simp
  | cons c a ih =>
      have hoffset : offset + (a.length + 1) = offset + 1 + a.length := by omega
      simp only [List.length_cons, List.cons_append, occurrencesFrom, ih, hoffset]

/-- No occurrence of the pattern starts in the first `n` characters. -/
def ClearFor (pattern text : Text) (n : Nat) : Prop := ∀ j < n, ¬ OccursAt pattern text j

/-- A front part in which no occurrence starts is passed over. -/
theorem occurrencesFrom_append_of_clearFor {a : Text} (offset : Nat)
    (h : ClearFor p (a ++ t) a.length) :
    occurrencesFrom p 0 offset (a ++ t) = occurrencesFrom p 0 (offset + a.length) t := by
  induction a generalizing offset with
  | nil => simp
  | cons c a ih =>
      have hhead : ¬ p <+: c :: (a ++ t) :=
        fun hp => h 0 (by simp) (occursAt_zero.mpr hp)
      have htail : ClearFor p (a ++ t) a.length :=
        fun j hj hocc => h (j + 1) (by simp; omega) (occursAt_cons_succ.mpr hocc)
      have hoffset : offset + (a.length + 1) = offset + 1 + a.length := by omega
      simp [occurrencesFrom, hhead, ih (offset + 1) htail, hoffset]

/-- An occurrence at the front is met, and the search goes on behind it. -/
theorem occurrencesFrom_self_append (hp : p ≠ []) (offset : Nat) (t : Text) :
    occurrencesFrom p 0 offset (p ++ t)
      = offset :: occurrencesFrom p 0 (offset + p.length) t := by
  obtain ⟨c, rest, rfl⟩ := List.exists_cons_of_ne_nil hp
  have hpre : c :: rest <+: c :: (rest ++ t) := List.prefix_append (c :: rest) t
  have hskip := occurrencesFrom_append_of_length (p := c :: rest) (t := t) rest (offset + 1)
  have hoffset : offset + 1 + rest.length = offset + (rest.length + 1) := by omega
  rw [hoffset] at hskip
  simp only [List.cons_append, occurrencesFrom, List.isPrefixOf_iff_prefix.mpr hpre, if_true,
    List.length_cons, Nat.add_sub_cancel, hskip]

/-! ## Texts without the pattern -/

/-- The pattern stands nowhere in the text. -/
def Lacks (pattern text : Text) : Prop := ∀ i, ¬ OccursAt pattern text i

theorem lacks_iff : Lacks p t ↔ occursIn p t = false := by
  rw [Lacks, ← firstIndex?_eq_none_iff, occursIn, Option.isSome_eq_false_iff,
    Option.isNone_iff_eq_none]

instance (pattern text : Text) : Decidable (Lacks pattern text) :=
  decidable_of_iff _ lacks_iff.symm

/-- A text that lacks one of the pattern's characters lacks the pattern. -/
theorem lacks_of_not_mem {c : Char} (hc : c ∈ p) (ht : c ∉ t) : Lacks p t := by
  intro i hocc
  exact ht (List.mem_of_mem_drop (hocc.2.subset hc))

/-- What a text lacks, its rest lacks too. -/
theorem Lacks.drop (h : Lacks p t) (n : Nat) : Lacks p (t.drop n) := by
  intro i hocc
  by_cases hn : n ≤ t.length
  · exact h (n + i) ((occursAt_drop hn).mp hocc)
  · rw [List.drop_eq_nil_of_le (by omega)] at hocc
    have hnil := (occursAt_nil.mp hocc).2
    exact h 0 (occursAt_zero.mpr (by rw [hnil]; exact List.nil_prefix))

/-- **Separation.**  A character that the pattern does not hold lies in none of its
occurrences: each of them is wholly before or wholly behind it. -/
theorem occursAt_append_cons {a : Text} {c : Char} (hp : p ≠ []) (hc : c ∉ p) :
    OccursAt p (a ++ c :: t) i ↔
      OccursAt p a i ∨ ∃ k, i = a.length + 1 + k ∧ OccursAt p t k := by
  have hpos : 0 < p.length := List.length_pos_iff.mpr hp
  have hright : ∀ k, OccursAt p (a ++ c :: t) (a.length + 1 + k) ↔ OccursAt p t k := by
    intro k
    have h := occursAt_append_right (p := p) (t := t) (a := a ++ [c]) (i := k)
    simpa [List.append_assoc] using h
  constructor
  · intro h
    rcases Nat.lt_or_ge a.length i with hbehind | hbefore
    · obtain ⟨k, rfl⟩ : ∃ k, i = a.length + 1 + k := ⟨i - a.length - 1, by omega⟩
      exact Or.inr ⟨k, rfl, (hright k).mp h⟩
    · by_cases hend : i + p.length ≤ a.length
      · exact Or.inl ((occursAt_append_left hend).mp h)
      · -- the character would be the one at `a.length - i` of the pattern
        have hin : a.length - i < p.length := by omega
        have hget : p[a.length - i]? = some c := by
          obtain ⟨rest, hrest⟩ := h.2
          have hat : ((a ++ c :: t).drop i)[a.length - i]? = some c := by
            rw [List.getElem?_drop, show i + (a.length - i) = a.length by omega]
            simp
          rw [← hrest, List.getElem?_append_left hin] at hat
          exact hat
        exact absurd (List.mem_of_getElem? hget) hc
  · rintro (h | ⟨k, rfl, h⟩)
    · exact (occursAt_append_left h.add_length_le).mpr h
    · exact (hright k).mpr h

/-- Offsets count from wherever counting starts. -/
theorem occurrencesFrom_add (skip n offset : Nat) (t : Text) :
    occurrencesFrom p skip (n + offset) t = (occurrencesFrom p skip offset t).map (n + ·) := by
  induction t generalizing skip offset with
  | nil => simp [occurrencesFrom]
  | cons c rest ih =>
      have hrest : ∀ skip, occurrencesFrom p skip (n + offset + 1) rest
          = (occurrencesFrom p skip (offset + 1) rest).map (n + ·) := by
        intro skip
        rw [Nat.add_assoc, ih]
      cases skip with
      | succ skip => simp only [occurrencesFrom, hrest]
      | zero =>
          by_cases hpre : p <+: c :: rest
          · simp [occurrencesFrom, hpre, hrest]
          · simp [occurrencesFrom, hpre, hrest]

/-- What is met before and behind a separating character is met apart. -/
theorem occurrencesFrom_append_cons {a : Text} {c : Char} {skip : Nat} (hp : p ≠ [])
    (hc : c ∉ p) (hskip : skip ≤ a.length) (offset : Nat) :
    occurrencesFrom p skip offset (a ++ c :: t)
      = occurrencesFrom p skip offset a ++ occurrencesFrom p 0 (offset + a.length) (c :: t) := by
  induction a generalizing skip offset with
  | nil =>
      obtain rfl : skip = 0 := Nat.le_zero.mp hskip
      simp [occurrencesFrom]
  | cons x a ih =>
      have hoffset : offset + (a.length + 1) = offset + 1 + a.length := by omega
      rw [List.length_cons, hoffset]
      cases skip with
      | succ skip => exact ih (Nat.le_of_succ_le_succ hskip) (offset + 1)
      | zero =>
          have hfront : p <+: x :: (a ++ c :: t) ↔ p <+: x :: a := by
            have h := occursAt_append_cons (a := x :: a) (t := t) (i := 0) hp hc
            rw [occursAt_zero, occursAt_zero] at h
            rw [← List.cons_append, h, or_iff_left]
            intro ⟨k, hk, _⟩
            omega
          by_cases hpre : p <+: x :: a
          · have hlen : p.length - 1 ≤ a.length := by
              have hle := hpre.length_le
              rw [List.length_cons] at hle
              omega
            simp [occurrencesFrom, hfront, hpre, ih hlen]
          · simp [occurrencesFrom, hfront, hpre, ih (Nat.zero_le _)]

theorem occurrences_append_cons {a : Text} {c : Char} (hp : p ≠ []) (hc : c ∉ p) :
    occurrences p (a ++ c :: t)
      = occurrences p a ++ (occurrences p (c :: t)).map (a.length + ·) := by
  have happend := occurrencesFrom_append_cons (t := t) hp hc (Nat.zero_le a.length) 0
  rw [Nat.zero_add, ← Nat.add_zero a.length, occurrencesFrom_add] at happend
  exact happend

/-- A part without the pattern and a separating character behind it put off the first
occurrence. -/
theorem ClearFor.append_cons {a : Text} {c : Char} {n : Nat} (h : ClearFor p t n)
    (hp : p ≠ []) (hc : c ∉ p) (ha : Lacks p a) :
    ClearFor p (a ++ c :: t) (a.length + (n + 1)) := by
  intro j hj hocc
  rcases (occursAt_append_cons hp hc).mp hocc with hleft | ⟨k, hk, hright⟩
  · exact ha j hleft
  · exact h k (by omega) hright

/-- A single separating character puts off the first occurrence. -/
theorem ClearFor.cons {c : Char} {n : Nat} (h : ClearFor p t n) (hp : p ≠ []) (hc : c ∉ p) :
    ClearFor p (c :: t) (n + 1) := by
  have hnil : Lacks p [] := by
    intro i hocc
    exact hp (occursAt_nil.mp hocc).2
  simpa using h.append_cons hp hc hnil

end MarkupCatalog.Text
