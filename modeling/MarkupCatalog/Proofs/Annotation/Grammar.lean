import Mathlib.Data.List.TakeWhile
import MarkupCatalog.Proofs.Text.Strip

/-!
# The grammar of header pairs

Which lines give a pair, said without a reader: a line does if its core is a word of one of three
forms (`IsPair`).  Reading a pair is cutting the core into a key, white space, a delimiter and a
value, and there are many ways to cut it; but they all give the same pair.

1.  A key is cut off where it cannot go on (`takeKey?_eq_some_iff`).
2.  Where white space ends and a value begins is left open, and it does not matter, since a
    value is stripped (`value?_eq_some_iff`).
3.  What follows a key in a pair cannot go on with it, so the reader finds the key of every
    cut (`corePair?_eq_some_iff`).
-/

namespace MarkupCatalog.Annotation

/-- The core of a header line that gives a pair: `@key`, `@key value` or `key: value`, with white
space around the colon and the value. -/
inductive IsPair : Text → Text → Text → Prop
  | bare {key : Text} (hkey : isKey key = true) : IsPair ('@' :: key) key []
  | marked {key blanks rest : Text} (hkey : isKey key = true) (hne : blanks ≠ [])
      (hblanks : Text.isAllBlank blanks = true) (hrest : '\n' ∉ rest) :
      IsPair ('@' :: (key ++ (blanks ++ rest))) key (Text.strip rest)
  | named {key before after rest : Text} (hkey : isKey key = true)
      (hbefore : Text.isAllBlank before = true) (hafter : Text.isAllBlank after = true)
      (hrest : '\n' ∉ rest) :
      IsPair (key ++ (before ++ ':' :: (after ++ rest))) key (Text.strip rest)

variable {key rest value t : Text}

/-! ## Keys -/

/-- **A key is cut off** where it cannot go on. -/
theorem takeKey?_eq_some_iff :
    takeKey? t = some (key, rest) ↔
      isKey key = true ∧ t = key ++ rest ∧ ∀ c ∈ rest.head?, isKeyRest c = false := by
  constructor
  · intro h
    cases t with
    | nil => cases h
    | cons c t =>
        rw [takeKey?] at h
        split at h
        · next hc =>
          cases h
          refine ⟨?_, ?_, ?_⟩
          · rw [isKey, hc, List.all_takeWhile]
            rfl
          · rw [List.cons_append, List.takeWhile_append_dropWhile]
          · intro d hd
            have hstop := List.head?_dropWhile_not isKeyRest t
            rw [hd] at hstop
            exact hstop
        · cases h
  · rintro ⟨hkey, rfl, hstop⟩
    cases key with
    | nil => cases hkey
    | cons c key =>
        rw [isKey, Bool.and_eq_true] at hkey
        have hall : ∀ d ∈ key, isKeyRest d = true := List.all_eq_true.mp hkey.2
        have hnone : rest.takeWhile isKeyRest = [] ∧ rest.dropWhile isKeyRest = rest := by
          cases rest with
          | nil => exact ⟨rfl, rfl⟩
          | cons d rest => simp [hstop d rfl]
        rw [List.cons_append, takeKey?, if_pos hkey.1, List.takeWhile_append_of_pos hall,
          List.dropWhile_append_of_pos hall, hnone.1, hnone.2, List.append_nil]

/-- White space does not go on with a key. -/
theorem isKeyRest_eq_false_of_isBlank {c : Char} (h : Text.isBlank c = true) :
    isKeyRest c = false := by
  rw [Bool.eq_false_iff]
  intro hrest
  rw [isBlank_eq_false_of_isKeyRest hrest] at h
  cases h

/-- Neither does a text that starts with white space, or with something else that no key holds. -/
theorem isKeyRest_head?_append {blanks : Text} (hblanks : Text.isAllBlank blanks = true)
    (hrest : blanks = [] → ∀ c ∈ rest.head?, isKeyRest c = false) :
    ∀ c ∈ (blanks ++ rest).head?, isKeyRest c = false := by
  cases blanks with
  | nil => exact hrest rfl
  | cons d blanks =>
      rintro c ⟨⟩
      exact isKeyRest_eq_false_of_isBlank (List.all_eq_true.mp hblanks d List.mem_cons_self)

/-! ## Values -/

/-- **A value** is what is left of a rest without the white space around it, if some white space
at its start can be cut off so that no line feed is left. -/
theorem value?_eq_some_iff :
    value? rest = some value ↔
      ∃ blanks x, Text.isAllBlank blanks = true ∧ '\n' ∉ x ∧ rest = blanks ++ x ∧
        value = Text.strip x := by
  constructor
  · intro h
    rw [value?] at h
    split at h
    · cases h
    · next hfeed =>
      cases h
      obtain ⟨blanks, hblanks, hsplit⟩ := Text.exists_append_stripStart rest
      refine ⟨blanks, Text.stripStart rest, hblanks, by simpa using hfeed, hsplit, ?_⟩
      rw [Text.strip_stripStart, Text.strip]
  · rintro ⟨blanks, x, hblanks, hfeed, rfl, rfl⟩
    have hnone : '\n' ∉ Text.stripStart x :=
      fun hmem => hfeed ((Text.stripStart_sublist x).subset hmem)
    rw [value?, Text.stripStart_append hblanks]
    simp [hnone, Text.strip]

theorem atValue?_eq_some_iff :
    atValue? rest = some value ↔
      (rest = [] ∧ value = []) ∨
        ∃ blanks x, blanks ≠ [] ∧ Text.isAllBlank blanks = true ∧ '\n' ∉ x ∧
          rest = blanks ++ x ∧ value = Text.strip x := by
  cases rest with
  | nil =>
      constructor
      · intro h
        cases h
        exact Or.inl ⟨rfl, rfl⟩
      · rintro (⟨-, rfl⟩ | ⟨blanks, x, hne, -, -, hsplit, -⟩)
        · rfl
        · exact absurd (List.append_eq_nil_iff.mp hsplit.symm).1 hne
  | cons c rest =>
      rw [atValue?]
      constructor
      · intro h
        split at h
        · next hc =>
          obtain ⟨blanks, x, hblanks, hfeed, rfl, rfl⟩ := value?_eq_some_iff.mp h
          refine Or.inr ⟨c :: blanks, x, List.cons_ne_nil _ _, ?_, hfeed, rfl, rfl⟩
          rw [Text.isAllBlank, List.all_cons, hc]
          exact hblanks
        · cases h
      · rintro (⟨h, -⟩ | ⟨blanks, x, hne, hblanks, hfeed, hsplit, rfl⟩)
        · cases h
        · obtain ⟨d, blanks, rfl⟩ := List.exists_cons_of_ne_nil hne
          obtain ⟨rfl, rfl⟩ := List.cons.inj hsplit
          rw [Text.isAllBlank, List.all_cons, Bool.and_eq_true] at hblanks
          rw [if_pos hblanks.1]
          exact value?_eq_some_iff.mpr ⟨blanks, x, hblanks.2, hfeed, rfl, rfl⟩

theorem colonValue?_eq_some_iff :
    colonValue? rest = some value ↔
      ∃ before after x, Text.isAllBlank before = true ∧ Text.isAllBlank after = true ∧
        '\n' ∉ x ∧ rest = before ++ ':' :: (after ++ x) ∧ value = Text.strip x := by
  constructor
  · intro h
    obtain ⟨before, hbefore, hsplit⟩ := Text.exists_append_stripStart rest
    rw [colonValue?] at h
    split at h
    · next behind hcolon =>
      obtain ⟨after, x, hafter, hfeed, rfl, rfl⟩ := value?_eq_some_iff.mp h
      rw [hcolon] at hsplit
      exact ⟨before, after, x, hbefore, hafter, hfeed, hsplit, rfl⟩
    · cases h
  · rintro ⟨before, after, x, hbefore, hafter, hfeed, rfl, rfl⟩
    rw [colonValue?, Text.stripStart_append hbefore,
      Text.stripStart_cons_of_not_isBlank (by decide)]
    exact value?_eq_some_iff.mpr ⟨after, x, hafter, hfeed, rfl, rfl⟩

/-! ## Pairs -/

/-- A key does not start with an at sign. -/
theorem head?_ne_at_of_isKey (hkey : isKey key = true) (rest core : Text) :
    key ++ rest ≠ '@' :: core := by
  cases key with
  | nil => cases hkey
  | cons c key =>
      rw [isKey, Bool.and_eq_true] at hkey
      intro heq
      obtain rfl : c = '@' := (List.cons.inj heq).1
      exact absurd hkey.1 (by decide)

/-- **The reader of cores** finds the pairs of the grammar and no others. -/
theorem corePair?_eq_some_iff {core : Text} :
    corePair? core = some (key, value) ↔ IsPair core key value := by
  constructor
  · intro h
    unfold corePair? at h
    split at h
    · next core =>
      simp only [Option.bind_eq_bind, Option.bind_eq_some_iff] at h
      obtain ⟨⟨key', rest⟩, htake, value', hvalue, heq⟩ := h
      cases heq
      obtain ⟨hkey, rfl, -⟩ := takeKey?_eq_some_iff.mp htake
      obtain ⟨rfl, rfl⟩ | ⟨blanks, x, hne, hblanks, hfeed, rfl, rfl⟩ :=
        atValue?_eq_some_iff.mp hvalue
      · rw [List.append_nil]
        exact IsPair.bare hkey
      · exact IsPair.marked hkey hne hblanks hfeed
    · simp only [Option.bind_eq_bind, Option.bind_eq_some_iff] at h
      obtain ⟨⟨key', rest⟩, htake, value', hvalue, heq⟩ := h
      cases heq
      obtain ⟨hkey, rfl, -⟩ := takeKey?_eq_some_iff.mp htake
      obtain ⟨before, after, x, hbefore, hafter, hfeed, rfl, rfl⟩ :=
        colonValue?_eq_some_iff.mp hvalue
      exact IsPair.named hkey hbefore hafter hfeed
  · intro h
    cases h with
    | bare hkey =>
        have htake : takeKey? key = some (key, []) :=
          takeKey?_eq_some_iff.mpr ⟨hkey, (List.append_nil key).symm, by simp⟩
        simp [corePair?, htake, atValue?]
    | @marked _ blanks x hkey hne hblanks hfeed =>
        have hstop : ∀ c ∈ (blanks ++ x).head?, isKeyRest c = false :=
          isKeyRest_head?_append hblanks (fun h => absurd h hne)
        have htake := takeKey?_eq_some_iff.mpr ⟨hkey, rfl, hstop⟩
        have hvalue : atValue? (blanks ++ x) = some (Text.strip x) :=
          atValue?_eq_some_iff.mpr (Or.inr ⟨blanks, x, hne, hblanks, hfeed, rfl, rfl⟩)
        simp [corePair?, htake, hvalue]
    | @named _ before after x hkey hbefore hafter hfeed =>
        have hcolon : ∀ c ∈ (':' :: (after ++ x)).head?, isKeyRest c = false := by
          rintro c ⟨⟩
          decide
        have hstop := isKeyRest_head?_append hbefore (fun _ => hcolon)
        have htake := takeKey?_eq_some_iff.mpr ⟨hkey, rfl, hstop⟩
        have hvalue : colonValue? (before ++ ':' :: (after ++ x)) = some (Text.strip x) :=
          colonValue?_eq_some_iff.mpr ⟨before, after, x, hbefore, hafter, hfeed, rfl, rfl⟩
        rw [corePair?.eq_2 _ (head?_ne_at_of_isKey hkey _)]
        simp [htake, hvalue]

/-- The value of a pair is stripped, and its characters come from the core. -/
theorem IsPair.value_spec {core : Text} (h : IsPair core key value) :
    Text.strip value = value ∧ ∀ c ∈ value, c ∈ core := by
  cases h with
  | bare hkey => exact ⟨rfl, by simp⟩
  | @marked _ blanks x =>
      refine ⟨Text.strip_strip x, fun c hc => ?_⟩
      have hmem : c ∈ x := (Text.strip_sublist x).subset hc
      simp [hmem]
  | @named _ before after x =>
      refine ⟨Text.strip_strip x, fun c hc => ?_⟩
      have hmem : c ∈ x := (Text.strip_sublist x).subset hc
      simp [hmem]

theorem IsPair.isKey {core : Text} (h : IsPair core key value) : isKey key = true := by
  cases h with
  | bare hkey => exact hkey
  | marked hkey => exact hkey
  | named hkey => exact hkey

theorem lineCore_sublist (line : Text) : (lineCore line).Sublist line :=
  (Text.strip_sublist _).trans ((List.dropWhile_sublist _).trans (Text.strip_sublist _))

/-- **Pairs are what the grammar says.**  A line gives a pair exactly if the pair can be read off
its core by the grammar, there is at most one such pair, and a line gives none exactly if there
is none. -/
theorem pair?_eq_some_iff_isPair_and_unique (line : Text) :
    (∀ key value, pair? line = some (key, value) ↔ IsPair (lineCore line) key value) ∧
      (∀ key value key' value', IsPair (lineCore line) key value →
        IsPair (lineCore line) key' value' → key = key' ∧ value = value') ∧
      (pair? line = none ↔ ∀ key value, ¬ IsPair (lineCore line) key value) := by
  have hread : ∀ key value, pair? line = some (key, value) ↔ IsPair (lineCore line) key value :=
    fun key value => corePair?_eq_some_iff
  refine ⟨hread, ?_, ?_⟩
  · intro key value key' value' h h'
    have hsame := ((hread key value).mpr h).symm.trans ((hread key' value').mpr h')
    exact Prod.mk.inj (Option.some.inj hsame)
  · constructor
    · intro hnone key value h
      rw [(hread key value).mpr h] at hnone
      cases hnone
    · intro hnone
      cases hpair : pair? line with
      | none => rfl
      | some pair => exact absurd ((hread pair.1 pair.2).mp hpair) (hnone pair.1 pair.2)

/-- Of two colons the first one ends the key, and white space may stand before it. -/
example : pair? "-* a.b-c : : @d " = some (("a.b-c" : Text), (": @d" : Text)) := by decide

end MarkupCatalog.Annotation
