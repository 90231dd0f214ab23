import MarkupCatalog.Exclusion.Rule
import MarkupCatalog.Proofs.Text.Joining
import MarkupCatalog.Proofs.Text.Strip

/-!
# Patterns that mean just what they say

A pattern without wildcards matches one text, itself (`Glob.isMatch_eq_true_iff`).  Such a pattern
may still have slashes around it, which decide where and against what it is matched.  The rule that
it makes is written down once for all of these shapes (`ofPattern?_literal`); and then it takes two
statements to say which entries the rule applies to, one for a name and one for a path
(`applies_literalRule_name`, `applies_literalRule_path`).
-/

namespace MarkupCatalog

/-- The first character says with what a text starts. -/
theorem Text.startsWith_eq (c : Char) (t : Text) : startsWith c t = decide (t.head? = some c) := by
  cases t <;> simp [startsWith]

/-! ## Wildcards -/

namespace Glob

/-- Does the character mean something else than itself in a pattern? -/
def isWildcard (c : Char) : Bool := c == '*' || c == '?' || c == '['

/-- A pattern without wildcards is taken literally. -/
theorem parts_eq_map_literal {pattern : Text} (h : ∀ c ∈ pattern, isWildcard c = false) :
    parts pattern = pattern.map .literal := by
  induction pattern with
  | nil => rfl
  | cons c rest ih =>
      obtain ⟨hc, hrest⟩ := List.forall_mem_cons.mp h
      simp only [isWildcard, Bool.or_eq_false_iff, beq_eq_false_iff_ne] at hc
      obtain ⟨⟨hstar, hquestion⟩, hbracket⟩ := hc
      rw [parts] at ih ⊢
      rw [partsFrom, ih hrest, List.map_cons]
      · exact hstar
      · exact hquestion
      · exact hbracket

/-- A literal pattern matches itself and nothing else. -/
theorem matchParts_literals {pattern text : Text} :
    matchParts (pattern.map .literal) text = true ↔ text = pattern := by
  induction pattern generalizing text with
  | nil => simp [matchParts]
  | cons c pattern ih =>
      cases text with
      | nil => simp [matchParts]
      | cons d text => simp [matchParts, Part.accepts, ih]

/-- **A pattern without wildcards** matches itself and nothing else. -/
theorem isMatch_eq_true_iff {pattern text : Text} (h : ∀ c ∈ pattern, isWildcard c = false) :
    isMatch pattern text = true ↔ text = pattern := by
  rw [isMatch_eq, parts_eq_map_literal h, matchParts_literals]

end Glob

namespace Exclusion

/-- The text of a path from the root. -/
abbrev pathText (names : List Text) : Text := Text.joinWith ['/'] names

/-- The names make a pattern that means just the path of these names: none is empty or holds a slash
or a wildcard, white space does not surround the path, and it starts neither a remark nor a pattern
that takes entries back in. -/
structure IsLiteral (names : List Text) : Prop where
  ne_nil : names ≠ []
  filled : ∀ name ∈ names, name ≠ []
  slashFree : ∀ name ∈ names, '/' ∉ name
  plain : ∀ name ∈ names, ∀ c ∈ name, Glob.isWildcard c = false
  stripped : Text.strip (pathText names) = pathText names
  notMarked : ∀ c ∈ (pathText names).head?, c ≠ '#' ∧ c ≠ '!'

variable {names place : List Text} {anchored directoryOnly isDirectory : Bool} {d : Text}

/-- Different names without slashes make different paths. -/
theorem pathText_inj (hplace : ∀ name ∈ place, '/' ∉ name) (hne : place ≠ [])
    (hnames : ∀ name ∈ names, '/' ∉ name) (hne' : names ≠ []) :
    pathText place = pathText names ↔ place = names := by
  constructor
  · intro h
    rw [← Text.splitOnChar_joinWith hne hplace, ← Text.splitOnChar_joinWith hne' hnames]
    exact congrArg _ h
  · rintro rfl
    rfl

namespace IsLiteral

/-- A literal path does not begin with a slash. -/
theorem exists_cons (h : IsLiteral names) : ∃ c rest, pathText names = c :: rest ∧ c ≠ '/' := by
  obtain ⟨name, others, rfl⟩ := List.exists_cons_of_ne_nil h.ne_nil
  obtain ⟨c, rest, rfl⟩ := List.exists_cons_of_ne_nil (h.filled name List.mem_cons_self)
  obtain ⟨t, ht⟩ := Text.joinWith_cons ['/'] (c :: rest) others
  refine ⟨c, rest ++ t, ht, ?_⟩
  rintro rfl
  exact h.slashFree _ List.mem_cons_self List.mem_cons_self

/-- A literal path does not end with a slash. -/
theorem exists_concat (h : IsLiteral names) :
    ∃ front c, pathText names = front ++ [c] ∧ c ≠ '/' := by
  obtain hnil | ⟨others, name, rfl⟩ := List.eq_nil_or_concat' names
  · exact absurd hnil h.ne_nil
  have hmem : name ∈ others ++ [name] := List.mem_append_right _ List.mem_cons_self
  obtain hempty | ⟨front, c, rfl⟩ := List.eq_nil_or_concat' name
  · exact absurd hempty (h.filled name hmem)
  obtain ⟨t, ht⟩ := Text.joinWith_concat ['/'] others (front ++ [c])
  refine ⟨t ++ front, c, by rw [pathText, ht, List.append_assoc], ?_⟩
  rintro rfl
  exact h.slashFree _ hmem (List.mem_append_right _ List.mem_cons_self)

/-- A literal path holds no wildcard. -/
theorem isWildcard_eq_false (h : IsLiteral names) {c : Char} (hc : c ∈ pathText names) :
    Glob.isWildcard c = false := by
  obtain hslash | ⟨name, hname, hc⟩ := Text.mem_joinWith hc
  · cases List.mem_singleton.mp hslash
    rfl
  · exact h.plain name hname c hc

/-- There is a slash in the path of two or more names. -/
theorem contains_slash (h : IsLiteral names) :
    (pathText names).contains '/' = decide (2 ≤ names.length) := by
  obtain ⟨name, others, rfl⟩ := List.exists_cons_of_ne_nil h.ne_nil
  cases others with
  | nil => simpa [pathText, Text.joinWith] using h.slashFree name List.mem_cons_self
  | cons next others => simp [pathText, Text.joinWith_cons_cons]

end IsLiteral

/-! ## Rules -/

/-- The pattern for a path, tied to the root, restricted to directories, both or neither. -/
def literalPattern (anchored directoryOnly : Bool) (names : List Text) : Text :=
  (if anchored then ['/'] else []) ++ (pathText names ++ if directoryOnly then ['/'] else [])

/-- The rule that it makes. -/
def literalRule (anchored directoryOnly : Bool) (names : List Text) : Rule where
  pattern := pathText names
  directoryOnly
  anchored
  negated := false
  hasSlash := decide (2 ≤ names.length)

namespace IsLiteral

variable (h : IsLiteral names) (anchored directoryOnly : Bool)

include h

/-- A pattern starts with no white space and with no mark. -/
theorem head?_literalPattern : ∃ c, (literalPattern anchored directoryOnly names).head? = some c ∧
    Text.isBlank c = false ∧ c ≠ '#' ∧ c ≠ '!' := by
  obtain ⟨c, rest, hcons, _⟩ := h.exists_cons
  have hblank := (Text.strip_eq_self_iff.mp h.stripped).1 c (by rw [hcons]; rfl)
  obtain ⟨hremark, hreadmits⟩ := h.notMarked c (by rw [hcons]; rfl)
  rw [literalPattern, hcons]
  cases anchored
  · exact ⟨c, rfl, hblank, hremark, hreadmits⟩
  · exact ⟨'/', rfl, by decide, by decide, by decide⟩

/-- It ends with no white space, and with a slash only if it is for directories. -/
theorem getLast?_literalPattern :
    ∃ c, (literalPattern anchored directoryOnly names).getLast? = some c ∧
      Text.isBlank c = false ∧ (c = '/' ↔ directoryOnly = true) := by
  obtain ⟨front, c, hconcat, hc⟩ := h.exists_concat
  have hblank := (Text.strip_eq_self_iff.mp h.stripped).2 c (by rw [hconcat]; simp)
  rw [literalPattern, hconcat]
  cases directoryOnly
  · exact ⟨c, by simp, hblank, by simp [hc]⟩
  · exact ⟨'/', by simp, by decide, by simp⟩

/-- A literal pattern has no blanks to lose. -/
theorem strip_literalPattern : Text.strip (literalPattern anchored directoryOnly names) =
    literalPattern anchored directoryOnly names := by
  obtain ⟨c, hfirst, hblank, _⟩ := h.head?_literalPattern anchored directoryOnly
  obtain ⟨d, hlast, hblank', _⟩ := h.getLast?_literalPattern anchored directoryOnly
  refine Text.strip_eq_self_iff.mpr ⟨fun x hx => ?_, fun x hx => ?_⟩
  · rw [hfirst] at hx
    cases hx
    exact hblank
  · rw [hlast] at hx
    cases hx
    exact hblank'

/-- A slash in front of a path ties it to the root, and there is none in front of the names. -/
theorem startsWith_slash :
    Text.startsWith '/' ((if anchored then ['/'] else []) ++ pathText names) = anchored := by
  obtain ⟨c, rest, hcons, hc⟩ := h.exists_cons
  rw [Text.startsWith_eq, hcons]
  cases anchored <;> simp [hc]

end IsLiteral

/-- Without the slash that ends it, a literal pattern is its path, or a slash and its path. -/
theorem dropLast_literalPattern (anchored directoryOnly : Bool) (names : List Text) :
    (if directoryOnly = true then (literalPattern anchored directoryOnly names).dropLast
      else literalPattern anchored directoryOnly names) =
      (if anchored then ['/'] else []) ++ pathText names := by
  rw [literalPattern]
  cases directoryOnly
  · simp
  · simp [← List.append_assoc]

/-- **The slashes around a path** are taken off, and nothing else is. -/
theorem ofPattern?_literal (h : IsLiteral names) (anchored directoryOnly : Bool) :
    Rule.ofPattern? (literalPattern anchored directoryOnly names) =
      some (literalRule anchored directoryOnly names) := by
  obtain ⟨c, hfirst, _, hremark, hreadmits⟩ := h.head?_literalPattern anchored directoryOnly
  obtain ⟨d, hlast, _, hslash⟩ := h.getLast?_literalPattern anchored directoryOnly
  have hkept : ((literalPattern anchored directoryOnly names).isEmpty ||
      Text.startsWith '#' (literalPattern anchored directoryOnly names)) = false := by
    have hnonempty : literalPattern anchored directoryOnly names ≠ [] := by
      intro hnil
      simp [hnil] at hfirst
    rw [Text.startsWith_eq, hfirst, List.isEmpty_eq_false_iff.mpr hnonempty]
    simp [hremark]
  have hplain : Text.startsWith '!' (literalPattern anchored directoryOnly names) = false := by
    rw [Text.startsWith_eq, hfirst]
    simp [hreadmits]
  have hdirectory :
      Text.endsWith '/' (literalPattern anchored directoryOnly names) = directoryOnly := by
    rw [Text.endsWith, hlast]
    cases directoryOnly <;> simpa using hslash
  have hrest : (if anchored = true then ((if anchored then ['/'] else []) ++ pathText names).drop 1
      else (if anchored then ['/'] else []) ++ pathText names) = pathText names := by
    cases anchored <;> rfl
  simp only [Rule.ofPattern?, h.strip_literalPattern, hkept, hplain, hdirectory,
    dropLast_literalPattern, h.startsWith_slash, hrest, h.contains_slash, Bool.false_eq_true,
    if_false, literalRule]

/-! ## Where a rule applies -/

/-- What a single rule excludes that takes nothing back in. -/
theorem isExcluded_singleton {rule : Rule} (h : rule.negated = false) (path : Text)
    (isDirectory : Bool) : isExcluded [rule] path isDirectory = rule.applies path isDirectory := by
  rw [isExcluded, List.foldl_cons, List.foldl_nil, h]
  cases rule.applies path isDirectory <;> rfl

variable (hplace : ∀ name ∈ place, '/' ∉ name) (hne : place ≠ [])

include hplace hne

/-- **The rule of a path** applies at that path, and that of a name tied to the root does at that
name: to all entries, or to directories. -/
theorem applies_literalRule_path (h : IsLiteral names)
    (hpath : anchored = true ∨ 2 ≤ names.length) :
    (literalRule anchored directoryOnly names).applies (pathText place) isDirectory = true ↔
      (directoryOnly = true → isDirectory = true) ∧ place = names := by
  obtain ⟨c, rest, hcons, _⟩ := h.exists_cons
  have hfilled : (pathText names).isEmpty = false := by rw [hcons]; rfl
  have hmatch : Glob.isMatch (pathText names) (pathText place) = true ↔ place = names :=
    (Glob.isMatch_eq_true_iff fun _ hc => h.isWildcard_eq_false hc).trans
      (pathText_inj hplace hne h.slashFree h.ne_nil)
  have hwhole : (anchored || decide (2 ≤ names.length)) = true := by simpa using hpath
  simp only [Rule.applies, literalRule, hfilled, hwhole, Bool.false_eq_true, if_false, if_true]
  rw [← hmatch]
  cases directoryOnly <;> cases isDirectory <;> simp

/-- **The rule of a name** applies wherever this name is one of the names that lead to the entry. -/
theorem applies_literalRule_name (h : IsLiteral [d]) :
    (literalRule false directoryOnly [d]).applies (pathText place) isDirectory = true ↔
      (directoryOnly = true → isDirectory = true) ∧ d ∈ place := by
  have hfilled : d.isEmpty = false :=
    List.isEmpty_eq_false_iff.mpr (h.filled d List.mem_cons_self)
  have hmatch : place.any (Glob.isMatch d) = true ↔ d ∈ place := by
    have hname (name : Text) : Glob.isMatch d name = true ↔ name = d :=
      Glob.isMatch_eq_true_iff (h.plain d List.mem_cons_self)
    simp [hname]
  have hshort : decide (2 ≤ [d].length) = false := rfl
  simp only [Rule.applies, literalRule, pathText, Text.joinWith, hfilled, hshort, Bool.or_self,
    Bool.false_eq_true, if_false, Text.splitOnChar_joinWith hne hplace]
  rw [← hmatch]
  cases directoryOnly <;> cases isDirectory <;> simp

end Exclusion

end MarkupCatalog
