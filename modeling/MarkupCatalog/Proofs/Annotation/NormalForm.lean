import MarkupCatalog.Proofs.Annotation.Keys
import MarkupCatalog.Proofs.Annotation.Printing

/-!
# Metadata and its normal form

Metadata comes from lines of several shapes: a name on the keyword's own line, `@key value`,
`key: value`.  Written out again, all of it takes the last shape, one entry on a line behind an
empty first line, and reading this header gives the same metadata in the same order.

What makes it work is that every entry, wherever it came from, can stand on a line of its own
(`isEntry_of_mem_ofHeader`): its key is a key, and its value is stripped and holds no line end.
-/

namespace MarkupCatalog.Metadata

open Annotation (isKey pair? lineCore)
open Annotation.Entry (pairLine)

/-- The entry can stand on a line of its own: its key is a key, and its value has no white space
at its ends and no line end in it. -/
structure IsEntry (entry : Text × Text) : Prop where
  key : isKey entry.1 = true
  stripped : Text.strip entry.2 = entry.2
  oneLine : ∀ c ∈ entry.2, Text.isLineEnd c = false

/-- The metadata as a header: a line for each entry, and nothing on the keyword's own line. -/
def normalForm (m : Metadata) : Text := m.flatMap fun entry => '\n' :: pairLine entry

variable {m pairs : Metadata} {key value line : Text}

/-! ## Setting keys -/

/-- An entry was set, or it was there before. -/
theorem mem_of_mem_insert {entry : Text × Text} (h : entry ∈ m.insert key value) :
    entry = (key, value) ∨ entry ∈ m := by
  induction m with
  | nil => exact Or.inl (List.mem_singleton.mp h)
  | cons first rest ih =>
      obtain ⟨k, v⟩ := first
      rw [insert] at h
      split at h
      · next hk =>
        obtain rfl | hrest := List.mem_cons.mp h
        · exact Or.inl (by rw [hk])
        · exact Or.inr (List.mem_cons_of_mem _ hrest)
      · obtain rfl | hrest := List.mem_cons.mp h
        · exact Or.inr List.mem_cons_self
        · exact (ih hrest).imp_right (List.mem_cons_of_mem _)

theorem mem_of_mem_insertAll {entry : Text × Text} (h : entry ∈ m.insertAll pairs) :
    entry ∈ m ∨ entry ∈ pairs := by
  induction pairs generalizing m with
  | nil => exact Or.inl h
  | cons pair pairs ih =>
      obtain hmem | hmem := ih h
      · obtain rfl | hold := mem_of_mem_insert hmem
        · exact Or.inr List.mem_cons_self
        · exact Or.inl hold
      · exact Or.inr (List.mem_cons_of_mem _ hmem)

/-- A new key is set at the end. -/
theorem insert_of_not_mem_keys (h : key ∉ m.keys) :
    m.insert key value = m ++ [(key, value)] := by
  induction m with
  | nil => rfl
  | cons entry rest ih =>
      obtain ⟨k, v⟩ := entry
      rw [keys, List.map_cons, List.mem_cons, not_or] at h
      rw [insert, if_neg (fun hk => h.1 hk.symm), ih h.2, List.cons_append]

/-- New keys are set one after the other. -/
theorem insertAll_of_nodup (h : (keys (m ++ pairs)).Nodup) : m.insertAll pairs = m ++ pairs := by
  induction pairs generalizing m with
  | nil => exact (List.append_nil m).symm
  | cons pair pairs ih =>
      have hsplit : m ++ pair :: pairs = m ++ [pair] ++ pairs := by simp
      have hnew : pair.1 ∉ m.keys := by
        intro hmem
        rw [keys, List.map_append, List.nodup_append] at h
        exact h.2.2 pair.1 hmem pair.1 (List.mem_map_of_mem List.mem_cons_self) rfl
      rw [hsplit] at h ⊢
      rw [← ih h, ← insert_of_not_mem_keys hnew]
      rfl

/-! ## What headers hold -/

/-- A pair that is read off a line can stand on a line of its own. -/
theorem isEntry_of_pair? {pair : Text × Text} (hline : ∀ c ∈ line, Text.isLineEnd c = false)
    (h : pair? line = some pair) : IsEntry pair := by
  have hpair : Annotation.IsPair (lineCore line) pair.1 pair.2 :=
    Annotation.corePair?_eq_some_iff.mp h
  have hsub := Annotation.lineCore_sublist line
  obtain ⟨hstrip, hmem⟩ := hpair.value_spec
  exact ⟨hpair.isKey, hstrip, fun c hc => hline c (hsub.subset (hmem c hc))⟩

/-- So can the name that a line gives. -/
theorem isEntry_nameText (hline : ∀ c ∈ line, Text.isLineEnd c = false) :
    IsEntry (nameKey, nameText line) := by
  have hsub : (nameText line).Sublist line :=
    (Text.strip_sublist _).trans ((List.dropWhile_sublist _).trans (Text.strip_sublist _))
  have hname : isKey nameKey = true := by decide
  exact ⟨hname, Text.strip_strip _, fun c hc => hline c (hsub.subset hc)⟩

theorem isEntry_of_firstPair? {pair : Text × Text}
    (hline : ∀ c ∈ line, Text.isLineEnd c = false) (h : firstPair? line = some pair) :
    IsEntry pair := by
  unfold firstPair? at h
  split at h
  · next hpair =>
    cases h
    exact isEntry_of_pair? hline hpair
  · split at h
    · cases h
    · cases h
      exact isEntry_nameText hline

/-- **Every entry of a header** can stand on a line of its own. -/
theorem isEntry_of_mem_ofHeader {header : Text} {entry : Text × Text}
    (h : entry ∈ ofHeader header) : IsEntry entry := by
  obtain hnone | hmem := mem_of_mem_insertAll h
  · cases hnone
  · have hlines : ∀ line ∈ Text.lines header, ∀ c ∈ line, Text.isLineEnd c = false :=
      fun line hline => Text.isLineEnd_eq_false_of_mem_lines hline
    unfold headerPairs at hmem
    split at hmem
    · cases hmem
    · next first rest hfirst =>
      rw [hfirst, List.forall_mem_cons] at hlines
      obtain hmem | hmem := List.mem_append.mp hmem
      · exact isEntry_of_firstPair? hlines.1 (Option.mem_toList.mp hmem)
      · obtain ⟨line, hline, hpair⟩ := List.mem_filterMap.mp hmem
        exact isEntry_of_pair? (hlines.2 line hline) hpair

/-! ## Reading the normal form -/

/-- An entry's line holds no line end, and it is not empty. -/
theorem IsEntry.pairLine_spec {entry : Text × Text} (h : IsEntry entry) :
    pairLine entry ≠ [] ∧ ∀ c ∈ pairLine entry, Text.isLineEnd c = false := by
  refine ⟨?_, fun c hc => Annotation.isLineEnd_eq_false_of_mem_pairLine h.key h.oneLine hc⟩
  simp [pairLine]

/-- Behind its empty first line, the normal form has one line for each entry. -/
theorem lines_normalForm (h : ∀ entry ∈ m, IsEntry entry) (hne : m ≠ []) :
    Text.lines m.normalForm = [] :: m.map pairLine := by
  -- the last line has no line feed behind it, so the induction is over the lines after the first
  have hlines : ∀ (entry : Text × Text) (rest : Metadata), IsEntry entry →
      (∀ entry ∈ rest, IsEntry entry) →
      Text.lines (pairLine entry ++ normalForm rest) = pairLine entry :: rest.map pairLine := by
    intro entry rest hentry hrest
    induction rest generalizing entry with
    | nil =>
        rw [normalForm, List.flatMap_nil, List.append_nil, List.map_nil]
        exact Text.lines_eq_singleton hentry.pairLine_spec.1 hentry.pairLine_spec.2
    | cons next rest ih =>
        rw [List.forall_mem_cons] at hrest
        rw [normalForm, List.flatMap_cons, List.cons_append,
          Text.lines_append_newline hentry.pairLine_spec.2, List.map_cons]
        exact congrArg _ (ih next hrest.1 hrest.2)
  obtain ⟨entry, rest, rfl⟩ := List.exists_cons_of_ne_nil hne
  rw [List.forall_mem_cons] at h
  have hfirst : ∀ c ∈ ([] : Text), Text.isLineEnd c = false := by simp
  rw [normalForm, List.flatMap_cons, List.map_cons, ← hlines entry rest h.1 h.2]
  exact Text.lines_append_newline hfirst

/-- **The normal form is read back.** -/
theorem ofHeader_normalForm (h : ∀ entry ∈ m, IsEntry entry) (hkeys : m.keys.Nodup) :
    ofHeader m.normalForm = m := by
  have hpairs : headerPairs m.normalForm = m := by
    by_cases hne : m = []
    · rw [hne]
      rfl
    · have hread := Annotation.filterMap_pair?_pairLine (fun entry hentry => (h entry hentry).key)
        (fun entry hentry => ⟨(h entry hentry).stripped, (h entry hentry).oneLine⟩)
      have hempty : firstPair? [] = none := by decide
      rw [headerPairs, lines_normalForm h hne]
      simp only [hempty, Option.toList_none, List.nil_append, hread]
  rw [ofHeader, hpairs]
  exact insertAll_of_nodup hkeys

/-- **Metadata has a normal form.**  Whatever a header holds, each key of its metadata is a key
and stands there once, each value is stripped and stays on one line, and the metadata written out
entry by entry is read as the same metadata, in the same order. -/
theorem isEntry_and_ofHeader_normalForm (header : Text) :
    (∀ entry ∈ ofHeader header, IsEntry entry) ∧ (ofHeader header).keys.Nodup ∧
      ofHeader (ofHeader header).normalForm = ofHeader header := by
  have hentries : ∀ entry ∈ ofHeader header, IsEntry entry :=
    fun entry h => isEntry_of_mem_ofHeader h
  have hkeys := nodup_keys_ofHeader header
  exact ⟨hentries, hkeys, ofHeader_normalForm hentries hkeys⟩

/-- A name that is set again keeps its place, and a value may look like a pair itself. -/
example : normalForm (ofHeader " Card\x0b * @since @a 2\nskipped\n-name: : x")
    = "\nname: : x\nsince: @a 2" := by decide

end MarkupCatalog.Metadata
