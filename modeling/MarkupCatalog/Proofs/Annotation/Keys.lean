import Mathlib.Data.List.Nodup
import MarkupCatalog.Annotation.Block

/-!
# Keys of metadata

The metadata of an annotation is built by setting one key after the other, so no key is in
it twice: `Dialect.nodup_keys_of_mem_parse`.
-/

namespace MarkupCatalog

namespace Metadata

/-- The keys in their order. -/
def keys (m : Metadata) : List Text := m.map (·.1)

/-- To set a key adds no other one. -/
theorem mem_keys_insert {m : Metadata} {key value k : Text} :
    k ∈ (m.insert key value).keys ↔ k = key ∨ k ∈ m.keys := by
  induction m with
  | nil => simp [insert, keys]
  | cons entry rest ih =>
      obtain ⟨k', v⟩ := entry
      simp only [keys] at ih ⊢
      by_cases hk : k' = key
      · simp [insert, hk]
      · simp only [insert, hk, if_false, List.map_cons, List.mem_cons, ih]
        exact or_left_comm

/-- A key that is set again is not listed twice. -/
theorem nodup_keys_insert {m : Metadata} (h : m.keys.Nodup) (key value : Text) :
    (m.insert key value).keys.Nodup := by
  induction m with
  | nil => simp [insert, keys]
  | cons entry rest ih =>
      obtain ⟨k, v⟩ := entry
      obtain ⟨hnew, hrest⟩ := List.nodup_cons.mp h
      rw [insert]
      split
      · exact List.nodup_cons.mpr ⟨hnew, hrest⟩
      · next hk =>
        refine List.nodup_cons.mpr ⟨?_, ih hrest⟩
        intro hmem
        rcases mem_keys_insert.mp hmem with heq | hold
        · exact hk heq
        · exact hnew hold

/-- The same holds of any number of pairs, by induction on them. -/
theorem nodup_keys_insertAll {m : Metadata} (h : m.keys.Nodup) (pairs : List (Text × Text)) :
    (m.insertAll pairs).keys.Nodup := by
  induction pairs generalizing m with
  | nil => exact h
  | cons pair pairs ih => exact ih (nodup_keys_insert h pair.1 pair.2)

/-- The metadata of a header have every key once. -/
theorem nodup_keys_ofHeader (header : Text) : (ofHeader header).keys.Nodup := by
  have hnone : (keys []).Nodup := List.nodup_nil
  exact nodup_keys_insertAll hnone _

end Metadata

namespace Annotation.Dialect

variable {d : Dialect} {text : Text}

theorem nodup_keys_of_mem_blockAt? {start : Nat} {next : Option Nat} {b : Block}
    (h : b ∈ d.blockAt? text start next) : b.metadata.keys.Nodup := by
  simp only [blockAt?] at h
  split at h
  · cases h
  · cases h
    exact Metadata.nodup_keys_ofHeader _
  · cases h
    exact Metadata.nodup_keys_ofHeader _

/-- So have the metadata of each block between the markers. -/
theorem nodup_keys_of_mem_blocksAt {ms : List Nat} {b : Block} (h : b ∈ d.blocksAt text ms) :
    b.metadata.keys.Nodup := by
  fun_induction blocksAt d text ms with
  | case1 => cases h
  | case2 last => exact nodup_keys_of_mem_blockAt? (Option.mem_toList.mp h)
  | case3 start next rest ih =>
      rcases List.mem_append.mp h with hfirst | hrest
      · exact nodup_keys_of_mem_blockAt? (Option.mem_toList.mp hfirst)
      · exact ih hrest

/-- **No key stands twice** in the metadata of an annotation. -/
theorem nodup_keys_of_mem_parse {b : Block} (h : b ∈ d.parse text) : b.metadata.keys.Nodup :=
  nodup_keys_of_mem_blocksAt h

end Annotation.Dialect

end MarkupCatalog
