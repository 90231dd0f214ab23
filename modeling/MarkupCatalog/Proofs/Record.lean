import MarkupCatalog.Proofs.Annotation.Keys
import MarkupCatalog.Proofs.Json.Roundtrip
import MarkupCatalog.Record

/-!
# Records as values

What a reader gets that reads what was written for a record: the record with all its entries
in their order, or its rendered text.  No key of its metadata may be there twice.
-/

namespace MarkupCatalog

/-- A record as a reader hands it over, with its entries in their order, or its rendered text
alone. -/
def Record.value (r : Record) : SerializeMode → Json.Value
  | .record =>
      .object [
        ("source_file", .text r.source.text),
        ("ordinal", .number r.ordinal 0),
        ("metadata", .object (r.metadata.map fun (key, value) => (key, .text value))),
        ("raw_block", .text r.raw),
        ("rendered", .text r.rendered)]
  | .rendered => .text r.rendered

namespace Json

theorem Value.setMember_of_not_mem {key : Text} {value : Value} {members : List (Text × Value)}
    (h : key ∉ members.map (·.1)) : setMember key value members = members ++ [(key, value)] := by
  induction members with
  | nil => rfl
  | cons member members ih =>
      obtain ⟨k, v⟩ := member
      rw [List.map_cons, List.mem_cons, not_or] at h
      rw [setMember, if_neg (fun heq => h.1 heq.symm), ih h.2, List.cons_append]

/-- Members with different keys are handed over one by one. -/
theorem valuesOnto_of_nodup {done : List (Text × Value)} {members : List (Text × Json)}
    (h : (done.map (·.1) ++ members.map (·.1)).Nodup) :
    valuesOnto done members = done ++ members.map fun m => (m.1, m.2.value) := by
  induction members generalizing done with
  | nil => exact (List.append_nil done).symm
  | cons member members ih =>
      obtain ⟨key, item⟩ := member
      have hnew : key ∉ done.map (·.1) := by
        intro hmem
        exact (List.nodup_append.mp h).2.2 key hmem key List.mem_cons_self rfl
      rw [valuesOnto, Value.setMember_of_not_mem hnew, ih]
      · rw [List.map_cons, List.append_assoc]
        rfl
      · simpa using h

end Json

/-- **What is written for a record** is read as the record. -/
theorem Record.value_written {r : Record} (h : r.metadata.keys.Nodup) (mode : SerializeMode) :
    (r.written mode).value = r.value mode := by
  cases mode with
  | rendered => rw [written, Json.value, value]
  | record =>
      have hmetadata :
          Json.valuesOnto [] (r.metadata.map fun (key, value) => (key, Json.text value)) =
            r.metadata.map fun (key, value) => (key, .text value) := by
        rw [Json.valuesOnto_of_nodup]
        · simp [Json.value]
        · simpa [Metadata.keys, Function.comp_def] using h
      have hkeys : (["source_file", "ordinal", "metadata", "raw_block", "rendered"].map
          String.toList).Nodup := by decide
      rw [written, json, Json.value, Json.valuesOnto_of_nodup]
      · simp only [List.map_cons, List.map_nil, List.nil_append, Json.value, hmetadata, value]
      · exact hkeys

end MarkupCatalog
