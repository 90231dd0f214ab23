import MarkupCatalog.Program
import MarkupCatalog.Proofs.Collection.Output
import MarkupCatalog.Proofs.Json.Ascii
import MarkupCatalog.Proofs.Json.Indented

/-!
# What is printed and what is filed

The program writes records in two ways: as an array over several lines for the console, and piece by
piece, each on one line, for a file.  The two differ in their blanks and in what they escape, and
yet they are read as the same value: `printed_agrees_with_file`.
-/

namespace MarkupCatalog.Program

open Collection

/-- All that a writer is given to write these records. -/
def filed (records : List Record) : Text :=
  ((Action.write "[" :: (records.flatMap (keepRecord .record) ++ [.finish])).flatMap
    Action.chunks).flatten

/-- What a writer is given is an array, as records are numbered from zero. -/
theorem filed_eq_arrayText {records : List Record}
    (h : records.map (·.ordinal) = List.range' 0 records.length) :
    filed records = arrayText .record records :=
  ((yields_keepRecords .record records).enclosed h).chunks

/-- **The two ways to write records agree.**  What is printed is ASCII, and it is read as the same
value as the array in the file, in which all characters are kept.  This value holds all of every
record, if no key of its metadata is there twice. -/
theorem printed_agrees_with_file (records : List Record) :
    ∃ output value,
      (∀ fs o, givenOutput? o = none → printed fs o records = .ok output) ∧
      Text.IsAscii output ∧ Json.read? output = some value ∧
      Json.read? (arrayText .record records) = some value ∧
      ((∀ r ∈ records, r.metadata.keys.Nodup) →
        value = .array (records.map fun r => r.value .record)) ∧
      (records.map (·.ordinal) = List.range' 0 records.length →
        filed records = arrayText .record records) := by
  have hfile : Json.read? (arrayText .record records) =
      some (Json.array (records.map Record.json)).value := by
    have hread := Json.read?_array (records.map Record.json)
    rw [List.map_map, ← Json.values_eq_map] at hread
    rw [Json.value]
    exact hread
  refine ⟨(Json.array (records.map Record.json)).indented 0 ++ "\n", _, ?_, ?_,
    Json.read?_indented _, hfile, ?_, filed_eq_arrayText⟩
  · intro fs o h
    rw [printed, h]
  · exact (Json.isAscii_indented 0 _).append (by decide)
  · intro hkeys
    exact Option.some.inj (hfile.symm.trans (read?_arrayText .record hkeys))

/-- A record with characters that are escaped in different ways. -/
def smilingRecord : Record where
  source := .absolute ["é.html"]
  ordinal := 0
  metadata := [("name", "😀\x7f")]
  raw := []
  rendered := "\"\n"

/-- The record as it is printed. -/
def smilingOutput : Text :=
  "[\n" ++
  "  \x7b\n" ++
  "    \"source_file\": \"/\\u00e9.html\",\n" ++
  "    \"ordinal\": 0,\n" ++
  "    \"metadata\": \x7b\n" ++
  "      \"name\": \"\\ud83d\\ude00\\u007f\"\n" ++
  "    \x7d,\n" ++
  "    \"raw_block\": \"\",\n" ++
  "    \"rendered\": \"\\\"\\n\"\n" ++
  "  \x7d\n" ++
  "]\n"

/-- The smile is a pair of surrogates on the console and itself in the file, and it is read as the
same name from both. -/
theorem printed_agrees_with_file_smilingRecord :
    printed ⟨.directory [], []⟩ [] [smilingRecord] = .ok smilingOutput ∧
    Text.IsAscii smilingOutput ∧
    ('😀' ∈ filed [smilingRecord] ∧ filed [smilingRecord] = arrayText .record [smilingRecord]) ∧
    Json.read? smilingOutput = some (.array [smilingRecord.value .record]) ∧
    Json.read? (arrayText .record [smilingRecord]) =
      some (.array [smilingRecord.value .record]) := by
  have hprinted : printed ⟨.directory [], []⟩ [] [smilingRecord] = .ok smilingOutput := by cbv
  have hkept : '😀' ∈ filed [smilingRecord] := by decide +kernel
  obtain ⟨output, value, houtput, hascii, hread, hfile, hvalue, hfiled⟩ :=
    printed_agrees_with_file [smilingRecord]
  have hkeys : ∀ r ∈ [smilingRecord], r.metadata.keys.Nodup := by decide
  cases (houtput _ _ rfl).symm.trans hprinted
  cases hvalue hkeys
  exact ⟨hprinted, hascii, ⟨hkept, hfiled rfl⟩, hread, hfile⟩

end MarkupCatalog.Program
