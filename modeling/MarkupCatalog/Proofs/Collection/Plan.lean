import Mathlib.Data.List.Range
import MarkupCatalog.Proofs.Annotation.Keys
import MarkupCatalog.Proofs.Collection.Turns

/-!
# What a plan writes and keeps

The plan of a collection hands the records to the writer piece by piece: an opening bracket,
then for each record its text, with a comma before all but the very first, and at last the
closing bracket.  `plan_spec` says what this comes to: the chunks are the array of the
records that are kept, these are numbered from zero across all files, and the end is
announced once, by the last action.
-/

namespace MarkupCatalog.Collection

/-- The chunks that an action hands to the writer. -/
def Action.chunks : Action → List Text
  | .write chunk => [chunk]
  | .finish => ["]"]
  | _ => []

/-- An action that is not the last one hands over its chunks and nothing else. -/
theorem Action.messages_eq_chunks {a : Action} (h : a ≠ .finish) :
    a.messages = a.chunks.map .chunk := by
  cases a <;> first | rfl | exact absurd rfl h

/-- The text of a record with what stands before it. -/
def piece (mode : SerializeMode) (r : Record) : Text :=
  (if r.ordinal = 0 then [] else ",") ++ (r.written mode).compact

/-- The records as an array in the text of a file. -/
def arrayText (mode : SerializeMode) (records : List Record) : Text :=
  "[" ++ Text.joinWith "," (records.map fun r => (r.written mode).compact) ++ "]"

/-! ## Numbers and commas -/

theorem joinWith_comma_cons (p : Text) (pieces : List Text) :
    Text.joinWith "," (p :: pieces) = p ++ pieces.flatMap (',' :: ·) := by
  induction pieces generalizing p with
  | nil => exact (List.append_nil p).symm
  | cons q pieces ih =>
      show p ++ "," ++ Text.joinWith "," (q :: pieces) = _
      rw [ih q, List.flatMap_cons, List.append_assoc]
      rfl

/-- **Commas stand between records** that are numbered from zero. -/
theorem flatMap_piece {mode : SerializeMode} {records : List Record}
    (h : records.map (·.ordinal) = List.range' 0 records.length) :
    records.flatMap (piece mode) =
      Text.joinWith "," (records.map fun r => (r.written mode).compact) := by
  cases records with
  | nil => rfl
  | cons r records =>
      rw [List.map_cons, List.length_cons, List.range'_succ, List.cons.injEq] at h
      obtain ⟨hzero, hrest⟩ := h
      have hcomma : records.flatMap (piece mode) =
          (records.map fun r => (r.written mode).compact).flatMap (',' :: ·) := by
        rw [List.flatMap_map]
        refine List.flatMap_congr fun r' hr' => ?_
        have hpos : r'.ordinal ≠ 0 := by
          have hmem : r'.ordinal ∈ List.range' (0 + 1) records.length :=
            hrest ▸ List.mem_map_of_mem hr'
          have := (List.mem_range'_1.mp hmem).1
          omega
        rw [piece, if_neg hpos]
        rfl
      rw [List.flatMap_cons, List.map_cons, joinWith_comma_cons, hcomma, piece, if_pos hzero]
      rfl

/-- Blocks get the numbers from `ordinal` on. -/
theorem map_ordinal_recordsOf (template : Template) (source : Path) (ordinal : Nat)
    (blocks : List Annotation.Block) :
    (recordsOf template source ordinal blocks).map (·.ordinal) =
      List.range' ordinal blocks.length := by
  induction blocks generalizing ordinal with
  | nil => rfl
  | cons b blocks ih =>
      rw [recordsOf, List.map_cons, ih, List.length_cons, List.range'_succ]
      rfl

/-- Every block has its record. -/
theorem length_recordsOf (template : Template) (source : Path) (ordinal : Nat)
    (blocks : List Annotation.Block) :
    (recordsOf template source ordinal blocks).length = blocks.length := by
  have hlength := congrArg List.length (map_ordinal_recordsOf template source ordinal blocks)
  simpa using hlength

/-- The metadata of the record of a block is that of the block. -/
theorem metadata_of_mem_recordsOf {template : Template} {source : Path} {ordinal : Nat}
    {blocks : List Annotation.Block} {r : Record}
    (h : r ∈ recordsOf template source ordinal blocks) : ∃ b ∈ blocks, r.metadata = b.metadata := by
  induction blocks generalizing ordinal with
  | nil => cases h
  | cons b blocks ih =>
      rcases List.mem_cons.mp h with rfl | hrest
      · exact ⟨b, List.mem_cons_self, rfl⟩
      · obtain ⟨b', hb', hmetadata⟩ := ih hrest
        exact ⟨b', List.mem_cons_of_mem b hb', hmetadata⟩

/-! ## Actions -/

/-- What actions come to: the chunks that they hand over make this text, and these are the
records that they keep. -/
structure Yields (actions : List Action) (text : Text) (records : List Record) : Prop where
  chunks : (actions.flatMap Action.chunks).flatten = text
  kept : actions.flatMap Action.kept = records

/-- What two parts of a plan yield is put together part by part. -/
theorem Yields.append {first second : List Action} {text more : Text}
    {records others : List Record} (h : Yields first text records)
    (h' : Yields second more others) :
    Yields (first ++ second) (text ++ more) (records ++ others) where
  chunks := by rw [List.flatMap_append, List.flatten_append, h.chunks, h'.chunks]
  kept := by rw [List.flatMap_append, h.kept, h'.kept]

/-- A record yields its piece of the array, and itself for the channel. -/
theorem yields_keepRecord (mode : SerializeMode) (r : Record) :
    Yields (keepRecord mode r) (piece mode r) [r] := by
  unfold keepRecord piece
  split
  · exact ⟨by simp [Action.chunks], rfl⟩
  · exact ⟨by simp [Action.chunks], rfl⟩

/-- Records one after the other yield their pieces one after the other. -/
theorem yields_keepRecords (mode : SerializeMode) (records : List Record) :
    Yields (records.flatMap (keepRecord mode)) (records.flatMap (piece mode)) records := by
  induction records with
  | nil => exact ⟨rfl, rfl⟩
  | cons r records ih => exact (yields_keepRecord mode r).append ih

/-- **The pieces of records between brackets** are the array of the records, if these are numbered
from zero. -/
theorem Yields.enclosed {body : List Action} {mode : SerializeMode} {records : List Record}
    (h : Yields body (records.flatMap (piece mode)) records)
    (hnumbered : records.map (·.ordinal) = List.range' 0 records.length) :
    Yields (.write "[" :: (body ++ [.finish])) (arrayText mode records) records := by
  have hopening : Yields [.write "["] "[" [] := ⟨by simp [Action.chunks], rfl⟩
  have hclosing : Yields [.finish] "]" [] := ⟨by simp [Action.chunks], rfl⟩
  have hall := (hopening.append h).append hclosing
  rw [flatMap_piece hnumbered, List.nil_append, List.append_nil] at hall
  exact hall

/-- A file yields the pieces of its records; notes yield nothing. -/
theorem yields_keepFile (s : Settings) (source : Path) (ordinal : Nat)
    (blocks : List Annotation.Block) :
    Yields (keepFile s source ordinal blocks)
      ((recordsOf s.template source ordinal blocks).flatMap (piece s.mode))
      (recordsOf s.template source ordinal blocks) := by
  have hnote : Yields (if blocks.isEmpty then
      [.note (note .debug ("No well-formed annotations in " ++ source.text))] else []) [] [] := by
    split <;> exact ⟨rfl, rfl⟩
  exact hnote.append (yields_keepRecords s.mode _)

/-- The end is not announced with a file. -/
theorem finish_not_mem_keepFile (s : Settings) (source : Path) (ordinal : Nat)
    (blocks : List Annotation.Block) : Action.finish ∉ keepFile s source ordinal blocks := by
  intro h
  rw [keepFile, List.mem_append, List.mem_flatMap] at h
  rcases h with hnote | ⟨r, _, hr⟩
  · split at hnote <;> simp at hnote
  · unfold keepRecord at hr
    split at hr <;> simp at hr

/-- The records of files, numbered from `ordinal` on across all of them. -/
structure NumberedFrom (ordinal : Nat) (records : List Record) : Prop where
  ordinals : records.map (·.ordinal) = List.range' ordinal records.length
  keys : ∀ r ∈ records, r.metadata.keys.Nodup

/-- Records that go on with the next number are numbered through. -/
theorem NumberedFrom.append {ordinal : Nat} {records others : List Record}
    (h : NumberedFrom ordinal records) (h' : NumberedFrom (ordinal + records.length) others) :
    NumberedFrom ordinal (records ++ others) where
  ordinals := by
    rw [List.map_append, h.ordinals, h'.ordinals, List.length_append, List.range'_append_1]
  keys r hr := (List.mem_append.mp hr).elim (h.keys r) (h'.keys r)

/-- The records of a file are numbered from the ordinal that the file is given. -/
theorem numberedFrom_recordsOf (d : Annotation.Dialect) (template : Template) (source : Path)
    (ordinal : Nat) (text : Text) :
    NumberedFrom ordinal (recordsOf template source ordinal (d.parse text)) where
  ordinals := by rw [map_ordinal_recordsOf, length_recordsOf]
  keys r hr := by
    obtain ⟨b, hb, hmetadata⟩ := metadata_of_mem_recordsOf hr
    rw [hmetadata]
    exact Annotation.Dialect.nodup_keys_of_mem_parse hb

/-- **What is done with the files** hands over the pieces of their records and the closing
bracket, and announces the end once. -/
theorem assemble_spec (s : Settings) (d : Annotation.Dialect) (index ordinal : Nat)
    (registry : Scan.Registry) :
    ∃ records body, assemble s (.ofDialect d) index ordinal registry = body ++ [.finish] ∧
      Action.finish ∉ body ∧ Yields body (records.flatMap (piece s.mode)) records ∧
      NumberedFrom ordinal records := by
  induction registry generalizing index ordinal with
  | nil =>
      refine ⟨[], [.note _, .endChannel], rfl, by simp, ⟨rfl, rfl⟩, ⟨rfl, ?_⟩⟩
      exact List.forall_mem_nil _
  | cons entry rest ih =>
      obtain ⟨source, text⟩ := entry
      obtain ⟨others, body, hrest, hlast, hyields, hnumbered⟩ :=
        ih (index + 1) (ordinal + (d.parse text).length)
      have hfile := yields_keepFile s source ordinal (d.parse text)
      refine ⟨recordsOf s.template source ordinal (d.parse text) ++ others,
        keepFile s source ordinal (d.parse text) ++ body, ?_, ?_, ?_, ?_⟩
      · rw [assemble, Parser.ofDialect]
        simp only
        rw [hrest, List.append_assoc]
      · rw [List.mem_append, not_or]
        exact ⟨finish_not_mem_keepFile _ _ _ _, hlast⟩
      · rw [List.flatMap_append]
        exact hfile.append hyields
      · refine (numberedFrom_recordsOf d s.template source ordinal text).append ?_
        rw [length_recordsOf]
        exact hnumbered

/-- **What a plan comes to.**  Its chunks are the array of the records that it keeps; these are
numbered from zero; and the end is announced once, by the last action. -/
theorem plan_spec (s : Settings) (d : Annotation.Dialect) (registry : Scan.Registry) :
    ∃ records body, plan s (.ofDialect d) registry = body ++ [.finish] ∧
      Action.finish ∉ body ∧
      Yields (plan s (.ofDialect d) registry) (arrayText s.mode records) records ∧
      NumberedFrom 0 records := by
  obtain ⟨records, body, hplan, hlast, hyields, hnumbered⟩ := assemble_spec s d 0 0 registry
  refine ⟨records, .write "[" :: body, by rw [plan, hplan, List.cons_append], by simpa using hlast,
    ?_, hnumbered⟩
  rw [plan, hplan]
  exact hyields.enclosed hnumbered.ordinals

end MarkupCatalog.Collection
