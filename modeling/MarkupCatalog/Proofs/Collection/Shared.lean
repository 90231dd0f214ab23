import MarkupCatalog.Collection.Run
import MarkupCatalog.Proofs.Writer.Call

/-!
# What a collection and its writer share

The main line of a collection and its writer share the file, the log and the channel.  Here
is said what each use of these leaves alone (the lemmas named `…_frame`), and what no step of
the writer ever touches (`untouched_reaction`).

The operations on the file are a parameter, so that they may fail in any way.
-/

namespace MarkupCatalog

namespace OutputFile

/-- What can be done with an output file, each with the failure that it ends in. -/
structure Operations where
  openFile : OutputFile → OutputFile × Option Failure
  write : Text → OutputFile → OutputFile × Option Failure
  flush : OutputFile → OutputFile × Option Failure
  close : OutputFile → OutputFile × Option Failure

/-- The operations on a file in UTF-8. -/
def operations (path : Path) : Operations where
  openFile := openFile path "utf-8"
  write := write
  flush := flush
  close := close

end OutputFile

namespace Collection

/-- What is around the writer of a collection whose file behaves in a given way. -/
def Shared.around (io : OutputFile.Operations) (callback : Option Callback) :
    Writer.Surroundings Shared where
  openFile := onFile io.openFile
  write chunk := onFile (io.write chunk)
  flush := onFile io.flush
  close := onFile io.close
  onFinish s := (s.completeSafely callback, none)
  onClose s := ({ s with channel := s.channel.complete.1 }, none)
  onError f s := (s.failChannel f, none)
  note := note

theorem Shared.around_operations (path : Path) (callback : Option Callback) :
    around (OutputFile.operations path) callback = surroundings path callback := rfl

namespace Shared

/-! ## Frames -/

/-- An operation on the file leaves everything else as it is. -/
theorem onFile_frame {operation : OutputFile → OutputFile × Option Failure} {s t : Shared}
    {failure : Option Failure} (h : s.onFile operation = (t, failure)) :
    t.channel = s.channel ∧ t.collected = s.collected ∧ t.completions = s.completions ∧
      t.journal = s.journal := by
  cases h
  exact ⟨rfl, rfl, rfl, rfl⟩

/-- Messages leave everything but the log and the file system as it is. -/
theorem noteAll_frame (rs : List Log.Record) (s : Shared) :
    (s.noteAll rs).channel = s.channel ∧ (s.noteAll rs).collected = s.collected ∧
      (s.noteAll rs).completions = s.completions ∧
      (s.noteAll rs).journal.logger = s.journal.logger := by
  induction rs generalizing s with
  | nil => exact ⟨rfl, rfl, rfl, rfl⟩
  | cons r rs ih => exact ih (s.note r)

/-- A failure of the channel is kept in the channel and noted. -/
theorem failChannel_frame (f : Failure) (s : Shared) :
    (s.failChannel f).channel = (s.channel.fail f).1 ∧
      (s.failChannel f).collected = s.collected ∧
      (s.failChannel f).completions = s.completions ∧
      (s.failChannel f).journal.logger = s.journal.logger :=
  noteAll_frame _ _

/-- The channel after the callback: its failure, if it raises one, goes to the channel. -/
def channelAfter (callback : Option Callback) (channel : RecordChannel) : RecordChannel :=
  match callback.bind Callback.raises with
  | none => channel
  | some f => (channel.fail f).1

/-- The callback, if there is one, is given the records that were kept. -/
theorem completeSafely_frame (callback : Option Callback) (s : Shared) :
    (s.completeSafely callback).channel = channelAfter callback s.channel ∧
      (s.completeSafely callback).collected = s.collected ∧
      (s.completeSafely callback).completions =
        s.completions ++ (if callback.isSome then [s.collected] else []) ∧
      (s.completeSafely callback).journal.logger = s.journal.logger := by
  cases callback with
  | none => exact ⟨rfl, rfl, (List.append_nil _).symm, rfl⟩
  | some c =>
      rcases hraises : c.raises with _ | f
      · simp only [completeSafely, complete, channelAfter, hraises, Option.bind_some]
        exact ⟨trivial, trivial, rfl, trivial⟩
      · simp only [completeSafely, complete, channelAfter, hraises, Option.bind_some]
        exact failChannel_frame f _

/-! ## What the writer never touches -/

/-- The records, the logger and whether the channel awaits the writer are the same. -/
structure Untouched (s t : Shared) : Prop where
  collected : t.collected = s.collected
  records : t.channel.records = s.channel.records
  awaitsWriter : t.channel.awaitsWriter = s.channel.awaitsWriter
  logger : t.journal.logger = s.journal.logger

/-- If the channel, the logger and what has been collected are the same, nothing was touched. -/
theorem untouched_of_channel_eq {s t : Shared} (hchannel : t.channel = s.channel)
    (hcollected : t.collected = s.collected) (hlogger : t.journal.logger = s.journal.logger) :
    s.Untouched t :=
  ⟨hcollected, by rw [hchannel], by rw [hchannel], hlogger⟩

/-- Operations on the file do not touch the channel. -/
theorem untouched_of_onFile {operation : OutputFile → OutputFile × Option Failure} {s t : Shared}
    {failure : Option Failure} (h : s.onFile operation = (t, failure)) : s.Untouched t := by
  obtain ⟨hchannel, hcollected, _, hjournal⟩ := onFile_frame h
  exact untouched_of_channel_eq hchannel hcollected (by rw [hjournal])

/-- A failure changes neither the records of a channel nor whether it awaits the writer. -/
theorem fail_frame (channel : RecordChannel) (f : Failure) :
    (channel.fail f).1.records = channel.records ∧
      (channel.fail f).1.awaitsWriter = channel.awaitsWriter ∧
      (channel.fail f).1.completed = channel.completed := by
  rw [Channel.fail]
  split <;> exact ⟨rfl, rfl, rfl⟩

/-- The callback changes neither the records of a channel nor whether it awaits the writer. -/
theorem channelAfter_frame (callback : Option Callback) (channel : RecordChannel) :
    (channelAfter callback channel).records = channel.records ∧
      (channelAfter callback channel).awaitsWriter = channel.awaitsWriter ∧
      (channelAfter callback channel).completed = channel.completed := by
  rw [channelAfter]
  split
  · exact ⟨rfl, rfl, rfl⟩
  · exact fail_frame channel _

/-- To fail the channel touches nothing of this. -/
theorem untouched_failChannel (f : Failure) (s : Shared) : s.Untouched (s.failChannel f) := by
  obtain ⟨hchannel, hcollected, _, hlogger⟩ := failChannel_frame f s
  obtain ⟨hrecords, hawaits, _⟩ := fail_frame s.channel f
  exact ⟨hcollected, by rw [hchannel, hrecords], by rw [hchannel, hawaits], hlogger⟩

/-- Neither does completing it, whatever the callback raises. -/
theorem untouched_completeSafely (callback : Option Callback) (s : Shared) :
    s.Untouched (s.completeSafely callback) := by
  obtain ⟨hchannel, hcollected, _, hlogger⟩ := completeSafely_frame callback s
  obtain ⟨hrecords, hawaits, _⟩ := channelAfter_frame callback s.channel
  exact ⟨hcollected, by rw [hchannel, hrecords], by rw [hchannel, hawaits], hlogger⟩

/-- **No step of the writer** touches the records or the logger. -/
theorem untouched_reaction {io : OutputFile.Operations} {callback : Option Callback}
    {w v : Writer} {s t : Shared} {more : List Writer.Call}
    (h : Writer.Reaction (around io callback) w s more v t) : s.Untouched t := by
  cases h with
  | opened _ hcall | notOpened _ hcall | wrote _ _ hcall | notWritten _ _ hcall
  | flushed _ hcall | notFlushed _ hcall | notClosed _ hcall | notAbandoned _ hcall
  | recovered _ hcall | notRecovered _ hcall => exact untouched_of_onFile hcall
  | ended _ _ | givenUp _ _ => exact ⟨rfl, rfl, rfl, rfl⟩
  | closed _ hcall | abandoned _ hcall =>
      obtain ⟨hcollected, hrecords, hawaits, hlogger⟩ := untouched_of_onFile hcall
      exact ⟨hcollected, hrecords, hawaits, hlogger⟩
  | finished _ hcall =>
      cases hcall
      exact untouched_completeSafely callback s
  | announced _ hcall =>
      cases hcall
      have hcomplete : s.channel.complete.1.records = s.channel.records ∧
          s.channel.complete.1.awaitsWriter = s.channel.awaitsWriter := by
        rw [Channel.complete]
        split <;> exact ⟨rfl, rfl⟩
      exact ⟨rfl, hcomplete.1, hcomplete.2, rfl⟩
  | @reported t f _ hcall =>
      cases hcall
      obtain ⟨hcollected, hrecords, hawaits, hlogger⟩ :=
        untouched_failChannel f (s.note (w.failNote f))
      exact ⟨hcollected, hrecords, hawaits, hlogger⟩
  | finishRaised _ hcall | closeRaised _ hcall | errorRaised _ hcall => cases hcall

end Shared

end Collection

end MarkupCatalog
