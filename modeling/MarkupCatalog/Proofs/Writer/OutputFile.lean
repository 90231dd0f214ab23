import MarkupCatalog.Log.Logger
import MarkupCatalog.Proofs.Charset.Utf8
import MarkupCatalog.Proofs.FileSystem.Handle
import MarkupCatalog.Writer.OutputFile

/-!
# What an output file holds

An output file of a collection is written in UTF-8, so that its charset is always found, and
can be read as what was written.  What is left of opening it are the directories above it and
the file itself.

Once it is open, the file holds the bytes of all chunks that were written to it
(`OutputFile.Holds`).  The log is written at the same time and may be kept in a file of the
same file system.  As long as that is another file, it does no harm.
-/

namespace MarkupCatalog

theorem FileSystem.charsetNamed_utf8 : charsetNamed "utf-8" = .ok .utf8 := by
  have hname : "utf-8".toList ≠ surroundingsName := by decide
  rw [charsetNamed, if_neg hname, Charset.conversion?_utf8]

/-- What has to be right for a file to be read. -/
theorem FileSystem.readText_eq_ok {fs : FileSystem} {codecs : Charset.Codecs}
    {name path text : Text} {bytes : Bytes} {charset : Charset}
    (hname : name.contains '\x00' = false)
    (hbytes : fs.readBytes path = .ok bytes) (hcharset : charsetNamed name = .ok charset)
    (hdecode : Charset.decode codecs bytes charset = .ok text) :
    fs.readText codecs name path = .ok (Text.withLineFeeds text) := by
  rw [readText, hname, readWith, hbytes]
  simp only [bind, Except.bind, hcharset, hdecode]
  rfl

/-- A file that holds the bytes of a text in UTF-8 is read as this text. -/
theorem FileSystem.readText_utf8 {fs : FileSystem} {codecs : Charset.Codecs} {path text : Text}
    (h : fs.readBytes path = .ok (Charset.Utf8.encode text)) :
    fs.readText codecs "utf-8" path = .ok (Text.withLineFeeds text) := by
  have hdecode : Charset.decode codecs (Charset.Utf8.encode text) .utf8 = .ok text := by
    rw [Charset.decode, Charset.Utf8.decode_encode]
    rfl
  exact readText_eq_ok (by decide) h charsetNamed_utf8 hdecode

namespace OutputFile

/-- **An output file is opened** when the directories above it are there or can be made, and
the file itself can be opened. -/
theorem openFile_eq_ok_iff {path : Path} {f g : OutputFile} :
    openFile path "utf-8" f = (g, none) ↔
      ∃ fs fs' handle, f.fs.ensureDirectories path.parent = (fs, none) ∧
        fs.openToWrite false path.text = .ok (fs', handle) ∧
        g = { f with fs := fs', handle := some handle, charset := .utf8 } := by
  have hnull : "utf-8".toList.contains '\x00' = false := by decide
  rw [openFile]
  rcases hmade : f.fs.ensureDirectories path.parent with ⟨fs, _ | failure⟩
  · simp only [hnull, FileSystem.charsetNamed_utf8]
    rcases hopened : fs.openToWrite false path.text with failure | ⟨fs', handle⟩
    · simp [hopened]
    · constructor
      · intro h
        cases h
        exact ⟨fs, fs', handle, rfl, hopened, rfl⟩
      · rintro ⟨_, _, _, ⟨⟩, hopened', rfl⟩
        cases hopened.symm.trans hopened'
        rfl
  · simp

/-- The file at the path is open, and the bytes of the text are in it unless it is foreign. -/
structure Holds (path : Path) (isForeign : List Text → Prop) (f : OutputFile) (text : Text) :
    Prop where
  inUtf8 : f.charset = .utf8
  isOpen : ∃ place x handle, f.fs.lookUp .target path.text = .ok ⟨place, some x⟩ ∧
    f.handle = some handle ∧ handle.OpenOn place x ∧
    (¬ isForeign place → ∀ bytes, x = .file bytes → bytes = Charset.Utf8.encode text)

variable {path : Path} {isForeign : List Text → Prop} {f g : OutputFile} {text : Text}

/-- A file that was just opened holds nothing. -/
theorem holds_openFile (h : openFile path "utf-8" f = (g, none)) : g.Holds path isForeign [] := by
  obtain ⟨fs, fs', handle, _, hopened, rfl⟩ := openFile_eq_ok_iff.mp h
  obtain ⟨place, x, hleads, hopen, hempty⟩ := FileSystem.openToWrite_leads hopened
  exact ⟨rfl, place, x, handle, hleads, rfl, hopen, fun _ => hempty⟩

/-- A chunk is added to what the file holds. -/
theorem Holds.write (h : f.Holds path isForeign text) {chunk : Text} {failure : Option Failure}
    (hwrite : f.write chunk = (g, failure)) : g.Holds path isForeign (text ++ chunk) := by
  obtain ⟨hutf8, place, x, handle, hleads, hhandle, hopen, hbytes⟩ := h
  obtain ⟨y, hleads', hopen', hadded⟩ :=
    FileSystem.Handle.write_leads hleads hopen (Charset.Utf8.encode chunk)
  rw [OutputFile.write, hhandle, hutf8] at hwrite
  cases hwrite
  refine ⟨rfl, place, y, _, hleads', rfl, hopen', ?_⟩
  intro hown bytes hy
  obtain ⟨before, hx, rfl⟩ := hadded bytes hy
  rw [hbytes hown before hx, Charset.Utf8.encode, Charset.Utf8.encode, Charset.Utf8.encode,
    List.flatMap_append]

theorem Holds.flush (h : f.Holds path isForeign text) {failure : Option Failure}
    (hflush : f.flush = (g, failure)) : g.Holds path isForeign text := by
  obtain ⟨hutf8, place, x, handle, hleads, hhandle, hopen, hbytes⟩ := h
  obtain ⟨hfs, hopen'⟩ := FileSystem.Handle.flush_leads f.fs hopen
  rw [OutputFile.flush, hhandle] at hflush
  obtain rfl : (f.after (handle.flush f.fs)).1 = g := congrArg Prod.fst hflush
  exact ⟨hutf8, place, x, _, (congrArg (·.lookUp .target path.text) hfs).trans hleads, rfl, hopen',
    hbytes⟩

theorem Holds.close (h : f.Holds path isForeign text) {failure : Option Failure}
    (hclose : f.close = (g, failure)) : g.Holds path isForeign text := by
  obtain ⟨hutf8, place, x, handle, hleads, hhandle, hopen, hbytes⟩ := h
  obtain ⟨hfs, hopen'⟩ := FileSystem.Handle.close_leads f.fs hopen
  rw [OutputFile.close, hhandle] at hclose
  obtain rfl : (f.after (handle.close f.fs)).1 = g := congrArg Prod.fst hclose
  exact ⟨hutf8, place, x, _, (congrArg (·.lookUp .target path.text) hfs).trans hleads, rfl, hopen',
    hbytes⟩

end OutputFile

/-! ## The log -/

/-- The logger writes to the file at a place. -/
def Log.Logger.WritesTo (l : Logger) (place : List Text) : Prop :=
  ∃ level path, Handler.file level path (.file place) ∈ l.handlers

namespace OutputFile

variable {path : Path} {isForeign : List Text → Prop} {f : OutputFile} {text : Text}

/-- A handler of the log leaves what an output file holds as it is, unless it writes to the
same file. -/
theorem Holds.handle (h : f.Holds path isForeign text) (clock : Text) (r : Log.Record)
    {handler : Log.Handler}
    (hforeign : ∀ level file place, handler = .file level file (.file place) → isForeign place) :
    { f with fs := (Log.Logger.handle clock f.fs r handler).1 }.Holds path isForeign text := by
  unfold Log.Logger.handle
  split
  · exact h
  · cases handler with
    | console level => exact h
    | file level file writer =>
        obtain ⟨hutf8, place, x, handle, hleads, hhandle, hopen, hbytes⟩ := h
        obtain ⟨y, hleads', hopen', hother⟩ := FileSystem.Handle.write_other hleads hopen writer
          (Charset.Utf8.encode (Log.fileLine clock r))
        have hfs := writer.writeThrough_fs f.fs (Charset.Utf8.encode (Log.fileLine clock r))
        refine ⟨hutf8, place, y, handle, (congrArg (·.lookUp .target path.text) hfs).trans hleads',
          hhandle, hopen', ?_⟩
        intro hown bytes hy
        have hne : writer ≠ .file place := by
          rintro rfl
          exact hown (hforeign level file place rfl)
        exact hbytes hown bytes ((hother hne).symm.trans hy)

theorem Holds.handleAll (h : f.Holds path isForeign text) (clock : Text) (r : Log.Record)
    {handlers : List Log.Handler}
    (hforeign : ∀ level file place, .file level file (.file place) ∈ handlers → isForeign place) :
    { f with fs := (Log.Logger.handleAll clock f.fs r handlers).1 }.Holds path isForeign text := by
  induction handlers generalizing f with
  | nil => exact h
  | cons handler handlers ih =>
      have hfirst := h.handle clock r fun level file place heq =>
        hforeign level file place (heq ▸ List.mem_cons_self)
      exact ih hfirst fun level file place hmem =>
        hforeign level file place (List.mem_cons_of_mem handler hmem)

/-- **A message leaves what an output file holds as it is,** unless the log is kept in the
same file. -/
theorem Holds.note {journal : Log.Journal} (h : f.Holds path journal.logger.WritesTo text)
    (r : Log.Record) :
    { f with fs := (journal.note f.fs r).2 }.Holds path journal.logger.WritesTo text := by
  have hfs : (journal.note f.fs r).2 = (journal.logger.emit f.fs r).1 := rfl
  rw [hfs, Log.Logger.emit]
  split
  · exact h
  · split
    · exact h
    · exact h.handleAll _ r fun level file place hmem => ⟨level, file, hmem⟩

end OutputFile

end MarkupCatalog
