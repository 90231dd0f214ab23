import MarkupCatalog.Log.Session
import MarkupCatalog.Proofs.FileSystem.Preservation
import MarkupCatalog.Proofs.Log.Trace

/-!
# Setting up the logger

A logger that was set up has one handler for the console and, if the log is kept in a file, one for
this file; both report from the level that was asked for (`Session.IsSetUp`).  Setting it up anew
leaves no old handler behind, whether or not the new file can be opened (`Session.isSetUp_setUp`),
and no file is changed by it (`Session.keepsFiles_setUp`).

There is one thing that stands in the way.  A full device refuses what is written to it, and what
it has refused waits behind the handle (`Handle.Withholds`).  The handle is closed when the logger
is set up anew, and closing it fails.  The logger is then left without any handler
(`Session.IsRegular.setUp_of_withholds`).
-/

namespace MarkupCatalog

namespace Log

namespace Handler

/-- Bytes that were refused wait behind the handle of the handler. -/
def Withholds : Handler → Prop
  | .console _ => False
  | .file _ _ writer => writer.Withholds

/-- A handler that holds bytes back for a full device cannot be closed. -/
theorem close_of_withholds {h : Handler} (hwithholds : h.Withholds) (fs : FileSystem) :
    h.close fs = (fs, some (.refused ⟨.noSpace, none⟩)) := by
  cases h with
  | console level => exact hwithholds.elim
  | file level path writer =>
      simp only [close, writer.close_fs, FileSystem.Handle.fault_close_of_withholds hwithholds]
      rfl

/-- Any other handler is closed. -/
theorem close_of_not_withholds {h : Handler} (hfree : ¬ h.Withholds) (fs : FileSystem) :
    h.close fs = (fs, none) := by
  cases h with
  | console level => rfl
  | file level path writer =>
      simp only [close, writer.close_fs, FileSystem.Handle.fault_close_of_not_withholds hfree]
      rfl

/-- Handlers that hold nothing back are closed without ado. -/
theorem closeAll_of_not_withholds {handlers : List Handler}
    (h : ∀ x ∈ handlers, ¬ x.Withholds) (fs : FileSystem) :
    closeAll fs handlers = ([], fs, none) := by
  induction handlers with
  | nil => rfl
  | cons x handlers ih =>
      obtain ⟨hx, hrest⟩ := List.forall_mem_cons.mp h
      rw [closeAll, close_of_not_withholds hx]
      exact ih hrest

/-- The first handler that holds something back ends the closing. -/
theorem closeAll_of_withholds {x : Handler} (handlers left : List Handler)
    (h : ∀ y ∈ handlers, ¬ y.Withholds) (hx : x.Withholds) (fs : FileSystem) :
    closeAll fs (handlers ++ x :: left) = (left, fs, some (.refused ⟨.noSpace, none⟩)) := by
  induction handlers with
  | nil =>
      rw [List.nil_append, closeAll, close_of_withholds hx]
  | cons y handlers ih =>
      obtain ⟨hy, hrest⟩ := List.forall_mem_cons.mp h
      rw [List.cons_append, closeAll, close_of_not_withholds hy]
      exact ih hrest

/-- Closing handlers changes no file. -/
theorem closeAll_fs (fs : FileSystem) (handlers : List Handler) :
    (closeAll fs handlers).2.1 = fs := by
  induction handlers with
  | nil => rfl
  | cons x handlers ih =>
      by_cases hx : x.Withholds
      · rw [closeAll, close_of_withholds hx]
      · rw [closeAll, close_of_not_withholds hx]
        exact ih

end Handler

namespace Logger

/-- A handler of the logger holds back bytes that its file has refused. -/
def Withholds (l : Logger) : Prop := ∃ h ∈ l.handlers, h.Withholds

/-- Nothing waits behind any handle of the logger. -/
def IsDrained (l : Logger) : Prop :=
  ∀ level path pending buffered, .file level path (.full pending buffered) ∈ l.handlers →
    pending = 0 ∧ buffered = 0

/-- A logger whose files have taken everything holds nothing back. -/
theorem IsDrained.not_withholds {l : Logger} (h : l.IsDrained) : ¬ l.Withholds := by
  rintro ⟨x, hx, hwithholds⟩
  cases x with
  | console level => exact hwithholds
  | file level path writer =>
      cases writer with
      | full pending buffered =>
          obtain ⟨rfl, rfl⟩ := h level path pending buffered hx
          exact hwithholds rfl
      | file | null => exact hwithholds

/-- **Setting a logger up** leaves all files alone. -/
theorem keepsFiles_configureAnew (l : Logger) (fs : FileSystem) (v : Verbosity)
    (file : Option Path) : fs.KeepsFiles (l.configureAnew fs v file).2.1 := by
  cases file with
  | none => exact .refl fs
  | some path =>
      have hmade := FileSystem.keepsFiles_ensureDirectories fs path.parent
      simp only [configureAnew]
      rcases hmake : fs.ensureDirectories path.parent with ⟨fs', _ | failure⟩ <;>
        simp only [hmake] at hmade ⊢
      · rcases hopen : fs'.openToWrite true (fs'.absolutePath path).text with
          failure | ⟨fs'', writer⟩
        · exact hmade
        · exact hmade.trans (FileSystem.keepsFiles_openToWrite hopen)
      · exact hmade

end Logger

namespace Session

/-! ## What a set-up leaves -/

/-- The handlers beside the one for the console: one for the log file, if there is one, with a
handle that is open on what its path leads to. -/
inductive LogsTo (v : Verbosity) (s : Session) : Option Path → List Handler → Prop
  | nowhere : LogsTo v s none []
  | file {path : Path} {place : List Text} {x : Entry} {writer : FileSystem.Handle} :
      s.fs.lookUp .target (s.fs.absolutePath path).text = .ok ⟨place, some x⟩ →
      writer.OpenOn place x →
      LogsTo v s (some path) [.file v.level (s.fs.absolutePath path) writer]

/-- The logger is set up: it has exactly one handler for the console, exactly one for the log file
if there is one, and all are at the level that was asked for. -/
structure IsSetUp (v : Verbosity) (log : Option Path) (s : Session) : Prop where
  level : s.logger.level = v.level
  propagates : s.logger.propagates = false
  handlers : ∃ files, s.logger.handlers = .console v.level :: files ∧ s.LogsTo v log files

/-- The logger is set up, or it has no handler at all. -/
def IsRegular (s : Session) : Prop := s.logger.handlers = [] ∨ ∃ v log, s.IsSetUp v log

/-- The log file after a set-up: the one that was asked for, unless the set-up has failed. -/
def logFile (file : Option Path) (raised : Option Failure) : Option Path :=
  if raised.isNone then file else none

variable {v : Verbosity} {file : Option Path} {s t : Session} {raised : Option Failure}

/-- If nothing is held back, all old handlers go. -/
theorem setUp_of_not_withholds (h : ¬ s.logger.Withholds) (v : Verbosity) (file : Option Path) :
    s.setUp v file =
      match s.logger.configureAnew s.fs v file with
      | (logger, fs, failure) => ({ s with logger, fs }, failure) := by
  have hclosed : Handler.closeAll s.fs s.logger.handlers = ([], s.fs, none) :=
    Handler.closeAll_of_not_withholds (fun x hx hwithholds => h ⟨x, hx, hwithholds⟩) s.fs
  simp only [setUp, Logger.configure, hclosed]

/-- **Setting the logger up anew** puts new handlers in the place of the old ones, unless one of
these holds something back.  The handler for the console is there even if the directories above
the log file cannot be made, or if it cannot be opened. -/
theorem isSetUp_setUp (hfree : ¬ s.logger.Withholds) (h : s.setUp v file = (t, raised)) :
    t.IsSetUp v (logFile file raised) ∧ t.logger.IsDrained := by
  -- where nothing was opened, the console is all there is
  have hbare (fs : FileSystem) (hlog : logFile file raised = none) :
      IsSetUp v (logFile file raised) { s with logger := s.logger.toConsole v, fs } ∧
        (s.logger.toConsole v).IsDrained := by
    refine ⟨hlog ▸ ⟨rfl, rfl, [], rfl, .nowhere⟩, fun _ _ _ _ hmem => ?_⟩
    cases List.mem_singleton.mp hmem
  rw [setUp_of_not_withholds hfree] at h
  cases file with
  | none =>
      cases h
      exact hbare s.fs rfl
  | some path =>
      simp only [Logger.configureAnew] at h
      rcases hmake : s.fs.ensureDirectories path.parent with ⟨fs, _ | failure⟩ <;>
        simp only [hmake] at h
      · rcases hopen : fs.openToWrite true (fs.absolutePath path).text with
          failure | ⟨fs', writer⟩ <;> simp only [hopen] at h
        · cases h
          exact hbare fs rfl
        · cases h
          have habsolute : fs'.absolutePath path = fs.absolutePath path :=
            FileSystem.absolutePath_congr (FileSystem.keepsFiles_openToWrite hopen).current path
          obtain ⟨place, x, hleads, hon, _⟩ := FileSystem.openToWrite_opens hopen
          refine ⟨⟨rfl, rfl, _, rfl, ?_⟩, fun level path pending buffered hmem => ?_⟩
          · rw [← habsolute] at hleads ⊢
            exact .file hleads hon
          · rcases List.mem_cons.mp hmem with hconsole | hfile
            · cases hconsole
            · cases List.mem_singleton.mp hfile
              exact FileSystem.Handle.eq_full_of_openToWrite hopen
      · cases h
        exact hbare fs rfl

/-- **A logger that holds something back cannot be set up anew.**  Its handlers are removed, the
log file cannot be closed, and no new handler comes in their place. -/
theorem IsRegular.setUp_of_withholds (hs : s.IsRegular) (h : s.logger.Withholds) (v : Verbosity)
    (file : Option Path) :
    s.setUp v file =
      ({ s with logger := { s.logger.toConsole v with handlers := [] } },
        some (.refused ⟨.noSpace, none⟩)) := by
  obtain ⟨x, hx, hwithholds⟩ := h
  rcases hs with hnone | ⟨w, log, hs⟩
  · rw [hnone] at hx
    cases hx
  · obtain ⟨files, hhandlers, hfiles⟩ := hs.handlers
    rw [hhandlers] at hx
    cases hfiles with
    | nowhere =>
        cases List.mem_singleton.mp hx
        exact hwithholds.elim
    | @file path place y writer _ _ =>
        have hfile : x = .file w.level (s.fs.absolutePath path) writer := by
          rcases List.mem_cons.mp hx with rfl | hx
          · exact hwithholds.elim
          · exact List.mem_singleton.mp hx
        have hclosed : Handler.closeAll s.fs s.logger.handlers =
            ([], s.fs, some (.refused ⟨.noSpace, none⟩)) := by
          rw [hhandlers, ← hfile]
          exact Handler.closeAll_of_withholds [.console w.level] [] (by simp [Handler.Withholds])
            hwithholds s.fs
        simp only [setUp, Logger.configure, hclosed]

/-- **No set-up changes a file,** whatever comes of it. -/
theorem keepsFiles_setUp (s : Session) (v : Verbosity) (file : Option Path) :
    s.fs.KeepsFiles (s.setUp v file).1.fs := by
  have hclosed := Handler.closeAll_fs s.fs s.logger.handlers
  simp only [setUp, Logger.configure]
  rcases hclose : Handler.closeAll s.fs s.logger.handlers with ⟨left, fs, _ | failure⟩ <;>
    simp only [hclose] at hclosed ⊢ <;> subst hclosed
  · exact s.logger.keepsFiles_configureAnew s.fs v file
  · exact .refl s.fs

end Session

end Log

end MarkupCatalog
