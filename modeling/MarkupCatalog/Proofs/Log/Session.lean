import Mathlib.Data.List.Permutation
import MarkupCatalog.Proofs.Log.SetUp

/-!
# Logging sessions

In a session the logger is set up any number of times, and messages are reported in between.

* `Session.regular_run` — whatever has happened, the logger is set up or has no handler at all;
* `Session.hears_run` — messages that come after a set-up are written once to the console and once
  to its log file, in their order, and to nothing else;
* `Session.withholds_run_iff` — when a log file holds something back after them;
* `Session.at?_run` — a file that the logger does not write to any more holds what it held;
* `Session.serves_setUp` — what every set-up and the messages after it come to.

A log that is kept on a full device is the exception: no message gets into it, and one short line
that it has refused makes the next set-up fail and leave no handler, as in
`Session.not_isSetUp_fullDevice`.

The sessions with fixed events are evaluated with an equation of pairs that
`Mathlib.Data.List.Permutation` provides.
-/

namespace MarkupCatalog

namespace Log

/-! ## One message -/

theorem Verbosity.level_ne_zero (v : Verbosity) : v.level ≠ 0 := by
  rcases v with ⟨_ | _, _ | _⟩ <;> decide

theorem Logger.threshold_of_level {l : Logger} {v : Verbosity} (h : l.level = v.level) :
    l.threshold = v.level := by
  rw [threshold, h, if_neg v.level_ne_zero]

/-- The line of a message is never empty. -/
theorem encode_fileLine_ne_nil (clock : Text) (r : Record) :
    Charset.Utf8.encode (fileLine clock r) ≠ [] := by
  have hfeed : Charset.Utf8.encode "\n" ≠ [] := by decide
  rw [fileLine, Charset.Utf8.encode, List.flatMap_append]
  exact List.append_ne_nil_of_right_ne_nil _ hfeed

theorem Handler.after_eq_file_iff (clock : Text) (fs : FileSystem) (r : Record) (h : Handler)
    (level : Level) (path : Path) (place : List Text) :
    h.after clock fs r = .file level path (.file place) ↔ h = .file level path (.file place) := by
  cases h with
  | console level => rfl
  | file level path writer =>
      simp only [after]
      split
      · rfl
      · simp only [file.injEq, writer.writeThrough_eq_file_iff]

/-- A message does not move the log to another file. -/
theorem Logger.writesTo_after (l : Logger) (fs : FileSystem) (r : Record) (place : List Text) :
    (l.after fs r).WritesTo place ↔ l.WritesTo place := by
  rw [after]
  split
  · rfl
  · simp only [WritesTo, List.mem_map, Handler.after_eq_file_iff, exists_eq_right]

/-- The log is kept on a full device. -/
def Logger.OnFull (l : Logger) : Prop :=
  ∃ level path pending buffered, .file level path (.full pending buffered) ∈ l.handlers

/-- A message makes a difference to the logger only if the log is kept on a full device. -/
theorem Logger.after_of_not_onFull {l : Logger} (h : ¬ l.OnFull) (fs : FileSystem) (r : Record) :
    l.after fs r = l := by
  have hsame (x : Handler) (hx : x ∈ l.handlers) : x.after l.clock fs r = x := by
    cases x with
    | console level => rfl
    | file level path writer =>
        rw [Handler.after, FileSystem.Handle.handle_writeThrough, ite_self]
        rintro pending buffered rfl
        exact h ⟨level, path, pending, buffered, hx⟩
  have hmap : l.handlers.map (Handler.after l.clock fs r) = l.handlers :=
    (List.map_congr_left hsame).trans (List.map_id' _)
  rw [after, hmap, ite_self]

/-- A message leaves every file alone that the handlers do not write to. -/
theorem Logger.at?_handleAll {clock : Text} {fs : FileSystem} {r : Record}
    {handlers : List Handler} {place : List Text} {held : Bytes}
    (h : fs.at? place = some (.file held))
    (hnone : ∀ level path, .file level path (.file place) ∉ handlers) :
    (handleAll clock fs r handlers).1.at? place = some (.file held) := by
  induction handlers generalizing fs with
  | nil => exact h
  | cons x handlers ih =>
      have hfirst : (handle clock fs r x).1.at? place = some (.file held) := by
        unfold handle
        split
        · exact h
        · cases x with
          | console level => exact h
          | file level path writer =>
              have hne : writer ≠ .file place := by
                rintro rfl
                exact hnone level path List.mem_cons_self
              obtain ⟨y, hy, _, hheld⟩ := (writer.write_frame fs _).2 place _ h hne
              simp only [writer.writeThrough_fs]
              rw [← hheld held rfl]
              exact hy
      exact ih hfirst fun level path hmem => hnone level path (List.mem_cons_of_mem x hmem)

namespace Session

variable {v : Verbosity} {file log : Option Path} {s t u : Session} {r : Record}

/-- What a message does to a file that the logger does not write to: nothing. -/
theorem at?_tell {place : List Text} {held : Bytes} (h : s.fs.at? place = some (.file held))
    (hnone : ¬ s.logger.WritesTo place) : (s.tell r).fs.at? place = some (.file held) := by
  show (s.logger.emit s.fs r).1.at? place = _
  rw [Logger.emit]
  split
  · exact h
  · split
    · exact h
    · exact Logger.at?_handleAll h fun level path hmem => hnone ⟨level, path, hmem⟩

theorem clock_tell (s : Session) (r : Record) : (s.tell r).logger.clock = s.logger.clock := by
  show (s.logger.after s.fs r).clock = _
  rw [Logger.after]
  split <;> rfl

/-- A message below the level of the logger is passed over. -/
theorem tell_of_lt (hlevel : s.logger.level = v.level) (hr : r.level < v.level) :
    s.tell r = s := by
  simp only [tell, Logger.emit, Logger.after, Logger.threshold_of_level hlevel, if_pos hr,
    List.append_nil]

/-- A message that is reported to the console alone. -/
theorem tell_bare (hlevel : s.logger.level = v.level) (hr : ¬ r.level < v.level)
    (hhandlers : s.logger.handlers = [.console v.level]) :
    s.tell r = { s with console := s.console ++ consoleLine r } := by
  have hlogger : s.logger.after s.fs r = s.logger := by
    rw [Logger.after, Logger.threshold_of_level hlevel, if_neg hr, hhandlers]
    show { s.logger with handlers := [Handler.console v.level] } = s.logger
    rw [← hhandlers]
  have hemit : s.logger.emit s.fs r = (s.fs, consoleLine r) := by
    simp [Logger.emit, Logger.threshold_of_level hlevel, hr, hhandlers, Logger.handleAll,
      Logger.handle, Handler.level]
  simp only [tell, hlogger, hemit]

/-- A message that is reported to the console and to a log file. -/
theorem tell_filed {path : Path} {writer : FileSystem.Handle}
    (hlevel : s.logger.level = v.level) (hr : ¬ r.level < v.level)
    (hhandlers : s.logger.handlers = [.console v.level, .file v.level path writer]) :
    s.tell r =
      let written :=
        writer.writeThrough s.fs (Charset.Utf8.encode (fileLine s.logger.clock r))
      { logger := { s.logger with
          handlers := [.console v.level, .file v.level path written.handle] }
        fs := written.fs
        console := s.console ++ consoleLine r } := by
  simp [tell, Logger.emit, Logger.after, Handler.after, Logger.threshold_of_level hlevel, hr,
    hhandlers, Logger.handleAll, Logger.handle, Handler.level]

/-! ## Messages after a set-up -/

/-- The messages that are reported. -/
def heard (v : Verbosity) (told : List Record) : List Record :=
  told.filter fun r => v.level ≤ r.level

theorem heard_cons_of_lt (hr : r.level < v.level) (told : List Record) :
    heard v (r :: told) = heard v told :=
  List.filter_cons_of_neg (by simpa using hr)

theorem heard_cons_of_not_lt (hr : ¬ r.level < v.level) (told : List Record) :
    heard v (r :: told) = r :: heard v told :=
  List.filter_cons_of_pos (by simpa using hr)

/-- Messages have been written once each and in their order, to the console and to the file that
the log is kept in.  Nothing else is different. -/
structure Hears (reported : List Record) (t u : Session) : Prop where
  console : u.console = t.console ++ reported.flatMap consoleLine
  logged : ∀ place, t.logger.WritesTo place → ∃ held, t.fs.at? place = some (.file held) ∧
    u.fs.at? place =
      some (.file (held ++ Charset.Utf8.encode (reported.flatMap (fileLine t.logger.clock))))
  onlyLogs : t.logger.OnlyLogs t.fs u.fs
  writesTo : ∀ place, u.logger.WritesTo place ↔ t.logger.WritesTo place
  clock : u.logger.clock = t.logger.clock

/-- The file that the log is kept in is the one that the path of the log leads to. -/
theorem IsSetUp.writesTo_iff (hs : s.IsSetUp v log) (place : List Text) :
    s.logger.WritesTo place ↔ ∃ path ∈ log, ∃ held,
      s.fs.lookUp .target (s.fs.absolutePath path).text = .ok ⟨place, some (.file held)⟩ := by
  obtain ⟨files, hhandlers, hfiles⟩ := hs.handlers
  rw [Logger.WritesTo, hhandlers]
  cases hfiles with
  | nowhere => simp
  | @file path under x writer hleads hopen =>
      constructor
      · rintro ⟨level, path', hmem⟩
        obtain ⟨_, _, rfl⟩ : level = v.level ∧ path' = s.fs.absolutePath path ∧
            .file place = writer := by
          simpa using hmem
        cases hopen
        exact ⟨path, rfl, _, hleads⟩
      · rintro ⟨_, ⟨⟩, held, hleads'⟩
        cases hleads.symm.trans hleads'
        cases hopen
        exact ⟨v.level, s.fs.absolutePath path, by simp⟩

theorem Hears.refl (hs : s.IsSetUp v log) : s.Hears [] s where
  console := (List.append_nil _).symm
  logged place hplace := by
    obtain ⟨path, _, held, hleads⟩ := (hs.writesTo_iff place).mp hplace
    have hheld := FileSystem.at?_of_lookUp hleads
    exact ⟨held, hheld, by simpa [Charset.Utf8.encode] using hheld⟩
  onlyLogs := .refl _ _
  writesTo _ := Iff.rfl
  clock := rfl

theorem Hears.trans {first more : List Record} (h : s.Hears first t) (h' : t.Hears more u) :
    s.Hears (first ++ more) u where
  console := by rw [h'.console, h.console, List.flatMap_append, List.append_assoc]
  logged place hplace := by
    obtain ⟨held, hbefore, hbetween⟩ := h.logged place hplace
    obtain ⟨held', hbetween', hafter⟩ := h'.logged place ((h.writesTo place).mpr hplace)
    cases hbetween.symm.trans hbetween'
    refine ⟨held, hbefore, ?_⟩
    rw [hafter, h.clock, List.append_assoc, Charset.Utf8.encode, Charset.Utf8.encode,
      Charset.Utf8.encode, ← List.flatMap_append, ← List.flatMap_append]
  onlyLogs := h.onlyLogs.trans (h'.onlyLogs.congr fun place => (h.writesTo place).symm)
  writesTo place := (h'.writesTo place).trans (h.writesTo place)
  clock := h'.clock.trans h.clock

/-- **After a message the logger is as it was set up.** -/
theorem isSetUp_tell (hs : s.IsSetUp v log) (r : Record) : (s.tell r).IsSetUp v log := by
  by_cases hr : r.level < v.level
  · rw [tell_of_lt hs.level hr]
    exact hs
  · obtain ⟨files, hhandlers, hfiles⟩ := hs.handlers
    cases hfiles with
    | nowhere =>
        rw [tell_bare hs.level hr hhandlers]
        exact ⟨hs.level, hs.propagates, [], hhandlers, .nowhere⟩
    | @file path place x writer hleads hopen =>
        have honly : s.logger.OnlyLogs s.fs (s.tell r).fs := s.logger.onlyLogs_emit s.fs r
        rw [tell_filed hs.level hr hhandlers] at honly ⊢
        obtain ⟨y, hleads', hopen', _⟩ := FileSystem.Handle.writeThrough_leads hleads hopen
          (Charset.Utf8.encode (fileLine s.logger.clock r))
        refine ⟨hs.level, hs.propagates, _, rfl, ?_⟩
        rw [← FileSystem.absolutePath_congr honly.current path] at hleads' ⊢
        exact .file hleads' hopen'

/-- **A message is written once** to the console and to the log file, if the logger is set up for
its level. -/
theorem hears_tell (hs : s.IsSetUp v log) (r : Record) : s.Hears (heard v [r]) (s.tell r) := by
  by_cases hr : r.level < v.level
  · rw [tell_of_lt hs.level hr, heard_cons_of_lt hr]
    exact .refl hs
  · obtain ⟨files, hhandlers, hfiles⟩ := hs.handlers
    refine ⟨?_, fun place hplace => ?_, s.logger.onlyLogs_emit s.fs r,
      s.logger.writesTo_after s.fs r, s.clock_tell r⟩ <;> rw [heard_cons_of_not_lt hr]
    · cases hfiles with
      | nowhere =>
          rw [tell_bare hs.level hr hhandlers]
          exact congrArg (s.console ++ ·) (List.append_nil _).symm
      | file _ _ =>
          rw [tell_filed hs.level hr hhandlers]
          exact congrArg (s.console ++ ·) (List.append_nil _).symm
    · obtain ⟨path, hpath, held, hleads⟩ := (hs.writesTo_iff place).mp hplace
      have hheld := FileSystem.at?_of_lookUp hleads
      refine ⟨held, hheld, ?_⟩
      cases hfiles with
      | nowhere => cases hpath
      | @file path' place' x writer hleads' hopen =>
          cases hpath
          cases hleads.symm.trans hleads'
          cases hopen
          rw [tell_filed hs.level hr hhandlers]
          have hline : [r].flatMap (fileLine s.logger.clock) = fileLine s.logger.clock r :=
            List.append_nil _
          show _ = some (Entry.file (held ++ Charset.Utf8.encode ([r].flatMap _)))
          rw [hline]
          exact FileSystem.Handle.at?_writeThrough hheld _

/-- **Messages that come after a set-up** are written once each, and the logger stays as it was set
up.  By induction on the messages, with one step for each of them. -/
theorem hears_run (hs : t.IsSetUp v log) (told : List Record) :
    (t.run (told.map .message)).IsSetUp v log ∧
      t.Hears (heard v told) (t.run (told.map .message)) := by
  induction told generalizing t with
  | nil => exact ⟨hs, .refl hs⟩
  | cons r told ih =>
      obtain ⟨hsetUp, hmore⟩ := ih (isSetUp_tell hs r)
      have hall := (hears_tell hs r).trans hmore
      rw [heard, heard, ← List.filter_append] at hall
      exact ⟨hsetUp, hall⟩

/-! ## What is withheld -/

/-- If the log is not kept on a full device, messages make no difference to the logger. -/
theorem logger_run_of_not_onFull (h : ¬ t.logger.OnFull) (told : List Record) :
    (t.run (told.map .message)).logger = t.logger := by
  induction told generalizing t with
  | nil => rfl
  | cons r told ih =>
      have hlogger : (t.tell r).logger = t.logger := Logger.after_of_not_onFull h t.fs r
      have hrest := ih (hlogger ▸ h)
      rw [hlogger] at hrest
      exact hrest

/-- Does the line of a message fit into the buffer in front of a full device? -/
def IsShort (clock : Text) (r : Record) : Prop :=
  (Charset.Utf8.encode (fileLine clock r)).length ≤ FileSystem.Handle.blockBuffer

/-- What waits behind the handle on a full device: something, as soon as a short line has come. -/
theorem handlers_run_of_full {path : Path} {buffered : Nat} (hlevel : t.logger.level = v.level)
    (hhandlers : t.logger.handlers =
      [.console v.level, .file v.level path (.full 0 buffered)]) (told : List Record) :
    ∃ buffered', (t.run (told.map .message)).logger.handlers =
        [.console v.level, .file v.level path (.full 0 buffered')] ∧
      (buffered' ≠ 0 ↔ buffered ≠ 0 ∨ ∃ r ∈ heard v told, IsShort t.logger.clock r) := by
  induction told generalizing t buffered with
  | nil => exact ⟨buffered, hhandlers, by simp [heard]⟩
  | cons r told ih =>
      show ∃ buffered', ((t.tell r).run (told.map .message)).logger.handlers = _ ∧ _
      by_cases hr : r.level < v.level
      · rw [tell_of_lt hlevel hr, heard_cons_of_lt hr]
        exact ih hlevel hhandlers
      · obtain ⟨between, hbetween, hshort⟩ := FileSystem.Handle.writeThrough_full t.fs buffered
          (encode_fileLine_ne_nil t.logger.clock r)
        have htell := tell_filed hlevel hr hhandlers
        have hnext : (t.tell r).logger.handlers =
            [.console v.level, .file v.level path (.full 0 between)] := by
          simp only [htell, hbetween]
        have hlevel' : (t.tell r).logger.level = v.level := by
          rw [htell]
          exact hlevel
        obtain ⟨after, hafter, hiff⟩ := ih hlevel' hnext
        refine ⟨after, hafter, hiff.trans ?_⟩
        rw [heard_cons_of_not_lt hr, clock_tell, hshort, List.exists_mem_cons_iff, or_assoc]
        rfl

/-- **When something is withheld:** the log is kept on a full device, and one of the messages since
the set-up was short. -/
theorem withholds_run_iff (hs : t.IsSetUp v log) (hdrained : t.logger.IsDrained)
    (told : List Record) :
    (t.run (told.map .message)).logger.Withholds ↔
      t.logger.OnFull ∧ ∃ r ∈ heard v told, IsShort t.logger.clock r := by
  by_cases hfull : t.logger.OnFull
  · obtain ⟨level, path, pending, buffered, hmem⟩ := hfull
    obtain ⟨rfl, rfl⟩ := hdrained level path pending buffered hmem
    obtain ⟨files, hhandlers, hfiles⟩ := hs.handlers
    rw [hhandlers] at hmem
    cases hfiles with
    | nowhere => cases List.mem_singleton.mp hmem
    | @file under place x writer _ _ =>
        obtain ⟨_, _, rfl⟩ : level = v.level ∧ path = t.fs.absolutePath under ∧
            .full 0 0 = writer := by
          simpa using hmem
        obtain ⟨buffered, hafter, hiff⟩ := handlers_run_of_full hs.level hhandlers told
        have hfull : t.logger.OnFull :=
          ⟨v.level, t.fs.absolutePath under, 0, 0, by simp [hhandlers]⟩
        rw [Logger.Withholds, hafter, and_iff_right hfull]
        simpa [Handler.Withholds, FileSystem.Handle.Withholds] using hiff
  · rw [logger_run_of_not_onFull hfull]
    exact iff_of_false hdrained.not_withholds fun h => hfull h.1

/-! ## Any number of set-ups -/

/-- What happens to a logger leaves it set up, or without a handler. -/
theorem IsRegular.step (h : s.IsRegular) (e : Event) : (s.step e).IsRegular := by
  cases e with
  | setUp v file =>
      by_cases hwithholds : s.logger.Withholds
      · left
        rw [Session.step, h.setUp_of_withholds hwithholds]
      · exact Or.inr ⟨v, _, (isSetUp_setUp hwithholds rfl).1⟩
  | message r =>
      rcases h with hnone | ⟨w, log, hs⟩
      · left
        show (s.logger.after s.fs r).handlers = []
        rw [Logger.after]
        split
        · exact hnone
        · rw [hnone, List.map_nil]
      · exact Or.inr ⟨w, log, isSetUp_tell hs r⟩

/-- **In every session** the logger is set up or has no handler at all. -/
theorem regular_run (h : s.IsRegular) (events : List Event) : (s.run events).IsRegular := by
  induction events generalizing s with
  | nil => exact h
  | cons e events ih => exact ih (h.step e)

/-- **A file that the logger does not write to** keeps what it holds, whatever happens. -/
theorem at?_run {events : List Event} {place : List Text} {held : Bytes}
    (h : s.fs.at? place = some (.file held))
    (hnone : ∀ n, ¬ (s.run (events.take n)).logger.WritesTo place) :
    (s.run events).fs.at? place = some (.file held) := by
  induction events generalizing s with
  | nil => exact h
  | cons e events ih =>
      have hfirst : (s.step e).fs.at? place = some (.file held) := by
        cases e with
        | setUp v file => exact (s.keepsFiles_setUp v file).files place held h
        | message r => exact at?_tell h (hnone 0)
      exact ih hfirst fun n => hnone (n + 1)

/-- What comes of setting the logger up, and of what happens after that. -/
structure Serves (v : Verbosity) (file : Option Path) (s t : Session) (raised : Option Failure) :
    Prop where
  /-- There is exactly one handler for the console and, if a log file was asked for and nothing
  was raised, exactly one for this file, all at the new level; unless something was withheld. -/
  isSetUp_iff : t.IsSetUp v (logFile file raised) ↔ ¬ s.logger.Withholds
  /-- If something was withheld, the set-up fails and leaves no handler. -/
  bare : s.logger.Withholds → raised = some (.refused ⟨.noSpace, none⟩) ∧ t.logger.handlers = []
  /-- If no log file was asked for, nothing else can fail. -/
  unasked : ¬ s.logger.Withholds → file = none → raised = none
  /-- The set-up itself writes nothing. -/
  keepsFiles : s.fs.KeepsFiles t.fs
  console : t.console = s.console
  /-- The log is kept in the file that its path leads to. -/
  writesTo_iff : t.IsSetUp v (logFile file raised) → ∀ place,
    t.logger.WritesTo place ↔ ∃ path ∈ logFile file raised, ∃ held,
      t.fs.lookUp .target (t.fs.absolutePath path).text = .ok ⟨place, some (.file held)⟩
  /-- Messages leave the handlers as they were set up. -/
  stays : t.IsSetUp v (logFile file raised) → ∀ told : List Record,
    (t.run (told.map .message)).IsSetUp v (logFile file raised)
  /-- Every message at or above the level is written once to the console and once to the log file,
  and nothing is written anywhere else.  A full device is left out: that a line was refused is
  told on the console too, in words that `tell` does not have. -/
  hears : t.IsSetUp v (logFile file raised) → ¬ t.logger.OnFull → ∀ told : List Record,
    t.Hears (heard v told) (t.run (told.map .message))
  /-- Something is withheld after them if and only if the log is kept on a full device and one of
  their lines was short. -/
  withholds_iff : t.IsSetUp v (logFile file raised) → ∀ told : List Record,
    (t.run (told.map .message)).logger.Withholds ↔
      t.logger.OnFull ∧ ∃ r ∈ heard v told, IsShort t.logger.clock r
  /-- A file that the log is not kept in any more is never written to again. -/
  spares : ∀ (later : List Event) place held, t.fs.at? place = some (.file held) →
    (∀ n, ¬ (t.run (later.take n)).logger.WritesTo place) →
      (t.run later).fs.at? place = some (.file held)

/-- **Set-ups and messages in any order.**  After each set-up there are the handlers that it was
asked for and no others, and every message is written exactly once, to the console and to the
current log file.  The one thing that can prevent this is a log file on a full device that still
withholds a line: then the next set-up fails and no handler is left. -/
theorem serves_setUp (clock : Text) (fs : FileSystem) (before : List Event) (v : Verbosity)
    (file : Option Path) {t : Session} {raised : Option Failure}
    (h : ((fresh clock fs).run before).setUp v file = (t, raised)) :
    Serves v file ((fresh clock fs).run before) t raised := by
  have hregular : ((fresh clock fs).run before).IsRegular := regular_run (Or.inl rfl) before
  generalize (fresh clock fs).run before = s at h hregular ⊢
  obtain rfl : (s.setUp v file).1 = t := congrArg Prod.fst h
  have hset : (s.setUp v file).1.IsSetUp v (logFile file raised) ↔ ¬ s.logger.Withholds := by
    constructor
    · rintro ⟨_, _, files, hhandlers, _⟩ hwithholds
      rw [hregular.setUp_of_withholds hwithholds] at hhandlers
      cases hhandlers
    · exact fun hfree => (isSetUp_setUp hfree h).1
  exact
    { isSetUp_iff := hset
      bare := fun hwithholds => by
        rw [hregular.setUp_of_withholds hwithholds] at h ⊢
        exact ⟨(congrArg Prod.snd h).symm, rfl⟩
      unasked := fun hfree hfile => by
        subst hfile
        rw [setUp_of_not_withholds hfree] at h
        exact (congrArg Prod.snd h).symm
      keepsFiles := s.keepsFiles_setUp v file
      console := rfl
      writesTo_iff := fun hsetUp => hsetUp.writesTo_iff
      stays := fun hsetUp told => (hears_run hsetUp told).1
      hears := fun hsetUp _ told => (hears_run hsetUp told).2
      withholds_iff := fun hsetUp =>
        withholds_run_iff hsetUp (isSetUp_setUp (hset.mp hsetUp) h).2
      spares := fun _ _ _ hheld hnone => at?_run hheld hnone }

/-! ### A log that moves -/

/-- A file system in which a file stands where a directory is asked for. -/
def lockedSystem : FileSystem := ⟨.directory [("locked", .file [])], []⟩

/-- The log is kept in a first file, and then a set-up fails because of the locked directory. -/
def lockedSession : Session :=
  (fresh [] lockedSystem).run
    [.setUp {} (some (.absolute ["a.log"])), .message ⟨.info, [], "one"⟩,
      .setUp {} (some (.absolute ["locked", "b.log"])), .message ⟨.info, [], "two"⟩]

/-- Where the log is kept after that. -/
def movedLog : Path := .absolute ["logs", "c.log"]

/-- What is reported then. -/
def lastMessages : List Record := [⟨.info, [], "three"⟩, ⟨.warning, [], "four"⟩]

/-- **The log moves on** to another file in a new directory, from warnings upwards.  There it holds
the one warning that comes after that, and the first file holds what it held. -/
theorem serves_setUp_lockedSession :
    ∃ t, lockedSession.setUp { quiet := true } (some movedLog) = (t, none) ∧
      Serves { quiet := true } (some movedLog) lockedSession t none ∧
      t.IsSetUp { quiet := true } (some movedLog) ∧
      (t.run (lastMessages.map .message)).console =
        "[compdocs] INFO one\n[compdocs] INFO two\n[compdocs] WARNING four\n" ∧
      (t.run (lastMessages.map .message)).fs.at? ["logs", "c.log"] =
        some (.file (Charset.Utf8.encode " WARNING compdocs: four\n")) ∧
      (t.run (lastMessages.map .message)).fs.at? ["a.log"] =
        some (.file (Charset.Utf8.encode " INFO compdocs: one\n")) := by
  obtain ⟨t, ht⟩ : ∃ t, (lockedSession.setUp { quiet := true } (some movedLog)).1 = t := ⟨_, rfl⟩
  have h : lockedSession.setUp { quiet := true } (some movedLog) = (t, none) := by
    refine Prod.ext ht ?_
    cbv
  have hserves := serves_setUp [] lockedSystem _ { quiet := true } (some movedLog) h
  have hfree : ¬ lockedSession.logger.Withholds := by
    have hhandlers : lockedSession.logger.handlers = [.console .info] := by cbv
    simp [Logger.Withholds, hhandlers, Handler.Withholds]
  have hsetUp : t.IsSetUp { quiet := true } (some movedLog) := hserves.isSetUp_iff.mpr hfree
  have hhandlers : t.logger.handlers =
      [.console .warning, .file .warning movedLog (.file ["logs", "c.log"])] := by
    rw [← ht]
    cbv
  have hfull : ¬ t.logger.OnFull := by simp [Logger.OnFull, hhandlers]
  have hhears := hserves.hears hsetUp hfull lastMessages
  refine ⟨t, h, hserves, hsetUp, ?_, ?_, hserves.spares _ _ _ ?_ fun n => ?_⟩
  · rw [hhears.console, ← ht]
    cbv
  · have hwrites : t.logger.WritesTo ["logs", "c.log"] := ⟨.warning, movedLog, by simp [hhandlers]⟩
    obtain ⟨held, hheld, hafter⟩ := hhears.logged _ hwrites
    have hempty : t.fs.at? ["logs", "c.log"] = some (.file []) := by
      rw [← ht]
      cbv
    have hclock : t.logger.clock = [] := by
      rw [← ht]
      cbv
    cases hempty.symm.trans hheld
    rw [hafter, hclock]
    rfl
  · rw [← ht]
    cbv
  · rw [← List.map_take, logger_run_of_not_onFull hfull, Logger.WritesTo, hhandlers]
    simp

/-! ### A full device -/

/-- A file system that holds nothing but the full device. -/
def fullSystem : FileSystem :=
  ⟨.directory [("dev", .directory [("full", .device .full)])], []⟩

/-- The log is kept on this device, and one message is reported. -/
def fullSession : Session :=
  (fresh [] fullSystem).run
    [.setUp {} (some (.absolute ["dev", "full"])), .message ⟨.info, [], "x"⟩]

/-- **A logger without handlers.**  Setting it up anew, without a log file, fails because the old
one cannot be closed; and then there is not even a handler for the console. -/
theorem not_isSetUp_fullDevice :
    (fullSession.setUp {} none).2 = some (.refused ⟨.noSpace, none⟩) ∧
      (fullSession.setUp {} none).1.logger.handlers = [] ∧
      ¬ (fullSession.setUp {} none).1.IsSetUp {} none := by
  have hbare : (fullSession.setUp {} none).1.logger.handlers = [] := by cbv
  refine ⟨by cbv, hbare, ?_⟩
  rintro ⟨_, _, files, hhandlers, _⟩
  rw [hbare] at hhandlers
  cases hhandlers

end Session

end Log

end MarkupCatalog
