import MarkupCatalog.Collection.Run
import MarkupCatalog.Proofs.Writer.OutputFile

/-!
# What messages leave behind

A message is at most added to files in which the log is kept.  `Logger.OnlyLogs` says so of the
file system before and after: no entry is new, and whatever is neither such a file nor a directory
above one is as it was.  Where the log is kept in no file, nothing is changed at all
(`OnlyLogs.eq`).
-/

namespace MarkupCatalog

namespace Entry

/-- Other bytes in a file are seen at the place of the file and above it only. -/
theorem at?_put_elsewhere {e : Entry} {place other : List Text} {held : Bytes}
    (h : e.at? place = some (.file held)) (bytes : Bytes) (hother : ¬ other <+: place) :
    (put (.file bytes) place e).at? other = e.at? other := by
  induction place generalizing e other with
  | nil =>
      cases h
      cases other with
      | nil => exact absurd List.nil_prefix hother
      | cons n other => rfl
  | cons name place ih =>
      rw [at?] at h
      obtain ⟨child, hchild, hbelow⟩ := Option.bind_eq_some_iff.mp h
      cases e with
      | directory entries =>
          cases other with
          | nil => exact absurd List.nil_prefix hother
          | cons n other =>
              rw [put_cons_of_child _ hchild, at?, at?]
              by_cases hn : n = name
              · subst hn
                have hrest : ¬ other <+: place := fun hprefix =>
                  hother (List.cons_prefix_cons.mpr ⟨rfl, hprefix⟩)
                rw [child?_setChild_self, hchild, Option.bind_some, Option.bind_some,
                  ih hbelow hrest]
              · rw [child?_setChild_of_ne _ _ hn]
      | _ => cases hchild

/-- Other bytes in a file make nothing new. -/
theorem at?_put_eq_none {e : Entry} {place other : List Text} {held : Bytes}
    (h : e.at? place = some (.file held)) (bytes : Bytes) (hother : e.at? other = none) :
    (put (.file bytes) place e).at? other = none := by
  have hnot : ¬ other <+: place := by
    rintro ⟨rest, rfl⟩
    rw [at?_append, hother] at h
    cases h
  rw [at?_put_elsewhere h bytes hnot, hother]

end Entry

namespace Log

/-- Of all entries only files that the logger writes to, and directories above these, can be
different from what they were, and none is new. -/
structure Logger.OnlyLogs (l : Logger) (fs fs' : FileSystem) : Prop where
  current : fs'.current = fs.current
  same : ∀ place, (∀ rest, ¬ l.WritesTo (place ++ rest)) → fs'.at? place = fs.at? place
  absent : ∀ place, fs.at? place = none → fs'.at? place = none

variable {l : Logger} {fs fs' fs'' : FileSystem}

theorem Logger.OnlyLogs.refl (l : Logger) (fs : FileSystem) : l.OnlyLogs fs fs :=
  ⟨rfl, fun _ _ => rfl, fun _ h => h⟩

theorem Logger.OnlyLogs.trans (h : l.OnlyLogs fs fs') (h' : l.OnlyLogs fs' fs'') :
    l.OnlyLogs fs fs'' where
  current := h'.current.trans h.current
  same place hplace := (h'.same place hplace).trans (h.same place hplace)
  absent place hplace := h'.absent place (h.absent place hplace)

/-- Only the files that a logger writes to count. -/
theorem Logger.OnlyLogs.congr {l' : Logger} (h : l.OnlyLogs fs fs')
    (hsame : ∀ place, l'.WritesTo place ↔ l.WritesTo place) : l'.OnlyLogs fs fs' where
  current := h.current
  same place hplace := h.same place fun rest hwrites => hplace rest ((hsame _).mpr hwrites)
  absent := h.absent

/-- Where the log is kept in no file, nothing is changed. -/
theorem Logger.OnlyLogs.eq (h : l.OnlyLogs fs fs') (hnone : ∀ place, ¬ l.WritesTo place) :
    fs' = fs := by
  have hroot : some fs'.root = some fs.root := h.same [] fun rest => hnone rest
  have hcurrent := h.current
  cases fs
  cases fs'
  cases hroot
  cases hcurrent
  rfl

/-- A handler of the logger writes to no file but its own. -/
theorem Logger.onlyLogs_handle (fs : FileSystem) (r : Record) {handler : Handler}
    (h : handler ∈ l.handlers) : l.OnlyLogs fs (handle l.clock fs r handler).1 := by
  unfold handle
  split
  · exact .refl l fs
  · cases handler with
    | console level => exact .refl l fs
    | file level path writer =>
        simp only [writer.writeThrough_fs]
        cases writer with
        | null => exact .refl l fs
        | full pending buffered =>
            simp only [(FileSystem.Handle.write_full pending buffered fs _).1]
            exact .refl l fs
        | file place =>
            simp only [FileSystem.Handle.write]
            split
            · next held hheld =>
              refine ⟨rfl, fun other hother => ?_, fun other hother => ?_⟩
              · refine Entry.at?_put_elsewhere hheld _ ?_
                rintro ⟨rest, rfl⟩
                exact hother rest ⟨level, path, h⟩
              · exact Entry.at?_put_eq_none hheld _ hother
            · exact .refl l fs

/-- **A message is added to the log and to nothing else.** -/
theorem Logger.onlyLogs_emit (l : Logger) (fs : FileSystem) (r : Record) :
    l.OnlyLogs fs (l.emit fs r).1 := by
  have hall (handlers : List Handler) (hsub : handlers ⊆ l.handlers) (fs : FileSystem) :
      l.OnlyLogs fs (Logger.handleAll l.clock fs r handlers).1 := by
    induction handlers generalizing fs with
    | nil => exact .refl _ fs
    | cons handler handlers ih =>
        obtain ⟨hfirst, hrest⟩ := List.cons_subset.mp hsub
        exact (Logger.onlyLogs_handle fs r hfirst).trans (ih hrest _)
  rw [Logger.emit]
  split
  · exact .refl _ fs
  · split
    · exact .refl _ fs
    · exact hall _ (List.Subset.refl _) fs

/-- A message goes to the files of the logger only. -/
theorem Journal.onlyLogs_note (j : Journal) (fs : FileSystem) (r : Record) :
    j.logger.OnlyLogs fs (j.note fs r).2 :=
  j.logger.onlyLogs_emit fs r

end Log

namespace Collection.Shared

theorem onlyLogs_note (s : Shared) (r : Log.Record) :
    s.journal.logger.OnlyLogs s.file.fs (s.note r).file.fs :=
  s.journal.onlyLogs_note s.file.fs r

/-- **Messages one after the other** are added to the log and to nothing else. -/
theorem onlyLogs_noteAll (rs : List Log.Record) (s : Shared) :
    s.journal.logger.OnlyLogs s.file.fs (s.noteAll rs).file.fs := by
  induction rs generalizing s with
  | nil => exact .refl _ _
  | cons r rs ih => exact (s.onlyLogs_note r).trans (ih (s.note r))

end Collection.Shared

end MarkupCatalog
