import MarkupCatalog.Proofs.FileSystem.Handle

/-!
# What leaves files alone

Making directories and opening a file to add to it leave every file where it is, with the bytes
that it held (`FileSystem.KeepsFiles`).  The reason is the same for both: what is new is put where
nothing stood (`Entry.at?_put_of_none`).
-/

namespace MarkupCatalog

namespace Entry

/-- Whatever is put at or below one child of a directory, the other children stay as they are. -/
theorem child?_put_of_ne {name other : Text} (new : Entry) (place : List Text)
    (entries : List (Text × Entry)) (h : other ≠ name) :
    child? other (put new (name :: place) (.directory entries)) =
      child? other (.directory entries) := by
  cases place with
  | nil => rw [put, child?_setChild_of_ne _ _ h]
  | cons n place =>
      rcases hchild : child? name (.directory entries) with _ | child
      · simp only [put, hchild]
      · rw [put_cons_of_child _ hchild, child?_setChild_of_ne _ _ h]

/-- What is put where nothing stood is seen in the directories above it only. -/
theorem at?_put_of_none {e x : Entry} {place other : List Text} (new : Entry)
    (h : e.at? place = none) (hx : e.at? other = some x) (hfile : x.isDirectory = false) :
    (put new place e).at? other = some x := by
  induction place generalizing e other with
  | nil => cases h
  | cons name place ih =>
      cases e with
      | directory entries =>
          cases other with
          | nil =>
              cases hx
              cases hfile
          | cons n other =>
              rw [at?] at h hx
              obtain ⟨child, hchild, hbelow⟩ := Option.bind_eq_some_iff.mp hx
              by_cases hn : n = name
              · subst hn
                rw [hchild, Option.bind_some] at h
                rw [put_cons_of_child _ hchild, at?, child?_setChild_self, Option.bind_some]
                exact ih h hbelow
              · rw [at?, child?_put_of_ne _ _ _ hn, hchild]
                exact hbelow
      | _ => exact hx

end Entry

namespace FileSystem

/-- The absolute form of a path depends on the current directory only. -/
theorem absolutePath_congr {fs fs' : FileSystem} (h : fs'.current = fs.current) (path : Path) :
    fs'.absolutePath path = fs.absolutePath path := by
  rw [absolutePath, absolutePath, h]

/-- Every file is where it was, and holds what it held. -/
structure KeepsFiles (fs fs' : FileSystem) : Prop where
  current : fs'.current = fs.current
  files : ∀ place held, fs.at? place = some (.file held) → fs'.at? place = some (.file held)

theorem KeepsFiles.refl (fs : FileSystem) : fs.KeepsFiles fs := ⟨rfl, fun _ _ h => h⟩

/-- Two changes that leave all files alone do so one after the other. -/
theorem KeepsFiles.trans {fs fs' fs'' : FileSystem} (h : fs.KeepsFiles fs')
    (h' : fs'.KeepsFiles fs'') : fs.KeepsFiles fs'' :=
  ⟨h'.current.trans h.current, fun place held hat => h'.files place held (h.files place held hat)⟩

/-- An entry that is put where nothing stood leaves all files alone. -/
theorem keepsFiles_put_of_none {fs : FileSystem} {place : List Text} (new : Entry)
    (h : fs.at? place = none) : fs.KeepsFiles (fs.put place new) :=
  ⟨rfl, fun _ _ hat => Entry.at?_put_of_none new h hat rfl⟩

variable {fs fs' : FileSystem}

/-- A directory is made where nothing stood. -/
theorem keepsFiles_makeDirectory {path : Path} (h : fs.makeDirectory path = .ok fs') :
    fs.KeepsFiles fs' := by
  unfold makeDirectory at h
  rcases hfound : fs.lookUp .entry path.text with failure | ⟨place, entry⟩
  · simp [hfound, bind, Except.bind] at h
  · simp only [hfound, bind, Except.bind] at h
    cases entry with
    | none =>
        cases h
        exact keepsFiles_put_of_none _ (at?_of_lookUp hfound)
    | some e => cases h

/-- To make sure of one directory is to make it, unless it is there. -/
theorem keepsFiles_ensureDirectory {path : Path} (h : fs.ensureDirectory path = .ok fs') :
    fs.KeepsFiles fs' := by
  unfold ensureDirectory at h
  split at h
  · next made hmade =>
    cases h
    exact keepsFiles_makeDirectory hmade
  · cases h
  · rcases hthere : fs.isDirectory path with failure | _ | _ <;>
      simp only [hthere, bind, Except.bind] at h <;> cases h
    exact .refl fs
  · cases h

/-- **Making directories** leaves all files alone, even if it fails half-way. -/
theorem keepsFiles_ensureDirectories (fs : FileSystem) (path : Path) :
    fs.KeepsFiles (fs.ensureDirectories path).1 := by
  fun_induction ensureDirectories fs path with
  | case1 _ _ hmade => exact keepsFiles_ensureDirectory hmade
  | case4 _ _ _ _ _ hfirst _ hmade ih =>
      rw [hfirst] at ih
      exact ih.trans (keepsFiles_ensureDirectory hmade)
  | case3 _ _ _ _ _ _ hfirst ih =>
      rw [hfirst] at ih
      exact ih
  | case5 _ _ _ _ _ hfirst _ _ ih =>
      rw [hfirst] at ih
      exact ih
  | _ => exact .refl _

/-- **Opening a file to add to it** leaves all files alone. -/
theorem keepsFiles_openToWrite {path : Text} {handle : Handle}
    (h : fs.openToWrite true path = .ok (fs', handle)) : fs.KeepsFiles fs' := by
  unfold openToWrite at h
  rcases hfound : fs.lookUp .file path with failure | ⟨place, entry⟩
  · simp [hfound, bind, Except.bind] at h
  · have hat : fs.at? place = entry := at?_of_lookUp hfound
    simp only [hfound, bind, Except.bind] at h
    cases entry with
    | none =>
        cases h
        exact keepsFiles_put_of_none _ hat
    | some e =>
        cases e with
        | file content =>
            cases h
            refine ⟨rfl, fun other held hother => ?_⟩
            have hroom := Entry.hasRoom_of_file hat
            by_cases hsame : other = place
            · subst hsame
              cases hat.symm.trans hother
              exact hroom.at?_put_self content
            · obtain ⟨y, hy, _, hheld⟩ := hroom.at?_put content hother
              rw [← hheld hsame held rfl]
              exact hy
        | device d =>
            cases d <;> cases h <;> exact .refl _
        | link target => cases h
        | directory entries => cases h

end FileSystem

end MarkupCatalog
