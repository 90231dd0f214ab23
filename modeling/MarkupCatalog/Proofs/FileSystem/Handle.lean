import MarkupCatalog.Proofs.FileSystem.Growth

/-!
# Handles

A handle is open on what its path leads to: on a file or on a device.  It stays so, whatever
is written through it or through another handle, and the bytes of the file are those that
were written to it.

A full device takes bytes into its buffers and refuses them when they are handed on.  They wait
behind the handle (`Handle.Withholds`), and closing it fails as long as they do.
-/

namespace MarkupCatalog.FileSystem

/-- The handle is open on an entry at a place. -/
inductive Handle.OpenOn (place : List Text) : Handle → Entry → Prop
  | file {bytes} : OpenOn place (.file place) (.file bytes)
  | null : OpenOn place .null (.device .null)
  | full {pending buffered} : OpenOn place (.full pending buffered) (.device .full)

theorem Handle.OpenOn.ne_link {place : List Text} {handle : Handle} {x : Entry}
    (h : handle.OpenOn place x) (target : Text) : x ≠ .link target := by
  rintro rfl
  cases h

/-- What is kept of the entry under a handle if another one of the same kind takes its
place. -/
theorem Handle.OpenOn.of_sameKind {place : List Text} {handle : Handle} {x y : Entry}
    (h : handle.OpenOn place x) (hkind : x.SameKind y) : handle.OpenOn place y := by
  cases h <;> cases y <;> first | exact hkind.elim | skip
  · exact .file
  · cases hkind
    exact .null
  · cases hkind
    exact .full

/-! ## Opening -/

/-- **A file that was opened to be written** is what its path leads to.  It is empty, or it was
there and holds what it held. -/
theorem openToWrite_opens {fs fs' : FileSystem} {keep : Bool} {path : Text} {handle : Handle}
    (h : fs.openToWrite keep path = .ok (fs', handle)) :
    ∃ place x, fs'.lookUp .target path = .ok ⟨place, some x⟩ ∧ handle.OpenOn place x ∧
      ∀ bytes, x = .file bytes → bytes = [] ∨ keep = true ∧ fs.at? place = some (.file bytes) := by
  unfold openToWrite at h
  rcases hfound : fs.lookUp .file path with failure | ⟨place, entry⟩
  · simp [hfound, bind, Except.bind] at h
  · have hthere : Goal.file = .file ∨ entry.isSome := Or.inl rfl
    have hat : fs.at? place = entry := at?_of_lookUp hfound
    have hput (hroom : fs.root.HasRoom place) (bytes : Bytes) :
        (fs.put place (.file bytes)).lookUp .target path = .ok ⟨place, some (.file bytes)⟩ :=
      lookUp_grows hfound (grows_put hroom bytes) (by decide) hthere (hroom.at?_put_self bytes)
        (fun _ hlink => by cases hlink)
    simp only [hfound, bind, Except.bind] at h
    cases entry with
    | none =>
        cases h
        refine ⟨place, _, hput (hasRoom_of_lookUp hfound rfl) [], .file, fun bytes hfile => ?_⟩
        cases hfile
        exact Or.inl rfl
    | some e =>
        cases e with
        | file content =>
            cases h
            refine ⟨place, _, hput (Entry.hasRoom_of_file hat) _, .file, fun bytes hfile => ?_⟩
            cases hfile
            cases keep with
            | false => exact Or.inl rfl
            | true => exact Or.inr ⟨rfl, hat⟩
        | device d =>
            have hsame : fs.lookUp .target path = .ok ⟨place, some (.device d)⟩ :=
              lookUp_grows hfound (Grows.refl fs) (by decide) hthere hat
                (fun _ hlink => by cases hlink)
            cases d with
            | null =>
                cases h
                exact ⟨place, _, hsame, .null, fun _ hfile => by cases hfile⟩
            | full =>
                cases h
                exact ⟨place, _, hsame, .full, fun _ hfile => by cases hfile⟩
        | link target => cases h
        | directory entries => cases h

/-- A file that was opened and emptied is what its path leads to, and it is empty. -/
theorem openToWrite_leads {fs fs' : FileSystem} {path : Text} {handle : Handle}
    (h : fs.openToWrite false path = .ok (fs', handle)) :
    ∃ place x, fs'.lookUp .target path = .ok ⟨place, some x⟩ ∧ handle.OpenOn place x ∧
      ∀ bytes, x = .file bytes → bytes = [] := by
  obtain ⟨place, x, hleads, hopen, hheld⟩ := openToWrite_opens h
  exact ⟨place, x, hleads, hopen, fun bytes hfile => (hheld bytes hfile).resolve_right (by simp)⟩

/-! ## Writing -/

/-- The full device changes nothing but its buffers. -/
theorem Handle.write_full (pending buffered : Nat) (fs : FileSystem) (bytes : Bytes) :
    ((Handle.full pending buffered).write fs bytes).fs = fs ∧
      ∃ pending' buffered',
        ((Handle.full pending buffered).write fs bytes).handle = .full pending' buffered' := by
  simp only [write]
  repeat' split
  all_goals exact ⟨rfl, _, _, rfl⟩

/-- **What writing through a handle leaves alone:** the file system grows, and every file but
the one under the handle holds what it held. -/
theorem Handle.write_frame (handle : Handle) (fs : FileSystem) (bytes : Bytes) :
    fs.Grows (handle.write fs bytes).fs ∧
      ∀ place x, fs.at? place = some x → handle ≠ .file place →
        ∃ y, (handle.write fs bytes).fs.at? place = some y ∧ x.SameKind y ∧
          ∀ held, x = .file held → y = x := by
  have hsame : fs.Grows fs ∧ ∀ place x, fs.at? place = some x → handle ≠ .file place →
      ∃ y, fs.at? place = some y ∧ x.SameKind y ∧ ∀ held, x = .file held → y = x :=
    ⟨Grows.refl fs, fun place x hx _ => ⟨x, hx, Entry.SameKind.refl x, fun _ _ => rfl⟩⟩
  cases handle with
  | null => exact hsame
  | full pending buffered =>
      rw [(write_full pending buffered fs bytes).1]
      exact hsame
  | file under =>
      simp only [write]
      split
      · next content hcontent =>
        have hroom : fs.root.HasRoom under := Entry.hasRoom_of_file hcontent
        refine ⟨grows_put hroom _, ?_⟩
        intro place x hx hne
        obtain ⟨y, hy, hkind, hheld⟩ := hroom.at?_put (content ++ bytes) hx
        refine ⟨y, hy, hkind, hheld ?_⟩
        rintro rfl
        exact hne rfl
      · exact hsame

/-- Writing through any handle: the path leads to the same place, and another handle stays
open on what is there.  Another file holds what it held. -/
theorem Handle.write_other {fs : FileSystem} {path : Text} {place : List Text} {x : Entry}
    {handle : Handle} (h : fs.lookUp .target path = .ok ⟨place, some x⟩)
    (hopen : handle.OpenOn place x) (writer : Handle) (bytes : Bytes) :
    ∃ y, (writer.write fs bytes).fs.lookUp .target path = .ok ⟨place, some y⟩ ∧
      handle.OpenOn place y ∧ (writer ≠ .file place → y = x) := by
  obtain ⟨hgrows, hframe⟩ := writer.write_frame fs bytes
  have hx : fs.at? place = some x := at?_of_lookUp h
  obtain ⟨y, hy, hkind⟩ := hgrows.keeps place x hx
  have hopen' : handle.OpenOn place y := hopen.of_sameKind hkind
  refine ⟨y, ?_, hopen', ?_⟩
  · exact lookUp_grows h hgrows (by decide) (Or.inr rfl) hy hopen'.ne_link
  · intro hne
    obtain ⟨z, hz, hkind', hheld⟩ := hframe place x hx hne
    cases hy.symm.trans hz
    cases hopen with
    | file => exact hheld _ rfl
    | null | full =>
        cases y with
        | device d => exact congrArg Entry.device hkind.symm
        | _ => exact hkind.elim

/-- **Writing through the handle itself** adds the bytes to those that the file holds. -/
theorem Handle.write_leads {fs : FileSystem} {path : Text} {place : List Text} {x : Entry}
    {handle : Handle} (h : fs.lookUp .target path = .ok ⟨place, some x⟩)
    (hopen : handle.OpenOn place x) (bytes : Bytes) :
    ∃ y, (handle.write fs bytes).fs.lookUp .target path = .ok ⟨place, some y⟩ ∧
      (handle.write fs bytes).handle.OpenOn place y ∧
      ∀ held, y = .file held → ∃ before, x = .file before ∧ held = before ++ bytes := by
  obtain ⟨y, hy, hopen', hother⟩ := write_other h hopen handle bytes
  cases hopen with
  | @file before =>
      have hx : fs.at? place = some (.file before) := at?_of_lookUp h
      have hwrite : (Handle.file place).write fs bytes =
          ⟨fs.put place (.file (before ++ bytes)), .file place, none⟩ := by
        simp only [write, hx]
      have hself := (Entry.hasRoom_of_file hx).at?_put_self (before ++ bytes)
      rw [hwrite] at hy ⊢
      refine ⟨y, hy, hopen', ?_⟩
      rintro held rfl
      cases (at?_of_lookUp hy).symm.trans hself
      exact ⟨before, rfl, rfl⟩
  | null =>
      cases hother (by simp)
      exact ⟨_, hy, hopen', fun _ hfile => by cases hfile⟩
  | full =>
      cases hother (by simp)
      obtain ⟨pending', buffered', hhandle⟩ := (write_full _ _ fs bytes).2
      exact ⟨_, hy, hhandle ▸ .full, fun _ hfile => by cases hfile⟩

/-! ## Flushing and closing -/

/-- Flushing and closing change no file. -/
theorem Handle.flush_fs (handle : Handle) (fs : FileSystem) : (handle.flush fs).fs = fs := by
  cases handle with
  | file | null => rfl
  | full =>
      simp only [flush]
      repeat' split
      all_goals rfl

theorem Handle.close_fs (handle : Handle) (fs : FileSystem) : (handle.close fs).fs = fs := by
  cases handle <;> rfl

theorem Handle.flush_leads (fs : FileSystem) {place : List Text} {x : Entry} {handle : Handle}
    (hopen : handle.OpenOn place x) :
    (handle.flush fs).fs = fs ∧ (handle.flush fs).handle.OpenOn place x := by
  cases hopen with
  | file => exact ⟨rfl, .file⟩
  | null => exact ⟨rfl, .null⟩
  | full =>
      simp only [flush]
      repeat' split
      all_goals exact ⟨rfl, .full⟩

theorem Handle.close_leads (fs : FileSystem) {place : List Text} {x : Entry} {handle : Handle}
    (hopen : handle.OpenOn place x) :
    (handle.close fs).fs = fs ∧ (handle.close fs).handle.OpenOn place x := by
  cases hopen with
  | file => exact ⟨rfl, .file⟩
  | null => exact ⟨rfl, .null⟩
  | full => exact ⟨rfl, .full⟩

/-! ## Writing and handing on at once -/

/-- What is written through a handle is what is written to it. -/
theorem Handle.writeThrough_fs (handle : Handle) (fs : FileSystem) (bytes : Bytes) :
    (handle.writeThrough fs bytes).fs = (handle.write fs bytes).fs := by
  rw [writeThrough]
  split
  · rfl
  · exact flush_fs _ _

/-- **Writing through a handle:** it stays open on what the path leads to, and the bytes are added
to those that the file holds. -/
theorem Handle.writeThrough_leads {fs : FileSystem} {path : Text} {place : List Text} {x : Entry}
    {handle : Handle} (h : fs.lookUp .target path = .ok ⟨place, some x⟩)
    (hopen : handle.OpenOn place x) (bytes : Bytes) :
    ∃ y, (handle.writeThrough fs bytes).fs.lookUp .target path = .ok ⟨place, some y⟩ ∧
      (handle.writeThrough fs bytes).handle.OpenOn place y ∧
      ∀ held, y = .file held → ∃ before, x = .file before ∧ held = before ++ bytes := by
  obtain ⟨y, hleads, hopen', hadded⟩ := write_leads h hopen bytes
  refine ⟨y, ?_, ?_, hadded⟩
  · rw [writeThrough_fs]
    exact hleads
  · rw [writeThrough]
    split
    · exact hopen'
    · exact (flush_leads _ hopen').2

/-- What is written through a handle on a file is added to what the file holds. -/
theorem Handle.at?_writeThrough {fs : FileSystem} {place : List Text} {held : Bytes}
    (h : fs.at? place = some (.file held)) (bytes : Bytes) :
    ((Handle.file place).writeThrough fs bytes).fs.at? place = some (.file (held ++ bytes)) := by
  rw [writeThrough_fs]
  simp only [write, h]
  exact (Entry.hasRoom_of_file h).at?_put_self (held ++ bytes)

/-- Writing through a handle makes a difference to the handle only if it is on a full device. -/
theorem Handle.handle_writeThrough {handle : Handle}
    (h : ∀ pending buffered, handle ≠ .full pending buffered) (fs : FileSystem) (bytes : Bytes) :
    (handle.writeThrough fs bytes).handle = handle := by
  cases handle with
  | file place =>
      have hwrite : ∃ fs', (Handle.file place).write fs bytes = ⟨fs', .file place, none⟩ := by
        simp only [write]
        split <;> exact ⟨_, rfl⟩
      obtain ⟨fs', hwrite⟩ := hwrite
      rw [writeThrough, hwrite]
      rfl
  | null => rfl
  | full pending buffered => exact absurd rfl (h pending buffered)

theorem Handle.writeThrough_eq_file_iff (handle : Handle) (fs : FileSystem) (bytes : Bytes)
    (place : List Text) :
    (handle.writeThrough fs bytes).handle = .file place ↔ handle = .file place := by
  cases handle with
  | full pending buffered =>
      obtain ⟨pending', buffered', hwrite⟩ := (write_full pending buffered fs bytes).2
      rw [writeThrough]
      split
      · simp [hwrite]
      · rw [hwrite, flush]
        repeat' split
        all_goals simp
  | _ => rw [handle_writeThrough (by simp)]

/-- A text that comes to a full device whose text layer is empty waits there, or is refused if it
is too long. -/
theorem Handle.write_full_zero (fs : FileSystem) (buffered : Nat) (bytes : Bytes) :
    (Handle.full 0 buffered).write fs bytes =
      if bytes.length < textBuffer then ⟨fs, .full bytes.length buffered, none⟩
      else ⟨fs, .full 0 buffered, some .noSpace⟩ := by
  have hwaits : (if 0 + bytes.length ≤ textBuffer then (0 + bytes.length, buffered, false)
      else (bytes.length, buffered, false)) = (bytes.length, buffered, false) := by
    rw [Nat.zero_add, ite_self]
  simp only [write, ↓reduceIte, hwaits, Bool.false_eq_true]
  split
  · rfl
  · next hlong =>
    have hroom : ¬ bytes.length + buffered ≤ blockBuffer := by
      have hblock : blockBuffer < textBuffer := by decide
      omega
    rw [fits, decide_eq_false hroom]
    rfl

/-- **The full device refuses every line.**  A short one stays behind the handle, and a long one is
lost. -/
theorem Handle.writeThrough_full (fs : FileSystem) (buffered : Nat) {bytes : Bytes}
    (h : bytes ≠ []) :
    ∃ buffered', ((Handle.full 0 buffered).writeThrough fs bytes).handle = .full 0 buffered' ∧
      (buffered' ≠ 0 ↔ buffered ≠ 0 ∨ bytes.length ≤ blockBuffer) := by
  have hlength : bytes.length ≠ 0 := fun hnil => h (List.length_eq_zero_iff.mp hnil)
  rw [writeThrough, write_full_zero]
  by_cases hlong : bytes.length < textBuffer
  · have hsome : bytes.length + buffered ≠ 0 := by omega
    simp only [if_pos hlong, Option.isSome_none, Bool.false_eq_true, ↓reduceIte, flush,
      if_neg hsome]
    -- all of the line is kept if it fits, and else what had been kept before it
    split
    all_goals
      rename_i hfits
      refine ⟨_, rfl, ?_⟩
      simp only [fits, decide_eq_true_eq] at hfits
      omega
  · have hblock : ¬ bytes.length ≤ blockBuffer := by
      simp only [textBuffer, blockBuffer] at hlong ⊢
      omega
    rw [if_neg hlong]
    exact ⟨buffered, rfl, by simp [hblock]⟩

/-! ## What is withheld -/

/-- Bytes that were refused wait behind the handle. -/
def Handle.Withholds : Handle → Prop
  | .full pending buffered => pending + buffered ≠ 0
  | _ => False

theorem Handle.fault_close_of_withholds {handle : Handle} (h : handle.Withholds)
    (fs : FileSystem) : (handle.close fs).fault = some .noSpace := by
  cases handle with
  | full pending buffered => exact if_neg h
  | file | null => exact h.elim

theorem Handle.fault_close_of_not_withholds {handle : Handle} (h : ¬ handle.Withholds)
    (fs : FileSystem) : (handle.close fs).fault = none := by
  cases handle with
  | full pending buffered => exact if_pos (not_not.mp h)
  | file | null => rfl

/-- Nothing waits behind a handle that was just opened. -/
theorem Handle.eq_full_of_openToWrite {fs fs' : FileSystem} {keep : Bool} {path : Text}
    {pending buffered : Nat} (h : fs.openToWrite keep path = .ok (fs', .full pending buffered)) :
    pending = 0 ∧ buffered = 0 := by
  unfold openToWrite at h
  rcases hfound : fs.lookUp .file path with failure | ⟨place, entry⟩
  · simp [hfound, bind, Except.bind] at h
  · simp only [hfound, bind, Except.bind] at h
    split at h <;> cases h
    exact ⟨rfl, rfl⟩

end MarkupCatalog.FileSystem
