import MarkupCatalog.FileSystem.Operation
import MarkupCatalog.Proofs.Text.Joining

/-!
# File systems that grow

Files are made and written to, but as long as nothing is taken away, every entry stays in
its place and keeps its kind: `FileSystem.Grows`.  A path that led to a file then leads to
the same place ever after (`lookUp_grows`), whatever links and `..` are in it.

From this follows what a handle is good for: it stays open on what the path leads to, and
what the file holds is what was written to it (`openToWrite_leads`, `Handle.write_leads`).
-/

namespace MarkupCatalog

namespace Entry

/-- Entries of the same kind: links with the same target, the same device, or two files or
directories, whatever is in them. -/
def SameKind : Entry → Entry → Prop
  | .file _, .file _ => True
  | .link target, .link target' => target = target'
  | .device d, .device d' => d = d'
  | .directory _, .directory _ => True
  | _, _ => False

theorem SameKind.refl (e : Entry) : e.SameKind e := by
  cases e <;> simp [SameKind]

/-! ## Places -/

/-- A place below a place is found step by step. -/
theorem at?_append (e : Entry) (place rest : List Text) :
    e.at? (place ++ rest) = (e.at? place).bind (·.at? rest) := by
  induction place generalizing e with
  | nil => rfl
  | cons name place ih =>
      rw [List.cons_append, at?, at?]
      rcases e.child? name with _ | child
      · rfl
      · exact ih child

/-- What stands above an entry stands there too. -/
theorem at?_dropLast_isSome {e : Entry} {place : List Text} (h : (e.at? place).isSome) :
    (e.at? place.dropLast).isSome := by
  rcases List.eq_nil_or_concat' place with rfl | ⟨above, name, rfl⟩
  · exact h
  · rw [List.dropLast_concat]
    rw [at?_append] at h
    rcases habove : e.at? above with _ | x
    · rw [habove] at h
      cases h
    · rfl

/-- A child that is set is found under its name. -/
theorem child?_setChild_self (name : Text) (child : Entry) (entries : List (Text × Entry)) :
    child? name (.directory (setChild name child entries)) = some child := by
  induction entries with
  | nil => simp [setChild, child?]
  | cons entry entries ih =>
      obtain ⟨n, e⟩ := entry
      by_cases hn : n = name
      · simp [setChild, child?, hn]
      · simp only [child?] at ih ⊢
        simpa [setChild, hn] using ih

/-- To set a child changes no other one. -/
theorem child?_setChild_of_ne {name other : Text} (child : Entry) (entries : List (Text × Entry))
    (h : other ≠ name) :
    child? other (.directory (setChild name child entries)) =
      child? other (.directory entries) := by
  have hne : ¬ name = other := fun heq => h heq.symm
  induction entries with
  | nil => simp [setChild, child?, hne]
  | cons entry entries ih =>
      obtain ⟨n, e⟩ := entry
      simp only [child?] at ih ⊢
      by_cases hn : n = name
      · simp [setChild, hn, hne]
      · rw [setChild, if_neg hn, List.find?_cons, List.find?_cons]
        split
        · rfl
        · exact ih

/-! ## Putting a file into its place -/

/-- There is room for a file at a place: there is one already, or there is nothing but the
directory that it would be in. -/
inductive HasRoom : Entry → List Text → Prop
  | file {bytes} : HasRoom (.file bytes) []
  | new {name entries} : child? name (.directory entries) = none →
      HasRoom (.directory entries) [name]
  | inside {name place entries child} : child? name (.directory entries) = some child →
      HasRoom child place → HasRoom (.directory entries) (name :: place)

/-- A file may be written again where it is. -/
theorem hasRoom_of_file {e : Entry} {place : List Text} {bytes : Bytes}
    (h : e.at? place = some (.file bytes)) : e.HasRoom place := by
  induction place generalizing e with
  | nil =>
      cases h
      exact .file
  | cons name place ih =>
      rw [at?] at h
      obtain ⟨child, hchild, hbelow⟩ := Option.bind_eq_some_iff.mp h
      cases e with
      | directory entries => exact .inside hchild (ih hbelow)
      | _ => cases hchild

/-- A new entry may be put under a name that the directory does not list. -/
theorem hasRoom_of_directory {e : Entry} {above : List Text} {name : Text}
    {entries : List (Text × Entry)} (h : e.at? above = some (.directory entries))
    (hnone : child? name (.directory entries) = none) : e.HasRoom (above ++ [name]) := by
  induction above generalizing e with
  | nil =>
      cases h
      exact .new hnone
  | cons n above ih =>
      rw [at?] at h
      obtain ⟨child, hchild, hbelow⟩ := Option.bind_eq_some_iff.mp h
      cases e with
      | directory entries => exact .inside hchild (ih hbelow)
      | _ => cases hchild

/-- To put something below a child is to set this child anew. -/
theorem put_cons_of_child {name : Text} {place : List Text} {entries : List (Text × Entry)}
    {child : Entry} (new : Entry) (h : child? name (.directory entries) = some child) :
    put new (name :: place) (.directory entries) =
      .directory (setChild name (put new place child) entries) := by
  cases place with
  | nil => rw [put, put]
  | cons n place => simp only [put, h]

/-- The file is in its place. -/
theorem HasRoom.at?_put_self {e : Entry} {place : List Text} (h : e.HasRoom place)
    (bytes : Bytes) : (put (.file bytes) place e).at? place = some (.file bytes) := by
  induction h with
  | file => rw [put, at?]
  | new _ => rw [put, at?, child?_setChild_self, Option.bind_some, at?]
  | inside hchild _ ih =>
      rw [put_cons_of_child _ hchild, at?, child?_setChild_self, Option.bind_some, ih]

/-- **Everything else stays:** what stood at any place is still there and is of the same
kind, and every other file holds what it held. -/
theorem HasRoom.at?_put {e x : Entry} {place other : List Text} (h : e.HasRoom place)
    (bytes : Bytes) (hx : e.at? other = some x) :
    ∃ y, (put (.file bytes) place e).at? other = some y ∧ x.SameKind y ∧
      (other ≠ place → ∀ held, x = .file held → y = x) := by
  induction h generalizing other with
  | @file held =>
      cases other with
      | nil =>
          cases hx
          exact ⟨.file bytes, rfl, trivial, fun hne => absurd rfl hne⟩
      | cons n other => cases hx
  | @new name entries hnone =>
      cases other with
      | nil =>
          cases hx
          refine ⟨.directory (setChild name (.file bytes) entries), by rw [put, at?], trivial, ?_⟩
          exact fun _ held hfile => by cases hfile
      | cons n other =>
          rw [at?] at hx
          obtain ⟨child, hchild, hbelow⟩ := Option.bind_eq_some_iff.mp hx
          have hn : n ≠ name := by
            rintro rfl
            rw [hnone] at hchild
            cases hchild
          refine ⟨x, ?_, SameKind.refl x, fun _ _ _ => rfl⟩
          rw [put, at?, child?_setChild_of_ne _ _ hn, hchild]
          exact hbelow
  | @inside name place entries child hchild _ ih =>
      cases other with
      | nil =>
          cases hx
          refine ⟨.directory (setChild name (put (.file bytes) place child) entries),
            by rw [put_cons_of_child _ hchild, at?], trivial, ?_⟩
          exact fun _ held hfile => by cases hfile
      | cons n other =>
          rw [at?] at hx
          obtain ⟨child', hchild', hbelow⟩ := Option.bind_eq_some_iff.mp hx
          rw [put_cons_of_child _ hchild, at?]
          by_cases hn : n = name
          · subst hn
            cases hchild.symm.trans hchild'
            obtain ⟨y, hy, hkind, hsame⟩ := ih hbelow
            refine ⟨y, ?_, hkind, fun hne => hsame fun heq => hne (by rw [heq])⟩
            rw [child?_setChild_self, Option.bind_some, hy]
          · refine ⟨x, ?_, SameKind.refl x, fun _ _ _ => rfl⟩
            rw [child?_setChild_of_ne _ _ hn, hchild']
            exact hbelow

end Entry

namespace FileSystem

/-- Nothing is taken away: every entry stays in its place and keeps its kind. -/
structure Grows (fs fs' : FileSystem) : Prop where
  current : fs'.current = fs.current
  keeps : ∀ place x, fs.at? place = some x → ∃ y, fs'.at? place = some y ∧ x.SameKind y

theorem Grows.refl (fs : FileSystem) : fs.Grows fs :=
  ⟨rfl, fun _ x hx => ⟨x, hx, Entry.SameKind.refl x⟩⟩

/-- A file system with one more file, or with other bytes in a file, has grown. -/
theorem grows_put {fs : FileSystem} {place : List Text} (h : fs.root.HasRoom place)
    (bytes : Bytes) : fs.Grows (fs.put place (.file bytes)) where
  current := rfl
  keeps other x hx := by
    obtain ⟨y, hy, hkind, _⟩ := h.at?_put bytes hx
    exact ⟨y, hy, hkind⟩

/-- What a place in a directory holds is the child of this name. -/
theorem at?_concat {fs : FileSystem} {place : List Text} {entries : List (Text × Entry)}
    (h : fs.at? place = some (.directory entries)) (name : Text) :
    fs.at? (place ++ [name]) = Entry.child? name (.directory entries) := by
  have happend : fs.at? (place ++ [name]) = _ := Entry.at?_append fs.root place [name]
  rw [happend]
  rw [at?] at h
  rw [h, Option.bind_some, Entry.at?]
  cases Entry.child? name (.directory entries) <;> rfl

/-! ## Following a path -/

/-- A name that leads into a directory: neither empty nor a point or two, not too long, and
not the last one before a slash at the end where a file is looked for. -/
structure Ordinary (goal : Goal) (name : Text) (rest : List Text) : Prop where
  notStay : ¬ (name.isEmpty || name = ['.']) = true
  notUp : ¬ name = ['.', '.']
  notSlash : ¬ (goal = .file && !rest.isEmpty && rest.all (·.isEmpty)) = true
  notLong : ¬ maxName < byteLength name

/-- How names lead from a place to a location. -/
inductive Walks (fs : FileSystem) (goal : Goal) : Nat → List Text → List Text → Location → Prop
  | here {links place} : Walks fs goal links place [] ⟨place, fs.at? place⟩
  | stay {links place name rest entries location} : fs.at? place = some (.directory entries) →
      (name.isEmpty || name = ['.']) = true → Walks fs goal links place rest location →
      Walks fs goal links place (name :: rest) location
  | up {links place rest entries location} : fs.at? place = some (.directory entries) →
      Walks fs goal links place.dropLast rest location →
      Walks fs goal links place (['.', '.'] :: rest) location
  /-- The last name need not be there. -/
  | missing {links place name rest entries} : fs.at? place = some (.directory entries) →
      Ordinary goal name rest → Entry.child? name (.directory entries) = none →
      rest.all (·.isEmpty) = true →
      Walks fs goal links place (name :: rest) ⟨place ++ [name], none⟩
  | link {links place name rest entries target} : fs.at? place = some (.directory entries) →
      Ordinary goal name rest → Entry.child? name (.directory entries) = some (.link target) →
      (rest.isEmpty && goal = .entry) = true →
      Walks fs goal links place (name :: rest) ⟨place ++ [name], some (.link target)⟩
  | follow {links place name rest entries target location} :
      fs.at? place = some (.directory entries) → Ordinary goal name rest →
      Entry.child? name (.directory entries) = some (.link target) →
      ¬ (rest.isEmpty && goal = .entry) = true →
      Walks fs goal links (if target.head? = some '/' then [] else place)
        (Text.splitOnChar '/' target ++ rest) location →
      Walks fs goal (links + 1) place (name :: rest) location
  | down {links place name rest entries child location} :
      fs.at? place = some (.directory entries) → Ordinary goal name rest →
      Entry.child? name (.directory entries) = some child → (∀ target, child ≠ .link target) →
      Walks fs goal links (place ++ [name]) rest location →
      Walks fs goal links place (name :: rest) location

/-- **Inversion of a walk.** -/
theorem walks_of_walk {fs : FileSystem} {goal : Goal} {links : Nat} {place names : List Text}
    {location : Location} (h : fs.walk goal links place names = .ok location) :
    Walks fs goal links place names location := by
  fun_induction walk fs goal links place names with
  | case1 =>
      cases h
      exact .here
  | case2 _ _ _ _ _ hplace hname ih => exact .stay hplace hname (ih h)
  | case3 _ _ _ _ hplace _ ih => exact .up hplace (ih h)
  | case6 _ _ _ _ _ hplace hstay hup hslash hlong hchild hrest =>
      cases h
      exact .missing hplace ⟨hstay, hup, hslash, hlong⟩ hchild hrest
  | case8 _ _ _ _ _ hplace hstay hup hslash hlong _ hchild hgoal =>
      cases h
      exact .link hplace ⟨hstay, hup, hslash, hlong⟩ hchild hgoal
  | case10 _ _ _ _ hplace hstay hup hslash hlong _ hchild hgoal _ _ ih =>
      exact .follow hplace ⟨hstay, hup, hslash, hlong⟩ hchild hgoal (ih h)
  | case11 _ _ _ _ _ hplace hstay hup hslash hlong _ hlink hchild ih =>
      exact .down hplace ⟨hstay, hup, hslash, hlong⟩ hchild hlink (ih h)
  | _ => cases h

/-- A walk through a directory with an ordinary name. -/
theorem walk_ordinary {fs : FileSystem} {goal : Goal} {links : Nat} {place rest : List Text}
    {name : Text} {entries : List (Text × Entry)}
    (hplace : fs.at? place = some (.directory entries)) (ho : Ordinary goal name rest) :
    fs.walk goal links place (name :: rest) =
      match Entry.child? name (.directory entries) with
      | none => if rest.all (·.isEmpty) then .ok ⟨place ++ [name], none⟩ else .error .notFound
      | some (.link target) =>
          if rest.isEmpty && goal = .entry then .ok ⟨place ++ [name], some (.link target)⟩
          else
            match links with
            | 0 => .error .tooManyLinks
            | links + 1 =>
                fs.walk goal links (if target.head? = some '/' then [] else place)
                  (Text.splitOnChar '/' target ++ rest)
      | some _ => fs.walk goal links (place ++ [name]) rest := by
  rw [walk]
  simp only [hplace]
  rw [if_neg ho.notStay, if_neg ho.notUp, if_neg ho.notSlash]
  exact if_neg ho.notLong

/-- Whatever is reached by the rules of walking is reached by the walk itself. -/
theorem Walks.walk_eq_ok {fs : FileSystem} {goal : Goal} {links : Nat} {place names : List Text}
    {location : Location} (h : Walks fs goal links place names location) :
    fs.walk goal links place names = .ok location := by
  induction h with
  | here => rw [walk]
  | stay hplace hname _ ih =>
      rw [walk]
      simp only [hplace]
      rw [if_pos hname, ih]
  | up hplace _ ih =>
      rw [walk]
      simp only [hplace]
      exact ih
  | missing hplace ho hchild hrest => simp only [walk_ordinary hplace ho, hchild, if_pos hrest]
  | link hplace ho hchild hgoal => simp only [walk_ordinary hplace ho, hchild, if_pos hgoal]
  | follow hplace ho hchild hgoal _ ih =>
      simp only [walk_ordinary hplace ho, hchild, if_neg hgoal]
      exact ih
  | @down _ _ _ _ _ child _ hplace ho hchild hlink _ ih =>
      simp only [walk_ordinary hplace ho, hchild]
      cases child with
      | link target => exact absurd rfl (hlink target)
      | _ => exact ih

/-- What is found stands at the place where it is found. -/
theorem Walks.at?_place {fs : FileSystem} {goal : Goal} {links : Nat} {place names : List Text}
    {location : Location} (h : Walks fs goal links place names location) :
    fs.at? location.place = location.entry := by
  induction h with
  | here => rfl
  | missing hplace _ hchild _ => rw [at?_concat hplace, hchild]
  | link hplace _ hchild _ => rw [at?_concat hplace, hchild]
  | stay _ _ _ ih | up _ _ ih | follow _ _ _ _ _ ih | down _ _ _ _ _ ih => exact ih

/-- There is room for a file where one is missing. -/
theorem Walks.hasRoom {fs : FileSystem} {goal : Goal} {links : Nat} {place names : List Text}
    {location : Location} (h : Walks fs goal links place names location)
    (hstart : names = [] → (fs.at? place).isSome) (hnone : location.entry = none) :
    fs.root.HasRoom location.place := by
  induction h with
  | @here links place =>
      have hsome : (fs.at? place).isSome := hstart rfl
      rw [show fs.at? place = none from hnone] at hsome
      cases hsome
  | missing hplace _ hchild _ => exact Entry.hasRoom_of_directory hplace hchild
  | link _ _ _ _ => cases hnone
  | stay hplace _ _ ih => exact ih (fun _ => by rw [hplace]; rfl) hnone
  | up hplace _ ih =>
      refine ih (fun _ => Entry.at?_dropLast_isSome ?_) hnone
      rw [at?] at hplace
      rw [hplace]
      rfl
  | follow _ _ _ _ _ ih =>
      exact ih (fun hnil => absurd (List.append_eq_nil_iff.mp hnil).1 (Text.splitOnChar_ne_nil _ _))
        hnone
  | down hplace _ hchild _ _ ih =>
      refine ih (fun _ => ?_) hnone
      rw [at?_concat hplace, hchild]
      rfl

/-- **A walk in a file system that has grown** leads to the same place.  If a file was looked
for, it may be there by now. -/
theorem Walks.grows {fs fs' : FileSystem} {goal : Goal} {links : Nat} {place names : List Text}
    {location : Location} {x : Entry} (h : Walks fs goal links place names location)
    (hgrows : fs.Grows fs') (hgoal : goal ≠ .entry)
    (hthere : goal = .file ∨ location.entry.isSome) (hx : fs'.at? location.place = some x)
    (hlink : ∀ target, x ≠ .link target) :
    Walks fs' .target links place names ⟨location.place, some x⟩ := by
  have hdirectory {place : List Text} {entries : List (Text × Entry)}
      (hplace : fs.at? place = some (.directory entries)) :
      ∃ entries', fs'.at? place = some (.directory entries') := by
    obtain ⟨y, hy, hkind⟩ := hgrows.keeps place _ hplace
    cases y with
    | directory entries' => exact ⟨entries', hy⟩
    | _ => exact hkind.elim
  have hordinary {name : Text} {rest : List Text} (ho : Ordinary goal name rest) :
      Ordinary .target name rest :=
    ⟨ho.notStay, ho.notUp, by simp, ho.notLong⟩
  induction h with
  | here => exact hx ▸ .here
  | stay hplace hname _ ih =>
      obtain ⟨entries', hplace'⟩ := hdirectory hplace
      exact .stay hplace' hname (ih hthere hx)
  | up hplace _ ih =>
      obtain ⟨entries', hplace'⟩ := hdirectory hplace
      exact .up hplace' (ih hthere hx)
  | @missing links place name rest entries hplace ho _ hrest =>
      obtain ⟨entries', hplace'⟩ := hdirectory hplace
      have hfile : goal = .file := hthere.resolve_right (by simp)
      have hnil : rest = [] := by
        have hslash := ho.notSlash
        simpa [hfile, hrest] using hslash
      subst hnil
      rw [at?_concat hplace'] at hx
      refine .down hplace' (hordinary ho) hx hlink ?_
      rw [← hx, ← at?_concat hplace']
      exact .here
  | link _ _ _ hentry => simp [hgoal] at hentry
  | follow hplace ho hchild _ _ ih =>
      obtain ⟨entries', hplace'⟩ := hdirectory hplace
      obtain ⟨y, hy, hkind⟩ := hgrows.keeps _ _ ((at?_concat hplace _).trans hchild)
      rw [at?_concat hplace'] at hy
      cases y with
      | link target' =>
          cases hkind
          exact .follow hplace' (hordinary ho) hy (by simp) (ih hthere hx)
      | _ => exact hkind.elim
  | @down links place name rest entries child location hplace ho hchild hnotLink _ ih =>
      obtain ⟨entries', hplace'⟩ := hdirectory hplace
      obtain ⟨y, hy, hkind⟩ := hgrows.keeps _ _ ((at?_concat hplace _).trans hchild)
      rw [at?_concat hplace'] at hy
      refine .down hplace' (hordinary ho) hy ?_ (ih hthere hx)
      rintro target rfl
      cases child with
      | link target' => exact hnotLink target' rfl
      | _ => exact hkind.elim

/-- A path leads somewhere exactly if it may be asked for and there is a walk along its names. -/
theorem lookUp_eq_ok_iff {fs : FileSystem} {goal : Goal} {path : Text} {location : Location} :
    fs.lookUp goal path = .ok location ↔
      ¬ path.contains '\x00' = true ∧ ¬ path.isEmpty = true ∧ ¬ maxPath < byteLength path ∧
        Walks fs goal maxLinks (if path.head? = some '/' then [] else fs.current)
          (Text.splitOnChar '/' path) location := by
  constructor
  · intro h
    unfold lookUp locate at h
    split at h
    · cases h
    · next hnull =>
      split at h
      · cases h
      · next hempty =>
        split at h
        · cases h
        · next hlong =>
          have hwalk : fs.walk goal maxLinks (if path.head? = some '/' then [] else fs.current)
              (Text.splitOnChar '/' path) = .ok location := by
            rcases hw : fs.walk goal maxLinks (if path.head? = some '/' then [] else fs.current)
              (Text.splitOnChar '/' path) with fault | found
            · simp only [hw] at h
              cases h
            · simp only [hw] at h
              cases h
              rfl
          exact ⟨hnull, hempty, hlong, walks_of_walk hwalk⟩
  · rintro ⟨hnull, hempty, hlong, hwalks⟩
    unfold lookUp locate
    rw [if_neg hnull, if_neg hempty, if_neg hlong]
    simp only [hwalks.walk_eq_ok]
    rfl

/-- **A path keeps leading to its place** while the file system grows. -/
theorem lookUp_grows {fs fs' : FileSystem} {goal : Goal} {path : Text} {location : Location}
    {x : Entry} (h : fs.lookUp goal path = .ok location) (hgrows : fs.Grows fs')
    (hgoal : goal ≠ .entry) (hthere : goal = .file ∨ location.entry.isSome)
    (hx : fs'.at? location.place = some x) (hlink : ∀ target, x ≠ .link target) :
    fs'.lookUp .target path = .ok ⟨location.place, some x⟩ := by
  obtain ⟨hnull, hempty, hlong, hwalks⟩ := lookUp_eq_ok_iff.mp h
  refine lookUp_eq_ok_iff.mpr ⟨hnull, hempty, hlong, ?_⟩
  rw [hgrows.current]
  exact hwalks.grows hgrows hgoal hthere hx hlink

/-- What a path leads to is what the file system holds at this place. -/
theorem at?_of_lookUp {fs : FileSystem} {goal : Goal} {path : Text} {location : Location}
    (h : fs.lookUp goal path = .ok location) : fs.at? location.place = location.entry :=
  (lookUp_eq_ok_iff.mp h).2.2.2.at?_place

/-- There is room for a file where a path leads to nothing. -/
theorem hasRoom_of_lookUp {fs : FileSystem} {goal : Goal} {path : Text} {location : Location}
    (h : fs.lookUp goal path = .ok location) (hnone : location.entry = none) :
    fs.root.HasRoom location.place :=
  (lookUp_eq_ok_iff.mp h).2.2.2.hasRoom
    (fun hnil => absurd hnil (Text.splitOnChar_ne_nil _ _)) hnone

end FileSystem

end MarkupCatalog
