import MarkupCatalog.Proofs.Charset.Utf8
import MarkupCatalog.Settings.Basic

/-!
# What settings are made of

Settings are made in one pass over the options, which ends at the first fault.  Each option is
looked at by a function of its own, and for each of these functions there is one statement here that
says when it succeeds, and with what (`takes_iff`, `textList_eq_ok_iff`, `rootPath_eq_ok_iff` and so
on).  `ofMapping_eq_ok_iff` puts them together: settings are made of options exactly if every part
of them is.
-/

namespace MarkupCatalog

variable {α β : Type}

/-- After a step that succeeds, it is the next one that counts. -/
theorem bind_of_eq_ok {x : Except Failure α} {a : α} (h : x = .ok a) (f : α → Except Failure β) :
    x >>= f = f a := by
  rw [h]
  rfl

/-- What succeeds in two steps has succeeded in each of them. -/
theorem exists_of_bind_eq_ok {x : Except Failure α} {f : α → Except Failure β} {b : β}
    (h : x >>= f = .ok b) : ∃ a, x = .ok a ∧ f a = .ok b := by
  cases x with
  | error e => cases h
  | ok a => exact ⟨a, rfl, h⟩

/-! ## Options -/

namespace Options

/-- The first entry for a key is the one that counts. -/
theorem value_cons (k key : Text) (v : OptionValue) (o : Options) :
    value ((k, v) :: o) key = if k = key then v else o.value key := by
  by_cases h : k = key <;> simp [value, h]

/-- An option that is set has the value it was set to. -/
@[simp] theorem value_set_self (o : Options) (key : Text) (v : OptionValue) :
    (o.set key v).value key = v := by
  induction o with
  | nil => simp [set, value_cons]
  | cons entry o ih =>
      obtain ⟨k, w⟩ := entry
      by_cases h : k = key <;> simp [set, h, value_cons, ih]

/-- To set an option changes no other one. -/
theorem value_set_of_ne {key other : Text} (h : other ≠ key) (o : Options) (v : OptionValue) :
    (o.set key v).value other = o.value other := by
  induction o with
  | nil => simp [set, value, h.symm]
  | cons entry o ih =>
      obtain ⟨k, w⟩ := entry
      by_cases hk : k = key
      · subst hk
        simp [set, value_cons, h.symm]
      · simp [set, hk, value_cons, ih]

/-- The value of an option is that of an entry, if there is one. -/
theorem value_eq_none_or_mem (o : Options) (key : Text) :
    o.value key = .none ∨ (key, o.value key) ∈ o := by
  induction o with
  | nil => exact .inl rfl
  | cons entry o ih =>
      obtain ⟨k, w⟩ := entry
      rw [value_cons]
      split
      · next h => exact .inr (h ▸ List.mem_cons_self)
      · exact ih.imp_right (List.mem_cons_of_mem _)

end Options

namespace OptionValue

/-- The value gives a path: it is one, or a text that is not blank. -/
def Gives (v : OptionValue) (p : Path) : Prop :=
  v = .path p ∨ ∃ t, v = .text t ∧ Text.isAllBlank t = false ∧ p = .ofText t

/-- Which values give a path. -/
theorem exists_gives_iff {v : OptionValue} :
    (∃ p, v.Gives p) ↔ (∃ p, v = .path p) ∨ ∃ t, v = .text t ∧ Text.isAllBlank t = false := by
  constructor
  · rintro ⟨p, hpath | ⟨t, htext, hblank, _⟩⟩
    · exact .inl ⟨p, hpath⟩
    · exact .inr ⟨t, htext, hblank⟩
  · rintro (⟨p, hpath⟩ | ⟨t, htext, hblank⟩)
    · exact ⟨p, .inl hpath⟩
    · exact ⟨.ofText t, .inr ⟨t, htext, hblank, rfl⟩⟩

/-- A list is one of texts exactly if each of its items is a text. -/
theorem mapM_text?_eq_some_iff {items : List OptionValue} {texts : List Text} :
    items.mapM text? = some texts ↔ items = texts.map .text := by
  induction items generalizing texts with
  | nil => cases texts <;> simp
  | cons item items ih =>
      cases texts with
      | nil => cases item <;> simp [text?, Option.bind_eq_some_iff]
      | cons t texts =>
          cases item with
          | text u =>
              simp only [List.mapM_cons, text?, Option.bind_eq_bind, Option.bind_some,
                Option.bind_eq_some_iff, Option.pure_def, Option.some.injEq, List.cons.injEq, ih,
                List.map_cons, text.injEq]
              constructor
              · rintro ⟨rest, hitems, hu, rfl⟩
                exact ⟨hu, hitems⟩
              · rintro ⟨hu, hitems⟩
                exact ⟨texts, hitems, hu, rfl⟩
          | _ => simp [text?]

end OptionValue

namespace Settings

variable {account : Account} {o : Options} {key : Text} {s : Settings}

/-! ## One option at a time -/

/-- The option, which must not be empty, comes out as this text. -/
def Takes (o : Options) (key : Text) (default : NonEmptyText) (t : Text) : Prop :=
  ∃ h, requiredText o key default = .ok ⟨t, h⟩

/-- An option that must not be empty is a text that is not, or its default if it is not given. -/
theorem takes_iff {default : NonEmptyText} {t : Text} :
    Takes o key default t ↔
      t ≠ [] ∧ (o.value key = .none ∧ t = default.val ∨ o.value key = .text t) := by
  unfold Takes requiredText
  cases o.value key with
  | none =>
      constructor
      · rintro ⟨h, hdefault⟩
        exact ⟨h, .inl ⟨rfl, (congrArg Subtype.val (Except.ok.inj hdefault)).symm⟩⟩
      · rintro ⟨h, ⟨_, rfl⟩ | hno⟩
        · exact ⟨h, rfl⟩
        · cases hno
  | text u =>
      by_cases hu : u = []
      · simp [hu, problem]
      · simp [hu]
  | _ => simp [problem]

/-- A default is never refused. -/
theorem takes_default {default : NonEmptyText} (h : o.value key = .none) :
    Takes o key default default.val :=
  takes_iff.mpr ⟨default.property, .inl ⟨h, rfl⟩⟩

/-- A list of texts may be left out, may be a single text, or is a list of nothing but texts. -/
theorem textList_eq_ok_iff {texts : List Text} :
    textList o key = .ok texts ↔
      o.value key = .none ∧ texts = [] ∨ (∃ t, o.value key = .text t ∧ texts = [t]) ∨
        o.value key = .ofTexts texts := by
  unfold textList OptionValue.ofTexts
  cases o.value key with
  | none => simp [eq_comm]
  | text t => simp [eq_comm]
  | sequence items =>
      cases htexts : items.mapM OptionValue.text? with
      | none => simp [problem, ← OptionValue.mapM_text?_eq_some_iff, htexts]
      | some found => simp [← OptionValue.mapM_text?_eq_some_iff, htexts]
  | _ => simp [problem]

/-- The root has to be given, and has to give a path. -/
theorem rootPath_eq_ok_iff {p : Path} :
    rootPath o = .ok p ↔ (o.value "root_directory").Gives p := by
  unfold rootPath OptionValue.Gives
  cases o.value "root_directory" with
  | text t =>
      cases hblank : Text.isAllBlank t with
      | true => simp [problem, hblank]
      | false => simp [hblank, eq_comm (b := p)]
  | _ => simp [problem]

/-- There is an output exactly if its option gives a path. -/
theorem outputPath_eq_some_iff {p : Path} :
    outputPath o = .ok (some p) ↔ (o.value "output_path").Gives p := by
  unfold outputPath OptionValue.Gives
  cases o.value "output_path" with
  | text t =>
      cases hblank : Text.isAllBlank t with
      | true => simp [hblank]
      | false => simp [hblank, eq_comm (b := p)]
  | _ => simp [problem]

/-- The template is a text, and without one the placeholder alone. -/
theorem templateText_eq_ok_iff {placeholder t : Text} :
    templateText o placeholder = .ok t ↔
      o.value "template" = .none ∧ t = placeholder ∨ o.value "template" = .text t := by
  unfold templateText
  cases o.value "template" with
  | none => simp [eq_comm]
  | _ => simp [problem]

/-- The callback is what is given as such, if anything is given at all. -/
theorem completion_eq_ok_iff {callback : Option Callback} :
    completion o = .ok callback ↔
      o.value "on_complete" = (callback.map OptionValue.callback).getD .none := by
  unfold completion
  cases o.value "on_complete" <;> cases callback <;> simp [problem]

/-- The name of a charset passes if it is known and holds no null character. -/
theorem checkCharset_eq_ok_iff {name : Text} :
    checkCharset name = .ok () ↔ '\x00' ∉ name ∧ (Charset.conversion? name).isSome = true := by
  unfold checkCharset
  by_cases hnull : '\x00' ∈ name
  · simp [hnull]
  · cases hknown : Charset.conversion? name <;> simp [hnull, problem]

/-- The default charset is known. -/
theorem checkCharset_defaultCharset : checkCharset defaultCharset = .ok () := by
  have hknown : Charset.conversion? defaultCharset = some (.text .utf8) := Charset.conversion?_utf8
  exact checkCharset_eq_ok_iff.mpr ⟨by decide, by rw [hknown]; rfl⟩

/-- A mode is found under its own name and under no other. -/
theorem ofName?_eq_some_iff {name : Text} {mode : SerializeMode} :
    SerializeMode.ofName? name = some mode ↔ name = mode.name := by
  constructor
  · intro h
    simpa [eq_comm] using List.find?_some h
  · rintro rfl
    cases mode <;> decide

/-! ## All options -/

/-- The parts of the settings are what the options say. -/
structure Made (account : Account) (o : Options) (s : Settings) : Prop where
  root : ∃ given, (o.value "root_directory").Gives given ∧ account.expand given = .ok s.root
  keyword : Takes o "keyword" ⟨defaultKeyword, by decide⟩ s.dialect.keyword
  placeholder : Takes o "block_placeholder" ⟨defaultPlaceholder, by decide⟩ s.template.placeholder
  template : templateText o s.template.placeholder = .ok s.template.text
  output : ∃ given, outputPath o = .ok given ∧ given.mapM account.expand = .ok s.output
  onComplete : completion o = .ok s.onComplete
  mode : Takes o "serialize" ⟨SerializeMode.record.name, by decide⟩ s.mode.name
  extensions : ∃ given, textList o "extensions" = .ok given ∧
    s.extensions = (if given.isEmpty then defaultExtensions else given).map dotted
  excludes : textList o "exclude_paths" = .ok s.excludes
  charset : Takes o "encoding" ⟨defaultCharset, by decide⟩ s.charset
  known : checkCharset s.charset = .ok ()
  opening : Takes o "comment_open" ⟨defaultOpening, by decide⟩ s.dialect.opening
  closing : Takes o "comment_close" ⟨defaultClosing, by decide⟩ s.dialect.closing

/-- **Settings are made of options** exactly if every part of them is. -/
theorem ofMapping_eq_ok_iff : ofMapping account o = .ok s ↔ Made account o s := by
  constructor
  · intro h
    obtain ⟨root, hroot, h⟩ := exists_of_bind_eq_ok h
    obtain ⟨keyword, hkeyword, h⟩ := exists_of_bind_eq_ok h
    obtain ⟨placeholder, hplaceholder, h⟩ := exists_of_bind_eq_ok h
    obtain ⟨template, htemplate, h⟩ := exists_of_bind_eq_ok h
    obtain ⟨given, hgiven, h⟩ := exists_of_bind_eq_ok h
    obtain ⟨onComplete, honComplete, h⟩ := exists_of_bind_eq_ok h
    obtain ⟨modeName, hmodeName, h⟩ := exists_of_bind_eq_ok h
    cases hmode : SerializeMode.ofName? modeName.val with
    | none =>
        rw [hmode] at h
        cases h
    | some mode =>
        rw [hmode] at h
        obtain ⟨extensions, hextensions, h⟩ := exists_of_bind_eq_ok h
        obtain ⟨excludes, hexcludes, h⟩ := exists_of_bind_eq_ok h
        obtain ⟨charset, hcharset, h⟩ := exists_of_bind_eq_ok h
        obtain ⟨_, hknown, h⟩ := exists_of_bind_eq_ok h
        obtain ⟨expanded, hexpanded, h⟩ := exists_of_bind_eq_ok h
        obtain ⟨output, houtput, h⟩ := exists_of_bind_eq_ok h
        obtain ⟨opening, hopening, h⟩ := exists_of_bind_eq_ok h
        obtain ⟨closing, hclosing, h⟩ := exists_of_bind_eq_ok h
        cases h
        have hname := ofName?_eq_some_iff.mp hmode
        exact {
          root := ⟨root, rootPath_eq_ok_iff.mp hroot, hexpanded⟩
          keyword := ⟨keyword.property, hkeyword⟩
          placeholder := ⟨placeholder.property, hplaceholder⟩
          template := htemplate
          output := ⟨given, hgiven, houtput⟩
          onComplete := honComplete
          mode := hname ▸ ⟨modeName.property, hmodeName⟩
          extensions := ⟨extensions, hextensions, rfl⟩
          excludes := hexcludes
          charset := ⟨charset.property, hcharset⟩
          known := hknown
          opening := ⟨opening.property, hopening⟩
          closing := ⟨closing.property, hclosing⟩ }
  · intro h
    obtain ⟨root, hroot, hexpanded⟩ := h.root
    obtain ⟨_, hkeyword⟩ := h.keyword
    obtain ⟨_, hplaceholder⟩ := h.placeholder
    obtain ⟨given, hgiven, houtput⟩ := h.output
    obtain ⟨_, hmode⟩ := h.mode
    obtain ⟨extensions, hextensions, hdotted⟩ := h.extensions
    obtain ⟨_, hcharset⟩ := h.charset
    obtain ⟨_, hopening⟩ := h.opening
    obtain ⟨_, hclosing⟩ := h.closing
    rw [ofMapping, bind_of_eq_ok (rootPath_eq_ok_iff.mpr hroot), bind_of_eq_ok hkeyword,
      bind_of_eq_ok hplaceholder, bind_of_eq_ok h.template, bind_of_eq_ok hgiven,
      bind_of_eq_ok h.onComplete, bind_of_eq_ok hmode]
    simp only [ofName?_eq_some_iff.mpr rfl]
    rw [bind_of_eq_ok hextensions, bind_of_eq_ok h.excludes, bind_of_eq_ok hcharset,
      bind_of_eq_ok h.known, bind_of_eq_ok hexpanded, bind_of_eq_ok houtput,
      bind_of_eq_ok hopening, bind_of_eq_ok hclosing, ← hdotted]
    rfl

end Settings

end MarkupCatalog
