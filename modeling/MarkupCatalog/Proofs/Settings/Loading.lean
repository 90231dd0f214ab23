import MarkupCatalog.Proofs.Settings.FixedPoint
import MarkupCatalog.Settings.File

/-!
# Options that a file gives

A file may hold any values, and a run takes options of certain kinds only.  What the one side hands
over is what the other side expects: `wellTyped_of_load`.  So there is little left for which options
from a file can be rejected, and `Rejection` lists it.  No value is of a wrong kind, and no tilde
stands in front of a path: a path in the file is seen from the directory of the file, and this is
an absolute path since links in it have been followed (`isAbsolute_of_locate`).

All of this holds whatever loader reads the YAML.
-/

namespace MarkupCatalog

variable {α β : Type}

/-- Each of the results is the result for one of the arguments. -/
theorem exists_mem_of_mapM_eq_ok {f : α → Except Failure β} {xs : List α} {ys : List β} {y : β}
    (h : xs.mapM f = .ok ys) (hy : y ∈ ys) : ∃ x ∈ xs, f x = .ok y := by
  induction xs generalizing ys with
  | nil =>
      cases h
      cases hy
  | cons x xs ih =>
      rw [List.mapM_cons] at h
      obtain ⟨z, hz, hrest⟩ := exists_of_bind_eq_ok h
      obtain ⟨zs, hzs, hys⟩ := exists_of_bind_eq_ok hrest
      cases hys
      rcases List.mem_cons.mp hy with rfl | hmem
      · exact ⟨x, List.mem_cons_self, hz⟩
      · obtain ⟨x', hx', hfx⟩ := ih hzs hmem
        exact ⟨x', List.mem_cons_of_mem x hx', hfx⟩

/-- What fails in two steps fails in one of them. -/
theorem error_of_bind_eq_error {x : Except Failure α} {f : α → Except Failure β} {failure : Failure}
    (h : x >>= f = .error failure) :
    x = .error failure ∨ ∃ a, x = .ok a ∧ f a = .error failure := by
  cases x with
  | error e =>
      cases h
      exact .inl rfl
  | ok a => exact .inr ⟨a, rfl, h⟩

/-- No value gives no path. -/
theorem OptionValue.not_gives_none (p : Path) : ¬ OptionValue.none.Gives p := by
  rintro (hpath | ⟨t, htext, _⟩)
  · cases hpath
  · cases htext

/-- To set an option adds no other entry than its own. -/
theorem Options.mem_set {o : Options} {key : Text} {v : OptionValue} {entry : Text × OptionValue}
    (h : entry ∈ o.set key v) : entry ∈ o ∨ entry = (key, v) := by
  induction o with
  | nil => exact .inr (List.mem_singleton.mp h)
  | cons first o ih =>
      obtain ⟨k, w⟩ := first
      rw [set] at h
      split at h
      · next hk =>
        rcases List.mem_cons.mp h with rfl | hrest
        · exact .inr (hk ▸ rfl)
        · exact .inl (List.mem_cons_of_mem _ hrest)
      · rcases List.mem_cons.mp h with rfl | hrest
        · exact .inl List.mem_cons_self
        · exact (ih hrest).imp_left (List.mem_cons_of_mem _)

/-! ## Absolute paths -/

/-- Whatever is joined to an absolute path, the path stays absolute. -/
theorem Path.isAbsolute_join {p : Path} (h : p.isAbsolute = true) (q : Path) :
    (p.join q).isAbsolute = true := by
  rw [join]
  split
  · assumption
  · exact h

namespace Settings.File

variable {yaml : Yaml.Loader} {fs : FileSystem} {account : Account} {file base : Path}
  {entries : Entries} {o : Options} {key : Text} {v : OptionValue} {f : Failure}

/-- The file is known by its whole path. -/
theorem isAbsolute_of_locate {path : Path} (h : locate fs account path = .ok file) :
    file.isAbsolute = true := by
  have hresolve {p : Path} (h : fs.resolve p = .ok file) : file.isAbsolute = true := by
    rw [FileSystem.resolve] at h
    split at h
    · cases h
    · dsimp only at h
      split at h
      · cases h
      · cases h
        rfl
  obtain ⟨expanded, _, h⟩ := exists_of_bind_eq_ok h
  obtain ⟨isDirectory, _, h⟩ := exists_of_bind_eq_ok h
  cases isDirectory with
  | true => exact hresolve h
  | false => exact hresolve h

/-! ## Kinds of options -/

/-- The value is of the kind that is expected of the option. -/
inductive HasKind : Text → OptionValue → Prop
  | text {key t} : key ∈ textKeys → HasKind key (.text t)
  | path {key p} : key ∈ pathKeys → p.isAbsolute = true → HasKind key (.path p)
  | texts {key ts} : key ∈ listKeys → HasKind key (.ofTexts ts)

/-- All values are of the kinds that are expected, and there are no other options. -/
def WellTyped (o : Options) : Prop := ∀ entry ∈ o, HasKind entry.1 entry.2

/-- Under a key for texts there is a text. -/
theorem HasKind.exists_text (h : HasKind key v) (hkey : key ∈ textKeys) : ∃ t, v = .text t := by
  have hapart : ∀ key ∈ textKeys, key ∉ pathKeys ∧ key ∉ listKeys := by decide
  cases h with
  | @text t _ => exact ⟨t, rfl⟩
  | path hpath _ => exact absurd hpath (hapart _ hkey).1
  | texts hlist => exact absurd hlist (hapart _ hkey).2

/-- Under a key for paths there is an absolute path. -/
theorem HasKind.exists_path (h : HasKind key v) (hkey : key ∈ pathKeys) :
    ∃ p, v = .path p ∧ p.isAbsolute = true := by
  have hapart : ∀ key ∈ pathKeys, key ∉ textKeys ∧ key ∉ listKeys := by decide
  cases h with
  | text htext => exact absurd htext (hapart _ hkey).1
  | @path p _ habsolute => exact ⟨p, rfl, habsolute⟩
  | texts hlist => exact absurd hlist (hapart _ hkey).2

/-- Under a key for lists there is a list of texts. -/
theorem HasKind.exists_texts (h : HasKind key v) (hkey : key ∈ listKeys) :
    ∃ ts, v = .ofTexts ts := by
  have hapart : ∀ key ∈ listKeys, key ∉ textKeys ∧ key ∉ pathKeys := by decide
  cases h with
  | text htext => exact absurd htext (hapart _ hkey).1
  | path hpath _ => exact absurd hpath (hapart _ hkey).2
  | @texts ts _ => exact ⟨ts, rfl⟩

/-- Nothing stands under a key that is not known. -/
theorem HasKind.mem_keys (h : HasKind key v) : key ∈ textKeys ++ pathKeys ++ listKeys := by
  cases h with
  | text h => exact List.mem_append_left _ (List.mem_append_left _ h)
  | path h _ => exact List.mem_append_left _ (List.mem_append_right _ h)
  | texts h => exact List.mem_append_right _ h

section

variable (h : WellTyped o)

include h

/-- An option is not there, or its value is of the kind that is expected. -/
theorem WellTyped.value (key : Text) : o.value key = .none ∨ HasKind key (o.value key) :=
  (o.value_eq_none_or_mem key).imp_right fun hmem => h _ hmem

theorem WellTyped.text (hkey : key ∈ textKeys) :
    o.value key = .none ∨ ∃ t, o.value key = .text t :=
  (h.value key).imp_right fun hkind => hkind.exists_text hkey

theorem WellTyped.path (hkey : key ∈ pathKeys) :
    o.value key = .none ∨ ∃ p, o.value key = .path p ∧ p.isAbsolute = true :=
  (h.value key).imp_right fun hkind => hkind.exists_path hkey

theorem WellTyped.texts (hkey : key ∈ listKeys) :
    o.value key = .none ∨ ∃ ts, o.value key = .ofTexts ts :=
  (h.value key).imp_right fun hkind => hkind.exists_texts hkey

theorem WellTyped.absent (hkey : key ∉ textKeys ++ pathKeys ++ listKeys) : o.value key = .none :=
  (h.value key).resolve_right fun hkind => hkey hkind.mem_keys

/-- A text may be set under a key for texts. -/
theorem WellTyped.set {t : Text} (hkey : key ∈ textKeys) : WellTyped (o.set key (.text t)) := by
  intro entry hentry
  rcases Options.mem_set hentry with hmem | rfl
  · exact h entry hmem
  · exact .text hkey

end

/-! ## What a file hands over -/

/-- The only entry of an option is the one for its key. -/
theorem eq_of_mem_optionAt {value : Except Failure (Option OptionValue)}
    {entry : Text × OptionValue} (h : optionAt key value = .ok o) (hmem : entry ∈ o) :
    entry.1 = key ∧ value = .ok (some entry.2) := by
  obtain ⟨found, hvalue, ho⟩ := exists_of_bind_eq_ok h
  cases ho
  cases found with
  | none => cases hmem
  | some v =>
      cases List.mem_singleton.mp hmem
      exact ⟨rfl, hvalue⟩

/-- The entries of several options are for their keys and have their values. -/
theorem value_of_mem_flatten {keys : List Text} {value : Text → Except Failure (Option OptionValue)}
    {os : List Options} {entry : Text × OptionValue}
    (h : keys.mapM (fun key => optionAt key (value key)) = .ok os) (hmem : entry ∈ os.flatten) :
    entry.1 ∈ keys ∧ value entry.1 = .ok (some entry.2) := by
  obtain ⟨o, ho, hentry⟩ := List.mem_flatten.mp hmem
  obtain ⟨key, hkey, hresult⟩ := exists_mem_of_mapM_eq_ok h ho
  obtain ⟨rfl, hvalue⟩ := eq_of_mem_optionAt hresult hentry
  exact ⟨hkey, hvalue⟩

/-- What is there is what a function has made of something. -/
theorem exists_of_map_eq_some {x : Except Failure (Option α)} {g : α → OptionValue}
    (h : x.map (·.map g) = .ok (some v)) : ∃ a, v = g a := by
  rcases x with f | _ | a
  · cases h
  · cases h
  · exact ⟨a, (Option.some.inj (Except.ok.inj h)).symm⟩

/-- **The entries of a file** become options of the kinds that are expected. -/
theorem wellTyped_of_options (hbase : base.isAbsolute = true)
    (h : options base entries = .ok o) : WellTyped o := by
  obtain ⟨texts, htexts, h⟩ := exists_of_bind_eq_ok h
  obtain ⟨paths, hpaths, h⟩ := exists_of_bind_eq_ok h
  obtain ⟨lists, hlists, h⟩ := exists_of_bind_eq_ok h
  cases h
  rintro ⟨key, v⟩ hmem
  rw [List.mem_append, List.mem_append] at hmem
  rcases hmem with (htext | hpath) | hlist
  · obtain ⟨hkey, hvalue⟩ := value_of_mem_flatten htexts htext
    obtain ⟨t, rfl⟩ := exists_of_map_eq_some hvalue
    exact .text hkey
  · obtain ⟨hkey, hvalue⟩ := value_of_mem_flatten hpaths hpath
    obtain ⟨t, rfl⟩ := exists_of_map_eq_some hvalue
    exact .path hkey (Path.isAbsolute_join hbase _)
  · obtain ⟨hkey, hvalue⟩ := value_of_mem_flatten hlists hlist
    rcases hfound : Yaml.Value.lookup? entries key with _ | value
    · cases hfound ▸ hvalue
    · rw [hfound] at hvalue
      rcases htexts : textList value with f | ts <;> rw [Option.mapM_some, htexts] at hvalue
      · cases hvalue
      · cases hvalue
        exact .texts hkey

/-- Whatever value a file holds, the options are of the kinds that are expected. -/
theorem wellTyped_of_ofValue {value : Yaml.Value} (hfile : file.isAbsolute = true)
    (h : ofValue fs file value = .ok o) : WellTyped o := by
  cases value with
  | mapping entries =>
      obtain ⟨o', ho', h⟩ := exists_of_bind_eq_ok h
      obtain ⟨name, _, h⟩ := exists_of_bind_eq_ok h
      have hbase : file.parent.isAbsolute = true := hfile
      have htyped : WellTyped o' := wellTyped_of_options hbase ho'
      cases name with
      | none =>
          cases h
          exact htyped
      | some t =>
          obtain ⟨template, _, h⟩ := exists_of_bind_eq_ok h
          cases h
          exact htyped.set (by decide)
  | _ => cases h

/-- **A file hands over options of the kinds that are expected.** -/
theorem wellTyped_of_load {path : Path} (h : load yaml fs account path = .ok o) : WellTyped o := by
  obtain ⟨file, hfile, h⟩ := exists_of_bind_eq_ok h
  obtain ⟨there, _, h⟩ := exists_of_bind_eq_ok h
  cases there with
  | false =>
      cases h
      exact nofun
  | true =>
      obtain ⟨value, _, h⟩ := exists_of_bind_eq_ok h
      exact wellTyped_of_ofValue (isAbsolute_of_locate hfile) h

end Settings.File

/-! ## What is left to be rejected -/

namespace Settings

open File

variable {account : Account} {o : Options} {key : Text} {f : Failure}

/-- The keys of the options that are texts and must not be empty. -/
def requiredKeys : List Text :=
  ["keyword", "block_placeholder", "serialize", "encoding", "comment_open", "comment_close"]

/-- A reason to reject options that are of the kinds that are expected. -/
inductive Rejection (o : Options) : Failure → Prop
  | noRoot : o.value "root_directory" = .none → Rejection o (.config .rootMissing)
  | emptyText {k : Text} : k ∈ requiredKeys → o.value k = .text [] →
      Rejection o (.config (.notNonEmptyText k))
  | unknownMode {name : Text} : o.value "serialize" = .text name → name ≠ [] →
      (∀ mode : SerializeMode, name ≠ mode.name) → Rejection o (.config (.unknownMode name))
  | unknownCharset {name : Text} : o.value "encoding" = .text name → name ≠ [] →
      Charset.conversion? name = none → Rejection o (.config (.unknownCharset name))
  | nullInCharset {name : Text} : o.value "encoding" = .text name → '\x00' ∈ name →
      Rejection o .nullInName

section

variable (htyped : WellTyped o)

include htyped

/-- The root is refused only if there is none. -/
theorem rejection_of_rootPath (h : rootPath o = .error f) : Rejection o f := by
  have hkey : String.toList "root_directory" ∈ pathKeys := by decide
  rcases htyped.path hkey with hnone | ⟨p, hp, _⟩
  · rw [rootPath, hnone] at h
    cases h
    exact .noRoot hnone
  · rw [rootPath, hp] at h
    cases h

/-- A text that must not be empty is refused only if it is. -/
theorem rejection_of_requiredText {default : NonEmptyText} (hkey : key ∈ requiredKeys)
    (h : requiredText o key default = .error f) : Rejection o f := by
  have htexts : requiredKeys ⊆ textKeys := by decide
  rcases htyped.text (htexts hkey) with hnone | ⟨t, ht⟩
  · rw [requiredText, hnone] at h
    cases h
  · rw [requiredText, ht] at h
    dsimp only at h
    split at h
    · cases h
    · next hempty =>
      cases h
      exact .emptyText hkey (by rw [ht, Decidable.not_not.mp hempty])

/-- A template from a file is never refused. -/
theorem templateText_ne_error {placeholder : Text} : templateText o placeholder ≠ .error f := by
  intro h
  have hkey : String.toList "template" ∈ textKeys := by decide
  rcases htyped.text hkey with hnone | ⟨t, ht⟩
  · rw [templateText, hnone] at h
    cases h
  · rw [templateText, ht] at h
    cases h

/-- An output from a file is never refused. -/
theorem outputPath_ne_error : outputPath o ≠ .error f := by
  intro h
  have hkey : String.toList "output_path" ∈ pathKeys := by decide
  rcases htyped.path hkey with hnone | ⟨p, hp, _⟩
  · rw [outputPath, hnone] at h
    cases h
  · rw [outputPath, hp] at h
    cases h

/-- There is no callback in a file, so none is refused. -/
theorem completion_ne_error : completion o ≠ .error f := by
  intro h
  rw [completion, htyped.absent (by decide)] at h
  cases h

/-- A list from a file is never refused. -/
theorem textList_ne_error (hkey : key ∈ listKeys) : textList o key ≠ .error f := by
  intro h
  rcases htyped.texts hkey with hnone | ⟨ts, hts⟩
  · rw [textList, hnone] at h
    cases h
  · rw [textList_eq_ok_iff.mpr (.inr (.inr hts))] at h
    cases h

/-- A path from a file has no tilde that stands for a home directory. -/
theorem isAbsolute_of_gives {p : Path} (hkey : key ∈ pathKeys) (h : (o.value key).Gives p) :
    p.isAbsolute = true := by
  rcases htyped.path hkey with hnone | ⟨q, hq, habsolute⟩
  · exact absurd (hnone ▸ h) (OptionValue.not_gives_none p)
  · rw [hq] at h
    rcases h with hpath | ⟨t, htext, _⟩
    · cases hpath
      exact habsolute
    · cases htext

end

/-- A mode that is unknown has been given. -/
theorem rejection_of_ofName?_eq_none {name : NonEmptyText}
    (hname : requiredText o "serialize" ⟨SerializeMode.record.name, by decide⟩ = .ok name)
    (h : SerializeMode.ofName? name.val = none) :
    Rejection o (.config (.unknownMode name.val)) := by
  have hother (mode : SerializeMode) : name.val ≠ mode.name := by
    intro heq
    rw [ofName?_eq_some_iff.mpr heq] at h
    cases h
  obtain ⟨_, hdefault⟩ | hgiven := (takes_iff.mp ⟨name.property, hname⟩).2
  · exact absurd hdefault (hother .record)
  · exact .unknownMode hgiven name.property hother

/-- A charset that is not known has been given. -/
theorem rejection_of_checkCharset {name : NonEmptyText}
    (hname : requiredText o "encoding" ⟨defaultCharset, by decide⟩ = .ok name)
    (h : checkCharset name.val = .error f) : Rejection o f := by
  obtain ⟨_, hdefault⟩ | hgiven := (takes_iff.mp ⟨name.property, hname⟩).2
  · rw [hdefault, checkCharset_defaultCharset] at h
    cases h
  rw [checkCharset] at h
  split at h
  · next hnull =>
    cases h
    exact .nullInCharset hgiven (by simpa using hnull)
  · split at h
    · cases h
    · next hunknown =>
      cases h
      exact .unknownCharset hgiven name.property (by simpa using hunknown)

/-- **Options of the kinds that are expected** are rejected for one of the reasons that are left. -/
theorem rejection_of_ofMapping (htyped : WellTyped o) (h : ofMapping account o = .error f) :
    Rejection o f := by
  rcases error_of_bind_eq_error h with hroot | ⟨root, hroot, h⟩
  · exact rejection_of_rootPath htyped hroot
  rcases error_of_bind_eq_error h with hkeyword | ⟨keyword, _, h⟩
  · exact rejection_of_requiredText htyped (by decide) hkeyword
  rcases error_of_bind_eq_error h with hplaceholder | ⟨placeholder, _, h⟩
  · exact rejection_of_requiredText htyped (by decide) hplaceholder
  rcases error_of_bind_eq_error h with htemplate | ⟨template, _, h⟩
  · exact absurd htemplate (templateText_ne_error htyped)
  rcases error_of_bind_eq_error h with houtput | ⟨output, houtput, h⟩
  · exact absurd houtput (outputPath_ne_error htyped)
  rcases error_of_bind_eq_error h with hcompletion | ⟨callback, _, h⟩
  · exact absurd hcompletion (completion_ne_error htyped)
  rcases error_of_bind_eq_error h with hname | ⟨modeName, hname, h⟩
  · exact rejection_of_requiredText htyped (by decide) hname
  cases hmode : SerializeMode.ofName? modeName.val with
  | none =>
      rw [hmode] at h
      cases h
      exact rejection_of_ofName?_eq_none hname hmode
  | some mode =>
      rw [hmode] at h
      rcases error_of_bind_eq_error h with hextensions | ⟨extensions, _, h⟩
      · exact absurd hextensions (textList_ne_error htyped (by decide))
      rcases error_of_bind_eq_error h with hexcludes | ⟨excludes, _, h⟩
      · exact absurd hexcludes (textList_ne_error htyped (by decide))
      rcases error_of_bind_eq_error h with hcharset | ⟨charset, hcharset, h⟩
      · exact rejection_of_requiredText htyped (by decide) hcharset
      rcases error_of_bind_eq_error h with hknown | ⟨_, _, h⟩
      · exact rejection_of_checkCharset hcharset hknown
      have hroot' := isAbsolute_of_gives htyped (by decide) (rootPath_eq_ok_iff.mp hroot)
      rw [bind_of_eq_ok (account.expand_of_isAbsolute hroot')] at h
      have houtput' : output.mapM account.expand = .ok output := by
        cases output with
        | none => rfl
        | some p =>
            have habsolute :=
              isAbsolute_of_gives htyped (by decide) (outputPath_eq_some_iff.mp houtput)
            rw [Option.mapM_some, account.expand_of_isAbsolute habsolute]
            rfl
      rw [bind_of_eq_ok houtput'] at h
      rcases error_of_bind_eq_error h with hopening | ⟨_, _, h⟩
      · exact rejection_of_requiredText htyped (by decide) hopening
      rcases error_of_bind_eq_error h with hclosing | ⟨_, _, h⟩
      · exact rejection_of_requiredText htyped (by decide) hclosing
      cases h

/-- A text that is given comes out as it is. -/
theorem Takes.eq_of_text {default : NonEmptyText} {t u : Text} (h : Takes o key default t)
    (hu : o.value key = .text u) : u = t := by
  obtain ⟨_, ⟨hnone, _⟩ | ht⟩ := takes_iff.mp h
  · rw [hnone] at hu
    cases hu
  · rw [hu] at ht
    exact OptionValue.text.inj ht

theorem Made.takes {s : Settings} (h : Made account o s) (hkey : key ∈ requiredKeys) :
    ∃ default t, Takes o key default t := by
  simp only [requiredKeys, List.mem_cons, List.not_mem_nil, or_false] at hkey
  rcases hkey with rfl | rfl | rfl | rfl | rfl | rfl
  · exact ⟨_, _, h.keyword⟩
  · exact ⟨_, _, h.placeholder⟩
  · exact ⟨_, _, h.mode⟩
  · exact ⟨_, _, h.charset⟩
  · exact ⟨_, _, h.opening⟩
  · exact ⟨_, _, h.closing⟩

/-- Options that make settings give no reason to reject them. -/
theorem Made.not_rejection {s : Settings} (h : Made account o s) : ¬ Rejection o f := by
  obtain ⟨hnull, hknown⟩ := checkCharset_eq_ok_iff.mp h.known
  rintro (hnone | ⟨hkey, hempty⟩ | ⟨hname, _, hother⟩ | ⟨hname, _, hunknown⟩ | ⟨hname, hmem⟩)
  · obtain ⟨given, hgiven, _⟩ := h.root
    exact OptionValue.not_gives_none given (hnone ▸ hgiven)
  · obtain ⟨default, t, htakes⟩ := h.takes hkey
    exact (takes_iff.mp htakes).1 (htakes.eq_of_text hempty).symm
  · exact hother s.mode (h.mode.eq_of_text hname)
  · rw [h.charset.eq_of_text hname] at hunknown
    rw [hunknown] at hknown
    cases hknown
  · exact hnull (h.charset.eq_of_text hname ▸ hmem)

/-- **What a file can do to settings.**  Whatever a file holds, whichever file a path leads to, and
however its YAML is read, the options that it hands over are texts, absolute paths and lists of
texts under the keys where these are expected.  So settings are made of them unless there is no
root, a text is empty that must not be, or the mode or the charset is not known; it does not matter
which home directories there are. -/
theorem wellTyped_and_rejection_of_file (yaml : Yaml.Loader) (fs : FileSystem) (account : Account)
    (h : (∃ path, load yaml fs account path = .ok o) ∨
      ∃ file value, file.isAbsolute = true ∧ ofValue fs file value = .ok o) :
    WellTyped o ∧ ∀ user : Account,
      (∀ f, ofOptions user (.mapping o) = .error f → Rejection o f) ∧
      ((∃ s, ofOptions user (.mapping o) = .ok s) ↔ ∀ f, ¬ Rejection o f) := by
  have htyped : WellTyped o := by
    rcases h with ⟨path, hload⟩ | ⟨file, value, hfile, hvalue⟩
    · exact wellTyped_of_load hload
    · exact wellTyped_of_ofValue hfile hvalue
  refine ⟨htyped, fun user => ⟨fun f => rejection_of_ofMapping htyped, ?_, fun hnone => ?_⟩⟩
  · rintro ⟨s, hs⟩ f
    exact (ofMapping_eq_ok_iff.mp hs).not_rejection
  · cases hs : ofOptions user (.mapping o) with
    | ok s => exact ⟨s, rfl⟩
    | error f => exact absurd (rejection_of_ofMapping htyped hs) (hnone f)

/-- What a file may hold: values of many types, some of them under keys where others are
expected. -/
def motleyFile : Yaml.Value :=
  .mapping [(.text "keyword", .int 7), (.text "template", .bool true),
    (.text "comment_open", .null), (.text "serialize", .text "rendered"),
    (.text "extensions", .sequence [.text "md", .null, .int 3]),
    (.text "exclude_paths", .mapping []), (.text "root_directory", .text "~ann/src"),
    (.text "output_path", .text []), (.int 1, .other)]

/-- The options that it hands over. -/
def motleyOptions : Options :=
  [("keyword", .text "7"), ("template", .text "True"), ("serialize", .text "rendered"),
   ("root_directory", .path (.absolute ["site", "~ann", "src"])),
   ("extensions", .ofTexts ["md", "3"]), ("exclude_paths", .ofTexts [])]

/-- No reason to reject them is left, even for who does not know the home directory of Ann. -/
theorem wellTyped_and_rejection_of_file_motley :
    ofValue ⟨.directory [], []⟩ (.absolute ["site", fileName]) motleyFile = .ok motleyOptions ∧
      WellTyped motleyOptions ∧
      ∀ user, ∃ s, ofOptions user (.mapping motleyOptions) = .ok s := by
  have hvalue :
      ofValue ⟨.directory [], []⟩ (.absolute ["site", fileName]) motleyFile = .ok motleyOptions :=
    rfl
  have hroot : motleyOptions.value "root_directory" =
      .path (.absolute ["site", "~ann", "src"]) := rfl
  have hmode : motleyOptions.value "serialize" = .text SerializeMode.rendered.name := rfl
  have hcharset : motleyOptions.value "encoding" = .none := rfl
  have hfilled : ∀ key ∈ requiredKeys, motleyOptions.value key ≠ .text [] := by
    simp only [requiredKeys, List.forall_mem_cons]
    refine ⟨?_, ?_, ?_, ?_, ?_, ?_, nofun⟩ <;> (intro hempty; cases hempty)
  obtain ⟨htyped, hrejection⟩ :=
    wellTyped_and_rejection_of_file Yaml.load _ ⟨"/", []⟩ (.inr ⟨_, _, rfl, hvalue⟩)
  refine ⟨hvalue, htyped, fun user => (hrejection user).2.mpr ?_⟩
  rintro f (hnone | ⟨hkey, hempty⟩ | ⟨hname, _, hother⟩ | ⟨hname, _, _⟩ | ⟨hname, _⟩)
  · cases hroot ▸ hnone
  · exact hfilled _ hkey hempty
  · cases hmode ▸ hname
    exact hother .rendered rfl
  · cases hcharset ▸ hname
  · cases hcharset ▸ hname

end Settings

end MarkupCatalog
