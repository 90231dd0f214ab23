import MarkupCatalog.Proofs.Settings.Basic

/-!
# Settings that are checked again

Whatever the options, the settings that they make are well formed, and nothing happens to these when
they are taken as options once more: `wellFormed_and_fixed`.  Three steps could change a value a
second time, and do not.

* An extension gets a point in front only if it has none.
* The usual extensions stand in for an empty list, and the list is not empty any more.
* A path that has got a home directory in place of its tilde starts at the root, so it has no tilde
  that could be replaced.
-/

namespace MarkupCatalog

namespace Account

/-- All home directories that are known start at the root. -/
def HomesAbsolute (account : Account) : Prop :=
  ∀ user home, account.homeOf user = .ok home → (Path.ofText home).isAbsolute = true

/-- An absolute path has no home directory to be filled in. -/
theorem expand_of_isAbsolute (account : Account) {p : Path} (h : p.isAbsolute = true) :
    account.expand p = .ok p := by
  rw [expand, h]

/-- **A tilde is replaced once.** -/
theorem expand_of_expand {account : Account} (hhomes : account.HomesAbsolute) {p q : Path}
    (h : account.expand p = .ok q) : account.expand q = .ok q := by
  have hexpand := h
  unfold expand at h
  split at h
  · next user names _ _ =>
    obtain ⟨home, hhome, hq⟩ := exists_of_bind_eq_ok h
    have habsolute := hhomes user home hhome
    rw [← Except.ok.inj hq]
    exact account.expand_of_isAbsolute habsolute
  · rwa [Except.ok.inj h] at hexpand

end Account

namespace Settings

variable {account : Account} {given : OptionsGiven} {o : Options} {s : Settings}

/-! ## Extensions -/

theorem point_prefix_dotted (extension : Text) : ['.'] <+: dotted extension := by
  unfold dotted
  split
  · exact ⟨_, rfl⟩
  · exact ⟨extension, rfl⟩

/-- An extension gets one point at most. -/
theorem dotted_eq_self {extension : Text} (h : ['.'] <+: extension) :
    dotted extension = extension := by
  obtain ⟨rest, rfl⟩ := h
  rfl

/-! ## Well-formed settings -/

/-- What the rest of a run relies on. -/
structure WellFormed (s : Settings) : Prop where
  keyword : s.dialect.keyword ≠ []
  placeholder : s.template.placeholder ≠ []
  opening : s.dialect.opening ≠ []
  closing : s.dialect.closing ≠ []
  mode : s.mode.name = String.toList "record" ∨ s.mode.name = String.toList "rendered"
  extensions : s.extensions ≠ []
  dotted : ∀ extension ∈ s.extensions, ['.'] <+: extension
  charset : s.charset ≠ []
  known : (Charset.conversion? s.charset).isSome = true

/-- Whatever settings are made of options, every field is as it should be. -/
theorem Made.wellFormed (h : Made account o s) : s.WellFormed where
  keyword := s.dialect.keyword_ne_nil
  placeholder := (takes_iff.mp h.placeholder).1
  opening := (takes_iff.mp h.opening).1
  closing := (takes_iff.mp h.closing).1
  mode := by
    cases s.mode with
    | record => exact .inl rfl
    | rendered => exact .inr rfl
  extensions := by
    obtain ⟨texts, _, hdotted⟩ := h.extensions
    rw [hdotted, ne_eq, List.map_eq_nil_iff]
    split
    · decide
    · next hne => exact fun hnil => hne (List.isEmpty_iff.mpr hnil)
  dotted := by
    obtain ⟨texts, _, hdotted⟩ := h.extensions
    rw [hdotted, List.forall_mem_map]
    exact fun extension _ => point_prefix_dotted extension
  charset := (takes_iff.mp h.charset).1
  known := (checkCharset_eq_ok_iff.mp h.known).2

/-- **A file is written** if the options give a path for it. -/
theorem Made.writesOutput_iff (h : Made account o s) :
    s.writesOutput = true ↔ ∃ p, (o.value "output_path").Gives p := by
  obtain ⟨path, hpath, houtput⟩ := h.output
  cases path with
  | none =>
      rw [writesOutput, ← Except.ok.inj houtput]
      refine iff_of_false Bool.false_ne_true fun ⟨p, hp⟩ => ?_
      cases hpath.symm.trans (outputPath_eq_some_iff.mpr hp)
  | some path =>
      obtain ⟨expanded, _, houtput⟩ := exists_of_bind_eq_ok houtput
      rw [writesOutput, ← Except.ok.inj houtput]
      exact iff_of_true rfl ⟨path, outputPath_eq_some_iff.mp hpath⟩

/-! ## Settings as options -/

/-- The output of settings that are given as options is their output. -/
theorem outputPath_toOptions (s : Settings) : outputPath s.toOptions = .ok s.output := by
  have hvalue : s.toOptions.value "output_path" = (s.output.map OptionValue.path).getD .none := rfl
  rw [outputPath, hvalue]
  cases s.output <;> rfl

/-- **Each part of the settings makes itself.** -/
theorem Made.toOptions (hhomes : account.HomesAbsolute) (h : Made account o s) :
    Made account s.toOptions s where
  root := by
    obtain ⟨path, _, hexpand⟩ := h.root
    exact ⟨s.root, .inl rfl, account.expand_of_expand hhomes hexpand⟩
  keyword := takes_iff.mpr ⟨h.wellFormed.keyword, .inr rfl⟩
  placeholder := takes_iff.mpr ⟨h.wellFormed.placeholder, .inr rfl⟩
  template := templateText_eq_ok_iff.mpr (.inr rfl)
  output := by
    obtain ⟨path, _, houtput⟩ := h.output
    refine ⟨s.output, outputPath_toOptions s, ?_⟩
    cases path with
    | none =>
        rw [← Except.ok.inj houtput]
        rfl
    | some path =>
        obtain ⟨expanded, hexpand, houtput⟩ := exists_of_bind_eq_ok houtput
        rw [← Except.ok.inj houtput]
        exact bind_of_eq_ok (account.expand_of_expand hhomes hexpand) _
  onComplete := completion_eq_ok_iff.mpr rfl
  mode := takes_iff.mpr ⟨by cases s.mode <;> decide, .inr rfl⟩
  extensions := by
    refine ⟨s.extensions, textList_eq_ok_iff.mpr (.inr (.inr rfl)), ?_⟩
    rw [if_neg (by simpa using h.wellFormed.extensions)]
    have hsame : s.extensions.map dotted = s.extensions.map id :=
      List.map_congr_left fun e he => dotted_eq_self (h.wellFormed.dotted e he)
    rw [hsame, List.map_id]
  excludes := textList_eq_ok_iff.mpr (.inr (.inr rfl))
  charset := takes_iff.mpr ⟨h.wellFormed.charset, .inr rfl⟩
  known := h.known
  opening := takes_iff.mpr ⟨h.wellFormed.opening, .inr rfl⟩
  closing := takes_iff.mpr ⟨h.wellFormed.closing, .inr rfl⟩

/-- **Settings are well formed and stay as they are.**  They have an output if the options give a
path for it, or a text that is not blank.  Taken as options, they make the same settings again. -/
theorem wellFormed_and_fixed (h : ofOptions account given = .ok s) :
    s.WellFormed ∧
    (s.writesOutput = true ↔ ∃ o, given = .mapping o ∧
      ((∃ p, o.value "output_path" = .path p) ∨
        ∃ t, o.value "output_path" = .text t ∧ Text.isAllBlank t = false)) ∧
    (account.HomesAbsolute → ofOptions account (.mapping s.toOptions) = .ok s) := by
  cases given with
  | nothing => cases h
  | other => cases h
  | mapping o =>
      have hmade := ofMapping_eq_ok_iff.mp h
      refine ⟨hmade.wellFormed, ?_, fun hhomes => ofMapping_eq_ok_iff.mpr (hmade.toOptions hhomes)⟩
      rw [hmade.writesOutput_iff, OptionValue.exists_gives_iff]
      exact ⟨fun hgives => ⟨o, rfl, hgives⟩, fun ⟨_, hsame, hgives⟩ => by cases hsame; exact hgives⟩

/-! ### A site of another user -/

/-- An account that knows two home directories. -/
def bobsAccount : Account := ⟨"/home/ann", [("bob", "/srv/bob")]⟩

theorem homesAbsolute_bobsAccount : bobsAccount.HomesAbsolute := by
  intro user home h
  unfold Account.homeOf at h
  split at h
  · rw [← Except.ok.inj h]
    rfl
  · split at h
    · cases h
    · split at h
      · next hfound =>
        cases List.mem_singleton.mp (List.mem_of_find?_eq_some hfound)
        rw [← Except.ok.inj h]
        rfl
      · cases h

/-- Options of many kinds, in which there is something to change. -/
def bobsOptions : Options :=
  [("root_directory", .text "~bob/site/"), ("output_path", .text "~/out.json"),
   ("extensions", .ofTexts ["html", ".md"]), ("exclude_paths", .text "drafts"),
   ("template", .text []), ("serialize", .text "rendered"), ("comment_close", .text "*/")]

/-- The settings that they make. -/
def bobsSettings : Settings where
  root := .absolute ["srv", "bob", "site"]
  dialect := ⟨defaultKeyword, defaultOpening, "*/", defaultKeyword_ne_nil⟩
  template := ⟨[], defaultPlaceholder⟩
  output := some (.absolute ["home", "ann", "out.json"])
  onComplete := none
  extensions := [".html", ".md"]
  mode := .rendered
  excludes := ["drafts"]
  charset := defaultCharset

theorem ofOptions_bobsOptions :
    ofOptions bobsAccount (.mapping bobsOptions) = .ok bobsSettings :=
  ofMapping_eq_ok_iff.mpr {
    root := ⟨.ofText "~bob/site/", .inr ⟨_, rfl, by decide, rfl⟩, rfl⟩
    keyword := takes_default rfl
    placeholder := takes_default rfl
    template := rfl
    output := ⟨some (.ofText "~/out.json"), rfl, rfl⟩
    onComplete := rfl
    mode := takes_iff.mpr ⟨by decide, .inr rfl⟩
    extensions := ⟨["html", ".md"], rfl, rfl⟩
    excludes := rfl
    charset := takes_default rfl
    known := checkCharset_defaultCharset
    opening := takes_default rfl
    closing := takes_iff.mpr ⟨by decide, .inr rfl⟩ }

/-- The points and the home directories that were put into these settings stay alone. -/
theorem wellFormed_and_fixed_bobsOptions :
    ofOptions bobsAccount (.mapping bobsOptions) = .ok bobsSettings ∧
      bobsSettings.WellFormed ∧ bobsSettings.writesOutput = true ∧
      ofOptions bobsAccount (.mapping bobsSettings.toOptions) = .ok bobsSettings := by
  obtain ⟨hwellFormed, houtput, hfixed⟩ := wellFormed_and_fixed ofOptions_bobsOptions
  refine ⟨ofOptions_bobsOptions, hwellFormed, houtput.mpr ?_, hfixed homesAbsolute_bobsAccount⟩
  exact ⟨bobsOptions, rfl, .inr ⟨"~/out.json", rfl, by decide⟩⟩

end Settings

end MarkupCatalog
