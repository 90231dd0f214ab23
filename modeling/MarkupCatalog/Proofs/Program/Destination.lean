import MarkupCatalog.Program
import MarkupCatalog.Proofs.Settings.Loading

/-!
# Where the records of a run go

Twice it is decided where the records go: the settings say whether a file is written, and at the
end the options themselves say whether a file or the records are spoken of.  `destination` compares
the two decisions.  They agree for every file of options and for all arguments but one kind: the
settings take a blank text for no output, while at the end only the empty text is none.

The option has one of two sources (`value_options_output`).  A file gives a path, which is never
blank; the arguments give a text.
-/

namespace MarkupCatalog

/-! ## Options from a file -/

namespace Settings.File

/-- No option, or one that is a path. -/
def IsPathOrNone (v : OptionValue) : Prop := v = .none ∨ ∃ p, v = .path p

/-- **A file gives a path for the output**, if it says anything of it. -/
theorem isPathOrNone_of_load {yaml : Yaml.Loader} {fs : FileSystem} {account : Account}
    {path : Path} {o : Options} (h : load yaml fs account path = .ok o) :
    IsPathOrNone (o.value "output_path") :=
  ((wellTyped_of_load h).path (by decide)).imp_right fun ⟨p, hp, _⟩ => ⟨p, hp⟩

end Settings.File

/-! ## The output in the settings -/

namespace Settings

/-- The settings have an output if the options give one. -/
theorem isSome_output_of_ofMapping {account : Account} {o : Options} {s : Settings}
    (h : ofMapping account o = .ok s) :
    ∃ given, outputPath o = .ok given ∧ s.output.isSome = given.isSome := by
  obtain ⟨given, hgiven, houtput⟩ := (ofMapping_eq_ok_iff.mp h).output
  refine ⟨given, hgiven, ?_⟩
  cases given with
  | none =>
      rw [← Except.ok.inj houtput]
  | some path =>
      obtain ⟨expanded, _, h⟩ := exists_of_bind_eq_ok houtput
      rw [← Except.ok.inj h]
      rfl

end Settings

/-! ## The output in the arguments -/

namespace Program

variable {yaml : Yaml.Loader} {fs : FileSystem} {account : Account} {a : Arguments} {o : Options}
  {s : Settings}

theorem value_override_of_ne {key other : Text} (h : other ≠ key) (v : Option OptionValue)
    (o : Options) : (override key v o).value other = o.value other := by
  cases v with
  | none => rfl
  | some v => exact Options.value_set_of_ne h o v

/-- A file gives a path for the output, whichever file it is. -/
theorem isPathOrNone_of_fileOptions (h : fileOptions yaml fs account a = .ok o) :
    Settings.File.IsPathOrNone (o.value "output_path") := by
  obtain ⟨config, _, h⟩ := exists_of_bind_eq_ok h
  cases config with
  | some file => exact Settings.File.isPathOrNone_of_load h
  | none =>
      obtain ⟨there, _, h⟩ := exists_of_bind_eq_ok h
      cases there with
      | true => exact Settings.File.isPathOrNone_of_load h
      | false =>
          cases h
          exact .inl rfl

/-- **Where the option for the output comes from.**  It is the text in the arguments, or else what
a file says. -/
theorem value_options_output (h : options yaml fs account a = .ok o) :
    (a.output = none ∧ Settings.File.IsPathOrNone (o.value "output_path")) ∨
      ∃ v, a.output = some v ∧ o.value "output_path" = optionValue v := by
  obtain ⟨file, hfile, h⟩ := exists_of_bind_eq_ok h
  obtain ⟨template, _, h⟩ := exists_of_bind_eq_ok h
  cases h
  -- of all that the arguments set, only one is this option
  simp (disch := decide) only [value_override_of_ne]
  cases houtput : a.output with
  | none =>
      refine .inl ⟨rfl, ?_⟩
      rw [Option.map_none, override, value_override_of_ne (by decide)]
      exact isPathOrNone_of_fileOptions hfile
  | some v => exact .inr ⟨v, rfl, Options.value_set_self _ _ _⟩

/-- Do the arguments give a text for the output that is blank, but not empty? -/
def blankOutput (a : Arguments) : Bool :=
  match a.output with
  | some (.word t) => !t.isEmpty && Text.isAllBlank t
  | _ => false

/-- Where the records of a run go, by the settings and by what is said at the end. -/
inductive Destination (a : Arguments) (o : Options) (s : Settings) : Prop
  | file {path given : Path} : s.output = some path → givenOutput? o = some given →
      blankOutput a = false → Destination a o s
  | console : s.output = none → givenOutput? o = none → blankOutput a = false → Destination a o s
  /-- The settings know of no file, but one is spoken of. -/
  | nowhere {given : Path} : s.output = none → givenOutput? o = some given →
      blankOutput a = true → Destination a o s

/-- **Both decisions agree** unless the arguments give a blank text. -/
theorem destination (hoptions : options yaml fs account a = .ok o)
    (hsettings : Settings.ofOptions account (.mapping o) = .ok s) : Destination a o s := by
  obtain ⟨given, hgiven, hsome⟩ := Settings.isSome_output_of_ofMapping hsettings
  have hfile {p : Path} (h : given = some p) : ∃ path, s.output = some path := by
    rw [h] at hsome
    exact Option.isSome_iff_exists.mp hsome
  have hnone (h : given = none) : s.output = none := by
    rw [h] at hsome
    exact Option.isNone_iff_eq_none.mp (Option.isSome_eq_false_iff.mp hsome)
  unfold Settings.outputPath at hgiven
  obtain ⟨houtput, hvalue | ⟨p, hvalue⟩⟩ | ⟨v, houtput, hvalue⟩ := value_options_output hoptions
  · rw [hvalue] at hgiven
    cases hgiven
    exact .console (hnone rfl) (by rw [givenOutput?, hvalue]) (by rw [blankOutput, houtput])
  · rw [hvalue] at hgiven
    cases hgiven
    obtain ⟨path, hpath⟩ := hfile rfl
    exact .file hpath (by rw [givenOutput?, hvalue]) (by rw [blankOutput, houtput])
  · rw [hvalue] at hgiven
    cases v with
    | dropped => cases hgiven
    | word t =>
        have hblank : blankOutput a = (!t.isEmpty && Text.isAllBlank t) := by
          rw [blankOutput, houtput]
        have hgiven : (if Text.isAllBlank t then none else some (Path.ofText t)) = given :=
          Except.ok.inj hgiven
        rw [optionValue] at hvalue
        cases t with
        | nil =>
            cases hgiven
            exact .console (hnone rfl) (by rw [givenOutput?, hvalue]) hblank
        | cons c rest =>
            have hspoken : givenOutput? o = some (.ofText (c :: rest)) := by
              rw [givenOutput?, hvalue]
            cases hall : Text.isAllBlank (c :: rest) with
            | true =>
                rw [hall] at hgiven hblank
                cases hgiven
                exact .nowhere (hnone rfl) hspoken hblank
            | false =>
                rw [hall] at hgiven hblank
                cases hgiven
                obtain ⟨path, hpath⟩ := hfile rfl
                exact .file hpath hspoken hblank

end Program

end MarkupCatalog
