import Mathlib.Data.List.TakeWhile
import MarkupCatalog.Json.Printing
import MarkupCatalog.Proofs.Json.Reading
import MarkupCatalog.Proofs.Text.Joining

/-!
# Reading what was printed

Whatever is printed as JSON is read as the same value: `read?_compact` for the form on one
line.  A literal is read as the text that it was made of, whichever characters it keeps
(`readText_literal`), and a number as itself (`scalar?_ofNat`).

The statements about values say what the reader does up to the character *behind* a value,
because a number has no end of its own.
-/

namespace MarkupCatalog

namespace Json

/-! ## Escapes by number -/

/-- One more hexadecimal digit. -/
theorem hexDigits_succ {width n : Nat} (hwidth : 0 < width) :
    Text.hexDigits (width + 1) n = Text.hexDigits width (n / 16) ++ [(n % 16).digitChar] := by
  by_cases hn : n < 16
  · have hdiv : n / 16 = 0 := Nat.div_eq_of_lt hn
    have hmod : n % 16 = n := Nat.mod_eq_of_lt hn
    obtain ⟨w, rfl⟩ : ∃ w, width = w + 1 := ⟨width - 1, by omega⟩
    simp [Text.hexDigits, Nat.toDigits_of_lt_base hn, hdiv, hmod, List.replicate_succ']
  · have hlong := Nat.toDigits_of_base_le (by decide : 1 < 16) (Nat.le_of_not_lt hn)
    simp [Text.hexDigits, hlong]

/-- An escape by number has four digits. -/
theorem hexDigits_four {n : Nat} (hn : n < 0x10000) :
    Text.hexDigits 4 n =
      [(n / 4096).digitChar, (n / 256 % 16).digitChar, (n / 16 % 16).digitChar,
        (n % 16).digitChar] := by
  have hfirst : n / 16 / 16 / 16 < 16 := by omega
  have hone : Text.hexDigits 1 (n / 16 / 16 / 16) = [(n / 16 / 16 / 16).digitChar] := by
    rw [Text.hexDigits, Nat.toDigits_of_lt_base hfirst]
    rfl
  rw [hexDigits_succ (by decide), hexDigits_succ (by decide), hexDigits_succ (by decide), hone]
  simp [Nat.div_div_eq_div_mul]

theorem hexValue?_digitChar : ∀ d < 16, hexValue? d.digitChar = some d := by decide

/-! ## Literals -/

/-- The reader of a text after more characters of it, with no end of the text among them. -/
def readText (glyph : Glyph) (done : Text) : Text → Option (Glyph × Text)
  | [] => some (glyph, done)
  | c :: t =>
      if glyph = .plain ∧ c = '"' then none
      else (feedText done c glyph).bind fun (glyph, done) => readText glyph done t

theorem readText_append {glyph mid : Glyph} {done between t u : Text}
    (h : readText glyph done t = some (mid, between)) :
    readText glyph done (t ++ u) = readText mid between u := by
  induction t generalizing glyph done with
  | nil =>
      cases h
      rfl
  | cons c t ih =>
      simp only [List.cons_append, readText] at h ⊢
      split
      · next hend => simp [hend] at h
      · next hinside =>
        rw [if_neg hinside] at h
        rcases hfeed : feedText done c glyph with _ | ⟨g, d⟩
        · simp [hfeed] at h
        · rw [hfeed] at h
          exact ih h

/-- A digit of an escape by number that is not the last one. -/
theorem readText_digit {high : Option Nat} {count value d : Nat} {done t : Text} (hd : d < 16)
    (hcount : count < 3) :
    readText (.unit high count value) done (d.digitChar :: t) =
      readText (.unit high (count + 1) (16 * value + d)) done t := by
  simp [readText, feedText, hexValue?_digitChar d hd, hcount]

/-- The digits of an escape by number. -/
theorem readText_hexDigits {high : Option Nat} {unit : Nat} {done : Text} (hunit : unit < 0x10000) :
    readText (.unit high 0 0) done (Text.hexDigits 4 unit) = endUnit high unit done := by
  have hvalue : 16 * (16 * (16 * (16 * 0 + unit / 4096) + unit / 256 % 16) + unit / 16 % 16)
      + unit % 16 = unit := by omega
  rw [hexDigits_four hunit, readText_digit (by omega) (by decide),
    readText_digit (by omega) (by decide), readText_digit (by omega) (by decide)]
  simp only [readText, feedText, hexValue?_digitChar (unit % 16) (by omega), hvalue]
  rcases endUnit high unit done with _ | ⟨glyph, text⟩ <;> simp

/-- An escape by number that stands for itself. -/
theorem readText_numericEscape {c : Char} {done : Text} (hc : c.toNat < 0x10000) :
    readText .plain done (numericEscape c.toNat) = some (.plain, done ++ [c]) := by
  have hvalid : c.toNat < 0xD800 ∨ 0xE000 ≤ c.toNat := by
    have := c.valid
    simp only [UInt32.isValidChar, Nat.isValidChar] at this
    have htoNat : c.val.toNat = c.toNat := rfl
    omega
  have hhigh : isHigh c.toNat = false := by
    simp only [isHigh, Bool.and_eq_false_iff, decide_eq_false_iff_not]
    omega
  have hlow : isLow c.toNat = false := by
    simp only [isLow, Bool.and_eq_false_iff, decide_eq_false_iff_not]
    omega
  have hdigits : readText (.unit none 0 0) done (Text.hexDigits 4 c.toNat) = _ :=
    readText_hexDigits hc
  rw [endUnit, hhigh, hlow, Char.ofNat_toNat] at hdigits
  simpa [numericEscape, readText, feedText] using hdigits

/-- Two escapes by number that are a pair of surrogates. -/
theorem readText_surrogates {high low : Nat} {done : Text} (hhigh : isHigh high = true)
    (hlow : isLow low = true) :
    readText .plain done (numericEscape high ++ numericEscape low) =
      some (.plain, done ++ [Char.ofNat (0x10000 + (high - 0xD800) * 0x400 + (low - 0xDC00))]) := by
  have hhigh' : high < 0xDC00 := by
    simp only [isHigh, Bool.and_eq_true, decide_eq_true_eq] at hhigh
    exact hhigh.2
  have hlow' : low < 0xE000 := by
    simp only [isLow, Bool.and_eq_true, decide_eq_true_eq] at hlow
    exact hlow.2
  have hfirst : readText .plain done (numericEscape high) = some (.pair high, done) := by
    have hdigits : readText (.unit none 0 0) done (Text.hexDigits 4 high) = _ :=
      readText_hexDigits (by omega)
    rw [endUnit, hhigh] at hdigits
    simpa [numericEscape, readText, feedText] using hdigits
  rw [readText_append hfirst]
  have hdigits : readText (.unit (some high) 0 0) done (Text.hexDigits 4 low) = _ :=
    readText_hexDigits (by omega)
  rw [endUnit, hlow] at hdigits
  simpa [numericEscape, readText, feedText] using hdigits

/-- The escapes of a character, of which there are two beyond U+FFFF. -/
theorem readText_units {c : Char} {done : Text} :
    readText .plain done ((units c).flatMap numericEscape) = some (.plain, done ++ [c]) := by
  by_cases hsmall : c.toNat < 0x10000
  · simpa [units, hsmall] using readText_numericEscape hsmall
  · have hbound : c.toNat < 0x110000 := by
      have := c.valid
      simp only [UInt32.isValidChar, Nat.isValidChar] at this
      have htoNat : c.val.toNat = c.toNat := rfl
      omega
    have hhigh : isHigh (0xD800 + (c.toNat - 0x10000) / 0x400) = true := by
      simp only [isHigh, Bool.and_eq_true, decide_eq_true_eq]
      omega
    have hlow : isLow (0xDC00 + (c.toNat - 0x10000) % 0x400) = true := by
      simp only [isLow, Bool.and_eq_true, decide_eq_true_eq]
      omega
    have hvalue : 0x10000 + (0xD800 + (c.toNat - 0x10000) / 0x400 - 0xD800) * 0x400
        + (0xDC00 + (c.toNat - 0x10000) % 0x400 - 0xDC00) = c.toNat := by omega
    have hpair : readText .plain done _ = _ := readText_surrogates hhigh hlow
    rw [hvalue, Char.ofNat_toNat] at hpair
    simpa [units, hsmall] using hpair

/-- A short escape. -/
theorem readText_shortEscape {c letter : Char} {done : Text} (h : shortEscape? c = some letter) :
    readText .plain done ['\\', letter] = some (.plain, done ++ [c]) := by
  have hletter : letter ≠ 'u' ∧ unescape? letter = some c := by
    unfold shortEscape? at h
    repeat' split at h
    all_goals cases h
    · next hc => rcases hc with rfl | rfl <;> decide
    all_goals
      next hc =>
        subst hc
        decide
  simp [readText, feedText, hletter]

/-- **A character of a literal is read as itself,** however it is written. -/
theorem readText_literalChar (a : Alphabet) (c : Char) (done : Text) :
    readText .plain done (literalChar a c) = some (.plain, done ++ [c]) := by
  rw [literalChar]
  rcases hshort : shortEscape? c with _ | letter
  · have hplain : c ≠ '"' ∧ c ≠ '\\' := by
      constructor <;> rintro rfl <;> cases hshort
    by_cases hkept : (0x20 ≤ c.toNat && a.keeps c) = true
    · have hprintable : ¬ c.toNat < 0x20 := by
        simp only [Bool.and_eq_true, decide_eq_true_eq] at hkept
        omega
      simp [hkept, readText, feedText, hplain, hprintable]
    · rw [if_neg hkept]
      exact readText_units
  · exact readText_shortEscape hshort

/-- The characters of a literal. -/
theorem readText_literal (a : Alphabet) (t done : Text) :
    readText .plain done (t.flatMap (literalChar a)) = some (.plain, done ++ t) := by
  induction t generalizing done with
  | nil => simp [readText]
  | cons c t ih =>
      rw [List.flatMap_cons, readText_append (readText_literalChar a c done), ih]
      simp

/-! ## Numbers -/

theorem isDigit_of_mem_ofNat {n : Nat} {c : Char} (h : c ∈ Text.ofNat n) : c.isDigit = true :=
  Nat.isDigit_of_mem_toDigits (by decide) (by decide) h

/-- A digit begins a number and nothing else. -/
theorem isDelimiter_eq_false_of_isDigit {c : Char} (h : c.isDigit = true) :
    isDelimiter c = false ∧ c ≠ '[' ∧ c ≠ '\x7b' ∧ c ≠ '"' := by
  refine ⟨?_, ?_, ?_, ?_⟩
  · by_contra hno
    simp only [isDelimiter, isBlank, Bool.not_eq_false, Bool.or_eq_true, decide_eq_true_eq] at hno
    rcases hno with (((((rfl | rfl) | rfl) | rfl) | rfl) | rfl) | rfl <;> cases h
  all_goals
    rintro rfl
    cases h

theorem isBlank_eq_false_of_isDelimiter {c : Char} (h : isDelimiter c = false) :
    isBlank c = false := by
  simp only [isDelimiter, Bool.or_eq_false_iff] at h
  exact h.1.1.1

/-- No zero stands in front of the digits of a number. -/
theorem head?_ofNat (n : Nat) : (Text.ofNat n).head? = some '0' → n = 0 := by
  induction n using Nat.strongRecOn with
  | _ n ih =>
      intro hhead
      rw [Text.ofNat] at hhead
      by_cases hn : n < 10
      · rw [Nat.toDigits_of_lt_base hn] at hhead
        have hdigit : ∀ d < 10, some d.digitChar = some '0' → d = 0 := by decide
        exact hdigit n hn hhead
      · have hle : 10 ≤ n := Nat.le_of_not_lt hn
        rw [Nat.toDigits_of_base_le (by decide) hle, List.head?_append,
          List.head?_eq_some_head Nat.toDigits_ne_nil, Option.some_or] at hhead
        have hdiv := ih (n / 10) (by omega) (by
          rw [Text.ofNat, List.head?_eq_some_head Nat.toDigits_ne_nil]
          exact hhead)
        omega

theorem unsigned?_ofNat (n : Nat) : unsigned? (Text.ofNat n) = some (n, 0) := by
  have htake : (Text.ofNat n).takeWhile Char.isDigit = Text.ofNat n :=
    List.takeWhile_eq_self_iff.mpr fun _ hc => isDigit_of_mem_ofNat hc
  have hdrop : (Text.ofNat n).dropWhile Char.isDigit = [] :=
    List.dropWhile_eq_nil_iff.mpr fun _ hc => isDigit_of_mem_ofNat hc
  have hnonempty : (Text.ofNat n).isEmpty = false := by
    simp [Text.ofNat, Nat.toDigits_ne_nil]
  have hzero : ¬ ((Text.ofNat n).head? = some '0' ∧ Text.ofNat n ≠ ['0']) := by
    rintro ⟨hhead, hne⟩
    rw [head?_ofNat n hhead] at hne
    exact hne rfl
  have hvalue : Nat.ofDigitChars 10 (Text.ofNat n) 0 = n := Nat.ofDigitChars_ten_toDigits
  simpa [unsigned?, htake, hdrop, hnonempty, fraction?, exponent?, hvalue] using hzero

/-- **A number is read as itself.** -/
theorem scalar?_ofNat (n : Nat) : scalar? (Text.ofNat n) = some (.number n 0) := by
  have hdigit (c : Char) (hc : c.isDigit = false) (t : Text) : Text.ofNat n ≠ c :: t := by
    intro h
    have hmem : c.isDigit = true := isDigit_of_mem_ofNat (n := n) (h ▸ List.mem_cons_self)
    simp [hc] at hmem
  have hnull : Text.ofNat n ≠ "null".toList := hdigit 'n' rfl _
  have htrue : Text.ofNat n ≠ "true".toList := hdigit 't' rfl _
  have hfalse : Text.ofNat n ≠ "false".toList := hdigit 'f' rfl _
  unfold scalar?
  rw [if_neg hnull, if_neg htrue, if_neg hfalse]
  split
  · next t h => exact absurd h (hdigit '-' rfl t)
  · rw [unsigned?_ofNat]
    rfl

/-! ## Runs of the reader -/

namespace State

theorem run_append (s : State) (t u : Text) : s.run (t ++ u) = (s.run t).bind fun s => s.run u := by
  induction t generalizing s with
  | nil => rfl
  | cons c t ih =>
      simp only [List.cons_append, run]
      rcases s.feed c with _ | s'
      · rfl
      · exact ih s'

theorem run_singleton (s : State) (c : Char) : s.run [c] = s.feed c := by
  rw [run]
  cases s.feed c <;> rfl

/-- What is read of a text, whether it is a value or a key. -/
theorem run_inside (role : Glyph → Text → Mode)
    (hrole : ∀ glyph done stack c, ¬ (glyph = .plain ∧ c = '"') →
      (State.mk (role glyph done) stack).feed c =
        (feedText done c glyph).map fun (glyph, done) => ⟨role glyph done, stack⟩)
    {glyph mid : Glyph} {done between t : Text} {stack : List Frame}
    (h : readText glyph done t = some (mid, between)) :
    (State.mk (role glyph done) stack).run t = some ⟨role mid between, stack⟩ := by
  induction t generalizing glyph done with
  | nil =>
      cases h
      rfl
  | cons c t ih =>
      simp only [readText] at h
      split at h
      · cases h
      · next hinside =>
        rw [run, hrole glyph done stack c hinside]
        rcases hfeed : feedText done c glyph with _ | ⟨g, d⟩
        · simp [hfeed] at h
        · rw [hfeed] at h
          exact ih h

/-- **A literal is read as its text.** -/
theorem run_literal (a : Alphabet) (t : Text) (stack : List Frame) :
    (State.mk .value stack).run (literal a t) = some (receive (.text t) stack) := by
  have hinside : (State.mk (.text .plain []) stack).run (t.flatMap (literalChar a)) =
      some ⟨.text .plain t, stack⟩ :=
    run_inside .text (fun glyph done stack c hc => if_neg hc) (readText_literal a t [])
  rw [literal, List.cons_append, run]
  show (State.mk (.text .plain []) stack).run _ = _
  rw [run_append, hinside]
  rfl

/-- Blanks are passed over by a reader that waits for something else. -/
theorem run_blanks_of_stays {s : State} (hs : ∀ c, isBlank c = true → s.feed c = some s)
    {blanks : Text} (h : ∀ c ∈ blanks, isBlank c = true) (t : Text) :
    s.run (blanks ++ t) = s.run t := by
  induction blanks with
  | nil => rfl
  | cons c blanks ih =>
      rw [List.cons_append, run, hs c (h c List.mem_cons_self), Option.bind_some]
      exact ih fun d hd => h d (List.mem_cons_of_mem c hd)

/-- Blanks before a value are passed over. -/
theorem run_blanks {blanks : Text} (h : ∀ c ∈ blanks, isBlank c = true) (t : Text)
    (stack : List Frame) :
    (State.mk .value stack).run (blanks ++ t) = (State.mk .value stack).run t :=
  run_blanks_of_stays (fun c hc => by simp [feed, startValue, hc]) h t

/-- A literal in the place of a key. -/
theorem run_literal_key (a : Alphabet) (key : Text) (members : List (Text × Value))
    (stack : List Frame) :
    (State.mk (.member members) stack).run (literal a key) =
      some ⟨.colon members key, stack⟩ := by
  have hinside : (State.mk (.key members .plain []) stack).run (key.flatMap (literalChar a)) =
      some ⟨.key members .plain key, stack⟩ :=
    run_inside (.key members) (fun glyph done stack c hc => if_neg hc) (readText_literal a key [])
  rw [literal, List.cons_append, run]
  show (State.mk (.key members .plain []) stack).run _ = _
  rw [run_append, hinside]
  rfl

/-- A word or a number is read when the character behind it comes. -/
theorem run_scalar {done t : Text} {c : Char} {stack : List Frame}
    (ht : ∀ d ∈ t, isDelimiter d = false) (hc : isDelimiter c = true) :
    (State.mk (.scalar done) stack).run (t ++ [c]) =
      (scalar? (done ++ t)).bind fun v => (receive v stack).feedAfter c := by
  induction t generalizing done with
  | nil => simp [run, feed, hc]
  | cons d t ih =>
      have hd : isDelimiter d = false := ht d List.mem_cons_self
      rw [List.cons_append, run]
      simp only [feed, hd, Bool.false_eq_true, if_false, Option.bind_some]
      rw [ih fun d' hd' => ht d' (List.mem_cons_of_mem d hd')]
      simp

/-- What comes after a value that is complete. -/
theorem feed_receive (v : Value) (stack : List Frame) (c : Char) :
    (receive v stack).feed c = (receive v stack).feedAfter c := by
  rcases stack with _ | ⟨_ | _, _⟩ <;> rfl

/-- **A number is read when the character behind it comes.** -/
theorem run_ofNat {n : Nat} {c : Char} {stack : List Frame} (hc : isDelimiter c = true) :
    (State.mk .value stack).run (Text.ofNat n ++ [c]) =
      (receive (.number n 0) stack).feed c := by
  obtain ⟨d, t, ht⟩ : ∃ d t, Text.ofNat n = d :: t :=
    List.exists_cons_of_ne_nil Nat.toDigits_ne_nil
  obtain ⟨hd, harray, hobject, hquote⟩ :=
    isDelimiter_eq_false_of_isDigit (isDigit_of_mem_ofNat (ht ▸ List.mem_cons_self))
  have hstart : (State.mk .value stack).feed d = some ⟨.scalar [d], stack⟩ := by
    simp [feed, startValue, isBlank_eq_false_of_isDelimiter hd, hd, harray, hobject, hquote]
  have hrest : ∀ e ∈ t, isDelimiter e = false := fun e he =>
    (isDelimiter_eq_false_of_isDigit
      (isDigit_of_mem_ofNat (ht ▸ List.mem_cons_of_mem d he))).1
  rw [ht, List.cons_append, run, hstart, Option.bind_some, run_scalar hrest hc,
    List.singleton_append, ← ht, scalar?_ofNat, Option.bind_some, feed_receive]

end State

/-! ## Values -/

mutual

/-- A value as a reader hands it over. -/
def value : Json → Value
  | .text t => .text t
  | .number n => .number n 0
  | .array items => .array (values items)
  | .object members => .object (valuesOnto [] members)

/-- Values as a reader hands them over. -/
def values : List Json → List Value
  | [] => []
  | item :: items => item.value :: values items

/-- Members as a reader hands them over, after those that are there. -/
def valuesOnto (done : List (Text × Value)) : List (Text × Json) → List (Text × Value)
  | [] => done
  | (key, item) :: members => valuesOnto (Value.setMember key item.value done) members

end

/-- No value begins with a blank or a closing bracket. -/
theorem compact_eq_cons (j : Json) :
    ∃ c t, j.compact = c :: t ∧ isBlank c = false ∧ c ≠ ']' := by
  cases j with
  | text t => exact ⟨'"', _, rfl, rfl, by decide⟩
  | number n =>
      obtain ⟨d, t, ht⟩ : ∃ d t, Text.ofNat n = d :: t :=
        List.exists_cons_of_ne_nil Nat.toDigits_ne_nil
      have hd : isDelimiter d = false :=
        (isDelimiter_eq_false_of_isDigit (isDigit_of_mem_ofNat (ht ▸ List.mem_cons_self))).1
      refine ⟨d, t, by rw [compact, ht], isBlank_eq_false_of_isDelimiter hd, ?_⟩
      rintro rfl
      cases hd
  | array items => exact ⟨'[', _, by rw [compact]; rfl, rfl, by decide⟩
  | object members => exact ⟨'\x7b', _, by rw [compact]; rfl, rfl, by decide⟩

/-- The first item of an array is read like every other. -/
theorem run_firstItem_cons {c : Char} (hblank : isBlank c = false) (hclose : c ≠ ']') (t : Text)
    (stack : List Frame) :
    (State.mk .firstItem stack).run (c :: t) =
      (State.mk .value (.array [] :: stack)).run (c :: t) := by
  simp [State.run, State.feed, hblank, hclose]

theorem run_firstItem (glue rest : Text) (item : Json) (items : List Json) (stack : List Frame) :
    (State.mk .firstItem stack).run
        (Text.joinWith glue (compactItems (item :: items)) ++ rest) =
      (State.mk .value (.array [] :: stack)).run
        (Text.joinWith glue (compactItems (item :: items)) ++ rest) := by
  obtain ⟨t, ht⟩ := Text.joinWith_cons glue item.compact (compactItems items)
  obtain ⟨c, u, hu, hblank, hclose⟩ := item.compact_eq_cons
  rw [compactItems, ht, hu]
  exact run_firstItem_cons hblank hclose _ stack

/-- The first key of an object is read like every other. -/
theorem run_firstMember (a : Alphabet) (key rest : Text) (stack : List Frame) :
    (State.mk .firstMember stack).run (literal a key ++ rest) =
      (State.mk (.member []) stack).run (literal a key ++ rest) := by
  rw [literal, List.cons_append, List.cons_append]
  rfl

/-- A member is read when its value is. -/
theorem run_member {a : Alphabet} {key : Text} {done : List (Text × Value)} {stack : List Frame}
    {t : Text} {result : Option State}
    (h : (State.mk .value (.object done key :: stack)).run t = result) :
    (State.mk (.member done) stack).run (literal a key ++ ": " ++ t) = result := by
  rw [List.append_assoc, State.run_append, State.run_literal_key, Option.bind_some]
  exact h

mutual

/-- **What was printed on one line is read** up to the character behind it. -/
theorem run_compact {c : Char} (hc : isDelimiter c = true) (stack : List Frame) :
    ∀ j : Json, (State.mk .value stack).run (j.compact ++ [c]) =
      (State.receive j.value stack).feed c
  | .text t => by
      rw [compact, value, State.run_append, State.run_literal, Option.bind_some,
        State.run_singleton]
  | .number n => by
      rw [compact, value]
      exact State.run_ofNat hc
  | .array [] => by
      rw [compact, value, compactItems, values, State.run_append]
      exact State.run_singleton _ c
  | .array (item :: items) => by
      have hblanks : ∀ d ∈ [' '], isBlank d = true := by
        intro d hd
        rw [List.mem_singleton.mp hd]
        rfl
      have hitems := run_compactItems hblanks stack [] (item :: items) (List.cons_ne_nil item items)
      rw [← run_firstItem] at hitems
      rw [compact, value, State.run_append, List.append_assoc, State.run_append]
      exact (congrArg (Option.bind · _) hitems).trans (State.run_singleton _ c)
  | .object [] => by
      rw [compact, value, compactMembers, valuesOnto, State.run_append]
      exact State.run_singleton _ c
  | .object ((key, item) :: members) => by
      have hmembers := run_compactMembers stack [] ((key, item) :: members) (List.cons_ne_nil _ _)
      obtain ⟨t, ht⟩ := Text.joinWith_cons ", " (literal .unicode key ++ ": " ++ item.compact)
        (compactMembers members)
      rw [List.append_assoc, List.append_assoc] at ht
      rw [compactMembers, List.append_assoc, ht, List.append_assoc, ← run_firstMember,
        ← List.append_assoc, ← ht] at hmembers
      rw [compact, value, State.run_append, List.append_assoc, State.run_append]
      show (((State.mk .firstMember stack).run _).bind _) = _
      rw [compactMembers, List.append_assoc, hmembers, Option.bind_some, State.run_singleton]

/-- The items of an array, after those that are read.  Blanks may follow the commas. -/
theorem run_compactItems {blanks : Text} (hblanks : ∀ c ∈ blanks, isBlank c = true)
    (stack : List Frame) (done : List Value) :
    ∀ items : List Json, items ≠ [] → (State.mk .value (.array done :: stack)).run
        (Text.joinWith (',' :: blanks) (compactItems items) ++ "]") =
      some (State.receive (.array (done ++ values items)) stack)
  | [], h => absurd rfl h
  | [item], _ => by
      rw [compactItems, compactItems, Text.joinWith, values, values]
      exact run_compact (by decide) (.array done :: stack) item
  | item :: next :: items, _ => by
      have hitem := run_compact (c := ',') (by decide) (.array done :: stack) item
      have hitems := run_compactItems hblanks stack (done ++ [item.value]) (next :: items)
        (List.cons_ne_nil next items)
      have hjoin : Text.joinWith (',' :: blanks) (compactItems (item :: next :: items)) ++ "]" =
          (item.compact ++ [',']) ++
            (blanks ++ (Text.joinWith (',' :: blanks) (compactItems (next :: items)) ++ "]")) := by
        rw [compactItems, compactItems, Text.joinWith_cons_cons]
        simp
      rw [List.append_assoc, ← State.run_blanks hblanks] at hitems
      rw [hjoin, State.run_append, hitem]
      exact hitems

/-- The members of an object, after those that are read. -/
theorem run_compactMembers (stack : List Frame) (done : List (Text × Value)) :
    ∀ members : List (Text × Json), members ≠ [] → (State.mk (.member done) stack).run
        (Text.joinWith ", " (compactMembers members) ++ "\x7d") =
      some (State.receive (.object (valuesOnto done members)) stack)
  | [], h => absurd rfl h
  | [(key, item)], _ => by
      rw [compactMembers, compactMembers, Text.joinWith, valuesOnto, valuesOnto,
        List.append_assoc]
      exact run_member (run_compact (by decide) (.object done key :: stack) item)
  | (key, item) :: next :: members, _ => by
      have hitem := run_member (a := .unicode)
        (run_compact (c := ',') (by decide) (.object done key :: stack) item)
      have hmembers := run_compactMembers stack (Value.setMember key item.value done)
        (next :: members) (List.cons_ne_nil next members)
      have hjoin : Text.joinWith ", " (compactMembers ((key, item) :: next :: members)) ++ "\x7d" =
          (literal .unicode key ++ ": " ++ (item.compact ++ [','])) ++
            (' ' :: (Text.joinWith ", " (compactMembers (next :: members)) ++ "\x7d")) := by
        obtain ⟨nextKey, nextItem⟩ := next
        rw [compactMembers, compactMembers, Text.joinWith_cons_cons]
        simp
      rw [hjoin, State.run_append, hitem]
      exact hmembers

end

theorem compactItems_eq_map (items : List Json) : compactItems items = items.map compact := by
  induction items with
  | nil => rfl
  | cons item items ih => rw [compactItems, ih, List.map_cons]

theorem values_eq_map (items : List Json) : values items = items.map value := by
  induction items with
  | nil => rfl
  | cons item items ih => rw [values, ih, List.map_cons]

/-- **An array whose items were printed one by one** is read as the array of the items. -/
theorem read?_array (items : List Json) :
    read? ("[" ++ Text.joinWith "," (items.map compact) ++ "]") =
      some (.array (items.map value)) := by
  cases items with
  | nil => rfl
  | cons item items =>
      have hitems := run_compactItems (List.forall_mem_nil _) [] [] (item :: items)
        (List.cons_ne_nil item items)
      rw [← run_firstItem] at hitems
      rw [← compactItems_eq_map, ← values_eq_map]
      exact congrArg (Option.bind · State.result?) hitems

end Json

end MarkupCatalog
