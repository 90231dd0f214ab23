import MarkupCatalog.Proofs.Charset.Utf8
import MarkupCatalog.Proofs.Json.Roundtrip

/-!
# The grammar of JSON

What a document is does not depend on who reads it: `Derives` gives the rules of the grammar, and
`IsDocument` is what can be derived by them.  What is printed on one line is a document
(`derives_compact`).

Outside of the strings of a document every bracket that is opened is closed again
(`Derives.balanced`).  So a document cannot be continued by a closing bracket: an array that was
broken off before its end is refused by every reader (`not_isDocument_of_concat`), and in
particular by the one of this library (`read?_eq_none_of_concat`).
-/

namespace MarkupCatalog.Json

/-! ## Rules -/

/-- Blanks, which may stand around every part of a document. -/
def IsBlanks (t : Text) : Prop := ∀ c ∈ t, isBlank c = true

/-- How a character of a string may be written. -/
inductive WritesChar : Text → Prop
  | plain {c : Char} : 0x20 ≤ c.toNat → c ≠ '"' → c ≠ '\\' → WritesChar [c]
  | short {c : Char} : c ∈ "\"\\/bfnrt".toList → WritesChar ['\\', c]
  | numeric {digits : Text} : digits.length = 4 → (∀ d ∈ digits, (hexValue? d).isSome = true) →
      WritesChar ('\\' :: 'u' :: digits)

/-- What may stand between the quotes of a string. -/
inductive WritesChars : Text → Prop
  | nil : WritesChars []
  | cons {t u : Text} : WritesChar t → WritesChars u → WritesChars (t ++ u)

/-- A string, in quotes. -/
inductive IsString : Text → Prop
  | quoted {t : Text} : WritesChars t → IsString ('"' :: t ++ ['"'])

/-- Digits, of which there is one at least. -/
def IsDigits (t : Text) : Prop := t ≠ [] ∧ ∀ c ∈ t, c.isDigit = true

/-- What may stand after the whole part of a number. -/
inductive IsFraction : Text → Prop
  | none : IsFraction []
  | point {digits : Text} : IsDigits digits → IsFraction ('.' :: digits)

/-- What may stand at the end of a number. -/
inductive IsExponent : Text → Prop
  | none : IsExponent []
  | power {letter : Char} {sign digits : Text} : letter ∈ ['e', 'E'] →
      sign ∈ [[], ['+'], ['-']] → IsDigits digits → IsExponent (letter :: (sign ++ digits))

/-- A number.  No zero stands in front of other digits. -/
inductive IsNumber : Text → Prop
  | parts {sign whole fraction exponent : Text} : sign ∈ [[], ['-']] → IsDigits whole →
      (whole.head? = some '0' → whole = ['0']) → IsFraction fraction → IsExponent exponent →
      IsNumber (sign ++ whole ++ fraction ++ exponent)

/-- The parts of which a document consists.  An element is a value with the blanks around it. -/
inductive Part
  | value
  | element
  | elements
  | member
  | members
  deriving DecidableEq, Repr

/-- The rules of the grammar: how the parts are written. -/
inductive Derives : Part → Text → Prop
  | word {t : Text} : t ∈ ["null".toList, "true".toList, "false".toList] → Derives .value t
  | number {t : Text} : IsNumber t → Derives .value t
  | string {t : Text} : IsString t → Derives .value t
  | emptyArray {blanks : Text} : IsBlanks blanks → Derives .value ('[' :: blanks ++ [']'])
  | array {t : Text} : Derives .elements t → Derives .value ('[' :: t ++ [']'])
  | emptyObject {blanks : Text} : IsBlanks blanks → Derives .value ('\x7b' :: blanks ++ ['\x7d'])
  | object {t : Text} : Derives .members t → Derives .value ('\x7b' :: t ++ ['\x7d'])
  | element {front t back : Text} : IsBlanks front → Derives .value t → IsBlanks back →
      Derives .element (front ++ t ++ back)
  | lastElement {t : Text} : Derives .element t → Derives .elements t
  | moreElements {t u : Text} : Derives .element t → Derives .elements u →
      Derives .elements (t ++ ',' :: u)
  | member {front key back t : Text} : IsBlanks front → IsString key → IsBlanks back →
      Derives .element t → Derives .member (front ++ key ++ back ++ ':' :: t)
  | lastMember {t : Text} : Derives .member t → Derives .members t
  | moreMembers {t u : Text} : Derives .member t → Derives .members u →
      Derives .members (t ++ ',' :: u)

/-- A text is a JSON document. -/
def IsDocument (t : Text) : Prop := Derives .element t

/-! ## What is printed -/

theorem isBlanks_nil : IsBlanks [] := List.forall_mem_nil _

/-- Blanks after blanks are blanks. -/
theorem IsBlanks.append {t u : Text} (ht : IsBlanks t) (hu : IsBlanks u) : IsBlanks (t ++ u) :=
  fun c hc => (List.mem_append.mp hc).elim (ht c) (hu c)

/-- A value is an element that has no blanks around it. -/
theorem Derives.ofValue {t : Text} (h : Derives .value t) : Derives .element t := by
  have helement := Derives.element isBlanks_nil h isBlanks_nil
  rwa [List.append_nil] at helement

/-- Blanks may stand before an element. -/
theorem Derives.blanks_append {blanks t : Text} (h : Derives .element t)
    (hblanks : IsBlanks blanks) : Derives .element (blanks ++ t) := by
  cases h with
  | element hfront hvalue hback =>
      rw [← List.append_assoc, ← List.append_assoc]
      exact .element (hblanks.append hfront) hvalue hback

/-- Blanks before the first of the elements belong to it. -/
theorem Derives.blanks_append_elements {blanks t : Text} (h : Derives .elements t)
    (hblanks : IsBlanks blanks) : Derives .elements (blanks ++ t) := by
  cases h with
  | lastElement helement => exact .lastElement (helement.blanks_append hblanks)
  | moreElements helement hmore =>
      rw [← List.append_assoc]
      exact .moreElements (helement.blanks_append hblanks) hmore

/-- Blanks may stand before the key of a member. -/
theorem Derives.blanks_append_member {blanks t : Text} (h : Derives .member t)
    (hblanks : IsBlanks blanks) : Derives .member (blanks ++ t) := by
  cases h with
  | member hfront hkey hback helement =>
      simp only [← List.append_assoc]
      exact .member (hblanks.append hfront) hkey hback helement

/-- Blanks before the first of the members belong to it. -/
theorem Derives.blanks_append_members {blanks t : Text} (h : Derives .members t)
    (hblanks : IsBlanks blanks) : Derives .members (blanks ++ t) := by
  cases h with
  | lastMember hmember => exact .lastMember (hmember.blanks_append_member hblanks)
  | moreMembers hmember hmore =>
      rw [← List.append_assoc]
      exact .moreMembers (hmember.blanks_append_member hblanks) hmore

theorem WritesChar.one {t : Text} (h : WritesChar t) : WritesChars t := by
  have hchars := WritesChars.cons h .nil
  rwa [List.append_nil] at hchars

/-- What may stand in a string may be continued by what may stand in one. -/
theorem WritesChars.append {t u : Text} (ht : WritesChars t) (hu : WritesChars u) :
    WritesChars (t ++ u) := by
  induction ht with
  | nil => exact hu
  | cons hchar _ ih =>
      rw [List.append_assoc]
      exact .cons hchar ih

/-- Four hexadecimal digits are written for a number of sixteen bits. -/
theorem writesChar_numericEscape {unit : Nat} (hunit : unit < 0x10000) :
    WritesChar (numericEscape unit) := by
  have hdigit (n : Nat) (hn : n < 16) : (hexValue? n.digitChar).isSome = true := by
    rw [hexValue?_digitChar n hn]
    rfl
  rw [numericEscape, hexDigits_four hunit]
  refine .numeric rfl ?_
  simp only [List.forall_mem_cons]
  exact ⟨hdigit _ (by omega), hdigit _ (by omega), hdigit _ (by omega), hdigit _ (by omega),
    List.forall_mem_nil _⟩

/-- **Every character of a literal is written as the grammar has it.** -/
theorem writesChars_literalChar (a : Alphabet) (c : Char) : WritesChars (literalChar a c) := by
  have hbound := Charset.Utf8.toNat_bounds c
  rw [literalChar]
  rcases hshort : shortEscape? c with _ | letter
  · have hplain : c ≠ '"' ∧ c ≠ '\\' := by
      constructor <;> rintro rfl <;> cases hshort
    by_cases hkept : (0x20 ≤ c.toNat && a.keeps c) = true
    · simp only [hkept, if_true]
      simp only [Bool.and_eq_true, decide_eq_true_eq] at hkept
      exact (WritesChar.plain hkept.1 hplain.1 hplain.2).one
    · simp only [hkept, if_false, units, Bool.false_eq_true]
      split
      · next hsmall =>
        rw [List.flatMap_singleton]
        exact (writesChar_numericEscape hsmall).one
      · rw [List.flatMap_cons, List.flatMap_singleton]
        exact .cons (writesChar_numericEscape (by omega)) (writesChar_numericEscape (by omega)).one
  · refine (WritesChar.short ?_).one
    unfold shortEscape? at hshort
    repeat' split at hshort
    all_goals cases hshort
    · next hc => rcases hc with rfl | rfl <;> decide
    all_goals decide

/-- What is printed for a text is a string, whatever the alphabet. -/
theorem isString_literal (a : Alphabet) (t : Text) : IsString (literal a t) := by
  refine .quoted ?_
  induction t with
  | nil => exact .nil
  | cons c t ih =>
      rw [List.flatMap_cons]
      exact (writesChars_literalChar a c).append ih

/-- What is printed for a number is one, with no zero in front of other digits. -/
theorem isNumber_ofNat (n : Nat) : IsNumber (Text.ofNat n) := by
  have hdigits : IsDigits (Text.ofNat n) :=
    ⟨Nat.toDigits_ne_nil, fun c hc => isDigit_of_mem_ofNat hc⟩
  have hzero (hhead : (Text.ofNat n).head? = some '0') : Text.ofNat n = ['0'] := by
    rw [head?_ofNat n hhead]
    rfl
  have hnumber : IsNumber ([] ++ Text.ofNat n ++ [] ++ []) :=
    .parts (by simp) hdigits hzero .none .none
  simpa using hnumber

theorem isBlanks_space : IsBlanks [' '] := by
  intro c hc
  rw [List.mem_singleton.mp hc]
  rfl

/-- A key with its value, on one line. -/
theorem derives_member (key : Text) {t : Text} (h : Derives .value t) :
    Derives .member (literal .unicode key ++ ": " ++ t) := by
  have hmember := Derives.member isBlanks_nil (isString_literal .unicode key) isBlanks_nil
    (h.ofValue.blanks_append isBlanks_space)
  simpa using hmember

mutual

/-- **What is printed on one line** is written as the grammar has it. -/
theorem derives_compact : ∀ j : Json, Derives .value j.compact
  | .text t => by
      rw [compact]
      exact .string (isString_literal .unicode t)
  | .number n => by
      rw [compact]
      exact .number (isNumber_ofNat n)
  | .array [] => by
      rw [compact, compactItems]
      exact .emptyArray isBlanks_nil
  | .array (item :: items) => by
      rw [compact]
      exact .array
        (derives_compactItems isBlanks_space (item :: items) (List.cons_ne_nil item items))
  | .object [] => by
      rw [compact, compactMembers]
      exact .emptyObject isBlanks_nil
  | .object (member :: members) => by
      rw [compact]
      exact .object (derives_compactMembers (member :: members) (List.cons_ne_nil member members))

/-- The items of an array.  Blanks may follow the commas. -/
theorem derives_compactItems {blanks : Text} (hblanks : IsBlanks blanks) :
    ∀ items : List Json, items ≠ [] →
      Derives .elements (Text.joinWith (',' :: blanks) (compactItems items))
  | [], h => absurd rfl h
  | [item], _ => by
      rw [compactItems, compactItems, Text.joinWith]
      exact .lastElement (derives_compact item).ofValue
  | item :: next :: items, _ => by
      have hmore := derives_compactItems hblanks (next :: items) (List.cons_ne_nil next items)
      rw [compactItems, compactItems, Text.joinWith_cons_cons, List.append_assoc]
      exact .moreElements (derives_compact item).ofValue (hmore.blanks_append_elements hblanks)

/-- The members of an object. -/
theorem derives_compactMembers :
    ∀ members : List (Text × Json), members ≠ [] →
      Derives .members (Text.joinWith ", " (compactMembers members))
  | [], h => absurd rfl h
  | [(key, item)], _ => by
      rw [compactMembers, compactMembers, Text.joinWith]
      exact .lastMember (derives_member key (derives_compact item))
  | (key, item) :: (next, value) :: members, _ => by
      have hmore := derives_compactMembers ((next, value) :: members) (List.cons_ne_nil _ _)
      rw [compactMembers, compactMembers, Text.joinWith_cons_cons, List.append_assoc]
      exact .moreMembers (derives_member key (derives_compact item))
        (hmore.blanks_append_members isBlanks_space)

end

/-- **An array whose items were printed one by one** is a document. -/
theorem isDocument_array (items : List Json) :
    IsDocument ("[" ++ Text.joinWith "," (items.map compact) ++ "]") := by
  cases items with
  | nil => exact (Derives.emptyArray isBlanks_nil).ofValue
  | cons item items =>
      rw [← compactItems_eq_map]
      exact (Derives.array (derives_compactItems isBlanks_nil (item :: items)
        (List.cons_ne_nil item items))).ofValue

/-! ## Brackets -/

/-- Where a character stands with regard to the strings of a document. -/
inductive Whereabouts
  | outside
  | inside
  /-- Inside of a string, after a backslash. -/
  | escaped
  deriving DecidableEq, Repr

/-- The brackets that were opened outside of strings, less those that were closed. -/
structure Nesting where
  whereabouts : Whereabouts
  depth : Int

namespace Nesting

/-- What a character outside of strings does to the depth. -/
def change (c : Char) : Int :=
  if c = '[' ∨ c = '\x7b' then 1 else if c = ']' ∨ c = '\x7d' then -1 else 0

/-- The nesting after one more character. -/
def feed (n : Nesting) (c : Char) : Nesting :=
  match n.whereabouts with
  | .outside =>
      if c = '"' then { n with whereabouts := .inside } else { n with depth := n.depth + change c }
  | .inside =>
      if c = '"' then { n with whereabouts := .outside }
      else if c = '\\' then { n with whereabouts := .escaped }
      else n
  | .escaped => { n with whereabouts := .inside }

/-- The nesting after a text. -/
def run (n : Nesting) (t : Text) : Nesting := t.foldl feed n

/-- A text that is continued is nested on from where it stood. -/
theorem run_append (n : Nesting) (t u : Text) : n.run (t ++ u) = (n.run t).run u :=
  List.foldl_append

end Nesting

/-- A text that begins and ends outside of strings closes all brackets that it opens. -/
def Balanced (t : Text) : Prop :=
  ∀ depth, (Nesting.mk .outside depth).run t = ⟨.outside, depth⟩

theorem balanced_nil : Balanced [] := fun _ => rfl

/-- Balanced texts one after the other are balanced. -/
theorem Balanced.append {t u : Text} (ht : Balanced t) (hu : Balanced u) : Balanced (t ++ u) := by
  intro depth
  rw [Nesting.run_append, ht, hu]

/-- A character that is neither a bracket nor a quote. -/
def IsFlat (c : Char) : Prop := c ≠ '"' ∧ Nesting.change c = 0

/-- A text without brackets and quotes is balanced. -/
theorem balanced_of_isFlat {t : Text} (h : ∀ c ∈ t, IsFlat c) : Balanced t := by
  induction t with
  | nil => exact balanced_nil
  | cons c t ih =>
      intro depth
      obtain ⟨hquote, hchange⟩ := h c List.mem_cons_self
      have hfeed : (Nesting.mk .outside depth).feed c = ⟨.outside, depth⟩ := by
        simp [Nesting.feed, hquote, hchange]
      show ((Nesting.mk .outside depth).feed c).run t = _
      rw [hfeed]
      exact ih (fun d hd => h d (List.mem_cons_of_mem c hd)) depth

theorem Balanced.cons {c : Char} {t : Text} (hc : IsFlat c) (h : Balanced t) : Balanced (c :: t) :=
  (balanced_of_isFlat (t := [c]) (by simpa using hc)).append h

/-- Brackets around what is balanced. -/
theorem Balanced.bracketed {opening closing : Char} {t : Text} (h : Balanced t)
    (hopening : opening ≠ '"' ∧ Nesting.change opening = 1)
    (hclosing : closing ≠ '"' ∧ Nesting.change closing = -1) :
    Balanced (opening :: t ++ [closing]) := by
  intro depth
  have hopen : (Nesting.mk .outside depth).feed opening = ⟨.outside, depth + 1⟩ := by
    simp [Nesting.feed, hopening]
  have hclose : (Nesting.mk .outside (depth + 1)).feed closing = ⟨.outside, depth⟩ := by
    rw [Nesting.feed, if_neg hclosing.1, hclosing.2, Int.add_neg_cancel_right]
  show ((Nesting.mk .outside depth).feed opening).run (t ++ [closing]) = _
  rw [hopen, Nesting.run_append, h]
  exact hclose

/-- A character of a string leaves the string neither open nor closed. -/
theorem WritesChar.run_inside {t : Text} (h : WritesChar t) (depth : Int) :
    (Nesting.mk .inside depth).run t = ⟨.inside, depth⟩ := by
  cases h with
  | plain _ hquote hbackslash => simp [Nesting.run, Nesting.feed, hquote, hbackslash]
  | short _ => rfl
  | @numeric digits _ hdigits =>
      -- no hexadecimal digit is a quote or a backslash
      have hrest : ∀ rest : Text, (∀ d ∈ rest, (hexValue? d).isSome = true) →
          (Nesting.mk .inside depth).run rest = ⟨.inside, depth⟩ := by
        intro rest hrest
        induction rest with
        | nil => rfl
        | cons d rest ih =>
            have hd := hrest d List.mem_cons_self
            have hquote : d ≠ '"' := by
              rintro rfl
              cases hd
            have hbackslash : d ≠ '\\' := by
              rintro rfl
              cases hd
            have hfeed : (Nesting.mk .inside depth).feed d = ⟨.inside, depth⟩ := by
              simp [Nesting.feed, hquote, hbackslash]
            show ((Nesting.mk .inside depth).feed d).run rest = _
            rw [hfeed]
            exact ih fun e he => hrest e (List.mem_cons_of_mem d he)
      exact hrest digits hdigits

/-- A string is balanced, whatever brackets stand between its quotes. -/
theorem IsString.balanced {t : Text} (h : IsString t) : Balanced t := by
  obtain ⟨hchars⟩ := h
  intro depth
  have hinside : ∀ {u : Text}, WritesChars u →
      (Nesting.mk .inside depth).run u = ⟨.inside, depth⟩ := by
    intro u hu
    induction hu with
    | nil => rfl
    | cons hchar _ ih => rw [Nesting.run_append, hchar.run_inside, ih]
  rw [List.cons_append]
  show (Nesting.mk .inside depth).run _ = _
  rw [Nesting.run_append, hinside hchars]
  rfl

/-- No blank is a bracket or a quote. -/
theorem IsBlanks.balanced {t : Text} (h : IsBlanks t) : Balanced t := by
  refine balanced_of_isFlat fun c hc => ?_
  have hblank := h c hc
  simp only [isBlank, Bool.or_eq_true, decide_eq_true_eq] at hblank
  rcases hblank with ((rfl | rfl) | rfl) | rfl <;> exact ⟨by decide, by decide⟩

/-- No digit is a bracket or a quote. -/
theorem IsDigits.balanced {t : Text} (h : IsDigits t) : Balanced t := by
  refine balanced_of_isFlat fun c hc => ?_
  obtain ⟨hdelimiter, harray, hobject, hquote⟩ := isDelimiter_eq_false_of_isDigit (h.2 c hc)
  simp only [isDelimiter, Bool.or_eq_false_iff, decide_eq_false_iff_not] at hdelimiter
  exact ⟨hquote, by simp [Nesting.change, harray, hobject, hdelimiter]⟩

/-- Signs, points and letters of a number are no brackets either. -/
theorem IsNumber.balanced {t : Text} (h : IsNumber t) : Balanced t := by
  obtain ⟨hsign, hwhole, _, hfraction, hexponent⟩ := h
  have hminus : IsFlat '-' := ⟨by decide, by decide⟩
  have hplus : IsFlat '+' := ⟨by decide, by decide⟩
  refine (((balanced_of_isFlat ?_).append hwhole.balanced).append ?_).append ?_
  · simp only [List.mem_cons, List.not_mem_nil, or_false] at hsign
    rcases hsign with rfl | rfl <;> simp [hminus]
  · cases hfraction with
    | none => exact balanced_nil
    | point hdigits => exact hdigits.balanced.cons ⟨by decide, by decide⟩
  · cases hexponent with
    | none => exact balanced_nil
    | power hletter hsign hdigits =>
        refine Balanced.cons ?_ ((balanced_of_isFlat ?_).append hdigits.balanced)
        · simp only [List.mem_cons, List.not_mem_nil, or_false] at hletter
          rcases hletter with rfl | rfl <;> exact ⟨by decide, by decide⟩
        · simp only [List.mem_cons, List.not_mem_nil, or_false] at hsign
          rcases hsign with rfl | rfl | rfl <;> simp [hminus, hplus]

/-- **All brackets of a document are balanced,** and so are those of each of its parts. -/
theorem Derives.balanced {part : Part} {t : Text} (h : Derives part t) : Balanced t := by
  have hcomma : IsFlat ',' := ⟨by decide, by decide⟩
  induction h with
  | word hword =>
      refine balanced_of_isFlat ?_
      simp only [List.mem_cons, List.not_mem_nil, or_false] at hword
      rcases hword with rfl | rfl | rfl <;> simp [IsFlat, Nesting.change]
  | number hnumber => exact hnumber.balanced
  | string hstring => exact hstring.balanced
  | emptyArray hblanks => exact hblanks.balanced.bracketed (by decide) (by decide)
  | array _ ih => exact ih.bracketed (by decide) (by decide)
  | emptyObject hblanks => exact hblanks.balanced.bracketed (by decide) (by decide)
  | object _ ih => exact ih.bracketed (by decide) (by decide)
  | element hfront _ hback ih => exact (hfront.balanced.append ih).append hback.balanced
  | lastElement _ ih | lastMember _ ih => exact ih
  | moreElements _ _ ih ihmore | moreMembers _ _ ih ihmore => exact ih.append (ihmore.cons hcomma)
  | member hfront hkey hback _ ih =>
      exact ((hfront.balanced.append hkey.balanced).append hback.balanced).append
        (ih.cons ⟨by decide, by decide⟩)

/-! ## What is broken off -/

/-- **No document can be continued by a closing bracket.** -/
theorem not_isDocument_of_concat {t : Text} (h : IsDocument (t ++ "]")) : ¬ IsDocument t := by
  intro ht
  have hlonger := h.balanced 0
  rw [Nesting.run_append, ht.balanced 0] at hlonger
  cases hlonger

/-- A reader that can take a closing bracket has not read a whole value. -/
theorem State.result?_eq_none_of_feed {s : State} (h : (s.feed ']').isSome = true) :
    s.result? = none := by
  have hdone (v : Value) (stack : List Frame) : (State.mk (.done v) stack).feed ']' = none := rfl
  rcases s with ⟨mode, stack⟩
  cases mode with
  | done v =>
      rw [hdone] at h
      cases h
  | scalar t =>
      cases stack with
      | nil =>
          simp only [feed, show isDelimiter ']' = true from rfl, if_true] at h
          rw [result?]
          cases hvalue : scalar? t with
          | none => rfl
          | some v =>
              rw [hvalue] at h
              cases h
      | cons frame stack => rfl
  | _ => rfl

/-- **Nothing is read of a text** that is read when it is continued by a closing bracket. -/
theorem read?_eq_none_of_concat {t : Text} (h : (read? (t ++ "]")).isSome = true) :
    read? t = none := by
  rw [read?, State.run_append] at h
  rw [read?]
  cases hrun : (State.mk .value []).run t with
  | none => rfl
  | some s =>
      rw [hrun, Option.bind_some] at h
      refine State.result?_eq_none_of_feed ?_
      have hfeed : s.run "]" = s.feed ']' := State.run_singleton s ']'
      rw [hfeed] at h
      cases hclose : s.feed ']' with
      | none =>
          rw [hclose] at h
          cases h
      | some _ => rfl

/-- **An array without its closing bracket** is no document, and nothing is read of it. -/
theorem not_isDocument_and_read?_eq_none (items : List Json) :
    ¬ IsDocument ("[" ++ Text.joinWith "," (items.map compact)) ∧
      read? ("[" ++ Text.joinWith "," (items.map compact)) = none :=
  ⟨not_isDocument_of_concat (isDocument_array items),
    read?_eq_none_of_concat (by rw [read?_array]; rfl)⟩

end MarkupCatalog.Json
