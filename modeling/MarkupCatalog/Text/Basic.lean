/-!
# Text

A text is the list of its code points.  Every offset and length of this library
counts code points, so positions in a text are positions in a list and a slice is
`take` and `drop`.
-/

namespace MarkupCatalog

/-- A text: the sequence of its code points. -/
abbrev Text := List Char

/-- A quoted constant stands for the sequence of its characters. -/
instance : Coe String Text := ⟨String.toList⟩

namespace Text

/-- The characters of `text` from offset `start` up to, and without, offset `stop`. -/
def slice (text : Text) (start stop : Nat) : Text :=
  (text.take stop).drop start

/-- The pieces of `text` between the occurrences of `sep`; there is always at
least one piece. -/
def splitOnChar (sep : Char) : Text → List Text
  | [] => [[]]
  | c :: rest =>
      if c = sep then [] :: splitOnChar sep rest
      else match splitOnChar sep rest with
        | piece :: pieces => (c :: piece) :: pieces
        | [] => [[c]]

/-- The pieces written one after the other with `glue` between neighbours. -/
def joinWith (glue : Text) : List Text → Text
  | [] => []
  | [piece] => piece
  | piece :: pieces => piece ++ glue ++ joinWith glue pieces

/-- The decimal digits of a natural number. -/
def ofNat (n : Nat) : Text := Nat.toDigits 10 n

/-- The decimal digits of an integer, after a minus sign when it is negative. -/
def ofInt : Int → Text
  | .ofNat n => ofNat n
  | .negSucc n => '-' :: ofNat (n + 1)

/-- Texts are ordered by their code points, a proper beginning first. -/
def le : Text → Text → Bool
  | [], _ => true
  | _ :: _, [] => false
  | a :: as, b :: bs => if a = b then le as bs else a.toNat < b.toNat

/-- The order is total, which makes sorting by it meaningful. -/
theorem le_total (a b : Text) : (le a b || le b a) = true := by
  induction a generalizing b with
  | nil => simp [le]
  | cons x xs ih =>
      cases b with
      | nil => simp [le]
      | cons y ys =>
          by_cases h : x = y
          · simpa [le, h] using ih ys
          · have hne : x.toNat ≠ y.toNat := fun e => h (Char.toNat_inj.mp e)
            have h' : ¬ y = x := fun e => h e.symm
            simp only [le, h, h', if_false, Bool.or_eq_true, decide_eq_true_eq]
            omega

end Text

end MarkupCatalog
