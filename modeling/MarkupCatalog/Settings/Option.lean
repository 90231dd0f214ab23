import MarkupCatalog.Callback
import MarkupCatalog.Path

/-!
# Options

The options of a run before anybody has looked at them: a mapping from keys to values of
any kind, of which only the kinds that some option may have are told apart.
-/

namespace MarkupCatalog

/-- The value of an option. -/
inductive OptionValue
  | none
  | text (t : Text)
  | path (p : Path)
  | callback (c : Callback)
  | sequence (items : List OptionValue)
  /-- A value of any other kind: a number, a truth value, a mapping. -/
  | other
  deriving Inhabited

namespace OptionValue

/-- The text that the value is. -/
def text? : OptionValue → Option Text
  | .text t => some t
  | _ => .none

/-- A list of texts as a value. -/
def ofTexts (texts : List Text) : OptionValue := .sequence (texts.map .text)

end OptionValue

/-- Options by key. -/
abbrev Options := List (Text × OptionValue)

namespace Options

/-- The value of an option; one that is not there has the value `none`. -/
def value (o : Options) (key : Text) : OptionValue :=
  ((o.find? (·.1 = key)).map (·.2)).getD .none

/-- Is there an option with this key? -/
def has (o : Options) (key : Text) : Bool := o.any (·.1 = key)

/-- The options with one of them set. -/
def set (o : Options) (key : Text) (value : OptionValue) : Options :=
  match o with
  | [] => [(key, value)]
  | (k, v) :: rest => if k = key then (k, value) :: rest else (k, v) :: set rest key value

end Options

/-- What the caller gives as options: nothing, a mapping, or something else. -/
inductive OptionsGiven
  | nothing
  | mapping (o : Options)
  | other

end MarkupCatalog
