import MarkupCatalog.Exclusion.Glob
import MarkupCatalog.Text.Blank
import MarkupCatalog.Text.Search

/-!
# Exclusion rules

A rule excludes the entries of a directory tree that its pattern matches.

* White space around a pattern does not count; an empty pattern and one that starts
  with `#` make no rule.
* A leading `!` takes entries back in; a trailing `/` restricts the rule to
  directories; a leading `/` ties the pattern to the root of the tree.
* A pattern that is tied to the root, or has a slash in the middle, is matched with
  the path from the root, any other one with each component of that path.
* Of the rules that match an entry, the last one decides.
-/

namespace MarkupCatalog.Exclusion

/-- An exclusion rule. -/
structure Rule where
  pattern : Text
  directoryOnly : Bool
  anchored : Bool
  negated : Bool
  hasSlash : Bool
  deriving DecidableEq, Repr

/-- The rule that a pattern makes. -/
def Rule.ofPattern? (pattern : Text) : Option Rule :=
  let pattern := Text.strip pattern
  if pattern.isEmpty || Text.startsWith '#' pattern then none
  else
    let negated := Text.startsWith '!' pattern
    let pattern := if negated then pattern.drop 1 else pattern
    let directoryOnly := Text.endsWith '/' pattern
    let pattern := if directoryOnly then pattern.dropLast else pattern
    let anchored := Text.startsWith '/' pattern
    let pattern := if anchored then pattern.drop 1 else pattern
    some { pattern, directoryOnly, anchored, negated, hasSlash := pattern.contains '/' }

/-- Does the rule match the entry with this path from the root? -/
def Rule.applies (rule : Rule) (path : Text) (isDirectory : Bool) : Bool :=
  if rule.pattern.isEmpty then false
  else if rule.directoryOnly && !isDirectory then false
  else if rule.anchored || rule.hasSlash then Glob.isMatch rule.pattern path
  else (Text.splitOnChar '/' path).any (Glob.isMatch rule.pattern)

/-- The rules that a list of patterns makes. -/
def rules (patterns : List Text) : List Rule :=
  patterns.filterMap Rule.ofPattern?

/-- Is the entry excluded?  The last rule that applies decides. -/
def isExcluded (rules : List Rule) (path : Text) (isDirectory : Bool) : Bool :=
  rules.foldl (fun out rule => if rule.applies path isDirectory then !rule.negated else out) false

end MarkupCatalog.Exclusion
