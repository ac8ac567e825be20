import MarkedSheet.Text.Blank
import MarkedSheet.Text.Search

/-!
# Plain fields

The text after the closing bracket of a plain marker declares a default and a hint.  With a
semicolon, the default stands before it and the hint is the first parenthesised group after it.
Without one, the hint is the first group and the default is all that stands outside the groups.  A
group that is not closed runs to the end of the text.
-/

namespace MarkedSheet

/-- What a plain marker declares; the field is required exactly when it has no default. -/
structure PlainField where
  name : String
  default? : Option String
  hint? : Option String
  required : Bool
  deriving DecidableEq, Repr

namespace PlainField

/-- The trimmed inside of the first group, when it is not blank. -/
def firstGroup? (cs : List Char) : Option String :=
  match Text.splitAtFirst? '(' cs with
  | none => none
  | some (_, rest) => Text.trimmed? (rest.takeWhile (· != ')'))

/-- The text outside the groups; `inGroup` tells whether the text starts inside one. -/
def outsideGroups (inGroup : Bool) : List Char → List Char
  | [] => []
  | c :: rest =>
      if inGroup then outsideGroups (c != ')') rest
      else if c = '(' then outsideGroups true rest
      else c :: outsideGroups false rest

def defaultOf (tail : List Char) : Option String :=
  match Text.splitAtFirst? ';' tail with
  | some (before, _) => Text.trimmed? before
  | none => Text.trimmed? (outsideGroups false tail)

def hintOf (tail : List Char) : Option String :=
  match Text.splitAtFirst? ';' tail with
  | some (_, after) => firstGroup? after
  | none => firstGroup? tail

/-- The field that a marker with this name and the text after it declares. -/
def read (name : String) (tail : List Char) : PlainField where
  name := name
  default? := defaultOf tail
  hint? := hintOf tail
  required := (defaultOf tail).isNone

end PlainField

end MarkedSheet
