import MarkedSheet.Marker.Segment
import MarkedSheet.Marker.Token

/-!
# The grammar of a cell

The brackets of a cell are also given by a grammar over its tokens:

    cell    := loose* segment*
    segment := marker | broken
    marker  := '[' text? ']' loose*
    broken  := '[' text?
    loose   := text | ']'

Of two alternatives the first one that fits is taken, and an optional or repeated element takes as
many tokens as it can.  A cell of which tokens are left over is refused as a whole.
-/

namespace MarkedSheet

/-- Tokens with their spans. -/
abbrev Tokens := List (Token × Span)

/-- A rule takes tokens from the front and leaves the rest, or it does not fit. -/
abbrev Rule (α : Type) := Tokens → Option (α × Tokens)

namespace Token

def isText : Token → Bool
  | text _ => true
  | _ => false

end Token

namespace Rule

variable {α β : Type}

/-- The span of the next token, if it is one of those asked for. -/
def token (p : Token → Bool) : Rule Span
  | [] => none
  | (t, span) :: rest => if p t then some (span, rest) else none

def map (f : α → β) (p : Rule α) : Rule β := fun ts =>
  (p ts).map fun r => (f r.1, r.2)

/-- Both rules, the second one on what the first one leaves. -/
def andThen (p : Rule α) (q : Rule β) : Rule (α × β) := fun ts =>
  (p ts).bind fun r => (q r.2).map fun s => ((r.1, s.1), s.2)

/-- The first rule, or the second one on the same tokens where the first one does not fit. -/
def orElse (p q : Rule α) : Rule α := fun ts =>
  match p ts with
  | some r => some r
  | none => q ts

def optional (p : Rule α) : Rule (Option α) := fun ts =>
  match p ts with
  | some (a, rest) => some (some a, rest)
  | none => some (none, ts)

/-- A rule as often as it fits, and what it leaves in the end; it stops where it takes nothing. -/
def repeated (p : Rule α) (ts : Tokens) : List α × Tokens :=
  match p ts with
  | none => ([], ts)
  | some (a, rest) =>
      if rest.length < ts.length then
        let later := repeated p rest
        (a :: later.1, later.2)
      else ([], ts)
termination_by ts.length

end Rule

/-- What the grammar finds at an opening bracket: the brackets of a marker, or the span of a bracket
left open. -/
inductive Finding where
  | marker (brackets : Brackets)
  | broken (span : Span)
  deriving DecidableEq, Repr

namespace Finding

def brackets? : Finding → Option Brackets
  | marker brackets => some brackets
  | broken _ => none

def unclosedSpan? : Finding → Option Span
  | marker _ => none
  | broken span => some span

end Finding

/-- The markers of a cell and the spans of the brackets left open, each in the order of the text. -/
structure BracketReport where
  brackets : List Brackets
  unclosed : List Span
  deriving DecidableEq, Repr

namespace CellGrammar

def loose : Rule Span :=
  (Rule.token Token.isText).orElse (Rule.token (· = .closing))

/-- All loose tokens at the front. -/
def looseRun : Rule (List Span) := fun ts =>
  some (Rule.repeated loose ts)

def opening : Rule (Span × Option Span) :=
  (Rule.token (· = .opening)).andThen (Rule.token Token.isText).optional

def marker : Rule Finding :=
  ((opening.andThen (Rule.token (· = .closing))).andThen looseRun).map fun r =>
    .marker ⟨r.1.1.1, r.1.2⟩

/-- A bracket left open spans the tokens that were taken. -/
def broken : Rule Finding :=
  opening.map fun r => .broken ⟨r.1.start, (r.2.getD r.1).stop⟩

def segment : Rule Finding :=
  marker.orElse broken

/-- The findings of a cell, unless the grammar leaves tokens over. -/
def cell? (ts : Tokens) : Option (List Finding) :=
  let found := Rule.repeated segment (Rule.repeated loose ts).2
  if found.2.isEmpty then some found.1 else none

/-- What the grammar finds in a text. -/
def report? (text : List Char) : Option BracketReport :=
  (cell? (Token.locate 0 (Token.scan text))).map fun found =>
    ⟨found.filterMap Finding.brackets?, found.filterMap Finding.unclosedSpan?⟩

end CellGrammar

end MarkedSheet
