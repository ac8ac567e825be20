import MarkedSheet.Marker.Token

/-!
# The lexer of a cell

Tokens are taken from the front of a text, each of them as long as possible.  Where no token begins
there is an error, which takes up one character, and errors are dropped.  That the tokens cover the
text all the same rests on the kinds of tokens: one of them begins with every character.
-/

namespace MarkedSheet.Lexer

def isBracket (c : Char) : Bool :=
  c = '[' || c = ']'

/-- The token of a single character, if a text begins with this character. -/
def single? (c : Char) (t : Token) : List Char → Option Token
  | [] => none
  | d :: _ => if d = c then some t else none

/-- The longest run of text that a text begins with, if there is one. -/
def run? (cs : List Char) : Option Token :=
  match cs.takeWhile fun c => !isBracket c with
  | [] => none
  | run => some (.text run)

/-- The token that a text begins with; no two kinds of tokens begin with the same character. -/
def first? (cs : List Char) : Option Token :=
  (single? '[' .opening cs).or ((single? ']' .closing cs).or (run? cs))

/-- The tokens of a text, and nothing for each error, with their spans; the first span starts at
`start`. -/
def spanned (start : Nat) (cs : List Char) : List (Option Token × Span) :=
  match cs with
  | [] => []
  | c :: rest =>
      let token? := first? (c :: rest)
      let taken := (token?.map Token.chars).getD [c]
      let stop := start + Text.width taken
      (token?, ⟨start, stop⟩) :: spanned stop (rest.drop (taken.length - 1))
termination_by cs.length

/-- The tokens of a text with their spans. -/
def lex (cs : List Char) : List (Token × Span) :=
  (spanned 0 cs).filterMap fun x => x.1.map fun t => (t, x.2)

end MarkedSheet.Lexer
