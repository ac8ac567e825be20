import MarkedSheet.Text.Bytes

/-!
# Tokens of a cell

The text of a cell is cut into brackets and the runs of text between them.  Nothing is dropped, so
the spans of the tokens tile the text.
-/

namespace MarkedSheet

/-- An opening bracket, a closing bracket, or a run of other characters as long as possible. -/
inductive Token where
  | opening
  | closing
  | text (chars : List Char)
  deriving DecidableEq, Repr

namespace Token

def chars : Token → List Char
  | opening => ['[']
  | closing => [']']
  | text cs => cs

/-- Put a character in front of tokens, into the run of text that they start with, if any. -/
def consText (c : Char) : List Token → List Token
  | text cs :: rest => text (c :: cs) :: rest
  | tokens => text [c] :: tokens

def scan : List Char → List Token
  | [] => []
  | c :: rest =>
      if c = '[' then opening :: scan rest
      else if c = ']' then closing :: scan rest
      else consText c (scan rest)

/-- Each token with its span, the first one starting at `start`. -/
def locate (start : Nat) : List Token → List (Token × Span)
  | [] => []
  | t :: rest =>
      let stop := start + Text.width t.chars
      (t, ⟨start, stop⟩) :: locate stop rest

theorem flatMap_chars_consText (c : Char) (tokens : List Token) :
    (consText c tokens).flatMap chars = c :: tokens.flatMap chars := by
  unfold consText
  split <;> simp [chars]

theorem flatMap_chars_scan (cs : List Char) :
    (scan cs).flatMap chars = cs := by
  induction cs with
  | nil => rfl
  | cons c cs ih =>
      unfold scan
      split
      · simp_all [chars]
      · split
        · simp_all [chars]
        · rw [flatMap_chars_consText, ih]

end Token

end MarkedSheet
