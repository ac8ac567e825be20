import MarkedSheet.Text.Bytes
import MarkedSheet.Text.Search

/-!
# Segments of a cell

Every opening bracket of a cell starts a segment, which runs up to the next opening bracket or to
the end of the cell.  A segment with a closing bracket is a marker with the text that follows it;
one without is left open.  Closing brackets without a partner are ordinary text.
-/

namespace MarkedSheet

/-- What one opening bracket starts: `[content]tail`, or `[content` without a closing bracket. -/
inductive Segment where
  | closed (content tail : List Char)
  | unclosed (content : List Char)
  deriving DecidableEq, Repr

/-- The spans of the two brackets of a marker. -/
structure Brackets where
  opening : Span
  closing : Span
  deriving DecidableEq, Repr

/-- The text of a cell as the text before its first opening bracket and its segments. -/
structure CellText where
  lead : List Char
  segments : List Segment
  deriving DecidableEq, Repr

namespace Segment

/-- The segment whose opening bracket is followed by `body`. -/
def ofBody (body : List Char) : Segment :=
  match Text.splitAtFirst? ']' body with
  | some (content, tail) => closed content tail
  | none => unclosed body

def chars : Segment → List Char
  | closed content tail => '[' :: (content ++ ']' :: tail)
  | unclosed content => '[' :: content

/-- The span of a segment that begins at `start`. -/
def span (start : Nat) (s : Segment) : Span :=
  ⟨start, start + Text.width s.chars⟩

/-- The brackets of a segment that begins at `start`, when it has both. -/
def brackets? (start : Nat) : Segment → Option Brackets
  | closed content _ =>
      let close := start + 1 + Text.width content
      some ⟨⟨start, start + 1⟩, ⟨close, close + 1⟩⟩
  | unclosed _ => none

/-- The span of a segment that begins at `start`, when it lacks the closing bracket. -/
def unclosedSpan? (start : Nat) (s : Segment) : Option Span :=
  match s with
  | closed _ _ => none
  | unclosed _ => some (s.span start)

/-- Each segment with the position of its opening bracket, the first one being at `start`. -/
def locate (start : Nat) : List Segment → List (Nat × Segment)
  | [] => []
  | s :: rest => (start, s) :: locate (start + Text.width s.chars) rest

theorem chars_ofBody (body : List Char) :
    (ofBody body).chars = '[' :: body := by
  unfold ofBody
  split
  · next content tail h =>
      rw [(Text.eq_append_of_splitAtFirst? h).1]
      rfl
  · rfl

end Segment

namespace CellText

/-- The lead and the segments of a text. -/
def read : List Char → CellText
  | [] => ⟨[], []⟩
  | c :: rest =>
      let r := read rest
      if c = '[' then ⟨[], Segment.ofBody r.lead :: r.segments⟩
      else ⟨c :: r.lead, r.segments⟩

def chars (t : CellText) : List Char :=
  t.lead ++ t.segments.flatMap Segment.chars

/-- The segments with the positions of their opening brackets. -/
def located (t : CellText) : List (Nat × Segment) :=
  Segment.locate (Text.width t.lead) t.segments

def brackets (t : CellText) : List Brackets :=
  t.located.filterMap fun p => p.2.brackets? p.1

def unclosed (t : CellText) : List Span :=
  t.located.filterMap fun p => p.2.unclosedSpan? p.1

theorem chars_read (cs : List Char) : (read cs).chars = cs := by
  induction cs with
  | nil => rfl
  | cons c cs ih =>
      unfold chars at ih ⊢
      simp only [read]
      split
      · next h =>
          subst h
          simp only [List.flatMap_cons, Segment.chars_ofBody, List.nil_append, List.cons_append]
          rw [ih]
      · simp only [List.cons_append]
        rw [ih]

end CellText

end MarkedSheet
