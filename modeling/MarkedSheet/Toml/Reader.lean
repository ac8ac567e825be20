import MarkedSheet.Toml.Quotation
import MarkedSheet.Toml.Scalar
import MarkedSheet.Toml.Tree

/-!
# Reading documents

A document is a sequence of lines that each hold a header, an assignment or nothing, and a comment
at the end.  Lists may stretch over several lines.  Lists and tables inside one value nest less than
eighty deep, and a dotted key has less than eighty parts.  Text that breaks a rule is no document.
-/

namespace MarkedSheet.Toml

/-- What was read, and the text after it. -/
abbrev Read (α : Type) := Option (α × List Char)

/-- The number of levels that bounds dotted keys and nested values. -/
def levelLimit : Nat :=
  80

/-- The text after the spaces and tabs at its start. -/
def skipSpaces (cs : List Char) : List Char :=
  cs.dropWhile fun c => c = ' ' || c = '\t'

/-- The text after a comment that may stand at its start. -/
def skipComment? : List Char → Option (List Char)
  | '#' :: rest =>
      let after := rest.dropWhile isTextChar
      if after.isEmpty || endsLine after then some after else none
  | cs => some cs

/-- The text after the end of a line, before which spaces and a comment may stand. -/
def endLine? (cs : List Char) : Option (List Char) :=
  (skipComment? (skipSpaces cs)).bind fun rest =>
    match rest with
    | [] => some []
    | '\n' :: rest => some rest
    | '\r' :: '\n' :: rest => some rest
    | _ => none

/-- The text after spaces, line breaks and comments; `commented` inside a comment. -/
def skipFiller? (commented : Bool) : List Char → Option (List Char)
  | [] => some []
  | '\n' :: rest => skipFiller? false rest
  | '\r' :: '\n' :: rest => skipFiller? false rest
  | c :: rest =>
      if commented then
        if isTextChar c then skipFiller? true rest else none
      else if c = ' ' || c = '\t' then skipFiller? false rest
      else if c = '#' then skipFiller? true rest
      else some (c :: rest)

/-- Whether a character may stand in a key without quotes. -/
def isBareKeyChar (c : Char) : Bool :=
  c.isAlphanum || c = '_' || c = '-'

/-- One part of a key. -/
def keyPart? (cs : List Char) : Read String :=
  match cs with
  | '"' :: rest => (basicString? rest).map fun r => (String.ofList r.1, r.2)
  | '\'' :: rest => (literalString? rest).map fun r => (String.ofList r.1, r.2)
  | cs =>
      let bare := cs.takeWhile isBareKeyChar
      if bare.isEmpty then none else some (String.ofList bare, cs.dropWhile isBareKeyChar)

/-- The parts of a key, at most `limit` of them, and the text after the key and its spaces. -/
def keyParts? : Nat → List Char → Read (List String)
  | 0, _ => none
  | limit + 1, cs =>
      (keyPart? (skipSpaces cs)).bind fun part =>
        match skipSpaces part.2 with
        | '.' :: rest => (keyParts? limit rest).map fun r => (part.1 :: r.1, r.2)
        | rest => some ([part.1], rest)

def key? (cs : List Char) : Read (List String) :=
  keyParts? (levelLimit - 1) cs

/-- A number, date or truth value; a date may go on with a time after one space. -/
def word? (cs : List Char) : Read Item :=
  let word := cs.takeWhile isWordChar
  let rest := cs.dropWhile isWordChar
  match rest with
  -- After a date, one space and a digit begin its time.
  | ' ' :: c :: tail =>
      if isDate word && c.isDigit then
        (scalar? (word ++ ' ' :: (c :: tail).takeWhile isWordChar)).map fun item =>
          (item, (c :: tail).dropWhile isWordChar)
      else (scalar? word).map fun item => (item, rest)
  | _ => (scalar? word).map fun item => (item, rest)

mutual

/-- A value, inside which lists and tables may nest `levels` deep.  Every step takes at least one
character, so that `fuel` never runs out when it exceeds the length of the text. -/
def value? : Nat → Nat → List Char → Read Item
  | 0, _, _ => none
  | fuel + 1, levels, cs =>
      match cs, levels with
      | '"' :: _, _ => (quotedString? cs).map fun r => (.string (String.ofList r.1), r.2)
      | '\'' :: _, _ => (quotedString? cs).map fun r => (.string (String.ofList r.1), r.2)
      | '[' :: rest, levels + 1 =>
          (items? fuel levels rest).map fun r => (.array r.1, r.2)
      | '{' :: rest, levels + 1 =>
          match skipSpaces rest with
          | '}' :: rest => some (.table [], rest)
          | rest =>
              (pairs? fuel levels rest).bind fun r =>
                (inlineTable? r.1).map fun item => (item, r.2)
      | cs, _ => word? cs

/-- The rest of a list, up to its closing bracket. -/
def items? : Nat → Nat → List Char → Read (List Item)
  | 0, _, _ => none
  | fuel + 1, levels, cs =>
      match skipFiller? false cs with
      | none => none
      | some (']' :: rest) => some ([], rest)
      | some cs =>
          (value? fuel levels cs).bind fun first =>
            match skipFiller? false first.2 with
            | some (',' :: rest) =>
                (items? fuel levels rest).map fun r => (first.1 :: r.1, r.2)
            | some (']' :: rest) => some ([first.1], rest)
            | _ => none

/-- The rest of a table between braces, up to its closing brace. -/
def pairs? : Nat → Nat → List Char → Read (List (List String × Item))
  | 0, _, _ => none
  | fuel + 1, levels, cs =>
      match key? cs with
      | some (key, '=' :: rest) =>
          (value? fuel levels (skipSpaces rest)).bind fun first =>
            match skipSpaces first.2 with
            | ',' :: rest =>
                (pairs? fuel levels rest).map fun r => ((key, first.1) :: r.1, r.2)
            | '}' :: rest => some ([(key, first.1)], rest)
            | _ => none
      | _ => none

end

/-- The text between the brackets of a header and after its line; `closing` are its last ones. -/
def header? (closing cs : List Char) : Read (List String) :=
  (key? cs).bind fun key =>
    if key.2.take closing.length = closing then
      (endLine? (key.2.drop closing.length)).map fun rest => (key.1, rest)
    else none

/-- An assignment and its line. -/
def assignment? (cs : List Char) : Read Statement :=
  match key? cs with
  | some (key, '=' :: rest) =>
      (value? (cs.length + 1) (levelLimit - 1) (skipSpaces rest)).bind fun v =>
        (endLine? v.2).map fun rest => (.assign key v.1, rest)
  | _ => none

/-- The statements of a text.  Every line takes at least one character, so that `fuel` never runs
out when it exceeds the length of the text. -/
def statements? : Nat → List Char → Option (List Statement)
  | 0, _ => none
  | fuel + 1, cs =>
      let next (read : Read Statement) : Option (List Statement) :=
        read.bind fun r => (statements? fuel r.2).map (r.1 :: ·)
      match skipSpaces cs with
      | [] => some []
      | '\n' :: rest => statements? fuel rest
      | '\r' :: '\n' :: rest => statements? fuel rest
      | '#' :: rest => (endLine? ('#' :: rest)).bind (statements? fuel)
      | '[' :: '[' :: rest =>
          next ((header? [']', ']'] rest).map fun h => (.row h.1, h.2))
      | '[' :: rest => next ((header? [']'] rest).map fun h => (.table h.1, h.2))
      | cs => next (assignment? cs)

/-- The text without the mark of byte order that may stand at its start. -/
def dropByteOrderMark : List Char → List Char
  | c :: rest => if c.toNat = 0xFEFF then rest else c :: rest
  | [] => []

/-- The table that a text writes. -/
def read? (text : String) : Option Table :=
  let cs := dropByteOrderMark text.toList
  (statements? (cs.length + 1) cs).bind assemble?

end MarkedSheet.Toml
