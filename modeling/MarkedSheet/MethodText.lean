import MarkedSheet.Text.Blank

/-!
# Texts of methods

The text of a method is broken into two lines: the identifier of a standard and the name of the
method.  After an identifier the break comes before the first character outside ASCII, or right
after the identifier when there is none.  Other text breaks at its last blank.  A text that would
leave a line empty, and one that already has several lines, stays as it is.
-/

namespace MarkedSheet.MethodText

def isDigitOrPoint (c : Char) : Bool :=
  c.isDigit || c = '.'

/-- The letters of a standard's identifier, as in `GB/T`, and what follows them. -/
def letters? (cs : List Char) : Option (List Char × List Char) :=
  let first := cs.takeWhile Char.isAlpha
  let rest := cs.dropWhile Char.isAlpha
  if first.isEmpty then none
  else
    match rest with
    | '/' :: tail =>
        let second := tail.takeWhile Char.isAlpha
        if second.isEmpty then some (first, rest)
        else some (first ++ '/' :: second, tail.dropWhile Char.isAlpha)
    | _ => some (first, rest)

/-- The number of a standard's identifier, as in `5750.4-2023`, and what follows it. -/
def number? (cs : List Char) : Option (List Char × List Char) :=
  match cs with
  | [] => none
  | c :: _ =>
      if c.isDigit then
        let serial := cs.takeWhile isDigitOrPoint
        match cs.dropWhile isDigitOrPoint with
        | '-' :: tail =>
            let year := tail.takeWhile Char.isDigit
            if year.isEmpty then none
            else some (serial ++ '-' :: year, tail.dropWhile Char.isDigit)
        | _ => none
      else none

/-- The standard's identifier at the start of a text, and what follows it. -/
def identifier? (cs : List Char) : Option (List Char × List Char) :=
  (letters? cs).bind fun l =>
    let blanks := l.2.takeWhile Text.isBlank
    (number? (l.2.dropWhile Text.isBlank)).map fun n => (l.1 ++ (blanks ++ n.1), n.2)

def isAscii (c : Char) : Bool :=
  c.toNat < 128

/-- The two parts around the break after an identifier with the given text after it. -/
def afterIdentifier (identifier rest : List Char) : List Char × List Char :=
  if rest.all isAscii then (identifier, rest)
  else (identifier ++ rest.takeWhile isAscii, rest.dropWhile isAscii)

/-- The two parts before and from the last blank on. -/
def atLastBlank? : List Char → Option (List Char × List Char)
  | [] => none
  | c :: rest =>
      match atLastBlank? rest with
      | some (head, tail) => some (c :: head, tail)
      | none => if Text.isBlank c then some ([], c :: rest) else none

/-- The two parts of a trimmed text. -/
def parts? (cs : List Char) : Option (List Char × List Char) :=
  match identifier? cs with
  | some (identifier, rest) => some (afterIdentifier identifier rest)
  | none => atLastBlank? cs

/-- Two parts on lines of their own, without blanks at the break; neither may be empty. -/
def lines? (head tail : List Char) : Option (List Char) :=
  let first := Text.trimEnd head
  let second := Text.trimStart tail
  if first.isEmpty || second.isEmpty then none else some (first ++ '\n' :: second)

/-- The text in two lines, or unchanged when it has no place to break. -/
def split (text : String) : String :=
  let cs := Text.trim text.toList
  if cs.isEmpty || cs.contains '\n' then text
  else
    match (parts? cs).bind fun p => lines? p.1 p.2 with
    | some lines => String.ofList lines
    | none => text

end MarkedSheet.MethodText
