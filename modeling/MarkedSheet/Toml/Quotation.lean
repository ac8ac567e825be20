/-!
# Quoted strings

The strings of a document: between single or triple quotes, with escapes in the double-quoted
forms.  Only the triple-quoted forms hold line breaks, and in them one or two quotes may stand
before the closing three.  Line breaks are read as line feeds.
-/

namespace MarkedSheet.Toml

/-- Whether a character may stand for itself in a line of text. -/
def isTextChar (c : Char) : Bool :=
  c = '\t' || (0x20 ≤ c.toNat && c.toNat ≠ 0x7F)

def hexDigit? (c : Char) : Option Nat :=
  if c.isDigit then some (c.toNat - '0'.toNat)
  else if 'a'.toNat ≤ c.toLower.toNat ∧ c.toLower.toNat ≤ 'f'.toNat then
    some (c.toLower.toNat - 'a'.toNat + 10)
  else none

/-- The number with these hexadecimal digits. -/
def hexNumber? (seen : Nat) : List Char → Option Nat
  | [] => some seen
  | c :: rest => (hexDigit? c).bind fun d => hexNumber? (16 * seen + d) rest

/-- The character with a code point in hexadecimal digits. -/
def codePoint? (cs : List Char) : Option Char :=
  match hexNumber? 0 cs with
  | some n => if n < 0xD800 ∨ (0xDFFF < n ∧ n < 0x110000) then some (Char.ofNat n) else none
  | none => none

/-- The character that one letter after a backslash stands for. -/
def escaped? : Char → Option Char
  | 'b' => some '\x08'
  | 't' => some '\t'
  | 'n' => some '\n'
  | 'f' => some '\x0c'
  | 'r' => some '\r'
  | '"' => some '"'
  | '\\' => some '\\'
  | _ => none

/-- Put a character in front of what was read. -/
def prepend? (c : Option Char) (read : Option (List Char × List Char)) :
    Option (List Char × List Char) :=
  c.bind fun c => read.map fun r => (c :: r.1, r.2)

/-- The string up to the closing double quote, and what follows it. -/
def basicString? : List Char → Option (List Char × List Char)
  | [] => none
  | '"' :: rest => some ([], rest)
  | '\\' :: 'u' :: a :: b :: c :: d :: rest =>
      prepend? (codePoint? [a, b, c, d]) (basicString? rest)
  | '\\' :: 'U' :: a :: b :: c :: d :: e :: f :: g :: h :: rest =>
      prepend? (codePoint? [a, b, c, d, e, f, g, h]) (basicString? rest)
  | '\\' :: c :: rest => prepend? (escaped? c) (basicString? rest)
  | c :: rest =>
      if isTextChar c && c ≠ '\\' then prepend? (some c) (basicString? rest) else none

/-- The string up to the closing single quote, and what follows it. -/
def literalString? : List Char → Option (List Char × List Char)
  | [] => none
  | '\'' :: rest => some ([], rest)
  | c :: rest => if isTextChar c then prepend? (some c) (literalString? rest) else none

/-- The text without a line break at its start. -/
def dropLineBreak : List Char → List Char
  | '\n' :: rest => rest
  | '\r' :: '\n' :: rest => rest
  | cs => cs

/-- Whether nothing but spaces and tabs stands before the next line break. -/
def endsLine : List Char → Bool
  | '\n' :: _ => true
  | '\r' :: '\n' :: _ => true
  | ' ' :: rest => endsLine rest
  | '\t' :: rest => endsLine rest
  | _ => false

/-- The string up to the closing three double quotes, and what follows them; while `skipping`, the
blanks and line breaks after a backslash at the end of a line are left out. -/
def basicLines? (skipping : Bool) : List Char → Option (List Char × List Char)
  | [] => none
  | '"' :: '"' :: '"' :: '"' :: '"' :: rest => some (['"', '"'], rest)
  | '"' :: '"' :: '"' :: '"' :: rest => some (['"'], rest)
  | '"' :: '"' :: '"' :: rest => some ([], rest)
  | '\\' :: 'u' :: a :: b :: c :: d :: rest =>
      prepend? (codePoint? [a, b, c, d]) (basicLines? false rest)
  | '\\' :: 'U' :: a :: b :: c :: d :: e :: f :: g :: h :: rest =>
      prepend? (codePoint? [a, b, c, d, e, f, g, h]) (basicLines? false rest)
  | '\\' :: c :: rest =>
      if endsLine (c :: rest) then basicLines? true rest
      else prepend? (escaped? c) (basicLines? false rest)
  | '\r' :: '\n' :: rest =>
      if skipping then basicLines? true rest else prepend? (some '\n') (basicLines? false rest)
  | c :: rest =>
      if skipping && (c = ' ' || c = '\t' || c = '\n') then basicLines? true rest
      else if (isTextChar c || c = '\n') && c ≠ '\\' then
        prepend? (some c) (basicLines? false rest)
      else none

/-- The string up to the closing three single quotes, and what follows them. -/
def literalLines? : List Char → Option (List Char × List Char)
  | [] => none
  | '\'' :: '\'' :: '\'' :: '\'' :: '\'' :: rest => some (['\'', '\''], rest)
  | '\'' :: '\'' :: '\'' :: '\'' :: rest => some (['\''], rest)
  | '\'' :: '\'' :: '\'' :: rest => some ([], rest)
  | '\r' :: '\n' :: rest => prepend? (some '\n') (literalLines? rest)
  | c :: rest =>
      if isTextChar c || c = '\n' then prepend? (some c) (literalLines? rest) else none

/-- The string that starts with the given text, which begins with a quote, and what follows it. -/
def quotedString? : List Char → Option (List Char × List Char)
  | '"' :: '"' :: '"' :: rest => basicLines? false (dropLineBreak rest)
  | '"' :: rest => basicString? rest
  | '\'' :: '\'' :: '\'' :: rest => literalLines? (dropLineBreak rest)
  | '\'' :: rest => literalString? rest
  | _ => none

end MarkedSheet.Toml
