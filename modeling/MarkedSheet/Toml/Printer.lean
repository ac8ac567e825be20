import MarkedSheet.Decimal.Shortest
import MarkedSheet.Toml.Reader

/-!
# Writing documents

A table is written as one line for each of its plain values, followed by its tables and lists of
tables, each under a header of its own after an empty line.  A string takes the first of five
forms that can hold it: the plain ones are preferred to those with triple quotes, and escapes are
the last resort.
-/

namespace MarkedSheet.Toml

/-- Whether a character can only be written as an escape; tabs and line feeds need none. -/
def isControl (c : Char) : Bool :=
  (c.toNat < 0x20 && c ≠ '\t' && c ≠ '\n') || c.toNat = 0x7F

/-- Whether three of the same character stand side by side. -/
def hasTriple (d : Char) : List Char → Bool
  | a :: b :: c :: rest => (a = d && b = d && c = d) || hasTriple d (b :: c :: rest)
  | _ => false

/-- The escape of a control character. -/
def controlEscape (c : Char) : List Char :=
  if c = '\x08' then ['\\', 'b']
  else if c = '\x0c' then ['\\', 'f']
  else if c = '\r' then ['\\', 'r']
  else
    let digits := (Nat.toDigits 16 c.toNat).map Char.toUpper
    '\\' :: 'u' :: (List.replicate (4 - digits.length) '0' ++ digits)

/-- A character of a double-quoted string, quotes aside. -/
def escapedChar (c : Char) : List Char :=
  if c = '\\' then ['\\', '\\']
  else if c = '\t' then ['\\', 't']
  else if isControl c then controlEscape c
  else [c]

/-- The characters of a string on one line, with every double quote escaped. -/
def escapeLine (cs : List Char) : List Char :=
  cs.flatMap fun c => if c = '"' then ['\\', '"'] else escapedChar c

/-- The characters of a string between triple quotes.  Of a run of double quotes every third one
is escaped; `run` counts those before the text. -/
def escapeLines (run : Nat) : List Char → List Char
  | [] => []
  | c :: rest =>
      if c = '"' then
        if run = 2 then '\\' :: '"' :: escapeLines 0 rest
        else '"' :: escapeLines (run + 1) rest
      else escapedChar c ++ escapeLines 0 rest

/-- A text between triple quotes, on lines of its own when it has several. -/
def tripled (d : Char) (several : Bool) (body : List Char) : List Char :=
  let quotes := List.replicate 3 d
  quotes ++ ((if several then ['\n'] else []) ++ (body ++ quotes))

/-- A string in the first form that can hold it. -/
def stringChars (cs : List Char) : List Char :=
  let several := cs.contains '\n'
  let controls := cs.any isControl
  if !several && !controls && !cs.contains '"' && !cs.contains '\\' then
    '"' :: (escapeLine cs ++ ['"'])
  else if !several && !controls && !cs.contains '\'' then
    '\'' :: (cs ++ ['\''])
  else if !controls && !cs.contains '\\' && !hasTriple '"' cs then
    tripled '"' several (escapeLines 0 cs)
  else if !controls && !hasTriple '\'' cs then
    tripled '\'' several cs
  else if several then
    tripled '"' several (escapeLines 0 cs)
  else
    '"' :: (escapeLine cs ++ ['"'])

def keyChars (key : String) : List Char :=
  let cs := key.toList
  if !cs.isEmpty && cs.all isBareKeyChar then cs else stringChars cs

/-- The parts of a key with points between them. -/
def pathChars (path : List String) : List Char :=
  ['.'].intercalate (path.map keyChars)

/-- A double with a decimal point, or the word for what is no finite number. -/
def floatChars (x : Binary64) : List Char :=
  match x.magnitude with
  | .nan => ['n', 'a', 'n']
  | _ => x.textWithPlaces.toList

/-- The entries of a table in its braces. -/
def braced (entries : List Char) : List Char :=
  if entries.isEmpty then ['\x7b', '\x7d'] else '\x7b' :: ' ' :: (entries ++ [' ', '\x7d'])

mutual

/-- An item within a line. -/
def inlineChars : Item → List Char
  | .string s => stringChars s.toList
  | .integer n => (toString n).toList
  | .float x => floatChars x
  | .boolean true => ['t', 'r', 'u', 'e']
  | .boolean false => ['f', 'a', 'l', 's', 'e']
  | .datetime text => text.toList
  | .array items => '[' :: (inlineItems items ++ [']'])
  | .rows tables => '[' :: (inlineTables tables ++ [']'])
  | .table entries => braced (inlineEntries entries)

/-- Items with commas between them. -/
def inlineItems : List Item → List Char
  | [] => []
  | [i] => inlineChars i
  | i :: rest => inlineChars i ++ ',' :: ' ' :: inlineItems rest

/-- Tables with commas between them. -/
def inlineTables : List (List (String × Item)) → List Char
  | [] => []
  | [t] => braced (inlineEntries t)
  | t :: rest => braced (inlineEntries t) ++ ',' :: ' ' :: inlineTables rest

/-- Named items with commas between them. -/
def inlineEntries : List (String × Item) → List Char
  | [] => []
  | [(k, i)] => keyChars k ++ [' ', '=', ' '] ++ inlineChars i
  | (k, i) :: rest =>
      keyChars k ++ [' ', '=', ' '] ++ inlineChars i ++ ',' :: ' ' :: inlineEntries rest

end

/-- Whether an item is written under headers: a table, or rows of which there are some. -/
def Item.hasHeader : Item → Bool
  | .table _ => true
  | .rows (_ :: _) => true
  | _ => false

/-- The lines of the plain values of a table. -/
def plainLines (entries : Table) : List Char :=
  (entries.filter fun e => !e.2.hasHeader).flatMap fun e =>
    keyChars e.1 ++ [' ', '=', ' '] ++ inlineChars e.2 ++ ['\n']

/-- The header of a table or of one table of a list, after an empty line. -/
def headerLine (path : List String) (isRow : Bool) : List Char :=
  let brackets := if isRow then 2 else 1
  '\n' :: (List.replicate brackets '[' ++ (pathChars path ++
    (List.replicate brackets ']' ++ ['\n'])))

mutual

/-- The tables among named items, with their headers; `path` leads to the items. -/
def sections (path : List String) : List (String × Item) → List Char
  | [] => []
  | (k, i) :: rest => sectionOf (path ++ [k]) i ++ sections path rest

/-- An item under its own headers. -/
def sectionOf (path : List String) : Item → List Char
  | .table entries => headerLine path false ++ plainLines entries ++ sections path entries
  | .rows tables => rowSections path tables
  | _ => []

/-- Rows under their headers. -/
def rowSections (path : List String) : List (List (String × Item)) → List Char
  | [] => []
  | entries :: rest =>
      headerLine path true ++ plainLines entries ++ sections path entries ++
        rowSections path rest

end

/-- The text of a document. -/
def print (table : Table) : String :=
  String.ofList (plainLines table ++ sections [] table)

end MarkedSheet.Toml
