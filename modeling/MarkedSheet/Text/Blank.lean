/-!
# Blank characters

The blank characters are those with the Unicode property `White_Space`.  Trimming removes the
blank characters at the two ends of a text and keeps everything between them.
-/

namespace MarkedSheet.Text

/-- A character is blank when it has the Unicode property `White_Space`. -/
def isBlank (c : Char) : Bool :=
  let n := c.toNat
  (9 ≤ n && n ≤ 13) || n == 0x20 || n == 0x85 || n == 0xA0 || n == 0x1680 ||
    (0x2000 ≤ n && n ≤ 0x200A) || n == 0x2028 || n == 0x2029 || n == 0x202F ||
    n == 0x205F || n == 0x3000

def trimStart (cs : List Char) : List Char :=
  cs.dropWhile isBlank

def trimEnd : List Char → List Char
  | [] => []
  | c :: rest =>
      match trimEnd rest with
      | [] => if isBlank c then [] else [c]
      | d :: ds => c :: d :: ds

def trim (cs : List Char) : List Char :=
  trimEnd (trimStart cs)

/-- A text is blank when all its characters are. -/
def allBlank (cs : List Char) : Bool :=
  cs.all isBlank

/-- The trimmed text, or nothing when only blank characters are there. -/
def trimmed? (cs : List Char) : Option String :=
  match trim cs with
  | [] => none
  | c :: rest => some (String.ofList (c :: rest))

end MarkedSheet.Text
