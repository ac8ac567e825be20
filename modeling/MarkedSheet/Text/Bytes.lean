/-!
# Positions in bytes

Positions and lengths of a text count the bytes of its UTF-8 form.  A position inside a character
or past the end is none: a cut there is refused, never moved to a neighbouring character.
-/

namespace MarkedSheet

/-- The bytes from `start` up to, but not including, `stop`. -/
structure Span where
  start : Nat
  stop : Nat
  deriving DecidableEq, Repr

namespace Text

/-- The number of bytes of a text. -/
def width : List Char → Nat
  | [] => 0
  | c :: rest => c.utf8Size + width rest

/-- The text before and the text after position `n`. -/
def cutAt? : Nat → List Char → Option (List Char × List Char)
  | 0, cs => some ([], cs)
  | _ + 1, [] => none
  | n + 1, c :: rest =>
      if c.utf8Size ≤ n + 1 then
        (cutAt? (n + 1 - c.utf8Size) rest).map fun p => (c :: p.1, p.2)
      else
        none

def before? (n : Nat) (cs : List Char) : Option (List Char) :=
  (cutAt? n cs).map (·.1)

def after? (n : Nat) (cs : List Char) : Option (List Char) :=
  (cutAt? n cs).map (·.2)

/-- The text between two positions, the first of which is not after the second. -/
def slice? (start stop : Nat) (cs : List Char) : Option (List Char) :=
  if start ≤ stop then
    (after? start cs).bind (before? (stop - start))
  else
    none

@[simp]
theorem width_nil : width [] = 0 := rfl

@[simp]
theorem width_cons (c : Char) (cs : List Char) :
    width (c :: cs) = c.utf8Size + width cs := rfl

@[simp]
theorem width_append (cs ds : List Char) :
    width (cs ++ ds) = width cs + width ds := by
  induction cs with
  | nil => simp
  | cons c cs ih => simp [ih, Nat.add_assoc]

theorem cutAt?_width_append (cs ds : List Char) :
    cutAt? (width cs) (cs ++ ds) = some (cs, ds) := by
  induction cs with
  | nil => simp [cutAt?]
  | cons c cs ih =>
      have hpos : 0 < c.utf8Size := Char.utf8Size_pos c
      obtain ⟨n, hn⟩ : ∃ n, c.utf8Size + width cs = n + 1 :=
        ⟨c.utf8Size + width cs - 1, by omega⟩
      have hrest : n + 1 - c.utf8Size = width cs := by omega
      simp only [width_cons, List.cons_append, hn, cutAt?]
      rw [if_pos (by omega), hrest, ih]
      rfl

end Text

end MarkedSheet
