import Mathlib.Tactic.SplitIfs
import MarkedSheet.Toml.Printer

/-!
# Strings read back

A string is written in one of five forms, and each of them is read back as that string.  Between
triple quotes at most two quotes stand side by side, so that the first three that do are the closing
ones, the string's own last quotes in front of them included.
-/

namespace MarkedSheet.Toml

/-- An escape that stands for a character: one letter, or four digits. -/
def isEscapeOf (c : Char) : List Char → Bool
  | ['\\', e] => escaped? e = some c
  | ['\\', 'u', a, b, d, e] => codePoint? [a, b, d, e] = some c
  | _ => false

/-- A character that stands for itself where escapes are read. -/
structure IsPlain (c : Char) : Prop where
  text : isTextChar c = true ∨ c = '\n'
  quote : c ≠ '"'
  backslash : c ≠ '\\'
  carriage : c ≠ '\r'

theorem isEscapeOf_controlEscape {c : Char} (h : isControl c = true) :
    isEscapeOf c (controlEscape c) = true := by
  have hall : ∀ n < 128, isControl (Char.ofNat n) = true →
      isEscapeOf (Char.ofNat n) (controlEscape (Char.ofNat n)) = true := by decide
  have hsmall : c.toNat < 128 := by
    simp only [isControl, Bool.or_eq_true, Bool.and_eq_true, decide_eq_true_eq] at h
    omega
  have hc := hall c.toNat hsmall
  rw [Char.ofNat_toNat] at hc
  exact hc h

theorem isTextChar_or_eq {c : Char} (h : isControl c = false) :
    isTextChar c = true ∨ c = '\n' := by
  simp only [isControl, isTextChar, Bool.or_eq_false_iff, Bool.and_eq_false_imp, Bool.or_eq_true,
    Bool.and_eq_true, decide_eq_true_eq, decide_eq_false_iff_not, Decidable.not_not] at h ⊢
  by_cases ht : c = '\t'
  · exact Or.inl (Or.inl ht)
  · by_cases hn : c = '\n'
    · exact Or.inr hn
    · have hlow : ¬ c.toNat < 0x20 := fun hlow => hn (h.1 ⟨hlow, ht⟩)
      exact Or.inl (Or.inr ⟨by omega, h.2⟩)

theorem carriage_of_not_isControl {c : Char} (h : isControl c = false) : c ≠ '\r' := by
  rintro rfl
  exact absurd h (by decide)

/-- Every character but the double quote is written as an escape or stands for itself. -/
theorem escapedChar_cases {c : Char} (hquote : c ≠ '"') :
    isEscapeOf c (escapedChar c) = true ∨ escapedChar c = [c] ∧ IsPlain c := by
  unfold escapedChar
  split
  · next h =>
      left
      subst h
      decide
  · next hbackslash =>
      split
      · next h =>
          left
          subst h
          decide
      · split
        · next h => exact Or.inl (isEscapeOf_controlEscape h)
        · next h =>
            have hcontrol : isControl c = false := by simpa using h
            exact Or.inr ⟨rfl, isTextChar_or_eq hcontrol, hquote, hbackslash,
              carriage_of_not_isControl hcontrol⟩

section Escapes

variable {c : Char} {w rest : List Char}

theorem exists_of_isEscapeOf (h : isEscapeOf c w = true) :
    (∃ e, w = ['\\', e] ∧ escaped? e = some c) ∨
      ∃ a b d e, w = ['\\', 'u', a, b, d, e] ∧ codePoint? [a, b, d, e] = some c := by
  unfold isEscapeOf at h
  split at h
  · next e => exact Or.inl ⟨e, rfl, by simpa using h⟩
  · next a b d e => exact Or.inr ⟨a, b, d, e, rfl, by simpa using h⟩
  · cases h

/-- No escape of one letter has a letter that digits follow. -/
theorem ne_of_escaped? {e : Char} (h : escaped? e = some c) : e ≠ 'u' ∧ e ≠ 'U' := by
  constructor
  · rintro rfl
    simp [escaped?] at h
  · rintro rfl
    simp [escaped?] at h

theorem basicString?_escape (h : isEscapeOf c w = true) :
    basicString? (w ++ rest) = prepend? (some c) (basicString? rest) := by
  rcases exists_of_isEscapeOf h with ⟨e, rfl, he⟩ | ⟨a, b, d, e, rfl, he⟩
  · obtain ⟨hu, hU⟩ := ne_of_escaped? he
    simp [basicString?, he, hu, hU]
  · simp [basicString?, he]

theorem basicLines?_escape (h : isEscapeOf c w = true) :
    basicLines? false (w ++ rest) = prepend? (some c) (basicLines? false rest) := by
  rcases exists_of_isEscapeOf h with ⟨e, rfl, he⟩ | ⟨a, b, d, e, rfl, he⟩
  · obtain ⟨hu, hU⟩ := ne_of_escaped? he
    -- No escape begins with a blank, so that the backslash does not end its line.
    have hline : endsLine (e :: rest) = false := by
      unfold escaped? at he
      split at he <;> simp_all [endsLine]
    simp [basicLines?, he, hu, hU, hline]
  · simp [basicLines?, he]

theorem basicString?_plain (h : IsPlain c) (hline : c ≠ '\n') :
    basicString? (c :: rest) = prepend? (some c) (basicString? rest) := by
  have htext : isTextChar c = true := h.text.resolve_right hline
  have hquote := h.quote
  simp [basicString?, h.backslash, htext]

theorem basicLines?_plain (h : IsPlain c) :
    basicLines? false (c :: rest) = prepend? (some c) (basicLines? false rest) := by
  have hquote := h.quote
  have hbackslash := h.backslash
  have hcarriage := h.carriage
  rw [basicLines?.eq_9]
  · simp [hbackslash, h.text]
  all_goals simp_all

end Escapes

/-- On one line every double quote is escaped, so that the first one closes the string. -/
theorem basicString?_escapeLine {cs : List Char} (hline : '\n' ∉ cs) (rest : List Char) :
    basicString? (escapeLine cs ++ '"' :: rest) = some (cs, rest) := by
  induction cs with
  | nil => rfl
  | cons c cs ih =>
      rw [List.mem_cons, not_or] at hline
      have hrest := ih hline.2
      rw [escapeLine] at hrest
      rw [escapeLine, List.flatMap_cons, List.append_assoc]
      by_cases hquote : c = '"'
      · subst hquote
        have hescape : isEscapeOf '"' ['\\', '"'] = true := by decide
        rw [if_pos rfl, basicString?_escape hescape, hrest]
        rfl
      · rw [if_neg hquote]
        rcases escapedChar_cases hquote with hescape | ⟨hself, hplain⟩
        · rw [basicString?_escape hescape, hrest]
          rfl
        · rw [hself, List.singleton_append, basicString?_plain hplain (Ne.symm hline.1), hrest]
          rfl

theorem literalString?_append {cs : List Char} (hquote : '\'' ∉ cs)
    (htext : ∀ c ∈ cs, isTextChar c = true) (rest : List Char) :
    literalString? (cs ++ '\'' :: rest) = some (cs, rest) := by
  induction cs with
  | nil => rfl
  | cons c cs ih =>
      rw [List.mem_cons, not_or] at hquote
      rw [List.forall_mem_cons] at htext
      have hc : c ≠ '\'' := Ne.symm hquote.1
      have hrest := ih hquote.2 htext.2
      simp [literalString?, htext.1, hrest, prepend?]

/-- A double quote before which fewer than two more stand is one of the string. -/
theorem basicLines?_quote {tail : List Char} (h : ∀ rest, tail ≠ '"' :: '"' :: rest) :
    basicLines? false ('"' :: tail) = prepend? (some '"') (basicLines? false tail) := by
  have htext : isTextChar '"' = true := by decide
  rw [basicLines?.eq_9]
  · simp [htext]
  all_goals simp_all

/-- What an escaped text begins with is no double quote, unless the text begins with one. -/
theorem head_escapedChar {c : Char} (h : c ≠ '"') (tail rest : List Char) :
    escapedChar c ++ tail ≠ '"' :: rest := by
  rcases escapedChar_cases h with hescape | ⟨hself, -⟩
  · rcases exists_of_isEscapeOf hescape with ⟨e, he, -⟩ | ⟨a, b, d, e, he, -⟩
    · simp [he]
    · simp [he]
  · simp [hself, h]

/-- After two double quotes the text goes on with something else, or it is over. -/
theorem head_escapeLines {cs : List Char} (h : cs ≠ []) (tail rest : List Char) :
    escapeLines 2 cs ++ tail ≠ '"' :: rest := by
  cases cs with
  | nil => exact absurd rfl h
  | cons c cs =>
      rw [escapeLines]
      by_cases hquote : c = '"'
      · simp [hquote]
      · rw [if_neg hquote, List.append_assoc]
        exact head_escapedChar hquote _ _

/-- Of the quotes that follow a double quote of the text, fewer than two belong to it. -/
theorem head_escapeLines_pair {cs : List Char} (h : cs ≠ []) (hlast : cs ≠ ['"'])
    (tail rest : List Char) : escapeLines 1 cs ++ tail ≠ '"' :: '"' :: rest := by
  cases cs with
  | nil => exact absurd rfl h
  | cons c cs =>
      rw [escapeLines]
      by_cases hquote : c = '"'
      · subst hquote
        have hcs : cs ≠ [] := by
          rintro rfl
          exact hlast rfl
        intro heq
        simp only [if_true, Nat.reduceEqDiff, if_false, List.cons_append, List.cons.injEq,
          true_and] at heq
        exact head_escapeLines hcs tail rest heq
      · rw [if_neg hquote, List.append_assoc]
        exact head_escapedChar hquote _ _

/-- The string's own quotes at the end come before the closing ones: there are at most two. -/
theorem basicLines?_escapeLines {run : Nat} (hrun : run ≤ 2) {d : Char} (hd : d ≠ '"')
    (cs rest : List Char) :
    basicLines? false (escapeLines run cs ++ '"' :: '"' :: '"' :: d :: rest) =
      some (cs, d :: rest) := by
  induction cs generalizing run with
  | nil => simp [escapeLines, basicLines?, hd]
  | cons c cs ih =>
      rw [escapeLines]
      by_cases hquote : c = '"'
      · subst hquote
        rw [if_pos rfl]
        obtain rfl | rfl | rfl : run = 0 ∨ run = 1 ∨ run = 2 := by omega
        · by_cases hnil : cs = []
          · simp [hnil, escapeLines, basicLines?, hd]
          · by_cases hlast : cs = ['"']
            · simp [hlast, escapeLines, basicLines?]
            · rw [if_neg (by decide), List.cons_append,
                basicLines?_quote (head_escapeLines_pair hnil hlast _), ih (by decide)]
              rfl
        · by_cases hnil : cs = []
          · simp [hnil, escapeLines, basicLines?, hd]
          · rw [if_neg (by decide), List.cons_append,
              basicLines?_quote fun _ => head_escapeLines hnil _ _, ih (by decide)]
            rfl
        · have hescape : isEscapeOf '"' ['\\', '"'] = true := by decide
          have hstep := @basicLines?_escape _ _
            (escapeLines 0 cs ++ '"' :: '"' :: '"' :: d :: rest) hescape
          rw [ih (by decide)] at hstep
          exact hstep
      · rw [if_neg hquote, List.append_assoc]
        rcases escapedChar_cases hquote with hescape | ⟨hself, hplain⟩
        · rw [basicLines?_escape hescape, ih (by decide)]
          rfl
        · rw [hself, List.singleton_append, basicLines?_plain hplain, ih (by decide)]
          rfl

/-- A single quote before which fewer than two more stand is one of the string. -/
theorem literalLines?_step {c : Char} {tail : List Char} (hcontrol : isControl c = false)
    (h : c = '\'' → ∀ rest, tail ≠ '\'' :: '\'' :: rest) :
    literalLines? (c :: tail) = prepend? (some c) (literalLines? tail) := by
  have htext := isTextChar_or_eq hcontrol
  have hcarriage := carriage_of_not_isControl hcontrol
  rw [literalLines?.eq_6]
  · simp [htext]
  all_goals simp_all

theorem hasTriple_tail {d c : Char} {cs : List Char} (h : hasTriple d (c :: cs) = false) :
    hasTriple d cs = false := by
  match cs, h with
  | [], _ => rfl
  | [_], _ => rfl
  | _ :: _ :: _, h => exact (Bool.or_eq_false_iff.1 h).2

/-- Where no three quotes stand side by side, at most two of the string come before the closing
ones. -/
theorem literalLines?_append {cs : List Char} (htriple : hasTriple '\'' cs = false)
    (hcontrol : ∀ c ∈ cs, isControl c = false) {d : Char} (hd : d ≠ '\'') (rest : List Char) :
    literalLines? (cs ++ '\'' :: '\'' :: '\'' :: d :: rest) = some (cs, d :: rest) := by
  induction cs with
  | nil => simp [literalLines?, hd]
  | cons c cs ih =>
      rw [List.forall_mem_cons] at hcontrol
      have hrest := ih (hasTriple_tail htriple) hcontrol.2
      by_cases hown : c = '\'' ∧ (cs = [] ∨ cs = ['\''])
      · obtain ⟨rfl, rfl | rfl⟩ := hown
        · simp [literalLines?, hd]
        · simp [literalLines?]
      · rw [List.cons_append, literalLines?_step hcontrol.1, hrest]
        · rfl
        · rintro rfl tail htail
          match cs, htriple with
          | [], _ => exact hown ⟨rfl, Or.inl rfl⟩
          | [d], _ =>
              refine hown ⟨rfl, Or.inr ?_⟩
              simp only [List.cons_append, List.cons.injEq] at htail
              rw [htail.1]
          | d :: e :: ds, h =>
              simp only [List.cons_append, List.cons.injEq] at htail
              simp [hasTriple, htail.1, htail.2.1] at h

/-- The line break that is put after the opening quotes is the only one that is dropped. -/
theorem dropLineBreak_of_head {cs : List Char} (h : ∀ c ∈ cs.head?, c ≠ '\n' ∧ c ≠ '\r') :
    dropLineBreak cs = cs := by
  unfold dropLineBreak
  split
  · exact absurd rfl (h '\n' rfl).1
  · exact absurd rfl (h '\r' rfl).2
  · rfl

theorem head?_escapedChar_append {c : Char} (hquote : c ≠ '"') (hline : c ≠ '\n')
    (tail : List Char) : ∀ d ∈ (escapedChar c ++ tail).head?, d ≠ '\n' ∧ d ≠ '\r' := by
  rcases escapedChar_cases hquote with hescape | ⟨hself, hplain⟩
  · rcases exists_of_isEscapeOf hescape with ⟨e, he, -⟩ | ⟨a, b, d, e, he, -⟩
    · simp [he]
    · simp [he]
  · have hcarriage := hplain.carriage
    simp [hself, hline, hcarriage]

section Forms

variable {cs : List Char} {d : Char} (rest : List Char)

theorem quotedString?_escapeLine (hd : d ≠ '"') (hline : '\n' ∉ cs) :
    quotedString? ('"' :: (escapeLine cs ++ '"' :: d :: rest)) = some (cs, d :: rest) := by
  have hopening : ∀ tail, escapeLine cs ++ '"' :: d :: rest ≠ '"' :: '"' :: tail := by
    intro tail
    cases cs with
    | nil => simp [escapeLine, hd]
    | cons c cs =>
        rw [escapeLine, List.flatMap_cons, List.append_assoc]
        by_cases hquote : c = '"'
        · simp [hquote]
        · rw [if_neg hquote]
          exact head_escapedChar hquote _ _
  rw [quotedString?.eq_2 _ fun tail => hopening tail, basicString?_escapeLine hline]

theorem quotedString?_literal (hd : d ≠ '\'') (hline : '\n' ∉ cs) (hquote : '\'' ∉ cs)
    (hcontrol : ∀ c ∈ cs, isControl c = false) :
    quotedString? ('\'' :: (cs ++ '\'' :: d :: rest)) = some (cs, d :: rest) := by
  have hopening : ∀ tail, cs ++ '\'' :: d :: rest ≠ '\'' :: '\'' :: tail := by
    intro tail
    cases cs with
    | nil => simp [hd]
    | cons c cs =>
        rw [List.mem_cons, not_or] at hquote
        simp [Ne.symm hquote.1]
  have htext : ∀ c ∈ cs, isTextChar c = true := fun c hc =>
    (isTextChar_or_eq (hcontrol c hc)).resolve_right fun heq => hline (heq ▸ hc)
  rw [quotedString?.eq_4 _ fun tail => hopening tail, literalString?_append hquote htext]

theorem quotedString?_escapeLines (hd : d ≠ '"') :
    quotedString? (tripled '"' (cs.contains '\n') (escapeLines 0 cs) ++ d :: rest) =
      some (cs, d :: rest) := by
  have hread := basicLines?_escapeLines (by decide : 0 ≤ 2) hd cs rest
  unfold tripled
  by_cases hline : '\n' ∈ cs
  · simp [hline, List.replicate, quotedString?, dropLineBreak, hread]
  · have hdrop := @dropLineBreak_of_head
      (escapeLines 0 cs ++ '"' :: '"' :: '"' :: d :: rest) (by
        cases cs with
        | nil => simp [escapeLines]
        | cons c cs =>
            rw [List.mem_cons, not_or] at hline
            rw [escapeLines]
            by_cases hquote : c = '"'
            · simp [hquote]
            · rw [if_neg hquote, List.append_assoc]
              exact head?_escapedChar_append hquote (Ne.symm hline.1) _)
    simp [hline, List.replicate, quotedString?, hdrop, hread]

theorem quotedString?_literalLines (hd : d ≠ '\'') (htriple : hasTriple '\'' cs = false)
    (hcontrol : ∀ c ∈ cs, isControl c = false) :
    quotedString? (tripled '\'' (cs.contains '\n') cs ++ d :: rest) =
      some (cs, d :: rest) := by
  have hread := literalLines?_append htriple hcontrol hd rest
  unfold tripled
  by_cases hline : '\n' ∈ cs
  · simp [hline, List.replicate, quotedString?, dropLineBreak, hread]
  · have hdrop := @dropLineBreak_of_head
      (cs ++ '\'' :: '\'' :: '\'' :: d :: rest) (by
        cases cs with
        | nil => simp
        | cons c cs =>
            rw [List.mem_cons, not_or] at hline
            have hcarriage := carriage_of_not_isControl (hcontrol c List.mem_cons_self)
            simp [Ne.symm hline.1, hcarriage])
    simp [hline, List.replicate, quotedString?, hdrop, hread]

end Forms

/-- Every string is read back from the form in which it is written, where no quote follows. -/
theorem quotedString?_stringChars {d : Char} (hdouble : d ≠ '"') (hsingle : d ≠ '\'')
    (cs rest : List Char) :
    quotedString? (stringChars cs ++ d :: rest) = some (cs, d :: rest) := by
  have hcontrol (h : (cs.any isControl) = false) : ∀ c ∈ cs, isControl c = false := by
    simpa using h
  simp only [stringChars]
  split_ifs with hplain hliteral hlines htriple hseveral
  · have hline : '\n' ∉ cs := by simp_all
    simpa using quotedString?_escapeLine rest hdouble hline
  · have hline : '\n' ∉ cs := by simp_all
    have hquote : '\'' ∉ cs := by simp_all
    simpa using quotedString?_literal rest hsingle hline hquote (hcontrol (by simp_all))
  · exact quotedString?_escapeLines rest hdouble
  · exact quotedString?_literalLines rest hsingle (by simp_all) (hcontrol (by simp_all))
  · simpa [hseveral] using @quotedString?_escapeLines cs d rest hdouble
  · have hline : '\n' ∉ cs := by simp_all
    simpa using quotedString?_escapeLine rest hdouble hline

end MarkedSheet.Toml
