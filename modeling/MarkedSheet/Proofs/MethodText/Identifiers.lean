import MarkedSheet.MethodText
import MarkedSheet.Proofs.Decimal.Digits
import MarkedSheet.Proofs.Text.Runs

/-!
# Identifiers of standards

An identifier is described by its letters and its number, apart from the search for it.  What is
found at the start of a text is the longest identifier there, and nothing is found exactly when the
text starts with none.
-/

namespace MarkedSheet.MethodText

open Text (IsRun isAlpha_iff isRun_takeWhile takeWhile_run dropWhile_run)

/-- The letters of an identifier, which a slash may divide. -/
inductive IsLetters : List Char → Prop
  | one {first : List Char} : IsRun Char.isAlpha first → IsLetters first
  | two {first second : List Char} : IsRun Char.isAlpha first → IsRun Char.isAlpha second →
      IsLetters (first ++ '/' :: second)

/-- The number of an identifier: a digit, digits and points, a hyphen, and digits. -/
inductive IsNumber : List Char → Prop
  | intro {c : Char} {serial year : List Char} : c.isDigit = true →
      (∀ d ∈ serial, d.isDigit = true ∨ d = '.') → IsRun Char.isDigit year →
        IsNumber (c :: (serial ++ '-' :: year))

/-- The identifier of a standard; blanks may stand between its letters and its number. -/
inductive IsIdentifier : List Char → Prop
  | intro {letters blanks number : List Char} : IsLetters letters →
      (∀ c ∈ blanks, Text.isBlank c = true) → IsNumber number →
        IsIdentifier (letters ++ (blanks ++ number))

/-- The longest identifier at the start of a text, and what follows it. -/
structure Leads (cs identifier rest : List Char) : Prop where
  eq_append : cs = identifier ++ rest
  isIdentifier : IsIdentifier identifier
  longest : ∀ other, IsIdentifier other → other <+: cs → other <+: identifier

/-- What follows the letters of an identifier neither continues nor divides them. -/
theorem not_letter_of_blank_or_digit {c : Char} (h : Text.isBlank c = true ∨ c.isDigit = true) :
    c.isAlpha = false ∧ c ≠ '/' := by
  have hslash : '/'.toNat = 47 := rfl
  have hrange : ¬ ((65 ≤ c.toNat ∧ c.toNat ≤ 90) ∨ (97 ≤ c.toNat ∧ c.toNat ≤ 122)) ∧
      c.toNat ≠ 47 := by
    rcases h with hblank | hdigit
    · simp only [Text.isBlank, Bool.or_eq_true, Bool.and_eq_true, decide_eq_true_iff,
        beq_iff_eq] at hblank
      omega
    · rw [Decimal.isDigit_iff] at hdigit
      omega
  refine ⟨?_, fun heq => hrange.2 (heq ▸ hslash)⟩
  rw [Bool.eq_false_iff, ne_eq, isAlpha_iff]
  exact hrange.1

theorem isDigitOrPoint_iff {c : Char} : isDigitOrPoint c = true ↔ c.isDigit = true ∨ c = '.' := by
  rw [isDigitOrPoint, Bool.or_eq_true, decide_eq_true_iff]

theorem IsNumber.isDigit_head? {number : List Char} (h : IsNumber number) (rest : List Char) :
    ∀ c ∈ (number ++ rest).head?, c.isDigit = true := by
  rintro c hc
  cases h with
  | intro hdigit _ _ =>
      cases hc
      exact hdigit

/-- Letters are taken to their end when neither a letter nor a slash follows. -/
theorem letters?_append {letters rest : List Char} (h : IsLetters letters)
    (hrest : ∀ c ∈ rest.head?, c.isAlpha = false ∧ c ≠ '/') :
    letters? (letters ++ rest) = some (letters, rest) := by
  have hstop : ∀ c ∈ rest.head?, c.isAlpha = false := fun c hc => (hrest c hc).1
  cases h with
  | one hfirst =>
      have hslash : ∀ tail, rest ≠ '/' :: tail := by
        rintro tail rfl
        exact (hrest '/' rfl).2 rfl
      simp only [letters?, takeWhile_run hfirst.2 hstop, dropWhile_run hfirst.2 hstop,
        List.isEmpty_eq_false_iff.2 hfirst.1, Bool.false_eq_true, if_false]
  | @two first second hfirst hsecond =>
      have hassoc : first ++ '/' :: second ++ rest = first ++ '/' :: (second ++ rest) := by simp
      have hslash : ∀ c ∈ ('/' :: (second ++ rest)).head?, c.isAlpha = false := by
        rintro c ⟨⟩
        rfl
      simp only [hassoc, letters?, takeWhile_run hfirst.2 hslash, dropWhile_run hfirst.2 hslash,
        takeWhile_run hsecond.2 hstop, dropWhile_run hsecond.2 hstop,
        List.isEmpty_eq_false_iff.2 hfirst.1, List.isEmpty_eq_false_iff.2 hsecond.1,
        Bool.false_eq_true, if_false]

/-- A number takes all digits at its end. -/
theorem number?_append {number : List Char} (h : IsNumber number) (rest : List Char) :
    number? (number ++ rest) =
      some (number ++ rest.takeWhile Char.isDigit, rest.dropWhile Char.isDigit) := by
  cases h with
  | @intro c serial year hc hserial hyear =>
      have hassoc : c :: (serial ++ '-' :: year) ++ rest =
          (c :: serial) ++ '-' :: (year ++ rest) := by simp
      have hserial' : ∀ d ∈ c :: serial, isDigitOrPoint d = true :=
        List.forall_mem_cons.2 ⟨isDigitOrPoint_iff.2 (.inl hc),
          fun d hd => isDigitOrPoint_iff.2 (hserial d hd)⟩
      have hhyphen : ∀ d ∈ ('-' :: (year ++ rest)).head?, isDigitOrPoint d = false := by
        rintro d ⟨⟩
        rfl
      have hyear' : (year ++ rest).takeWhile Char.isDigit =
          year ++ rest.takeWhile Char.isDigit := List.takeWhile_append_of_pos hyear.2
      have hrest : (year ++ rest).dropWhile Char.isDigit = rest.dropWhile Char.isDigit :=
        List.dropWhile_append_of_pos hyear.2
      have hne : (year ++ rest.takeWhile Char.isDigit).isEmpty = false := by
        simp [hyear.1]
      rw [hassoc, List.cons_append, number?, if_pos hc, ← List.cons_append]
      simp only [takeWhile_run hserial' hhyphen, dropWhile_run hserial' hhyphen, hyear', hrest,
        hne, Bool.false_eq_true, if_false]
      simp

/-- An identifier at the start of a text is found, with all digits that follow it. -/
theorem identifier?_append {identifier : List Char} (h : IsIdentifier identifier)
    (rest : List Char) :
    identifier? (identifier ++ rest) =
      some (identifier ++ rest.takeWhile Char.isDigit, rest.dropWhile Char.isDigit) := by
  cases h with
  | @intro letters blanks number hletters hblanks hnumber =>
      have hassoc : letters ++ (blanks ++ number) ++ rest =
          letters ++ (blanks ++ (number ++ rest)) := by simp
      have hdigit := hnumber.isDigit_head? rest
      have hnotBlank : ∀ c ∈ (number ++ rest).head?, Text.isBlank c = false :=
        fun c hc => Decimal.isBlank_of_isDigit (hdigit c hc)
      have hbehind : ∀ c ∈ (blanks ++ (number ++ rest)).head?, c.isAlpha = false ∧ c ≠ '/' := by
        intro c hc
        refine not_letter_of_blank_or_digit ?_
        cases blanks with
        | nil => exact .inr (hdigit c hc)
        | cons b blanks =>
            cases hc
            exact .inl (hblanks c List.mem_cons_self)
      rw [hassoc, identifier?, letters?_append hletters hbehind, Option.bind_some]
      simp only [takeWhile_run hblanks hnotBlank, dropWhile_run hblanks hnotBlank,
        number?_append hnumber rest]
      simp

theorem isLetters_of_letters? {cs letters rest : List Char}
    (h : letters? cs = some (letters, rest)) : cs = letters ++ rest ∧ IsLetters letters := by
  have hcut := List.takeWhile_append_dropWhile (p := Char.isAlpha) (l := cs)
  simp only [letters?] at h
  split at h
  · cases h
  · next hfirst =>
      have hrun := isRun_takeWhile (Bool.eq_false_iff.2 hfirst)
      split at h
      · next tail htail =>
          split at h
          · cases h
            exact ⟨hcut.symm, .one hrun⟩
          · next hsecond =>
              cases h
              have hrun' := isRun_takeWhile (Bool.eq_false_iff.2 hsecond)
              refine ⟨?_, .two hrun hrun'⟩
              rw [List.append_assoc, List.cons_append, List.takeWhile_append_dropWhile, ← htail,
                hcut]
      · cases h
        exact ⟨hcut.symm, .one hrun⟩

theorem isNumber_of_number? {cs number rest : List Char}
    (h : number? cs = some (number, rest)) : cs = number ++ rest ∧ IsNumber number := by
  have hcut := List.takeWhile_append_dropWhile (p := isDigitOrPoint) (l := cs)
  have hserial : ∀ d ∈ cs.takeWhile isDigitOrPoint, isDigitOrPoint d = true :=
    List.all_eq_true.1 List.all_takeWhile
  cases cs with
  | nil => cases h
  | cons c tail =>
      simp only [number?] at h
      split at h
      · next hdigit =>
          -- The first digit is one of the characters that may follow it.
          have hpoint : isDigitOrPoint c = true := isDigitOrPoint_iff.2 (.inl hdigit)
          rw [List.takeWhile_cons_of_pos hpoint] at hcut hserial h
          split at h
          · next behind hbehind =>
              split at h
              · cases h
              · next hyear =>
                  cases h
                  rw [hbehind] at hcut
                  refine ⟨?_, .intro hdigit (fun d hd => isDigitOrPoint_iff.1
                    (hserial d (List.mem_cons_of_mem c hd)))
                    (isRun_takeWhile (Bool.eq_false_iff.2 hyear))⟩
                  rw [← hcut, List.append_assoc, List.cons_append, List.cons_append,
                    List.cons_append, List.takeWhile_append_dropWhile]
          · cases h
      · cases h

theorem of_identifier? {cs identifier rest : List Char}
    (h : identifier? cs = some (identifier, rest)) :
    cs = identifier ++ rest ∧ IsIdentifier identifier := by
  rw [identifier?, Option.bind_eq_some_iff] at h
  obtain ⟨⟨letters, behind⟩, hletters, h⟩ := h
  rw [Option.map_eq_some_iff] at h
  obtain ⟨⟨number, rest'⟩, hnumber, h⟩ := h
  cases h
  obtain ⟨hcs, hisLetters⟩ := isLetters_of_letters? hletters
  obtain ⟨hbehind, hisNumber⟩ := isNumber_of_number? hnumber
  refine ⟨?_, .intro hisLetters (List.all_eq_true.1 List.all_takeWhile) hisNumber⟩
  rw [List.append_assoc, List.append_assoc, ← hbehind, List.takeWhile_append_dropWhile, hcs]

/-- The search finds the longest identifier at the start of a text. -/
theorem identifier?_eq_some_iff {cs identifier rest : List Char} :
    identifier? cs = some (identifier, rest) ↔ Leads cs identifier rest := by
  constructor
  · intro h
    obtain ⟨heq, hidentifier⟩ := of_identifier? h
    refine ⟨heq, hidentifier, ?_⟩
    rintro other hother ⟨behind, rfl⟩
    rw [identifier?_append hother] at h
    cases h
    exact List.prefix_append _ _
  · rintro ⟨rfl, hidentifier, hlongest⟩
    have hfound := identifier?_append hidentifier rest
    obtain ⟨heq, hother⟩ := of_identifier? hfound
    have hprefix := hlongest _ hother ⟨_, heq.symm⟩
    have hdigits : rest.takeWhile Char.isDigit = [] := by
      have hlength := hprefix.length_le
      rw [List.length_append] at hlength
      exact List.eq_nil_of_length_eq_zero (by omega)
    have hrest := List.takeWhile_append_dropWhile (p := Char.isDigit) (l := rest)
    rw [hdigits, List.nil_append] at hrest
    rw [hfound, hdigits, hrest, List.append_nil]

theorem identifier?_eq_none_iff {cs : List Char} :
    identifier? cs = none ↔ ∀ identifier, IsIdentifier identifier → ¬ identifier <+: cs := by
  constructor
  · rintro h identifier hidentifier ⟨rest, rfl⟩
    rw [identifier?_append hidentifier] at h
    cases h
  · intro h
    cases hfound : identifier? cs with
    | none => rfl
    | some found =>
        obtain ⟨heq, hidentifier⟩ := of_identifier? hfound
        exact absurd ⟨found.2, heq.symm⟩ (h found.1 hidentifier)

end MarkedSheet.MethodText
