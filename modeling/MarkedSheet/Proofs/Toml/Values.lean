import Mathlib.Algebra.Ring.Nat
import Mathlib.Data.List.TakeWhile
import MarkedSheet.Proofs.Decimal.Digits
import MarkedSheet.Proofs.Toml.Strings

/-!
# Plain values read back

Strings, natural numbers of 63 bits, truth values and lists of strings are read back from the end of
a line.  A number is a word of digits alone, which is neither a date nor a time, and which is no
double since it has neither a point nor an exponent.
-/

namespace MarkedSheet.Toml

/-- The values that stand on a line of their own and read back as what they are. -/
inductive Item.Plain : Item → Prop
  | string (s : String) : Plain (.string s)
  | natural {n : Nat} (h : n < 2 ^ 63) : Plain (.integer n)
  | boolean (b : Bool) : Plain (.boolean b)
  | strings (ss : List String) : Plain (.array (ss.map .string))

section Digits

variable {cs : List Char}

theorem not_isDate_of_digits (h : ∀ c ∈ cs, c.isDigit = true) : isDate cs = false := by
  unfold isDate
  split
  · have hdash := h '-' (by simp)
    exact absurd hdash (by decide)
  · rfl

theorem time?_of_digits (h : ∀ c ∈ cs, c.isDigit = true) : time? cs = none := by
  unfold time?
  split
  · have hcolon := h ':' (by simp)
    exact absurd hcolon (by decide)
  · rfl

theorem datetime?_of_digits (h : ∀ c ∈ cs, c.isDigit = true) : datetime? cs = none := by
  have hday : ∀ c ∈ cs.take 10, c.isDigit = true := fun c hc => h c (List.mem_of_mem_take hc)
  simp [datetime?, not_isDate_of_digits hday, time?_of_digits h]

theorem ungroup?_of_digits (hne : cs ≠ []) (h : ∀ c ∈ cs, c.isDigit = true) :
    ungroup? Char.isDigit cs = some cs := by
  induction cs with
  | nil => exact absurd rfl hne
  | cons c cs ih =>
      rw [List.forall_mem_cons] at h
      cases cs with
      | nil => simp [ungroup?, h.1]
      | cons d ds =>
          have hgroup : d ≠ '_' := by
            rintro rfl
            exact absurd (h.2 '_' List.mem_cons_self) (by decide)
          have hrest := ih (List.cons_ne_nil d ds) h.2
          rw [ungroup?.eq_4 _ _ _ (by simp) (fun _ heq => hgroup (List.cons.inj heq).1),
            if_pos h.1, hrest]
          rfl

theorem foldl_digitOf (h : ∀ c ∈ cs, c.isDigit = true) (seen : Nat) :
    cs.foldl (fun n c => 10 * n + digitOf c) seen = Decimal.valueFrom seen cs := by
  induction cs generalizing seen with
  | nil => rfl
  | cons c cs ih =>
      rw [List.forall_mem_cons] at h
      have hdigit : digitOf c = Decimal.digitValue c := if_pos h.1
      rw [List.foldl_cons, ih h.2, hdigit]
      rfl

end Digits

section Naturals

open Decimal

variable (n : Nat)

theorem wholeDigits?_digits : wholeDigits? (digits n) = some (digits n) := by
  have hread := ungroup?_of_digits (digits_ne_nil n) fun _ hc => isDigit_of_mem_digits hc
  unfold wholeDigits?
  rw [hread]
  split
  · next heq => rw [heq]
  · next tail hne heq =>
      have hhead : (digits n).head? = some '0' := by rw [Option.some.inj heq]; rfl
      by_cases hn : n = 0
      · rw [hn, digits_zero] at heq
        exact absurd (List.cons.inj (Option.some.inj heq)).2.symm hne
      · exact absurd hhead (head?_digits hn)
  · rfl

theorem not_mem_digits {c : Char} (h : c.isDigit = false) : c ∉ digits n := by
  intro hmem
  rw [isDigit_of_mem_digits hmem] at h
  cases h

theorem integer?_digits {n : Nat} (h : n < 2 ^ 63) : integer? (digits n) = some (n : Int) := by
  have hnumber : numberIn 10 (digits n) = n := by
    rw [numberIn, foldl_digitOf fun _ hc => isDigit_of_mem_digits hc, valueFrom_digits]
  have hword : word64? (n : Int) = some (n : Int) := by
    have hbound : (n : Int) < (Nat.pow 2 63 : Nat) := Int.ofNat_lt.2 h
    exact if_pos ⟨by omega, hbound⟩
  unfold integer?
  split
  · next heq => exact absurd (heq ▸ by simp) (not_mem_digits n (c := 'x') rfl)
  · next heq => exact absurd (heq ▸ by simp) (not_mem_digits n (c := 'o') rfl)
  · next heq => exact absurd (heq ▸ by simp) (not_mem_digits n (c := 'b') rfl)
  · next heq => exact absurd (heq ▸ by simp) (not_mem_digits n (c := '+') rfl)
  · next heq => exact absurd (heq ▸ by simp) (not_mem_digits n (c := '-') rfl)
  · rw [wholeDigits?_digits, Option.bind_some, hnumber, hword]

/-- Digits alone write no double: there is neither a point nor an exponent. -/
theorem float?_digits : float? (digits n) = none := by
  have hpart : ∀ c ∈ digits n, (c.isDigit || decide (c = '_')) = true := fun c hc => by
    simp [isDigit_of_mem_digits hc]
  have hinf : digits n ≠ ['i', 'n', 'f'] := fun heq =>
    not_mem_digits n (c := 'i') rfl (heq ▸ by simp)
  have hnan : digits n ≠ ['n', 'a', 'n'] := fun heq =>
    not_mem_digits n (c := 'n') rfl (heq ▸ by simp)
  have hnumeral : numeral? false (digits n) = none := by
    rw [numeral?, List.takeWhile_eq_self_iff.2 hpart, List.dropWhile_eq_nil_iff.2 hpart,
      wholeDigits?_digits]
    rfl
  unfold float?
  split
  · next heq => exact absurd (heq ▸ by simp) (not_mem_digits n (c := '+') rfl)
  · next heq => exact absurd (heq ▸ by simp) (not_mem_digits n (c := '-') rfl)
  · rw [magnitude?, if_neg hinf, if_neg hnan, hnumeral]
    rfl

theorem scalar?_digits {n : Nat} (h : n < 2 ^ 63) : scalar? (digits n) = some (.integer n) := by
  have htrue : digits n ≠ ['t', 'r', 'u', 'e'] := fun heq =>
    not_mem_digits n (c := 't') rfl (heq ▸ by simp)
  have hfalse : digits n ≠ ['f', 'a', 'l', 's', 'e'] := fun heq =>
    not_mem_digits n (c := 'f') rfl (heq ▸ by simp)
  have hdate : datetime? (digits n) = none :=
    datetime?_of_digits fun _ hc => isDigit_of_mem_digits hc
  rw [scalar?, if_neg htrue, if_neg hfalse, hdate, float?_digits, integer?_digits h]

end Naturals

theorem inlineChars_natural (n : Nat) : inlineChars (.integer n) = Decimal.digits n := by
  rw [inlineChars]
  exact Nat.toList_repr

section Lines

variable (fuel levels : Nat) (rest : List Char)

/-- A word is read up to the end of its line. -/
theorem value?_word {w : List Char} (hne : w ≠ []) (hw : w.all isWordChar = true) :
    value? (fuel + 1) levels (w ++ '\n' :: rest) =
      (scalar? w).map fun item => (item, '\n' :: rest) := by
  rw [List.all_eq_true] at hw
  have hfeed : isWordChar '\n' = false := by decide
  have hword : word? (w ++ '\n' :: rest) = (scalar? w).map fun item => (item, '\n' :: rest) := by
    have htake : (w ++ '\n' :: rest).takeWhile isWordChar = w := by
      rw [List.takeWhile_append_of_pos hw]
      simp [hfeed]
    have hdrop : (w ++ '\n' :: rest).dropWhile isWordChar = '\n' :: rest := by
      rw [List.dropWhile_append_of_pos hw]
      simp [hfeed]
    simp [word?, htake, hdrop]
  rw [← hword]
  cases w with
  | nil => exact absurd rfl hne
  | cons c w =>
      have hopening : ∀ d, isWordChar d = false → c ≠ d := by
        rintro d hd rfl
        rw [hw c List.mem_cons_self] at hd
        cases hd
      have hdouble := hopening '"' rfl
      have hsingle := hopening '\'' rfl
      have hbracket := hopening '[' rfl
      have hbrace := hopening '\x7b' rfl
      rw [List.cons_append, value?]
      all_goals simp_all

theorem exists_quote_stringChars (cs : List Char) :
    ∃ tail, stringChars cs = '"' :: tail ∨ stringChars cs = '\'' :: tail := by
  simp only [stringChars, tripled]
  split_ifs
  all_goals simp [List.replicate]

theorem value?_stringChars {d : Char} (hdouble : d ≠ '"') (hsingle : d ≠ '\'') (cs : List Char) :
    value? (fuel + 1) levels (stringChars cs ++ d :: rest) =
      some (.string (String.ofList cs), d :: rest) := by
  have hread := quotedString?_stringChars hdouble hsingle cs rest
  obtain ⟨tail, h | h⟩ := exists_quote_stringChars cs
  · rw [h, List.cons_append] at hread ⊢
    rw [value?, hread]
    rfl
  · rw [h, List.cons_append] at hread ⊢
    rw [value?, hread]
    rfl

/-- A list goes on with a string, after which there are more or the list is closed. -/
theorem items?_stringChars (cs : List Char) :
    items? (fuel + 2) levels (stringChars cs ++ ']' :: rest) =
        some ([.string (String.ofList cs)], rest) ∧
      items? (fuel + 2) levels (stringChars cs ++ ',' :: ' ' :: rest) =
        (items? (fuel + 1) levels rest).map fun r => (.string (String.ofList cs) :: r.1, r.2) := by
  have hclosed := value?_stringChars fuel levels rest (d := ']') (by decide) (by decide) cs
  have hmore := value?_stringChars fuel levels (' ' :: rest) (d := ',') (by decide) (by decide) cs
  have hspace : items? (fuel + 1) levels (' ' :: rest) = items? (fuel + 1) levels rest := by
    simp [items?, skipFiller?]
  obtain ⟨tail, h | h⟩ := exists_quote_stringChars cs
  · rw [h, List.cons_append] at hclosed hmore
    rw [h, List.cons_append, List.cons_append, items?, items?]
    simp [skipFiller?, hclosed, hmore, hspace]
  · rw [h, List.cons_append] at hclosed hmore
    rw [h, List.cons_append, List.cons_append, items?, items?]
    simp [skipFiller?, hclosed, hmore, hspace]

/-- A list of strings is read back up to its closing bracket. -/
theorem items?_inlineItems {ss : List String} {fuel : Nat} (hfuel : ss.length < fuel) :
    items? fuel levels (inlineItems (ss.map .string) ++ ']' :: rest) =
      some (ss.map .string, rest) := by
  induction ss generalizing fuel with
  | nil =>
      obtain ⟨fuel, rfl⟩ : ∃ k, fuel = k + 1 := Nat.exists_eq_add_one.2 hfuel
      rfl
  | cons s ss ih =>
      rw [List.length_cons] at hfuel
      obtain ⟨fuel, rfl⟩ : ∃ k, fuel = k + 2 := ⟨fuel - 2, by omega⟩
      have hrest := ih (show ss.length < fuel + 1 by omega)
      cases ss with
      | nil =>
          rw [List.map_singleton, inlineItems, inlineChars,
            (items?_stringChars fuel levels rest s.toList).1, String.ofList_toList]
      | cons t ss =>
          rw [List.map_cons, List.map_cons, inlineItems, inlineChars, List.append_assoc,
            List.cons_append, List.cons_append, (items?_stringChars fuel levels _ s.toList).2,
            String.ofList_toList, ← List.map_cons, hrest]
          · rfl
          · simp

theorem length_le_length_inlineItems (ss : List String) :
    ss.length ≤ (inlineItems (ss.map .string)).length := by
  induction ss with
  | nil => exact Nat.zero_le _
  | cons s ss ih =>
      have hone : 1 ≤ (inlineChars (.string s)).length := by
        rw [inlineChars]
        obtain ⟨tail, h | h⟩ := exists_quote_stringChars s.toList
        · simp [h]
        · simp [h]
      cases ss with
      | nil => simpa [inlineItems] using hone
      | cons t ss =>
          simp only [List.map_cons, inlineItems, List.length_append, List.length_cons] at ih ⊢
          omega

/-- Every plain value is read back up to the end of its line. -/
theorem value?_inlineChars {i : Item} (h : i.Plain) {fuel : Nat}
    (hfuel : (inlineChars i).length < fuel) :
    value? fuel (levels + 1) (inlineChars i ++ '\n' :: rest) = some (i, '\n' :: rest) := by
  obtain ⟨fuel, rfl⟩ : ∃ k, fuel = k + 1 := ⟨fuel - 1, by omega⟩
  cases h with
  | string s =>
      rw [inlineChars, value?_stringChars _ _ _ (by decide) (by decide), String.ofList_toList]
  | @natural n h =>
      have hword : (Decimal.digits n).all isWordChar = true := List.all_eq_true.2 fun c hc => by
        simp [isWordChar, Char.isAlphanum, Decimal.isDigit_of_mem_digits hc]
      rw [inlineChars_natural, value?_word _ _ _ (Decimal.digits_ne_nil n) hword, scalar?_digits h]
      rfl
  | boolean b =>
      cases b with
      | true => rw [inlineChars, value?_word _ _ _ (by simp) (by decide)]; rfl
      | false => rw [inlineChars, value?_word _ _ _ (by simp) (by decide)]; rfl
  | strings ss =>
      have hlength := length_le_length_inlineItems ss
      rw [inlineChars, List.length_cons, List.length_append, List.length_singleton] at hfuel
      rw [inlineChars, List.cons_append, List.append_assoc, List.singleton_append, value?,
        items?_inlineItems levels _ (by omega)]
      rfl

end Lines

/-- A plain value does not begin with a space or a tab. -/
theorem skipSpaces_inlineChars {i : Item} (h : i.Plain) (rest : List Char) :
    skipSpaces (inlineChars i ++ rest) = inlineChars i ++ rest := by
  have hhead : ∃ c tail, inlineChars i = c :: tail ∧ c ≠ ' ' ∧ c ≠ '\t' := by
    cases h with
    | string s =>
        rw [inlineChars]
        obtain ⟨tail, h | h⟩ := exists_quote_stringChars s.toList
        · exact ⟨_, tail, h, by decide, by decide⟩
        · exact ⟨_, tail, h, by decide, by decide⟩
    | @natural n h =>
        obtain ⟨c, tail, hc⟩ := List.exists_cons_of_ne_nil (Decimal.digits_ne_nil n)
        have hdigit : c.isDigit = true := Decimal.isDigit_of_mem_digits (hc ▸ List.mem_cons_self)
        refine ⟨c, tail, by rw [inlineChars_natural, hc], ?_, ?_⟩
        · rintro rfl
          exact absurd hdigit (by decide)
        · rintro rfl
          exact absurd hdigit (by decide)
    | boolean b =>
        cases b with
        | true => exact ⟨_, _, rfl, by decide, by decide⟩
        | false => exact ⟨_, _, rfl, by decide, by decide⟩
    | strings ss => exact ⟨_, _, rfl, by decide, by decide⟩
  obtain ⟨c, tail, hc, hspace, htab⟩ := hhead
  simp [hc, skipSpaces, hspace, htab]

end MarkedSheet.Toml
