import MarkedSheet.Proofs.MethodText.Identifiers
import MarkedSheet.Proofs.Text.Trimmed

/-!
# Method texts in two lines

The place where a text breaks is described apart from the search for it.  A text is broken exactly
there, without the blanks at the break, and stays as it is when it has no such place.  Nothing but
blanks is lost, an identifier stays in one piece, and a text that was broken once is not broken
again.
-/

namespace MarkedSheet.MethodText

open Text (IsPhrase ink)

/-- The two parts of a trimmed text before and from the place where it breaks. -/
inductive BreaksAt (cs : List Char) : List Char → List Char → Prop
  | beforeName {identifier ascii name : List Char} {c : Char} :
      Leads cs identifier (ascii ++ c :: name) → (∀ a ∈ ascii, a.toNat < 128) →
        128 ≤ c.toNat → BreaksAt cs (identifier ++ ascii) (c :: name)
  | behindIdentifier {identifier rest : List Char} :
      Leads cs identifier rest → rest ≠ [] → (∀ a ∈ rest, a.toNat < 128) →
        BreaksAt cs identifier rest
  | atLastBlank {head word : List Char} {b : Char} :
      (∀ identifier, IsIdentifier identifier → ¬ identifier <+: cs) → cs = head ++ b :: word →
        Text.isBlank b = true → (∀ c ∈ word, Text.isBlank c = false) →
          BreaksAt cs head (b :: word)

/-- The trimmed texts that have no place to break. -/
inductive IsWhole (cs : List Char) : Prop
  | empty : cs = [] → IsWhole cs
  | lines : '\n' ∈ cs → IsWhole cs
  | identifier : Leads cs cs [] → IsWhole cs
  | word : (∀ identifier, IsIdentifier identifier → ¬ identifier <+: cs) →
      (∀ c ∈ cs, Text.isBlank c = false) → IsWhole cs

/-- What becomes of the text of a method. -/
structure Splitting (text result : String) : Prop where
  nothing_lost : ink result.toList = ink text.toList
  two_lines : result = text ∨ ∃ first second, result.toList = first ++ '\n' :: second ∧
    ('\n' ∉ first ∧ IsPhrase first) ∧ '\n' ∉ second ∧ IsPhrase second
  whole_iff : result = text ↔ IsWhole (Text.trim text.toList)
  broken : ∀ head tail, '\n' ∉ Text.trim text.toList →
    BreaksAt (Text.trim text.toList) head tail →
      result.toList = Text.trimEnd head ++ '\n' :: Text.trimStart tail
  identifier_kept : ∀ identifier rest, Leads (Text.trim text.toList) identifier rest →
    identifier <:+: result.toList

theorem isAscii_iff {c : Char} : isAscii c = true ↔ c.toNat < 128 :=
  decide_eq_true_iff

theorem atLastBlank?_eq_none_iff {cs : List Char} :
    atLastBlank? cs = none ↔ ∀ c ∈ cs, Text.isBlank c = false := by
  induction cs with
  | nil => simp [atLastBlank?]
  | cons c cs ih =>
      rw [List.forall_mem_cons, ← ih, atLastBlank?]
      cases atLastBlank? cs with
      | none => by_cases hc : Text.isBlank c <;> simp [hc]
      | some p => simp

theorem of_atLastBlank? {cs head tail : List Char} (h : atLastBlank? cs = some (head, tail)) :
    ∃ b word, tail = b :: word ∧ cs = head ++ b :: word ∧ Text.isBlank b = true ∧
      ∀ c ∈ word, Text.isBlank c = false := by
  induction cs generalizing head with
  | nil => cases h
  | cons c cs ih =>
      rw [atLastBlank?] at h
      split at h
      · next head' tail' hrest =>
          cases h
          obtain ⟨b, word, rfl, rfl, hb, hword⟩ := ih hrest
          exact ⟨b, word, rfl, rfl, hb, hword⟩
      · next hnone =>
          split at h
          · next hc =>
              cases h
              exact ⟨c, cs, rfl, rfl, hc, atLastBlank?_eq_none_iff.1 hnone⟩
          · cases h

theorem atLastBlank?_append {b : Char} {word : List Char} (head : List Char)
    (hb : Text.isBlank b = true) (hword : ∀ c ∈ word, Text.isBlank c = false) :
    atLastBlank? (head ++ b :: word) = some (head, b :: word) := by
  induction head with
  | nil =>
      have hnone := atLastBlank?_eq_none_iff.2 hword
      simp only [List.nil_append, atLastBlank?, hnone, if_pos hb]
  | cons c head ih => simp only [List.cons_append, atLastBlank?, ih]

theorem afterIdentifier_of_ascii {identifier rest : List Char} (h : ∀ a ∈ rest, a.toNat < 128) :
    afterIdentifier identifier rest = (identifier, rest) := by
  rw [afterIdentifier, if_pos (List.all_eq_true.2 fun a ha => isAscii_iff.2 (h a ha))]

theorem afterIdentifier_append {identifier ascii name : List Char} {c : Char}
    (hascii : ∀ a ∈ ascii, a.toNat < 128) (hc : 128 ≤ c.toNat) :
    afterIdentifier identifier (ascii ++ c :: name) = (identifier ++ ascii, c :: name) := by
  have hrun : ∀ a ∈ ascii, isAscii a = true := fun a ha => isAscii_iff.2 (hascii a ha)
  have hstop : isAscii c = false := by
    rw [Bool.eq_false_iff, ne_eq, isAscii_iff]
    omega
  have hhead : ∀ d ∈ (c :: name).head?, isAscii d = false := by
    rintro d ⟨⟩
    exact hstop
  have hall : ¬ (ascii ++ c :: name).all isAscii = true := by
    simp [hstop]
  rw [afterIdentifier, if_neg hall, Text.takeWhile_run hrun hhead, Text.dropWhile_run hrun hhead]

/-- The parts around a break, neither of which is empty. -/
theorem parts?_of_breaksAt {cs head tail : List Char} (h : BreaksAt cs head tail) :
    parts? cs = some (head, tail) := by
  cases h with
  | beforeName hleads hascii hc =>
      simp only [parts?, identifier?_eq_some_iff.2 hleads, afterIdentifier_append hascii hc]
  | behindIdentifier hleads _ hascii =>
      simp only [parts?, identifier?_eq_some_iff.2 hleads, afterIdentifier_of_ascii hascii]
  | atLastBlank hnone hcs hb hword =>
      rw [parts?, identifier?_eq_none_iff.2 hnone, hcs]
      exact atLastBlank?_append _ hb hword

theorem BreaksAt.eq_append {cs head tail : List Char} (h : BreaksAt cs head tail) :
    cs = head ++ tail := by
  cases h with
  | beforeName hleads _ _ => rw [hleads.eq_append, List.append_assoc]
  | behindIdentifier hleads _ _ => exact hleads.eq_append
  | atLastBlank _ hcs _ _ => exact hcs

theorem IsIdentifier.ne_nil {identifier : List Char} (h : IsIdentifier identifier) :
    identifier ≠ [] := by
  cases h with
  | intro _ _ hnumber =>
      cases hnumber with
      | intro _ _ _ => simp

theorem BreaksAt.tail_ne_nil {cs head tail : List Char} (h : BreaksAt cs head tail) :
    tail ≠ [] := by
  cases h with
  | beforeName _ _ _ => exact List.cons_ne_nil _ _
  | behindIdentifier _ hne _ => exact hne
  | atLastBlank _ _ _ _ => exact List.cons_ne_nil _ _

/-- A trimmed text does not break before its first character. -/
theorem BreaksAt.head_ne_nil {cs head tail : List Char} (h : BreaksAt cs head tail)
    (htrim : Text.trim cs = cs) : head ≠ [] := by
  cases h with
  | beforeName hleads _ _ =>
      exact fun hnil => hleads.isIdentifier.ne_nil (List.append_eq_nil_iff.1 hnil).1
  | behindIdentifier hleads _ _ => exact hleads.isIdentifier.ne_nil
  | atLastBlank _ hcs hb _ =>
      rintro rfl
      rw [List.nil_append] at hcs
      rw [hcs] at htrim
      rw [Text.isBlank_of_trimStart_eq_cons (Text.trimStart_eq_of_trim_eq htrim)] at hb
      cases hb

/-- What is not all ASCII has a first character outside it. -/
theorem exists_name {rest : List Char} (h : ¬ ∀ a ∈ rest, a.toNat < 128) :
    ∃ ascii c name, rest = ascii ++ c :: name ∧ (∀ a ∈ ascii, a.toNat < 128) ∧
      128 ≤ c.toNat := by
  have hcut := List.takeWhile_append_dropWhile (p := isAscii) (l := rest)
  have hbefore : ∀ a ∈ rest.takeWhile isAscii, a.toNat < 128 := fun a ha =>
    isAscii_iff.1 (List.all_eq_true.1 List.all_takeWhile a ha)
  have hhead := List.head?_dropWhile_not isAscii rest
  cases hname : rest.dropWhile isAscii with
  | nil =>
      rw [hname, List.append_nil] at hcut
      exact absurd (hcut ▸ hbefore) h
  | cons c name =>
      rw [hname] at hcut hhead
      refine ⟨_, c, name, hcut.symm, hbefore, ?_⟩
      have hc : isAscii c = false := hhead
      rw [Bool.eq_false_iff, ne_eq, isAscii_iff] at hc
      omega

/-- Every trimmed text has a place to break or is whole. -/
theorem isWhole_or_exists_breaksAt (cs : List Char) :
    IsWhole cs ∨ '\n' ∉ cs ∧ ∃ head tail, BreaksAt cs head tail := by
  by_cases hline : '\n' ∈ cs
  · exact .inl (.lines hline)
  cases hfound : identifier? cs with
  | none =>
      have hnone := identifier?_eq_none_iff.1 hfound
      cases hblank : atLastBlank? cs with
      | none => exact .inl (.word hnone (atLastBlank?_eq_none_iff.1 hblank))
      | some p =>
          obtain ⟨b, word, -, hcs, hb, hword⟩ := of_atLastBlank? hblank
          exact .inr ⟨hline, p.1, b :: word, .atLastBlank hnone hcs hb hword⟩
  | some found =>
      obtain ⟨identifier, rest⟩ := found
      have hleads := identifier?_eq_some_iff.1 hfound
      by_cases hascii : ∀ a ∈ rest, a.toNat < 128
      · by_cases hrest : rest = []
        · subst hrest
          have heq := hleads.eq_append
          rw [List.append_nil] at heq
          subst heq
          exact .inl (.identifier hleads)
        · exact .inr ⟨hline, identifier, rest, .behindIdentifier hleads hrest hascii⟩
      · obtain ⟨ascii, c, name, rfl, hbefore, hc⟩ := exists_name hascii
        exact .inr ⟨hline, identifier ++ ascii, c :: name, .beforeName hleads hbefore hc⟩

theorem lines?_of_isPhrase {head tail : List Char} (hhead : IsPhrase (Text.trimEnd head))
    (htail : IsPhrase (Text.trimStart tail)) :
    lines? head tail = some (Text.trimEnd head ++ '\n' :: Text.trimStart tail) := by
  simp only [lines?, List.isEmpty_eq_false_iff.2 hhead.1, List.isEmpty_eq_false_iff.2 htail.1,
    Bool.or_false, Bool.false_eq_true, if_false]

theorem split_eq_self_of_isWhole {text : String} (h : IsWhole (Text.trim text.toList)) :
    split text = text := by
  rw [split]
  cases h with
  | empty hempty => rw [hempty]; rfl
  | lines hline =>
      have hcontains : (Text.trim text.toList).contains '\n' = true := List.contains_iff_mem.2 hline
      simp only [hcontains, Bool.or_true, if_true]
  | identifier hleads =>
      have hlines : (parts? (Text.trim text.toList)).bind (fun p => lines? p.1 p.2) = none := by
        rw [parts?, identifier?_eq_some_iff.2 hleads]
        simp [afterIdentifier, lines?, Text.trimStart]
      simp only [hlines, ite_self]
  | word hnone hblank =>
      have hparts : parts? (Text.trim text.toList) = none := by
        rw [parts?, identifier?_eq_none_iff.2 hnone]
        exact atLastBlank?_eq_none_iff.2 hblank
      simp only [hparts, Option.bind_none, ite_self]

section Broken

variable {text : String} {head tail : List Char}

theorem BreaksAt.isPhrase_lines (h : BreaksAt (Text.trim text.toList) head tail) :
    IsPhrase (Text.trimEnd head) ∧ IsPhrase (Text.trimStart tail) := by
  have htrim := Text.trim_trim text.toList
  have hne : Text.trim text.toList ≠ [] := by
    rw [h.eq_append]
    exact List.append_ne_nil_of_right_ne_nil _ h.tail_ne_nil
  have hphrase : IsPhrase (head ++ tail) := h.eq_append ▸ ⟨hne, htrim⟩
  exact ⟨hphrase.before (h.head_ne_nil htrim), hphrase.behind h.tail_ne_nil⟩

theorem split_of_breaksAt (hline : '\n' ∉ Text.trim text.toList)
    (h : BreaksAt (Text.trim text.toList) head tail) :
    (split text).toList = Text.trimEnd head ++ '\n' :: Text.trimStart tail := by
  obtain ⟨hhead, htail⟩ := h.isPhrase_lines
  have hne : (Text.trim text.toList).isEmpty = false := by
    rw [List.isEmpty_eq_false_iff, h.eq_append]
    exact List.append_ne_nil_of_right_ne_nil _ h.tail_ne_nil
  have hcontains : (Text.trim text.toList).contains '\n' = false := by
    simpa using hline
  simp only [split, hne, hcontains, Bool.or_self, Bool.false_eq_true, if_false,
    parts?_of_breaksAt h, Option.bind_some, lines?_of_isPhrase hhead htail, String.toList_ofList]

/-- Two lines are told from the text by the line feed between them. -/
theorem isWhole_split_of_breaksAt (hline : '\n' ∉ Text.trim text.toList)
    (h : BreaksAt (Text.trim text.toList) head tail) :
    IsWhole (Text.trim (split text).toList) := by
  obtain ⟨hhead, htail⟩ := h.isPhrase_lines
  have hphrase := hhead.append_cons '\n' htail
  rw [split_of_breaksAt hline h, hphrase.2]
  exact .lines (by simp)

theorem split_ne_self_of_breaksAt (hline : '\n' ∉ Text.trim text.toList)
    (h : BreaksAt (Text.trim text.toList) head tail) : split text ≠ text := by
  intro hsame
  obtain ⟨hhead, htail⟩ := h.isPhrase_lines
  have hphrase := hhead.append_cons '\n' htail
  have hlines := split_of_breaksAt hline h
  rw [hsame] at hlines
  rw [hlines, hphrase.2] at hline
  exact hline (by simp)

theorem two_lines_of_breaksAt (hline : '\n' ∉ Text.trim text.toList)
    (h : BreaksAt (Text.trim text.toList) head tail) :
    ('\n' ∉ Text.trimEnd head ∧ IsPhrase (Text.trimEnd head)) ∧
      '\n' ∉ Text.trimStart tail ∧ IsPhrase (Text.trimStart tail) := by
  obtain ⟨hhead, htail⟩ := h.isPhrase_lines
  rw [h.eq_append, List.mem_append, not_or] at hline
  have hbefore : '\n' ∉ Text.trimEnd head := fun hmem =>
    hline.1 ((Text.trimEnd_isPrefix head).subset hmem)
  have hbehind : '\n' ∉ Text.trimStart tail := fun hmem =>
    hline.2 ((List.dropWhile_suffix Text.isBlank).subset hmem)
  exact ⟨⟨hbefore, hhead⟩, hbehind, htail⟩

/-- A line feed takes the place of blanks. -/
theorem ink_split_of_breaksAt (hline : '\n' ∉ Text.trim text.toList)
    (h : BreaksAt (Text.trim text.toList) head tail) :
    ink (split text).toList = ink text.toList := by
  have hblank : ink ['\n'] = [] := by decide
  calc ink (split text).toList
    _ = ink (Text.trimEnd head ++ (['\n'] ++ Text.trimStart tail)) := by
      rw [split_of_breaksAt hline h, List.singleton_append]
    _ = ink head ++ ink tail := by
      rw [Text.ink_append, Text.ink_append, hblank, List.nil_append, Text.ink_trimEnd,
        Text.ink_trimStart]
    _ = ink text.toList := by
      rw [← Text.ink_append, ← h.eq_append, Text.ink_trim]

end Broken

theorem IsIdentifier.trimEnd_eq {identifier : List Char} (h : IsIdentifier identifier) :
    Text.trimEnd identifier = identifier := by
  obtain @⟨letters, blanks, number, -, -, hnumber⟩ := h
  obtain @⟨c, serial, year, -, -, hyear⟩ := hnumber
  have hend : Text.trimEnd year = year :=
    Text.trimEnd_eq_of_forall fun d hd => Decimal.isBlank_of_isDigit (hyear.2 d hd)
  have hassoc : letters ++ (blanks ++ c :: (serial ++ '-' :: year)) =
      (letters ++ (blanks ++ c :: (serial ++ ['-']))) ++ year := by simp
  rw [hassoc, Text.trimEnd_append _ (hend.symm ▸ hyear.1), hend]

/-- Blanks are taken away behind an identifier only. -/
theorem IsIdentifier.prefix_trimEnd {identifier head : List Char} (h : IsIdentifier identifier)
    (hhead : identifier <+: head) : identifier <+: Text.trimEnd head := by
  obtain ⟨rest, rfl⟩ := hhead
  by_cases hrest : Text.trimEnd rest = []
  · have hsame : Text.trimEnd (identifier ++ rest) = identifier :=
      (Text.trimEnd_append_of_nil _ hrest).trans h.trimEnd_eq
    exact ⟨[], (List.append_nil identifier).trans hsame.symm⟩
  · rw [Text.trimEnd_append _ hrest]
    exact List.prefix_append _ _

theorem Leads.unique {cs identifier rest identifier' rest' : List Char}
    (h : Leads cs identifier rest) (h' : Leads cs identifier' rest') :
    identifier' = identifier ∧ rest' = rest := by
  have heq := (identifier?_eq_some_iff.2 h').symm.trans (identifier?_eq_some_iff.2 h)
  exact Prod.mk.inj (Option.some.inj heq)

/-- No text breaks within its identifier. -/
theorem BreaksAt.prefix_head {cs head tail identifier rest : List Char}
    (h : BreaksAt cs head tail) (hleads : Leads cs identifier rest) : identifier <+: head := by
  cases h with
  | beforeName hleads' _ _ =>
      obtain ⟨rfl, -⟩ := hleads.unique hleads'
      exact List.prefix_append _ _
  | behindIdentifier hleads' _ _ =>
      obtain ⟨rfl, -⟩ := hleads.unique hleads'
      exact List.prefix_refl _
  | atLastBlank hnone _ _ _ =>
      exact absurd ⟨rest, hleads.eq_append.symm⟩ (hnone identifier hleads.isIdentifier)

/-- An identifier is still there in one piece, whether the text was broken or not. -/
theorem identifier_infix_split {text : String} {identifier rest : List Char}
    (h : Leads (Text.trim text.toList) identifier rest) : identifier <:+: (split text).toList := by
  have hprefix : identifier <+: Text.trim text.toList := ⟨rest, h.eq_append.symm⟩
  rcases isWhole_or_exists_breaksAt (Text.trim text.toList) with
    hwhole | ⟨hline, head, tail, hbreaks⟩
  · rw [split_eq_self_of_isWhole hwhole]
    exact hprefix.isInfix.trans (Text.trim_infix _)
  · rw [split_of_breaksAt hline hbreaks]
    have hhead := h.isIdentifier.prefix_trimEnd (hbreaks.prefix_head h)
    exact (hhead.trans (List.prefix_append _ _)).isInfix

/-- A text breaks exactly where it has a place for it, loses nothing but blanks, and does not break
a second time. -/
theorem split_splitting (text : String) :
    Splitting text (split text) ∧ split (split text) = split text := by
  rcases isWhole_or_exists_breaksAt (Text.trim text.toList) with
    hwhole | ⟨hline, head, tail, hbreaks⟩
  · have hsame := split_eq_self_of_isWhole hwhole
    refine ⟨?_, congrArg split hsame⟩
    exact {
      nothing_lost := by rw [hsame]
      two_lines := .inl hsame
      whole_iff := ⟨fun _ => hwhole, fun _ => hsame⟩
      broken := fun _ _ => split_of_breaksAt
      identifier_kept := fun _ _ => identifier_infix_split }
  · have hchanged := split_ne_self_of_breaksAt hline hbreaks
    refine ⟨?_, split_eq_self_of_isWhole (isWhole_split_of_breaksAt hline hbreaks)⟩
    exact {
      nothing_lost := ink_split_of_breaksAt hline hbreaks
      two_lines := .inr ⟨_, _, split_of_breaksAt hline hbreaks,
        two_lines_of_breaksAt hline hbreaks⟩
      whole_iff := ⟨fun hsame => absurd hsame hchanged, split_eq_self_of_isWhole⟩
      broken := fun _ _ => split_of_breaksAt
      identifier_kept := fun _ _ => identifier_infix_split }

example : split "GB/T 5750.5-2023 (4.1)　离子色谱法" = "GB/T 5750.5-2023 (4.1)\n离子色谱法" := by
  decide

example : split " GB 5749-2022 " = " GB 5749-2022 " := by
  decide

end MarkedSheet.MethodText
