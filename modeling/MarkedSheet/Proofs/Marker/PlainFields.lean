import MarkedSheet.Marker.PlainField
import MarkedSheet.Proofs.Text.Trimmed

/-!
# What plain fields declare

Every text divides in one way into pieces outside its parentheses and the groups between them, the
last of which may lack its closing parenthesis.  A plain field takes its default from before the
first semicolon, or else from the pieces outside all groups, and its hint from the first group
behind the semicolon, or else of the whole text.  A closing parenthesis that is missing makes no
difference.
-/

namespace MarkedSheet

/-- A text divided at its parentheses: pieces outside and the insides of groups take turns. -/
inductive Grouping where
  | outside (piece : List Char)
  /-- A group that runs to the end of the text. -/
  | unclosed (piece inside : List Char)
  | closed (piece inside : List Char) (rest : Grouping)

namespace Grouping

def chars : Grouping → List Char
  | outside piece => piece
  | unclosed piece inside => piece ++ '(' :: inside
  | closed piece inside rest => piece ++ '(' :: (inside ++ ')' :: rest.chars)

/-- Pieces end at the next opening parenthesis and groups at the next closing one. -/
def Proper : Grouping → Prop
  | outside piece => '(' ∉ piece
  | unclosed piece inside => '(' ∉ piece ∧ ')' ∉ inside
  | closed piece inside rest => '(' ∉ piece ∧ ')' ∉ inside ∧ rest.Proper

/-- The pieces outside the groups, joined. -/
def kept : Grouping → List Char
  | outside piece => piece
  | unclosed piece _ => piece
  | closed piece _ rest => piece ++ rest.kept

/-- The inside of the first group. -/
def firstInside? : Grouping → Option (List Char)
  | outside _ => none
  | unclosed _ inside => some inside
  | closed _ inside _ => some inside

/-- The number of groups. -/
def groups : Grouping → Nat
  | outside _ => 0
  | unclosed _ _ => 1
  | closed _ _ rest => rest.groups + 1

def Divides (g : Grouping) (cs : List Char) : Prop :=
  g.Proper ∧ g.chars = cs

theorem exists_divides (cs : List Char) : ∃ g : Grouping, g.Divides cs := by
  -- What stands behind the first group is a shorter text.
  induction hn : cs.length using Nat.strongRecOn generalizing cs with
  | ind n ih =>
      cases hopen : Text.splitAtFirst? '(' cs with
      | none => exact ⟨outside cs, Text.splitAtFirst?_eq_none_iff.1 hopen, rfl⟩
      | some p =>
          obtain ⟨piece, behind⟩ := p
          obtain ⟨rfl, hpiece⟩ := Text.eq_append_of_splitAtFirst? hopen
          cases hclose : Text.splitAtFirst? ')' behind with
          | none =>
              have hinside := Text.splitAtFirst?_eq_none_iff.1 hclose
              exact ⟨unclosed piece behind, ⟨hpiece, hinside⟩, rfl⟩
          | some q =>
              obtain ⟨inside, rest⟩ := q
              obtain ⟨rfl, hinside⟩ := Text.eq_append_of_splitAtFirst? hclose
              have hlt : rest.length < n := by
                rw [← hn]
                simp only [List.length_append, List.length_cons]
                omega
              obtain ⟨g, hg, rfl⟩ := ih rest.length hlt rest rfl
              exact ⟨closed piece inside g, ⟨hpiece, hinside, hg⟩, rfl⟩

/-- The piece in front of the first group and what stands behind the opening parenthesis. -/
def first? : Grouping → Option (List Char × List Char)
  | outside _ => none
  | unclosed piece inside => some (piece, inside)
  | closed piece inside rest => some (piece, inside ++ ')' :: rest.chars)

/-- The first opening parenthesis of a text ends the first piece. -/
theorem Proper.splitAtFirst?_chars {g : Grouping} (h : g.Proper) :
    Text.splitAtFirst? '(' g.chars = g.first? := by
  cases g with
  | outside piece => exact Text.splitAtFirst?_eq_none_iff.2 h
  | unclosed piece inside => exact Text.splitAtFirst?_append _ h.1
  | closed piece inside rest => exact Text.splitAtFirst?_append _ h.1

theorem Proper.first?_eq {g g' : Grouping} (h : g.Proper) (h' : g'.Proper)
    (hchars : g.chars = g'.chars) : g.first? = g'.first? := by
  rw [← h.splitAtFirst?_chars, hchars, h'.splitAtFirst?_chars]

theorem Proper.eq_of_chars_eq {g g' : Grouping} (h : g.Proper) (h' : g'.Proper)
    (hchars : g.chars = g'.chars) : g = g' := by
  induction g generalizing g' with
  | outside piece =>
      cases g' with
      | outside piece' => exact congrArg outside hchars
      | unclosed piece' inside' => cases h.first?_eq h' hchars
      | closed piece' inside' rest' => cases h.first?_eq h' hchars
  | unclosed piece inside =>
      have hfirst := h.first?_eq h' hchars
      cases g' with
      | outside piece' => cases hfirst
      | unclosed piece' inside' =>
          cases hfirst
          rfl
      | closed piece' inside' rest' =>
          cases hfirst
          exact absurd h.2 (by simp)
  | closed piece inside rest ih =>
      have hfirst := h.first?_eq h' hchars
      cases g' with
      | outside piece' => cases hfirst
      | unclosed piece' inside' =>
          cases hfirst
          exact absurd h'.2 (by simp)
      | closed piece' inside' rest' =>
          simp only [first?, Option.some.injEq, Prod.mk.injEq] at hfirst
          obtain ⟨rfl, hbehind⟩ := hfirst
          -- The closing parenthesis of the first group is where the text behind splits.
          have hinside := Text.splitAtFirst?_append rest.chars h.2.1
          rw [hbehind, Text.splitAtFirst?_append _ h'.2.1] at hinside
          obtain ⟨rfl, hrest⟩ := Prod.mk.inj (Option.some.inj hinside)
          rw [ih h.2.2 h'.2.2 hrest.symm]

theorem existsUnique_divides (cs : List Char) :
    ∃ g : Grouping, g.Divides cs ∧ ∀ g' : Grouping, g'.Divides cs → g' = g := by
  obtain ⟨g, hg, hchars⟩ := exists_divides cs
  refine ⟨g, ⟨hg, hchars⟩, fun g' h => h.1.eq_of_chars_eq hg (h.2.trans hchars.symm)⟩

end Grouping

namespace PlainField

theorem outsideGroups_append {before : List Char} (after : List Char) (h : '(' ∉ before) :
    outsideGroups false (before ++ after) = before ++ outsideGroups false after := by
  induction before with
  | nil => rfl
  | cons c cs ih =>
      rw [List.mem_cons, not_or] at h
      simp [outsideGroups, Ne.symm h.1, ih h.2]

theorem outsideGroups_inside {inside : List Char} (after : List Char) (h : ')' ∉ inside) :
    outsideGroups true (inside ++ ')' :: after) = outsideGroups false after := by
  induction inside with
  | nil => simp [outsideGroups]
  | cons c cs ih =>
      rw [List.mem_cons, not_or] at h
      have hc : (c != ')') = true := bne_iff_ne.2 (Ne.symm h.1)
      simp [outsideGroups, hc, ih h.2]

theorem outsideGroups_unclosed {inside : List Char} (h : ')' ∉ inside) :
    outsideGroups true inside = [] := by
  induction inside with
  | nil => rfl
  | cons c cs ih =>
      rw [List.mem_cons, not_or] at h
      have hc : (c != ')') = true := bne_iff_ne.2 (Ne.symm h.1)
      simp [outsideGroups, hc, ih h.2]

/-- Behind an opening parenthesis the text is inside a group, wherever the parenthesis stands. -/
theorem exists_outsideGroups_opening (inGroup : Bool) (before : List Char) :
    ∃ kept, ∀ after, outsideGroups inGroup (before ++ '(' :: after) =
      kept ++ outsideGroups true after := by
  induction before generalizing inGroup with
  | nil => cases inGroup <;> exact ⟨[], fun after => rfl⟩
  | cons c cs ih =>
      cases inGroup with
      | true =>
          obtain ⟨kept, hkept⟩ := ih (c != ')')
          exact ⟨kept, fun after => hkept after⟩
      | false =>
          by_cases hc : c = '('
          · obtain ⟨kept, hkept⟩ := ih true
            exact ⟨kept, fun after => by simp [outsideGroups, hc, hkept]⟩
          · obtain ⟨kept, hkept⟩ := ih false
            exact ⟨c :: kept, fun after => by simp [outsideGroups, hc, hkept]⟩

theorem outsideGroups_chars {g : Grouping} (h : g.Proper) :
    outsideGroups false g.chars = g.kept := by
  induction g with
  | outside piece =>
      have hkept := outsideGroups_append [] h
      rw [List.append_nil, outsideGroups, List.append_nil] at hkept
      exact hkept
  | unclosed piece inside =>
      rw [Grouping.chars, outsideGroups_append _ h.1]
      show piece ++ outsideGroups true inside = piece
      rw [outsideGroups_unclosed h.2, List.append_nil]
  | closed piece inside rest ih =>
      rw [Grouping.chars, outsideGroups_append _ h.1]
      show piece ++ outsideGroups true (inside ++ ')' :: rest.chars) = piece ++ rest.kept
      rw [outsideGroups_inside _ h.2.1, ih h.2.2]

/-- A group ends before its closing parenthesis, or with the text. -/
theorem takeWhile_inside {inside after : List Char} (h : ')' ∉ inside)
    (hafter : after.takeWhile (· != ')') = []) :
    (inside ++ after).takeWhile (· != ')') = inside := by
  rw [List.takeWhile_append_of_pos, hafter, List.append_nil]
  intro c hc
  exact bne_iff_ne.2 fun heq => h (heq ▸ hc)

theorem takeWhile_of_not_mem {inside : List Char} (h : ')' ∉ inside) :
    inside.takeWhile (· != ')') = inside := by
  have hinside : (inside ++ []).takeWhile (· != ')') = inside := takeWhile_inside h rfl
  rw [List.append_nil] at hinside
  exact hinside

theorem firstGroup?_chars {g : Grouping} (h : g.Proper) :
    firstGroup? g.chars = g.firstInside?.bind Text.trimmed? := by
  rw [firstGroup?, h.splitAtFirst?_chars]
  cases g with
  | outside piece => rfl
  | unclosed piece inside => exact congrArg Text.trimmed? (takeWhile_of_not_mem h.2)
  | closed piece inside rest =>
      exact congrArg Text.trimmed? (takeWhile_inside h.2.1 rfl)

/-- What the text behind a marker declares: a default and a hint, of which either may be missing. -/
inductive Declares (tail : List Char) : Option String → Option String → Prop where
  | separated {before after : List Char} {g : Grouping} (htail : tail = before ++ ';' :: after)
      (hbefore : ';' ∉ before) (hg : g.Divides after) :
      Declares tail (Text.trimmed? before) (g.firstInside?.bind Text.trimmed?)
  | unseparated {g : Grouping} (htail : ';' ∉ tail) (hg : g.Divides tail) :
      Declares tail (Text.trimmed? g.kept) (g.firstInside?.bind Text.trimmed?)

variable {tail : List Char} {default? hint? : Option String}

theorem Declares.eq_read (h : Declares tail default? hint?) :
    default? = defaultOf tail ∧ hint? = hintOf tail := by
  cases h with
  | @separated before after g htail hbefore hg =>
      obtain ⟨hproper, rfl⟩ := hg
      rw [htail, defaultOf, hintOf, Text.splitAtFirst?_append _ hbefore]
      exact ⟨rfl, (firstGroup?_chars hproper).symm⟩
  | @unseparated g htail hg =>
      obtain ⟨hproper, rfl⟩ := hg
      rw [defaultOf, hintOf, Text.splitAtFirst?_eq_none_iff.2 htail]
      exact ⟨congrArg Text.trimmed? (outsideGroups_chars hproper).symm,
        (firstGroup?_chars hproper).symm⟩

theorem exists_declares (tail : List Char) : ∃ default? hint?, Declares tail default? hint? := by
  cases hsplit : Text.splitAtFirst? ';' tail with
  | none =>
      obtain ⟨g, hg⟩ := Grouping.exists_divides tail
      exact ⟨_, _, .unseparated (Text.splitAtFirst?_eq_none_iff.1 hsplit) hg⟩
  | some p =>
      obtain ⟨htail, hbefore⟩ := Text.eq_append_of_splitAtFirst? hsplit
      obtain ⟨g, hg⟩ := Grouping.exists_divides p.2
      exact ⟨_, _, .separated htail hbefore hg⟩

theorem declares_iff :
    Declares tail default? hint? ↔ default? = defaultOf tail ∧ hint? = hintOf tail := by
  refine ⟨Declares.eq_read, ?_⟩
  rintro ⟨rfl, rfl⟩
  obtain ⟨d?, h?, h⟩ := exists_declares tail
  obtain ⟨rfl, rfl⟩ := h.eq_read
  exact h

end PlainField

/-- The removal of groups as a loop: what is kept so far and what is still to be read. -/
structure Stripping where
  kept : List Char
  rest : List Char

namespace Stripping

/-- One round of the loop removes the next group; there is none without an opening parenthesis. -/
def round? (s : Stripping) : Option Stripping :=
  match Text.splitAtFirst? '(' s.rest with
  | none => none
  | some (piece, behind) =>
      match Text.splitAtFirst? ')' behind with
      | some (_, rest) => some ⟨s.kept ++ piece, rest⟩
      | none => some ⟨s.kept ++ piece, []⟩

/-- The loop ends after some number of rounds, because there is no round left. -/
inductive Ends : Stripping → Nat → Stripping → Prop where
  | done {s : Stripping} (h : s.round? = none) : Ends s 0 s
  | round {s next last : Stripping} {n : Nat} (h : s.round? = some next)
      (hlast : Ends next n last) : Ends s (n + 1) last

/-- The loop takes one round for each group. -/
theorem exists_ends {g : Grouping} (h : g.Proper) (kept : List Char) :
    ∃ last : Stripping, Ends ⟨kept, g.chars⟩ g.groups last ∧
      last.kept ++ last.rest = kept ++ g.kept := by
  induction g generalizing kept with
  | outside piece =>
      refine ⟨_, .done ?_, rfl⟩
      rw [round?, h.splitAtFirst?_chars]
      rfl
  | unclosed piece inside =>
      refine ⟨⟨kept ++ piece, []⟩, .round ?_ (.done rfl), List.append_nil _⟩
      simp only [round?, h.splitAtFirst?_chars, Grouping.first?,
        Text.splitAtFirst?_eq_none_iff.2 h.2]
  | closed piece inside rest ih =>
      obtain ⟨last, hends, hkept⟩ := ih h.2.2 (kept ++ piece)
      refine ⟨last, .round ?_ hends, ?_⟩
      · simp only [round?, h.splitAtFirst?_chars, Grouping.first?,
          Text.splitAtFirst?_append _ h.2.1]
      · rw [hkept, List.append_assoc]
        rfl

end Stripping

namespace Grouping

theorem not_mem_kept {g : Grouping} (h : g.Proper) : '(' ∉ g.kept := by
  induction g with
  | outside piece => exact h
  | unclosed piece inside => exact h.1
  | closed piece inside rest ih =>
      rw [kept, List.mem_append, not_or]
      exact ⟨h.1, ih h.2.2⟩

/-- Each group begins with an opening parenthesis of its own. -/
theorem groups_le_count (g : Grouping) : g.groups ≤ g.chars.count '(' := by
  induction g with
  | outside piece => exact Nat.zero_le _
  | unclosed piece inside =>
      rw [groups, chars, List.count_append, List.count_cons_self]
      omega
  | closed piece inside rest ih =>
      have hclose : ')' ≠ '(' := by decide
      rw [groups, chars, List.count_append, List.count_cons_self, List.count_append,
        List.count_cons_of_ne hclose]
      omega

end Grouping

namespace PlainField

theorem takeWhile_append_closing (cs : List Char) :
    (cs ++ [')']).takeWhile (· != ')') = cs.takeWhile (· != ')') := by
  cases hsplit : Text.splitAtFirst? ')' cs with
  | none =>
      have hclose := Text.splitAtFirst?_eq_none_iff.1 hsplit
      rw [takeWhile_inside hclose rfl, takeWhile_of_not_mem hclose]
  | some p =>
      obtain ⟨rfl, hclose⟩ := Text.eq_append_of_splitAtFirst? hsplit
      rw [List.append_assoc, List.cons_append, takeWhile_inside hclose rfl,
        takeWhile_inside hclose rfl]

theorem firstGroup?_append_closing (cs : List Char) :
    firstGroup? (cs ++ [')']) = firstGroup? cs := by
  cases hsplit : Text.splitAtFirst? '(' cs with
  | none =>
      have hopen : '(' ∉ cs ++ [')'] := by
        rw [List.mem_append, not_or]
        exact ⟨Text.splitAtFirst?_eq_none_iff.1 hsplit, by decide⟩
      rw [firstGroup?, firstGroup?, hsplit, Text.splitAtFirst?_eq_none_iff.2 hopen]
  | some p =>
      obtain ⟨rfl, hpiece⟩ := Text.eq_append_of_splitAtFirst? hsplit
      rw [firstGroup?, firstGroup?, hsplit, List.append_assoc, List.cons_append,
        Text.splitAtFirst?_append _ hpiece]
      exact congrArg Text.trimmed? (takeWhile_append_closing p.2)

theorem outsideGroups_append_closing (before : List Char) {after : List Char} (h : ')' ∉ after) :
    outsideGroups false (before ++ '(' :: after ++ [')']) =
      outsideGroups false (before ++ '(' :: after) := by
  obtain ⟨kept, hkept⟩ := exists_outsideGroups_opening false before
  rw [List.append_assoc, List.cons_append, hkept, hkept, outsideGroups_inside [] h,
    outsideGroups_unclosed h]
  rfl

/-- A closing parenthesis that is missing at the end makes no difference. -/
theorem read_append_closing (name : String) {before after : List Char} (h : ')' ∉ after) :
    read name (before ++ '(' :: after) = read name (before ++ '(' :: after ++ [')']) := by
  have houtside := outsideGroups_append_closing before h
  generalize before ++ '(' :: after = tail at houtside ⊢
  have hboth : defaultOf tail = defaultOf (tail ++ [')']) ∧
      hintOf tail = hintOf (tail ++ [')']) := by
    cases hsplit : Text.splitAtFirst? ';' tail with
    | none =>
        have hsemicolon : ';' ∉ tail ++ [')'] := by
          rw [List.mem_append, not_or]
          exact ⟨Text.splitAtFirst?_eq_none_iff.1 hsplit, by decide⟩
        rw [defaultOf, defaultOf, hintOf, hintOf, hsplit,
          Text.splitAtFirst?_eq_none_iff.2 hsemicolon]
        exact ⟨congrArg Text.trimmed? houtside.symm, (firstGroup?_append_closing tail).symm⟩
    | some p =>
        obtain ⟨rfl, hbefore⟩ := Text.eq_append_of_splitAtFirst? hsplit
        rw [defaultOf, defaultOf, hintOf, hintOf, hsplit, List.append_assoc, List.cons_append,
          Text.splitAtFirst?_append _ hbefore]
        exact ⟨rfl, (firstGroup?_append_closing p.2).symm⟩
  rw [read, read, hboth.1, hboth.2]

/-- What a marker with this name and the text behind it comes to. -/
structure Explained (name : String) (tail : List Char) : Prop where
  /-- The text behind the marker, like every other, divides in one way. -/
  divided : ∀ cs, ∃ g : Grouping, g.Divides cs ∧ ∀ g' : Grouping, g'.Divides cs → g' = g
  name_eq : (read name tail).name = name
  declares_iff : ∀ default? hint?, Declares tail default? hint? ↔
    default? = (read name tail).default? ∧ hint? = (read name tail).hint?
  /-- Blank texts declare nothing. -/
  blank_iff : ∀ cs, Text.trimmed? cs = none ↔ Text.allBlank cs = true
  required_iff : (read name tail).required = true ↔ (read name tail).default? = none
  /-- The loop that removes groups ends, and what it keeps is free of them. -/
  stripped : ∃ n last, n ≤ tail.count '(' ∧ Stripping.Ends ⟨[], tail⟩ n last ∧
    last.kept ++ last.rest = outsideGroups false tail ∧ '(' ∉ outsideGroups false tail
  closed : ∀ before after, tail = before ++ '(' :: after → ')' ∉ after →
    read name tail = read name (tail ++ [')'])

/-- Every plain field is explained by the groups of the text behind its marker. -/
theorem read_explained (name : String) (tail : List Char) : Explained name tail where
  divided := Grouping.existsUnique_divides
  name_eq := rfl
  declares_iff := fun _ _ => declares_iff
  blank_iff := fun _ => Text.trimmed?_eq_none_iff
  required_iff := Option.isNone_iff_eq_none
  stripped := by
    obtain ⟨g, hg, rfl⟩ := Grouping.exists_divides tail
    obtain ⟨last, hends, hkept⟩ := Stripping.exists_ends hg []
    rw [List.nil_append, ← outsideGroups_chars hg] at hkept
    refine ⟨g.groups, last, g.groups_le_count, hends, hkept, ?_⟩
    rw [outsideGroups_chars hg]
    exact Grouping.not_mem_kept hg
  closed := by
    rintro before after rfl hclose
    exact read_append_closing name hclose

end PlainField

end MarkedSheet
