import Mathlib.Data.List.Chain
import MarkedSheet.Marker.Grammar

/-!
# The tokens of a text

A bracket is a token of its own wherever it stands, so that the tokens of a text are those in front
of a bracket, the bracket, and those behind it.  Runs of text are as long as possible.
-/

namespace MarkedSheet

/-- A text without brackets. -/
def Text.Bracketless (cs : List Char) : Prop :=
  '[' ∉ cs ∧ ']' ∉ cs

namespace Token

theorem consText_append {c : Char} {t : Token} (tokens rest : List Token) (h : t.isText = false) :
    consText c (tokens ++ t :: rest) = consText c tokens ++ t :: rest := by
  cases tokens with
  | nil =>
      cases t with
      | text cs => cases h
      | opening => rfl
      | closing => rfl
  | cons u us => cases u <;> rfl

/-- The tokens of a text that a bracket begins are not joined to those in front. -/
theorem scan_append {ds : List Char} {t : Token} {rest : List Token} (cs : List Char)
    (hscan : scan ds = t :: rest) (h : t.isText = false) :
    scan (cs ++ ds) = scan cs ++ scan ds := by
  induction cs with
  | nil => rfl
  | cons c cs ih =>
      rw [List.cons_append, scan, scan, ih, hscan, consText_append _ _ h]
      split
      · rfl
      · split <;> rfl

theorem scan_append_opening (cs ds : List Char) :
    scan (cs ++ '[' :: ds) = scan cs ++ opening :: scan ds :=
  scan_append cs rfl rfl

theorem scan_append_closing (cs ds : List Char) :
    scan (cs ++ ']' :: ds) = scan cs ++ closing :: scan ds :=
  scan_append cs rfl rfl

theorem scan_bracketless {cs : List Char} (hne : cs ≠ []) (h : Text.Bracketless cs) :
    scan cs = [text cs] := by
  induction cs with
  | nil => exact absurd rfl hne
  | cons c cs ih =>
      obtain ⟨hopen, hclose⟩ := h
      rw [List.mem_cons, not_or] at hopen hclose
      rw [scan, if_neg (Ne.symm hopen.1), if_neg (Ne.symm hclose.1)]
      by_cases hcs : cs = []
      · subst hcs
        rfl
      · rw [ih hcs ⟨hopen.2, hclose.2⟩]
        rfl

theorem opening_not_mem_scan {cs : List Char} (h : '[' ∉ cs) : opening ∉ scan cs := by
  intro hmem
  have hchar : '[' ∈ (scan cs).flatMap chars :=
    List.mem_flatMap.2 ⟨opening, hmem, List.mem_singleton_self _⟩
  rw [flatMap_chars_scan] at hchar
  exact h hchar

theorem locate_append (start : Nat) (ts us : List Token) :
    locate start (ts ++ us) =
      locate start ts ++ locate (start + Text.width (ts.flatMap chars)) us := by
  induction ts generalizing start with
  | nil => rfl
  | cons t ts ih =>
      rw [List.cons_append, locate, locate, ih, List.cons_append, List.flatMap_cons,
        Text.width_append, Nat.add_assoc]

theorem locate_scan_append (start : Nat) (cs : List Char) (us : List Token) :
    locate start (scan cs ++ us) =
      locate start (scan cs) ++ locate (start + Text.width cs) us := by
  rw [locate_append, flatMap_chars_scan]

theorem map_fst_locate (start : Nat) (ts : List Token) : (locate start ts).map Prod.fst = ts := by
  induction ts generalizing start with
  | nil => rfl
  | cons t ts ih => rw [locate, List.map_cons, ih]

/-- Not both of two tokens are text. -/
def NotBothText (t u : Token) : Prop :=
  ¬ (t.isText = true ∧ u.isText = true)

/-- Runs of text are as long as possible, so that no two of them stand side by side. -/
theorem isChain_scan (cs : List Char) : (scan cs).IsChain NotBothText := by
  induction cs with
  | nil => exact List.IsChain.nil
  | cons c cs ih =>
      rw [scan]
      split
      · exact List.isChain_cons.2 ⟨fun u _ => by simp [NotBothText, isText], ih⟩
      · split
        · exact List.isChain_cons.2 ⟨fun u _ => by simp [NotBothText, isText], ih⟩
        · cases hscan : scan cs with
          | nil => exact List.IsChain.singleton _
          | cons t rest =>
              rw [hscan] at ih
              cases t with
              | opening => exact List.isChain_cons.2 ⟨by simp [NotBothText, isText], ih⟩
              | closing => exact List.isChain_cons.2 ⟨by simp [NotBothText, isText], ih⟩
              | text ds =>
                  rw [List.isChain_cons] at ih
                  exact List.isChain_cons.2 ih

end Token

end MarkedSheet
