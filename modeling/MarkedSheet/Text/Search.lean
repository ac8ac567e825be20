/-!
# Search in texts

The parts of a text around the first of some character, whether a word occurs in a text, and the
replacement of every occurrence of a word.
-/

namespace MarkedSheet.Text

/-- The text before and the text after the first `d`. -/
def splitAtFirst? (d : Char) : List Char → Option (List Char × List Char)
  | [] => none
  | c :: rest =>
      if c = d then some ([], rest)
      else (splitAtFirst? d rest).map fun p => (c :: p.1, p.2)

/-- The rest of the text after the word at its start. -/
def stripStart? : List Char → List Char → Option (List Char)
  | [], cs => some cs
  | _ :: _, [] => none
  | w :: ws, c :: cs => if w = c then stripStart? ws cs else none

/-- Whether the word stands somewhere in the text. -/
def occursIn (word : List Char) : List Char → Bool
  | [] => word.isEmpty
  | c :: cs => (stripStart? word (c :: cs)).isSome || occursIn word cs

def holds (text word : String) : Bool :=
  occursIn word.toList text.toList

/-- The text with every occurrence of the nonempty `word`, from left to right, replaced; `skip`
characters still belong to the occurrence replaced last. -/
def replaceFrom (word replacement : List Char) : Nat → List Char → List Char
  | _, [] => []
  | skip + 1, _ :: cs => replaceFrom word replacement skip cs
  | 0, c :: cs =>
      -- One character of the occurrence is taken here, the others are skipped.
      if (stripStart? word (c :: cs)).isSome then
        replacement ++ replaceFrom word replacement (word.length - 1) cs
      else
        c :: replaceFrom word replacement 0 cs

/-- The text with every occurrence of the nonempty `word` replaced. -/
def replaceAll (text word replacement : String) : String :=
  String.ofList (replaceFrom word.toList replacement.toList 0 text.toList)

theorem splitAtFirst?_eq_none_iff {d : Char} {cs : List Char} :
    splitAtFirst? d cs = none ↔ d ∉ cs := by
  induction cs with
  | nil => simp [splitAtFirst?]
  | cons c cs ih =>
      by_cases h : c = d
      · simp [splitAtFirst?, h]
      · simp [splitAtFirst?, h, ih, Ne.symm h]

theorem eq_append_of_splitAtFirst? {d : Char} {cs before after : List Char}
    (h : splitAtFirst? d cs = some (before, after)) :
    cs = before ++ d :: after ∧ d ∉ before := by
  induction cs generalizing before with
  | nil => simp [splitAtFirst?] at h
  | cons c cs ih =>
      by_cases hc : c = d
      · simp [splitAtFirst?, hc] at h
        obtain ⟨rfl, rfl⟩ := h
        simp [hc]
      · simp only [splitAtFirst?, if_neg hc, Option.map_eq_some_iff] at h
        obtain ⟨⟨b, a⟩, hb, heq⟩ := h
        simp only [Prod.mk.injEq] at heq
        obtain ⟨rfl, rfl⟩ := heq
        obtain ⟨rfl, hnot⟩ := ih hb
        exact ⟨rfl, by simp [Ne.symm hc, hnot]⟩

theorem splitAtFirst?_append {d : Char} {before : List Char} (after : List Char)
    (h : d ∉ before) :
    splitAtFirst? d (before ++ d :: after) = some (before, after) := by
  induction before with
  | nil => simp [splitAtFirst?]
  | cons c cs ih =>
      rw [List.mem_cons, not_or] at h
      rw [List.cons_append, splitAtFirst?, if_neg (Ne.symm h.1), ih h.2]
      rfl

end MarkedSheet.Text
