import MarkedSheet.Marker.Lexer
import MarkedSheet.Proofs.Marker.Tokens
import MarkedSheet.Proofs.Text.Runs
import MarkedSheet.Proofs.Text.Slices

/-!
# The tokens tile the text

A lexer that drops its errors never has one to drop.  Its tokens are brackets and runs of text in
between, and their spans cut the whole text into pieces without a gap.  A text is tiled in this way
by its tokens and by no others.
-/

namespace MarkedSheet

/-- Tokens that cut a text into brackets and runs of other characters.  Every token is what stands
at its span, and the spans follow one another from the beginning of the text to its end. -/
structure Tiles (cs : List Char) (tokens : List (Token × Span)) : Prop where
  begins : ∀ x ∈ tokens.head?, x.2.start = 0
  consecutive : tokens.IsChain fun x y => y.2.start = x.2.stop
  ends : ∀ x ∈ tokens.getLast?, x.2.stop = Text.width cs
  eq_nil_iff : tokens = [] ↔ cs = []
  nonempty : ∀ x ∈ tokens, x.2.start < x.2.stop
  aligned : ∀ x ∈ tokens, Text.IsBoundary x.2.start cs ∧ Text.IsBoundary x.2.stop cs
  sliced : ∀ x ∈ tokens, Text.slice? x.2.start x.2.stop cs = some x.1.chars
  bracketless : ∀ run span, (Token.text run, span) ∈ tokens → Text.Bracketless run
  maximal : tokens.IsChain fun x y => Token.NotBothText x.1 y.1

namespace Token

theorem exists_of_mem_locate {start : Nat} {ts : List Token} {x : Token × Span}
    (h : x ∈ locate start ts) : ∃ before after, ts = before ++ x.1 :: after ∧
      x.2 = ⟨start + Text.width (before.flatMap chars),
        start + Text.width (before.flatMap chars) + Text.width x.1.chars⟩ := by
  induction ts generalizing start with
  | nil => cases h
  | cons t ts ih =>
      rw [locate] at h
      rcases List.mem_cons.1 h with rfl | h
      · exact ⟨[], ts, rfl, rfl⟩
      · obtain ⟨before, after, rfl, hspan⟩ := ih h
        refine ⟨t :: before, after, rfl, ?_⟩
        rw [hspan, List.flatMap_cons, Text.width_append, Nat.add_assoc start]

theorem start_of_head?_locate {start : Nat} {ts : List Token} {x : Token × Span}
    (h : x ∈ (locate start ts).head?) : x.2.start = start := by
  cases ts with
  | nil => cases h
  | cons t ts =>
      obtain rfl := Option.some.inj h
      rfl

theorem stop_of_getLast?_locate {start : Nat} {ts : List Token} {x : Token × Span}
    (h : x ∈ (locate start ts).getLast?) :
    x.2.stop = start + Text.width (ts.flatMap chars) := by
  rcases List.eq_nil_or_concat ts with rfl | ⟨front, t, rfl⟩
  · cases h
  · rw [List.concat_eq_append, locate_append, locate, locate, List.getLast?_concat] at h
    obtain rfl := Option.some.inj h
    simp [Nat.add_assoc]

theorem isChain_locate (start : Nat) (ts : List Token) :
    (locate start ts).IsChain fun x y => y.2.start = x.2.stop := by
  induction ts generalizing start with
  | nil => exact List.IsChain.nil
  | cons t ts ih => exact List.isChain_cons.2 ⟨fun y hy => start_of_head?_locate hy, ih _⟩

theorem of_text_mem_consText {c : Char} {tokens : List Token} {run : List Char}
    (h : text run ∈ consText c tokens) :
    text run ∈ tokens ∨ ∃ ds, run = c :: ds ∧ (ds = [] ∨ text ds ∈ tokens) := by
  unfold consText at h
  split at h
  · next ds rest =>
      rcases List.mem_cons.1 h with h | h
      · exact Or.inr ⟨ds, Token.text.inj h, Or.inr List.mem_cons_self⟩
      · exact Or.inl (List.mem_cons_of_mem _ h)
  · rcases List.mem_cons.1 h with h | h
    · exact Or.inr ⟨[], Token.text.inj h, Or.inl rfl⟩
    · exact Or.inl h

theorem of_text_mem_scan {cs run : List Char} (h : text run ∈ scan cs) :
    run ≠ [] ∧ Text.Bracketless run := by
  induction cs generalizing run with
  | nil => cases h
  | cons c cs ih =>
      rw [scan] at h
      split at h
      · exact ih (by simpa using h)
      · next hopen =>
          split at h
          · exact ih (by simpa using h)
          · next hclose =>
              rcases of_text_mem_consText h with h | ⟨ds, rfl, hds⟩
              · exact ih h
              · have hrest : Text.Bracketless ds := by
                  rcases hds with rfl | hds
                  · exact ⟨List.not_mem_nil, List.not_mem_nil⟩
                  · exact (ih hds).2
                refine ⟨List.cons_ne_nil c ds, ?_, ?_⟩
                · rw [List.mem_cons, not_or]
                  exact ⟨Ne.symm hopen, hrest.1⟩
                · rw [List.mem_cons, not_or]
                  exact ⟨Ne.symm hclose, hrest.2⟩

/-- Tokens are read back from their characters when runs of text are as long as possible. -/
theorem scan_flatMap_chars {ts : List Token} (hchain : ts.IsChain NotBothText)
    (hruns : ∀ run, text run ∈ ts → run ≠ [] ∧ Text.Bracketless run) :
    scan (ts.flatMap chars) = ts := by
  induction ts with
  | nil => rfl
  | cons t ts ih =>
      rw [List.isChain_cons] at hchain
      have hrest := ih hchain.2 fun run hrun => hruns run (List.mem_cons_of_mem t hrun)
      rw [List.flatMap_cons]
      cases t with
      | opening => exact congrArg (opening :: ·) hrest
      | closing => exact congrArg (closing :: ·) hrest
      | text run =>
          obtain ⟨hne, hrun⟩ := hruns run List.mem_cons_self
          cases ts with
          | nil => simpa [chars] using scan_bracketless hne hrun
          | cons u us =>
              have hu : u.isText = false := by
                simpa [NotBothText, isText] using hchain.1 u rfl
              rw [chars, scan_append run hrest hu, hrest, scan_bracketless hne hrun]
              rfl

end Token

namespace Lexer

theorem isBracket_iff {c : Char} : isBracket c = true ↔ c = '[' ∨ c = ']' := by
  simp [isBracket]

theorem bracketless_of_forall {cs : List Char} (h : ∀ c ∈ cs, isBracket c = false) :
    Text.Bracketless cs := by
  constructor
  · exact fun hmem => absurd (h _ hmem) (by decide)
  · exact fun hmem => absurd (h _ hmem) (by decide)

/-- A run of text is taken to its end, and a token begins with the bracket behind it. -/
theorem scan_run {run rest : List Char} (hne : run ≠ []) (hrun : ∀ c ∈ run, isBracket c = false)
    (hrest : ∀ c ∈ rest.head?, isBracket c = true) :
    Token.scan (run ++ rest) = .text run :: Token.scan rest := by
  have hscan := Token.scan_bracketless hne (bracketless_of_forall hrun)
  cases rest with
  | nil => rw [List.append_nil, hscan, Token.scan]
  | cons c rest =>
      rcases isBracket_iff.1 (hrest c rfl) with rfl | rfl
      · rw [Token.scan_append_opening, hscan]
        rfl
      · rw [Token.scan_append_closing, hscan]
        rfl

/-- Every text begins with a run, which may be empty, up to a bracket or to its end. -/
theorem exists_run (cs : List Char) : ∃ run behind, cs = run ++ behind ∧
    (∀ c ∈ run, isBracket c = false) ∧ ∀ c ∈ behind.head?, isBracket c = true := by
  induction cs with
  | nil => exact ⟨[], [], rfl, by simp, by simp⟩
  | cons c cs ih =>
      by_cases hc : isBracket c = true
      · exact ⟨[], c :: cs, rfl, by simp, by simpa using hc⟩
      · rw [Bool.not_eq_true] at hc
        obtain ⟨run, behind, rfl, hrun, hbehind⟩ := ih
        exact ⟨c :: run, behind, rfl, List.forall_mem_cons.2 ⟨hc, hrun⟩, hbehind⟩

theorem first?_run {run behind : List Char} (hne : run ≠ [])
    (hrun : ∀ c ∈ run, isBracket c = false) (hbehind : ∀ c ∈ behind.head?, isBracket c = true) :
    first? (run ++ behind) = some (.text run) := by
  have htake : (run ++ behind).takeWhile (fun c => !isBracket c) = run :=
    Text.takeWhile_run (by simpa using hrun) (by simpa using hbehind)
  cases run with
  | nil => exact absurd rfl hne
  | cons c run =>
      obtain ⟨hopen, hclose⟩ := bracketless_of_forall hrun
      rw [List.mem_cons, not_or, eq_comm] at hopen hclose
      rw [first?, run?, htake]
      simp [single?, hopen.1, hclose.1]

/-- A token begins with every character, so that there are no errors. -/
theorem spanned_eq (start : Nat) (cs : List Char) :
    spanned start cs = (Token.locate start (Token.scan cs)).map fun x => (some x.1, x.2) := by
  -- A run takes up several characters, so the induction is on the length of the text.
  induction hn : cs.length using Nat.strongRecOn generalizing start cs with
  | ind n ih =>
      subst hn
      obtain ⟨run, behind, rfl, hrun, hbehind⟩ := exists_run cs
      cases run with
      | nil =>
          cases behind with
          | nil => simp [spanned, Token.scan, Token.locate]
          | cons c rest =>
              have hrest := ih rest.length (by simp) (start + 1) rest rfl
              rw [List.nil_append, spanned]
              rcases isBracket_iff.1 (hbehind c rfl) with rfl | rfl
              · exact congrArg ((some Token.opening, ⟨start, start + 1⟩) :: ·) hrest
              · exact congrArg ((some Token.closing, ⟨start, start + 1⟩) :: ·) hrest
      | cons c run =>
          have hne := List.cons_ne_nil c run
          have hlt : behind.length < ((c :: run) ++ behind).length := by
            rw [List.length_append, List.length_cons]
            omega
          have hrest := ih behind.length hlt (start + Text.width (c :: run)) behind rfl
          have hfirst := first?_run hne hrun hbehind
          rw [scan_run hne hrun hbehind, Token.locate, List.map_cons]
          rw [List.cons_append] at hfirst ⊢
          rw [spanned, hfirst]
          simpa [Token.chars] using hrest

theorem lex_eq (cs : List Char) : lex cs = Token.locate 0 (Token.scan cs) := by
  rw [lex, spanned_eq, List.filterMap_map]
  exact List.filterMap_some

end Lexer

namespace Token

theorem chars_ne_nil {cs : List Char} {t : Token} (h : t ∈ scan cs) : t.chars ≠ [] := by
  cases t with
  | opening => exact List.cons_ne_nil _ _
  | closing => exact List.cons_ne_nil _ _
  | text run => exact (of_text_mem_scan h).1

/-- Tokens with spans that follow one another, and at which the tokens stand in a text, are located
in this text and make it up. -/
theorem eq_locate_of_sliced (front rest : List Char) {tokens : List (Token × Span)}
    (hbegins : ∀ x ∈ tokens.head?, x.2.start = Text.width front)
    (hconsecutive : tokens.IsChain fun x y => y.2.start = x.2.stop)
    (hends : ∀ x ∈ tokens.getLast?, x.2.stop = Text.width (front ++ rest))
    (hnil : tokens = [] → rest = [])
    (hsliced : ∀ x ∈ tokens, Text.slice? x.2.start x.2.stop (front ++ rest) = some x.1.chars) :
    tokens = locate (Text.width front) (tokens.map Prod.fst) ∧
      (tokens.map Prod.fst).flatMap chars = rest := by
  induction tokens generalizing front rest with
  | nil => exact ⟨rfl, (hnil rfl).symm⟩
  | cons x tokens ih =>
      obtain ⟨t, start, stop⟩ := x
      obtain rfl : start = Text.width front := hbegins _ rfl
      obtain ⟨before, after, hcs, hstart, hstop⟩ :=
        Text.slice?_eq_some_iff.1 (hsliced _ List.mem_cons_self)
      obtain rfl : front = before := Text.eq_of_width_eq hcs hstart
      obtain rfl : rest = t.chars ++ after := List.append_cancel_left hcs
      obtain rfl : stop = Text.width front + Text.width t.chars := hstop
      rw [List.isChain_cons] at hconsecutive
      have hafter : tokens = [] → after = [] := by
        rintro rfl
        by_contra hne
        have hend : Text.width front + Text.width t.chars = _ := hends _ rfl
        have hpos := Text.width_pos hne
        simp only [Text.width_append] at hend
        omega
      have hrest := ih (front ++ t.chars) after
        (fun y hy => by rw [hconsecutive.1 y hy, Text.width_append]) hconsecutive.2
        (fun y hy => by
          rw [List.append_assoc]
          exact hends y (List.mem_getLast?_cons hy))
        hafter
        (fun y hy => by
          rw [List.append_assoc]
          exact hsliced y (List.mem_cons_of_mem _ hy))
      rw [Text.width_append] at hrest
      refine ⟨?_, ?_⟩
      · rw [List.map_cons, locate]
        exact congrArg _ hrest.1
      · rw [List.map_cons, List.flatMap_cons, hrest.2]

end Token

section Tiling

variable {cs : List Char} {tokens : List (Token × Span)}

theorem tiles_locate_scan (cs : List Char) : Tiles cs (Token.locate 0 (Token.scan cs)) := by
  have hcs : (Token.scan cs).flatMap Token.chars = cs := Token.flatMap_chars_scan cs
  have hmem : ∀ x ∈ Token.locate 0 (Token.scan cs), x.1 ∈ Token.scan cs := by
    intro x hx
    have hfst := List.mem_map_of_mem (f := Prod.fst) hx
    rwa [Token.map_fst_locate] at hfst
  have hpieces : ∀ x ∈ Token.locate 0 (Token.scan cs), ∃ before after,
      cs = before ++ (x.1.chars ++ after) ∧ x.2.start = Text.width before ∧
        x.2.stop = Text.width before + Text.width x.1.chars := by
    intro x hx
    obtain ⟨before, after, hscan, hspan⟩ := Token.exists_of_mem_locate hx
    rw [hscan, List.flatMap_append, List.flatMap_cons] at hcs
    exact ⟨_, _, hcs.symm, by rw [hspan, Nat.zero_add], by rw [hspan, Nat.zero_add]⟩
  constructor
  case begins => exact fun x hx => Token.start_of_head?_locate hx
  case consecutive => exact Token.isChain_locate 0 _
  case ends =>
    intro x hx
    rw [Token.stop_of_getLast?_locate hx, hcs, Nat.zero_add]
  case eq_nil_iff =>
    constructor
    · intro hnil
      have hscan := Token.map_fst_locate 0 (Token.scan cs)
      rw [hnil, List.map_nil] at hscan
      rw [← hcs, ← hscan, List.flatMap_nil]
    · rintro rfl
      rfl
  case nonempty =>
    intro x hx
    obtain ⟨before, after, -, hstart, hstop⟩ := hpieces x hx
    have hpos := Text.width_pos (Token.chars_ne_nil (hmem x hx))
    omega
  case aligned =>
    intro x hx
    obtain ⟨before, after, hsplit, hstart, hstop⟩ := hpieces x hx
    refine ⟨⟨before, _, hsplit, hstart⟩, ⟨before ++ x.1.chars, after, ?_, ?_⟩⟩
    · rw [List.append_assoc]
      exact hsplit
    · rw [Text.width_append]
      exact hstop
  case sliced => exact fun x hx => Text.slice?_eq_some_iff.2 (hpieces x hx)
  case bracketless => exact fun run span h => (Token.of_text_mem_scan (hmem _ h)).2
  case maximal =>
    have hchain := Token.isChain_scan cs
    rw [← Token.map_fst_locate 0 (Token.scan cs), List.isChain_map] at hchain
    exact hchain

theorem Tiles.eq_locate_scan (h : Tiles cs tokens) :
    tokens = Token.locate 0 (Token.scan cs) := by
  obtain ⟨hlocate, hchars⟩ := Token.eq_locate_of_sliced [] cs h.begins
    h.consecutive h.ends h.eq_nil_iff.1 h.sliced
  have hchain : (tokens.map Prod.fst).IsChain Token.NotBothText :=
    (List.isChain_map Prod.fst).2 h.maximal
  have hruns : ∀ run, Token.text run ∈ tokens.map Prod.fst →
      run ≠ [] ∧ Text.Bracketless run := by
    intro run hrun
    obtain ⟨⟨t, span⟩, hx, rfl⟩ := List.mem_map.1 hrun
    refine ⟨?_, h.bracketless run span hx⟩
    rintro rfl
    obtain ⟨before, after, -, hstart, hstop⟩ := Text.slice?_eq_some_iff.1 (h.sliced _ hx)
    have hlt := h.nonempty _ hx
    rw [hstart, hstop] at hlt
    exact Nat.lt_irrefl _ hlt
  have hscan := Token.scan_flatMap_chars hchain hruns
  rw [hchars] at hscan
  rw [hscan]
  exact hlocate

/-- The lexer drops nothing from a text, and its tokens are the one tiling of the text. -/
theorem lex_tiles (cs : List Char) :
    (∀ x ∈ Lexer.spanned 0 cs, x.1.isSome) ∧ Tiles cs (Lexer.lex cs) ∧
      ∀ tokens, Tiles cs tokens → tokens = Lexer.lex cs := by
  refine ⟨?_, ?_, ?_⟩
  · intro x hx
    rw [Lexer.spanned_eq] at hx
    obtain ⟨y, -, rfl⟩ := List.mem_map.1 hx
    rfl
  · rw [Lexer.lex_eq]
    exact tiles_locate_scan cs
  · intro tokens h
    rw [Lexer.lex_eq]
    exact h.eq_locate_scan

example : Lexer.lex "é][a".toList =
    [(.text ['é'], ⟨0, 2⟩), (.closing, ⟨2, 3⟩), (.opening, ⟨3, 4⟩), (.text ['a'], ⟨4, 5⟩)] := by
  rw [Lexer.lex_eq]
  rfl

end Tiling

end MarkedSheet
