import MarkedSheet.Proofs.Marker.Brackets
import MarkedSheet.Proofs.Marker.Tokens

/-!
# What the grammar of a cell finds

The grammar consumes the tokens of every text, since runs of text never stand side by side.  At each
step it takes one segment of the cell, so that it finds a marker at every opening bracket whose next
bracket is a closing one, a bracket left open at every other one, and nothing else.
-/

namespace MarkedSheet

namespace Rule

variable {α : Type} {p : Rule α} {ts : Tokens}

theorem repeated_of_none (h : p ts = none) : p.repeated ts = ([], ts) := by
  rw [repeated, h]

theorem repeated_of_some {a : α} {rest : Tokens} (h : p ts = some (a, rest))
    (hlt : rest.length < ts.length) :
    p.repeated ts = (a :: (p.repeated rest).1, (p.repeated rest).2) := by
  rw [repeated, h]
  exact if_pos hlt

theorem optional_of_none (h : p ts = none) : p.optional ts = some (none, ts) := by
  rw [optional, h]

end Rule

namespace CellGrammar

/-- No token of the tokens, or an opening bracket first. -/
def AtSegment (ts : Tokens) : Prop :=
  ∀ x ∈ ts.head?, x.1 = .opening

theorem loose_of_atSegment {ts : Tokens} (h : AtSegment ts) : loose ts = none := by
  cases ts with
  | nil => rfl
  | cons x rest =>
      obtain ⟨t, span⟩ := x
      obtain rfl : t = .opening := h _ rfl
      rfl

theorem loose_cons {t : Token} (span : Span) (rest : Tokens) (h : t ≠ .opening) :
    loose ((t, span) :: rest) = some (span, rest) := by
  cases t with
  | opening => exact absurd rfl h
  | closing => rfl
  | text cs => rfl

theorem ne_opening_of_mem_scan {cs : List Char} {start : Nat} (h : '[' ∉ cs) :
    ∀ x ∈ Token.locate start (Token.scan cs), x.1 ≠ .opening := by
  intro x hx hxopen
  have hmem := List.mem_map_of_mem (f := Prod.fst) hx
  rw [Token.map_fst_locate, hxopen] at hmem
  exact Token.opening_not_mem_scan h hmem

/-- Everything up to the next opening bracket is loose. -/
theorem repeated_loose {front rest : Tokens} (h : ∀ x ∈ front, x.1 ≠ .opening)
    (hrest : AtSegment rest) : (Rule.repeated loose (front ++ rest)).2 = rest := by
  induction front with
  | nil => exact congrArg Prod.snd (Rule.repeated_of_none (loose_of_atSegment hrest))
  | cons x front ih =>
      rw [List.forall_mem_cons] at h
      rw [List.cons_append, Rule.repeated_of_some (loose_cons x.2 _ h.1) (by simp)]
      exact ih h.2

theorem exists_repeated_loose (ts : Tokens) :
    ∃ front, ts = front ++ (Rule.repeated loose ts).2 ∧ AtSegment (Rule.repeated loose ts).2 := by
  induction ts with
  | nil =>
      rw [Rule.repeated_of_none rfl]
      exact ⟨[], rfl, by simp [AtSegment]⟩
  | cons x rest ih =>
      by_cases hx : x.1 = .opening
      · have hat : AtSegment (x :: rest) := by simpa [AtSegment] using hx
        rw [Rule.repeated_of_none (loose_of_atSegment hat)]
        exact ⟨[], rfl, hat⟩
      · rw [Rule.repeated_of_some (loose_cons x.2 rest hx) (by simp)]
        obtain ⟨front, hfront, hat⟩ := ih
        exact ⟨x :: front, congrArg (x :: ·) hfront, hat⟩

/-- An opening bracket takes the text behind it, when there is some. -/
theorem exists_opening {content : List Char} (o : Span) (rest : Tokens)
    (hcontent : Text.Bracketless content) (hrest : ∀ x ∈ rest.head?, x.1.isText = false) :
    ∃ t?, opening ((.opening, o) :: (Token.locate o.stop (Token.scan content) ++ rest)) =
        some ((o, t?), rest) ∧
      (t?.getD o).stop = o.stop + Text.width content := by
  by_cases hne : content = []
  · subst hne
    have htoken : Rule.token Token.isText rest = none := by
      cases rest with
      | nil => rfl
      | cons x rest => exact if_neg (by simp [hrest x rfl])
    refine ⟨none, ?_, rfl⟩
    show (Rule.optional _ rest).map _ = _
    rw [Rule.optional_of_none htoken]
    rfl
  · rw [Token.scan_bracketless hne hcontent]
    exact ⟨some ⟨o.stop, o.stop + Text.width content⟩, rfl, rfl⟩

theorem segment_of_closing {ts rest : Tokens} {o c : Span} {t? : Option Span}
    (h : opening ts = some ((o, t?), (.closing, c) :: rest)) :
    segment ts = some (.marker ⟨o, c⟩, (Rule.repeated loose rest).2) := by
  simp only [segment, Rule.orElse, marker, Rule.map, Rule.andThen, h]
  rfl

theorem segment_of_not_closing {ts rest : Tokens} {o : Span} {t? : Option Span}
    (h : opening ts = some ((o, t?), rest)) (hrest : ∀ x ∈ rest.head?, x.1 ≠ .closing) :
    segment ts = some (.broken ⟨o.start, (t?.getD o).stop⟩, rest) := by
  have hclose : Rule.token (· = .closing) rest = none := by
    cases rest with
    | nil => rfl
    | cons x rest => exact if_neg (by simpa using hrest x rfl)
  simp only [segment, Rule.orElse, marker, broken, Rule.map, Rule.andThen, h, Option.bind_some,
    hclose]
  rfl

end CellGrammar

namespace Segment

theorem scan_append_chars (cs : List Char) (segments : List Segment) :
    Token.scan (cs ++ segments.flatMap chars) =
      Token.scan cs ++ Token.scan (segments.flatMap chars) := by
  cases segments with
  | nil => simp [Token.scan]
  | cons s rest =>
      cases s with
      | closed content tail => exact Token.scan_append_opening _ _
      | unclosed content => exact Token.scan_append_opening _ _

end Segment

namespace CellGrammar

theorem atSegment_chars (start : Nat) (segments : List Segment) :
    AtSegment (Token.locate start (Token.scan (segments.flatMap Segment.chars))) := by
  cases segments with
  | nil => simp [AtSegment, Token.scan, Token.locate]
  | cons s rest =>
      cases s with
      | closed content tail => simp [AtSegment, Segment.chars, Token.scan, Token.locate]
      | unclosed content => simp [AtSegment, Segment.chars, Token.scan, Token.locate]

/-- One step of the grammar takes one segment of the cell. -/
theorem segment_chars {s : Segment} (h : s.Proper) (start : Nat) {rest : Tokens}
    (hrest : AtSegment rest) :
    segment (Token.locate start (Token.scan s.chars) ++ rest) = some (s.finding start, rest) := by
  cases s with
  | closed content tail =>
      obtain ⟨hcontent, hnoclose, htail⟩ := h
      have htokens : Token.locate start (Token.scan (Segment.closed content tail).chars) ++ rest =
          (.opening, ⟨start, start + 1⟩) ::
            (Token.locate (start + 1) (Token.scan content) ++
              (.closing, ⟨start + 1 + Text.width content, start + 1 + Text.width content + 1⟩) ::
                (Token.locate (start + 1 + Text.width content + 1) (Token.scan tail) ++ rest)) := by
        have hscan : Token.scan (Segment.closed content tail).chars =
            .opening :: (Token.scan content ++ .closing :: Token.scan tail) :=
          congrArg (Token.opening :: ·) (Token.scan_append_closing content tail)
        rw [hscan, Token.locate, Token.locate_scan_append, Token.locate]
        simp [Token.chars]
      obtain ⟨t?, hopening, -⟩ := exists_opening ⟨start, start + 1⟩
        ((.closing, _) :: (_ ++ rest)) ⟨hcontent, hnoclose⟩ (by simp [Token.isText])
      rw [htokens, segment_of_closing hopening,
        repeated_loose (ne_opening_of_mem_scan htail) hrest]
      rfl
  | unclosed content =>
      have htokens : Token.locate start (Token.scan (Segment.unclosed content).chars) ++ rest =
          (.opening, ⟨start, start + 1⟩) ::
            (Token.locate (start + 1) (Token.scan content) ++ rest) := by
        simp [Segment.chars, Token.scan, Token.locate, Token.chars]
      obtain ⟨t?, hopening, hstop⟩ := exists_opening ⟨start, start + 1⟩ rest h
        fun x hx => by rw [hrest x hx]; rfl
      rw [htokens, segment_of_not_closing hopening fun x hx => by simp [hrest x hx], hstop]
      rfl

/-- The grammar takes segment after segment and leaves nothing. -/
theorem repeated_segment (start : Nat) {segments : List Segment} (h : ∀ s ∈ segments, s.Proper) :
    Rule.repeated segment (Token.locate start (Token.scan (segments.flatMap Segment.chars))) =
      ((Segment.locate start segments).map fun p => p.2.finding p.1, []) := by
  induction segments generalizing start with
  | nil => exact Rule.repeated_of_none rfl
  | cons s rest ih =>
      rw [List.forall_mem_cons] at h
      have hstep := segment_chars h.1 start (atSegment_chars (start + Text.width s.chars) rest)
      have hne : Token.locate start (Token.scan s.chars) ≠ [] := by
        cases s <;> simp [Segment.chars, Token.scan, Token.locate]
      rw [List.flatMap_cons, Segment.scan_append_chars, Token.locate_scan_append,
        Rule.repeated_of_some hstep (by simpa using List.length_pos_of_ne_nil hne), ih _ h.2]
      rfl

theorem cell?_scan (cs : List Char) :
    cell? (Token.locate 0 (Token.scan cs)) =
      some ((CellText.read cs).located.map fun p => p.2.finding p.1) := by
  obtain ⟨hlead, hsegments⟩ := CellText.read_proper cs
  have htokens : Token.locate 0 (Token.scan cs) =
      Token.locate 0 (Token.scan (CellText.read cs).lead) ++
        Token.locate (Text.width (CellText.read cs).lead)
          (Token.scan ((CellText.read cs).segments.flatMap Segment.chars)) := by
    rw [← Nat.zero_add (Text.width _), ← Token.locate_scan_append, ← Segment.scan_append_chars]
    exact congrArg (fun ds => Token.locate 0 (Token.scan ds)) (CellText.chars_read cs).symm
  rw [cell?, htokens, repeated_loose (ne_opening_of_mem_scan hlead) (atSegment_chars _ _),
    repeated_segment _ hsegments]
  rfl

/-- The tokens of a lexer: runs of text never stand side by side. -/
def Lexed (ts : Tokens) : Prop :=
  (ts.map Prod.fst).IsChain Token.NotBothText

theorem Lexed.behind (front : Tokens) {ts : Tokens} (h : Lexed (front ++ ts)) : Lexed ts := by
  rw [Lexed, List.map_append] at h
  exact h.right_of_append

theorem lexed_scan (cs : List Char) : Lexed (Token.locate 0 (Token.scan cs)) := by
  rw [Lexed, Token.map_fst_locate]
  exact Token.isChain_scan cs

/-- An opening bracket is always taken, with the text behind it. -/
theorem exists_opening_of_lexed {o : Span} {ts : Tokens} (h : Lexed ((.opening, o) :: ts)) :
    ∃ t? rest front, opening ((.opening, o) :: ts) = some ((o, t?), rest) ∧ ts = front ++ rest ∧
      ∀ x ∈ rest.head?, x.1.isText = false := by
  cases ts with
  | nil => exact ⟨none, [], [], rfl, rfl, by simp⟩
  | cons x rest =>
      obtain ⟨t, span⟩ := x
      cases t with
      | opening => exact ⟨none, _, [], rfl, rfl, by simp [Token.isText]⟩
      | closing => exact ⟨none, _, [], rfl, rfl, by simp [Token.isText]⟩
      | text cs =>
          refine ⟨some span, rest, [(.text cs, span)], rfl, rfl, fun y hy => ?_⟩
          have hchain := (List.isChain_cons.1 (List.isChain_cons.1 h).2).1
          have hnot := hchain y.1 (by simp [Option.mem_def.1 hy])
          simpa [Token.NotBothText, Token.isText] using hnot

/-- One step of the grammar takes tokens up to the next opening bracket. -/
theorem exists_segment {o : Span} {ts : Tokens} (h : Lexed ((.opening, o) :: ts)) :
    ∃ found front rest, segment ((.opening, o) :: ts) = some (found, rest) ∧ ts = front ++ rest ∧
      AtSegment rest := by
  obtain ⟨t?, rest, front, hopening, rfl, hrest⟩ := exists_opening_of_lexed h
  cases rest with
  | nil =>
      exact ⟨_, front, [], segment_of_not_closing hopening (by simp), rfl, by simp [AtSegment]⟩
  | cons x rest =>
      obtain ⟨t, span⟩ := x
      cases t with
      | opening =>
          refine ⟨_, front, _, segment_of_not_closing hopening (by simp), rfl, ?_⟩
          simp [AtSegment]
      | closing =>
          obtain ⟨loosened, hsplit, hat⟩ := exists_repeated_loose rest
          refine ⟨_, front ++ (.closing, span) :: loosened, _, segment_of_closing hopening, ?_, hat⟩
          rw [List.append_assoc, List.cons_append, ← hsplit]
      | text cs => exact absurd (hrest _ rfl) (by simp [Token.isText])

theorem repeated_segment_of_lexed {ts : Tokens} (h : Lexed ts) (hat : AtSegment ts) :
    (Rule.repeated segment ts).2 = [] := by
  -- Each step leaves fewer tokens, and they begin with an opening bracket again.
  induction hn : ts.length using Nat.strongRecOn generalizing ts with
  | ind n ih =>
      cases ts with
      | nil => exact congrArg Prod.snd (Rule.repeated_of_none rfl)
      | cons x ts =>
          obtain ⟨t, o⟩ := x
          obtain rfl : t = .opening := hat _ rfl
          obtain ⟨found, front, rest, hstep, rfl, hrest⟩ := exists_segment h
          have hlt : rest.length < ((Token.opening, o) :: (front ++ rest)).length := by
            simp only [List.length_cons, List.length_append]
            omega
          rw [Rule.repeated_of_some hstep hlt]
          exact ih rest.length (hn ▸ hlt) (Lexed.behind ((.opening, o) :: front) h) hrest
            rfl

/-- The grammar consumes the tokens of a lexer. -/
theorem isSome_cell?_of_lexed {ts : Tokens} (h : Lexed ts) : (cell? ts).isSome := by
  obtain ⟨front, hsplit, hat⟩ := exists_repeated_loose ts
  rw [hsplit] at h
  rw [cell?, repeated_segment_of_lexed (h.behind _) hat]
  rfl

end CellGrammar

/-- What is to be found in a text: all brackets that come to a marker and the spans of all brackets
that stay open, in the order of the text, and nothing else. -/
structure BracketReport.Describes (r : BracketReport) (cs : List Char) : Prop where
  mem_brackets_iff : ∀ b, b ∈ r.brackets ↔
    ∃ before content after, OpensAt cs before content (']' :: after) ∧
      b.opening = ⟨Text.width before, Text.width before + 1⟩ ∧
        b.closing = ⟨Text.width (before ++ '[' :: content),
          Text.width (before ++ '[' :: content) + 1⟩
  mem_unclosed_iff : ∀ span, span ∈ r.unclosed ↔
    ∃ before content after, OpensAt cs before content after ∧ after.head? ≠ some ']' ∧
      span = ⟨Text.width before, Text.width (before ++ '[' :: content)⟩
  brackets_ascending : r.brackets.Pairwise fun a b => a.opening.start < b.opening.start
  unclosed_ascending : r.unclosed.Pairwise fun a b => a.start < b.start

namespace CellText

variable {cs : List Char}

theorem brackets_eq_filterMap (t : CellText) :
    t.brackets = (t.located.map fun p => p.2.finding p.1).filterMap Finding.brackets? := by
  rw [List.filterMap_map]
  exact List.filterMap_congr fun p _ => (p.2.brackets?_finding p.1).symm

theorem unclosed_eq_filterMap (t : CellText) :
    t.unclosed = (t.located.map fun p => p.2.finding p.1).filterMap Finding.unclosedSpan? := by
  rw [List.filterMap_map]
  exact List.filterMap_congr fun p _ => (p.2.unclosedSpan?_finding p.1).symm

theorem pairwise_start_located (cs : List Char) :
    (read cs).located.Pairwise fun p q => p.1 < q.1 := by
  have hpositions := Text.positions_pairwise_lt '[' 0 cs
  rw [positions_eq_located, List.pairwise_map] at hpositions
  exact hpositions

theorem mem_brackets_iff {b : Brackets} : b ∈ (read cs).brackets ↔
    ∃ before content after, OpensAt cs before content (']' :: after) ∧
      b.opening = ⟨Text.width before, Text.width before + 1⟩ ∧
        b.closing = ⟨Text.width (before ++ '[' :: content),
          Text.width (before ++ '[' :: content) + 1⟩ := by
  rw [brackets_eq_filterMap, List.mem_filterMap]
  constructor
  · rintro ⟨f, hf, hb⟩
    obtain ⟨before, content, after, hopens, rfl⟩ := mem_map_finding_iff.1 hf
    rw [OpensAt.finding] at hb
    split at hb
    · next hclose =>
        obtain ⟨rest, rfl⟩ := List.head?_eq_some_iff.1 hclose
        obtain rfl := Option.some.inj hb
        exact ⟨before, content, rest, hopens, rfl, rfl⟩
    · cases hb
  · rintro ⟨before, content, after, hopens, hopening, hclosing⟩
    refine ⟨_, mem_map_finding_iff.2 ⟨before, content, _, hopens, rfl⟩, ?_⟩
    obtain ⟨opening, closing⟩ := b
    obtain rfl : opening = _ := hopening
    obtain rfl : closing = _ := hclosing
    rfl

theorem mem_unclosed_iff {span : Span} : span ∈ (read cs).unclosed ↔
    ∃ before content after, OpensAt cs before content after ∧ after.head? ≠ some ']' ∧
      span = ⟨Text.width before, Text.width (before ++ '[' :: content)⟩ := by
  rw [unclosed_eq_filterMap, List.mem_filterMap]
  constructor
  · rintro ⟨f, hf, hspan⟩
    obtain ⟨before, content, after, hopens, rfl⟩ := mem_map_finding_iff.1 hf
    rw [OpensAt.finding] at hspan
    split at hspan
    · cases hspan
    · next hclose => exact ⟨before, content, after, hopens, hclose, (Option.some.inj hspan).symm⟩
  · rintro ⟨before, content, after, hopens, hclose, rfl⟩
    refine ⟨_, mem_map_finding_iff.2 ⟨before, content, after, hopens, rfl⟩, ?_⟩
    rw [OpensAt.finding, if_neg hclose]
    rfl

theorem pairwise_brackets (cs : List Char) :
    (read cs).brackets.Pairwise fun a b => a.opening.start < b.opening.start := by
  refine List.pairwise_filterMap.2 ((pairwise_start_located cs).imp ?_)
  intro p q hlt b hb c hc
  rw [Segment.start_of_brackets? hb, Segment.start_of_brackets? hc]
  exact hlt

theorem pairwise_unclosed (cs : List Char) :
    (read cs).unclosed.Pairwise fun a b => a.start < b.start := by
  refine List.pairwise_filterMap.2 ((pairwise_start_located cs).imp ?_)
  intro p q hlt a ha b hb
  rw [Segment.start_of_unclosedSpan? ha, Segment.start_of_unclosedSpan? hb]
  exact hlt

end CellText

/-- The grammar consumes all tokens that a lexer can give, and from every text it reports what the
brackets come to. -/
theorem CellGrammar.report?_describes :
    (∀ ts, Lexed ts → (cell? ts).isSome = true) ∧
      ∀ cs, Lexed (Token.locate 0 (Token.scan cs)) ∧
        report? cs = some ⟨(CellText.read cs).brackets, (CellText.read cs).unclosed⟩ ∧
          (BracketReport.mk (CellText.read cs).brackets (CellText.read cs).unclosed).Describes
            cs := by
  refine ⟨fun ts => isSome_cell?_of_lexed, fun cs => ⟨lexed_scan cs, ?_, ?_⟩⟩
  · rw [report?, cell?_scan, CellText.brackets_eq_filterMap, CellText.unclosed_eq_filterMap]
    rfl
  · exact ⟨fun b => CellText.mem_brackets_iff, fun span => CellText.mem_unclosed_iff,
      CellText.pairwise_brackets cs, CellText.pairwise_unclosed cs⟩

/-- A cell with a stray closing bracket, a bracket left open and a marker without a name. -/
theorem CellGrammar.strayBrackets_described :
    Lexed (Token.locate 0 (Token.scan "][é[]b".toList)) ∧
      (cell? (Token.locate 0 (Token.scan "][é[]b".toList))).isSome = true ∧
        report? "][é[]b".toList = some ⟨[⟨⟨4, 5⟩, ⟨5, 6⟩⟩], [⟨1, 4⟩]⟩ := by
  obtain ⟨hconsumed, htexts⟩ := report?_describes
  obtain ⟨hlexed, hreport, -⟩ := htexts "][é[]b".toList
  refine ⟨hlexed, hconsumed _ hlexed, ?_⟩
  rw [hreport]
  decide

end MarkedSheet
