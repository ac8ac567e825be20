import MarkedSheet.Proofs.Toml.Values

/-!
# The statements of a written table

A written table is read as its assignments, followed by each of its tables and lists under their
headers.  What is read from one part does not depend on the text after it, so that texts one after
the other are read as their statements one after the other.
-/

namespace MarkedSheet.Toml

/-- A name that is written without quotes. -/
def IsBare (name : String) : Prop :=
  name.toList ≠ [] ∧ name.toList.all isBareKeyChar = true

instance (name : String) : Decidable (IsBare name) :=
  inferInstanceAs (Decidable (_ ∧ _))

/-- An item that is written under headers, with tables that have a property. -/
inductive Item.Headed (P : Table → Prop) : Item → Prop
  | table {entries : Table} (h : P entries) : Headed P (.table entries)
  | rows {first : Table} {rest : List Table} (h : ∀ t ∈ first :: rest, P t) :
      Headed P (.rows (first :: rest))

/-- A table whose plain values come before the items that are written under headers. -/
structure Ordered (P : Table → Prop) (t : Table) : Prop where
  names : (t.map (·.1)).Nodup
  bare : ∀ e ∈ t, IsBare e.1
  parts : ∃ plain headed, t = plain ++ headed ∧
    (∀ e ∈ plain, e.2.Plain) ∧ ∀ e ∈ headed, e.2.Headed P

/-- A table that is written in the order in which it is read back, with tables in it at most
`depth` levels deep. -/
def Printable : Nat → Table → Prop
  | 0 => Ordered fun _ => False
  | depth + 1 => Ordered (Printable depth)

theorem bare_of_names {t : Table} (h : ∀ k ∈ t.map (·.1), IsBare k) : ∀ e ∈ t, IsBare e.1 :=
  fun e he => h e.1 (List.mem_map_of_mem he)

theorem printable_of_plain {depth : Nat} {t : Table} (hnames : (t.map (·.1)).Nodup)
    (hbare : ∀ k ∈ t.map (·.1), IsBare k) (hplain : ∀ e ∈ t, e.2.Plain) : Printable depth t := by
  have hordered : ∀ P, Ordered P t := fun P =>
    ⟨hnames, bare_of_names hbare, t, [], (List.append_nil t).symm, hplain,
      fun _ he => absurd he List.not_mem_nil⟩
  cases depth with
  | zero => exact hordered _
  | succ depth => exact hordered _

/-- The assignments of the plain values of a table. -/
def assignments (t : Table) : List Statement :=
  (t.filter fun e => !e.2.hasHeader).map fun e => .assign [e.1] e.2

mutual

/-- The statements of the tables among named items; `path` leads to the items. -/
def sectionStatements (path : List String) : List (String × Item) → List Statement
  | [] => []
  | (k, i) :: rest => itemStatements (path ++ [k]) i ++ sectionStatements path rest

def itemStatements (path : List String) : Item → List Statement
  | .table entries => .table path :: (assignments entries ++ sectionStatements path entries)
  | .rows tables => rowStatements path tables
  | _ => []

def rowStatements (path : List String) : List (List (String × Item)) → List Statement
  | [] => []
  | entries :: rest =>
      .row path :: (assignments entries ++ sectionStatements path entries) ++
        rowStatements path rest

end

/-- A text that is read as these statements, whatever comes after it; it does not begin with a mark
of byte order. -/
structure ReadsAs (cs : List Char) (statements : List Statement) : Prop where
  start : dropByteOrderMark cs = cs
  read : ∃ steps ≤ cs.length, ∀ fuel rest,
    statements? (fuel + steps) (cs ++ rest) = (statements? fuel rest).map (statements ++ ·)

namespace ReadsAs

variable {cs ds : List Char} {s t : List Statement}

theorem nil : ReadsAs [] [] :=
  ⟨rfl, 0, Nat.le_refl 0, fun fuel rest => by simp⟩

theorem append (hs : ReadsAs cs s) (ht : ReadsAs ds t) : ReadsAs (cs ++ ds) (s ++ t) := by
  obtain ⟨hstart, m, hm, hs⟩ := hs
  obtain ⟨hnext, n, hn, ht⟩ := ht
  refine ⟨?_, n + m, by rw [List.length_append]; omega, fun fuel rest => ?_⟩
  · cases cs with
    | nil => exact hnext
    | cons c cs =>
        rw [dropByteOrderMark] at hstart
        split at hstart
        · exact absurd hstart.symm (List.cons_ne_self c cs)
        · next hmark => exact if_neg hmark
  · rw [List.append_assoc, ← Nat.add_assoc, hs, ht, Option.map_map]
    simp [Function.comp_def]

theorem flatMap {α : Type} {l : List α} {f : α → List Char} {g : α → List Statement}
    (h : ∀ a ∈ l, ReadsAs (f a) (g a)) : ReadsAs (l.flatMap f) (l.flatMap g) := by
  induction l with
  | nil => exact nil
  | cons a l ih =>
      rw [List.forall_mem_cons] at h
      exact h.1.append (ih h.2)

/-- A document of such a text holds these statements. -/
theorem statements?_eq (h : ReadsAs cs s) : statements? (cs.length + 1) cs = some s := by
  obtain ⟨steps, hsteps, hread⟩ := h.read
  obtain ⟨k, hk⟩ : ∃ k, cs.length + 1 = (k + 1) + steps := ⟨cs.length - steps, by omega⟩
  have hend := hread (k + 1) []
  rw [List.append_nil] at hend
  rw [hk, hend]
  simp [statements?, skipSpaces]

end ReadsAs

section Keys

variable {k : String} {path : List String} {tail : List Char}

/-- A text before which a key without quotes ends, with all its parts. -/
structure EndsKey (cs : List Char) : Prop where
  name : ∃ c rest, cs = c :: rest ∧ isBareKeyChar c = false
  parts : ∀ rest, skipSpaces cs ≠ '.' :: rest

theorem keyChars_of_isBare (h : IsBare k) : keyChars k = k.toList := by
  have hempty : k.toList.isEmpty = false := List.isEmpty_eq_false_iff.2 h.1
  simp only [keyChars, hempty, h.2, Bool.not_false, Bool.and_self, if_true]

/-- A name begins with one of the characters that need no quotes. -/
theorem exists_head_of_isBare (h : IsBare k) :
    ∃ c cs, k.toList = c :: cs ∧ isBareKeyChar c = true := by
  obtain ⟨c, cs, hc⟩ := List.exists_cons_of_ne_nil h.1
  exact ⟨c, cs, hc, List.all_eq_true.1 h.2 c (hc ▸ List.mem_cons_self)⟩

theorem dropByteOrderMark_of_isBareKeyChar {c : Char} (hc : isBareKeyChar c = true)
    (cs : List Char) : dropByteOrderMark (c :: cs) = c :: cs := by
  have hmark : c.toNat ≠ 0xFEFF := by
    intro heq
    have hchar : c = Char.ofNat 0xFEFF := by rw [← heq, Char.ofNat_toNat]
    rw [hchar] at hc
    exact absurd hc (by decide)
  exact if_neg hmark

theorem ne_of_isBareKeyChar {c d : Char} (hc : isBareKeyChar c = true)
    (hd : isBareKeyChar d = false) : c ≠ d := by
  rintro rfl
  rw [hc] at hd
  cases hd

theorem skipSpaces_of_isBare (h : IsBare k) (tail : List Char) :
    skipSpaces (k.toList ++ tail) = k.toList ++ tail := by
  obtain ⟨c, cs, hcs, hc⟩ := exists_head_of_isBare h
  have hspace : c ≠ ' ' := ne_of_isBareKeyChar hc (by decide)
  have htab : c ≠ '\t' := ne_of_isBareKeyChar hc (by decide)
  simp [hcs, skipSpaces, hspace, htab]

theorem keyPart?_of_isBare (h : IsBare k) {c : Char} (hc : isBareKeyChar c = false) :
    keyPart? (k.toList ++ c :: tail) = some (k, c :: tail) := by
  have htake : (k.toList ++ c :: tail).takeWhile isBareKeyChar = k.toList := by
    rw [List.takeWhile_append_of_pos (List.all_eq_true.1 h.2)]
    simp [hc]
  have hdrop : (k.toList ++ c :: tail).dropWhile isBareKeyChar = c :: tail := by
    rw [List.dropWhile_append_of_pos (List.all_eq_true.1 h.2)]
    simp [hc]
  obtain ⟨d, ds, hds, hd⟩ := exists_head_of_isBare h
  have hdouble : d ≠ '"' := ne_of_isBareKeyChar hd (by decide)
  have hsingle : d ≠ '\'' := ne_of_isBareKeyChar hd (by decide)
  rw [keyPart?]
  · simp only [htake, hdrop, List.isEmpty_eq_false_iff.2 h.1, Bool.false_eq_true, if_false,
      String.ofList_toList]
  all_goals simp [hds, hdouble, hsingle]

/-- The parts of a path are read up to the end of the key. -/
theorem keyParts?_pathChars {limit : Nat} (hne : path ≠ []) (hlen : path.length ≤ limit)
    (hbare : ∀ k ∈ path, IsBare k) (htail : EndsKey tail) :
    keyParts? limit (pathChars path ++ tail) = some (path, skipSpaces tail) := by
  induction path generalizing limit with
  | nil => exact absurd rfl hne
  | cons k path ih =>
      obtain ⟨n, rfl⟩ : ∃ n, limit = n + 1 := ⟨limit - 1, by simp at hlen; omega⟩
      rw [List.forall_mem_cons] at hbare
      have hkey := keyChars_of_isBare hbare.1
      cases path with
      | nil =>
          obtain ⟨c, rest, rfl, hc⟩ := htail.name
          have hparts := htail.parts
          have hchars : pathChars [k] = k.toList := by
            simp [pathChars, hkey]
          rw [hchars, keyParts?, skipSpaces_of_isBare hbare.1, keyPart?_of_isBare hbare.1 hc,
            Option.bind_some]
          split
          · next rest heq => exact absurd heq (hparts rest)
          · rfl
      | cons l path =>
          have hchars : pathChars (k :: l :: path) = k.toList ++ '.' :: pathChars (l :: path) := by
            simp [pathChars, hkey]
          have hrest := @ih n (by simp) (by simpa using hlen) hbare.2
          rw [hchars, List.append_assoc, List.cons_append, keyParts?,
            skipSpaces_of_isBare hbare.1, keyPart?_of_isBare hbare.1 (by decide)]
          simp [skipSpaces, hrest]

/-- A path that a header or a key can name. -/
structure IsPath (path : List String) : Prop where
  nonempty : path ≠ []
  short : path.length < levelLimit
  bare : ∀ k ∈ path, IsBare k

theorem key?_pathChars (h : IsPath path) (htail : EndsKey tail) :
    key? (pathChars path ++ tail) = some (path, skipSpaces tail) :=
  keyParts?_pathChars h.nonempty (Nat.le_sub_one_of_lt h.short) h.bare htail

theorem exists_head_pathChars (h : IsPath path) :
    ∃ c cs, pathChars path = c :: cs ∧ isBareKeyChar c = true := by
  obtain ⟨k, ks, rfl⟩ := List.exists_cons_of_ne_nil h.nonempty
  have hk := h.bare k List.mem_cons_self
  obtain ⟨c, cs, hcs, hc⟩ := exists_head_of_isBare hk
  have hkey := keyChars_of_isBare hk
  cases ks with
  | nil => exact ⟨c, cs, by simp [pathChars, hkey, hcs], hc⟩
  | cons l ks =>
      exact ⟨c, cs ++ '.' :: pathChars (l :: ks), by simp [pathChars, hkey, hcs], hc⟩

end Keys

section Lines

variable {path : List String} (rest : List Char)

theorem skipSpaces_space (cs : List Char) : skipSpaces (' ' :: cs) = skipSpaces cs := by
  simp [skipSpaces]

theorem endLine?_lineFeed : endLine? ('\n' :: rest) = some rest := by
  simp [endLine?, skipSpaces, skipComment?]

theorem header?_pathChars (h : IsPath path) (closing : List Char) :
    header? (']' :: closing) (pathChars path ++ (']' :: closing ++ '\n' :: rest)) =
      some (path, rest) := by
  have hends : EndsKey (']' :: (closing ++ '\n' :: rest)) :=
    ⟨⟨_, _, rfl, by decide⟩, by simp [skipSpaces]⟩
  have hskip : skipSpaces (']' :: (closing ++ '\n' :: rest)) = ']' :: (closing ++ '\n' :: rest) := by
    simp [skipSpaces]
  rw [header?, List.cons_append, key?_pathChars h hends, hskip]
  simp [endLine?_lineFeed]

theorem assignment?_line {k : String} {i : Item} (hk : IsBare k) (hi : i.Plain) :
    assignment? (k.toList ++ ' ' :: '=' :: ' ' :: (inlineChars i ++ '\n' :: rest)) =
      some (.assign [k] i, rest) := by
  have hpath : IsPath [k] := ⟨by simp, by simp [levelLimit], by simpa using hk⟩
  have hends : EndsKey (' ' :: '=' :: ' ' :: (inlineChars i ++ '\n' :: rest)) :=
    ⟨⟨_, _, rfl, by decide⟩, by simp [skipSpaces]⟩
  have hkey := key?_pathChars hpath hends
  have hchars : pathChars [k] = k.toList := by
    simp [pathChars, keyChars_of_isBare hk]
  have hequal : skipSpaces (' ' :: '=' :: ' ' :: (inlineChars i ++ '\n' :: rest)) =
      '=' :: ' ' :: (inlineChars i ++ '\n' :: rest) := by
    simp [skipSpaces]
  have hvalue : skipSpaces (' ' :: (inlineChars i ++ '\n' :: rest)) =
      inlineChars i ++ '\n' :: rest := by
    rw [skipSpaces_space, skipSpaces_inlineChars hi]
  rw [hchars, hequal] at hkey
  simp only [assignment?, hkey, hvalue]
  have hfuel : (inlineChars i).length <
      (k.toList ++ ' ' :: '=' :: ' ' :: (inlineChars i ++ '\n' :: rest)).length + 1 := by
    simp only [List.length_append, List.length_cons]
    omega
  rw [levelLimit, value?_inlineChars 78 rest hi hfuel, Option.bind_some, endLine?_lineFeed]
  rfl

end Lines

section Steps

/-- A plain value is read as its assignment. -/
theorem readsAs_assignment {k : String} {i : Item} (hk : IsBare k) (hi : i.Plain) :
    ReadsAs (keyChars k ++ [' ', '=', ' '] ++ inlineChars i ++ ['\n']) [.assign [k] i] := by
  obtain ⟨c, cs, hcs, hc⟩ := exists_head_of_isBare hk
  have hstart := dropByteOrderMark_of_isBareKeyChar hc
  refine ⟨by simp [keyChars_of_isBare hk, hcs, hstart], 1,
    by simp only [List.length_append, List.length_cons]; omega, fun fuel rest => ?_⟩
  have hline := assignment?_line rest hk hi
  have hskip := skipSpaces_of_isBare hk (' ' :: '=' :: ' ' :: (inlineChars i ++ '\n' :: rest))
  have hfeed : c ≠ '\n' := ne_of_isBareKeyChar hc (by decide)
  have hcarriage : c ≠ '\r' := ne_of_isBareKeyChar hc (by decide)
  have hcomment : c ≠ '#' := ne_of_isBareKeyChar hc (by decide)
  have hbracket : c ≠ '[' := ne_of_isBareKeyChar hc (by decide)
  rw [keyChars_of_isBare hk]
  simp only [List.append_assoc, List.cons_append, List.nil_append]
  rw [hcs, List.cons_append] at hskip hline ⊢
  rw [statements?, hskip]
  split
  all_goals simp_all

/-- A header is read, with the empty line before it. -/
theorem readsAs_tableHeader {path : List String} (h : IsPath path) :
    ReadsAs (headerLine path false) [.table path] := by
  refine ⟨rfl, 2, by simp [headerLine], fun fuel rest => ?_⟩
  have hheader := header?_pathChars rest h []
  obtain ⟨c, cs, hcs, hc⟩ := exists_head_pathChars h
  have hbracket : c ≠ '[' := ne_of_isBareKeyChar hc (by decide)
  simp only [hcs, List.cons_append, List.nil_append] at hheader
  simp [headerLine, statements?, skipSpaces, hcs, hbracket, hheader]

theorem readsAs_rowHeader {path : List String} (h : IsPath path) :
    ReadsAs (headerLine path true) [.row path] := by
  refine ⟨rfl, 2, by simp [headerLine], fun fuel rest => ?_⟩
  have hheader := header?_pathChars rest h [']']
  simp only [List.cons_append, List.nil_append] at hheader
  simp [headerLine, statements?, skipSpaces, hheader]

end Steps

section Tables

variable {path : List String} {t : Table}

theorem sections_eq_flatMap (path : List String) (t : Table) :
    sections path t = t.flatMap fun e => sectionOf (path ++ [e.1]) e.2 := by
  induction t with
  | nil => rfl
  | cons e t ih => rw [sections, ih, List.flatMap_cons]

theorem rowSections_eq_flatMap (path : List String) (tables : List Table) :
    rowSections path tables =
      tables.flatMap fun t => headerLine path true ++ (plainLines t ++ sections path t) := by
  induction tables with
  | nil => rfl
  | cons t tables ih => rw [rowSections, ih, List.flatMap_cons, List.append_assoc (headerLine _ _)]

theorem sectionStatements_eq_flatMap (path : List String) (t : Table) :
    sectionStatements path t = t.flatMap fun e => itemStatements (path ++ [e.1]) e.2 := by
  induction t with
  | nil => rfl
  | cons e t ih => rw [sectionStatements, ih, List.flatMap_cons]

theorem rowStatements_eq_flatMap (path : List String) (tables : List Table) :
    rowStatements path tables =
      tables.flatMap fun t => [.row path] ++ (assignments t ++ sectionStatements path t) := by
  induction tables with
  | nil => rfl
  | cons t tables ih =>
      rw [rowStatements, ih, List.flatMap_cons]
      rfl

theorem Item.Plain.hasHeader {i : Item} (h : i.Plain) : i.hasHeader = false := by
  cases h <;> rfl

theorem Item.Plain.sectionOf {i : Item} (h : i.Plain) : sectionOf path i = [] := by
  cases h <;> rfl

theorem Item.Plain.itemStatements {i : Item} (h : i.Plain) : itemStatements path i = [] := by
  cases h <;> rfl

theorem Item.Headed.hasHeader {P : Table → Prop} {i : Item} (h : i.Headed P) :
    i.hasHeader = true := by
  cases h <;> rfl

theorem headed_rows {P : Table → Prop} {tables : List Table} (hne : tables ≠ [])
    (h : ∀ t ∈ tables, P t) : (Item.rows tables).Headed P := by
  cases tables with
  | nil => exact absurd rfl hne
  | cons t tables => exact .rows h

/-- The lines of a table are its assignments. -/
theorem Ordered.readsAs_plainLines {P : Table → Prop} (h : Ordered P t) :
    ReadsAs (plainLines t) (assignments t) := by
  obtain ⟨plain, headed, rfl, hplain, hheaded⟩ := h.parts
  rw [plainLines, assignments, List.map_eq_flatMap]
  refine ReadsAs.flatMap fun e he => ?_
  rw [List.mem_filter, List.mem_append] at he
  obtain ⟨he | he, hheader⟩ := he
  · exact readsAs_assignment (h.bare e (List.mem_append_left _ he)) (hplain e he)
  · rw [(hheaded e he).hasHeader] at hheader
    cases hheader

/-- What is read as the statements of a table under its header. -/
def ReadsUnder (path : List String) (t : Table) : Prop :=
  ReadsAs (plainLines t ++ sections path t) (assignments t ++ sectionStatements path t)

theorem readsAs_sectionOf {P : Table → Prop} {i : Item} (hi : i.Headed P) (hpath : IsPath path)
    (hP : ∀ t, P t → ReadsUnder path t) :
    ReadsAs (sectionOf path i) (itemStatements path i) := by
  cases hi with
  | @table entries h =>
      rw [sectionOf, itemStatements, List.append_assoc]
      exact (readsAs_tableHeader hpath).append (hP entries h)
  | rows h =>
      rw [sectionOf, itemStatements, rowSections_eq_flatMap, rowStatements_eq_flatMap]
      exact ReadsAs.flatMap fun t ht => (readsAs_rowHeader hpath).append (hP t (h t ht))

theorem Ordered.readsUnder {P : Table → Prop} (h : Ordered P t)
    (hP : ∀ k, IsBare k → IsPath (path ++ [k]) ∧ ∀ s, P s → ReadsUnder (path ++ [k]) s) :
    ReadsUnder path t := by
  refine h.readsAs_plainLines.append ?_
  obtain ⟨plain, headed, rfl, hplain, hheaded⟩ := h.parts
  rw [sections_eq_flatMap, sectionStatements_eq_flatMap]
  refine ReadsAs.flatMap fun e he => ?_
  obtain ⟨hpath, hsub⟩ := hP e.1 (h.bare e he)
  rcases List.mem_append.1 he with he | he
  · rw [(hplain e he).sectionOf, (hplain e he).itemStatements]
    exact ReadsAs.nil
  · exact readsAs_sectionOf (hheaded e he) hpath hsub

/-- Every table is read as its statements, as far as keys are not too long for its depth. -/
theorem Printable.readsUnder {depth : Nat} (h : Printable depth t)
    (hbare : ∀ k ∈ path, IsBare k) (hlen : path.length + depth + 1 < levelLimit) :
    ReadsUnder path t := by
  induction depth generalizing path t with
  | zero =>
      refine Ordered.readsUnder h fun k hk => ⟨⟨by simp, ?_, ?_⟩, fun s hs => hs.elim⟩
      · simpa using hlen
      · simpa [or_imp, forall_and, hk] using hbare
  | succ depth ih =>
      refine Ordered.readsUnder h fun k hk => ?_
      have hlong : ∀ l ∈ path ++ [k], IsBare l := by
        simpa [or_imp, forall_and, hk] using hbare
      refine ⟨⟨by simp, ?_, hlong⟩, fun s hs => ih hs hlong ?_⟩
      · rw [List.length_append, List.length_singleton]
        omega
      · rw [List.length_append, List.length_singleton]
        omega

end Tables

end MarkedSheet.Toml
