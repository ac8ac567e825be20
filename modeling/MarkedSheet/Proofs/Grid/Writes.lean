import Mathlib.Data.List.Induction
import MarkedSheet.FilledGrid

/-!
# Writing to a grid

A grid that is written to keeps its pages.  A cell shows the last value written to it, or what it
showed before when nothing was.
-/

namespace MarkedSheet

namespace Cells

variable {α β : Type}

theorem get?_map (f : α → β) (cells : Cells α) (a : Address) :
    (cells.map f).get? a = (cells.get? a).map f := by
  simp [get?, map, List.find?_map, Function.comp_def]

theorem get?_eq_some_iff {cells : Cells α} {a : Address} {v : α} :
    cells.get? a = some v ↔ (a, v) ∈ cells.entries := by
  obtain ⟨entries, ascending⟩ := cells
  change (entries.find? fun e => e.1 = a).map (·.2) = some v ↔ (a, v) ∈ entries
  induction entries with
  | nil => simp
  | cons e rest ih =>
      rw [List.pairwise_cons] at ascending
      by_cases h : e.1 = a
      · have hrest : (a, v) ∉ rest := fun hmem =>
          Address.lt_irrefl a (h ▸ ascending.1 (a, v) hmem)
        obtain ⟨b, w⟩ := e
        obtain rfl : b = a := h
        simp [hrest, eq_comm]
      · have hne : (a, v) ≠ e := fun he => h (by rw [← he])
        simpa [h, hne] using ih ascending.2

theorem mem_addresses_insert {cells : Cells α} {a b : Address} {v : α}
    (h : b ∈ (cells.insert a v).addresses) : b = a ∨ b ∈ cells.addresses := by
  obtain ⟨e, he, rfl⟩ := List.mem_map.1 h
  rcases mem_place he with rfl | he
  · exact Or.inl rfl
  · exact Or.inr (List.mem_map_of_mem he)

end Cells

/-- A value written to a cell of a page. -/
structure CellWrite where
  page : String
  cell : Address
  value : Value

namespace CellWrite

/-- Whether a cell is the one written to. -/
def isAt (page : String) (a : Address) (w : CellWrite) : Bool :=
  w.page = page && w.cell = a

/-- The last of several writes to a cell. -/
def last? (writes : List CellWrite) (page : String) (a : Address) : Option CellWrite :=
  (writes.filter (isAt page a)).getLast?

theorem last?_eq_none_iff {writes : List CellWrite} {page : String} {a : Address} :
    last? writes page a = none ↔ ∀ w ∈ writes, ¬ (w.page = page ∧ w.cell = a) := by
  simp [last?, isAt]

theorem of_last?_eq_some {writes : List CellWrite} {page : String} {a : Address} {w : CellWrite}
    (h : last? writes page a = some w) : w ∈ writes ∧ w.page = page ∧ w.cell = a := by
  obtain ⟨hw, hat⟩ := List.mem_filter.1 (List.mem_of_getLast? h)
  simp only [isAt, Bool.and_eq_true, decide_eq_true_eq] at hat
  exact ⟨hw, hat⟩

theorem last?_append_singleton (writes : List CellWrite) (w : CellWrite) (page : String)
    (a : Address) :
    last? (writes ++ [w]) page a =
      if w.page = page ∧ w.cell = a then some w else last? writes page a := by
  rw [last?, List.filter_append]
  split
  · next hw =>
      have hat : w.isAt page a = true := by simp [isAt, hw]
      rw [List.filter_cons_of_pos hat, List.filter_nil]
      exact List.getLast?_concat
  · next hw =>
      have hat : ¬ w.isAt page a = true := by simpa [isAt] using hw
      rw [List.filter_cons_of_neg hat, List.filter_nil, List.append_nil]
      rfl

end CellWrite

theorem word_le_max_left (m n : UInt32) : m ≤ max m n := by
  change m ≤ if m ≤ n then n else m
  split
  · next h => exact h
  · exact UInt32.le_refl m

theorem word_le_max_right (m n : UInt32) : n ≤ max m n := by
  change n ≤ if m ≤ n then n else m
  split
  · exact UInt32.le_refl n
  · next h => exact UInt32.le_of_lt (UInt32.not_le.1 h)

theorem word_max_eq_left {m n : UInt32} (h : n ≤ m) : max m n = m := by
  refine UInt32.le_antisymm ?_ (word_le_max_left m n)
  change (if m ≤ n then n else m) ≤ m
  split
  · exact h
  · exact UInt32.le_refl m

theorem word_max_le_iff {m n k : UInt32} : max m n ≤ k ↔ m ≤ k ∧ n ≤ k := by
  constructor
  · intro h
    exact ⟨UInt32.le_trans (word_le_max_left m n) h, UInt32.le_trans (word_le_max_right m n) h⟩
  · rintro ⟨hm, hn⟩
    change (if m ≤ n then n else m) ≤ k
    split
    · exact hn
    · exact hm

/-- All cells of a page lie within its rows and columns, which count from 1. -/
def FilledPage.Enclosed (p : FilledPage) : Prop :=
  ∀ a ∈ p.cells.addresses, 1 ≤ a.row ∧ 1 ≤ a.col ∧ a.row ≤ p.rows ∧ a.col ≤ p.cols

theorem FilledPage.Enclosed.set {p : FilledPage} (h : p.Enclosed) {a : Address} (v : Value)
    (hrow : 1 ≤ a.row) (hcol : 1 ≤ a.col) : (p.set a v).Enclosed := by
  intro b hb
  have hrows : p.rows ≤ max p.rows a.row := word_le_max_left _ _
  have hcols : p.cols ≤ max p.cols a.col := word_le_max_left _ _
  rcases Cells.mem_addresses_insert hb with rfl | hb
  · exact ⟨hrow, hcol, word_le_max_right _ _, word_le_max_right _ _⟩
  · obtain ⟨hrow', hcol', hrows', hcols'⟩ := h b hb
    exact ⟨hrow', hcol', UInt32.le_trans hrows' hrows, UInt32.le_trans hcols' hcols⟩

namespace FilledGrid

def names (g : FilledGrid) : List String :=
  g.pages.map FilledPage.id

def write (g : FilledGrid) (w : CellWrite) : FilledGrid :=
  g.set w.page w.cell w.value

def writeAll (g : FilledGrid) (writes : List CellWrite) : FilledGrid :=
  writes.foldl write g

/-- All cells lie within the grids of their pages. -/
def Enclosed (g : FilledGrid) : Prop :=
  ∀ p ∈ g.pages, p.Enclosed

theorem page?_isSome_iff {g : FilledGrid} {page : String} :
    (g.page? page).isSome ↔ page ∈ g.names := by
  simp [page?, names]

theorem page?_map_const (g : FilledGrid) (page : String) (v : Value) :
    ((g.page? page).map fun _ => v) = if page ∈ g.names then some v else none := by
  cases hp : g.page? page with
  | none => rw [if_neg fun h => by simpa [hp] using page?_isSome_iff.2 h]; rfl
  | some p => rw [if_pos (page?_isSome_iff.1 (by rw [hp]; rfl))]; rfl

theorem names_set (g : FilledGrid) (page : String) (a : Address) (v : Value) :
    (g.set page a v).names = g.names := by
  obtain ⟨template, report, pages⟩ := g
  change (setOn page a v pages).map FilledPage.id = pages.map FilledPage.id
  induction pages with
  | nil => rfl
  | cons p rest ih =>
      rw [setOn]
      split
      · rfl
      · rw [List.map_cons, ih, List.map_cons]

theorem page?_set (g : FilledGrid) (page other : String) (a : Address) (v : Value) :
    (g.set page a v).page? other =
      if page = other then (g.page? other).map (·.set a v) else g.page? other := by
  obtain ⟨template, report, pages⟩ := g
  change (setOn page a v pages).find? (fun p => p.id = other) =
    if page = other then (pages.find? fun p => p.id = other).map (·.set a v)
    else pages.find? fun p => p.id = other
  induction pages with
  | nil => simp [setOn]
  | cons p rest ih =>
      have hid : (p.set a v).id = p.id := rfl
      by_cases hp : p.id = page
      · by_cases hother : page = other
        · simp [setOn, hp, hother, hid]
        · simp [setOn, hp, hother, hid]
      · by_cases hother : page = other
        · subst hother
          simp only [if_true] at ih ⊢
          simp [setOn, hp, ih]
        · simp only [hother, if_false] at ih ⊢
          rw [setOn, if_neg hp, List.find?_cons, List.find?_cons, ih]

theorem value?_set (g : FilledGrid) (page other : String) (a b : Address) (v : Value) :
    (g.set page a v).value? other b =
      if page = other ∧ a = b then (g.page? other).map fun _ => v else g.value? other b := by
  rw [value?, page?_set, value?]
  by_cases hpage : page = other
  · cases hp : g.page? other with
    | none => simp [hpage]
    | some p =>
        have hget : (p.set a v).get? b = if a = b then some v else p.get? b :=
          p.cells.get?_insert a b v
        by_cases hcell : a = b
        · subst hcell
          simpa [hpage] using hget
        · simpa [hpage, hcell] using hget
  · simp [hpage]

theorem names_writeAll (g : FilledGrid) (writes : List CellWrite) :
    (g.writeAll writes).names = g.names := by
  induction writes generalizing g with
  | nil => rfl
  | cons w rest ih => exact (ih (g.write w)).trans (names_set g w.page w.cell w.value)

/-- A page is as it was when nothing was written to it. -/
theorem page?_writeAll_of_forall_ne {g : FilledGrid} {writes : List CellWrite} {page : String}
    (h : ∀ w ∈ writes, w.page ≠ page) : (g.writeAll writes).page? page = g.page? page := by
  induction writes generalizing g with
  | nil => rfl
  | cons w rest ih =>
      have hw := h w List.mem_cons_self
      have hrest := ih (g := g.write w) fun w hw => h w (List.mem_cons_of_mem _ hw)
      refine hrest.trans ?_
      rw [write, page?_set, if_neg hw]

/-- A page keeps its size when all that is written to it lies within its grid. -/
theorem exists_size_writeAll {g : FilledGrid} {writes : List CellWrite} {page : String}
    {p : FilledPage} (hp : g.page? page = some p)
    (h : ∀ w ∈ writes, w.page = page → w.cell.row ≤ p.rows ∧ w.cell.col ≤ p.cols) :
    ∃ q, (g.writeAll writes).page? page = some q ∧ q.rows = p.rows ∧ q.cols = p.cols := by
  induction writes generalizing g p with
  | nil => exact ⟨p, hp, rfl, rfl⟩
  | cons w rest ih =>
      have hrest : ∀ w ∈ rest, w.page = page → w.cell.row ≤ p.rows ∧ w.cell.col ≤ p.cols :=
        fun w hw => h w (List.mem_cons_of_mem _ hw)
      have hwrite : (g.write w).page? page =
          if w.page = page then some (p.set w.cell w.value) else some p := by
        rw [write, page?_set, hp]
        rfl
      by_cases hpage : w.page = page
      · obtain ⟨hrow, hcol⟩ := h w List.mem_cons_self hpage
        have hrows : (p.set w.cell w.value).rows = p.rows := word_max_eq_left hrow
        have hcols : (p.set w.cell w.value).cols = p.cols := word_max_eq_left hcol
        rw [if_pos hpage] at hwrite
        rw [← hrows, ← hcols] at hrest ⊢
        exact ih hwrite hrest
      · rw [if_neg hpage] at hwrite
        exact ih hwrite hrest

/-- The last write to a cell decides what it shows. -/
theorem value?_writeAll (g : FilledGrid) (writes : List CellWrite) (page : String) (a : Address) :
    (g.writeAll writes).value? page a =
      match CellWrite.last? writes page a with
      | some w => if page ∈ g.names then some w.value else none
      | none => g.value? page a := by
  -- The write that decides is the last one, so the induction takes writes off the end.
  induction writes using List.reverseRecOn with
  | nil => rfl
  | append_singleton writes w ih =>
      have hfold : g.writeAll (writes ++ [w]) =
          (g.writeAll writes).set w.page w.cell w.value := by
        rw [writeAll, List.foldl_append]
        rfl
      rw [hfold, value?_set, page?_map_const, names_writeAll, ih,
        CellWrite.last?_append_singleton]
      split
      · rfl
      · rfl

theorem enclosed_set {g : FilledGrid} (h : g.Enclosed) (page : String) {a : Address} (v : Value)
    (hrow : 1 ≤ a.row) (hcol : 1 ≤ a.col) : (g.set page a v).Enclosed := by
  obtain ⟨template, report, pages⟩ := g
  change ∀ p ∈ setOn page a v pages, p.Enclosed
  replace h : ∀ p ∈ pages, p.Enclosed := h
  induction pages with
  | nil => exact h
  | cons p rest ih =>
      have hp := h p List.mem_cons_self
      have hrest : ∀ q ∈ rest, q.Enclosed := fun q hq => h q (List.mem_cons_of_mem _ hq)
      rw [setOn]
      split
      · intro q hq
        rcases List.mem_cons.1 hq with rfl | hq
        · exact hp.set v hrow hcol
        · exact hrest q hq
      · intro q hq
        rcases List.mem_cons.1 hq with rfl | hq
        · exact hp
        · exact ih hrest q hq

theorem enclosed_writeAll {g : FilledGrid} (h : g.Enclosed) {writes : List CellWrite}
    (hwrites : ∀ w ∈ writes, 1 ≤ w.cell.row ∧ 1 ≤ w.cell.col) : (g.writeAll writes).Enclosed := by
  induction writes generalizing g with
  | nil => exact h
  | cons w rest ih =>
      have hw := hwrites w List.mem_cons_self
      exact ih (enclosed_set h w.page w.value hw.1 hw.2)
        fun w hw => hwrites w (List.mem_cons_of_mem _ hw)

end FilledGrid

end MarkedSheet
