import Mathlib.Data.List.Nodup
import Mathlib.Data.List.Pairwise
import MarkedSheet.Proofs.FirstOccurrences
import MarkedSheet.Proofs.Grid.Writes
import MarkedSheet.Template

/-!
# The filled cells of a template

Validation finds no fault exactly when the pages have distinct names and hold their cells.  In a
valid template a page name and an address therefore belong to one filled cell at most.
-/

namespace MarkedSheet

namespace Page

/-- The cell lies within the rows and columns of the page, which count from 1. -/
def Encloses (p : Page) (a : Address) : Prop :=
  1 ≤ a.row ∧ 1 ≤ a.col ∧ a.row ≤ p.rows ∧ a.col ≤ p.cols

theorem contains_iff {p : Page} {a : Address} : p.contains a = true ↔ p.Encloses a := by
  simp [contains, Encloses, and_assoc]

theorem outside?_eq_none_iff {p : Page} :
    p.outside? = none ↔ ∀ a ∈ p.cells.addresses, p.contains a := by
  simp [outside?, List.find?_eq_none]

end Page

namespace Template

/-- The pages have distinct names and every cell lies within the grid of its page. -/
structure Valid (t : Template) : Prop where
  distinct : (t.pages.map Page.id).Nodup
  inside : ∀ p ∈ t.pages, ∀ a ∈ p.cells.addresses, p.contains a

theorem pageFault?_eq_none_iff {seen : List String} {pages : List Page} :
    pageFault? seen pages = none ↔
      (∀ p ∈ pages, p.id ∉ seen) ∧ (pages.map Page.id).Nodup ∧
        ∀ p ∈ pages, ∀ a ∈ p.cells.addresses, p.contains a := by
  induction pages generalizing seen with
  | nil => simp [pageFault?]
  | cons p rest ih =>
      rw [pageFault?]
      by_cases hseen : p.id ∈ seen
      · simp [hseen]
      · rw [if_neg hseen]
        cases hout : p.outside? with
        | some a =>
            have hbad : ¬ ∀ a ∈ p.cells.addresses, p.contains a := by
              rw [← Page.outside?_eq_none_iff, hout]
              simp
            simp only [reduceCtorEq, false_iff]
            rintro ⟨-, -, hinside⟩
            exact hbad (hinside p List.mem_cons_self)
        | none =>
            have hgood := Page.outside?_eq_none_iff.1 hout
            rw [ih, List.forall_mem_cons, List.forall_mem_cons, List.map_cons, List.nodup_cons,
              List.mem_map]
            constructor
            · rintro ⟨hfresh, hnodup, hinside⟩
              refine ⟨⟨hseen, fun q hq hmem => hfresh q hq (List.mem_cons_of_mem _ hmem)⟩,
                ⟨?_, hnodup⟩, hgood, hinside⟩
              rintro ⟨q, hq, hid⟩
              exact hfresh q hq (hid ▸ List.mem_cons_self)
            · rintro ⟨⟨-, hfresh⟩, ⟨hnew, hnodup⟩, -, hinside⟩
              refine ⟨fun q hq hmem => ?_, hnodup, hinside⟩
              rcases List.mem_cons.1 hmem with hid | hmem
              · exact hnew ⟨q, hq, hid⟩
              · exact hfresh q hq hmem

theorem fault?_eq_none_iff {t : Template} : t.fault? = none ↔ t.Valid := by
  rw [fault?, pageFault?_eq_none_iff]
  constructor
  · rintro ⟨-, hdistinct, hinside⟩
    exact ⟨hdistinct, hinside⟩
  · rintro ⟨hdistinct, hinside⟩
    exact ⟨by simp, hdistinct, hinside⟩

theorem valid_iff {t : Template} : t.Valid ↔ (t.pages.map Page.id).Nodup ∧
    ∀ p ∈ t.pages, ∀ a ∈ p.cells.addresses, p.Encloses a := by
  constructor
  · rintro ⟨hdistinct, hinside⟩
    exact ⟨hdistinct, fun p hp a ha => Page.contains_iff.1 (hinside p hp a ha)⟩
  · rintro ⟨hdistinct, hinside⟩
    exact ⟨hdistinct, fun p hp a ha => Page.contains_iff.2 (hinside p hp a ha)⟩

theorem validate_eq_ok_iff {t : Template} : t.validate = .ok t ↔ t.Valid := by
  rw [← fault?_eq_none_iff, validate]
  cases t.fault? <;> simp

theorem eq_of_validate_eq_ok {t u : Template} (h : t.validate = .ok u) : u = t := by
  unfold validate at h
  split at h
  · cases h
  · exact (Except.ok.inj h).symm

end Template

/-- A filled cell of a template with its page. -/
structure TextCell where
  page : String
  cell : Address
  text : String

namespace TextCell

/-- Filled cells at different places. -/
def Apart (c d : TextCell) : Prop :=
  ¬ (c.page = d.page ∧ c.cell = d.cell)

end TextCell

namespace Template

/-- The filled cells, page by page and in the order of addresses. -/
def textCells (t : Template) : List TextCell :=
  t.pages.flatMap fun p => p.cells.entries.map fun e => ⟨p.id, e.1, e.2⟩

/-- The text of a cell on the first page with a name. -/
def text? (t : Template) (page : String) (a : Address) : Option String :=
  (t.pages.find? fun p => p.id = page).bind fun p => p.text? a

theorem mem_textCells_iff {t : Template} {c : TextCell} :
    c ∈ t.textCells ↔ ∃ p ∈ t.pages, p.id = c.page ∧ (c.cell, c.text) ∈ p.cells.entries := by
  obtain ⟨page, cell, text⟩ := c
  constructor
  · intro h
    obtain ⟨p, hp, hc⟩ := List.mem_flatMap.1 h
    obtain ⟨e, he, heq⟩ := List.mem_map.1 hc
    simp only [TextCell.mk.injEq] at heq
    obtain ⟨rfl, rfl, rfl⟩ := heq
    exact ⟨p, hp, rfl, he⟩
  · rintro ⟨p, hp, rfl, he⟩
    exact List.mem_flatMap.2 ⟨p, hp, List.mem_map.2 ⟨(cell, text), he, rfl⟩⟩

theorem page_mem_of_mem_textCells {t : Template} {c : TextCell} (h : c ∈ t.textCells) :
    c.page ∈ t.pages.map Page.id := by
  obtain ⟨p, hp, hpage, -⟩ := mem_textCells_iff.1 h
  exact List.mem_map.2 ⟨p, hp, hpage⟩

/-- One place comes before another: on an earlier page, or at a smaller address of the same page. -/
def ComesBefore (t : Template) (page : String) (a : Address) (other : String) (b : Address) : Prop :=
  (t.pages.map Page.id).idxOf page < (t.pages.map Page.id).idxOf other ∨ page = other ∧ a < b

/-- The filled cells come page by page and in the order of their addresses. -/
theorem pairwise_textCells {t : Template} (h : (t.pages.map Page.id).Nodup) :
    t.textCells.Pairwise fun c d => t.ComesBefore c.page c.cell d.page d.cell := by
  have hpages := pairwise_idxOf_lt h
  rw [List.pairwise_map] at hpages
  refine List.pairwise_flatMap.2 ⟨fun p _ => ?_, hpages.imp fun {p q} hpq => ?_⟩
  · refine List.pairwise_map.2 (p.cells.ascending.imp fun {x y} hxy => ?_)
    exact Or.inr ⟨rfl, hxy⟩
  · intro c hc d hd
    obtain ⟨x, -, rfl⟩ := List.mem_map.1 hc
    obtain ⟨y, -, rfl⟩ := List.mem_map.1 hd
    exact Or.inl hpq

/-- The filled cells of a page follow each other in the order of their addresses. -/
theorem pairwise_ascending {t : Template} (h : (t.pages.map Page.id).Nodup) :
    t.textCells.Pairwise fun c d => c.page = d.page → c.cell < d.cell := by
  refine (pairwise_textCells h).imp fun {c d} hcd hpage => ?_
  rcases hcd with hlt | ⟨-, hlt⟩
  · rw [hpage] at hlt
    exact absurd hlt (Nat.lt_irrefl _)
  · exact hlt

/-- With distinct pages, the filled cells are at different places. -/
theorem pairwise_apart {t : Template} (h : (t.pages.map Page.id).Nodup) :
    t.textCells.Pairwise TextCell.Apart := by
  refine (pairwise_ascending h).imp fun {c d} hcd => ?_
  rintro ⟨hpage, hcell⟩
  have hlt := hcd hpage
  rw [hcell] at hlt
  exact Address.lt_irrefl d.cell hlt

/-- A page is the first one with its name. -/
theorem Valid.find?_page {t : Template} (h : t.Valid) {p : Page} (hp : p ∈ t.pages) :
    (t.pages.find? fun q => q.id = p.id) = some p :=
  find?_of_nodup h.distinct hp

theorem Valid.text?_eq_some_iff {t : Template} (h : t.Valid) {page : String} {a : Address}
    {text : String} : t.text? page a = some text ↔ ⟨page, a, text⟩ ∈ t.textCells := by
  rw [text?, Option.bind_eq_some_iff, mem_textCells_iff]
  constructor
  · rintro ⟨p, hp, htext⟩
    exact ⟨p, List.mem_of_find?_eq_some hp, by simpa using List.find?_some hp,
      Cells.get?_eq_some_iff.1 htext⟩
  · rintro ⟨p, hp, rfl, hentry⟩
    exact ⟨p, h.find?_page hp, Cells.get?_eq_some_iff.2 hentry⟩

/-- A filled cell lies within the grid of its page. -/
theorem Valid.contains_of_mem {t : Template} (h : t.Valid) {c : TextCell} (hc : c ∈ t.textCells)
    {p : Page} (hp : p ∈ t.pages) (hpage : c.page = p.id) : p.contains c.cell := by
  obtain ⟨q, hq, hqpage, hentry⟩ := mem_textCells_iff.1 hc
  have hsame : q = p := List.inj_on_of_nodup_map h.distinct hq hp (hqpage.trans hpage)
  rw [← hsame]
  exact h.inside q hq c.cell (List.mem_map_of_mem hentry)

theorem Valid.one_le_of_mem {t : Template} (h : t.Valid) {c : TextCell} (hc : c ∈ t.textCells) :
    1 ≤ c.cell.row ∧ 1 ≤ c.cell.col := by
  obtain ⟨p, hp, -, hentry⟩ := mem_textCells_iff.1 hc
  obtain ⟨hrow, hcol, -⟩ := Page.contains_iff.1 (h.inside p hp c.cell (List.mem_map_of_mem hentry))
  exact ⟨hrow, hcol⟩

end Template

namespace FilledGrid

/-- Before anything is filled in, a grid shows the texts of its template. -/
theorem value?_ofTemplate (t : Template) (report page : String) (a : Address) :
    (ofTemplate t report).value? page a = (t.text? page a).map Value.text := by
  rw [value?, page?, ofTemplate, Template.text?, List.find?_map]
  cases hp : t.pages.find? ((fun p => decide (p.id = page)) ∘ FilledPage.ofPage) with
  | none =>
      have hnone : (t.pages.find? fun p => p.id = page) = none := hp
      rw [hnone]
      rfl
  | some p =>
      have hsome : (t.pages.find? fun p => p.id = page) = some p := hp
      rw [hsome]
      exact Cells.get?_map Value.text p.cells a

theorem names_ofTemplate (t : Template) (report : String) :
    (ofTemplate t report).names = t.pages.map Page.id := by
  rw [names, ofTemplate, List.map_map]
  rfl

theorem enclosed_ofTemplate {t : Template} (h : t.Valid) (report : String) :
    (ofTemplate t report).Enclosed := by
  intro q hq a ha
  obtain ⟨p, hp, rfl⟩ := List.mem_map.1 hq
  have haddress : a ∈ p.cells.addresses := by
    simpa [FilledPage.ofPage, Cells.addresses, Cells.map] using ha
  exact Page.contains_iff.1 (h.inside p hp a haddress)

end FilledGrid

end MarkedSheet
