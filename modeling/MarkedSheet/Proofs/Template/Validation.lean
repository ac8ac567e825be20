import Mathlib.Data.List.Induction
import MarkedSheet.Proofs.Template.Building
import MarkedSheet.Proofs.Template.TextCells

/-!
# Validation of templates

A template is accepted exactly when its pages have distinct names and enclose their cells.  Another
one is refused for its first page at fault: for its name when an earlier page has it, otherwise for
the first of its cells outside.  Templates of pages that were built are accepted when the pages have
distinct names and nothing was written to a row or a column 0.
-/

namespace MarkedSheet

namespace Page

/-- The cell is the first one outside the page, row by row. -/
structure IsFirstOutside (p : Page) (a : Address) : Prop where
  filled : a ∈ p.cells.addresses
  outside : ¬ p.Encloses a
  first : ∀ b ∈ p.cells.addresses, ¬ p.Encloses b →
    a.row < b.row ∨ (a.row = b.row ∧ a.col ≤ b.col)

/-- Why a page is at fault that comes after pages with these names.  A name that is repeated is
reported even if cells are outside. -/
inductive FaultAfter (names : List String) (p : Page) : TemplateError → Prop where
  | repeated (h : p.id ∈ names) : FaultAfter names p (.duplicatePage p.id)
  | outside (hnew : p.id ∉ names) {a : Address} (h : p.IsFirstOutside a) :
      FaultAfter names p (.cellOutOfBounds p.id a p.rows p.cols)

theorem isFirstOutside_of_outside? {p : Page} {a : Address} (h : p.outside? = some a) :
    p.IsFirstOutside a := by
  have hnot := List.find?_some h
  refine ⟨List.mem_of_find?_eq_some h, fun hin => ?_, fun b hb hout => ?_⟩
  · simp [contains_iff.2 hin] at hnot
  · have hascending : p.cells.addresses.Pairwise (· < ·) := List.pairwise_map.2 p.cells.ascending
    have hfits : (!p.contains b) = true := by
      rw [Bool.not_eq_true', ← Bool.not_eq_true, contains_iff]
      exact hout
    rcases eq_or_rel_of_find? hascending h hb hfits with rfl | hrow | ⟨hrow, hcol⟩
    · exact Or.inr ⟨rfl, UInt32.le_refl _⟩
    · exact Or.inl hrow
    · exact Or.inr ⟨hrow, UInt32.le_of_lt hcol⟩

/-- There is only one first cell outside. -/
theorem IsFirstOutside.unique {p : Page} {a b : Address} (ha : p.IsFirstOutside a)
    (hb : p.IsFirstOutside b) : a = b := by
  rcases ha.first b hb.filled hb.outside with hab | ⟨hrow, hab⟩ <;>
    rcases hb.first a ha.filled ha.outside with hba | ⟨hrow', hba⟩
  · exact absurd hba (UInt32.lt_asymm hab)
  · rw [hrow'] at hab
    exact absurd hab (UInt32.lt_irrefl _)
  · rw [hrow] at hba
    exact absurd hba (UInt32.lt_irrefl _)
  · exact congrArg₂ Address.mk hrow (UInt32.le_antisymm hab hba)

theorem outside?_eq_some_iff {p : Page} {a : Address} :
    p.outside? = some a ↔ p.IsFirstOutside a := by
  refine ⟨isFirstOutside_of_outside?, fun h => ?_⟩
  cases hout : p.outside? with
  | none => exact absurd (contains_iff.1 (outside?_eq_none_iff.1 hout a h.filled)) h.outside
  | some b => rw [(isFirstOutside_of_outside? hout).unique h]

end Page

namespace Template

/-- The first page at fault, for this reason; the pages before it are without fault. -/
def FirstFault (t : Template) (fault : TemplateError) : Prop :=
  ∃ before p after, t.pages = before ++ p :: after ∧ { t with pages := before }.Valid ∧
    p.FaultAfter (before.map Page.id) fault

theorem pageFault?_append (seen : List String) (pages rest : List Page) :
    pageFault? seen (pages ++ rest) =
      (pageFault? seen pages).or (pageFault? ((pages.map Page.id).reverse ++ seen) rest) := by
  induction pages generalizing seen with
  | nil => rfl
  | cons p pages ih =>
      rw [List.cons_append, pageFault?, pageFault?]
      split
      · rfl
      · cases p.outside? with
        | some a => rfl
        | none =>
            change pageFault? (p.id :: seen) (pages ++ rest) = _
            rw [ih, List.map_cons, List.reverse_cons, List.append_assoc, List.singleton_append]

/-- Of the pages before a page only the names matter, in any order. -/
theorem pageFault?_singleton_eq_some_iff {seen names : List String} {p : Page}
    {fault : TemplateError} (hseen : ∀ name, name ∈ seen ↔ name ∈ names) :
    pageFault? seen [p] = some fault ↔ p.FaultAfter names fault := by
  rw [pageFault?]
  constructor
  · intro h
    split at h
    · next hknown =>
        obtain rfl := Option.some.inj h
        exact .repeated ((hseen p.id).1 hknown)
    · next hnew =>
        split at h
        · next a hout =>
            obtain rfl := Option.some.inj h
            exact .outside (mt (hseen p.id).2 hnew) (Page.outside?_eq_some_iff.1 hout)
        · cases h
  · rintro (hknown | ⟨hnew, hfirst⟩)
    · rw [if_pos ((hseen p.id).2 hknown)]
    · rw [if_neg (mt (hseen p.id).1 hnew), Page.outside?_eq_some_iff.2 hfirst]

/-- The fault that is found is the one of a page behind pages without any. -/
theorem pageFault?_eq_some_iff {pages : List Page} {fault : TemplateError} :
    pageFault? [] pages = some fault ↔ ∃ before p after, pages = before ++ p :: after ∧
      pageFault? [] before = none ∧ p.FaultAfter (before.map Page.id) fault := by
  have hnames : ∀ (before : List Page) name,
      name ∈ (before.map Page.id).reverse ++ [] ↔ name ∈ before.map Page.id := by simp
  constructor
  · intro h
    -- A fault that is there before the last page is found is found there.
    induction pages using List.reverseRecOn with
    | nil => cases h
    | append_singleton pages p ih =>
        rw [pageFault?_append, Option.or_eq_some_iff] at h
        rcases h with h | ⟨hnone, h⟩
        · obtain ⟨before, q, after, rfl, hbefore, hfault⟩ := ih h
          exact ⟨before, q, after ++ [p], by simp, hbefore, hfault⟩
        · exact ⟨pages, p, [], rfl, hnone, (pageFault?_singleton_eq_some_iff (hnames pages)).1 h⟩
  · rintro ⟨before, p, after, rfl, hbefore, hfault⟩
    rw [← List.singleton_append, pageFault?_append, hbefore, Option.none_or, pageFault?_append,
      (pageFault?_singleton_eq_some_iff (hnames before)).2 hfault, Option.some_or]

theorem fault?_eq_some_iff {t : Template} {fault : TemplateError} :
    t.fault? = some fault ↔ t.FirstFault fault := by
  rw [fault?, pageFault?_eq_some_iff]
  simp only [FirstFault, ← fault?_eq_none_iff, fault?]

theorem validate_eq_error_iff {t : Template} {fault : TemplateError} :
    t.validate = .error fault ↔ t.FirstFault fault := by
  rw [← fault?_eq_some_iff, validate]
  cases t.fault? <;> simp

-- The wide page has cells outside, and behind the other page its name is repeated as well.
example :
    let wide : Page := ⟨"p", 1, 1, Cells.ofList [(⟨1, 2⟩, "b"), (⟨2, 1⟩, "a")]⟩
    validate ⟨"t", [Page.new "p", wide]⟩ = .error (.duplicatePage "p") ∧
      validate ⟨"t", [wide, Page.new "p"]⟩ = .error (.cellOutOfBounds "p" ⟨1, 2⟩ 1 1) :=
  ⟨rfl, rfl⟩

/-- What validation says of a template, and of one whose pages were built. -/
structure Checked (t : Template) : Prop where
  accepted_iff : (∃ u, t.validate = .ok u) ↔
    (t.pages.map Page.id).Nodup ∧ ∀ p ∈ t.pages, ∀ a ∈ p.cells.addresses,
      1 ≤ a.row ∧ 1 ≤ a.col ∧ a.row ≤ p.rows ∧ a.col ≤ p.cols
  unchanged : ∀ u, t.validate = .ok u → u = t
  refused_iff : ∀ fault, t.validate = .error fault ↔ t.FirstFault fault
  /-- Nothing that is built fails, as long as names are not repeated and addresses count from 1. -/
  built : ∀ builds : List PageBuild, t.pages = builds.map PageBuild.page →
    (builds.map PageBuild.id).Nodup → (∀ b ∈ builds, b.Placeable) →
      t.validate = .ok t ∧ ∀ b ∈ builds, b.page.IsBuiltBy b

theorem valid_of_built {t : Template} {builds : List PageBuild}
    (hpages : t.pages = builds.map PageBuild.page) (hdistinct : (builds.map PageBuild.id).Nodup)
    (hplaceable : ∀ b ∈ builds, b.Placeable) : t.Valid := by
  rw [valid_iff, hpages, List.map_map, List.forall_mem_map]
  refine ⟨?_, fun b hb => ?_⟩
  · have hid : Page.id ∘ PageBuild.page = PageBuild.id := funext PageBuild.page_id
    rwa [hid]
  · exact b.encloses_page (hplaceable b hb)

/-- Validation finds the first page at fault, and pages that were built are without fault. -/
theorem validate_checked (t : Template) : t.Checked := by
  constructor
  case accepted_iff =>
    refine Iff.trans ?_ (validate_eq_ok_iff.trans valid_iff)
    refine ⟨?_, fun h => ⟨t, h⟩⟩
    rintro ⟨u, hu⟩
    rwa [eq_of_validate_eq_ok hu] at hu
  case unchanged => exact fun u => eq_of_validate_eq_ok
  case refused_iff => exact fun fault => validate_eq_error_iff
  case built =>
    intro builds hpages hdistinct hplaceable
    have hvalid := valid_of_built hpages hdistinct hplaceable
    exact ⟨validate_eq_ok_iff.2 hvalid, fun b _ => b.page_isBuiltBy⟩

end Template

end MarkedSheet
