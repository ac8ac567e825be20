import Mathlib.Algebra.Ring.Nat
import Mathlib.Data.List.Forall2
import MarkedSheet.Placement

/-!
# Where each item is placed

The pages divide the items among themselves like consecutive intervals, as long as their rooms: an
item goes to the page in whose interval its position falls, on the row that is as far below the
start row as the position is into the interval.  No other cells are written.
-/

namespace MarkedSheet

/-- What an item has to say in the column of a role; `index` is its position, counted from 1. -/
inductive LineItem.Writes (item : LineItem) (index : Nat) : Role → Value → Prop where
  | index : Writes item index .index (.integer index)
  | name : Writes item index .name (.text item.name)
  | unit : Writes item index .unit (.text item.unit)
  | result : Writes item index .result (.text item.result)
  | limit : Writes item index .limit (.text item.limit)
  | method : Writes item index .method (.text item.method)
  | judgment {judgment : String} (h : item.judgment? = some judgment) :
      Writes item index .judgment (.text judgment)
  | unjudged (h : item.judgment? = none) : Writes item index .judgment .empty

theorem LineItem.writes_value (item : LineItem) (index : Nat) (role : Role) :
    item.Writes index role (item.value index role) := by
  cases role with
  | index => exact .index
  | name => exact .name
  | unit => exact .unit
  | result => exact .result
  | limit => exact .limit
  | method => exact .method
  | judgment =>
      rw [value]
      cases h : item.judgment? with
      | none => exact .unjudged h
      | some judgment => exact .judgment h

/-- Each declared role has one column. -/
theorem Columns.filter_inOrder (columns : Columns) (role : Role) :
    (columns.inOrder.filter fun c => c.1 = role) =
      ((columns.cell? role).map fun cell => (role, cell)).toList := by
  have hrole : ∀ r : Role,
      (((columns.cell? r).map fun cell => (r, cell)).filter fun c => decide (c.1 = role)) =
        if r = role then (columns.cell? role).map fun cell => (role, cell) else none := by
    intro r
    by_cases h : r = role
    · subst h
      cases columns.cell? r <;> simp
    · cases columns.cell? r <;> simp [h]
  rw [inOrder, List.filter_filterMap]
  simp only [hrole]
  cases role <;> cases columns.cell? _ <;> simp [Role.all]

namespace PagePlan

/-- The number of items for which a page has rows: its capacity, cut off at the last row. -/
def room (p : PagePlan) : Nat :=
  match p.capacity with
  | .bounded rows => min rows p.rowsLeft
  | .unbounded => p.rowsLeft

def totalRoom (plans : List PagePlan) : Nat :=
  (plans.map room).sum

/-- An item falls to a page when the pages before it have no row for the item and it has one. -/
def FallsTo (plans : List PagePlan) (i k : Nat) : Prop :=
  totalRoom (plans.take k) ≤ i ∧ i < totalRoom (plans.take (k + 1))

/-- The plan to which an item falls, with the number of rows of this page that are taken before. -/
def seat? : List PagePlan → Nat → Option (PagePlan × Nat)
  | [], _ => none
  | p :: rest, i => if i < p.room then some (p, i) else seat? rest (i - p.room)

@[simp]
theorem totalRoom_nil : totalRoom [] = 0 := rfl

@[simp]
theorem totalRoom_cons (p : PagePlan) (rest : List PagePlan) :
    totalRoom (p :: rest) = p.room + totalRoom rest := rfl

theorem share_eq_min (p : PagePlan) (remaining : Nat) :
    p.share remaining = min p.room remaining := by
  rw [share, room]
  cases p.capacity with
  | bounded rows =>
      simp only [Capacity.take]
      omega
  | unbounded =>
      simp only [Capacity.take]
      omega

theorem room_le_rowsLeft (p : PagePlan) : p.room ≤ p.rowsLeft := by
  rw [room]
  cases p.capacity with
  | bounded rows => exact Nat.min_le_right _ _
  | unbounded => exact Nat.le_refl _

/-- Rows within the room of a page exist: their numbers do not pass the last 32-bit row. -/
theorem toNat_row (p : PagePlan) {offset : Nat} (h : offset < p.room) :
    (p.startRow + UInt32.ofNat offset).toNat = p.startRow.toNat + offset := by
  have hroom := p.room_le_rowsLeft
  have hrows : p.rowsLeft = 2 ^ 32 - p.startRow.toNat := rfl
  have hoffset : offset < 2 ^ 32 := by omega
  rw [UInt32.toNat_add, UInt32.toNat_ofNat_of_lt' hoffset]
  exact Nat.mod_eq_of_lt (by omega)

theorem totalRoom_take_mono (plans : List PagePlan) {j k : Nat} (h : j ≤ k) :
    totalRoom (plans.take j) ≤ totalRoom (plans.take k) := by
  induction plans generalizing j k with
  | nil => simp
  | cons p rest ih =>
      cases j with
      | zero => simp
      | succ j =>
          cases k with
          | zero => omega
          | succ k =>
              have hrest := ih (Nat.le_of_succ_le_succ h)
              simp only [List.take_succ_cons, totalRoom_cons]
              omega

theorem FallsTo.le {plans : List PagePlan} {i j k : Nat} (hj : FallsTo plans i j)
    (hk : FallsTo plans i k) : j ≤ k := by
  refine Nat.le_of_not_lt fun hlt => ?_
  have hmono := totalRoom_take_mono plans (show k + 1 ≤ j from hlt)
  exact Nat.lt_irrefl i (Nat.lt_of_lt_of_le hk.2 (Nat.le_trans hmono hj.1))

/-- An item falls to one page at most. -/
theorem FallsTo.unique {plans : List PagePlan} {i j k : Nat} (hj : FallsTo plans i j)
    (hk : FallsTo plans i k) : j = k :=
  Nat.le_antisymm (hj.le hk) (hk.le hj)

/-- An item for which there is room falls to a page. -/
theorem exists_seat? {plans : List PagePlan} {i : Nat} (h : i < totalRoom plans) :
    ∃ k p, plans[k]? = some p ∧ FallsTo plans i k ∧
      i - totalRoom (plans.take k) < p.room ∧
      seat? plans i = some (p, i - totalRoom (plans.take k)) := by
  induction plans generalizing i with
  | nil => simp at h
  | cons p rest ih =>
      by_cases hi : i < p.room
      · refine ⟨0, p, rfl, ⟨by simp, by simpa using hi⟩, by simpa using hi, ?_⟩
        rw [seat?, if_pos hi]
        rfl
      · have hrest : i - p.room < totalRoom rest := by
          rw [totalRoom_cons] at h
          omega
        obtain ⟨k, q, hq, ⟨hlow, hhigh⟩, hroom, hseat⟩ := ih hrest
        have hsub : i - p.room - totalRoom (rest.take k) =
            i - totalRoom ((p :: rest).take (k + 1)) := by
          rw [List.take_succ_cons, totalRoom_cons]
          omega
        rw [hsub] at hroom hseat
        refine ⟨k + 1, q, hq, ⟨?_, ?_⟩, hroom, ?_⟩
        · rw [List.take_succ_cons, totalRoom_cons]
          omega
        · rw [List.take_succ_cons, totalRoom_cons]
          omega
        · rw [seat?, if_neg hi, hseat]

/-- A row has one cell for each declared role. -/
theorem filter_row (p : PagePlan) (offset index : Nat) (item : LineItem) (role : Role) :
    (((p.row offset index item).filter fun c => c.role = role).map PlacedCell.value) =
      if (p.columns.cell? role).isSome then [item.value index role] else [] := by
  have hfilter := p.columns.filter_inOrder role
  rw [row, List.filter_map, List.map_map]
  change (p.columns.inOrder.filter fun c => c.1 = role).map _ = _
  rw [hfilter]
  cases p.columns.cell? role <;> rfl

/-- The cells of an item on the row that is `offset` rows below the start row of a page. -/
structure Wrote (p : PagePlan) (offset index : Nat) (item : LineItem) (cells : List PlacedCell) :
    Prop where
  /-- The cells follow the declared columns in the order of the roles. -/
  columns : List.Forall₂ (fun c cell => cell.page = p.page ∧ cell.role = c.1 ∧
    cell.cell.col = c.2.col ∧ cell.cell.row.toNat = p.startRow.toNat + offset ∧
      item.Writes index c.1 cell.value) p.columns.inOrder cells
  once : ∀ role, (cells.countP fun c => c.role = role) =
    if (p.columns.cell? role).isSome then 1 else 0

theorem wrote_row (p : PagePlan) {offset : Nat} (index : Nat) (item : LineItem)
    (h : offset < p.room) : p.Wrote offset index item (p.row offset index item) where
  columns := by
    rw [row, List.forall₂_map_right_iff, List.forall₂_same]
    intro c _
    exact ⟨rfl, rfl, rfl, p.toNat_row h, item.writes_value index c.1⟩
  once := by
    intro role
    have hlength := congrArg List.length (p.filter_row offset index item role)
    rw [List.length_map, ← List.countP_eq_length_filter] at hlength
    rw [hlength]
    split <;> rfl

theorem rowsFrom_eq_flatMap (p : PagePlan) (offset index : Nat) (items : List LineItem) :
    p.rowsFrom offset index items =
      (List.range items.length).flatMap fun j =>
        (items[j]?).toList.flatMap fun item => p.row (offset + j) (index + j) item := by
  induction items generalizing offset index with
  | nil => rfl
  | cons item rest ih =>
      rw [rowsFrom, ih, List.length_cons, List.range_succ_eq_map, List.flatMap_cons,
        List.flatMap_map]
      simp [Nat.add_assoc, Nat.add_comm 1]

end PagePlan

namespace Placement

/-- The cells that an item writes when `done` items were placed before the first of these. -/
def cellsOf (items : List LineItem) (plans : List PagePlan) (done i : Nat) : List PlacedCell :=
  (items[i]?).toList.flatMap fun item =>
    (PagePlan.seat? plans i).toList.flatMap fun seat => seat.1.row seat.2 (done + i + 1) item

theorem placed_fill (done : Nat) (items : List LineItem) (plans : List PagePlan) :
    (fill done items plans).placed = min items.length (PagePlan.totalRoom plans) := by
  induction plans generalizing done items with
  | nil => simp [fill]
  | cons p rest ih =>
      have hshare := p.share_eq_min items.length
      simp only [fill, ih, List.length_drop, PagePlan.totalRoom_cons]
      omega

theorem overflow_fill (done : Nat) (items : List LineItem) (plans : List PagePlan) :
    (fill done items plans).overflow = items.length - (fill done items plans).placed := by
  induction plans generalizing done items with
  | nil => rfl
  | cons p rest ih =>
      simp only [fill, ih, List.length_drop]
      omega

/-- The first page takes the items that fall to it. -/
theorem cellsOf_of_lt_share (p : PagePlan) (rest : List PagePlan) (items : List LineItem)
    (done : Nat) {i : Nat} (h : i < p.share items.length) :
    cellsOf items (p :: rest) done i =
      ((items.take (p.share items.length))[i]?).toList.flatMap fun item =>
        p.row (0 + i) (done + 1 + i) item := by
  have hroom : i < p.room := by
    rw [PagePlan.share_eq_min] at h
    omega
  rw [cellsOf, PagePlan.seat?, if_pos hroom, List.getElem?_take_of_lt h]
  simp [Nat.add_right_comm]

/-- The other pages see the items that are left as if they were the first. -/
theorem cellsOf_share_add (p : PagePlan) (rest : List PagePlan) (items : List LineItem)
    (done : Nat) {i : Nat} (h : i < (items.drop (p.share items.length)).length) :
    cellsOf items (p :: rest) done (p.share items.length + i) =
      cellsOf (items.drop (p.share items.length)) rest (done + p.share items.length) i := by
  -- There are items left, so the first page is full.
  have hshare : p.share items.length = p.room := by
    rw [PagePlan.share_eq_min] at h ⊢
    rw [List.length_drop] at h
    omega
  have hroom : ¬ p.room + i < p.room := by omega
  have hindex : done + (p.room + i) + 1 = done + p.room + i + 1 := by omega
  rw [cellsOf, cellsOf, hshare, PagePlan.seat?, if_neg hroom, Nat.add_sub_cancel_left,
    List.getElem?_drop, hindex]

theorem cells_fill (done : Nat) (items : List LineItem) (plans : List PagePlan) :
    (fill done items plans).cells =
      (List.range (fill done items plans).placed).flatMap (cellsOf items plans done) := by
  induction plans generalizing done items with
  | nil => rfl
  | cons p rest ih =>
      -- The first page takes the first positions; the other pages see the rest of them shifted.
      have hshare : (items.take (p.share items.length)).length = p.share items.length := by
        rw [List.length_take, PagePlan.share_eq_min]
        omega
      have hplaced := placed_fill (done + p.share items.length)
        (items.drop (p.share items.length)) rest
      have hfirst : p.rowsFrom 0 (done + 1) (items.take (p.share items.length)) =
          (List.range (p.share items.length)).flatMap (cellsOf items (p :: rest) done) := by
        rw [PagePlan.rowsFrom_eq_flatMap, hshare]
        refine List.flatMap_congr fun i hi => ?_
        exact (cellsOf_of_lt_share p rest items done (List.mem_range.1 hi)).symm
      simp only [fill, ih, hfirst, List.range_add, List.flatMap_append, List.flatMap_map]
      congr 1
      refine List.flatMap_congr fun i hi => ?_
      have hi' := List.mem_range.1 hi
      exact (cellsOf_share_add p rest items done (by omega)).symm

/-- The cells of item `i` as the item, its position and the plan that it falls to determine them. -/
def Seated (items : List LineItem) (plans : List PagePlan) (i : Nat) (cells : List PlacedCell) :
    Prop :=
  ∃ k p item, (PagePlan.FallsTo plans i k ∧ ∀ j, PagePlan.FallsTo plans i j → j = k) ∧
    plans[k]? = some p ∧ items[i]? = some item ∧
      p.Wrote (i - PagePlan.totalRoom (plans.take k)) (i + 1) item cells

theorem exists_cellsOf {items : List LineItem} {plans : List PagePlan} {i : Nat}
    (h : i < (ofItems items plans).placed) :
    ∃ k p item, PagePlan.FallsTo plans i k ∧ plans[k]? = some p ∧ items[i]? = some item ∧
      i - PagePlan.totalRoom (plans.take k) < p.room ∧
        cellsOf items plans 0 i =
          p.row (i - PagePlan.totalRoom (plans.take k)) (i + 1) item := by
  rw [ofItems, placed_fill] at h
  obtain ⟨hitem, hroom⟩ := Nat.lt_min.1 h
  obtain ⟨k, p, hp, hfalls, hoffset, hseat⟩ := PagePlan.exists_seat? hroom
  refine ⟨k, p, items[i], hfalls, hp, List.getElem?_eq_getElem hitem, hoffset, ?_⟩
  rw [cellsOf, List.getElem?_eq_getElem hitem, hseat, Nat.zero_add]
  simp

theorem seated_cellsOf {items : List LineItem} {plans : List PagePlan} {i : Nat}
    (h : i < (ofItems items plans).placed) :
    Seated items plans i (cellsOf items plans 0 i) := by
  obtain ⟨k, p, item, hfalls, hp, hitem, hoffset, hcells⟩ := exists_cellsOf h
  refine ⟨k, p, item, ⟨hfalls, fun j hj => hj.unique hfalls⟩, hp, hitem, ?_⟩
  rw [hcells]
  exact p.wrote_row (i + 1) item hoffset

/-- The index that item `i` writes, if the page that it falls to has an index column. -/
def index? (plans : List PagePlan) (i : Nat) : Option Nat :=
  (PagePlan.seat? plans i).bind fun seat =>
    if (seat.1.columns.cell? .index).isSome then some (i + 1) else none

theorem eq_of_index? {plans : List PagePlan} {i n : Nat} (h : index? plans i = some n) :
    n = i + 1 := by
  obtain ⟨seat, -, hseat⟩ := Option.bind_eq_some_iff.1 h
  split at hseat
  · exact (Option.some.inj hseat).symm
  · cases hseat

theorem indexes_cellsOf {items : List LineItem} (plans : List PagePlan) {i : Nat}
    (h : i < items.length) :
    ((cellsOf items plans 0 i).filter fun c => c.role = .index).map PlacedCell.value =
      ((index? plans i).map fun n : Nat => Value.integer n).toList := by
  rw [cellsOf, List.getElem?_eq_getElem h, index?, Option.toList_some, List.flatMap_singleton]
  cases PagePlan.seat? plans i with
  | none => rfl
  | some seat =>
      rw [Option.toList_some, List.flatMap_singleton, PagePlan.filter_row, Option.bind_some]
      split
      · rw [LineItem.value, Nat.zero_add]
        rfl
      · rfl

/-- The index column counts upwards over all pages. -/
theorem exists_indexes (items : List LineItem) (plans : List PagePlan) :
    ∃ indexes : List Nat, indexes.Pairwise (· < ·) ∧
      ((ofItems items plans).cells.filter fun c => c.role = .index).map PlacedCell.value =
        indexes.map fun n : Nat => Value.integer n := by
  refine ⟨(List.range (ofItems items plans).placed).filterMap (index? plans), ?_, ?_⟩
  · refine List.pairwise_lt_range.filterMap _ fun i j hij n hn m hm => ?_
    rw [eq_of_index? hn, eq_of_index? hm]
    exact Nat.succ_lt_succ hij
  · rw [ofItems, cells_fill, List.filter_flatMap, List.map_flatMap, List.map_filterMap,
      List.filterMap_eq_flatMap_toList]
    refine List.flatMap_congr fun i hi => ?_
    have hplaced := List.mem_range.1 hi
    rw [placed_fill] at hplaced
    exact indexes_cellsOf plans (by omega)

/-- How items are distributed over the pages of plans. -/
structure Distributes (items : List LineItem) (plans : List PagePlan) (out : Placement) :
    Prop where
  placed : out.placed = min items.length (PagePlan.totalRoom plans)
  overflow : out.overflow = items.length - out.placed
  /-- The cells are those of the placed items, item by item. -/
  cells : ∃ rows : List (List PlacedCell), out.cells = rows.flatten ∧
    List.Forall₂ (Seated items plans) (List.range out.placed) rows
  /-- The index column counts upwards over all pages. -/
  indexes : ∃ indexes : List Nat, indexes.Pairwise (· < ·) ∧
    (out.cells.filter fun c => c.role = .index).map PlacedCell.value =
      indexes.map fun n : Nat => Value.integer n

/-- Items go to the pages in order, as many to each as it has room for, and no others are left. -/
theorem ofItems_distributes (items : List LineItem) (plans : List PagePlan) :
    Distributes items plans (ofItems items plans) where
  placed := placed_fill 0 items plans
  overflow := overflow_fill 0 items plans
  cells := by
    refine ⟨(List.range (ofItems items plans).placed).map (cellsOf items plans 0), ?_, ?_⟩
    · rw [← List.flatMap_def]
      exact cells_fill 0 items plans
    · rw [List.forall₂_map_right_iff, List.forall₂_same]
      intro i hi
      exact seated_cellsOf (List.mem_range.1 hi)
  indexes := exists_indexes items plans

end Placement

end MarkedSheet
