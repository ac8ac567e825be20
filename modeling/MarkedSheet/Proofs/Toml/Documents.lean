import MarkedSheet.Proofs.Toml.Statements
import MarkedSheet.Toml.Decoder

/-!
# Documents read back

The statements of a written table fill an empty table at the end of their path, whatever stands
around it, so that a document is read as the table that was written.  The table around another one
grows only at its end, where the path leads.
-/

namespace MarkedSheet.Toml

section Branches

variable {b : Branch} {k : String}

theorem branchItems_append (b c : Branch) : branchItems (b ++ c) = branchItems b ++ branchItems c := by
  induction b with
  | nil => rfl
  | cons e b ih => simp [branchItems, ih]

theorem rowItems_append (rows : List Branch) (b : Branch) :
    rowItems (rows ++ [b]) = rowItems rows ++ [branchItems b] := by
  induction rows with
  | nil => rfl
  | cons r rows ih => simp [rowItems, ih]

theorem lookup_eq_none (hk : k ∉ b.map (·.1)) : b.lookup k = none := by
  rw [List.lookup_eq_none_iff]
  intro e he
  rw [bne_iff_ne]
  rintro rfl
  exact hk (List.mem_map_of_mem he)

namespace Branch

theorem alter?_append (hk : k ∉ b.map (·.1)) (f : Option Node → Option Node) (c : Branch) :
    alter? k f (b ++ c) = (alter? k f c).map (b ++ ·) := by
  induction b with
  | nil => simp
  | cons e b ih =>
      rw [List.map_cons, List.mem_cons, not_or] at hk
      rw [List.cons_append, alter?, if_neg (Ne.symm hk.1), ih hk.2, Option.map_map]
      rfl

theorem alter?_last (hk : k ∉ b.map (·.1)) (f : Option Node → Option Node) (n : Node) :
    alter? k f (b ++ [(k, n)]) = (f (some n)).map fun m => b ++ [(k, m)] := by
  rw [alter?_append hk, alter?, if_pos rfl, Option.map_map]
  rfl

theorem alter?_new (hk : k ∉ b.map (·.1)) (f : Option Node → Option Node) :
    alter? k f b = (f none).map fun m => b ++ [(k, m)] := by
  have h := alter?_append hk f []
  rw [List.append_nil] at h
  rw [h, alter?, Option.map_map]
  rfl

theorem descend?_append (f : Branch → Option Branch) (p q : List String) :
    descend? f (p ++ q) = descend? (descend? f q) p := by
  induction p with
  | nil => rfl
  | cons name p ih =>
      funext b
      rw [List.cons_append, descend?, descend?, ih]

end Branch

end Branches

/-- A path leads to a table: what is done at the end of the path is done to that table, and `put`
puts it back. -/
def IsFocus (path : List String) (put : Branch → Branch) : Prop :=
  ∀ f b, Branch.descend? f path (put b) = (f b).map put

namespace IsFocus

variable {path : List String} {put : Branch → Branch} {b : Branch} {k : String}

theorem root : IsFocus [] id := by
  intro f b
  simp [Branch.descend?]

theorem table (h : IsFocus path put) (hk : k ∉ b.map (·.1)) :
    IsFocus (path ++ [k]) fun entries => put (b ++ [(k, .table .header entries)]) := by
  intro f entries
  rw [Branch.descend?_append, h, Branch.descend?, Branch.alter?_last hk]
  simp [Branch.descend?, Function.comp_def]

theorem row (h : IsFocus path put) (hk : k ∉ b.map (·.1)) (earlier : List Branch) :
    IsFocus (path ++ [k]) fun entries => put (b ++ [(k, .rows earlier entries)]) := by
  intro f entries
  rw [Branch.descend?_append, h, Branch.descend?, Branch.alter?_last hk]
  simp [Branch.descend?, Function.comp_def]

/-! What one statement does to the table that a path leads to. -/

theorem add?_assign (h : IsFocus path put) (hk : k ∉ b.map (·.1)) (i : Item) :
    Draft.add? ⟨put b, path⟩ (.assign [k] i) = some ⟨put (b ++ [(k, .closed i)]), path⟩ := by
  rw [Draft.add?, h, Branch.assign?, lookup_eq_none hk]
  rfl

theorem add?_table (h : IsFocus path put) (hk : k ∉ b.map (·.1)) (header : List String) :
    Draft.add? ⟨put b, header⟩ (.table (path ++ [k])) =
      some ⟨put (b ++ [(k, .table .header [])]), path ++ [k]⟩ := by
  simp only [Draft.add?, List.getLast?_append, List.getLast?_singleton, Option.some_or,
    List.dropLast_concat]
  rw [h, Branch.openTable?, lookup_eq_none hk]
  rfl

theorem add?_firstRow (h : IsFocus path put) (hk : k ∉ b.map (·.1)) (header : List String) :
    Draft.add? ⟨put b, header⟩ (.row (path ++ [k])) =
      some ⟨put (b ++ [(k, .rows [] [])]), path ++ [k]⟩ := by
  simp only [Draft.add?, List.getLast?_append, List.getLast?_singleton, Option.some_or,
    List.dropLast_concat]
  rw [h, Branch.openRow?, Branch.alter?_new hk]
  rfl

theorem add?_nextRow (h : IsFocus path put) (hk : k ∉ b.map (·.1)) (header : List String)
    (earlier : List Branch) (current : Branch) :
    Draft.add? ⟨put (b ++ [(k, .rows earlier current)]), header⟩ (.row (path ++ [k])) =
      some ⟨put (b ++ [(k, .rows (earlier ++ [current]) [])]), path ++ [k]⟩ := by
  simp only [Draft.add?, List.getLast?_append, List.getLast?_singleton, Option.some_or,
    List.dropLast_concat]
  rw [h, Branch.openRow?, Branch.alter?_last hk]
  rfl

end IsFocus

section Filling

variable {path : List String} {put : Branch → Branch} {t : Table}

/-- The statements of a table fill the empty table at the end of their path with its items. -/
def Fills (path : List String) (t : Table) : Prop :=
  ∀ put, IsFocus path put → ∃ b header,
    (assignments t ++ sectionStatements path t).foldlM Draft.add? ⟨put [], path⟩ =
      some ⟨put b, header⟩ ∧ branchItems b = t

/-- Values as closed parts of a table. -/
def closedEntries (t : Table) : Branch :=
  t.map fun e => (e.1, .closed e.2)

theorem branchItems_closedEntries (t : Table) : branchItems (closedEntries t) = t := by
  induction t with
  | nil => rfl
  | cons e t ih =>
      rw [closedEntries, List.map_cons, branchItems, ← closedEntries, ih]
      rfl

theorem not_mem_of_nodup {b : Branch} {e : String × Item}
    (hnames : (b.map (·.1) ++ (e :: t).map (·.1)).Nodup) : e.1 ∉ b.map (·.1) := by
  rw [List.nodup_append] at hnames
  intro hmem
  exact hnames.2.2 _ hmem e.1 List.mem_cons_self rfl

/-- Values are added one after the other. -/
theorem foldlM_assignments (hput : IsFocus path put) (b : Branch)
    (hnames : (b.map (·.1) ++ t.map (·.1)).Nodup) :
    (t.map fun e => Statement.assign [e.1] e.2).foldlM Draft.add? ⟨put b, path⟩ =
      some ⟨put (b ++ closedEntries t), path⟩ := by
  induction t generalizing b with
  | nil => simp [closedEntries]
  | cons e t ih =>
      have hk := not_mem_of_nodup hnames
      have hnext := ih (b ++ [(e.1, .closed e.2)]) (by simpa using hnames)
      rw [List.map_cons, List.foldlM_cons, hput.add?_assign hk]
      simpa [closedEntries] using hnext

/-- The rows of a list are added to those before them. -/
theorem foldlM_rowStatements {k : String} {b : Branch} (hput : IsFocus path put)
    (hk : k ∉ b.map (·.1)) {rows : List Table} (hrows : ∀ t ∈ rows, Fills (path ++ [k]) t)
    (earlier : List Branch) (current : Branch) (header : List String) :
    ∃ before last header',
      (rowStatements (path ++ [k]) rows).foldlM Draft.add?
          ⟨put (b ++ [(k, .rows earlier current)]), header⟩ =
        some ⟨put (b ++ [(k, .rows before last)]), header'⟩ ∧
      rowItems (before ++ [last]) = rowItems (earlier ++ [current]) ++ rows := by
  induction rows generalizing earlier current header with
  | nil => exact ⟨earlier, current, header, rfl, by simp⟩
  | cons t rows ih =>
      rw [List.forall_mem_cons] at hrows
      obtain ⟨c, next, hfill, hitems⟩ := hrows.1 _ (hput.row hk (earlier ++ [current]))
      obtain ⟨before, last, header', hrun, hread⟩ := ih hrows.2 (earlier ++ [current]) c next
      refine ⟨before, last, header', ?_, ?_⟩
      · rw [rowStatements, List.cons_append, List.foldlM_cons, hput.add?_nextRow hk]
        simp only [Option.bind_eq_bind, Option.bind_some]
        rw [List.foldlM_append, hfill]
        exact hrun
      · rw [hread, rowItems_append, hitems]
        simp

/-- An item under headers of its own is added at the end. -/
theorem foldlM_itemStatements {P : Table → Prop} {k : String} {b : Branch} {i : Item}
    (hi : i.Headed P) (hP : ∀ t, P t → Fills (path ++ [k]) t) (hput : IsFocus path put)
    (hk : k ∉ b.map (·.1)) (header : List String) :
    ∃ node header',
      (itemStatements (path ++ [k]) i).foldlM Draft.add? ⟨put b, header⟩ =
        some ⟨put (b ++ [(k, node)]), header'⟩ ∧ node.item = i := by
  cases hi with
  | @table entries h =>
      obtain ⟨c, header', hfill, hitems⟩ := hP entries h _ (hput.table hk)
      refine ⟨.table .header c, header', ?_, by rw [Node.item, hitems]⟩
      rw [itemStatements, List.foldlM_cons, hput.add?_table hk]
      exact hfill
  | @rows first rest h =>
      rw [List.forall_mem_cons] at h
      obtain ⟨c, next, hfill, hitems⟩ := hP first h.1 _ (hput.row hk [])
      obtain ⟨before, last, header', hrun, hread⟩ :=
        foldlM_rowStatements hput hk (fun t ht => hP t (h.2 t ht)) [] c next
      refine ⟨.rows before last, header', ?_, ?_⟩
      · rw [itemStatements, rowStatements, List.cons_append, List.foldlM_cons, hput.add?_firstRow hk]
        simp only [Option.bind_eq_bind, Option.bind_some]
        rw [List.foldlM_append, hfill]
        exact hrun
      · rw [Node.item, ← rowItems_append, hread]
        simp [rowItems, hitems]

theorem foldlM_sectionStatements {P : Table → Prop} (hheaded : ∀ e ∈ t, e.2.Headed P)
    (hP : ∀ e ∈ t, ∀ s, P s → Fills (path ++ [e.1]) s) (hput : IsFocus path put) (b : Branch)
    (hnames : (b.map (·.1) ++ t.map (·.1)).Nodup) (header : List String) :
    ∃ c header', (sectionStatements path t).foldlM Draft.add? ⟨put b, header⟩ =
      some ⟨put (b ++ c), header'⟩ ∧ branchItems c = t := by
  induction t generalizing b header with
  | nil => exact ⟨[], header, by simp [sectionStatements], rfl⟩
  | cons e t ih =>
      rw [List.forall_mem_cons] at hheaded hP
      have hk := not_mem_of_nodup hnames
      obtain ⟨node, next, hitem, hnode⟩ := foldlM_itemStatements hheaded.1 hP.1 hput hk header
      obtain ⟨c, header', hrun, hitems⟩ :=
        ih hheaded.2 hP.2 (b ++ [(e.1, node)]) (by simpa using hnames) next
      refine ⟨(e.1, node) :: c, header', ?_, ?_⟩
      · rw [sectionStatements, List.foldlM_append, hitem]
        simp only [Option.bind_eq_bind, Option.bind_some]
        simpa using hrun
      · rw [branchItems, hnode, hitems]

section Parts

variable {P : Table → Prop} {plain headed : Table} (hplain : ∀ e ∈ plain, e.2.Plain)
include hplain

theorem assignments_parts (hheaded : ∀ e ∈ headed, e.2.Headed P) :
    assignments (plain ++ headed) = plain.map fun e => .assign [e.1] e.2 := by
  have hkeep : plain.filter (fun e => !e.2.hasHeader) = plain :=
    List.filter_eq_self.2 fun e he => by simp [(hplain e he).hasHeader]
  have hleave : headed.filter (fun e => !e.2.hasHeader) = [] :=
    List.filter_eq_nil_iff.2 fun e he => by simp [(hheaded e he).hasHeader]
  rw [assignments, List.filter_append, hkeep, hleave, List.append_nil]

theorem sectionStatements_parts :
    sectionStatements path (plain ++ headed) = sectionStatements path headed := by
  have hnone : plain.flatMap (fun e => itemStatements (path ++ [e.1]) e.2) = [] :=
    List.flatMap_eq_nil_iff.2 fun e he => (hplain e he).itemStatements
  rw [sectionStatements_eq_flatMap, List.flatMap_append, hnone, List.nil_append,
    ← sectionStatements_eq_flatMap]

end Parts

theorem Ordered.fills {P : Table → Prop} (h : Ordered P t)
    (hP : ∀ k s, P s → Fills (path ++ [k]) s) : Fills path t := by
  intro put hput
  have hnames := h.names
  obtain ⟨plain, headed, rfl, hplain, hheaded⟩ := h.parts
  have hvalues := foldlM_assignments (t := plain) hput [] (by
    rw [List.map_append] at hnames
    exact (List.nodup_append.1 hnames).1)
  obtain ⟨c, header, hrun, hitems⟩ := foldlM_sectionStatements hheaded (fun e _ => hP e.1) hput
    (closedEntries plain) (by simpa [closedEntries, Function.comp_def] using hnames) path
  refine ⟨closedEntries plain ++ c, header, ?_, ?_⟩
  · rw [assignments_parts hplain hheaded, sectionStatements_parts hplain, List.foldlM_append, hvalues]
    exact hrun
  · rw [branchItems_append, branchItems_closedEntries, hitems]

/-- The statements of a table fill it, at every depth. -/
theorem Printable.fills {depth : Nat} (h : Printable depth t) : Fills path t := by
  induction depth generalizing path t with
  | zero => exact Ordered.fills h fun k s hs => hs.elim
  | succ depth ih => exact Ordered.fills h fun k s hs => ih hs

end Filling

/-- A document is read as the table that was written. -/
theorem read?_print {depth : Nat} {t : Table} (h : Printable depth t)
    (hdepth : depth + 1 < levelLimit) : read? (print t) = some t := by
  have hreads : ReadsUnder [] t := h.readsUnder (by simp) (by simpa using hdepth)
  have hfills : Fills [] t := h.fills
  obtain ⟨b, header, hfill, hitems⟩ := hfills id IsFocus.root
  have hrun : (assignments t ++ sectionStatements [] t).foldlM Draft.add? ⟨[], []⟩ =
      some ⟨b, header⟩ := hfill
  rw [print, read?, String.toList_ofList]
  simp only [hreads.start, hreads.statements?_eq, Option.bind_some, assemble?]
  rw [hrun, Option.map_some, hitems]

/-- A written document is taken as what its table is taken as. -/
theorem load_print {α : Type} {d : Decoder α} {a : α} {depth : Nat} {t : Table}
    (h : Printable depth t) (hdepth : depth + 1 < levelLimit) (hd : d (.table t) = .ok a) :
    load d (print t) = .ok a := by
  rw [load, read?_print h hdepth]
  simp only [hd]

end MarkedSheet.Toml
