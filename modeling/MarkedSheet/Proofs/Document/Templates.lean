import MarkedSheet.Document.Template
import MarkedSheet.Proofs.Grid.Contents
import MarkedSheet.Proofs.Template.TextCells
import MarkedSheet.Proofs.Toml.Documents
import MarkedSheet.Proofs.Toml.Records

/-!
# Templates that are loaded

The cells of a page stand in its document under texts of addresses, and several texts may stand for
one address.  Every entry is read, and of the entries for one address the last one is the cell of
the page.  All entries are kept exactly when no two of them stand for the same address.
-/

namespace MarkedSheet

open Toml

namespace Page

/-- The entries of the table of cells in the item of a page, which has its fields by name or by
place. -/
def cellEntries (item : Item) : Table :=
  let cells? : Option Item :=
    match item.entries? with
    | some fields => fields.lookup "cells"
    | none => item.items?.bind fun fields => fields[3]?
  (cells?.bind Item.entries?).getD []

/-- Every entry is a cell of its own: the page has as many cells as there are entries, and each
text stands at the address that its key stands for. -/
structure KeepsAll (p : Page) (entries : Table) : Prop where
  count : p.cells.entries.length = entries.length
  kept : ∀ e ∈ entries, ∃ a s, Address.parse e.1 = .ok a ∧ e.2 = .string s ∧ p.text? a = some s

/-- The cells of a page are those of the entries, of which the last one for an address counts. -/
structure IsLoadedFrom (p : Page) (entries : Table) : Prop where
  read : ∀ e ∈ entries, ∃ a s, Address.parse e.1 = .ok a ∧ e.2 = .string s
  text?_iff : ∀ a s, p.text? a = some s ↔ ∃ before key after,
    entries = before ++ (key, .string s) :: after ∧ Address.parse key = .ok a ∧
      ∀ e ∈ after, Address.parse e.1 ≠ .ok a
  keepsAll_iff : p.KeepsAll entries ↔
    entries.Pairwise fun e f => Address.parse e.1 ≠ Address.parse f.1

end Page

/-- The items of the pages of a document. -/
def Template.pageItems (document : Table) : List Item :=
  ((document.lookup "pages").bind Item.items?).getD []

namespace Page

/-- An entry with the address and the text that it stands for. -/
def EntryIs (e : String × Item) (content : Address × String) : Prop :=
  Address.parse e.1 = .ok content.1 ∧ e.2 = .string content.2

theorem entryIs_of_entry {e : String × Item} {content : Address × String}
    (h : Decoder.entry Decoder.addressOfText Decoder.string e = .ok content) :
    EntryIs e content := by
  obtain ⟨key, item⟩ := e
  simp only [Decoder.entry, Decoder.addressOfText] at h
  split at h
  · next a ha =>
      cases item with
      | string s =>
          cases h
          exact ⟨ha, rfl⟩
      | _ => cases h
  · cases h

section Contents

variable {entries : Table} {contents : List (Address × String)}

theorem get?_ofList_eq_none_iff (h : List.Forall₂ EntryIs entries contents) (a : Address) :
    (Cells.ofList contents).get? a = none ↔ ∀ e ∈ entries, Address.parse e.1 ≠ .ok a := by
  induction h with
  | nil => simp [Cells.ofList]
  | @cons e content entries contents he _ ih =>
      rw [Cells.get?_ofList_cons, Option.or_eq_none_iff, ih, List.forall_mem_cons, and_comm, he.1]
      simp

/-- The cell at an address has the text of the last entry for it. -/
theorem get?_ofList_eq_some_iff (h : List.Forall₂ EntryIs entries contents) (a : Address)
    (s : String) :
    (Cells.ofList contents).get? a = some s ↔ ∃ before key after,
      entries = before ++ (key, .string s) :: after ∧ Address.parse key = .ok a ∧
        ∀ e ∈ after, Address.parse e.1 ≠ .ok a := by
  induction h with
  | nil => simp [Cells.ofList]
  | @cons e content entries contents he hrest ih =>
      rw [Cells.get?_ofList_cons, Option.or_eq_some_iff]
      constructor
      · rintro (hlater | ⟨hnone, hhere⟩)
        · obtain ⟨before, key, after, rfl, hkey, hafter⟩ := ih.1 hlater
          exact ⟨e :: before, key, after, rfl, hkey, hafter⟩
        · split at hhere
          · next ha =>
              obtain rfl := Option.some.inj hhere
              refine ⟨[], e.1, entries, ?_, ha ▸ he.1, (get?_ofList_eq_none_iff hrest a).1 hnone⟩
              rw [← he.2, List.nil_append]
          · cases hhere
      · rintro ⟨before, key, after, heq, hkey, hafter⟩
        cases before with
        | nil =>
            obtain ⟨rfl, rfl⟩ := List.cons.inj heq
            have ha : content.1 = a := Except.ok.inj (he.1.symm.trans hkey)
            have hs : s = content.2 := Item.string.inj he.2
            exact .inr ⟨(get?_ofList_eq_none_iff hrest a).2 hafter, by rw [if_pos ha, hs]⟩
        | cons b before =>
            obtain ⟨-, rfl⟩ := List.cons.inj heq
            exact .inl (ih.2 ⟨before, key, after, rfl, hkey, hafter⟩)

theorem map_parse_eq (h : List.Forall₂ EntryIs entries contents) :
    entries.map (fun e => Address.parse e.1) = contents.map fun c => .ok c.1 := by
  induction h with
  | nil => rfl
  | cons he _ ih => rw [List.map_cons, List.map_cons, he.1, ih]

/-- Addresses are written to once exactly when keys stand for different ones. -/
theorem nodup_addresses_iff (h : List.Forall₂ EntryIs entries contents) :
    (contents.map (·.1)).Nodup ↔
      entries.Pairwise fun e f => Address.parse e.1 ≠ Address.parse f.1 := by
  have hinjective : Function.Injective (Except.ok : Address → Except InvalidAddress Address) :=
    fun _ _ => Except.ok.inj
  rw [← List.nodup_map_iff hinjective, List.map_map, ← List.pairwise_map, ← List.Nodup,
    map_parse_eq h]
  rfl

theorem exists_of_mem_entries (h : List.Forall₂ EntryIs entries contents) :
    ∀ e ∈ entries, ∃ a s, Address.parse e.1 = .ok a ∧ e.2 = .string s := by
  induction h with
  | nil => exact fun e he => absurd he List.not_mem_nil
  | @cons e content entries contents he _ ih =>
      exact List.forall_mem_cons.2 ⟨⟨content.1, content.2, he.1, he.2⟩, ih⟩

theorem isLoadedFrom_of_entries {p : Page} (h : List.Forall₂ EntryIs entries contents)
    (hcells : p.cells = Cells.ofList contents) : p.IsLoadedFrom entries := by
  have htext : ∀ a s, p.text? a = some s ↔ ∃ before key after,
      entries = before ++ (key, .string s) :: after ∧ Address.parse key = .ok a ∧
        ∀ e ∈ after, Address.parse e.1 ≠ .ok a := by
    intro a s
    rw [text?, hcells, get?_ofList_eq_some_iff h]
  have hcount : p.cells.entries.length = entries.length ↔
      entries.Pairwise fun e f => Address.parse e.1 ≠ Address.parse f.1 := by
    rw [hcells, h.length_eq, Cells.length_entries_ofList_eq_iff, nodup_addresses_iff h]
  refine ⟨exists_of_mem_entries h, htext, fun hkeeps => hcount.1 hkeeps.count, ?_⟩
  intro hdistinct
  refine ⟨hcount.2 hdistinct, fun e he => ?_⟩
  obtain ⟨a, s, ha, hs⟩ := exists_of_mem_entries h e he
  obtain ⟨before, after, rfl⟩ := List.mem_iff_append.1 he
  -- No entry after this one is for its address.
  have hafter := (List.pairwise_cons.1 (List.pairwise_append.1 hdistinct).2.1).1
  refine ⟨a, s, ha, hs, (htext a s).2 ⟨before, e.1, after, ?_, ha, fun f hf heq => ?_⟩⟩
  · rw [← hs]
  · exact hafter f hf (ha.trans heq.symm)

end Contents

/-- The last of the four fields of a page is its table of cells. -/
theorem cellEntries_eq (item : Item) :
    cellEntries item = ((record.field? item "cells").bind Item.entries?).getD [] := by
  rw [cellEntries, Record.field?]
  rfl

/-- Contents are read entry by entry. -/
theorem exists_of_cellsDecoder {item : Item} {cells : Cells String}
    (h : Cells.decoder Decoder.string item = .ok cells) :
    ∃ entries contents, item.entries? = some entries ∧ List.Forall₂ EntryIs entries contents ∧
      cells = Cells.ofList contents := by
  rw [Cells.decoder, Decoder.entries] at h
  split at h
  · next entries hentries =>
      cases hcontents : entries.mapM (Decoder.entry Decoder.addressOfText Decoder.string) with
      | error e =>
          rw [hcontents] at h
          cases h
      | ok contents =>
          rw [hcontents] at h
          refine ⟨entries, contents, hentries, ?_, (Except.ok.inj h).symm⟩
          exact (Decoder.forall₂_of_mapM_eq_ok hcontents).imp fun _ _ => entryIs_of_entry
  · cases h

theorem isLoadedFrom_of_decoder {item : Item} {p : Page}
    (h : record.lenient "Page" item = .ok p) : p.IsLoadedFrom (cellEntries item) := by
  obtain ⟨source, hgives, hsource⟩ := Record.exists_of_decoder_eq_ok h
  obtain ⟨withCols, cells, hcols, hcells, rfl⟩ := Record.exists_of_gives_seq hgives
  obtain ⟨withRows, cols, hrows, -, rfl⟩ := Record.exists_of_gives_seq hcols
  obtain ⟨withId, rows, hid, -, rfl⟩ := Record.exists_of_gives_seq hrows
  obtain ⟨id, -, rfl⟩ := Record.exists_of_gives_map hid
  rw [cellEntries_eq, ← hsource]
  rcases Record.exists_of_gives_withDefault hcells with ⟨table, htable, hdecode⟩ | ⟨hnone, rfl⟩
  · obtain ⟨entries, contents, hentries, hcontents, rfl⟩ := exists_of_cellsDecoder hdecode
    rw [htable, Option.bind_some, hentries, Option.getD_some]
    exact isLoadedFrom_of_entries hcontents rfl
  · rw [hnone]
    exact isLoadedFrom_of_entries .nil rfl

end Page

namespace Template

theorem forall₂_of_pagesDecoder {item : Item} {pages : List Page}
    (h : Decoder.list (Page.record.lenient "Page") item = .ok pages) :
    List.Forall₂ (fun item p => p.IsLoadedFrom (Page.cellEntries item))
      (item.items?.getD []) pages := by
  rw [Decoder.list] at h
  split at h
  · next items hitems =>
      rw [hitems, Option.getD_some]
      exact (Decoder.forall₂_of_mapM_eq_ok h).imp fun _ _ => Page.isLoadedFrom_of_decoder
  · cases h

theorem forall₂_of_decoder {document : Table} {t : Template}
    (h : record.lenient "Template" (.table document) = .ok t) :
    List.Forall₂ (fun item p => p.IsLoadedFrom (Page.cellEntries item)) (pageItems document)
      t.pages := by
  obtain ⟨source, hgives, hsource⟩ := Record.exists_of_decoder_eq_ok h
  obtain ⟨withId, pages, hid, hpages, rfl⟩ := Record.exists_of_gives_seq hgives
  obtain ⟨id, -, rfl⟩ := Record.exists_of_gives_map hid
  have hlookup : source.get? "pages" = document.lookup "pages" := hsource "pages"
  rcases Record.exists_of_gives_withDefault hpages with ⟨item, hitem, hdecode⟩ | ⟨hnone, rfl⟩
  · rw [pageItems, ← hlookup, hitem]
    exact forall₂_of_pagesDecoder hdecode
  · rw [pageItems, ← hlookup, hnone]
    exact .nil

/-- The pages of a document that is accepted are loaded one by one, and each of them keeps all its
entries exactly when no two of their keys stand for one address. -/
theorem ofToml_loaded {text : String} {t : Template} (h : ofToml text = .ok t) :
    ∃ document, read? text = some document ∧
      List.Forall₂ (fun item p => p.IsLoadedFrom (Page.cellEntries item)) (pageItems document)
        t.pages := by
  rw [ofToml, load] at h
  cases hread : read? text with
  | none =>
      rw [hread] at h
      cases h
  | some document =>
      cases hdecode : record.lenient "Template" (.table document) with
      | error e =>
          simp only [hread, hdecode] at h
          cases h
      | ok loaded =>
          simp only [hread, hdecode] at h
          cases hvalid : loaded.validate with
          | error e =>
              rw [hvalid] at h
              cases h
          | ok valid =>
              rw [hvalid] at h
              obtain rfl := Except.ok.inj h
              obtain rfl := eq_of_validate_eq_ok hvalid
              exact ⟨document, rfl, forall₂_of_decoder hdecode⟩

/-- A document with two keys for the first of its two cells. -/
def aliasText : String :=
  "id = \"t\"\n\n[[pages]]\nid = \"p\"\nrows = 1\ncols = 2\n\n" ++
    "[pages.cells]\nA1 = \"x\"\nb01 = \"y\"\na1 = \"z\"\n"

def aliasCells : Table :=
  [("A1", .string "x"), ("b01", .string "y"), ("a1", .string "z")]

def aliasPage : Table :=
  [("id", .string "p"), ("rows", .integer 1), ("cols", .integer 2), ("cells", .table aliasCells)]

def aliasTable : Table :=
  [("id", .string "t"), ("pages", .rows [aliasPage])]

def aliasTemplate : Template :=
  ⟨"t", [⟨"p", 1, 2, (Cells.empty.insert ⟨1, 1⟩ "z").insert ⟨1, 2⟩ "y"⟩]⟩

theorem printable_aliasTable : Printable 2 aliasTable := by
  have hcells : Printable 0 aliasCells :=
    printable_of_plain (by decide) (by decide) (by simp [aliasCells, Item.Plain.string])
  have hpage : Printable 1 aliasPage := {
    names := by decide
    bare := by decide
    parts := ⟨aliasPage.take 3, aliasPage.drop 3, rfl, by
      have hone := Item.Plain.natural (n := 1) (by decide)
      have htwo := Item.Plain.natural (n := 2) (by decide)
      simpa [aliasPage] using ⟨.string "p", hone, htwo⟩, by
      simpa [aliasPage] using .table hcells⟩ }
  exact {
    names := by decide
    bare := by decide
    parts := ⟨aliasTable.take 1, aliasTable.drop 1, rfl, by
      simp [aliasTable, Item.Plain.string], by
      simpa [aliasTable] using .rows (by simpa using hpage)⟩ }

theorem read?_aliasText : read? aliasText = some aliasTable := by
  have htext : aliasText = print aliasTable := rfl
  rw [htext]
  exact read?_print printable_aliasTable (by decide)

theorem ofToml_aliasText : ofToml aliasText = .ok aliasTemplate := by
  rw [ofToml, load, read?_aliasText]
  rfl

theorem aliasText_loaded :
    ofToml aliasText = .ok aliasTemplate ∧ ∃ document, read? aliasText = some document ∧
      List.Forall₂ (fun item p => p.IsLoadedFrom (Page.cellEntries item)) (pageItems document)
        aliasTemplate.pages :=
  ⟨ofToml_aliasText, ofToml_loaded ofToml_aliasText⟩

/-- Of two entries for one cell only the second is kept. -/
theorem aliasText_losesCell :
    ¬ ∀ text t, ofToml text = .ok t → ∃ document, read? text = some document ∧
      List.Forall₂ (fun item p => p.KeepsAll (Page.cellEntries item)) (pageItems document)
        t.pages := by
  intro hkeeps
  obtain ⟨document, hread, hpages⟩ := hkeeps aliasText aliasTemplate ofToml_aliasText
  rw [read?_aliasText] at hread
  obtain rfl := Option.some.inj hread
  obtain ⟨hpage, -⟩ := List.forall₂_cons.1 hpages
  exact absurd hpage.count (by decide)

end Template

end MarkedSheet
