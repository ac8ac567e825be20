import MarkedSheet.Document.FieldMap
import MarkedSheet.Proofs.Address.Text
import MarkedSheet.Proofs.Compilation.Scanning
import MarkedSheet.Proofs.Compilation.TableMarks
import MarkedSheet.Proofs.Toml.Documents
import MarkedSheet.Proofs.Toml.Records
import MarkedSheet.Registry.Standard

/-!
# Field maps read back

A stored field map is read back as it was written: fields in order with what is absent in them, and
the issues.  All that is asked of it is that its addresses count from 1 and that its positions are
numbers a document can hold, which the field maps of templates are.
-/

namespace MarkedSheet

open Toml

/-- An address whose text names it again. -/
def Address.IsCounted (a : Address) : Prop :=
  1 ≤ a.row ∧ 1 ≤ a.col

instance (a : Address) : Decidable a.IsCounted :=
  inferInstanceAs (Decidable (_ ∧ _))

/-- A field map that a document can hold: no address has a row or a column 0, and positions have 63
bits. -/
structure FieldMap.Storable (m : FieldMap) : Prop where
  cells : ∀ d ∈ m.descriptors, d.cell.IsCounted
  spans : ∀ d ∈ m.descriptors, d.span.start < 2 ^ 63 ∧ d.span.stop < 2 ^ 63
  issues : ∀ i ∈ m.issues, ∀ a ∈ i.cell?, a.IsCounted

section Entries

variable {α : Type} (name : String) (encode : α → Item) (a? : Option α)

@[simp]
theorem lookup_optionalEntry (k : String) :
    (optionalEntry name encode a?).lookup k = if k = name then a?.map encode else none := by
  cases a? with
  | none => simp [optionalEntry]
  | some a => by_cases h : k = name <;> simp [optionalEntry, h]

theorem names_optionalEntry_sublist :
    ((optionalEntry name encode a?).map (·.1)).Sublist [name] := by
  cases a? with
  | none => exact List.nil_sublist _
  | some a => exact List.Sublist.refl _

theorem plain_optionalEntry (h : ∀ a, (encode a).Plain) :
    ∀ e ∈ optionalEntry name encode a?, e.2.Plain := by
  cases a? with
  | none => exact fun e he => absurd he List.not_mem_nil
  | some a => simpa [optionalEntry] using h a

end Entries

theorem ne_zero_of_one_le {n : UInt32} (h : 1 ≤ n) : n ≠ 0 := by
  rintro rfl
  exact absurd h (by decide)

theorem address_text {a : Address} (h : a.IsCounted) :
    Decoder.address (.string a.text) = .ok a := by
  have hparse := Address.parse_text (ne_zero_of_one_le h.1) (ne_zero_of_one_le h.2)
  simp only [Decoder.address, Decoder.string_string, Except.bind, Decoder.addressOfText, hparse]

namespace Span

theorem sound_record : record.Sound :=
  (Record.sound_required _ _).map _
    |>.seq (Record.sound_required _ _)

theorem decoder_table {s : Span} (hstart : s.start < 2 ^ 63) (hstop : s.stop < 2 ^ 63) :
    decoder (.table s.table) = .ok s := by
  have hsize : 2 ^ 63 < UInt64.size := by decide
  refine Record.decoder_table sound_record true _ _ (by decide) (List.Sublist.refl _) ?_
  exact (Record.gives_required rfl (Decoder.natural_integer _ (by omega))).map _
    |>.seq (Record.gives_required rfl (Decoder.natural_integer _ (by omega)))

end Span

theorem variant_category (c : Category) :
    Decoder.variant Category.all Category.word (.string c.word) = .ok c :=
  Decoder.variant_string (by cases c <;> decide) (by cases c <;> decide)

theorem variant_fieldKind (k : FieldKind) :
    Decoder.variant FieldKind.all FieldKind.word (.string k.word) = .ok k :=
  Decoder.variant_string (by cases k <;> decide) (by cases k <;> decide)

theorem variant_role (r : Role) : Decoder.variant Role.all Role.word (.string r.word) = .ok r :=
  Decoder.variant_string (by cases r <;> decide) (by cases r <;> decide)

theorem variant_control (c : Control) :
    Decoder.variant Control.all Control.word (.string c.word) = .ok c :=
  Decoder.variant_string (by cases c; decide) (by cases c; decide)

theorem variant_fieldType (f : FieldType) :
    Decoder.variant FieldType.all FieldType.word (.string f.word) = .ok f :=
  Decoder.variant_string (by cases f <;> decide) (by cases f <;> decide)

namespace Diagnostic

theorem sound_record : record.Sound :=
  (Record.sound_required _ _).map _
    |>.seq (Record.sound_required _ _)
    |>.seq (Record.sound_withDefault _ _ _)
    |>.seq (Record.sound_withDefault _ _ _)

variable {d : Diagnostic}

theorem gives_record (h : ∀ a ∈ d.cell?, a.IsCounted) :
    record.Gives (Record.sourceOf d.table) d := by
  refine (Record.gives_required ?_ (variant_category d.category)).map _
    |>.seq (Record.gives_required ?_ (Decoder.string_string d.message))
    |>.seq (Record.gives_optional ?_ fun page _ => Decoder.string_string page)
    |>.seq (Record.gives_optional ?_ fun a ha => address_text (h a ha))
  all_goals simp [table, List.lookup_cons, List.lookup_append]

theorem names_sublist (d : Diagnostic) : (d.table.map (·.1)).Sublist record.names := by
  simp only [table, List.map_append]
  exact (List.Sublist.append (List.Sublist.append (List.Sublist.refl _)
    (names_optionalEntry_sublist _ _ _)) (names_optionalEntry_sublist _ _ _))

/-- An issue is read back from its table. -/
theorem decoder_table (h : ∀ a ∈ d.cell?, a.IsCounted) (name : String) :
    record.lenient name (.table d.table) = .ok d :=
  Record.decoder_table sound_record false _ _ (by decide) (names_sublist d) (gives_record h)

theorem printable (d : Diagnostic) : Printable 1 d.table := by
  have hbare : ∀ k ∈ record.names, IsBare k := by decide
  refine printable_of_plain ((names_sublist d).nodup (by decide))
    (fun k hk => hbare k ((names_sublist d).subset hk)) ?_
  have hpage := plain_optionalEntry "page_id" Item.string d.page? Item.Plain.string
  have hcell := plain_optionalEntry "cell" (fun a => Item.string a.text) d.cell?
    fun a => Item.Plain.string a.text
  simp only [table, List.forall_mem_append]
  exact ⟨⟨by simp [Item.Plain.string], hpage⟩, hcell⟩

end Diagnostic

namespace Span

theorem printable {s : Span} (hstart : s.start < 2 ^ 63) (hstop : s.stop < 2 ^ 63) :
    Printable 0 s.table := by
  have hnames : ["start", "end"].Nodup ∧ ∀ k ∈ ["start", "end"], IsBare k := by decide
  refine printable_of_plain hnames.1 hnames.2 ?_
  simpa [table] using And.intro (Item.Plain.natural hstart) (Item.Plain.natural hstop)

end Span

namespace Descriptor

theorem sound_record : record.Sound :=
  (Record.sound_required _ _).map _
    |>.seq (Record.sound_required _ _)
    |>.seq (Record.sound_required _ _)
    |>.seq (Record.sound_required _ _)
    |>.seq (Record.sound_required _ _)
    |>.seq (Record.sound_withDefault _ _ _)
    |>.seq (Record.sound_withDefault _ _ _)
    |>.seq (Record.sound_required _ _)
    |>.seq (Record.sound_required _ _)
    |>.seq (Record.sound_withDefault _ _ _)
    |>.seq (Record.sound_withDefault _ _ _)
    |>.seq (Record.sound_withDefault _ _ _)
    |>.seq (Record.sound_withDefault _ _ _)
    |>.seq (Record.sound_required _ _)
    |>.seq (Record.sound_required _ _)

variable {d : Descriptor}

theorem gives_record (hcell : d.cell.IsCounted) (hstart : d.span.start < 2 ^ 63)
    (hstop : d.span.stop < 2 ^ 63) : record.Gives (Record.sourceOf d.table) d := by
  refine (Record.gives_required ?_ (Decoder.string_string d.page)).map _
    |>.seq (Record.gives_required ?_ (address_text hcell))
    |>.seq (Record.gives_required ?_ (variant_fieldKind d.kind))
    |>.seq (Record.gives_required ?_ (Decoder.string_string d.canonicalName))
    |>.seq (Record.gives_required ?_ (Decoder.string_string d.displayName))
    |>.seq (Record.gives_optional ?_ fun s _ => Decoder.string_string s)
    |>.seq (Record.gives_optional ?_ fun s _ => Decoder.string_string s)
    |>.seq (Record.gives_required ?_ (Decoder.boolean_boolean d.required))
    |>.seq (Record.gives_required ?_ (Decoder.boolean_boolean d.editable))
    |>.seq (Record.gives_optional ?_ fun r _ => variant_role r)
    |>.seq (Record.gives_optional ?_ fun c _ => variant_control c)
    |>.seq (Record.gives_withDefault _ ?_ (variant_fieldType d.fieldType))
    |>.seq (Record.gives_optional ?_ fun s _ => Decoder.string_string s)
    |>.seq (Record.gives_required ?_ (Decoder.string_string d.cellText))
    |>.seq (Record.gives_required ?_ (Span.decoder_table hstart hstop))
  -- What remains is to look each name up among the entries.
  all_goals simp [table, List.lookup_cons, List.lookup_append]

theorem names_sublist (d : Descriptor) : (d.table.map (·.1)).Sublist record.names := by
  simp only [table, List.map_append]
  have hfixed (names : List String) : names.Sublist names := List.Sublist.refl names
  exact (hfixed ["page_id", "cell", "kind", "canonical_name", "display_name"])
    |>.append (names_optionalEntry_sublist "default_value" _ _)
    |>.append (names_optionalEntry_sublist "placeholder" _ _)
    |>.append (hfixed ["required", "editable"])
    |>.append (names_optionalEntry_sublist "column_role" _ _)
    |>.append (names_optionalEntry_sublist "control" _ _)
    |>.append (hfixed ["field_type"])
    |>.append (names_optionalEntry_sublist "registry_code" _ _)
    |>.append (hfixed ["original_cell_text", "source_span"])

theorem nodup_names : record.names.Nodup := by
  decide

theorem bare_names : ∀ k ∈ record.names, IsBare k := by
  decide

/-- A field is read back from its table. -/
theorem decoder_table (hcell : d.cell.IsCounted) (hstart : d.span.start < 2 ^ 63)
    (hstop : d.span.stop < 2 ^ 63) (name : String) :
    record.lenient name (.table d.table) = .ok d :=
  Record.decoder_table sound_record false _ _ nodup_names (names_sublist d)
    (gives_record hcell hstart hstop)

/-- The entries of a field before its span. -/
def plainEntries (d : Descriptor) : Table :=
  [("page_id", .string d.page), ("cell", .string d.cell.text), ("kind", .string d.kind.word),
      ("canonical_name", .string d.canonicalName), ("display_name", .string d.displayName)] ++
    optionalEntry "default_value" Item.string d.default? ++
    optionalEntry "placeholder" Item.string d.hint? ++
    [("required", .boolean d.required), ("editable", .boolean d.editable)] ++
    optionalEntry "column_role" (fun r => Item.string r.word) d.role? ++
    optionalEntry "control" (fun c => Item.string c.word) d.control? ++
    [("field_type", .string d.fieldType.word)] ++
    optionalEntry "registry_code" Item.string d.code? ++
    [("original_cell_text", .string d.cellText)]

theorem table_eq (d : Descriptor) :
    d.table = d.plainEntries ++ [("source_span", .table d.span.table)] := by
  simp [table, plainEntries]

theorem plain_plainEntries (d : Descriptor) : ∀ e ∈ d.plainEntries, e.2.Plain := by
  have hstring (k s : String) : ∀ e ∈ [(k, Item.string s)], e.2.Plain := by
    simpa using Item.Plain.string s
  simp only [plainEntries, List.forall_mem_append]
  refine ⟨⟨⟨⟨⟨⟨⟨⟨?_, ?_⟩, ?_⟩, ?_⟩, ?_⟩, ?_⟩, hstring _ _⟩, ?_⟩, hstring _ _⟩
  · simp [Item.Plain.string]
  · exact plain_optionalEntry _ _ _ Item.Plain.string
  · exact plain_optionalEntry _ _ _ Item.Plain.string
  · simp [Item.Plain.boolean]
  · exact plain_optionalEntry _ _ _ fun r => Item.Plain.string r.word
  · exact plain_optionalEntry _ _ _ fun c => Item.Plain.string c.word
  · exact plain_optionalEntry _ _ _ Item.Plain.string

theorem printable (hstart : d.span.start < 2 ^ 63) (hstop : d.span.stop < 2 ^ 63) :
    Printable 1 d.table where
  names := (names_sublist d).nodup nodup_names
  bare := fun e he => bare_names e.1 ((names_sublist d).subset (List.mem_map_of_mem he))
  parts := by
    have hspan : (Item.table d.span.table).Headed (Printable 0) :=
      .table (Span.printable hstart hstop)
    exact ⟨d.plainEntries, [("source_span", .table d.span.table)], table_eq d,
      plain_plainEntries d, by simpa using hspan⟩

end Descriptor

namespace FieldMap

/-- Tables as they are read back: an empty list is read as one that is written as a value. -/
def rowsItem (tables : List Table) : Item :=
  if tables.isEmpty then .array [] else .rows tables

/-- The table that is read back. -/
def readTable (m : FieldMap) : Table :=
  [("template_id", .string m.template),
      ("descriptors", rowsItem (m.descriptors.map Descriptor.table))] ++
    if m.issues.isEmpty then [] else [("issues", .rows (m.issues.map Diagnostic.table))]

theorem print_table (m : FieldMap) : print m.table = print m.readTable := by
  cases hd : m.descriptors with
  | nil =>
      -- Both empty lists are written as a value between brackets, and neither has a header.
      cases hi : m.issues <;>
        simp [table, readTable, rowsItem, hd, hi, print, plainLines, Item.hasHeader, inlineChars,
          inlineItems, inlineTables, sections, sectionOf, rowSections]
  | cons d ds => simp [table, readTable, rowsItem, hd]

theorem list_rowsItem {α : Type} {d : Decoder α} {encode : α → Table} {l : List α}
    (h : ∀ a ∈ l, d (.table (encode a)) = .ok a) :
    Decoder.list d (rowsItem (l.map encode)) = .ok l := by
  cases l with
  | nil => rfl
  | cons a l => exact Decoder.list_rows h

theorem sound_record : record.Sound :=
  (Record.sound_required _ _).map _
    |>.seq (Record.sound_withDefault _ _ _)
    |>.seq (Record.sound_withDefault _ _ _)

variable {m : FieldMap}

theorem gives_record (h : m.Storable) : record.Gives (Record.sourceOf m.readTable) m := by
  have hdescriptors : Decoder.list (Descriptor.record.lenient "FieldDescriptor")
      (rowsItem (m.descriptors.map Descriptor.table)) = .ok m.descriptors :=
    list_rowsItem fun d hd =>
      Descriptor.decoder_table (h.cells d hd) (h.spans d hd).1 (h.spans d hd).2 _
  have hissues : Decoder.list (Diagnostic.record.lenient "Diagnostic")
      (.rows (m.issues.map Diagnostic.table)) = .ok m.issues :=
    Decoder.list_rows fun i hi => Diagnostic.decoder_table (h.issues i hi) _
  have hid : m.readTable.lookup "template_id" = some (.string m.template) := rfl
  have hfirst : m.readTable.lookup "descriptors" =
      some (rowsItem (m.descriptors.map Descriptor.table)) := rfl
  have hfields := (Record.gives_required hid (Decoder.string_string m.template)).map FieldMap.mk
    |>.seq (Record.gives_withDefault [] hfirst hdescriptors)
  by_cases hempty : m.issues = []
  · have hlast : m.readTable.lookup "issues" = none := by
      simp [readTable, hempty, List.lookup_cons]
    have hmap := hfields.seq (Record.gives_default
      (Decoder.list (Diagnostic.record.lenient "Diagnostic")) [] hlast)
    have hsame : FieldMap.mk m.template m.descriptors [] = m := by rw [← hempty]
    rw [hsame] at hmap
    exact hmap
  · have hlast : m.readTable.lookup "issues" =
        some (.rows (m.issues.map Diagnostic.table)) := by
      simp [readTable, hempty, List.lookup_cons]
    exact hfields.seq (Record.gives_withDefault [] hlast hissues)

theorem names_sublist (m : FieldMap) : (m.readTable.map (·.1)).Sublist record.names := by
  have hfixed : ["template_id", "descriptors"].Sublist ["template_id", "descriptors"] :=
    List.Sublist.refl _
  rw [readTable, List.map_append]
  refine hfixed.append ?_
  split
  · exact List.nil_sublist _
  · exact List.Sublist.refl _

/-- Every table of a stored field map is written before the tables in it. -/
theorem printable (h : m.Storable) : Printable 2 m.readTable where
  names := (names_sublist m).nodup (by decide)
  bare := by
    have hbare : ∀ k ∈ record.names, IsBare k := by decide
    exact fun e he => hbare e.1 ((names_sublist m).subset (List.mem_map_of_mem he))
  parts := by
    have hissues : ∀ e ∈ (if m.issues.isEmpty then []
        else [("issues", Item.rows (m.issues.map Diagnostic.table))] : Table),
        e.2.Headed (Printable 1) := by
      split
      · exact fun e he => absurd he List.not_mem_nil
      · next hne =>
          have hrows : (Item.rows (m.issues.map Diagnostic.table)).Headed (Printable 1) :=
            headed_rows (by simpa using hne) (by simpa using fun i _ => Diagnostic.printable i)
          simpa using hrows
    by_cases hempty : m.descriptors = []
    · refine ⟨[("template_id", .string m.template), ("descriptors", .array [])], _, ?_, ?_, hissues⟩
      · simp [readTable, rowsItem, hempty]
      · simpa using ⟨Item.Plain.string m.template, Item.Plain.strings []⟩
    · have hrows : (Item.rows (m.descriptors.map Descriptor.table)).Headed (Printable 1) :=
        headed_rows (by simpa using hempty) (by
          simpa using fun d hd => Descriptor.printable (h.spans d hd).1 (h.spans d hd).2)
      refine ⟨[("template_id", .string m.template)],
        ("descriptors", .rows (m.descriptors.map Descriptor.table)) :: _, ?_, ?_,
        List.forall_mem_cons.2 ⟨hrows, hissues⟩⟩
      · simp [readTable, rowsItem, hempty]
      · simp [Item.Plain.string]

/-- A stored field map is read back. -/
theorem ofToml_of_storable (h : m.Storable) : ofToml m.toToml = .ok m := by
  have hdecode : record.lenient "FieldMap" (.table m.readTable) = .ok m :=
    Record.decoder_table sound_record false _ _ (by decide) (names_sublist m) (gives_record h)
  rw [ofToml, toToml, print_table]
  exact load_print (printable h) (by decide) hdecode

end FieldMap

namespace Template

variable {r : Registry} {t : Template}

/-- The span of a marker lies within the text of its cell. -/
theorem stop_le_of_mem_markers {text : List Char} {m : Marker}
    (h : m ∈ (Reading.ofText r text).markers) :
    m.span.start ≤ m.span.stop ∧ m.span.stop ≤ Text.width text := by
  obtain ⟨p, hp, -, hspan⟩ := Reading.exists_segment_of_mem_markers h
  obtain ⟨before, after, htext, hpos, -⟩ := CellText.exists_of_mem_located hp
  have hstart := p.2.start_lt_ownSpan_stop p.1 (p.2.givesWhole r)
  have hstop := p.2.ownSpan_stop_le p.1 (p.2.givesWhole r)
  rw [hspan, Segment.givenSpan, Segment.ownSpan_start]
  refine ⟨Nat.le_of_lt hstart, Nat.le_trans hstop ?_⟩
  rw [htext, Text.width_append, Text.width_append, hpos]
  omega

/-- An issue that names a cell was found in that cell. -/
theorem exists_textCell_of_mem_issues {i : Diagnostic} (h : i ∈ (t.fieldMap r).issues)
    {a : Address} (ha : a ∈ i.cell?) : ∃ c ∈ t.textCells, c.cell = a := by
  rw [issues_fieldMap, List.mem_append] at h
  rcases h with h | h
  · obtain ⟨p, hp, h⟩ := List.mem_flatMap.1 h
    obtain ⟨e, he, h⟩ := List.mem_flatMap.1 h
    split at h
    · obtain ⟨issue, -, rfl⟩ := List.mem_map.1 h
      have hcell : some e.1 = some a := by
        cases issue <;> exact ha
      exact ⟨⟨p.id, e.1, e.2⟩, mem_textCells_iff.2 ⟨p, hp, rfl, he⟩, Option.some.inj hcell⟩
    · cases h
  · split at h
    · obtain rfl := List.mem_singleton.1 h
      cases ha
    · cases h

theorem storable_fieldMap (r : Registry)
    (h : ∀ c ∈ t.textCells, c.cell.IsCounted ∧ Text.width c.text.toList < 2 ^ 63) :
    (t.fieldMap r).Storable where
  cells := by
    intro d hd
    obtain ⟨c, hc, m, -, rfl⟩ := mem_descriptors_iff.1 hd
    rw [Marker.describe_cell]
    exact (h c hc).1
  spans := by
    intro d hd
    obtain ⟨c, hc, m, hm, rfl⟩ := mem_descriptors_iff.1 hd
    have hwithin := stop_le_of_mem_markers hm
    have hwidth := (h c hc).2
    rw [Marker.describe_span]
    omega
  issues := by
    intro i hi a ha
    obtain ⟨c, hc, rfl⟩ := exists_textCell_of_mem_issues hi ha
    exact (h c hc).1

end Template

namespace FieldMap

/-- A field map whose addresses count from 1 and whose positions have 63 bits is read back from its
document as it is, and so is the field map of every template with such addresses; a text never has
more bytes than a signed word of 64 bits counts. -/
theorem ofToml_toToml :
    (∀ m : FieldMap, m.Storable → ofToml m.toToml = .ok m) ∧
      ∀ (r : Registry) (t : Template),
        (∀ c ∈ t.textCells, c.cell.IsCounted ∧ Text.width c.text.toList < 2 ^ 63) →
          ofToml (t.compile r).fieldMap.toToml = .ok (t.compile r).fieldMap :=
  ⟨fun _ h => ofToml_of_storable h, fun r _ h =>
    ofToml_of_storable (Template.storable_fieldMap r h)⟩

/-- A field map with a reference, a column of the table and an issue. -/
def mixedMap : FieldMap where
  template := "it's \"quoted\""
  descriptors := [
    { page := "p", cell := ⟨3, 28⟩, kind := .reference, canonicalName := "unit",
      displayName := "unit", default? := none, hint? := some "two\nlines", required := false,
      editable := false, role? := none, control? := none, fieldType := .text, code? := none,
      cellText := "[*unit]", span := ⟨0, 7⟩ },
    { page := "p", cell := ⟨4, 1⟩, kind := .detectionColumn, canonicalName := "name",
      displayName := "name", default? := some "", hint? := none, required := true,
      editable := true, role? := some .name, control? := some .regionEnd, fieldType := .dateTime,
      code? := some "#dt_name", cellText := "\t\\[#dt_name]", span := ⟨2, 12⟩ }]
  issues := [.located .malformedCell "p" ⟨1, 1⟩ "open", .general .noMarkers "none"]

def oneCellTemplate : Template :=
  ⟨"t", [(Page.new "p").withCell ⟨1, 2⟩ "[a=1] ] [b"]⟩

theorem mixedMap_readBack :
    ofToml mixedMap.toToml = .ok mixedMap ∧
      ofToml (oneCellTemplate.compile Registry.standard).fieldMap.toToml =
        .ok (oneCellTemplate.compile Registry.standard).fieldMap :=
  ⟨ofToml_toToml.1 mixedMap ⟨by decide, by decide, by decide⟩,
    ofToml_toToml.2 Registry.standard oneCellTemplate (by decide)⟩

end FieldMap

end MarkedSheet
