import MarkedSheet.Proofs.Compilation.Scanning
import MarkedSheet.Proofs.Text.Trimmed

/-!
# What the fields of a template say

A field takes its parts from one marker, which is a registered code, a reference or a plain field.
The parts of a field therefore go together: only plain fields are filled in by hand, and only these
have defaults; a field with a code says what the registry says of the code; all other fields bear the
trimmed name that stands between the brackets.  A code that no entry has counts as a plain name.
-/

namespace MarkedSheet

/-- What reading a marker by a registry makes sure of. -/
inductive MarkerForm.ReadBy (r : Registry) : MarkerForm → Prop where
  | registered {e : Entry} (h : r.lookup e.code = some e) : ReadBy r (.registered e)
  | reference {name : String} (h : Text.IsPhrase name.toList) : ReadBy r (.reference name)
  | plain {field : PlainField} (hname : Text.IsPhrase field.name.toList)
      (hdefault : ∀ text, field.default? = some text → Text.IsPhrase text.toList)
      (hrequired : field.required = field.default?.isNone) : ReadBy r (.plain field)

namespace PlainField

theorem isPhrase_of_default?_eq_some {name text : String} {tail : List Char}
    (h : (read name tail).default? = some text) : Text.IsPhrase text.toList := by
  change defaultOf tail = some text at h
  rw [defaultOf] at h
  split at h
  · exact Text.isPhrase_of_trimmed? h
  · exact Text.isPhrase_of_trimmed? h

end PlainField

theorem MarkerForm.readBy_plain (r : Registry) {content : List Char} (tail : List Char)
    (h : Text.IsPhrase content) :
    ReadBy r (.plain (PlainField.read (String.ofList content) tail)) := by
  refine .plain ?_ (fun text htext => PlainField.isPhrase_of_default?_eq_some htext) rfl
  show Text.IsPhrase (String.ofList content).toList
  rwa [String.toList_ofList]

theorem MarkerForm.readBy_of_ofContent? {r : Registry} {content tail : List Char}
    {form : MarkerForm} (h : ofContent? r (Text.trim content) tail = some form) :
    form.ReadBy r := by
  rw [ofContent?.eq_def] at h
  -- An empty content gives no marker; in all other cases it is a phrase.
  have hphrase : Text.trim content ≠ [] → Text.IsPhrase (Text.trim content) := Text.isPhrase_trim
  split at h
  · cases h
  · next rest hcontent =>
      dsimp only at h
      split at h
      · next e hlookup =>
          obtain rfl := Option.some.inj h
          obtain ⟨-, hcode⟩ := Registry.code_of_lookup hlookup
          exact .registered (by rw [hcode, hlookup])
      · obtain rfl := Option.some.inj h
        exact readBy_plain r tail (hphrase (by simp [hcontent]))
  · next rest hcontent =>
      obtain ⟨name, hname, rfl⟩ := Option.map_eq_some_iff.1 h
      exact .reference (Text.isPhrase_of_trimmed? hname)
  · next hempty _ _ =>
      obtain rfl := Option.some.inj h
      exact readBy_plain r tail (hphrase hempty)

theorem Reading.readBy_of_mem_markers {r : Registry} {text : List Char} {m : Marker}
    (h : m ∈ (ofText r text).markers) : m.form.ReadBy r := by
  obtain ⟨p, -, hpm, -⟩ := exists_segment_of_mem_markers h
  obtain ⟨form, hform, rfl⟩ := Option.map_eq_some_iff.1 hpm
  obtain ⟨content, tail, hclosed⟩ := Segment.exists_closed_of_marker? hpm
  rw [hclosed] at hform
  exact MarkerForm.readBy_of_ofContent? hform

namespace Descriptor

/-- Whether a field is of the kind of an entry, with the same role or control mark. -/
def IsOf (d : Descriptor) : EntryKind → Prop
  | .basic => d.kind = .basic ∧ d.role? = none ∧ d.control? = none
  | .column role => d.kind = .detectionColumn ∧ d.role? = some role ∧ d.control? = none
  | .control mark => d.kind = .controlMark ∧ d.role? = none ∧ d.control? = some mark

/-- The parts of a field go together, by a registry. -/
structure Coherent (r : Registry) (d : Descriptor) : Prop where
  editable : d.editable = true ↔ d.kind = .basic ∧ d.code? = none
  required : d.required = true ↔ d.editable = true ∧ d.default? = none
  default : ∀ text, d.default? = some text → d.editable = true ∧ Text.IsPhrase text.toList
  role : d.role?.isSome = true ↔ d.kind = .detectionColumn
  control : d.control?.isSome = true ↔ d.kind = .controlMark
  /-- A code is that of an entry, and the field says the same as the entry. -/
  code : ∀ code, d.code? = some code → ∃ e, r.lookup code = some e ∧ e.code = code ∧
    d.canonicalName = e.canonicalName ∧ d.displayName = e.displayName ∧ d.IsOf e.kind
  /-- A field without a code bears its own name. -/
  name : d.code? = none →
    Text.IsPhrase d.canonicalName.toList ∧ d.displayName = d.canonicalName
  /-- The span cuts a text that begins with an opening bracket out of the cell. -/
  span : d.span.start < d.span.stop ∧
    ∃ body, Text.slice? d.span.start d.span.stop d.cellText.toList = some ('[' :: body)

end Descriptor

namespace Marker

variable {r : Registry} {m : Marker} {page text : String} {cell : Address}

theorem coherent_describe (hform : m.form.ReadBy r) (hspan : m.span.start < m.span.stop ∧
    ∃ body, Text.slice? m.span.start m.span.stop text.toList = some ('[' :: body)) :
    (m.describe page cell text).Coherent r := by
  obtain ⟨form, span⟩ := m
  cases hform with
  | @registered e hlookup =>
      constructor
      case editable => simp [describe]
      case required => simp [describe]
      case default => simp [describe]
      case role => cases he : e.kind <;> simp [describe, kindOf, Entry.role?, he]
      case control => cases he : e.kind <;> simp [describe, kindOf, Entry.control?, he]
      case code =>
        intro code hcode
        obtain rfl : e.code = code := Option.some.inj hcode
        refine ⟨e, hlookup, rfl, rfl, rfl, ?_⟩
        cases he : e.kind <;>
          simp [describe, kindOf, Entry.role?, Entry.control?, Descriptor.IsOf, he]
      case name => simp [describe]
      case span => exact hspan
  | reference hname =>
      constructor
      case editable => simp [describe]
      case required => simp [describe]
      case default => simp [describe]
      case role => simp [describe]
      case control => simp [describe]
      case code => simp [describe]
      case name => exact fun _ => ⟨hname, rfl⟩
      case span => exact hspan
  | plain hname hdefault hrequired =>
      constructor
      case editable => simp [describe]
      case required => simp [describe, hrequired]
      case default => exact fun text htext => ⟨rfl, hdefault text htext⟩
      case role => simp [describe]
      case control => simp [describe]
      case code => simp [describe]
      case name => exact fun _ => ⟨hname, rfl⟩
      case span => exact hspan

end Marker

/-- What an entry form has to know about a field. -/
def Descriptor.formField (d : Descriptor) : FormField :=
  ⟨d.canonicalName, d.displayName, d.fieldType, d.default?, d.hint?, d.required, d.location⟩

theorem FieldMap.formFields_eq_map (m : FieldMap) :
    m.formFields = (m.descriptors.filter Descriptor.editable).map Descriptor.formField := rfl

namespace Marker

/-- What an entry form has to know about a plain marker; other markers are not asked for. -/
def formField? (page : String) (cell : Address) (m : Marker) : Option FormField :=
  match m.form with
  | .plain f =>
      some ⟨f.name, f.name, FieldType.infer f.name, f.default?, f.hint?, f.required,
        page ++ "!" ++ cell.text⟩
  | _ => none

theorem typeOf_self (name : String) : typeOf name name = FieldType.infer name := by
  unfold typeOf
  split
  · rfl
  · rfl

/-- The fields that are filled in by hand are those of the plain markers. -/
theorem formField?_eq (page : String) (cell : Address) (text : String) (m : Marker) :
    m.formField? page cell =
      if (m.describe page cell text).editable then
        some (m.describe page cell text).formField
      else none := by
  obtain ⟨form, span⟩ := m
  cases form with
  | registered e => rfl
  | reference name => rfl
  | plain field => simp [formField?, describe, Descriptor.formField, Descriptor.location, typeOf_self]

theorem formFields_describe (page : String) (cell : Address) (text : String)
    (markers : List Marker) :
    (((markers.map (describe page cell text)).filter Descriptor.editable).map
        Descriptor.formField) =
      markers.filterMap (formField? page cell) := by
  rw [List.filter_map, List.map_map, ← List.filterMap_eq_map, List.filterMap_filter]
  refine List.filterMap_congr fun m _ => ?_
  exact (m.formField?_eq page cell text).symm

end Marker

namespace Template

variable {r : Registry} {t : Template}

theorem coherent_of_mem_descriptors {d : Descriptor} (h : d ∈ (t.fieldMap r).descriptors) :
    d.Coherent r := by
  rw [descriptors_fieldMap] at h
  obtain ⟨c, -, hd⟩ := List.mem_flatMap.1 h
  obtain ⟨m, hm, rfl⟩ := List.mem_map.1 hd
  exact Marker.coherent_describe (Reading.readBy_of_mem_markers hm)
    (Reading.exists_slice?_of_mem_markers hm)

theorem formFields_fieldMap (r : Registry) (t : Template) :
    (t.fieldMap r).formFields =
      t.pages.flatMap fun p => p.cells.entries.flatMap fun e =>
        (Reading.ofText r e.2.toList).markers.filterMap (Marker.formField? p.id e.1) := by
  rw [FieldMap.formFields_eq_map, descriptors_eq_flatMap, List.filter_flatMap, List.map_flatMap]
  refine List.flatMap_congr fun p _ => ?_
  rw [List.filter_flatMap, List.map_flatMap]
  exact List.flatMap_congr fun e _ => Marker.formFields_describe p.id e.1 e.2 _

/-- The parts of every field of a compiled template go together, and an entry form asks for its
plain markers, in their order. -/
theorem compile_coherent (r : Registry) (t : Template) :
    (∀ d ∈ (t.compile r).fieldMap.descriptors, d.Coherent r) ∧
      (t.compile r).fieldMap.formFields =
        t.pages.flatMap fun p => p.cells.entries.flatMap fun e =>
          (Reading.ofText r e.2.toList).markers.filterMap (Marker.formField? p.id e.1) :=
  ⟨fun _ hd => coherent_of_mem_descriptors hd, formFields_fieldMap r t⟩

/-- A cell with a code that the registry does not know, between one that it knows and a reference. -/
def codesTemplate : Template :=
  ⟨"t", [(Page.new "p").withCell ⟨1, 1⟩ "[#report_no][#nope] 5;(five)[*unit]"]⟩

/-- The field of the unknown code. -/
def unknownField : Descriptor :=
  Marker.describe "p" ⟨1, 1⟩ "[#report_no][#nope] 5;(five)[*unit]"
    ⟨.plain ⟨"#nope", some "5", some "five", false⟩, ⟨12, 28⟩⟩

theorem unknownField_coherent :
    unknownField ∈ (codesTemplate.compile Registry.standard).fieldMap.descriptors ∧
      unknownField.Coherent Registry.standard :=
  ⟨by decide, (compile_coherent Registry.standard codesTemplate).1 unknownField (by decide)⟩

end Template

end MarkedSheet
