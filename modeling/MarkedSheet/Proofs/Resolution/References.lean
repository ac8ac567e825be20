import MarkedSheet.Proofs.Store.LatestApproved
import MarkedSheet.Proofs.Text.Trimmed
import MarkedSheet.Registry.Standard
import MarkedSheet.Compilation
import MarkedSheet.Resolution

/-!
# Where references come from

The references of a report all come from one earlier report: the latest approved one with the
business key of the report, or the latest approved one of any key when there is none.  Blanks at the
ends of the report's own key are left out before it is compared, while the keys of the earlier
reports are taken as they are.  A key with such blanks is therefore not found under itself, and the
reference comes from a report with another key.
-/

namespace MarkedSheet

namespace Values

variable {values : Values} {names : List String}

/-- A value that is not blank stands under one of several names, and none does under those before
it. -/
def FirstFilled (values : Values) (names : List String) (v : Value) : Prop :=
  ∃ before name after, names = before ++ name :: after ∧ values.lookup name = some v ∧
    v.isBlank = false ∧ ∀ n ∈ before, ∀ w, values.lookup n = some w → w.isBlank = true

theorem firstFilled?_eq_none_iff :
    values.firstFilled? names = none ↔
      ∀ n ∈ names, ∀ w, values.lookup n = some w → w.isBlank = true := by
  rw [firstFilled?, List.find?_eq_none]
  constructor
  · intro h n hn w hw
    simpa using h w (List.mem_filterMap.2 ⟨n, hn, hw⟩)
  · intro h w hw
    obtain ⟨n, hn, hw⟩ := List.mem_filterMap.1 hw
    simpa using h n hn w hw

theorem firstFilled_of_firstFilled? {v : Value} (h : values.firstFilled? names = some v) :
    values.FirstFilled names v := by
  induction names with
  | nil => simp [firstFilled?] at h
  | cons n rest ih =>
      -- The first name decides, unless what stands under it is blank or nothing stands there.
      have hlater (hskip : ∀ w, values.lookup n = some w → w.isBlank = true)
          (hrest : values.firstFilled? rest = some v) : values.FirstFilled (n :: rest) v := by
        obtain ⟨before, name, after, rfl, hname, hv, hbefore⟩ := ih hrest
        refine ⟨n :: before, name, after, rfl, hname, hv, fun m hm => ?_⟩
        rcases List.mem_cons.1 hm with rfl | hm
        · exact hskip
        · exact hbefore m hm
      cases hn : values.lookup n with
      | none =>
          have hrest : values.firstFilled? rest = some v := by simpa [firstFilled?, hn] using h
          exact hlater (by simp [hn]) hrest
      | some w =>
          cases hw : w.isBlank with
          | true =>
              have hrest : values.firstFilled? rest = some v := by
                simpa [firstFilled?, hn, hw] using h
              exact hlater (by simp [hn, hw]) hrest
          | false =>
              have hv : w = v := by simpa [firstFilled?, hn, hw] using h
              exact ⟨[], n, rest, rfl, hv ▸ hn, hv ▸ hw, by simp⟩

end Values

namespace Report

/-- What an earlier report holds under some names: its fields come before its metadata, and where
neither has a value that is not blank the text is empty. -/
inductive Holds (source : Report) (names : List String) : Value → Prop where
  | field {v : Value} (h : source.fieldValues.FirstFilled names v) : Holds source names v
  | metadata {v : Value}
      (hfields : ∀ n ∈ names, ∀ w, source.fieldValues.lookup n = some w → w.isBlank = true)
      (h : source.metadata.FirstFilled names v) : Holds source names v
  | nothing
      (hfields : ∀ n ∈ names, ∀ w, source.fieldValues.lookup n = some w → w.isBlank = true)
      (hmetadata : ∀ n ∈ names, ∀ w, source.metadata.lookup n = some w → w.isBlank = true) :
      Holds source names .empty

theorem holds_recorded? (source : Report) (names : List String) :
    source.Holds names ((source.recorded? names).getD .empty) := by
  cases hfield : Values.firstFilled? source.fieldValues names with
  | some v =>
      have hrecorded : source.recorded? names = some v := by simp [recorded?, hfield]
      rw [hrecorded]
      exact .field (Values.firstFilled_of_firstFilled? hfield)
  | none =>
      have hblank := Values.firstFilled?_eq_none_iff.1 hfield
      have hrecorded : source.recorded? names = Values.firstFilled? source.metadata names := by
        simp [recorded?, hfield]
      rw [hrecorded]
      cases hmetadata : Values.firstFilled? source.metadata names with
      | some v => exact .metadata hblank (Values.firstFilled_of_firstFilled? hmetadata)
      | none => exact .nothing hblank (Values.firstFilled?_eq_none_iff.1 hmetadata)

/-- Another report may serve as a source: it is approved, and it is not this one. -/
def MayServe (report q : Report) : Prop :=
  q.status = .approved ∧ q.id ≠ report.id

instance (report q : Report) : Decidable (report.MayServe q) :=
  inferInstanceAs (Decidable (q.status = .approved ∧ q.id ≠ report.id))

theorem isReference_some_iff {report q : Report} {key : String} :
    isReference (some key) report.id q = true ↔ report.MayServe q ∧ q.businessKey = key := by
  simp [isReference, MayServe]

theorem isReference_none_iff {report q : Report} :
    isReference none report.id q = true ↔ report.MayServe q := by
  simp [isReference, MayServe]

/-- Every reference of a report shows what this source holds under its names. -/
def RefersTo (report : Report) (registry : Registry) (history : History) (source : Report) :
    Prop :=
  ∀ d : Descriptor, d.kind = .reference →
    source.Holds (registry.namesFor d.canonicalName) (d.resolve registry report history)

variable {registry : Registry} {history : History} {report : Report} {key : String}

theorem refersTo_of_source? {s : Report} (h : report.source? history = some s) :
    report.RefersTo registry history s := by
  intro d hd
  have hvalue : d.resolve registry report history =
      (s.recorded? (registry.namesFor d.canonicalName)).getD .empty := by
    simp [Descriptor.resolve, hd, Descriptor.referenceValue, h]
  rw [hvalue]
  exact s.holds_recorded? _

/-- The latest report that may serve and has the trimmed key, if any has it, is the source. -/
theorem exists_source_of_key (hkey : Text.trimmed? report.businessKey.toList = some key)
    (hsome : ∃ q ∈ history, report.MayServe q ∧ q.businessKey = key) :
    ∃ s, Latest (fun q => report.MayServe q ∧ q.businessKey = key) history s ∧
      report.RefersTo registry history s := by
  cases hfound : history.latestApproved (some key) report.id with
  | none =>
      obtain ⟨q, hq, hserves⟩ := hsome
      exact absurd (isReference_some_iff.2 hserves)
        (History.latestApproved_eq_none_iff.1 hfound q hq)
  | some s =>
      have hlatest := History.latest_of_latestApproved hfound
      simp only [isReference_some_iff] at hlatest
      have hsource : report.source? history = some s := by simp [source?, hkey, hfound]
      exact ⟨s, hlatest, refersTo_of_source? hsource⟩

/-- Without a report of the same key, the source is looked for among all reports. -/
theorem source?_of_no_key
    (hnone : ∀ key, Text.trimmed? report.businessKey.toList = some key →
      ∀ q ∈ history, report.MayServe q → q.businessKey ≠ key) :
    report.source? history = history.latestApproved none report.id := by
  cases hkey : Text.trimmed? report.businessKey.toList with
  | none => simp [source?, hkey]
  | some key =>
      have hfound : history.latestApproved (some key) report.id = none := by
        refine History.latestApproved_eq_none_iff.2 fun q hq hserves => ?_
        obtain ⟨hserves, hsame⟩ := isReference_some_iff.1 hserves
        exact hnone key hkey q hq hserves hsame
      simp [source?, hkey, hfound]

/-- Where the references of a report come from. -/
structure ReferencesResolved (report : Report) (registry : Registry) (history : History) :
    Prop where
  /-- A key without blanks at its ends is that of the source, if any report has it. -/
  ownKey : Text.trim report.businessKey.toList = report.businessKey.toList →
    report.businessKey.toList ≠ [] →
      (∃ q ∈ history, report.MayServe q ∧ q.businessKey = report.businessKey) →
        ∃ s, Latest (fun q => report.MayServe q ∧ q.businessKey = report.businessKey) history s ∧
          report.RefersTo registry history s
  /-- Of a key with blanks at its ends, what is between them is looked for. -/
  trimmedKey : ∀ key, Text.trimmed? report.businessKey.toList = some key →
    (∃ q ∈ history, report.MayServe q ∧ q.businessKey = key) →
      ∃ s, Latest (fun q => report.MayServe q ∧ q.businessKey = key) history s ∧
        report.RefersTo registry history s
  anyKey : (∀ key, Text.trimmed? report.businessKey.toList = some key →
      ∀ q ∈ history, report.MayServe q → q.businessKey ≠ key) →
    (∃ q ∈ history, report.MayServe q) →
      ∃ s, Latest report.MayServe history s ∧ report.RefersTo registry history s
  nothing : (∀ q ∈ history, ¬ report.MayServe q) →
    ∀ d : Descriptor, d.kind = .reference → d.resolve registry report history = .empty

/-- References come from the latest report of the same trimmed key, or else of any key. -/
theorem references_resolved (report : Report) (registry : Registry) (history : History) :
    report.ReferencesResolved registry history where
  ownKey := by
    intro htrim hne hsome
    have hkey : Text.trimmed? report.businessKey.toList = some report.businessKey := by
      rw [Text.trimmed?_eq_some hne htrim, String.ofList_toList]
    exact exists_source_of_key hkey hsome
  trimmedKey := fun key hkey hsome => exists_source_of_key hkey hsome
  anyKey := by
    intro hnone hsome
    cases hfound : history.latestApproved none report.id with
    | none =>
        obtain ⟨q, hq, hserves⟩ := hsome
        exact absurd (isReference_none_iff.2 hserves)
          (History.latestApproved_eq_none_iff.1 hfound q hq)
    | some s =>
        have hlatest := History.latest_of_latestApproved hfound
        simp only [isReference_none_iff] at hlatest
        have hsource : report.source? history = some s := by
          rw [source?_of_no_key hnone, hfound]
        exact ⟨s, hlatest, refersTo_of_source? hsource⟩
  nothing := by
    intro hnone d hd
    have hsource : report.source? history = none := by
      rw [source?_of_no_key fun key _ q hq hserves => absurd hserves (hnone q hq)]
      refine History.latestApproved_eq_none_iff.2 fun q hq hserves => ?_
      exact hnone q hq (isReference_none_iff.1 hserves)
    simp [Descriptor.resolve, hd, Descriptor.referenceValue, hsource]

/-- Two earlier reports, one with the given key and a later one with another key. -/
def outdated (key : String) : History :=
  History.ofReports
    [{ Report.new "a" with
        businessKey := key, status := .approved, approvedAt? := some "2025-01-01"
        fieldValues := [("unit", .text "mg/L")] },
      { Report.new "b" with
        businessKey := "S2", status := .approved, approvedAt? := some "2025-06-01"
        fieldValues := [("unit", .text "ug/L")] }]

/-- A report whose key is not that of the later one. -/
def keyedReport : Report :=
  { Report.new "r" with businessKey := "S1" }

theorem keyed_refersToOwnKey :
    ∃ s, Latest (fun q => keyedReport.MayServe q ∧ q.businessKey = "S1") (outdated "S1") s ∧
      keyedReport.RefersTo Registry.standard (outdated "S1") s :=
  (references_resolved keyedReport Registry.standard (outdated "S1")).ownKey
    (by decide) (by decide) (by decide)

def paddedHistory : History :=
  outdated " S1 "

/-- A report whose key has blanks at its ends. -/
def paddedReport : Report :=
  { Report.new "r" with businessKey := " S1 " }

def unitReference : Descriptor :=
  Marker.describe "p" ⟨1, 1⟩ "[*unit]" ⟨.reference "unit", ⟨0, 7⟩⟩

/-- A report of the same key is there, and yet the reference does not show what it holds. -/
theorem padded_refersToOtherKey :
    Text.trimmed? paddedReport.businessKey.toList ≠ none ∧
      (∃ q ∈ paddedHistory, paddedReport.MayServe q ∧ q.businessKey = paddedReport.businessKey) ∧
        ∀ q ∈ paddedHistory, q.businessKey = paddedReport.businessKey →
          ¬ paddedReport.RefersTo Registry.standard paddedHistory q := by
  refine ⟨by decide, by decide, fun q hq hkey hrefers => ?_⟩
  have hunits : ∀ q ∈ paddedHistory, q.businessKey = paddedReport.businessKey →
      q.fieldValues.lookup "unit" = some (.text "mg/L") := by decide
  have hunit := hunits q hq hkey
  have hnames : Registry.standard.namesFor unitReference.canonicalName = ["unit"] := by decide
  have hvalue : unitReference.resolve Registry.standard paddedReport paddedHistory =
      .text "ug/L" := by decide
  have hholds := hrefers unitReference rfl
  rw [hnames] at hholds
  generalize unitReference.resolve Registry.standard paddedReport paddedHistory = v at hholds hvalue
  cases hholds with
  | field h =>
      obtain ⟨before, name, after, hsplit, hname, -, -⟩ := h
      have hmem : name ∈ ["unit"] := by rw [hsplit]; simp
      obtain rfl : name = "unit" := List.mem_singleton.1 hmem
      rw [hunit, hvalue] at hname
      exact absurd hname (by decide)
  | metadata hfields h => exact absurd (hfields "unit" List.mem_cons_self _ hunit) (by decide)
  | nothing hfields hmetadata => exact absurd hvalue (by decide)

end Report

end MarkedSheet
