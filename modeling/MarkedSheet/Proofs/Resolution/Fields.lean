import MarkedSheet.Proofs.Resolution.References

/-!
# What a field resolves to

A field is looked for under its own name and then under that of the report field whose display name
it bears.  A basic field shows the first value of the report that is not blank, or else its default.
A reference shows what its source holds, the fields of the source before its metadata.  This settles
the value of every field, whatever the registry, the report and the look-up of earlier reports are.
-/

namespace MarkedSheet

namespace Entry

/-- The entry is a report field with this display name. -/
def Shows (e : Entry) (name : String) : Prop :=
  e.kind = .basic ∧ e.displayName = name

end Entry

namespace Registry

/-- The names of a field: its own and, behind it, the canonical name of the first report field that
is shown under it. -/
inductive Names (r : Registry) (name : String) : List String → Prop where
  | alone (h : ∀ e ∈ r.entries, ¬ e.Shows name) : Names r name [name]
  | aliased {before after : List Entry} {e : Entry} (hentries : r.entries = before ++ e :: after)
      (he : e.Shows name) (hbefore : ∀ d ∈ before, ¬ d.Shows name) :
      Names r name [name, e.canonicalName]

theorem exists_names (r : Registry) (name : String) :
    ∃ names, r.Names name names ∧ names = name :: (r.canonicalFor? name).toList := by
  cases hfound : r.entries.find? fun e => e.kind = .basic && e.displayName = name with
  | none =>
      have hcanonical : r.canonicalFor? name = none := congrArg _ hfound
      refine ⟨[name], .alone fun e he => ?_, by rw [hcanonical]; rfl⟩
      simpa [Entry.Shows] using List.find?_eq_none.1 hfound e he
  | some e =>
      have hcanonical : r.canonicalFor? name = some e.canonicalName := congrArg _ hfound
      obtain ⟨he, before, after, hentries, hbefore⟩ := List.find?_eq_some_iff_append.1 hfound
      refine ⟨[name, e.canonicalName], .aliased hentries ?_ fun d hd => ?_, by rw [hcanonical]; rfl⟩
      · simpa [Entry.Shows] using he
      · intro hshows
        have hnot := hbefore d hd
        simp [hshows.1, hshows.2] at hnot

end Registry

namespace Values

variable {values : Values} {names : List String}

/-- Nothing but blank texts stands under the names. -/
def BlankUnder (values : Values) (names : List String) : Prop :=
  ∀ n ∈ names, ∀ w, values.lookup n = some w → w.isBlank = true

theorem firstFilled?_append (before after : List String) :
    values.firstFilled? (before ++ after) =
      (values.firstFilled? before).or (values.firstFilled? after) := by
  rw [firstFilled?, List.filterMap_append, List.find?_append]
  rfl

theorem firstFilled?_eq_some_iff {v : Value} :
    values.firstFilled? names = some v ↔ values.FirstFilled names v := by
  constructor
  · exact firstFilled_of_firstFilled?
  · rintro ⟨before, name, after, rfl, hname, hv, hbefore⟩
    rw [firstFilled?_append, firstFilled?_eq_none_iff.2 hbefore]
    simp [firstFilled?, hname, hv]

/-- A name that is asked for twice gives no more than once. -/
theorem firstFilled?_namesFor (r : Registry) (name : String) :
    values.firstFilled? (r.namesFor name) =
      values.firstFilled? (name :: (r.canonicalFor? name).toList) := by
  rw [Registry.namesFor]
  cases r.canonicalFor? name with
  | none => rfl
  | some canonical =>
      by_cases hsame : canonical = name
      · subst hsame
        have htwice : values.firstFilled? ([canonical] ++ [canonical]) = _ :=
          firstFilled?_append [canonical] [canonical]
        rw [Option.or_self] at htwice
        simpa using htwice.symm
      · simp [hsame]

end Values

namespace Report

/-- The business key of a report without the blanks at its ends. -/
def trimmedKey (report : Report) : List Char :=
  Text.trim report.businessKey.toList

/-- The earlier report that the references of a report are taken from: the one found under its
trimmed business key, unless that key is blank or nothing is found, and then the one found under any
key. -/
inductive Source (report : Report) (history : HistoryLookup) : Option Report → Prop where
  | sameKey {s : Report} (hkey : report.trimmedKey ≠ [])
      (h : history.latestApproved (some (String.ofList report.trimmedKey)) report.id = some s) :
      Source report history (some s)
  | anyKey (h : report.trimmedKey = [] ∨
      history.latestApproved (some (String.ofList report.trimmedKey)) report.id = none) :
      Source report history (history.latestApproved none report.id)

variable {report : Report} {history : HistoryLookup}

theorem source?_of_blank (h : report.trimmedKey = []) :
    report.source? history = history.latestApproved none report.id := by
  have hkey : Text.trimmed? report.businessKey.toList = none := by
    rw [Text.trimmed?, show Text.trim report.businessKey.toList = [] from h]
  rw [source?, hkey]

theorem source?_of_filled (h : report.trimmedKey ≠ []) :
    report.source? history =
      (history.latestApproved (some (String.ofList report.trimmedKey)) report.id).or
        (history.latestApproved none report.id) := by
  obtain ⟨c, cs, hcs⟩ := List.exists_cons_of_ne_nil h
  have hkey : Text.trimmed? report.businessKey.toList = some (String.ofList report.trimmedKey) := by
    rw [Text.trimmed?, show Text.trim report.businessKey.toList = c :: cs from hcs, hcs]
  rw [source?, hkey]
  exact Option.orElse_eq_or

theorem source_iff {s? : Option Report} :
    report.Source history s? ↔ report.source? history = s? := by
  constructor
  · rintro (⟨hkey, h⟩ | ⟨hblank | hnone⟩)
    · rw [source?_of_filled hkey, h]
      rfl
    · exact source?_of_blank hblank
    · by_cases hkey : report.trimmedKey = []
      · exact source?_of_blank hkey
      · rw [source?_of_filled hkey, hnone]
        rfl
  · rintro rfl
    by_cases hkey : report.trimmedKey = []
    · rw [source?_of_blank hkey]
      exact .anyKey (Or.inl hkey)
    · rw [source?_of_filled hkey]
      cases h : history.latestApproved (some (String.ofList report.trimmedKey)) report.id with
      | some s => exact .sameKey hkey h
      | none => exact .anyKey (Or.inr h)

theorem recorded?_namesFor (s : Report) (r : Registry) (name : String) :
    s.recorded? (r.namesFor name) = s.recorded? (name :: (r.canonicalFor? name).toList) := by
  rw [recorded?, Values.firstFilled?_namesFor, Values.firstFilled?_namesFor, recorded?]

theorem holds_iff {s : Report} {names : List String} {v : Value} :
    s.Holds names v ↔ (s.recorded? names).getD .empty = v := by
  constructor
  · intro h
    cases h with
    | field h => simp [recorded?, Values.firstFilled?_eq_some_iff.2 h]
    | metadata hfields h =>
        simp [recorded?, Values.firstFilled?_eq_none_iff.2 hfields,
          Values.firstFilled?_eq_some_iff.2 h]
    | nothing hfields hmetadata =>
        simp [recorded?, Values.firstFilled?_eq_none_iff.2 hfields,
          Values.firstFilled?_eq_none_iff.2 hmetadata]
  · rintro rfl
    exact s.holds_recorded? names

end Report

namespace Descriptor

/-- The value of a field with these names in a report, when earlier reports are looked up. -/
inductive ResolvesTo (d : Descriptor) (report : Report) (history : HistoryLookup)
    (names : List String) : Value → Prop where
  | entered {v : Value} (hkind : d.kind = .basic) (h : report.fieldValues.FirstFilled names v) :
      ResolvesTo d report history names v
  | default {s : String} (hkind : d.kind = .basic) (h : report.fieldValues.BlankUnder names)
      (hdefault : d.default? = some s) : ResolvesTo d report history names (.text s)
  | blank (hkind : d.kind = .basic) (h : report.fieldValues.BlankUnder names)
      (hdefault : d.default? = none) : ResolvesTo d report history names .empty
  | reference {s : Report} {v : Value} (hkind : d.kind = .reference)
      (hsource : report.Source history (some s)) (h : s.Holds names v) :
      ResolvesTo d report history names v
  | noSource (hkind : d.kind = .reference) (hsource : report.Source history none) :
      ResolvesTo d report history names .empty
  | tableMark (hkind : d.kind = .detectionColumn ∨ d.kind = .controlMark) :
      ResolvesTo d report history names .empty

variable {d : Descriptor} {registry : Registry} {report : Report} {history : HistoryLookup}
  {names : List String} {v : Value}

theorem resolve_of_basic (hkind : d.kind = .basic) :
    d.resolve registry report history =
      (Values.firstFilled? report.fieldValues
        (d.canonicalName :: (registry.canonicalFor? d.canonicalName).toList)).getD
          (.text (d.default?.getD "")) := by
  rw [resolve, hkind]
  show d.basicValue registry report = _
  rw [basicValue, Values.firstFilled?_namesFor]
  cases Values.firstFilled? report.fieldValues _ <;> rfl

theorem resolve_of_source {s : Report} (hkind : d.kind = .reference)
    (hsource : report.source? history = some s) :
    d.resolve registry report history =
      (s.recorded? (d.canonicalName :: (registry.canonicalFor? d.canonicalName).toList)).getD
        .empty := by
  rw [resolve, hkind]
  show d.referenceValue registry report history = _
  rw [referenceValue, hsource, ← Report.recorded?_namesFor]

theorem resolve_of_noSource (hkind : d.kind = .reference)
    (hsource : report.source? history = none) : d.resolve registry report history = .empty := by
  rw [resolve, hkind]
  show d.referenceValue registry report history = _
  rw [referenceValue, hsource]

theorem resolve_of_tableMark (hkind : d.kind = .detectionColumn ∨ d.kind = .controlMark) :
    d.resolve registry report history = .empty := by
  rcases hkind with hkind | hkind <;> rw [resolve, hkind]

theorem resolvesTo_resolve
    (hnames : names = d.canonicalName :: (registry.canonicalFor? d.canonicalName).toList) :
    d.ResolvesTo report history names (d.resolve registry report history) := by
  subst hnames
  cases hkind : d.kind with
  | basic =>
      rw [resolve_of_basic hkind]
      cases hfound : Values.firstFilled? report.fieldValues
          (d.canonicalName :: (registry.canonicalFor? d.canonicalName).toList) with
      | some v => exact .entered hkind (Values.firstFilled?_eq_some_iff.1 hfound)
      | none =>
          have hblank := Values.firstFilled?_eq_none_iff.1 hfound
          cases hdefault : d.default? with
          | some s => exact .default hkind hblank hdefault
          | none => exact .blank hkind hblank hdefault
  | reference =>
      cases hsource : report.source? history with
      | none =>
          rw [resolve_of_noSource hkind hsource]
          exact .noSource hkind (Report.source_iff.2 hsource)
      | some s =>
          rw [resolve_of_source hkind hsource]
          exact .reference hkind (Report.source_iff.2 hsource) (s.holds_recorded? _)
  | detectionColumn =>
      rw [resolve_of_tableMark (Or.inl hkind)]
      exact .tableMark (Or.inl hkind)
  | controlMark =>
      rw [resolve_of_tableMark (Or.inr hkind)]
      exact .tableMark (Or.inr hkind)

theorem ResolvesTo.eq_resolve (h : d.ResolvesTo report history names v)
    (hnames : names = d.canonicalName :: (registry.canonicalFor? d.canonicalName).toList) :
    d.resolve registry report history = v := by
  subst hnames
  cases h with
  | entered hkind h =>
      rw [resolve_of_basic hkind, Values.firstFilled?_eq_some_iff.2 h]
      rfl
  | default hkind h hdefault =>
      rw [resolve_of_basic hkind, Values.firstFilled?_eq_none_iff.2 h, hdefault]
      rfl
  | blank hkind h hdefault =>
      rw [resolve_of_basic hkind, Values.firstFilled?_eq_none_iff.2 h, hdefault]
      rfl
  | reference hkind hsource h =>
      rw [resolve_of_source hkind (Report.source_iff.1 hsource)]
      exact Report.holds_iff.1 h
  | noSource hkind hsource => exact resolve_of_noSource hkind (Report.source_iff.1 hsource)
  | tableMark hkind => exact resolve_of_tableMark hkind

/-- Everything that a field with these names shows, and what follows for blank texts and for
metadata. -/
structure Settled (d : Descriptor) (registry : Registry) (report : Report)
    (history : HistoryLookup) (names : List String) : Prop where
  resolve_iff : ∀ v, d.resolve registry report history = v ↔ d.ResolvesTo report history names v
  /-- Numbers are never blank. -/
  blank_iff : ∀ v : Value, v.isBlank = true ↔ ∃ s, v = .text s ∧ Text.allBlank s.toList = true
  /-- A blank text under the first name does not hide what stands under the second one. -/
  second_of_blank : ∀ (values : Values) (second blank : String) (v : Value),
    names = [d.canonicalName, second] → values.lookup d.canonicalName = some (.text blank) →
      Text.allBlank blank.toList = true → values.lookup second = some v → v.isBlank = false →
        values.FirstFilled names v
  /-- A field of the source under any name hides the metadata under all names. -/
  field_of_filled : ∀ s : Report, d.kind = .reference → report.Source history (some s) →
    ¬ s.fieldValues.BlankUnder names →
      s.fieldValues.FirstFilled names (d.resolve registry report history)

end Descriptor

theorem Value.isBlank_iff {v : Value} :
    v.isBlank = true ↔ ∃ s, v = .text s ∧ Text.allBlank s.toList = true := by
  cases v with
  | integer n => simp [isBlank]
  | float x => simp [isBlank]
  | text s => simp [isBlank]

/-- Every field is settled by its names. -/
theorem Descriptor.exists_settled (d : Descriptor) (registry : Registry) (report : Report)
    (history : HistoryLookup) :
    ∃ names, registry.Names d.canonicalName names ∧ d.Settled registry report history names := by
  obtain ⟨names, hnames, hlist⟩ := registry.exists_names d.canonicalName
  have hiff : ∀ v, d.resolve registry report history = v ↔ d.ResolvesTo report history names v := by
    refine fun v => ⟨?_, fun h => h.eq_resolve hlist⟩
    rintro rfl
    exact resolvesTo_resolve hlist
  refine ⟨names, hnames, hiff, fun v => Value.isBlank_iff, ?_, ?_⟩
  · rintro values second blank v rfl hfirst hblank hsecond hv
    refine ⟨[d.canonicalName], second, [], rfl, hsecond, hv, fun n hn w hw => ?_⟩
    obtain rfl := List.mem_singleton.1 hn
    rw [hfirst] at hw
    obtain rfl := Option.some.inj hw
    exact hblank
  · intro s hkind hsource hfilled
    have hholds : s.Holds names (d.resolve registry report history) := by
      rw [resolve_of_source hkind (Report.source_iff.1 hsource), hlist]
      exact s.holds_recorded? _
    generalize d.resolve registry report history = v at hholds ⊢
    cases hholds with
    | field h => exact h
    | metadata hfields h => exact absurd hfields hfilled
    | nothing hfields hmetadata => exact absurd hfields hfilled

end MarkedSheet
