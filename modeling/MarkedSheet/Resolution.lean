import MarkedSheet.FieldMap
import MarkedSheet.Report

/-!
# Resolution of fields

A field is looked up under its canonical name and then under the canonical name of the code whose
display name it bears; the first value that is not blank counts.  A basic field takes it from the
report and falls back to its default.  A reference takes it from the latest approved report of the
same business key, or of any key when there is none.  What is not found is the empty text.
-/

namespace MarkedSheet

namespace Registry

/-- The names under which the value of a field may be stored. -/
def namesFor (r : Registry) (name : String) : List String :=
  match r.canonicalFor? name with
  | some canonical => if canonical = name then [name] else [name, canonical]
  | none => [name]

end Registry

namespace Values

/-- The first value under one of the names that is not blank. -/
def firstFilled? (values : Values) (names : List String) : Option Value :=
  (names.filterMap fun name => values.lookup name).find? fun v => !v.isBlank

end Values

namespace Report

/-- The value of a field in an earlier report; the fields come before the metadata. -/
def recorded? (source : Report) (names : List String) : Option Value :=
  (Values.firstFilled? source.fieldValues names).orElse fun _ =>
    Values.firstFilled? source.metadata names

/-- The earlier report that references of this one are taken from. -/
def source? (report : Report) (history : HistoryLookup) : Option Report :=
  match Text.trimmed? report.businessKey.toList with
  | none => history.latestApproved none report.id
  | some key =>
      (history.latestApproved (some key) report.id).orElse fun _ =>
        history.latestApproved none report.id

end Report

namespace Descriptor

def basicValue (d : Descriptor) (r : Registry) (report : Report) : Value :=
  match Values.firstFilled? report.fieldValues (r.namesFor d.canonicalName) with
  | some v => v
  | none => .text (d.default?.getD "")

def referenceValue (d : Descriptor) (r : Registry) (report : Report) (history : HistoryLookup) : Value :=
  match report.source? history with
  | none => .empty
  | some source => (source.recorded? (r.namesFor d.canonicalName)).getD .empty

/-- The value of a field. -/
def resolve (d : Descriptor) (r : Registry) (report : Report) (history : HistoryLookup) : Value :=
  match d.kind with
  | .basic => d.basicValue r report
  | .reference => d.referenceValue r report history
  | .detectionColumn => .empty
  | .controlMark => .empty

end Descriptor

end MarkedSheet
