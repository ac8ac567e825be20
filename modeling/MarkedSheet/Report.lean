import MarkedSheet.Value

/-!
# Reports

A report carries the values of its fields and its line items.  Reports of the same subject share a
business key, and an approved report may carry the stamp of its approval; stamps compare as texts.
-/

namespace MarkedSheet

/-- Values by name, each name at most once. -/
abbrev Values := List (String × Value)

/-- How far a report has come. -/
inductive Status where
  | draft
  | pending
  | approved
  | rejected
  deriving DecidableEq, Repr

namespace Status

def all : List Status :=
  [draft, pending, approved, rejected]

def word : Status → String
  | draft => "draft"
  | pending => "pending"
  | approved => "approved"
  | rejected => "rejected"

end Status

/-- One row of the line-item table. -/
structure LineItem where
  name : String
  unit : String
  result : String
  limit : String
  method : String
  judgment? : Option String
  deriving DecidableEq, Repr

/-- An item with nothing but a name. -/
def LineItem.named (name : String) : LineItem :=
  ⟨name, "", "", "", "", none⟩

/-- A report, the one to be filled in or an earlier one. -/
structure Report where
  id : String
  businessKey : String
  status : Status
  approvedAt? : Option String
  fieldValues : Values
  metadata : Values
  lineItems : List LineItem
  deriving DecidableEq, Repr

/-- A draft without any data. -/
def Report.new (id : String) : Report :=
  ⟨id, "", .draft, none, [], [], []⟩

namespace Report

/-- Whether the stamp of the first report sorts after that of the second; a missing stamp sorts
before every stamp, and stamps compare character by character. -/
def isLaterThan (a b : Report) : Bool :=
  match a.approvedAt?, b.approvedAt? with
  | some x, some y => y < x
  | some _, none => true
  | none, _ => false

/-- Whether a report may serve as a reference: approved, not the excluded one, and of the given
business key if there is one. -/
def isReference (key? : Option String) (excluding : String) (r : Report) : Bool :=
  r.status = .approved && r.id ≠ excluding &&
    match key? with
    | some key => r.businessKey = key
    | none => true

/-- The later of a report and those that follow it; of equally late ones the last. -/
def latestFrom (best : Report) : List Report → Report
  | [] => best
  | r :: rest => latestFrom (if best.isLaterThan r then best else r) rest

/-- The report approved last; of equally late ones the last. -/
def latest? : List Report → Option Report
  | [] => none
  | r :: rest => some (latestFrom r rest)

end Report

/-- Reports in the order in which their names first came in, each name at most once. -/
abbrev History := List Report

namespace History

/-- Add a report, in the place of the one with the same name if there is one. -/
def insert (h : History) (r : Report) : History :=
  match h with
  | [] => [r]
  | s :: rest => if s.id = r.id then r :: rest else s :: insert rest r

/-- The history of reports added one after the other. -/
def ofReports (reports : List Report) : History :=
  reports.foldl insert []

def find? (h : History) (id : String) : Option Report :=
  List.find? (fun r => r.id = id) h

/-- The latest approved report other than the excluded one, of the business key if one is given. -/
def latestApproved (h : History) (key? : Option String) (excluding : String) : Option Report :=
  Report.latest? (h.filter (Report.isReference key? excluding))

end History

/-- Where earlier reports are looked up: the latest approved one other than the excluded one, of the
business key if one is given. -/
structure HistoryLookup where
  latestApproved : Option String → String → Option Report

/-- Reports that are at hand are looked up among themselves. -/
instance : Coe History HistoryLookup where
  coe h := ⟨h.latestApproved⟩

end MarkedSheet
