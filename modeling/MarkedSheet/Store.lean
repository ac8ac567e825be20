import MarkedSheet.FieldMap
import MarkedSheet.Report
import MarkedSheet.Template

/-!
# The store

The store holds templates, reports and the field maps of compiled templates, each under its name.
What comes in later replaces what had the same name.  Keeping a field map may be refused, which
leaves the store as it was.
-/

namespace MarkedSheet

/-- Why the store could not do what it was asked for. -/
inductive StoreError where
  | templateNotFound (id : String)
  | reportNotFound (id : String)
  | backend (reason : String)
  deriving DecidableEq, Repr

def StoreError.message : StoreError → String
  | templateNotFound id => "template not found: " ++ id
  | reportNotFound id => "report not found: " ++ id
  | backend reason => "storage backend error: " ++ reason

/-- Templates, reports and field maps; a refusal is given for every field map that comes in. -/
structure Store where
  templates : List Template
  reports : History
  fieldMaps : List FieldMap
  refusal? : Option String
  deriving DecidableEq

namespace Store

def empty : Store :=
  ⟨[], [], [], none⟩

/-- Put an element in the place of the one with the same name, or at the end. -/
def putBy {α : Type} (name : α → String) (a : α) : List α → List α
  | [] => [a]
  | b :: rest => if name b = name a then a :: rest else b :: putBy name a rest

def insertTemplate (s : Store) (t : Template) : Store :=
  { s with templates := putBy Template.id t s.templates }

def insertReport (s : Store) (r : Report) : Store :=
  { s with reports := s.reports.insert r }

/-- The store that gives this answer to every field map that comes in. -/
def refusing (s : Store) (refusal? : Option String) : Store :=
  { s with refusal? := refusal? }

/-- The store with a field map, unless it is refused. -/
def persist (s : Store) (m : FieldMap) : Except StoreError Store :=
  match s.refusal? with
  | some reason => .error (.backend reason)
  | none => .ok { s with fieldMaps := putBy FieldMap.template m s.fieldMaps }

def template (s : Store) (id : String) : Except StoreError Template :=
  match s.templates.find? fun t => t.id = id with
  | some t => .ok t
  | none => .error (.templateNotFound id)

def report (s : Store) (id : String) : Except StoreError Report :=
  match s.reports.find? id with
  | some r => .ok r
  | none => .error (.reportNotFound id)

/-- The field map kept for a template. -/
def fieldMap? (s : Store) (template : String) : Option FieldMap :=
  s.fieldMaps.find? fun m => m.template = template

end Store

end MarkedSheet
