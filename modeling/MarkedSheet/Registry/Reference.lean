import MarkedSheet.Registry.Basic

/-!
# Reference of the codes

A text that lists every code by family, followed by the markers that need no code.
-/

namespace MarkedSheet.Registry

/-- The line under each title. -/
def rule : String :=
  String.ofList (List.replicate 72 '-')

/-- The line of a code, which is filled up to twenty characters. -/
def line (e : Entry) : String :=
  let code := e.code.toList
  "[" ++ e.code ++ String.ofList (List.replicate (20 - code.length) ' ') ++ "] " ++
    e.displayName ++ " (" ++ e.description ++ ")"

/-- The lines of one family of codes, closed by an empty line. -/
def family (r : Registry) (title : String) (belongs : EntryKind → Bool) : List String :=
  [title, rule] ++ (r.entries.filter fun e => belongs e.kind).map line ++ [""]

/-- The lines of the markers that need no code. -/
def otherMarkers : List String :=
  ["OTHER MARKERS", rule,
   "[*name]                 value copied from the latest approved report",
   "[name]                  required input field",
   "[name];(hint)           required input field with a hint",
   "[name]default;(hint)    optional input field with a default",
   "[name](hint)            hint only; trailing text becomes the default"]

/-- The reference of all codes; its last line is not closed. -/
def reference (r : Registry) : String :=
  "\n".intercalate
    (r.family "REPORT FIELDS" (fun k => k = .basic) ++
     r.family "TABLE COLUMNS" (fun k => match k with | .column _ => true | _ => false) ++
     r.family "CONTROL MARKS" (fun k => match k with | .control _ => true | _ => false) ++
     otherMarkers)

end MarkedSheet.Registry
