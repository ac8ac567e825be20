import MarkedSheet.Toml.Item

/-!
# Growing a document

Headers and assignments build the tables of a document one statement after the other.  A table
knows how it came about: by its own header, only as part of a longer header, or by a dotted key.
That decides what may still be added to it.  A value once written is closed.
-/

namespace MarkedSheet.Toml

/-- How a table came about. -/
inductive Origin where
  | header
  | implied
  | dotted
  deriving DecidableEq, Repr

/-- A part of a document that grows; of the tables of a list only the last one still does. -/
inductive Node where
  | closed (item : Item)
  | rows (earlier : List (List (String × Node))) (current : List (String × Node))
  | table (origin : Origin) (entries : List (String × Node))

/-- Named parts that grow, in the order in which they were written. -/
abbrev Branch := List (String × Node)

/-- One statement of a document. -/
inductive Statement where
  | table (path : List String)
  | row (path : List String)
  | assign (path : List String) (item : Item)

mutual

/-- A part as it stands. -/
def Node.item : Node → Item
  | .closed item => item
  | .rows earlier current => .rows (rowItems earlier ++ [branchItems current])
  | .table _ entries => .table (branchItems entries)

def rowItems : List (List (String × Node)) → List (List (String × Item))
  | [] => []
  | r :: rest => branchItems r :: rowItems rest

def branchItems : List (String × Node) → List (String × Item)
  | [] => []
  | (k, n) :: rest => (k, n.item) :: branchItems rest

end

namespace Branch

/-- Change the part with a name in its place, or add it at the end when there is none. -/
def alter? (name : String) (f : Option Node → Option Node) : Branch → Option Branch
  | [] => (f none).map fun n => [(name, n)]
  | (k, m) :: rest =>
      if k = name then (f (some m)).map fun n => (name, n) :: rest
      else (alter? name f rest).map ((k, m) :: ·)

/-- Change the table that a path of headers leads to; missing tables on the way are implied. -/
def descend? (f : Branch → Option Branch) : List String → Branch → Option Branch
  | [] => f
  | name :: path =>
      alter? name fun
        | none => (descend? f path []).map (Node.table .implied)
        | some (.table origin entries) => (descend? f path entries).map (Node.table origin)
        | some (.rows earlier current) => (descend? f path current).map (Node.rows earlier)
        | some (.closed _) => none

/-- Open the table of a header.  One that was only implied so far moves to the end. -/
def openTable? (name : String) (branch : Branch) : Option Branch :=
  match branch.lookup name with
  | none => some (branch ++ [(name, .table .header [])])
  | some (.table .implied entries) =>
      some ((branch.filter fun e => e.1 ≠ name) ++ [(name, .table .header entries)])
  | some _ => none

/-- Start another table of the list of a header. -/
def openRow? (name : String) : Branch → Option Branch :=
  alter? name fun
    | none => some (.rows [] [])
    | some (.rows earlier current) => some (.rows (earlier ++ [current]) [])
    | some _ => none

/-- Assign an item to a key, which may be dotted.  The tables that a dotted key names must not have
a header, and the last of them has to come from dotted keys alone. -/
def assign? (item : Item) : List String → Branch → Option Branch
  | [], _ => none
  | [name], branch =>
      match branch.lookup name with
      | none => some (branch ++ [(name, .closed item)])
      | some _ => none
  | name :: path, branch =>
      branch.alter? name fun
        | none => (assign? item path []).map (Node.table .dotted)
        | some (.table .dotted entries) => (assign? item path entries).map (Node.table .dotted)
        -- Only a longer key may pass through what headers have begun.
        | some (.table .implied entries) =>
            if path.length = 1 then none
            else (assign? item path entries).map (Node.table .implied)
        | some (.rows earlier current) =>
            if path.length = 1 then none
            else (assign? item path current).map (Node.rows earlier)
        | some (.table .header _) => none
        | some (.closed _) => none

end Branch

/-- A document under construction and the path of the header that is in force. -/
structure Draft where
  root : Branch
  header : List String

/-- The document with one more statement, if the statement is allowed there. -/
def Draft.add? (d : Draft) : Statement → Option Draft
  | .table path =>
      match path.getLast? with
      | none => none
      | some name =>
          (Branch.descend? (Branch.openTable? name) path.dropLast d.root).map fun r => ⟨r, path⟩
  | .row path =>
      match path.getLast? with
      | none => none
      | some name =>
          (Branch.descend? (Branch.openRow? name) path.dropLast d.root).map fun r => ⟨r, path⟩
  | .assign path item =>
      (Branch.descend? (Branch.assign? item path) d.header d.root).map fun r =>
        { d with root := r }

/-- The table that a sequence of statements describes. -/
def assemble? (statements : List Statement) : Option Table :=
  (statements.foldlM Draft.add? ⟨[], []⟩).map fun d => branchItems d.root

/-- The table between braces that assigns these items. -/
def inlineTable? (pairs : List (List String × Item)) : Option Item :=
  (pairs.foldlM (fun branch p => Branch.assign? p.2 p.1 branch) []).map fun b =>
    .table (branchItems b)

end MarkedSheet.Toml
