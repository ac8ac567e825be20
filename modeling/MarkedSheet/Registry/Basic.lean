/-!
# Field codes

A registry says what each code such as `#report_no` stands for: a field of the report, a column of
the line-item table, or a mark that steers the table.  Every code starts with `#` and no code
appears twice; a list of entries that breaks this is refused at its first fault.  Entries are found
by an index of their positions, which is made entry by entry when they are checked.
-/

namespace MarkedSheet

/-- The columns of the line-item table, in the order in which they are written. -/
inductive Role where
  | index
  | name
  | unit
  | result
  | limit
  | method
  | judgment
  deriving DecidableEq, Repr

namespace Role

/-- All roles, in order. -/
def all : List Role :=
  [index, name, unit, result, limit, method, judgment]

/-- The word for a role. -/
def word : Role → String
  | index => "index"
  | name => "name"
  | unit => "unit"
  | result => "result"
  | limit => "limit"
  | method => "method"
  | judgment => "judgment"

theorem mem_all (r : Role) : r ∈ all := by
  cases r <;> decide

end Role

/-- Marks that steer the table: the row of `regionEnd` and the rows below it hold no items. -/
inductive Control where
  | regionEnd
  deriving DecidableEq, Repr

namespace Control

/-- All marks. -/
def all : List Control :=
  [regionEnd]

/-- The word for a mark. -/
def word : Control → String
  | regionEnd => "region_end"

end Control

/-- What a code stands for. -/
inductive EntryKind where
  | basic
  | column (role : Role)
  | control (mark : Control)
  deriving DecidableEq, Repr

/-- One code of a registry. -/
structure Entry where
  code : String
  kind : EntryKind
  canonicalName : String
  displayName : String
  description : String
  deriving DecidableEq, Repr

namespace Entry

/-- The role of a table column. -/
def role? (e : Entry) : Option Role :=
  match e.kind with
  | .column role => some role
  | _ => none

/-- The kind of mark. -/
def control? (e : Entry) : Option Control :=
  match e.kind with
  | .control mark => some mark
  | _ => none

/-- Whether the code starts with `#`, as codes in templates do. -/
def isMarked (e : Entry) : Bool :=
  e.code.toList.head? = some '#'

end Entry

/-- Why a list of entries is no registry. -/
inductive RegistryError where
  | missingMark (code : String)
  | duplicateCode (code : String)
  deriving DecidableEq, Repr

/-- The wording of the refusal. -/
def RegistryError.message : RegistryError → String
  | missingMark code => "field code must start with '#': " ++ code
  | duplicateCode code => "duplicate field code: " ++ code

/-- Codes with the positions of their entries, the code that came in last in front. -/
structure CodeIndex where
  places : List (String × Nat)
  deriving DecidableEq

namespace CodeIndex

def empty : CodeIndex :=
  ⟨[]⟩

/-- The position of a code. -/
def position? (x : CodeIndex) (code : String) : Option Nat :=
  (x.places.find? fun p => p.1 = code).map (·.2)

/-- The position that a code had before, and the index in which it has another one. -/
def insert (x : CodeIndex) (code : String) (position : Nat) : Option Nat × CodeIndex :=
  (x.position? code, ⟨(code, position) :: x.places⟩)

/-- The index with more entries, the first of them at a position; or why one of them, the first for
which there is a reason, is refused. -/
def enter (x : CodeIndex) (position : Nat) : List Entry → Except RegistryError CodeIndex
  | [] => .ok x
  | e :: rest =>
      if e.isMarked then
        let inserted := x.insert e.code position
        match inserted.1 with
        | some _ => .error (.duplicateCode e.code)
        | none => inserted.2.enter (position + 1) rest
      else .error (.missingMark e.code)

/-- Every entry has its position under its own code, and no other code has one. -/
def Indexes (x : CodeIndex) (entries : List Entry) : Prop :=
  ∀ code i, x.position? code = some i ↔ (entries.map Entry.code)[i]? = some code

variable {x : CodeIndex} {entries : List Entry}

theorem position?_insert (x : CodeIndex) (code other : String) (position : Nat) :
    (x.insert code position).2.position? other =
      if code = other then some position else x.position? other := by
  by_cases h : code = other <;> simp [insert, position?, h]

theorem indexes_empty : empty.Indexes [] := by
  intro code i
  simp [empty, position?]

theorem Indexes.position?_eq_none_iff (h : x.Indexes entries) {code : String} :
    x.position? code = none ↔ code ∉ entries.map Entry.code := by
  rw [List.mem_iff_getElem?, Option.eq_none_iff_forall_ne_some, not_exists]
  exact forall_congr' fun i => not_congr (h code i)

theorem Indexes.lt_length (h : x.Indexes entries) {code : String} {i : Nat}
    (hi : x.position? code = some i) : i < entries.length := by
  obtain ⟨hlt, -⟩ := List.getElem?_eq_some_iff.1 ((h code i).1 hi)
  rwa [List.length_map] at hlt

/-- An entry with a new code takes the position behind the others. -/
theorem Indexes.insert (h : x.Indexes entries) {e : Entry} (hnew : x.position? e.code = none) :
    (x.insert e.code entries.length).2.Indexes (entries ++ [e]) := by
  intro code i
  have hlast : ((entries ++ [e]).map Entry.code)[i]? = some code ↔
      (entries.map Entry.code)[i]? = some code ∨ entries.length = i ∧ e.code = code := by
    rw [List.map_append, List.map_singleton, List.getElem?_append, List.length_map]
    split
    · next hlt =>
        have hne : entries.length ≠ i := by omega
        simp [hne]
    · next hle =>
        have hnone : (entries.map Entry.code)[i]? = none := by simpa using hle
        have hzero : i - entries.length = 0 ↔ entries.length = i := by omega
        simp [hnone, List.getElem?_singleton, hzero]
  rw [position?_insert, hlast, ← h code i]
  by_cases hcode : e.code = code
  · subst hcode
    simp [hnew]
  · simp [hcode]

/-- Entries that are all entered are marked, and the index is one of all entries. -/
theorem Indexes.of_enter_eq_ok (h : x.Indexes entries) {rest : List Entry} {after : CodeIndex}
    (hafter : x.enter entries.length rest = .ok after) :
    (∀ e ∈ rest, e.isMarked) ∧ after.Indexes (entries ++ rest) := by
  induction rest generalizing x entries with
  | nil =>
      obtain rfl : x = after := Except.ok.inj hafter
      simpa using h
  | cons e rest ih =>
      rw [enter] at hafter
      split at hafter
      · next hmark =>
          dsimp only at hafter
          split at hafter
          · cases hafter
          · next hnew =>
              have hlength : entries.length + 1 = (entries ++ [e]).length := by simp
              rw [hlength] at hafter
              obtain ⟨hrest, hindexes⟩ := ih (h.insert hnew) hafter
              rw [List.append_assoc] at hindexes
              exact ⟨List.forall_mem_cons.2 ⟨hmark, hrest⟩, hindexes⟩
      · cases hafter

end CodeIndex

/-- Entries with codes that start with `#`, and an index of their positions. -/
structure Registry where
  entries : List Entry
  index : CodeIndex
  marked : ∀ e ∈ entries, e.isMarked
  indexed : index.Indexes entries

namespace Registry

/-- Codes are distinct, since each of them has one position. -/
theorem distinct (r : Registry) : (r.entries.map Entry.code).Nodup := by
  refine List.pairwise_iff_getElem.2 fun i j hi hj hlt heq => ?_
  have hfirst := (r.indexed _ i).2 (List.getElem?_eq_getElem hi)
  have hsecond := (r.indexed _ j).2 (List.getElem?_eq_getElem hj)
  rw [heq, hsecond] at hfirst
  have hsame : j = i := Option.some.inj hfirst
  omega

/-- The registry of entries that can be entered one after the other. -/
def ofIndex {entries : List Entry} {index : CodeIndex}
    (h : CodeIndex.empty.enter 0 entries = .ok index) : Registry :=
  have hentered := CodeIndex.indexes_empty.of_enter_eq_ok h
  ⟨entries, index, hentered.1, hentered.2⟩

/-- The registry of these entries, or the first fault among them. -/
def ofEntries (entries : List Entry) : Except RegistryError Registry :=
  match h : CodeIndex.empty.enter 0 entries with
  | .error e => .error e
  | .ok _ => .ok (ofIndex h)

/-- The entry with a code, `#` included, which is looked up in the index. -/
def lookup (r : Registry) (code : String) : Option Entry :=
  (r.index.position? code).pmap (fun i h => r.entries.get ⟨i, h⟩) fun _ h => r.indexed.lt_length h

/-- The canonical name of the first report field with a display name. -/
def canonicalFor? (r : Registry) (displayName : String) : Option String :=
  (r.entries.find? fun e => e.kind = .basic && e.displayName = displayName).map
    Entry.canonicalName

theorem code_of_lookup {r : Registry} {code : String} {e : Entry} (h : r.lookup code = some e) :
    e ∈ r.entries ∧ e.code = code := by
  obtain ⟨i, hi, hposition, rfl⟩ := Option.pmap_eq_some_iff.1 h
  obtain ⟨hlt, hcode⟩ := List.getElem?_eq_some_iff.1 ((r.indexed code i).1 hposition)
  rw [List.getElem_map] at hcode
  exact ⟨List.get_mem r.entries ⟨i, hi⟩, hcode⟩

end Registry

end MarkedSheet
