import MarkedSheet.Address
import MarkedSheet.Decimal.Shortest
import MarkedSheet.Text.Quoted
import MarkedSheet.Toml.Reader

/-!
# Decoding documents

A decoder takes an item as a value of some type, or tells why it cannot.  The entries of a record
are checked in the order of the document, and the first that fails is reported; only then is a
missing field looked for, in the order of the record.  A list is accepted for a record, with the
fields by position.  Unknown names are passed over unless a record is strict.
-/

namespace MarkedSheet.Toml

/-- What stands where something else was wanted. -/
inductive Found where
  | integer (n : Int)
  | float (x : Binary64)
  | boolean (b : Bool)
  | string (s : String)
  | sequence
  | map
  deriving DecidableEq, Repr

/-- Why an item could not be taken as a value. -/
inductive DecodeError where
  | wrongType (found : Found) (wanted : String)
  | outOfRange (n : Int) (wanted : String)
  | wrongLength (length : Nat) (wanted : String)
  | missingField (name : String)
  | unknownField (name : String) (known : List String)
  | unknownVariant (name : String) (known : List String)
  | notStringOrTable
  | notOneElement (isEmpty : Bool)
  | variantNotEmpty (wanted : String)
  | variantWithContent (content : String)
  | noVariant (type : String)
  | invalidAddress (refusal : InvalidAddress)
  deriving DecidableEq, Repr

def Found.text : Found → String
  | integer n => "integer `" ++ toString n ++ "`"
  | float x => "floating point `" ++ x.textWithPlaces ++ "`"
  | boolean b => "boolean `" ++ (if b then "true" else "false") ++ "`"
  | string s => "string " ++ Text.quoted s.toList
  | sequence => "sequence"
  | map => "map"

def choiceText : List String → String
  | [] => "nothing"
  | [a] => "`" ++ a ++ "`"
  | [a, b] => "`" ++ a ++ "` or `" ++ b ++ "`"
  | names => "one of " ++ ", ".intercalate (names.map fun n => "`" ++ n ++ "`")

def DecodeError.message : DecodeError → String
  | wrongType found wanted => "invalid type: " ++ found.text ++ ", expected " ++ wanted
  | outOfRange n wanted => "invalid value: integer `" ++ toString n ++ "`, expected " ++ wanted
  | wrongLength length wanted =>
      "invalid length " ++ toString length ++ ", expected " ++ wanted
  | missingField name => "missing field `" ++ name ++ "`"
  | unknownField name known => "unknown field `" ++ name ++ "`, expected " ++ choiceText known
  | unknownVariant name known =>
      "unknown variant `" ++ name ++ "`, expected " ++ choiceText known
  | notStringOrTable => "wanted string or table"
  | notOneElement true => "wanted exactly 1 element, found 0 elements"
  | notOneElement false => "wanted exactly 1 element, more than 1 element"
  | variantNotEmpty wanted => "expected empty " ++ wanted
  | variantWithContent content => "expected table, found " ++ content
  | noVariant type => "data did not match any variant of untagged enum " ++ type
  | invalidAddress refusal => refusal.message

/-- What a decoder sees in an item. -/
def Item.found : Item → Found
  | .string s => .string s
  | .integer n => .integer n
  | .float x => .float x
  | .boolean b => .boolean b
  | .datetime _ => .map
  | .array _ => .sequence
  | .rows _ => .sequence
  | .table _ => .map

/-- The name under which a date or time shows its text where a table is wanted. -/
def datetimeName : String :=
  "$__toml_private_datetime"

/-- The entries of an item that stands for a table. -/
def Item.entries? : Item → Option Table
  | .table entries => some entries
  | .datetime text => some [(datetimeName, .string text)]
  | _ => none

/-- A way to take an item as a value. -/
abbrev Decoder (α : Type) := Item → Except DecodeError α

namespace Decoder

def string : Decoder String
  | .string s => .ok s
  | item => .error (.wrongType item.found "a string")

def boolean : Decoder Bool
  | .boolean b => .ok b
  | item => .error (.wrongType item.found "a boolean")

/-- A natural number below a bound. -/
def natural (bound : Nat) (wanted : String) : Decoder Nat
  | .integer n => if 0 ≤ n ∧ n < bound then .ok n.toNat else .error (.outOfRange n wanted)
  | item => .error (.wrongType item.found wanted)

/-- A row or column number. -/
def word32 : Decoder UInt32 := fun item =>
  (natural UInt32.size "u32" item).map UInt32.ofNat

/-- A value or its absence, which only a missing field can express. -/
def optional {α : Type} (d : Decoder α) : Decoder (Option α) := fun item =>
  (d item).map some

def list {α : Type} (d : Decoder α) : Decoder (List α) := fun item =>
  match item.items? with
  | some items => items.mapM d
  | none => .error (.wrongType item.found "a sequence")

/-- An address from its text. -/
def addressOfText (text : String) : Except DecodeError Address :=
  match Address.parse text with
  | .ok a => .ok a
  | .error refusal => .error (.invalidAddress refusal)

def address : Decoder Address := fun item =>
  (string item).bind addressOfText

/-- One entry of a table with its key decoded before its value. -/
def entry {α β : Type} (key : String → Except DecodeError α) (value : Decoder β)
    (e : String × Item) : Except DecodeError (α × β) :=
  (key e.1).bind fun k => (value e.2).map fun v => (k, v)

def entries {α β : Type} (key : String → Except DecodeError α) (value : Decoder β) :
    Decoder (List (α × β)) := fun item =>
  match item.entries? with
  | some es => es.mapM (entry key value)
  | none => .error (.wrongType item.found "a map")

/-- One of several values by its word. -/
def ofWord {α : Type} (all : List α) (word : α → String) (name : String) :
    Except DecodeError α :=
  match all.find? fun a => word a = name with
  | some a => .ok a
  | none => .error (.unknownVariant name (all.map word))

/-- Nothing, as the content of a word that is written as a table.  Only rows are called an array
when they should have been empty. -/
def noContent : Decoder Unit
  | .table [] => .ok ()
  | .array [] => .ok ()
  | .rows [] => .ok ()
  | .table _ => .error (.variantNotEmpty "table")
  | .array _ => .error (.variantNotEmpty "table")
  | .rows _ => .error (.variantNotEmpty "array")
  | .string _ => .error (.variantWithContent "string")
  | .integer _ => .error (.variantWithContent "integer")
  | .float _ => .error (.variantWithContent "float")
  | .boolean _ => .error (.variantWithContent "boolean")
  | .datetime _ => .error (.variantWithContent "datetime")

/-- One of several values, written as its word or as a table with that word and nothing else. -/
def variant {α : Type} (all : List α) (word : α → String) : Decoder α
  | .string s => ofWord all word s
  | .table [] => .error (.notOneElement true)
  | .table [(name, content)] =>
      (ofWord all word name).bind fun a => (noContent content).map fun _ => a
  | .table _ => .error (.notOneElement false)
  | _ => .error .notStringOrTable

end Decoder

/-- Where the fields of a record come from, and how the absence of one is reported. -/
structure Source where
  get? : String → Option Item
  absent : String → DecodeError

/-- A way to take named fields as a record: the checks of its fields, in order, and the record that
they make up. -/
structure Record (α : Type) where
  checks : List (String × (Item → Option DecodeError))
  build : Source → Except DecodeError α

namespace Record

/-- The failure of a decoder, if it fails. -/
def failure? {α : Type} (d : Decoder α) (item : Item) : Option DecodeError :=
  match d item with
  | .ok _ => none
  | .error e => some e

/-- A field that must be there. -/
def required {α : Type} (name : String) (d : Decoder α) : Record α where
  checks := [(name, failure? d)]
  build := fun source =>
    match source.get? name with
    | some item => d item
    | none => .error (source.absent name)

/-- A field that takes a default when it is not there. -/
def withDefault {α : Type} (name : String) (d : Decoder α) (default : α) : Record α where
  checks := [(name, failure? d)]
  build := fun source =>
    match source.get? name with
    | some item => d item
    | none => .ok default

/-- Fields of two records, those of the first one before those of the second. -/
instance : Applicative Record where
  pure a := ⟨[], fun _ => .ok a⟩
  seq f x := {
    checks := f.checks ++ (x ()).checks
    build := fun source => (f.build source).bind fun g => ((x ()).build source).map g }

variable {α : Type}

def names (r : Record α) : List String :=
  r.checks.map (·.1)

/-- The failure of one entry of a table; a name that no field bears fails only a strict record. -/
def entryFailure? (r : Record α) (isStrict : Bool) (e : String × Item) : Option DecodeError :=
  match r.checks.lookup e.1 with
  | some check => check e.2
  | none => if isStrict then some (.unknownField e.1 r.names) else none

/-- The record in the entries of a table. -/
def ofTable (r : Record α) (isStrict : Bool) (table : Table) : Except DecodeError α :=
  match table.findSome? (r.entryFailure? isStrict) with
  | some e => .error e
  | none => r.build ⟨fun name => table.lookup name, .missingField⟩

/-- The record in the items of a list, field by field. -/
def ofItems (r : Record α) (wanted : String) (items : List Item) : Except DecodeError α :=
  r.build {
    get? := fun name => items[r.names.idxOf name]?
    absent := fun name => .wrongLength (r.names.idxOf name) wanted }

/-- The record in an item; `title` names the record and `size` its number of fields. -/
def decoder (r : Record α) (isStrict : Bool) (title size : String) : Decoder α := fun item =>
  match item.entries?, item.items? with
  | some entries, _ => r.ofTable isStrict entries
  | none, some items => r.ofItems (title ++ size) items
  | none, none => .error (.wrongType item.found title)

/-- The number of fields, as a part of the wording. -/
def sizeText (r : Record α) : String :=
  let n := r.checks.length
  " with " ++ toString n ++ (if n = 1 then " element" else " elements")

/-- The record in an item, with unknown names passed over. -/
def lenient (r : Record α) (name : String) : Decoder α :=
  r.decoder false ("struct " ++ name) r.sizeText

end Record

/-- Why a text could not be taken as a value: it is no document, or not one of that value. -/
inductive LoadError where
  | malformed
  | undecodable (reason : DecodeError)
  deriving DecidableEq, Repr

def LoadError.message : LoadError → String
  | malformed => "TOML parse error"
  | undecodable reason => reason.message

/-- Take the document in a text as a value. -/
def load {α : Type} (d : Decoder α) (text : String) : Except LoadError α :=
  match read? text with
  | none => .error .malformed
  | some table =>
      match d (.table table) with
      | .ok a => .ok a
      | .error reason => .error (.undecodable reason)

end MarkedSheet.Toml
