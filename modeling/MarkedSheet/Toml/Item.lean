import MarkedSheet.Decimal.Binary64

/-!
# TOML items

What a TOML document holds: a table of named items, in the order in which they were written.
-/

namespace MarkedSheet.Toml

/-- A value of a document; a date or time is kept as its text.  The tables that headers add to a
list are its rows, which are told from an array that is written as a value. -/
inductive Item where
  | string (s : String)
  | integer (n : Int)
  | float (x : Binary64)
  | boolean (b : Bool)
  | datetime (text : String)
  | array (items : List Item)
  | rows (tables : List (List (String × Item)))
  | table (entries : List (String × Item))

/-- Named items, each name at most once. -/
abbrev Table := List (String × Item)

/-- The items of an item that stands for a list. -/
def Item.items? : Item → Option (List Item)
  | .array items => some items
  | .rows tables => some (tables.map .table)
  | _ => none

end MarkedSheet.Toml
