/-! TOML values, and the items that a document gives its keys. Items remember how a table was
defined, because that decides what a later line may add to it. -/
namespace TraceLayout.Toml

inductive Value
  | string (text : String)
  | bool (value : Bool)
  /-- An integer, a float or a point in time, as it is written. -/
  | scalar (literal : String)
  | array (items : List Value)
  /-- A table between braces, which nothing is added to. -/
  | table
  deriving Repr

/-- How a table came to be. -/
inductive Origin
  /-- By a header of its own, which is final. -/
  | header
  /-- By a longer header, which leaves room for its own one. -/
  | implied
  /-- By a dotted key, which leaves room for more of them. -/
  | dotted
  deriving DecidableEq, Repr

inductive Item
  | value (value : Value)
  | table (origin : Origin) (entries : List (String × Item))
  /-- An array of tables, which has its last table first. -/
  | tables (rows : List (List (String × Item)))

abbrev Entries := List (String × Item)

def setItem (key : String) (item : Item) : Entries → Entries
  | [] => [(key, item)]
  | entry :: entries =>
    if entry.1 = key then (key, item) :: entries else entry :: setItem key item entries

end TraceLayout.Toml
