import TraceLayout.Json.Bounds
import TraceLayout.Text.OsText

/-! Types that have a form in JSON. Decoding a record looks each of its keys up: the order of keys
and keys of no meaning say nothing, and a key that is given twice is refused. -/
namespace TraceLayout

/-- A type with an encoding in JSON and a decoding of every value that means one of the type. The
decoding is told how many arrays and objects the value may nest, unless there is no limit. -/
class JsonForm (α : Type) where
  encode : α → Json
  decodeIn? : (room : Option Nat) → Json → Option α

namespace JsonForm
variable {α : Type} [JsonForm α]

/-- Decodes the value of a text. -/
def decode? (value : Json) : Option α := decodeIn? (some Json.deepest) value

/-- Decodes a value that is not taken from a text but there as a whole, however deep it nests. -/
def ofValue? (value : Json) : Option α := decodeIn? none value

end JsonForm

namespace Json

/-- The value of a key that has to be given once, in an object with this room. -/
def required? {α : Type} [JsonForm α] (room : Option Nat) (members : List (String × Json))
    (key : String) : Option α :=
  match valuesOf key members with
  | [value] => JsonForm.decodeIn? (room.map (· - 1)) value
  | _ => none

/-- The value of a key that may be given once, and else is `default`, in an object with this room.
-/
def optional? {α : Type} [JsonForm α] (room : Option Nat) (members : List (String × Json))
    (key : String) (default : α) : Option α :=
  match valuesOf key members with
  | [] => some default
  | [value] => JsonForm.decodeIn? (room.map (· - 1)) value
  | _ => none

def named? {α : Type} (names : α → String) (values : List α) : Json → Option α
  | .string text => values.find? (names · == text)
  | _ => none

instance : JsonForm String where
  encode := .string
  decodeIn?
    | _, .string text => some text
    | _, _ => none

/-- A text of the operating system has a form if it is UTF-8. -/
instance : JsonForm OsText where
  encode os := (os.text?.map .string).getD .unreadable
  decodeIn?
    | _, .string text => some (.ofString text)
    | _, _ => none

instance : JsonForm Bool where
  encode := .bool
  decodeIn?
    | _, .bool value => some value
    | _, _ => none

instance : JsonForm UInt16 where
  encode n := .natural n.toNat
  decodeIn?
    | _, .natural n => if fits : n < UInt16.size then some (UInt16.ofNatLT n fits) else none
    | _, _ => none

instance : JsonForm UInt32 where
  encode n := .natural n.toNat
  decodeIn?
    | _, .natural n => if fits : n < UInt32.size then some (UInt32.ofNatLT n fits) else none
    | _, _ => none

/-- An absent value is null. -/
instance {α : Type} [JsonForm α] : JsonForm (Option α) where
  encode
    | some value => JsonForm.encode value
    | none => .null
  decodeIn?
    | _, .null => some none
    | room, value => (JsonForm.decodeIn? room value).map some

instance {α : Type} [JsonForm α] : JsonForm (List α) where
  encode values := .array (values.map JsonForm.encode)
  decodeIn?
    | room, .array items => items.mapM (JsonForm.decodeIn? (room.map (· - 1)))
    | _, _ => none

end TraceLayout.Json
