/-! JSON values as a text writes them: members keep their order and repeat a key as often as the
text does. -/
namespace TraceLayout

inductive Json
  | null
  | bool (value : Bool)
  /-- An integer without a sign, a fraction or an exponent. -/
  | natural (value : Nat)
  /-- Any other number, as it is written. -/
  | number (literal : String)
  | string (text : String)
  | array (items : List Json)
  | object (members : List (String × Json))
  /-- A string that is no text, because half of a surrogate pair stands alone in it, or an object
  with such a key. It can be passed over, but nothing is made of it. -/
  | unreadable
  deriving Repr, Inhabited

namespace Json

def valuesOf (key : String) (members : List (String × Json)) : List Json :=
  (members.filter (·.1 == key)).map (·.2)

end TraceLayout.Json
