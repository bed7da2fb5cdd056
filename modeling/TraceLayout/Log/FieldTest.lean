import TraceLayout.Pattern.Pattern

/-! Tests that a log filter makes on the fields of notices and spans: a field has a name, and may be
asked to have a value. -/
namespace TraceLayout

structure FieldTest where
  name : List Char
  hasValue : Bool
  deriving DecidableEq, Repr

namespace FieldTest

/-- Whether a word is a number of any size: digits with a point among them or none, and an exponent
or none, or a name for what has no digits. -/
def isNumber (cs : List Char) : Bool :=
  let word := match cs with
    | '+' :: rest => rest
    | '-' :: rest => rest
    | _ => cs
  let (whole, rest) := word.span Char.isDigit
  let (fraction, rest) := match rest with
    | '.' :: rest => rest.span Char.isDigit
    | _ => ([], rest)
  let hasDigits := whole ++ fraction != []
  ["inf", "infinity", "nan"].contains (String.ofList (word.map Char.toLower)) ||
    hasDigits && match rest with
      | [] => true
      | mark :: rest =>
        let digits := match rest with
          | '+' :: digits => digits
          | '-' :: digits => digits
          | _ => rest
        (mark == 'e' || mark == 'E') && digits != [] && digits.all Char.isDigit

/-- Whether a text is a value that a field can be asked to have. All texts are patterns to search
for, unless they are numbers. -/
def isValue (cs : List Char) : Bool := isNumber cs || Pattern.isValid cs

/-- Reads a test: a name, and after an equals sign a value. What follows another sign says nothing.
-/
def read? (cs : List Char) : Option FieldTest :=
  match cs.splitOn '=' with
  | name :: value :: _ => if isValue value then some ⟨name, true⟩ else none
  | _ => some ⟨cs, false⟩

end TraceLayout.FieldTest
