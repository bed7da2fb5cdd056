import TraceLayout.Text.Blank

/-! Declarations of record fields in C, as the kernel prints them: a type, white space, and a
declarator without white space. The declarator adds pointer stars and an array suffix to the field's
name. -/
namespace TraceLayout

/-- A C declaration cut into its type and its declarator, as in `char` and `comm[16]`. -/
structure CDecl where
  type : List Char
  declarator : List Char
  deriving DecidableEq, Repr

namespace CDecl
open Text

/-- Cuts a declaration at its last white space. A declaration of one word has no type. -/
def ofText? (cs : List Char) : Option CDecl :=
  let backwards := (trim cs).reverse
  match backwards.dropWhile (!isBlank ·) with
  | [] => none
  | type => some ⟨dropEndWhile isBlank type.reverse, (backwards.takeWhile (!isBlank ·)).reverse⟩

/-- The name in a declarator: its pointer stars and all from its first bracket on are dropped. -/
def bareName (declarator : List Char) : List Char :=
  (declarator.dropWhile (· == '*')).takeWhile (· != '[')

/-- The name of a declared field. A declaration of one word is all declarator. -/
def nameOf (cs : List Char) : List Char :=
  match ofText? cs with
  | some decl => bareName decl.declarator
  | none => bareName (trim cs)

/-- Drops every leading `const` that a space follows. -/
def dropConst : List Char → List Char
  | 'c' :: 'o' :: 'n' :: 's' :: 't' :: ' ' :: rest => dropConst rest
  | cs => cs

/-- Drops every leading `volatile` that a space follows. -/
def dropVolatile : List Char → List Char
  | 'v' :: 'o' :: 'l' :: 'a' :: 't' :: 'i' :: 'l' :: 'e' :: ' ' :: rest => dropVolatile rest
  | cs => cs

def charTypes : List String :=
  ["char", "signed char", "unsigned char", "u8", "s8", "__u8", "__s8", "uint8_t", "int8_t"]

/-- Whether a type is a character type. Any `const` stands before any `volatile`. -/
def isCharType (type : List Char) : Bool :=
  charTypes.any fun spelling => spelling.toList == trim (dropVolatile (dropConst (trim type)))

/-- Drops every array suffix `[]` that ends a type. -/
def dropEmptyArrays (type : List Char) : List Char :=
  (go type.reverse).reverse
where
  go : List Char → List Char
    | ']' :: '[' :: rest => go rest
    | cs => cs

/-- The type of the elements of a dynamic array, for a declaration such as `__data_loc char[] name`.
-/
def dynamicElement? (decl : CDecl) : Option (List Char) :=
  (after? "__data_loc".toList decl.type).map fun rest => trim (dropEmptyArrays (trim rest))

/-- Whether the declaration has a pointer star in its type or in front of its name. -/
def isPointer (decl : CDecl) : Bool :=
  decl.type.contains '*' || decl.declarator.head? == some '*'

def pointee (decl : CDecl) : List Char :=
  trim (dropEndWhile (· == '*') decl.type)

/-- The text between the first bracket of an array's declarator and the brackets that close it. -/
def extent? (decl : CDecl) : Option (List Char) :=
  match decl.declarator.dropWhile (· != '[') with
  | [] => none
  | _ :: rest => some (trim (dropEndWhile (· == ']') rest))

end TraceLayout.CDecl
