import TraceLayout.Pattern.Escape
import TraceLayout.Pattern.Nesting

/-! Classes of characters in brackets. A class has characters, ranges, named classes and other
classes as its items, and set operators between them. -/
namespace TraceLayout.Pattern

def classNames : List String :=
  ["alnum", "alpha", "ascii", "blank", "cntrl", "digit", "graph", "lower", "print", "punct",
   "space", "upper", "word", "xdigit"]

/-- Reads a class by its name, behind its opening bracket. It is told whether a caret negates it. -/
def readNamed (cs : List Char) : Option (Bool × List Char) := do
  let rest ← Text.after? [':'] cs
  let (negated, rest) := match rest with
    | '^' :: rest => (true, rest)
    | _ => (false, rest)
  let (name, rest) := rest.span (· != ':')
  if String.ofList name ∈ classNames then
    return (negated, ← Text.after? [':', ']'] rest)
  else none

/-- Whether a class can be named as an item in some modes. Only where characters are matched can it
be negated. -/
def allowsNamed (modes : Modes) (negated : Bool) : Bool :=
  if modes.unicode then !modes.anyCase else !negated

/-- Reads one atom of a class, which is an escape or any character. -/
def readClassAtom (modes : Modes) : List Char → Option (Atom × List Char)
  | [] => none
  | '\\' :: rest => readEscape modes rest
  | c :: rest => some (.char c.toNat false, rest)

def readRangeEnd (modes : Modes) (start : Nat) (cs : List Char) : Option (List Char) := do
  match ← readClassAtom modes (modes.skip cs) with
  | (.char stop asByte, rest) =>
    if start ≤ stop ∧ (Atom.char stop asByte).isItem modes then some rest else none
  | _ => none

/-- Reads an atom of a class, or a range that starts with it. A dash in front of a bracket or of
another dash makes no range. -/
def readItem (modes : Modes) (cs : List Char) : Option (List Char) := do
  let (atom, rest) ← readClassAtom modes cs
  if atom.isItem modes then
    match modes.skip rest with
    | '-' :: rest =>
      if modes.peek rest = some ']' ∨ modes.peek rest = some '-' then some ('-' :: rest)
      else match atom with
        | .char start _ => readRangeEnd modes start rest
        | _ => none
    | rest => some rest
  else none

/-- The rest of a text after a set operator, which is one of three marks written twice. -/
def operator? : List Char → Option (List Char)
  | '&' :: '&' :: rest => some rest
  | '-' :: '-' :: rest => some rest
  | '~' :: '~' :: rest => some rest
  | _ => none

/-- The rest of a text after the caret that negates a class, if it starts with one. Only where
characters are matched can a class be negated. -/
def dropCaret (modes : Modes) (cs : List Char) : Option (List Char) :=
  match modes.skip cs with
  | '^' :: rest => if modes.unicode then some rest else none
  | rest => some rest

/-- Reads a class behind its opening bracket, and gives its depth. The parts of the classes around
it are in `outer`. At the start of a class, dashes and a closing bracket are items. -/
def readClass (modes : Modes) : (fuel : Nat) → (outer : List Parts) → (atStart : Bool) → Parts →
    List Char → Option (Nat × List Char)
  | 0, _, _, _, _ => none
  | fuel + 1, outer, atStart, parts, cs =>
    let item : Parts := parts.push 0 false
    match modes.skip cs with
    | [] => none
    | '[' :: rest =>
      match readNamed rest with
      | some (negated, rest) =>
        if allowsNamed modes negated then readClass modes fuel outer false item rest else none
      | none => do readClass modes fuel (parts :: outer) true {} (← dropCaret modes rest)
    | c :: rest =>
      if atStart ∧ (c = '-' ∨ c = ']' ∧ parts.count = 0) then
        if (Atom.char c.toNat false).isItem modes then
          readClass modes fuel outer (c = '-') item rest
        else none
      else if c = ']' then
        match outer with
        | [] => some (parts.total + 1, rest)
        | around :: outer =>
          readClass modes fuel outer false (around.push (parts.total + 1) false) rest
      else
        match operator? (c :: rest) with
        | some rest => readClass modes fuel outer false parts.nextOperand rest
        | none => do readClass modes fuel outer false item (← readItem modes (c :: rest))

end TraceLayout.Pattern
