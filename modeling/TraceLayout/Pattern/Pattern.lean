import TraceLayout.Pattern.Bracket
import TraceLayout.Text.Alphanumeric

/-! Regular expressions, of which only has to be known whether a text is one. Braces count nothing:
what stands between them is refused. -/
namespace TraceLayout.Pattern

/-- A regular expression that has been read up to some point. -/
structure Progress where
  modes : Modes := {}
  /-- The parts of the innermost open group. -/
  parts : Parts := {}
  /-- The modes and the parts around each open group, the innermost first. -/
  outer : List (Modes × Parts) := []
  names : List (List Char) := []

namespace Progress

def add (progress : Progress) (depth : Nat) : Progress :=
  { progress with parts := progress.parts.push depth true }

def addAtom (progress : Progress) (atom : Atom) : Option Progress :=
  if atom.isKnown progress.modes then some (progress.add 0) else none

/-- Opens a group, in which flags apply. -/
def openGroup (progress : Progress) (given : List Char) : Progress :=
  { progress with
    modes := progress.modes.after given
    parts := {}
    outer := (progress.modes, progress.parts) :: progress.outer }

def closeGroup (progress : Progress) : Option Progress :=
  match progress.outer with
  | [] => none
  | (modes, parts) :: outer =>
    some { progress with modes, parts := parts.push (progress.parts.total + 1) true, outer }

end Progress

def isGroupName : List Char → Bool
  | [] => false
  | c :: cs =>
    (c == '_' || Text.isLetter c) &&
      cs.all fun c => c == '_' || c == '.' || c == '[' || c == ']' || Text.isAlphanumeric c

/-- Opens a group with a name, which stands in front of an angle bracket. -/
def openNamed (progress : Progress) (cs : List Char) : Option (Progress × List Char) :=
  let (name, rest) := cs.span (· != '>')
  match rest with
  | [] => none
  | _ :: rest =>
    if isGroupName name ∧ name ∉ progress.names then
      some ({ progress.openGroup [] with names := name :: progress.names }, rest)
    else none

/-- Reads what stands behind an opening parenthesis: the start of a group, or flags for the rest of
the group around it. Looking around is refused. -/
def readOpening (progress : Progress) (cs : List Char) : Option (Progress × List Char) :=
  match progress.modes.skip cs with
  | '?' :: '=' :: _ => none
  | '?' :: '!' :: _ => none
  | '?' :: '<' :: '=' :: _ => none
  | '?' :: '<' :: '!' :: _ => none
  | '?' :: '<' :: rest => openNamed progress rest
  | '?' :: 'P' :: '<' :: rest => openNamed progress rest
  | '?' :: rest => do
    let (given, mark, rest) ← readFlags [] rest
    if mark = ':' then some (progress.openGroup given, rest)
    else if given = [] then none
    else some ({ progress with
      modes := progress.modes.after given
      parts := progress.parts.push 0 false }, rest)
  | rest => some (progress.openGroup [], rest)

/-- Reads the next part, or a mark between parts. -/
def readPart (progress : Progress) : List Char → Option (Progress × List Char)
  | [] => none
  | '(' :: rest => readOpening progress rest
  | ')' :: rest => do return (← progress.closeGroup, rest)
  | '|' :: rest => some ({ progress with parts := progress.parts.nextBranch }, rest)
  | '[' :: rest => do
    let inside ← dropCaret progress.modes rest
    let (depth, rest) ← readClass progress.modes inside.length.succ [] true {} inside
    return (progress.add depth, rest)
  | '\x7b' :: _ => none
  | '\\' :: rest => do
    let (atom, rest) ← readEscape progress.modes rest
    return (← progress.addAtom atom, rest)
  | '.' :: rest => if progress.modes.unicode then some (progress.add 0, rest) else none
  | c :: rest =>
    if c = '?' ∨ c = '*' ∨ c = '+' then do
      let parts ← progress.parts.repeated?
      return ({ progress with parts }, if rest.head? = some '?' then rest.drop 1 else rest)
    else do
      let atom := if c = '^' ∨ c = '$' then .edge else .char c.toNat false
      return (← progress.addAtom atom, rest)

/-- Reads a text to its end, where no group may be open. Each part uses up one unit of fuel. -/
def reads : (fuel : Nat) → Progress → List Char → Bool
  | 0, _, _ => false
  | fuel + 1, progress, cs =>
    match progress.modes.skip cs with
    | [] => progress.outer.isEmpty && progress.parts.total ≤ deepest
    | cs =>
      match readPart progress cs with
      | some (progress, rest) => reads fuel progress rest
      | none => false

def isValid (cs : List Char) : Bool := reads cs.length.succ {} cs

end TraceLayout.Pattern
