/-! How deep the parts of a regular expression stand within each other. A part that has several
parts is one level deeper than they are. -/
namespace TraceLayout.Pattern

/-- How deep parts may stand within each other. -/
def deepest : Nat := 250

/-- The parts of a group or class that have been read so far. -/
structure Parts where
  /-- How many parts stand behind the last bar or set operator. -/
  count : Nat := 0
  /-- The greatest depth of those but the last one. -/
  depth : Nat := 0
  /-- The depth of the last one. -/
  last : Nat := 0
  /-- Whether the last one can be repeated. -/
  repeatable : Bool := false
  /-- The depth of what stands in front of the last bar or set operator. -/
  before? : Option Nat := none
  deriving DecidableEq, Repr

namespace Parts

def push (parts : Parts) (depth : Nat) (repeatable : Bool) : Parts :=
  { parts with
    count := parts.count + 1
    depth := max parts.depth parts.last
    last := depth
    repeatable }

/-- Repeats the last part, if there is one that can be. -/
def repeated? (parts : Parts) : Option Parts :=
  if parts.repeatable then some { parts with last := parts.last + 1 } else none

def row (parts : Parts) : Nat :=
  if parts.count ≤ 1 then parts.last else max parts.depth parts.last + 1

def total (parts : Parts) : Nat :=
  match parts.before? with
  | none => parts.row
  | some before => max before parts.row + 1

/-- Begins another branch of a choice. All branches are equally deep in it. -/
def nextBranch (parts : Parts) : Parts where
  before? := some (max (parts.before?.getD 0) parts.row)

/-- Begins the second operand of a set operator. The first one is all that stands before it. -/
def nextOperand (parts : Parts) : Parts where
  before? := some parts.total

end TraceLayout.Pattern.Parts
