import TraceLayout.Text.Blank

/-! The modes in which a regular expression is read. Flags set them for the rest of a group. -/
namespace TraceLayout.Pattern

structure Modes where
  /-- Whether a pattern matches characters, and not bytes. -/
  unicode : Bool := true
  /-- Whether letters match in either case. -/
  anyCase : Bool := false
  /-- Whether white space and comments say nothing. -/
  spaced : Bool := false
  deriving DecidableEq, Repr

/-- The flags of a regular expression. A dash takes back the flags behind it. -/
def flags : List Char := "imsUuRx-".toList

/-- What a list of flags says about one of them. -/
def flagState? (given : List Char) (flag : Char) : Option Bool :=
  if flag ∈ given then some (!(given.takeWhile (· != flag)).contains '-') else none

/-- The modes after a list of flags. Flags for what a match is do not matter to reading. -/
def Modes.after (modes : Modes) (given : List Char) : Modes where
  unicode := (flagState? given 'u').getD modes.unicode
  anyCase := (flagState? given 'i').getD modes.anyCase
  spaced := (flagState? given 'x').getD modes.spaced

/-- Reads flags up to a colon or a closing parenthesis, and returns them, this mark and the rest.
None is given twice, and a dash has flags behind it. -/
def readFlags (given : List Char) : List Char → Option (List Char × Char × List Char)
  | [] => none
  | c :: rest =>
    if c = ':' ∨ c = ')' then
      if given.getLast? = some '-' then none else some (given, c, rest)
    else if c ∈ flags ∧ c ∉ given then readFlags (given ++ [c]) rest
    else none

/-- Drops white space and comments, which run from a number sign to the end of a line. -/
def dropRemarks (inComment : Bool) : List Char → List Char
  | [] => []
  | c :: cs =>
    if inComment then dropRemarks (c != '\n') cs
    else if Text.isBlank c then dropRemarks false cs
    else if c = '#' then dropRemarks true cs
    else c :: cs

def Modes.skip (modes : Modes) (cs : List Char) : List Char :=
  if modes.spaced then dropRemarks false cs else cs

/-- The next character behind a dash in a class. Where white space says nothing, it is looked for
behind white space and the mark of a comment, but not behind the comment. -/
def Modes.peek (modes : Modes) (cs : List Char) : Option Char :=
  if modes.spaced then
    match cs.dropWhile Text.isBlank with
    | '#' :: rest => (rest.dropWhile Text.isBlank).head?
    | rest => rest.head?
  else cs.head?

end TraceLayout.Pattern
