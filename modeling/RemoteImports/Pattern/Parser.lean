import RemoteImports.Pattern.Problem
import RemoteImports.Pattern.Size
import RemoteImports.Text.Ascii
import RemoteImports.Text.Segments
import RemoteImports.Text.Unicode.Alphanumeric

/-!
# Reading a pattern

A pattern is read from its front; each reader gives back the text that is left. Flags
change how what follows is read: for one, blanks and comments may be let in between, which
is why every step to the next character goes through `skip`.
-/

namespace RemoteImports
namespace Pattern

/-- How the rest of a pattern is to be read. -/
structure Flags where
  ignoreCase : Bool := false
  lines : Bool := false
  dotAll : Bool := false
  anyLineEnd : Bool := false
  verbose : Bool := false

/-- A pattern without the blanks and comments at its front; whether it begins inside a
comment. -/
def skipVerbose : (inComment : Bool) -> List Char -> List Char
  | _, [] => []
  | true, c :: cs => skipVerbose (c != '\n') cs
  | false, c :: cs =>
    if Text.isBlank c then skipVerbose false cs
    else if c = '#' then skipVerbose true cs
    else c :: cs

def Flags.skip (flags : Flags) (cs : List Char) : List Char :=
  if flags.verbose then skipVerbose false cs else cs

theorem skipVerbose_length (inComment : Bool) (cs : List Char) :
    (skipVerbose inComment cs).length <= cs.length := by
  fun_induction skipVerbose inComment cs <;> simp <;> omega

theorem skip_length (flags : Flags) (cs : List Char) : (flags.skip cs).length <= cs.length := by
  unfold Flags.skip
  split
  · exact skipVerbose_length _ _
  · exact Nat.le_refl _

/-!
## Characters
-/

def Flags.char (flags : Flags) (c : Char) : Tree :=
  match (Range.ofChars c c).fold with
  | [] => .char c
  | folded => if flags.ignoreCase then .cls (Class.ofChar c ++ folded) else .char c

def Flags.dot (flags : Flags) : Tree :=
  if flags.dotAll then .cls (Class.complement [])
  else if flags.anyLineEnd then .cls (Class.complement (.ofChar '\r' ++ .ofChar '\n'))
  else .cls (Class.complement (.ofChar '\n'))

def Flags.caret (flags : Flags) : Tree :=
  .look (if !flags.lines then .textStart
    else if flags.anyLineEnd then .anyLineStart
    else .lineStart)

def Flags.dollar (flags : Flags) : Tree :=
  .look (if !flags.lines then .textEnd else if flags.anyLineEnd then .anyLineEnd else .lineEnd)

def readFixedHex (flags : Flags) :
    (count value : Nat) -> List Char -> Except Problem (Nat × List Char)
  | 0, value, cs => .ok (value, cs)
  | _ + 1, _, [] => .error .endInFixedHex
  | count + 1, value, c :: cs =>
    match Text.hexDigit? c with
    | none => .error .noFixedHexDigit
    | some digit => readFixedHex flags count (value * 16 + digit) (flags.skip cs)

def readBracedHex (flags : Flags) (digits : List Nat) (cs : List Char) :
    Except Problem (List Nat × List Char) :=
  match cs with
  | [] => .error .endInBracedHex
  | c :: cs =>
    have := skip_length flags cs
    if c = '}' then .ok (digits, flags.skip cs)
    else match Text.hexDigit? c with
      | none => .error .noHexDigit
      | some digit => readBracedHex flags (digits ++ [digit]) (flags.skip cs)
termination_by cs.length

/-- Reads the code of a character behind a letter that says how many digits it has. -/
def readHex (flags : Flags) (count : Nat) (cs : List Char) :
    Except Problem (Tree × List Char) :=
  match flags.skip cs with
  | [] => .error .endBeforeHex
  | '{' :: cs => do
    let (digits, cs) <- readBracedHex flags [] (flags.skip cs)
    if digits.isEmpty then .error .emptyBracedHex
    else match Text.scalar? (digits.foldl (fun value digit => value * 16 + digit) 0) with
      | none => .error .invalidBracedHex
      | some c => .ok (flags.char c, cs)
  | cs => do
    let (value, cs) <- readFixedHex flags count 0 cs
    match Text.scalar? value with
    | none => .error .invalidFixedHex
    | some c => .ok (flags.char c, cs)

/-- The letters of the name of a word boundary, and what follows them. -/
def readBoundaryName (flags : Flags) (cs : List Char) : List Char × List Char :=
  match cs with
  | [] => ([], [])
  | c :: cs =>
    have := skip_length flags cs
    if c.isAlpha || c == '-' then
      let (name, rest) := readBoundaryName flags (flags.skip cs)
      (c :: name, rest)
    else ([], c :: cs)
termination_by cs.length

def boundary? (name : String) : Option Look :=
  match name with
  | "start" => some .wordStart
  | "end" => some .wordEnd
  | "start-half" => some .wordStartHalf
  | "end-half" => some .wordEndHalf
  | _ => none

/-- Reads what follows `\b`: a name in braces, if one begins there. -/
def readBoundary (flags : Flags) : List Char -> Except Problem (Tree × List Char)
  | '{' :: cs =>
    match flags.skip cs with
    | [] => .error .endInBoundary
    | cs' =>
      match readBoundaryName flags cs' with
      | ([], _) => .ok (.look .boundary, '{' :: cs)
      | (name, '}' :: rest) =>
        match boundary? (String.ofList name) with
        | some look => .ok (.look look, rest)
        | none => .error .unknownBoundary
      | _ => .error .unclosedBoundary
  | cs => .ok (.look .boundary, cs)

def isPlainEscape (c : Char) : Bool :=
  c.toNat < 0x80 && !c.isAlphanum && c != '<' && c != '>'

def readEscape (flags : Flags) : List Char -> Except Problem (Tree × List Char)
  | [] => .error .endInEscape
  | c :: cs =>
    if c.isDigit then .error .backreference
    else if isPlainEscape c then .ok (flags.char c, cs)
    else match escapeClass? c, c with
      | some cls, _ => .ok (.cls cls, cs)
      | none, 'p' => .error .unicodeClass
      | none, 'P' => .error .unicodeClass
      | none, 'x' => readHex flags 2 cs
      | none, 'u' => readHex flags 4 cs
      | none, 'U' => readHex flags 8 cs
      | none, 'a' => .ok (flags.char '\x07', cs)
      | none, 'f' => .ok (flags.char '\x0C', cs)
      | none, 't' => .ok (flags.char '\t', cs)
      | none, 'n' => .ok (flags.char '\n', cs)
      | none, 'r' => .ok (flags.char '\r', cs)
      | none, 'v' => .ok (flags.char '\x0B', cs)
      | none, 'A' => .ok (.look .textStart, cs)
      | none, 'z' => .ok (.look .textEnd, cs)
      | none, 'b' => readBoundary flags cs
      | none, 'B' => .ok (.look .noBoundary, cs)
      | none, '<' => .ok (.look .wordStart, cs)
      | none, '>' => .ok (.look .wordEnd, cs)
      | none, _ => .error .unknownEscape

/-!
## Classes
-/

/-- Reads a class by its name behind its opening bracket, if one stands there. -/
def readNamed? (cs : List Char) : Option (Class × List Char) :=
  match cs with
  | ':' :: cs =>
    let (negated, cs) := match cs with
      | '^' :: cs => (true, cs)
      | cs => (false, cs)
    match cs.dropWhile (· != ':') with
    | ':' :: ']' :: rest =>
      (named? (String.ofList (cs.takeWhile (· != ':')))).map fun cls =>
        (if negated then cls.complement else cls, rest)
    | _ => none
  | _ => none

def Flags.peek (flags : Flags) (cs : List Char) : Option Char :=
  if !flags.verbose then cs.head?
  else
    let past := cs.dropWhile Text.isBlank
    let past := match past with
      | '#' :: rest => rest.dropWhile Text.isBlank
      | _ => past
    match past with
    | [] => cs.head?
    | c :: _ => some c

def readItem (flags : Flags) : List Char -> Except Problem (Tree × List Char)
  | [] => .error .unclosedClass
  | '\\' :: cs => readEscape flags cs
  | c :: cs => .ok (.char c, cs)

def itemChar : Tree -> Except Problem Char
  | .char c => .ok c
  | _ => .error .invalidRangeItem

def itemClass : Tree -> Except Problem Class
  | .char c => .ok (.ofChar c)
  | .cls cls => .ok cls
  | _ => .error .invalidItem

def readRange (flags : Flags) (cs : List Char) : Except Problem (Class × List Char) := do
  let (item, cs) <- readItem flags cs
  match flags.skip cs with
  | [] => .error .endAfterItem
  | c :: cs =>
    if c ≠ '-' ∨ flags.peek cs = some ']' ∨ flags.peek cs = some '-' then
      return (<- itemClass item, c :: cs)
    else match flags.skip cs with
      | [] => .error .endAfterDash
      | cs => do
        let (other, cs) <- readItem flags cs
        let first <- itemChar item
        let last <- itemChar other
        if last < first then .error .invalidRange else return ([.ofChars first last], cs)

/-- Reads the items of a class up to its closing bracket, in at most `fuel` steps. -/
def readItems (flags : Flags) :
    (fuel : Nat) -> Class -> List Char -> Except Problem (Class × List Char)
  | 0, _, _ => .error .unclosedClass
  | fuel + 1, cls, cs =>
    match flags.skip cs with
    | [] => .error .unclosedClass
    | ']' :: cs => .ok (cls, cs)
    | '[' :: cs =>
      match readNamed? cs with
      | some (named, cs) => readItems flags fuel (cls ++ named) cs
      | none => .error .nestedClass
    | '&' :: '&' :: _ => .error .intersection
    | '-' :: '-' :: _ => .error .difference
    | '~' :: '~' :: _ => .error .symmetricDifference
    | cs => do
      let (more, cs) <- readRange flags cs
      readItems flags fuel (cls ++ more) cs

def readDashes (flags : Flags) (cls : Class) (cs : List Char) :
    Except Problem (Class × List Char) :=
  match cs with
  | '-' :: cs =>
    match h : flags.skip cs with
    | [] => .error .endAfterDash
    | c :: rest =>
      have : (c :: rest).length <= cs.length := h ▸ skip_length flags cs
      readDashes flags (cls ++ .ofChar '-') (c :: rest)
  | cs => .ok (cls, cs)
termination_by cs.length
decreasing_by simp only [List.length_cons] at *; omega

/-- Reads a closing bracket at the front of a class, which does not close it. -/
def readBracket (flags : Flags) (cls : Class) (cs : List Char) :
    Except Problem (Class × List Char) :=
  match cls, cs with
  | [], ']' :: cs =>
    match flags.skip cs with
    | [] => .error .endAfterBracket
    | cs => .ok (.ofChar ']', cs)
  | cls, cs => .ok (cls, cs)

def readClass (flags : Flags) (cs : List Char) : Except Problem (Tree × List Char) := do
  let cs := flags.skip cs
  if cs.isEmpty then throw .unclosedClass
  let negated := cs.head? == some '^'
  let cs := if negated then flags.skip (cs.drop 1) else cs
  if cs.isEmpty then throw .endAfterCaret
  let (cls, cs) <- readDashes flags [] cs
  let (cls, cs) <- readBracket flags cls cs
  let (cls, cs) <- readItems flags (cs.length + 1) cls cs
  let cls := if flags.ignoreCase then cls.normal.fold else cls.normal
  return (.cls (if negated then cls.complement else cls), cs)

/-!
## Repetition
-/

def readDigits (flags : Flags) (cs : List Char) : List Nat × List Char :=
  match cs with
  | [] => ([], [])
  | c :: cs =>
    have := skip_length flags cs
    match Text.decimalDigit? c with
    | none => ([], c :: cs)
    | some digit =>
      let (digits, rest) := readDigits flags (flags.skip cs)
      (digit :: digits, rest)
termination_by cs.length

def readCount (flags : Flags) (cs : List Char) : Except Problem (Nat × List Char) :=
  let (digits, cs) := readDigits flags (cs.dropWhile Text.isBlank)
  let value := digits.foldl (fun value digit => value * 10 + digit) 0
  if digits.isEmpty then .error .noDecimalDigits
  else if Nat.pow 2 32 <= value then .error .invalidDecimal
  else .ok (value, cs.dropWhile Text.isBlank)

/-- What follows a question mark, if one stands at the front. -/
def dropQuestion : List Char -> List Char
  | '?' :: cs => cs
  | cs => cs

/-- Reads the greatest count of a repetition, from behind the least. -/
def readGreatest (flags : Flags) (least : Nat) (cs : List Char) :
    Except Problem (Option Nat × List Char) :=
  match cs with
  | [] => .error .endAfterLeast
  | ',' :: cs =>
    match flags.skip cs with
    | [] => .error .endAfterComma
    | '}' :: cs => .ok (none, '}' :: cs)
    | cs => do
      let (greatest, cs) <- readCount flags cs
      if cs.isEmpty then .error .endAfterGreatest else return (some greatest, cs)
  | cs => .ok (some least, cs)

/-- Reads the counts of a repetition from behind the opening brace. -/
def readCounts (flags : Flags) (cs : List Char) :
    Except Problem ((Nat × Option Nat) × List Char) := do
  let cs := flags.skip cs
  if cs.isEmpty then throw .endInCount
  let (least, cs) <- readCount flags cs
  let (greatest, cs) <- readGreatest flags least cs
  match cs with
  | '}' :: cs =>
    if greatest.any fun n => n < least then .error .invalidCount
    else return ((least, greatest), dropQuestion (flags.skip cs))
  | _ => .error .unclosedCount

/-!
## Groups
-/

/-- Whether a character may stand in the name of a group, or may be its first. -/
def isNameChar (first : Bool) (c : Char) : Bool :=
  if first then c == '_' || Text.Unicode.isAlphabetic c
  else c == '_' || c == '.' || c == '[' || c == ']' || Text.Unicode.isAlphabetic c
    || Text.Unicode.isNumeric c

def readName : (first : Bool) -> List Char -> Except Problem (List Char × List Char)
  | first, [] => .error (if first then .endBeforeName else .endInName)
  | first, c :: cs =>
    if c = '>' then .ok ([], cs)
    else if isNameChar first c then (readName false cs).map fun (name, rest) => (c :: name, rest)
    else .error .invalidName

/-- Reads flags up to a colon or the closing bracket. `seen` holds those that were read,
and `negation` is a minus sign that was. -/
def readFlags (negate dangling : Bool) (seen : List Char) (flags : Flags) :
    List Char -> Except Problem (Flags × List Char)
  | [] => .error .endInFlags
  | c :: cs =>
    if c = ':' ∨ c = ')' then
      if dangling then .error .danglingNegation else .ok (flags, c :: cs)
    else if c = '-' then
      if negate then .error .repeatedNegation else readFlags true true seen flags cs
    else
      let on := !negate
      let flags? : Option Flags := match c with
        | 'i' => some { flags with ignoreCase := on }
        | 'm' => some { flags with lines := on }
        | 's' => some { flags with dotAll := on }
        | 'U' => some flags
        | 'R' => some { flags with anyLineEnd := on }
        | 'x' => some { flags with verbose := on }
        | 'u' => some flags
        | _ => none
      match flags? with
      | none => .error .unknownFlag
      | some flags =>
        if seen.contains c then .error .duplicateFlag
        else readFlags negate false (c :: seen) flags cs

/-- What is left to read, how, how many groups were opened so far, and their names. -/
structure State where
  rest : List Char
  flags : Flags
  groups : Nat
  names : List String

/-- The next group to be opened, and what is left to read inside it. -/
def State.enter (state : State) (name : Option String) (rest : List Char) : Group × State :=
  let index := state.groups + 1
  ({ index, name },
    { state with rest, groups := index, names := name.toList ++ state.names })

/-- How the inside of a group is read. -/
abbrev Inside := State -> Except Problem (Tree × State)

/-- What stands at the front of a group. -/
inductive Opening where
  | plain (cs : List Char)
  | named (cs : List Char)
  | marked (cs : List Char)

/-- What stands at the front of a group, from behind its opening bracket. -/
def opening (cs : List Char) : Except Problem Opening :=
  match cs with
  | '?' :: '=' :: _ => .error .lookAround
  | '?' :: '!' :: _ => .error .lookAround
  | '?' :: '<' :: '=' :: _ => .error .lookAround
  | '?' :: '<' :: '!' :: _ => .error .lookAround
  | '?' :: 'P' :: '<' :: cs => .ok (.named cs)
  | '?' :: '<' :: cs => .ok (.named cs)
  | '?' :: cs => .ok (.marked cs)
  | cs => .ok (.plain cs)

/-- Reads a group from behind its opening bracket to before its closing one: its tree, if
it is more than flags for what follows. -/
def readGroup (inside : Inside) (state : State) : Except Problem (Option Tree × State) := do
  match <- opening (state.flags.skip state.rest) with
  | .plain cs =>
    let (group, state) := state.enter none cs
    let (tree, state) <- inside state
    return (some (.capture group tree), state)
  | .named cs =>
    let (name, cs) <- readName true cs
    let name := String.ofList name
    if name.isEmpty then throw .emptyName
    if state.names.contains name then throw .duplicateName
    let (group, state) := state.enter (some name) cs
    let (tree, state) <- inside state
    return (some (.capture group tree), state)
  | .marked cs =>
    if cs.isEmpty then throw .endAfterQuestion
    let (flags, rest) <- readFlags false false [] state.flags cs
    match rest with
    | ':' :: rest =>
      let (tree, state) <- inside { state with flags, rest }
      return (some tree, state)
    | _ =>
      if rest.length = cs.length then throw .emptyFlags
      return (none, { state with flags, rest })

def repeatLast (problem : Problem) (parts : List Tree) (wrap : Tree -> Tree) :
    Except Problem (List Tree) :=
  match parts with
  | [] => .error problem
  | part :: parts => .ok (wrap part :: parts)

def readWholeGroup (inside : Inside) (state : State) : Except Problem (List Tree × State) := do
  let (tree, after) <- readGroup inside state
  match after.rest with
  | ')' :: rest =>
    match tree with
    | some tree => return ([tree], { after with rest, flags := state.flags })
    | none => return ([], { after with rest })
  | _ => throw .unclosedGroup

/-- Reads a part that is no group, from behind its first character. -/
def readPart (flags : Flags) (c : Char) (cs : List Char) : Except Problem (Tree × List Char) :=
  match c with
  | '[' => readClass flags cs
  | '\\' => readEscape flags cs
  | '.' => .ok (flags.dot, cs)
  | '^' => .ok (flags.caret, cs)
  | '$' => .ok (flags.dollar, cs)
  | c => .ok (flags.char c, cs)

/-- Reads parts up to the end or a closing bracket, in at most `fuel` steps. The choices
before and the parts so far are in reverse order. -/
def readParts (inside : Inside) (top : Bool) :
    (fuel : Nat) -> (choices parts : List Tree) -> State -> Except Problem (Tree × State)
  | 0, choices, parts, state => .ok (finish choices parts, state)
  | fuel + 1, choices, parts, state => do
    match state.flags.skip state.rest with
    | [] => return (finish choices parts, { state with rest := [] })
    | c :: cs =>
      let next := { state with rest := cs }
      match c with
      | '(' =>
        let (group, state) <- readWholeGroup inside next
        readParts inside top fuel choices (group ++ parts) state
      | ')' =>
        if top then throw .unopenedGroup
        return (finish choices parts, { state with rest := c :: cs })
      | '|' => readParts inside top fuel (.ofSequence parts.reverse :: choices) [] next
      | '?' =>
        let parts <- repeatLast .nothingToRepeat parts (.ofRepetition 0 (some 1))
        readParts inside top fuel choices parts { next with rest := dropQuestion cs }
      | '*' =>
        let parts <- repeatLast .nothingToRepeat parts (.ofRepetition 0 none)
        readParts inside top fuel choices parts { next with rest := dropQuestion cs }
      | '+' =>
        let parts <- repeatLast .nothingToRepeat parts (.ofRepetition 1 none)
        readParts inside top fuel choices parts { next with rest := dropQuestion cs }
      | '{' =>
        if parts.isEmpty then throw .nothingToCount
        let ((least, greatest), rest) <- readCounts state.flags cs
        let parts <- repeatLast .nothingToCount parts (.ofRepetition least greatest)
        readParts inside top fuel choices parts { next with rest }
      | _ =>
        let (part, rest) <- readPart state.flags c cs
        readParts inside top fuel choices (part :: parts) { next with rest }
where
  /-- The tree of the choices before and the parts so far. -/
  finish (choices parts : List Tree) : Tree :=
    .ofChoice (choices.reverse ++ [.ofSequence parts.reverse])

/-- Reads a pattern or the inside of a group that may hold groups so many levels deep. -/
def readInside (top : Bool) : (levels : Nat) -> Inside
  | 0, _ => .error .tooMuchNesting
  | levels + 1, state =>
    readParts (readInside false levels) top (state.rest.length + 1) [] [] state

def parse (pattern : String) : Except Problem Tree := do
  let (tree, _) <- readInside true (greatestNesting + 1)
    { rest := pattern.toList, flags := {}, groups := 0, names := [] }
  if greatestNesting < tree.depth then throw .tooMuchNesting
  if greatestSize < tree.wholeSize then throw .tooBig
  return tree

end Pattern
end RemoteImports
