import RemoteImports.Pattern.Syntax

/-!
# Matching

A pattern takes a set of places in a text to the set of places where a match that begins
at one of them may end. A pattern matches somewhere in a text if the places it takes all
places of the text to are not none.

Repeating goes on until no place is new, so it ends after as many rounds as the text has
places.
-/

namespace RemoteImports
namespace Pattern

/-- A place in a text: how many characters are before it, the last of them, and those
behind it. -/
structure Place where
  index : Nat
  before : Option Char
  behind : List Char

/-- A set of places, in ascending order. -/
abbrev Places := List Place

def union : Places -> Places -> Places
  | [], places => places
  | places, [] => places
  | p :: ps, q :: qs =>
    if p.index < q.index then p :: union ps (q :: qs)
    else if q.index < p.index then q :: union (p :: ps) qs
    else p :: union ps qs
termination_by a b => a.length + b.length

def outside : Places -> Places -> Places
  | [], _ => []
  | places, [] => places
  | p :: ps, q :: qs =>
    if p.index < q.index then p :: outside ps (q :: qs)
    else if q.index < p.index then outside (p :: ps) qs
    else outside ps qs
termination_by a b => a.length + b.length

/-- The place behind the next character, if that satisfies `p`. -/
def Place.next? (p : Char -> Bool) (place : Place) : Option Place :=
  match place.behind with
  | [] => none
  | c :: cs =>
    if p c then some { index := place.index + 1, before := some c, behind := cs } else none

def Place.hasBefore (place : Place) (p : Char -> Bool) : Bool :=
  (place.before.map p).getD false

def Place.hasBehind (place : Place) (p : Char -> Bool) : Bool :=
  (place.behind.head?.map p).getD false

def Look.holds (look : Look) (place : Place) : Bool :=
  let wordBefore := place.hasBefore isWordChar
  let wordBehind := place.hasBehind isWordChar
  match look with
  | textStart => place.before.isNone
  | textEnd => place.behind.isEmpty
  | lineStart => place.before.isNone || place.hasBefore (· == '\n')
  | lineEnd => place.behind.isEmpty || place.hasBehind (· == '\n')
  | anyLineStart => place.before.isNone || place.hasBefore (· == '\n')
      || (place.hasBefore (· == '\r') && !place.hasBehind (· == '\n'))
  | anyLineEnd => place.behind.isEmpty || place.hasBehind (· == '\r')
      || (place.hasBehind (· == '\n') && !place.hasBefore (· == '\r'))
  | boundary => wordBefore != wordBehind
  | noBoundary => wordBefore == wordBehind
  | wordStart => !wordBefore && wordBehind
  | wordEnd => wordBefore && !wordBehind
  | wordStartHalf => !wordBefore
  | wordEndHalf => !wordBehind

/-- Takes a step a fixed number of times; a round that changes nothing is the last. -/
def exactly (step : Places -> Places) : (count : Nat) -> Places -> Places
  | 0, places => places
  | count + 1, places =>
    let next := step places
    if next.map (·.index) = places.map (·.index) then places else exactly step count next

/-- Takes a step up to a number of times from the new places, and gathers all places. -/
def atMost (step : Places -> Places) : (count : Nat) -> (new all : Places) -> Places
  | 0, _, all => all
  | count + 1, new, all =>
    match outside (step new) all with
    | [] => all
    | p :: ps => atMost step count (p :: ps) (union all (p :: ps))

mutual

/-- The places where a match that begins at one of the given places may end. `rounds`
bounds how often a repetition without a bound is tried. -/
def Tree.ends (rounds : Nat) : Tree -> Places -> Places
  | .empty, places => places
  | .char c, places => places.filterMap (Place.next? (· == c))
  | .cls ranges, places => places.filterMap (Place.next? fun c => Class.holds ranges c.toNat)
  | .look condition, places => places.filter condition.holds
  | .repeated least greatest inner, places =>
    let start := exactly (inner.ends rounds) least places
    match greatest with
    | none => atMost (inner.ends rounds) rounds start start
    | some greatest => atMost (inner.ends rounds) (min rounds (greatest - least)) start start
  | .capture _ inner, places => inner.ends rounds places
  | .sequence parts, places => Tree.endsAll rounds parts places
  | .choice parts, places => Tree.endsAny rounds parts places

/-- The places where a match of all parts, one after the other, may end. -/
def Tree.endsAll (rounds : Nat) : List Tree -> Places -> Places
  | [], places => places
  | part :: parts, places => Tree.endsAll rounds parts (part.ends rounds places)

def Tree.endsAny (rounds : Nat) : List Tree -> Places -> Places
  | [], _ => []
  | part :: parts, places => union (part.ends rounds places) (Tree.endsAny rounds parts places)

end

/-- All places from a given one on. -/
def placesFrom (index : Nat) (before : Option Char) : List Char -> Places
  | [] => [{ index, before, behind := [] }]
  | c :: cs => { index, before, behind := c :: cs } :: placesFrom (index + 1) (some c) cs

def Tree.isMatch (tree : Tree) (text : String) : Bool :=
  let places := placesFrom 0 none text.toList
  !(tree.ends places.length places).isEmpty

end Pattern
end RemoteImports
