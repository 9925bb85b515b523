import RemoteImports.Pattern.Class

/-!
# Patterns

A pattern as a tree. Which of several matches is preferred is left out, since a pattern is
only asked whether it matches somewhere.
-/

namespace RemoteImports
namespace Pattern

/-- A condition on a place in a text. -/
inductive Look where
  | textStart
  | textEnd
  | lineStart
  | lineEnd
  /-- The start of a line where a carriage return may end one, too. -/
  | anyLineStart
  /-- The end of a line where a carriage return may end one, too. -/
  | anyLineEnd
  | boundary
  | noBoundary
  | wordStart
  | wordEnd
  | wordStartHalf
  | wordEndHalf
deriving DecidableEq

/-- A group whose match is kept: its number, in the order of opening brackets, and its
name, if it has one. The whole pattern is the group with the number 0. -/
structure Group where
  index : Nat
  name : Option String := none
deriving DecidableEq

/-- A pattern. -/
inductive Tree where
  | empty
  | char (c : Char)
  | cls (cls : Class)
  | look (look : Look)
  | repeated (least : Nat) (greatest : Option Nat) (inner : Tree)
  | capture (group : Group) (inner : Tree)
  | sequence (parts : List Tree)
  | choice (parts : List Tree)
deriving Inhabited

def Tree.ofSequence : List Tree -> Tree
  | [] => empty
  | [part] => part
  | parts => sequence parts

def Tree.ofChoice : List Tree -> Tree
  | [] => empty
  | [part] => part
  | parts => choice parts

/-- A part repeated. No time at all is the empty pattern, and once is the part itself. -/
def Tree.ofRepetition : (least : Nat) -> (greatest : Option Nat) -> Tree -> Tree
  | 0, some 0, _ => empty
  | 1, some 1, inner => inner
  | least, greatest, inner => repeated least greatest inner

mutual

def Tree.depth : Tree -> Nat
  | .empty => 0
  | .char _ => 0
  | .cls _ => 0
  | .look _ => 0
  | .repeated _ _ inner => inner.depth + 1
  | .capture _ inner => inner.depth + 1
  | .sequence parts => Tree.depths parts + 1
  | .choice parts => Tree.depths parts + 1

def Tree.depths : List Tree -> Nat
  | [] => 0
  | part :: parts => max part.depth (Tree.depths parts)

end

mutual

/-- Whether the tree matches without taking a character, conditions left aside. -/
def Tree.matchesEmpty : Tree -> Bool
  | .empty => true
  | .char _ => false
  | .cls _ => false
  | .look _ => true
  | .repeated least _ inner => least == 0 || inner.matchesEmpty
  | .capture _ inner => inner.matchesEmpty
  | .sequence parts => Tree.allMatchEmpty parts
  | .choice parts => Tree.someMatchesEmpty parts

/-- Whether each of several trees matches without taking a character. -/
def Tree.allMatchEmpty : List Tree -> Bool
  | [] => true
  | part :: parts => part.matchesEmpty && Tree.allMatchEmpty parts

/-- Whether one of several trees matches without taking a character. -/
def Tree.someMatchesEmpty : List Tree -> Bool
  | [] => false
  | part :: parts => part.matchesEmpty || Tree.someMatchesEmpty parts

end

def greatestNesting : Nat := 50

end Pattern
end RemoteImports
