import RemoteImports.Pattern.Syntax
import RemoteImports.Text.Bytes

/-!
# The size of patterns

A pattern stands for an automaton. How many bytes the automaton takes up is known from the
tree, without making it: each node has its states, its branches and its ranges, and the
groups are listed beside the states. A pattern whose automaton would be too big is
refused.
-/

namespace RemoteImports
namespace Pattern

def stateSize : Nat := 32

def branchSize : Nat := 4

def rangeSize : Nat := 8

def groupSize : Nat := 16

/-- The bytes that the number of a group with a name takes up beside the name. -/
def groupNumberSize : Nat := 4

/-!
## States
-/

mutual

def Tree.size : Tree -> Nat
  | .empty => stateSize
  | .char _ => stateSize
  | .cls ranges => stateSize + rangeSize * ranges.length
  | .look _ => stateSize
  | .repeated least greatest inner =>
    let first := if least = 0 then stateSize else least * inner.size
    match greatest with
    | none =>
      if least = 0 then
        if inner.matchesEmpty then inner.size + 3 * stateSize + 4 * branchSize
        else inner.size + stateSize + 2 * branchSize
      else least * inner.size + stateSize + 2 * branchSize
    | some greatest =>
      if greatest = least then first
      else if least = 0 ∧ greatest = 1 then inner.size + 2 * stateSize + 2 * branchSize
      else first + stateSize + (greatest - least) * (inner.size + stateSize + 2 * branchSize)
  | .capture _ inner => inner.size + 2 * stateSize
  | .sequence parts => Tree.sizes parts 0
  | .choice parts => Tree.sizes parts branchSize + 2 * stateSize

/-- The bytes that the states for several trees take up, with `more` for each. -/
def Tree.sizes : List Tree -> Nat -> Nat
  | [], _ => 0
  | part :: parts, more => part.size + more + Tree.sizes parts more

end

/-!
## Groups
-/

mutual

def Tree.groups : Tree -> List Group
  | .empty => []
  | .char _ => []
  | .cls _ => []
  | .look _ => []
  | .repeated _ _ inner => inner.groups
  | .capture group inner => group :: inner.groups
  | .sequence parts => Tree.allGroups parts
  | .choice parts => Tree.allGroups parts

def Tree.allGroups : List Tree -> List Group
  | [] => []
  | part :: parts => part.groups ++ Tree.allGroups parts

end

def Group.nameSize (group : Group) : Nat :=
  match group.name with
  | none => 0
  | some name => Text.byteLength name.toList + groupNumberSize

/-- The bytes that a list of groups takes up. The list has a place for each number up to
the greatest, also for those of groups that the tree has lost. -/
def groupsSize (groups : List Group) : Nat :=
  groups.foldl (fun places group => max places (group.index + 1)) 0 * groupSize
    + groups.foldl (fun size group => size + group.nameSize) 0

/-!
## Whole patterns
-/

def greatestSize : Nat := 10 * Nat.pow 2 20

/-- The bytes that the automaton for a whole pattern takes up. -/
def Tree.wholeSize (tree : Tree) : Nat :=
  let whole := tree.capture { index := 0 }
  whole.size + stateSize + groupsSize whole.groups

end Pattern
end RemoteImports
