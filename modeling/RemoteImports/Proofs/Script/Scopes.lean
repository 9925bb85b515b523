import Mathlib.Logic.Function.Basic

/-!
# Scopes

A running script sees names through nested scopes.  A name means the binding
in the innermost scope that has one, also where that binding hides one
further out, and also before its declaration was run.
-/

namespace RemoteImports
namespace Script

inductive Slot (α : Type) where
  /-- The declaration of the name was not run yet. -/
  | empty
  | variable (value : α)
  | constant (value : α)

def Slot.value? {α : Type} : Slot α -> Option α
  | .empty => none
  | .variable value => some value
  | .constant value => some value

abbrev Scope (α : Type) := String -> Option (Slot α)

abbrev Scopes (α : Type) := List (Scope α)

section

variable {α : Type}

def Scope.hoisted (names : List String) : Scope α := fun name =>
  if name ∈ names then some .empty else none

def Scope.set (scope : Scope α) (name : String) (slot : Slot α) : Scope α :=
  Function.update scope name (some slot)

/-- The value that a name has, if its innermost binding has one. -/
def Scopes.value? (scopes : Scopes α) (name : String) : Option α :=
  (scopes.findSome? fun scope => scope name).bind Slot.value?

def Scopes.initialise (name : String) (slot : Slot α) : Scopes α -> Scopes α
  | [] => []
  | scope :: scopes => scope.set name slot :: scopes

/-- Gives the innermost binding of a name another value.  This takes a
variable whose declaration was run. -/
def Scopes.assign? (name : String) (value : α) : Scopes α -> Option (Scopes α)
  | [] => none
  | scope :: scopes =>
      match scope name with
      | none => (Scopes.assign? name value scopes).map (scope :: ·)
      | some (.variable _) => some (scope.set name (.variable value) :: scopes)
      | some _ => none

@[simp] theorem Scope.hoisted_nil (name : String) :
    (Scope.hoisted [] : Scope α) name = none := rfl

@[simp] theorem Scope.set_self (scope : Scope α) (name : String) (slot : Slot α) :
    scope.set name slot name = some slot := Function.update_self _ _ _

theorem Scope.set_of_ne (scope : Scope α) {name other : String} (slot : Slot α)
    (h : other ≠ name) : scope.set name slot other = scope other :=
  Function.update_of_ne h _ _

theorem Scope.set_set (scope : Scope α) (name : String) (first second : Slot α) :
    (scope.set name first).set name second = scope.set name second :=
  Function.update_idem _ _ _

theorem Scope.set_of_some {scope : Scope α} {name : String} {slot : Slot α}
    (h : scope name = some slot) : scope.set name slot = scope := by
  rw [set, ← h, Function.update_eq_self]

/-!
# The innermost binding
-/

variable {scope : Scope α} {name : String}

theorem Scopes.value?_of_some {slot : Slot α} (h : scope name = some slot)
    (scopes : Scopes α) : Scopes.value? (scope :: scopes) name = slot.value? := by
  rw [Scopes.value?, List.findSome?_cons, h]
  rfl

theorem Scopes.assign?_of_none (h : scope name = none) (value : α)
    (scopes : Scopes α) :
    Scopes.assign? name value (scope :: scopes) =
      (Scopes.assign? name value scopes).map (scope :: ·) := by
  rw [Scopes.assign?, h]

theorem Scopes.assign?_of_variable {old : α} (h : scope name = some (.variable old))
    (value : α) (scopes : Scopes α) :
    Scopes.assign? name value (scope :: scopes) =
      some (scope.set name (.variable value) :: scopes) := by
  rw [Scopes.assign?, h]

end

end Script
end RemoteImports
