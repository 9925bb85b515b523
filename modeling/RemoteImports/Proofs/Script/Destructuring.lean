import RemoteImports.Proofs.Script.Evaluation

/-!
# Taking modules apart

Properties that are made from a key and a name bind the name to the export of
that key, whichever way the key is written.  With distinct names, the order of
the properties does not matter: each name ends up with its own export.
-/

namespace RemoteImports
namespace Script

def Scope.constants (exports : Exports) (pairs : List (String × String))
    (scope : Scope Value) : Scope Value :=
  pairs.foldl (fun scope pair => scope.set pair.2 (.constant (exports pair.1))) scope

theorem asked_ofName (key : String) : (Key.ofName key).asked = key := by
  unfold Key.ofName
  split
  · rfl
  · rfl

theorem take_ofNames (keyword : Keyword) (key name : String) (exports : Exports) :
    (Property.ofNames key name).take keyword exports =
      initialise name (keyword.slot (exports key)) := by
  unfold Property.ofNames
  cases hshorthand : key == name && isIdentifier key with
  | true =>
      have hkey : key = name := by
        rw [Bool.and_eq_true, beq_iff_eq] at hshorthand
        exact hshorthand.left
      rw [hkey]
      rfl
  | false =>
      change initialise name (keyword.slot (exports (Key.ofName key).asked)) = _
      rw [asked_ofName]

theorem takeProperties_run (exports : Exports) (pairs : List (String × String))
    (scopes : Scopes Value) (tried : List (Route × String)) :
    forall scope : Scope Value,
      (takeProperties .constKeyword
          (pairs.map fun pair => Property.ofNames pair.1 pair.2)
          exports).run.run { scopes := scope :: scopes, tried } =
        (.ok (), { scopes := scope.constants exports pairs :: scopes, tried }) := by
  induction pairs with
  | nil =>
      intro scope
      rfl
  | cons pair pairs ih =>
      intro scope
      have hfirst : ((Property.ofNames pair.1 pair.2).take .constKeyword
            exports).run.run { scopes := scope :: scopes, tried } =
          (.ok (), {
            scopes := scope.set pair.2 (.constant (exports pair.1)) :: scopes
            tried }) := by
        rw [take_ofNames]
        rfl
      exact (run_bind_of_ok hfirst _).trans (ih _)

/-!
# The names afterwards
-/

section

variable {exports : Exports} {pairs : List (String × String)} {name : String}

theorem Scope.constants_of_not_mem (scope : Scope Value)
    (h : name ∉ pairs.map Prod.snd) :
    scope.constants exports pairs name = scope name := by
  induction pairs generalizing scope with
  | nil =>
      rfl
  | cons pair pairs ih =>
      rw [List.map_cons, List.mem_cons, not_or] at h
      rw [constants, List.foldl_cons, ← constants, ih _ h.right,
        Scope.set_of_ne _ _ h.left]

theorem Scope.constants_of_mem {key : String} (scope : Scope Value)
    (hdistinct : (pairs.map Prod.snd).Nodup) (hmem : (key, name) ∈ pairs) :
    scope.constants exports pairs name = some (.constant (exports key)) := by
  induction pairs generalizing scope with
  | nil =>
      cases hmem
  | cons pair pairs ih =>
      rw [List.map_cons, List.nodup_cons] at hdistinct
      rw [constants, List.foldl_cons, ← constants]
      cases hmem with
      | head =>
          rw [constants_of_not_mem _ hdistinct.left, Scope.set_self]
      | tail _ hlater =>
          exact ih _ hdistinct.right hlater

end

end Script
end RemoteImports
