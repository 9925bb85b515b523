import RemoteImports.Proofs.Import.Reached

/-!
# Places in 32 bits

What is handed out of a script tells its places in 32 bits.  In a script of
fewer bytes than these can count, that is where the declarations are.  In a
longer one it may be somewhere else: as many blanks as can be counted make no
difference to what is handed out.
-/

namespace RemoteImports
namespace Import

open Script
open Text (byteLength byteLength_append byteLength_cons byteLength_nil)

def Declaration.moved (n : Nat) (declaration : Declaration) : Declaration :=
  (declaration.shift n).kept

section

variable {script : String} {declaration : Declaration} {gap rest : List Char}

theorem kept_eq_self {place : Nat} (h : place < placeLimit) : kept place = place :=
  Nat.mod_eq_of_lt h

theorem kept_add_placeLimit (place : Nat) : kept (placeLimit + place) = kept place :=
  Nat.add_mod_left placeLimit place

theorem Declaration.kept_eq_self (hstart : declaration.start <= declaration.stop)
    (hstop : declaration.stop < placeLimit) : declaration.kept = declaration := by
  rw [Declaration.kept, Import.kept_eq_self hstop,
    Import.kept_eq_self (Nat.lt_of_le_of_lt hstart hstop)]

theorem Declaration.moved_placeLimit : declaration.moved placeLimit = declaration.kept := by
  rw [moved, Declaration.kept, shift, kept_add_placeLimit, kept_add_placeLimit]
  rfl

theorem bounds_of_mem_declarations (h : declaration ∈ declarations script) :
    declaration.start <= declaration.stop ∧
      declaration.stop <= byteLength script.toList := by
  rcases exists_reached_of_mem_declarations h with
    ⟨before, _, behind, rest, clause, hscript, _, _, _, _, _, rfl⟩
  rw [hscript]
  simp only [Clause.declaration, byteLength_append]
  omega

/-- The places in a script that is short enough are handed out as they are. -/
theorem keptDeclarations_eq (hshort : byteLength script.toList < placeLimit) :
    keptDeclarations script = declarations script := by
  rw [keptDeclarations]
  conv =>
    rhs
    rw [← List.map_id (declarations script)]
  apply List.map_congr_left
  intro declaration hmem
  rcases bounds_of_mem_declarations hmem with ⟨hstart, hstop⟩
  exact Declaration.kept_eq_self hstart (Nat.lt_of_le_of_lt hstop hshort)

/-!
# Blanks and comments in front
-/

theorem skipInterpreter_of_trivia (hgap : Trivia gap) (hrest : rest.head? ≠ some '#') :
    skipInterpreter (gap ++ rest) = gap ++ rest := by
  apply skipInterpreter_eq_self
  intro later htext
  have hhead := congrArg List.head? htext
  cases hgap with
  | nil =>
      exact hrest hhead
  | blank hblank =>
      cases hhead
      cases hblank
  | line | block =>
      cases hhead

/-- Blanks and comments in front of a script only move what is found. -/
theorem declarations_of_trivia (hgap : Trivia gap) (hrest : rest.head? ≠ some '#') :
    declarations (String.ofList (gap ++ rest)) =
      (declarations (String.ofList rest)).map (Declaration.shift (byteLength gap)) := by
  have hself : skipInterpreter rest = rest :=
    skipInterpreter_of_trivia Trivia.nil hrest
  rw [declarations, declarations, String.toList_ofList, String.toList_ofList,
    skipInterpreter_of_trivia hgap hrest, hself, (Runs.of_trivia hgap .start rest).scan,
    byteLength_append, scan_add _ (Nat.le_refl _)]

theorem trivia_replicate (n : Nat) : Trivia (List.replicate n ' ') :=
  Trivia.of_blanks fun _ hmem => (List.eq_of_mem_replicate hmem).symm ▸ rfl

theorem byteLength_replicate (n : Nat) : byteLength (List.replicate n ' ') = n := by
  induction n with
  | zero =>
      rfl
  | succ n ih =>
      rw [List.replicate_succ, byteLength_cons, ih, Nat.add_comm]
      rfl

/-- As many blanks as 32 bits can count do not show. -/
theorem keptDeclarations_of_blanks (hrest : rest.head? ≠ some '#') :
    keptDeclarations (String.ofList (List.replicate placeLimit ' ' ++ rest)) =
      keptDeclarations (String.ofList rest) := by
  have hmoved : Declaration.kept ∘ Declaration.shift placeLimit = Declaration.kept :=
    funext fun declaration => declaration.moved_placeLimit
  rw [keptDeclarations, declarations_of_trivia (trivia_replicate placeLimit) hrest,
    byteLength_replicate, List.map_map, hmoved, keptDeclarations]

end

end Import
end RemoteImports
