import RemoteImports.Proofs.Import.Locals
import RemoteImports.Proofs.Script.Identifier
import RemoteImports.Proofs.Script.WellNamed
import RemoteImports.Rewrite.Statements

/-!
# The names in a replacement

The statements in place of a declaration are well-named: its local names are
words since they were read as words, the names that it imports are put in
quotes unless they are words, and the name that is made for a package is one.
-/

namespace RemoteImports
namespace Rewrite

open Import Script Text.Unicode

/-!
# Names that are made
-/

theorem part_withFirst {change : Char -> List Char} {word : List Char}
    (hchange : forall c, c ∈ word -> forall d, d ∈ change c -> isWordPart d = true)
    (hword : forall c, c ∈ word -> isWordPart c = true) :
    forall d, d ∈ withFirst change word -> isWordPart d = true := by
  cases word with
  | nil =>
      intro d hd
      cases hd
  | cons c word =>
      intro d hd
      rcases List.mem_append.mp hd with hfirst | hlater
      · exact hchange c List.mem_cons_self d hfirst
      · exact hword d (List.mem_cons_of_mem c hlater)

theorem part_joinWords {words : List (List Char)}
    (h : forall word, word ∈ words -> forall c, c ∈ word -> isWordPart c = true) :
    forall d, d ∈ joinWords words -> isWordPart d = true := by
  cases words with
  | nil =>
      intro d hd
      cases hd
  | cons word words =>
      intro d hd
      rcases List.mem_append.mp hd with hfirst | hlater
      · have hword := h word List.mem_cons_self
        exact part_withFirst (fun c hc => isWordPart_toLower (hword c hc)) hword d hfirst
      · rcases List.mem_flatMap.mp hlater with ⟨later, hmem, hin⟩
        have hword := h later (List.mem_cons_of_mem word hmem)
        exact part_withFirst (fun c hc => isWordPart_toUpper (hword c hc)) hword d hin

theorem part_words (name : List Char) :
    forall word, word ∈ words name -> forall c, c ∈ word -> isWordPart c = true := by
  intro word hmem c hc
  have hall := (List.mem_filter.mp hmem).right
  exact isWordPart_of_isIdentifierPart (List.all_eq_true.mp hall c hc)

theorem isWord_camelCase (name : String) : IsWord (camelCase name).toList := by
  have hpart := part_joinWords (part_words (unscoped name.toList))
  rw [camelCase]
  generalize joinWords (words (unscoped name.toList)) = joined at hpart
  cases joined with
  | nil =>
      decide
  | cons c joined =>
      by_cases hdigit : c.isDigit = true
      · simp only [hdigit, if_true, String.toList_ofList]
        exact ⟨rfl, hpart⟩
      · simp only [hdigit, Bool.false_eq_true, if_false, String.toList_ofList]
        have hstart := hpart c List.mem_cons_self
        rw [isWordPart, Bool.or_eq_true] at hstart
        exact ⟨hstart.resolve_right hdigit,
          fun d hd => hpart d (List.mem_cons_of_mem c hd)⟩

theorem isWord_resultName (package : String) : IsWord (resultName package).toList := by
  rw [resultName, String.toList_append]
  have hpart : ("Result".toList.all isWordPart) = true := by decide
  exact (isWord_camelCase package).append (List.all_eq_true.mp hpart)

/-!
# Statements
-/

def WellNamedLoader (loader : Loader) : Prop :=
  forall shim : String, loader.shim = some shim -> IsWord shim.toList

section

variable {loader : Loader} {bindings : Bindings}

theorem wellNamed_load (hloader : WellNamedLoader loader) (address : String) :
    (loader.load address).WellNamed := by
  have hliteral : forall ignored : Bool,
      (if ignored then Expr.commented ignoreComment (.text address)
        else .text address).WellNamed := by
    intro ignored
    cases ignored with
    | true =>
        exact ⟨by decide +kernel, trivial⟩
    | false =>
        trivial
  unfold Loader.load
  cases hshim : loader.shim with
  | none =>
      exact hliteral loader.webpackIgnore
  | some shim =>
      refine ⟨⟨hloader shim hshim, ?_⟩, hliteral loader.webpackIgnore, trivial⟩
      decide

theorem wellNamed_ofNames (key : String) {binding : String} (h : IsWord binding.toList) :
    (Property.ofNames key binding).WellNamed := by
  refine ⟨?_, h⟩
  rw [Key.ofName]
  by_cases hkey : isIdentifier key = true
  · rw [if_pos hkey]
    exact isWord_of_isIdentifier hkey
  · rw [if_neg hkey]
    trivial

theorem wellNamed_exportBinding
    (hlocals : bindings.WordLocals) :
    (exportBinding bindings).WellNamed := by
  apply propertiesWellNamed_iff.mpr
  intro property hmem
  rcases List.mem_append.mp hmem with hdefault | hnamed
  · rcases List.mem_map.mp hdefault with ⟨binding, hbinding, rfl⟩
    apply wellNamed_ofNames
    exact hlocals.default (Option.mem_toList.mp hbinding)
  · rcases List.mem_map.mp hnamed with ⟨named, hin, rfl⟩
    apply wellNamed_ofNames
    exact hlocals.named hin

theorem wellNamed_constant {binding : Binding} {value : Expr}
    (hbinding : binding.WellNamed) (hvalue : value.WellNamed) :
    (constant binding value).WellNamed := by
  intro declarator hmem
  rw [List.mem_singleton.mp hmem]
  refine ⟨hbinding, ?_⟩
  rintro found ⟨⟩
  exact hvalue

theorem wellNamed_defaultFrom
    (hlocals : bindings.WordLocals)
    {whole : String} (hwhole : IsWord whole.toList) :
    BlockWellNamed (defaultFrom bindings whole) := by
  apply blockWellNamed_iff.mpr
  intro stmt hmem
  rcases List.mem_map.mp hmem with ⟨binding, hbinding, rfl⟩
  have hword := hlocals.default (Option.mem_toList.mp hbinding)
  refine wellNamed_constant ?_ hwhole
  exact ⟨wellNamed_ofNames "default" hword, trivial⟩

theorem wellNamed_direct (hloader : WellNamedLoader loader)
    (hlocals : bindings.WordLocals)
    (address : String) : BlockWellNamed (direct loader bindings address) := by
  have hload : (Expr.await (loader.load address)).WellNamed :=
    wellNamed_load hloader address
  unfold direct
  cases hwhole : bindings.whole with
  | none =>
      exact ⟨wellNamed_constant (wellNamed_exportBinding hlocals) hload, trivial⟩
  | some whole =>
      have hword := hlocals.whole hwhole
      exact ⟨wellNamed_constant hword hload, wellNamed_defaultFrom hlocals hword⟩

theorem wellNamed_withFallback (hloader : WellNamedLoader loader)
    (hlocals : bindings.WordLocals)
    (package primary fallback : String) :
    BlockWellNamed (withFallback loader bindings package primary fallback) := by
  have hloading : forall name : String, IsWord name.toList ->
      forall later : List Stmt, BlockWellNamed later ->
        BlockWellNamed (
          .declare .letKeyword [{ binding := .name name, value := none }] ::
          .tryCatch [.expr (.assign (.name name) (loader.load primary))]
            (some (.name caughtName))
            [.expr (.assign (.name name) (loader.load fallback))] :: later) := by
    intro name hname later hlater
    refine ⟨?_, ⟨⟨⟨hname, wellNamed_load hloader primary⟩, trivial⟩, ?_,
      ⟨hname, wellNamed_load hloader fallback⟩, trivial⟩, hlater⟩
    · intro declarator hmem
      rw [List.mem_singleton.mp hmem]
      exact ⟨hname, by rintro value ⟨⟩⟩
    · rintro binding ⟨⟩
      change IsWord caughtName.toList
      decide
  unfold withFallback
  cases hwhole : bindings.whole with
  | none =>
      have hname := isWord_resultName package
      refine hloading _ hname _ ⟨?_, trivial⟩
      exact wellNamed_constant (wellNamed_exportBinding hlocals) hname
  | some whole =>
      have hword := hlocals.whole hwhole
      exact hloading whole hword _ (wellNamed_defaultFrom hlocals hword)

theorem wellNamed_statements (hloader : WellNamedLoader loader)
    (hlocals : bindings.WordLocals)
    (package : String) (addresses : Addresses) :
    BlockWellNamed (statements loader bindings package addresses) := by
  unfold statements
  cases addresses.fallback with
  | none =>
      exact wellNamed_direct hloader hlocals addresses.primary
  | some fallback =>
      exact wellNamed_withFallback hloader hlocals package addresses.primary fallback

end

end Rewrite
end RemoteImports
