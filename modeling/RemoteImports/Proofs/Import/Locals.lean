import RemoteImports.Proofs.Import.Reading
import RemoteImports.Proofs.Import.Shape

/-!
# Local names are words

What a declaration binds locally was read as a word, also where the name that
is imported was read as a literal.
-/

namespace RemoteImports
namespace Import

open Script

theorem Spaced.forall_isWord {spelled : List Char -> List Char -> Prop}
    {behindWord : Bool} {tokens : List Token} {cs tail : List Char}
    (h : Spaced spelled behindWord tokens cs tail) :
    forall word : List Char, Token.word word ∈ tokens -> IsWord word := by
  induction h with
  | nil =>
      intro word hmem
      cases hmem
  | cons _ _ hwritten _ ih =>
      intro word hmem
      cases hmem with
      | head =>
          cases hwritten with
          | word hword =>
              exact hword
      | tail _ hlater =>
          exact ih word hlater

theorem Item.subset_itemTokens (item : Item) {items : List Item}
    (trailing : Bool) (h : item ∈ items) : item.tokens ⊆ itemTokens trailing items := by
  induction items with
  | nil =>
      cases h
  | cons first items ih =>
      rw [itemTokens]
      cases h with
      | head =>
          exact List.subset_append_left _ _
      | tail _ hlater =>
          have hne : (items.isEmpty && !trailing) = false := by
            cases items with
            | nil =>
                cases hlater
            | cons =>
                rfl
          rw [hne]
          intro token htoken
          exact List.mem_append_right _ (List.mem_cons_of_mem _ (ih hlater htoken))

theorem Item.word_local (item : Item) :
    Token.word item.specifier.local.toList ∈ item.tokens := by
  cases item with
  | plain name =>
      simp [Item.specifier, Specifier.local, Item.tokens]
  | renamed name binding =>
      simp [Item.specifier, Specifier.local, Item.tokens]
  | quoted name binding =>
      simp [Item.specifier, Specifier.local, Item.tokens]

theorem Group.word_local (group : Group) {specifier : Specifier}
    (h : specifier ∈ group.specifiers) :
    Token.word specifier.local.toList ∈ group.tokens := by
  cases group with
  | whole binding =>
      rw [List.mem_singleton.mp h]
      simp [Specifier.local, Group.tokens]
  | named items trailing =>
      rcases List.mem_map.mp h with ⟨item, hitem, rfl⟩
      apply List.mem_cons_of_mem
      apply List.mem_append_left
      exact item.subset_itemTokens trailing hitem item.word_local

theorem Form.word_local (form : Form) {specifier : Specifier}
    (h : specifier ∈ form.clause.specifiers) :
    Token.word specifier.local.toList ∈ form.tokens := by
  rcases form with ⟨default, group, source⟩
  rcases List.mem_append.mp h with hdefault | hgroup
  · rcases List.mem_map.mp hdefault with ⟨name, hname, rfl⟩
    cases Option.mem_toList.mp hname
    cases group with
    | none =>
        simp [Form.tokens, Specifier.local]
    | some group =>
        simp [Form.tokens, Specifier.local]
  · rcases List.mem_flatMap.mp hgroup with ⟨found, hfound, hmem⟩
    cases Option.mem_toList.mp hfound
    have hword := found.word_local hmem
    cases default with
    | none =>
        exact List.mem_append_left _ hword
    | some name =>
        exact List.mem_cons_of_mem _ (List.mem_cons_of_mem _ (List.mem_append_left _ hword))

structure Bindings.WordLocals (bindings : Bindings) : Prop where
  whole : forall {name : String}, bindings.whole = some name -> IsWord name.toList
  default : forall {name : String}, bindings.default = some name -> IsWord name.toList
  named : forall {named : Named}, named ∈ bindings.named -> IsWord named.binding.toList

theorem wordLocals_of_mem_declarations {script : String} {declaration : Declaration}
    (hmem : declaration ∈ declarations script) : declaration.bindings.WordLocals := by
  have hperm := (shape_of_mem_declarations hmem).locals_perm
  rcases (declarations_located script).exists_clause hmem with
    ⟨clause, cs, left, hclause, hspecifiers, _⟩
  rcases clause?_eq_some_iff.mp hclause with ⟨form, tail, rfl, hbegins, _⟩
  have hword : forall name, name ∈ declaration.bindings.locals -> IsWord name.toList := by
    intro name hname
    rcases List.mem_map.mp (hperm.mem_iff.mp hname) with ⟨specifier, hin, rfl⟩
    rw [hspecifiers] at hin
    exact hbegins.spaced.forall_isWord _ (form.word_local hin)
  constructor
  · intro name hname
    apply hword
    simp [Bindings.locals, hname]
  · intro name hname
    apply hword
    simp [Bindings.locals, hname]
  · intro named hmem
    apply hword
    exact List.mem_append_right _ (List.mem_map_of_mem hmem)

end Import
end RemoteImports
