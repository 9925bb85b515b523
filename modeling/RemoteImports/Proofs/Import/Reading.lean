import RemoteImports.Import.Scan
import RemoteImports.Proofs.Import.Grammar

/-!
# Reading is the grammar

The readers of a declaration go from token to token, so each of them is
described by the tokens that it takes: it succeeds with a value exactly where
the tokens of a form with this value stand at the front of the text.
-/

namespace RemoteImports
namespace Import

open Script

section

variable {c : Char} {word value binding cs rest tail : List Char} {token : Token}
  {tokens : List Token}

/-!
# One token
-/

theorem begins_word_iff :
    Begins Literal (.word word :: token :: tokens) cs tail <->
      exists rest : List Char,
        word? cs = some (word, rest) ∧
          Begins Literal (token :: tokens) (skipTrivia rest) tail := by
  constructor
  · intro h
    cases h with
    | intro hwritten hlater =>
        cases hwritten with
        | word hword =>
            refine ⟨_, ?_, (spaced_cons_iff.mp hlater).right⟩
            exact word?_eq_some_iff.mpr ⟨rfl, hword, hlater.endsWord⟩
  · rintro ⟨rest, hread, hlater⟩
    rcases word?_eq_some_iff.mp hread with ⟨rfl, hword, hends⟩
    refine Begins.intro (Token.Written.word hword) ?_
    exact spaced_cons_iff.mpr ⟨fun _ => hends, hlater⟩

theorem begins_mark_iff (hc : c ∈ ['*', ',', '{', '}']) (hne : tokens ≠ []) :
    Begins Literal (.mark c :: tokens) cs tail <->
      exists rest : List Char,
        cs = c :: rest ∧ Begins Literal tokens (skipTrivia rest) tail := by
  cases tokens with
  | nil =>
      exact absurd rfl hne
  | cons token tokens =>
      constructor
      · intro h
        cases h with
        | intro hwritten hlater =>
            cases hwritten
            exact ⟨_, rfl, (spaced_cons_iff.mp hlater).right⟩
      · rintro ⟨rest, rfl, hlater⟩
        have hrest : Spaced Literal false (token :: tokens) rest tail :=
          spaced_cons_iff.mpr ⟨fun h => Bool.noConfusion h, hlater⟩
        exact Begins.intro (Token.Written.mark hc) hrest

theorem begins_literal_iff :
    Begins Literal (.literal value :: token :: tokens) cs tail <->
      exists rest : List Char,
        literal? cs = some (value, rest) ∧
          Begins Literal (token :: tokens) (skipTrivia rest) tail := by
  constructor
  · intro h
    cases h with
    | intro hwritten hlater =>
        cases hwritten with
        | literal hliteral =>
            exact ⟨_, hliteral.literal? _, (spaced_cons_iff.mp hlater).right⟩
  · rintro ⟨rest, hread, hlater⟩
    rcases literal?_eq_some_iff.mp hread with ⟨text, rfl, hliteral⟩
    have hrest : Spaced Literal false (token :: tokens) rest tail :=
      spaced_cons_iff.mpr ⟨fun h => Bool.noConfusion h, hlater⟩
    exact Begins.intro (Token.Written.literal hliteral) hrest

theorem begins_literal_end_iff :
    Begins Literal [.literal value] cs tail <-> literal? cs = some (value, tail) := by
  constructor
  · intro h
    cases h with
    | intro hwritten hlater =>
        cases hwritten with
        | literal hliteral =>
            cases hlater
            exact hliteral.literal? tail
  · intro hread
    rcases literal?_eq_some_iff.mp hread with ⟨text, rfl, hliteral⟩
    exact Begins.intro (Token.Written.literal hliteral) (Spaced.nil _ tail)

theorem Begins.word?_eq_none (h : Begins Literal (token :: tokens) cs tail)
    (hword : token.isWord = false) : word? cs = none := by
  cases h with
  | intro hwritten hlater =>
      rcases hwritten.head? with ⟨c, rest, rfl, _, _, hpart⟩
      rw [hword] at hpart
      have hstart : ¬ isWordStart c = true := by
        intro hstart
        rw [isWordPart_of_isWordStart hstart] at hpart
        cases hpart
      rw [List.cons_append, word?, if_neg hstart]

theorem literal?_eq_none_of_word? (h : word? cs = some (word, rest)) :
    literal? cs = none := by
  cases cs with
  | nil =>
      rfl
  | cons c cs =>
      rw [word?] at h
      split at h
      · rename_i hstart
        rw [literal?, isQuote_eq_false_of_isWordStart hstart]
        rfl
      · cases h

theorem Begins.after?_eq_none (h : Begins Literal (token :: tokens) cs tail)
    (hword : token.isWord = false) (word : List Char) : after? word cs = none := by
  rw [after?, h.word?_eq_none hword]

theorem Begins.hasOtherWord_eq_false
    (h : Begins Literal (.word word :: token :: tokens) cs tail) :
    hasOtherWord word cs = false := by
  rcases begins_word_iff.mp h with ⟨rest, hread, _⟩
  simp [hasOtherWord, hread]

theorem Begins.head?_ne_comma (h : Begins Literal (token :: tokens) cs tail)
    (hne : token ≠ .mark ',') : cs.head? ≠ some ',' := by
  intro hcomma
  cases h with
  | intro hwritten _ =>
      cases hwritten with
      | word hword =>
          exact hword.head?_append_ne rfl _ hcomma
      | mark _ =>
          cases hcomma
          exact hne rfl
      | literal hliteral =>
          cases hliteral with
          | intro hquote _ =>
              cases hcomma
              cases hquote

theorem Begins.literal?_eq_none (h : Begins Literal (token :: tokens) cs tail)
    (hne : forall value : List Char, token ≠ .literal value) :
    literal? cs = none := by
  cases h with
  | intro hwritten _ =>
      cases hwritten with
      | word hword =>
          rename_i word later _
          cases word with
          | nil =>
              exact hword.elim
          | cons c word =>
              rw [List.cons_append, literal?, isQuote_eq_false_of_isWordStart hword.left,
                if_neg Bool.false_ne_true]
      | mark hc =>
          simp only [List.mem_cons, List.not_mem_nil, or_false] at hc
          rcases hc with rfl | rfl | rfl | rfl <;> rfl
      | literal _ =>
          exact absurd rfl (hne _)

/-!
# A new name
-/

theorem begins_binding_iff :
    Begins Literal (.word ['a', 's'] :: .word binding :: token :: tokens) cs tail <->
      exists rest : List Char,
        binding? cs = some (String.ofList binding, rest) ∧
          Begins Literal (token :: tokens) rest tail := by
  rw [begins_word_iff]
  constructor
  · rintro ⟨r, has, hlater⟩
    rcases begins_word_iff.mp hlater with ⟨r', hname, hbehind⟩
    refine ⟨_, ?_, hbehind⟩
    simp [binding?, after?_eq_some_iff.mpr has, hname]
  · rintro ⟨rest, hread, hbehind⟩
    simp only [binding?, Option.bind_eq_bind, Option.bind_eq_some_iff, Option.pure_def,
      Option.some.injEq, Prod.mk.injEq, Prod.exists] at hread
    rcases hread with ⟨r, has, name, r', hname, heq, rfl⟩
    rw [String.ofList_injective heq] at hname
    refine ⟨r, after?_eq_some_iff.mp has, ?_⟩
    exact begins_word_iff.mpr ⟨r', hname, hbehind⟩

/-!
# Entries between braces
-/

theorem Item.braced? {item : Item}
    (h : Begins Literal (item.tokens ++ .mark c :: tokens) cs tail) :
    exists rest : List Char,
      braced? cs = some (item.specifier, rest) ∧
        Begins Literal (.mark c :: tokens) rest tail := by
  cases item with
  | plain name =>
      rcases begins_word_iff.mp h with ⟨r, hname, hbehind⟩
      refine ⟨skipTrivia r, ?_, hbehind⟩
      have hother : hasOtherWord ['a', 's'] (skipTrivia r) = false := by
        rw [hasOtherWord, hbehind.word?_eq_none rfl]
      simp [Import.braced?, literal?_eq_none_of_word? hname, hname, hother,
        hbehind.after?_eq_none rfl, specifier]
  | renamed name binding =>
      rcases begins_word_iff.mp h with ⟨r, hname, hbehind⟩
      rcases begins_binding_iff.mp hbehind with ⟨rest, hbinding, hrest⟩
      rcases begins_word_iff.mp hbehind with ⟨r', has, _⟩
      refine ⟨rest, ?_, hrest⟩
      simp [Import.braced?, literal?_eq_none_of_word? hname, hname,
        hbehind.hasOtherWord_eq_false, after?_eq_some_iff.mpr has, hbinding, specifier]
  | quoted name binding =>
      rcases begins_literal_iff.mp h with ⟨r, hname, hbehind⟩
      rcases begins_binding_iff.mp hbehind with ⟨rest, hbinding, hrest⟩
      refine ⟨rest, ?_, hrest⟩
      simp [Import.braced?, hname, hbinding, specifier]

theorem exists_item_of_braced? {specifier : Specifier}
    (h : Import.braced? cs = some (specifier, rest))
    (hrest : Begins Literal (.mark c :: tokens) rest tail) :
    exists item : Item,
      item.specifier = specifier ∧
        Begins Literal (item.tokens ++ .mark c :: tokens) cs tail := by
  unfold Import.braced? at h
  split at h
  · rename_i name r hname
    simp only [Option.bind_eq_bind, Option.bind_eq_some_iff, Option.pure_def,
      Option.some.injEq, Prod.mk.injEq, Prod.exists] at h
    rcases h with ⟨binding, r', hbinding, rfl, rfl⟩
    refine ⟨.quoted name binding.toList, by simp [Item.specifier], ?_⟩
    apply begins_literal_iff.mpr
    refine ⟨r, hname, begins_binding_iff.mpr ⟨r', ?_, hrest⟩⟩
    rw [String.ofList_toList]
    exact hbinding
  · simp only [Option.bind_eq_bind, Option.bind_eq_some_iff, Prod.exists] at h
    rcases h with ⟨name, r, hname, h⟩
    split at h
    · cases h
    · split at h
      · simp only [Option.bind_eq_some_iff, Option.pure_def, Option.some.injEq,
          Prod.mk.injEq, Prod.exists] at h
        rcases h with ⟨binding, r', hbinding, rfl, rfl⟩
        refine ⟨.renamed name binding.toList, by simp [Item.specifier], ?_⟩
        apply begins_word_iff.mpr
        refine ⟨r, hname, begins_binding_iff.mpr ⟨r', ?_, hrest⟩⟩
        rw [String.ofList_toList]
        exact hbinding
      · simp only [Option.pure_def, Option.some.injEq, Prod.mk.injEq] at h
        rcases h with ⟨rfl, rfl⟩
        exact ⟨.plain name, rfl, begins_word_iff.mpr ⟨r, hname, hrest⟩⟩

/-!
# Lists of items

The list is read by one loop, which ends at a closing brace, behind an item or
behind a comma.  Three equations say what one round does.
-/

theorem bracedList?_close {inside : List Char} (h : skipTrivia cs = '}' :: inside) :
    bracedList? cs = some ([], inside) := by
  rw [bracedList?]
  split
  · rename_i heq
    rw [h] at heq
    cases heq
  · rename_i d later heq
    rw [h] at heq
    cases heq
    rw [if_pos rfl]

theorem braced?_close (inside : List Char) : Import.braced? ('}' :: inside) = none := rfl

theorem bracedList?_of_braced? {specifier : Specifier}
    (h : Import.braced? (skipTrivia cs) = some (specifier, c :: rest)) :
    bracedList? cs =
      if c = ',' then
        (bracedList? rest).map fun (specifiers, rest) => (specifier :: specifiers, rest)
      else if c = '}' then some ([specifier], rest)
      else none := by
  rw [bracedList?]
  split
  · rename_i heq
    rw [heq] at h
    cases h
  · rename_i d inside heq
    rw [heq] at h
    have hopen : d ≠ '}' := by
      rintro rfl
      rw [braced?_close] at h
      cases h
    rw [if_neg hopen]
    split
    · rename_i hnone
      rw [h] at hnone
      cases hnone
    · rename_i hend
      rw [h] at hend
      cases hend
    · rename_i hitem
      rw [h] at hitem
      cases hitem
      rfl

theorem bracedList?_of_begins {items : List Item} {trailing : Bool}
    (h : Begins Literal
      (itemTokens trailing items ++ .mark '}' :: token :: tokens)
      (skipTrivia cs) tail) :
    exists rest : List Char,
      bracedList? cs = some (items.map Item.specifier, rest) ∧
        Begins Literal (token :: tokens) (skipTrivia rest) tail := by
  induction items generalizing cs with
  | nil =>
      rcases (begins_mark_iff (by decide) (by simp)).mp h with ⟨rest, hskip, hbehind⟩
      exact ⟨rest, bracedList?_close hskip, hbehind⟩
  | cons item items ih =>
      rw [itemTokens, List.append_assoc] at h
      split at h
      · rename_i hlast
        rcases item.braced? h with ⟨r, hread, hmark⟩
        rcases (begins_mark_iff (by decide) (by simp)).mp hmark with ⟨rest, rfl, hbehind⟩
        refine ⟨rest, ?_, hbehind⟩
        rw [bracedList?_of_braced? hread]
        simp only [Bool.and_eq_true, List.isEmpty_iff] at hlast
        simp [hlast.left]
      · rcases item.braced? h with ⟨r, hread, hmark⟩
        rcases (begins_mark_iff (by decide) (by simp)).mp hmark with
          ⟨inside, rfl, hinside⟩
        rcases ih hinside with ⟨rest, hlist, hbehind⟩
        refine ⟨rest, ?_, hbehind⟩
        rw [bracedList?_of_braced? hread, if_pos rfl, hlist]
        rfl

theorem itemTokens_cons (item : Item) (items : List Item) (trailing : Bool) :
    exists trailing' : Bool,
      itemTokens trailing' (item :: items) =
        item.tokens ++ .mark ',' :: itemTokens trailing items := by
  cases items with
  | nil =>
      exact ⟨true, rfl⟩
  | cons next items =>
      exact ⟨trailing, rfl⟩

theorem exists_items_of_bracedList? {specifiers : List Specifier}
    (h : bracedList? cs = some (specifiers, rest))
    (hrest : Begins Literal (token :: tokens) (skipTrivia rest) tail) :
    exists (items : List Item) (trailing : Bool),
      items.map Item.specifier = specifiers ∧
        Begins Literal
          (itemTokens trailing items ++ .mark '}' :: token :: tokens)
          (skipTrivia cs) tail := by
  fun_induction bracedList? cs generalizing specifiers rest with
  | case1 | case3 | case4 | case7 =>
      cases h
  | case2 cs inside hskip =>
      cases h
      refine ⟨[], false, rfl, ?_⟩
      exact (begins_mark_iff (by decide) (by simp)).mpr ⟨inside, hskip, hrest⟩
  | case5 cs c inside hskip _ specifier later hitem ih =>
      simp only [Option.map_eq_some_iff, Prod.exists, Prod.mk.injEq] at h
      rcases h with ⟨specifiers, r, hlist, rfl, rfl⟩
      rcases ih hlist hrest with ⟨items, trailing, rfl, hlater⟩
      have hcomma : Begins Literal
          (.mark ',' :: (itemTokens trailing items ++ .mark '}' :: token :: tokens))
          (',' :: later) tail :=
        (begins_mark_iff (by decide) (by simp)).mpr ⟨later, rfl, hlater⟩
      rcases exists_item_of_braced? hitem hcomma with ⟨item, rfl, hbegins⟩
      rcases itemTokens_cons item items trailing with ⟨trailing', heq⟩
      refine ⟨item :: items, trailing', rfl, ?_⟩
      rw [heq, hskip, List.append_assoc]
      exact hbegins
  | case6 cs c inside hskip _ specifier later hitem =>
      cases h
      have hclose : Begins Literal (.mark '}' :: token :: tokens) ('}' :: later) tail :=
        (begins_mark_iff (by decide) (by simp)).mpr ⟨later, rfl, hrest⟩
      rcases exists_item_of_braced? hitem hclose with ⟨item, rfl, hbegins⟩
      refine ⟨[item], false, rfl, ?_⟩
      rw [hskip]
      simpa [itemTokens] using hbegins

/-!
# Groups and declarations
-/

theorem Group.group? {group : Group}
    (h : Begins Literal (group.tokens ++ token :: tokens) cs tail) :
    exists rest : List Char,
      Import.group? cs = some (group.specifiers, rest) ∧
        Begins Literal (token :: tokens) rest tail := by
  cases group with
  | whole binding =>
      rcases (begins_mark_iff (by decide) (by simp)).mp h with ⟨inside, rfl, hinside⟩
      rcases begins_binding_iff.mp hinside with ⟨rest, hread, hbehind⟩
      refine ⟨rest, ?_, hbehind⟩
      simp [Import.group?, hread, specifiers]
  | named items trailing =>
      rw [Group.tokens, List.cons_append, List.append_assoc] at h
      rcases (begins_mark_iff (by decide) (by simp)).mp h with ⟨inside, rfl, hinside⟩
      rcases bracedList?_of_begins hinside with ⟨rest, hread, hbehind⟩
      refine ⟨skipTrivia rest, ?_, hbehind⟩
      simp [Import.group?, hread, specifiers]

theorem exists_group_of_group? {specifiers : List Specifier}
    (h : Import.group? cs = some (specifiers, rest))
    (hrest : Begins Literal (token :: tokens) rest tail) :
    exists group : Group,
      group.specifiers = specifiers ∧
        Begins Literal (group.tokens ++ token :: tokens) cs tail := by
  unfold Import.group? at h
  split at h
  · rename_i inside
    simp only [Option.bind_eq_bind, Option.bind_eq_some_iff, Option.pure_def,
      Option.some.injEq, Prod.mk.injEq, Prod.exists] at h
    rcases h with ⟨binding, r, hbinding, rfl, rfl⟩
    refine ⟨.whole binding.toList, by simp [Group.specifiers], ?_⟩
    apply (begins_mark_iff (by decide) (by simp)).mpr
    refine ⟨inside, rfl, begins_binding_iff.mpr ⟨r, ?_, hrest⟩⟩
    rw [String.ofList_toList]
    exact hbinding
  · rename_i inside
    simp only [Option.bind_eq_bind, Option.bind_eq_some_iff, Option.pure_def,
      Option.some.injEq, Prod.mk.injEq, Prod.exists] at h
    rcases h with ⟨specifiers, r, hlist, rfl, rfl⟩
    rcases exists_items_of_bracedList? hlist hrest with
      ⟨items, trailing, rfl, hinside⟩
    refine ⟨.named items trailing, rfl, ?_⟩
    rw [Group.tokens, List.cons_append, List.append_assoc]
    exact (begins_mark_iff (by decide) (by simp)).mpr ⟨inside, rfl, hinside⟩
  · cases h

theorem Group.exists_tokens_eq (group : Group) :
    exists (c : Char) (tokens : List Token),
      c ∈ ['*', ',', '{', '}'] ∧ group.tokens = .mark c :: tokens := by
  cases group with
  | whole binding =>
      exact ⟨'*', _, by decide, rfl⟩
  | named items trailing =>
      exact ⟨'{', _, by decide, rfl⟩

def fromTokens (source : List Char) : List Token :=
  [.word ['f', 'r', 'o', 'm'], .literal source]

theorem Form.first (form : Form) :
    (exists (token : Token) (tokens : List Token),
      form.tokens = token :: tokens ∧ token.isWord = false ∧ token ≠ .mark ',') ∨
    exists (name : List Char) (token : Token) (tokens : List Token),
      form.tokens = .word name :: token :: tokens ∧
        forall value : List Char, token ≠ .literal value := by
  rcases form with ⟨default, group, source⟩
  cases default with
  | none =>
      left
      cases group with
      | none =>
          exact ⟨_, _, rfl, rfl, by rintro ⟨⟩⟩
      | some group =>
          cases group with
          | whole binding =>
              exact ⟨_, _, rfl, rfl, by rintro ⟨⟩⟩
          | named items trailing =>
              exact ⟨_, _, rfl, rfl, by rintro ⟨⟩⟩
  | some name =>
      right
      cases group with
      | none =>
          exact ⟨name, _, _, rfl, by rintro value ⟨⟩⟩
      | some group =>
          exact ⟨name, _, _, rfl, by rintro value ⟨⟩⟩

theorem Form.exists_tokens_eq (form : Form) :
    exists (token : Token) (tokens : List Token), form.tokens = token :: tokens := by
  rcases form.first with ⟨token, tokens, htokens, _⟩ | ⟨name, token, tokens, htokens, _⟩
  · exact ⟨token, tokens, htokens⟩
  · exact ⟨_, _, htokens⟩

theorem begins_from_iff {source : List Char} :
    Begins Literal (fromTokens source) cs tail <->
      exists rest : List Char,
        after? ['f', 'r', 'o', 'm'] cs = some rest ∧
          literal? (skipTrivia rest) = some (source, tail) := by
  rw [fromTokens, begins_word_iff]
  simp only [begins_literal_end_iff, after?_eq_some_iff]

theorem specifiers?_of_begins {form : Form}
    (hbare : ¬ (form.default = none ∧ form.group = none))
    (h : Begins Literal form.tokens cs tail) :
    exists rest : List Char,
      specifiers? cs = some (form.clause.specifiers, rest) ∧
        Begins Literal (fromTokens form.source) rest tail := by
  rcases form with ⟨default, group, source⟩
  cases default with
  | none =>
      cases group with
      | none =>
          exact absurd ⟨rfl, rfl⟩ hbare
      | some group =>
          have hbegins : Begins Literal (group.tokens ++ fromTokens source) cs tail := h
          rcases group.group? hbegins with ⟨rest, hread, hbehind⟩
          refine ⟨rest, ?_, hbehind⟩
          rcases group.exists_tokens_eq with ⟨c, later, _, htokens⟩
          rw [htokens] at hbegins
          rw [specifiers?, hbegins.word?_eq_none rfl]
          simp [hread, Form.clause]
  | some name =>
      cases group with
      | none =>
          rcases begins_word_iff.mp h with ⟨r, hname, hbehind⟩
          refine ⟨skipTrivia r, ?_, hbehind⟩
          rcases begins_word_iff.mp hbehind with ⟨r', hfrom, _⟩
          simp only [specifiers?, hname]
          split
          · rename_i heq
            rw [heq] at hfrom
            cases hfrom
          · simp [Form.clause]
      | some group =>
          have hbegins : Begins Literal
              (.word name :: .mark ',' :: (group.tokens ++ fromTokens source)) cs tail := h
          rcases begins_word_iff.mp hbegins with ⟨r, hname, hcomma⟩
          rcases (begins_mark_iff (by decide) (by simp [fromTokens])).mp hcomma with
            ⟨inside, hskip, hinside⟩
          rcases group.group? hinside with ⟨rest, hread, hbehind⟩
          refine ⟨rest, ?_, hbehind⟩
          simp [specifiers?, hname, hskip, hread, Form.clause]

theorem exists_form_of_specifiers? {specifiers : List Specifier} {source : List Char}
    (h : specifiers? cs = some (specifiers, rest))
    (hrest : Begins Literal (fromTokens source) rest tail) :
    exists form : Form,
      form.clause = { specifiers, source := String.ofList source } ∧
        Begins Literal form.tokens cs tail := by
  unfold specifiers? at h
  split at h
  · rcases exists_group_of_group? h hrest with ⟨group, rfl, hbegins⟩
    refine ⟨{ default := none, group := some group, source }, ?_, hbegins⟩
    simp [Form.clause]
  · rename_i name r hname
    simp only at h
    split at h
    · rename_i inside hskip
      simp only [Option.bind_eq_bind, Option.bind_eq_some_iff, Option.pure_def,
        Option.some.injEq, Prod.mk.injEq, Prod.exists] at h
      rcases h with ⟨specifiers, r', hgroup, rfl, rfl⟩
      rcases exists_group_of_group? hgroup hrest with ⟨group, rfl, hbegins⟩
      refine ⟨{ default := some name, group := some group, source }, ?_, ?_⟩
      · simp [Form.clause]
      · refine begins_word_iff.mpr ⟨r, hname, ?_⟩
        rw [hskip]
        exact (begins_mark_iff (by decide) (by simp)).mpr ⟨inside, rfl, hbegins⟩
    · simp only [Option.some.injEq, Prod.mk.injEq] at h
      rcases h with ⟨rfl, rfl⟩
      refine ⟨{ default := some name, group := none, source }, ?_, ?_⟩
      · simp [Form.clause]
      · exact begins_word_iff.mpr ⟨r, hname, hrest⟩

theorem isTypeOnly_eq_false (hname : word? cs = some (word, rest))
    (hhead : (skipTrivia rest).head? ≠ some '{' ∧ (skipTrivia rest).head? ≠ some '*')
    (hother : hasOtherWord ['f', 'r', 'o', 'm'] (skipTrivia rest) = false) :
    isTypeOnly cs = false := by
  unfold isTypeOnly
  cases htype : after? ['t', 'y', 'p', 'e'] cs with
  | none =>
      rfl
  | some r =>
      rw [after?_eq_some_iff, hname] at htype
      cases htype
      simp [hhead, hother]

theorem Form.isTypeOnly_eq_false {form : Form}
    (hbare : ¬ (form.default = none ∧ form.group = none))
    (h : Begins Literal form.tokens cs tail) : isTypeOnly cs = false := by
  rcases form with ⟨default, group, source⟩
  cases default with
  | none =>
      cases group with
      | none =>
          exact absurd ⟨rfl, rfl⟩ hbare
      | some group =>
          have hbegins : Begins Literal (group.tokens ++ fromTokens source) cs tail := h
          rcases group.exists_tokens_eq with ⟨c, later, _, htokens⟩
          rw [htokens] at hbegins
          rw [isTypeOnly, hbegins.after?_eq_none rfl]
  | some name =>
      cases group with
      | none =>
          rcases begins_word_iff.mp h with ⟨r, hname, hbehind⟩
          rcases begins_word_iff.mp hbehind with ⟨r', hfrom, _⟩
          have hhead : (skipTrivia r).head? = some 'f' := by
            rw [← word?_append hfrom]
            rfl
          apply Import.isTypeOnly_eq_false hname
          · rw [hhead]
            decide
          · exact hbehind.hasOtherWord_eq_false
      | some group =>
          have hbegins : Begins Literal
              (.word name :: .mark ',' :: (group.tokens ++ fromTokens source)) cs tail := h
          rcases begins_word_iff.mp hbegins with ⟨r, hname, hcomma⟩
          have hhead : (skipTrivia r).head? = some ',' := by
            rcases (begins_mark_iff (by decide) (by simp [fromTokens])).mp hcomma with
              ⟨inside, hskip, _⟩
            rw [hskip]
            rfl
          apply Import.isTypeOnly_eq_false hname
          · rw [hhead]
            decide
          · rw [hasOtherWord, hcomma.word?_eq_none rfl]

theorem source?_eq_some_iff {source : String} :
    source? cs = some (source, rest) <->
      exists (value tail : List Char),
        source = String.ofList value ∧ literal? cs = some (value, tail) ∧
          finish? tail = some rest := by
  simp only [source?, Option.bind_eq_bind, Option.bind_eq_some_iff, Option.pure_def,
    Option.some.injEq, Prod.mk.injEq, Prod.exists]
  constructor
  · rintro ⟨value, tail, hliteral, rest, hfinish, rfl, rfl⟩
    exact ⟨value, tail, rfl, hliteral, hfinish⟩
  · rintro ⟨value, tail, rfl, hliteral, hfinish⟩
    exact ⟨value, tail, hliteral, rest, hfinish, rfl, rfl⟩

theorem isQuote_head?_iff :
    (cs.head?.map isQuote).getD false = true <->
      exists (c : Char) (rest : List Char), cs = c :: rest ∧ isQuote c = true := by
  cases cs with
  | nil =>
      simp
  | cons c cs =>
      simp

theorem specifiers?_eq_none_of_isQuote (h : isQuote c = true) (rest : List Char) :
    specifiers? (c :: rest) = none := by
  rw [isQuote, Bool.or_eq_true, beq_iff_eq, beq_iff_eq] at h
  rcases h with rfl | rfl <;> rfl

/-- A declaration is read exactly where one of the grammar stands, up to its
end. -/
theorem clause?_eq_some_iff {clause : Clause} :
    clause? cs = some (clause, rest) <->
      exists (form : Form) (tail : List Char),
        form.clause = clause ∧ Begins Literal form.tokens (skipTrivia cs) tail ∧
          finish? tail = some rest := by
  constructor
  · intro h
    simp only [clause?] at h
    split at h
    · simp only [Option.bind_eq_bind, Option.bind_eq_some_iff, Option.pure_def,
        Option.some.injEq, Prod.mk.injEq, Prod.exists] at h
      rcases h with ⟨source, r, hsource, rfl, rfl⟩
      rcases source?_eq_some_iff.mp hsource with ⟨value, tail, rfl, hliteral, hfinish⟩
      refine ⟨{ default := none, group := none, source := value }, tail, rfl, ?_, hfinish⟩
      exact begins_literal_end_iff.mpr hliteral
    · split at h
      · cases h
      · simp only [Option.bind_eq_bind, Option.bind_eq_some_iff, Option.pure_def,
          Option.some.injEq, Prod.mk.injEq, Prod.exists] at h
        rcases h with ⟨specifiers, r, hspecifiers, r', hfrom, source, r'', hsource, rfl, rfl⟩
        rcases source?_eq_some_iff.mp hsource with ⟨value, tail, rfl, hliteral, hfinish⟩
        have hbehind := begins_from_iff.mpr ⟨r', hfrom, hliteral⟩
        rcases exists_form_of_specifiers? hspecifiers hbehind with ⟨form, hform, hbegins⟩
        exact ⟨form, tail, hform, hbegins, hfinish⟩
  · rintro ⟨form, tail, rfl, hbegins, hfinish⟩
    by_cases hbare : form.default = none ∧ form.group = none
    · rcases form with ⟨default, group, source⟩
      rcases hbare with ⟨rfl, rfl⟩
      have hliteral := begins_literal_end_iff.mp hbegins
      have hquote : ((skipTrivia cs).head?.map isQuote).getD false = true := by
        rcases literal?_eq_some_iff.mp hliteral with ⟨_, htext, hquoted⟩
        rw [isQuote_head?_iff, htext]
        cases hquoted with
        | intro hquote _ =>
            exact ⟨_, _, rfl, hquote⟩
      have hsource := source?_eq_some_iff.mpr ⟨source, tail, rfl, hliteral, hfinish⟩
      simp [clause?, hquote, hsource, Form.clause]
    · rcases specifiers?_of_begins hbare hbegins with ⟨r, hspecifiers, hbehind⟩
      rcases begins_from_iff.mp hbehind with ⟨r', hfrom, hliteral⟩
      have hquote : ¬ ((skipTrivia cs).head?.map isQuote).getD false = true := by
        rw [isQuote_head?_iff]
        rintro ⟨c, later, hskip, hquote⟩
        rw [hskip, specifiers?_eq_none_of_isQuote hquote] at hspecifiers
        cases hspecifiers
      have htype := form.isTypeOnly_eq_false hbare hbegins
      have hsource := source?_eq_some_iff.mpr ⟨form.source, tail, rfl, hliteral, hfinish⟩
      simp [clause?, hquote, htype, hspecifiers, hfrom, hsource, Form.clause]

/-!
# The end of a declaration

Behind the module stands a semicolon, with blanks of its line before it, or
something that is neither that nor the attributes of the module.
-/

def isSpace (c : Char) : Bool :=
  c == ' ' || c == '\t'

theorem isBlank_of_isSpace (h : isSpace c = true) : isBlank c = true := by
  rw [isSpace, Bool.or_eq_true, beq_iff_eq, beq_iff_eq] at h
  rcases h with rfl | rfl <;> rfl

theorem dropWhile_isSpace_append {space : List Char}
    (h : forall c, c ∈ space -> isSpace c = true) (hrest : rest.head?.any isSpace = false) :
    (space ++ rest).dropWhile isSpace = rest := by
  rw [List.dropWhile_append_of_pos h]
  cases rest with
  | nil =>
      rfl
  | cons c rest =>
      exact List.dropWhile_cons_of_neg (by simpa using hrest)

theorem finish?_of_hasAttributes (h : hasAttributes (cs.dropWhile isSpace) = true) :
    finish? cs = none :=
  if_pos h

theorem finish?_of_semicolon (h : cs.dropWhile isSpace = ';' :: rest) :
    finish? cs = some rest := by
  change (cs.dropWhile fun c => c == ' ' || c == '\t') = _ at h
  rw [finish?, h]
  rfl

theorem finish?_of_head?_ne (hattributes : hasAttributes (cs.dropWhile isSpace) = false)
    (hhead : (cs.dropWhile isSpace).head? ≠ some ';') : finish? cs = some cs := by
  change hasAttributes (cs.dropWhile fun c => c == ' ' || c == '\t') = _ at hattributes
  change (cs.dropWhile fun c => c == ' ' || c == '\t').head? ≠ _ at hhead
  rw [finish?, hattributes, if_neg Bool.false_ne_true]
  split
  · rename_i rest hdrop
    rw [hdrop] at hhead
    exact absurd rfl hhead
  · rfl

theorem finish?_eq_none_iff :
    finish? cs = none <-> hasAttributes (cs.dropWhile isSpace) = true := by
  constructor
  · intro h
    cases hattributes : hasAttributes (cs.dropWhile isSpace) with
    | true =>
        rfl
    | false =>
        by_cases hhead : (cs.dropWhile isSpace).head? = some ';'
        · rcases List.head?_eq_some_iff.mp hhead with ⟨later, hdrop⟩
          rw [finish?_of_semicolon hdrop] at h
          cases h
        · rw [finish?_of_head?_ne hattributes hhead] at h
          cases h
  · exact finish?_of_hasAttributes

theorem finish?_eq_some_iff :
    finish? cs = some rest <->
      (exists space : List Char,
        (forall c, c ∈ space -> isSpace c = true) ∧ cs = space ++ ';' :: rest) ∨
      rest = cs ∧ hasAttributes (cs.dropWhile isSpace) = false ∧
        (cs.dropWhile isSpace).head? ≠ some ';' := by
  constructor
  · intro h
    by_cases hhead : (cs.dropWhile isSpace).head? = some ';'
    · rcases List.head?_eq_some_iff.mp hhead with ⟨later, hdrop⟩
      rw [finish?_of_semicolon hdrop] at h
      cases h
      left
      refine ⟨cs.takeWhile isSpace, List.all_eq_true.mp List.all_takeWhile, ?_⟩
      rw [← hdrop, List.takeWhile_append_dropWhile]
    · have hattributes : hasAttributes (cs.dropWhile isSpace) = false := by
        rw [← Bool.not_eq_true, ← finish?_eq_none_iff, h]
        rintro ⟨⟩
      rw [finish?_of_head?_ne hattributes hhead] at h
      cases h
      exact Or.inr ⟨rfl, hattributes, hhead⟩
  · rintro (⟨space, hspace, rfl⟩ | ⟨rfl, hattributes, hhead⟩)
    · exact finish?_of_semicolon (dropWhile_isSpace_append hspace rfl)
    · exact finish?_of_head?_ne hattributes hhead

theorem hasAttributes_iff :
    hasAttributes cs = true <->
      exists word tail : List Char,
        (word = ['w', 'i', 't', 'h'] ∨ word = ['a', 's', 's', 'e', 'r', 't']) ∧
          Begins Literal [.word word, .mark '{'] cs tail := by
  simp only [begins_word_iff]
  unfold hasAttributes
  constructor
  · intro h
    split at h
    · cases h
    · rename_i word rest hread
      rw [Bool.and_eq_true, Bool.or_eq_true, beq_iff_eq, beq_iff_eq, beq_iff_eq] at h
      rcases List.head?_eq_some_iff.mp h.right with ⟨tail, hskip⟩
      refine ⟨word, tail, h.left, rest, hread, ?_⟩
      rw [hskip]
      exact Begins.intro (Token.Written.mark (by decide)) (Spaced.nil _ tail)
  · rintro ⟨word, tail, hword, rest, hread, hbegins⟩
    have hhead : (skipTrivia rest).head? = some '{' := by
      generalize skipTrivia rest = behind at hbegins
      cases hbegins with
      | intro hwritten _ =>
          cases hwritten
          rfl
    rw [hread]
    simp [hword, hhead]

/-!
# Before another text

What is read of a declaration is read again if what follows it does not look
like its end.
-/

section

variable {form : Form} {behindWord : Bool}

theorem Form.begins (h : Spaced Literal behindWord form.tokens cs tail) :
    Begins Literal form.tokens (skipTrivia cs) tail := by
  rcases form.exists_tokens_eq with ⟨token, tokens, htokens⟩
  rw [htokens] at h ⊢
  exact (spaced_cons_iff.mp h).right

theorem Form.endsWord (h : Spaced Literal true form.tokens cs tail) : EndsWord cs := by
  rcases form.exists_tokens_eq with ⟨token, tokens, htokens⟩
  rw [htokens] at h
  exact h.endsWord

theorem Form.spaced (hends : behindWord = true -> EndsWord cs)
    (h : Begins Literal form.tokens (skipTrivia cs) tail) :
    Spaced Literal behindWord form.tokens cs tail := by
  rcases form.exists_tokens_eq with ⟨token, tokens, htokens⟩
  rw [htokens] at h ⊢
  refine spaced_cons_iff.mpr ⟨fun hwords => hends ?_, h⟩
  rw [Bool.and_eq_true] at hwords
  exact hwords.left

theorem Form.spaced_iff :
    Spaced Literal false form.tokens cs tail <->
      Begins Literal form.tokens (skipTrivia cs) tail :=
  ⟨Form.begins, Form.spaced fun h => Bool.noConfusion h⟩

end

theorem clause?_eq_none_iff_forall :
    clause? cs = none <->
      forall (form : Form) (tail : List Char),
        Spaced Literal false form.tokens cs tail -> finish? tail = none := by
  constructor
  · intro hclause form tail hspaced
    cases hfinish : finish? tail with
    | none =>
        rfl
    | some rest =>
        have hbegins := Form.spaced_iff.mp hspaced
        rw [clause?_eq_some_iff.mpr ⟨form, tail, rfl, hbegins, hfinish⟩] at hclause
        cases hclause
  · intro h
    cases hclause : clause? cs with
    | none =>
        rfl
    | some found =>
        rcases clause?_eq_some_iff.mp hclause with ⟨form, tail, _, hbegins, hfinish⟩
        rw [h form tail (Form.spaced_iff.mpr hbegins)] at hfinish
        cases hfinish

section

variable {cs' : List Char}

theorem finish?_append {between : List Char}
    (hattributes : hasAttributes (cs'.dropWhile isSpace) = true ->
      hasAttributes (cs.dropWhile isSpace) = true)
    (hhead : (cs'.dropWhile isSpace).head? = some ';' ->
      (cs.dropWhile isSpace).head? = some ';')
    (hfinish : finish? (between ++ cs) = some cs) :
    finish? (between ++ cs') = some cs' := by
  rcases finish?_eq_some_iff.mp hfinish with
    ⟨space, hspace, hsplit⟩ | ⟨hself, hnone, hne⟩
  · have hbetween : between = space ++ [';'] := by
      apply @List.append_cancel_right _ _ cs
      rw [hsplit]
      simp
    rw [hbetween, finish?_eq_some_iff]
    exact Or.inl ⟨space, hspace, by simp⟩
  · have hnil : between = [] := List.append_left_eq_self.mp hself.symm
    subst hnil
    rw [List.nil_append] at hnone hne
    refine finish?_eq_some_iff.mpr (Or.inr ⟨rfl, ?_, mt hhead hne⟩)
    rw [List.nil_append, Bool.eq_false_iff]
    intro hfound
    rw [hattributes hfound] at hnone
    cases hnone

theorem clause?_append {clause : Clause} {behind : List Char}
    (hfinish : forall between : List Char,
      finish? (between ++ cs) = some cs -> finish? (between ++ cs') = some cs')
    (hclause : clause? (behind ++ cs) = some (clause, cs)) :
    clause? (behind ++ cs') = some (clause, cs') := by
  rcases clause?_eq_some_iff.mp hclause with ⟨form, tail, hform, hbegins, hend⟩
  rcases (Form.spaced_iff.mpr hbegins).exists_append with ⟨part, hpart, hany⟩
  rcases finish?_suffix hend with ⟨between, rfl⟩
  have hbehind : behind = part ++ between := by
    apply @List.append_cancel_right _ _ cs
    rw [hpart, List.append_assoc]
  have hnew := hany (between ++ cs')
  rw [hbehind, List.append_assoc]
  exact clause?_eq_some_iff.mpr ⟨form, between ++ cs', hform, Form.spaced_iff.mp hnew,
    hfinish between hend⟩

end

end

end Import
end RemoteImports
