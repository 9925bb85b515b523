import RemoteImports.Import.Clause
import RemoteImports.Proofs.Script.Literal
import RemoteImports.Proofs.Script.Trivia

/-!
# The grammar of declarations

Behind the word `import`, a declaration is a row of words, marks and literals.
Blanks and comments may stand before each of them, and something does where
two words meet.
-/

namespace RemoteImports
namespace Import

open Script

inductive Token where
  | word (text : List Char)
  | mark (c : Char)
  | literal (value : List Char)

def Token.isWord : Token -> Bool
  | word _ => true
  | mark _ | literal _ => false

/-- A text is this token, if literals are spelled in the given way. -/
inductive Token.Written (spelled : List Char -> List Char -> Prop) :
    Token -> List Char -> Prop where
  | word {text : List Char} : IsWord text -> Written spelled (.word text) text
  | mark {c : Char} : c ∈ ['*', ',', '{', '}'] -> Written spelled (.mark c) [c]
  | literal {text value : List Char} :
      spelled text value -> Written spelled (.literal value) text

/-- At the front of a text stand these tokens, and behind them the text
`tail`.  Something stands before the first of them if a word precedes it and it
is a word. -/
inductive Spaced (spelled : List Char -> List Char -> Prop) :
    Bool -> List Token -> List Char -> List Char -> Prop where
  | nil (behindWord : Bool) (tail : List Char) :
      Spaced spelled behindWord [] tail tail
  | cons {behindWord : Bool} {token : Token} {tokens : List Token}
      {gap text rest tail : List Char} :
      Trivia gap -> ((behindWord && token.isWord) = true -> gap ≠ []) ->
      token.Written spelled text -> Spaced spelled token.isWord tokens rest tail ->
      Spaced spelled behindWord (token :: tokens) (gap ++ (text ++ rest)) tail

inductive Begins (spelled : List Char -> List Char -> Prop) :
    List Token -> List Char -> List Char -> Prop where
  | intro {token : Token} {tokens : List Token} {text rest tail : List Char} :
      token.Written spelled text -> Spaced spelled token.isWord tokens rest tail ->
      Begins spelled (token :: tokens) (text ++ rest) tail

/-!
# Forms
-/

inductive Item where
  | plain (name : List Char)
  | renamed (name binding : List Char)
  | quoted (name binding : List Char)

inductive Group where
  | whole (binding : List Char)
  | named (items : List Item) (trailing : Bool)

/-- A declaration: a name for the default export, a group, both or neither, and
the module. -/
structure Form where
  default : Option (List Char)
  group : Option Group
  source : List Char

def Item.tokens : Item -> List Token
  | plain name => [.word name]
  | renamed name binding => [.word name, .word ['a', 's'], .word binding]
  | quoted name binding => [.literal name, .word ['a', 's'], .word binding]

def itemTokens (trailing : Bool) : List Item -> List Token
  | [] => []
  | item :: items =>
      item.tokens ++
        if items.isEmpty && !trailing then []
        else .mark ',' :: itemTokens trailing items

def Group.tokens : Group -> List Token
  | whole binding => [.mark '*', .word ['a', 's'], .word binding]
  | named items trailing => .mark '{' :: (itemTokens trailing items ++ [.mark '}'])

def Form.tokens (form : Form) : List Token :=
  let source : List Token := [.word ['f', 'r', 'o', 'm'], .literal form.source]
  match form.default, form.group with
  | none, none => [.literal form.source]
  | none, some group => group.tokens ++ source
  | some name, none => .word name :: source
  | some name, some group => .word name :: .mark ',' :: (group.tokens ++ source)

def Item.specifier : Item -> Specifier
  | plain name => .named (String.ofList name) (String.ofList name)
  | renamed name binding => .named (String.ofList name) (String.ofList binding)
  | quoted name binding => .named (String.ofList name) (String.ofList binding)

def Group.specifiers : Group -> List Specifier
  | whole binding => [.namespace (String.ofList binding)]
  | named items _ => items.map Item.specifier

def Form.clause (form : Form) : Clause :=
  { specifiers :=
      (form.default.toList.map fun name => .default (String.ofList name)) ++
        form.group.toList.flatMap Group.specifiers
    source := String.ofList form.source }

/-!
# Rows of tokens
-/

section

variable {spelled spelled' : List Char -> List Char -> Prop} {behindWord : Bool}
  {token : Token} {tokens : List Token} {cs tail : List Char}

theorem Spaced.imp
    (himp : forall text value, spelled text value -> spelled' text value)
    (h : Spaced spelled behindWord tokens cs tail) :
    Spaced spelled' behindWord tokens cs tail := by
  induction h with
  | nil behindWord tail =>
      exact Spaced.nil behindWord tail
  | cons hgap hapart hwritten _ ih =>
      refine Spaced.cons hgap hapart ?_ ih
      cases hwritten with
      | word hword =>
          exact Token.Written.word hword
      | mark hmark =>
          exact Token.Written.mark hmark
      | literal hspelled =>
          exact Token.Written.literal (himp _ _ hspelled)

/-- What follows the last token is not looked at. -/
theorem Spaced.exists_append (h : Spaced spelled behindWord tokens cs tail) :
    exists text : List Char,
      cs = text ++ tail ∧
        forall tail : List Char,
          Spaced spelled behindWord tokens (text ++ tail) tail := by
  induction h with
  | nil behindWord tail =>
      exact ⟨[], rfl, Spaced.nil behindWord⟩
  | @cons _ _ _ gap first _ _ hgap hapart hwritten _ ih =>
      rcases ih with ⟨text, rfl, hlater⟩
      refine ⟨gap ++ (first ++ text), by simp, ?_⟩
      intro tail
      rw [List.append_assoc, List.append_assoc]
      exact Spaced.cons hgap hapart hwritten (hlater tail)

theorem Begins.exists_append (h : Begins spelled tokens cs tail) :
    exists text : List Char,
      cs = text ++ tail ∧
        forall tail : List Char, Begins spelled tokens (text ++ tail) tail := by
  cases h with
  | @intro _ _ first _ _ hwritten hlater =>
      rcases hlater.exists_append with ⟨text, rfl, hany⟩
      refine ⟨first ++ text, by simp, ?_⟩
      intro tail
      rw [List.append_assoc]
      exact Begins.intro hwritten (hany tail)

theorem Begins.spaced (h : Begins spelled tokens cs tail) :
    Spaced spelled false tokens cs tail := by
  cases h with
  | intro hwritten hlater =>
      exact Spaced.cons Trivia.nil (fun h => Bool.noConfusion h) hwritten hlater

theorem Token.Written.head? {text : List Char} (h : token.Written Literal text) :
    exists (c : Char) (rest : List Char),
      text = c :: rest ∧ isBlank c = false ∧ c ≠ '/' ∧
        isWordPart c = token.isWord := by
  cases h with
  | word hword =>
      cases text with
      | nil =>
          exact hword.elim
      | cons c rest =>
          exact ⟨c, rest, rfl, isBlank_eq_false_of_isWordStart hword.left,
            ne_of_isWordStart hword.left (by decide),
            isWordPart_of_isWordStart hword.left⟩
  | mark hmark =>
      refine ⟨_, [], rfl, ?_⟩
      simp only [List.mem_cons, List.not_mem_nil, or_false] at hmark
      rcases hmark with rfl | rfl | rfl | rfl <;> decide
  | literal hliteral =>
      cases hliteral with
      | intro hquote _ =>
          refine ⟨_, _, rfl, ?_⟩
          rw [isQuote, Bool.or_eq_true, beq_iff_eq, beq_iff_eq] at hquote
          rcases hquote with rfl | rfl <;> exact ⟨by decide, by decide, rfl⟩

theorem spaced_cons_iff :
    Spaced Literal behindWord (token :: tokens) cs tail <->
      ((behindWord && token.isWord) = true -> EndsWord cs) ∧
        Begins Literal (token :: tokens) (skipTrivia cs) tail := by
  constructor
  · intro h
    cases h with
    | cons hgap hapart hwritten hlater =>
        rcases hwritten.head? with ⟨c, rest, rfl, hblank, hslash, _⟩
        rw [skipTrivia_append hgap, List.cons_append,
          skipTrivia_cons_of_ne hblank hslash, ← List.cons_append]
        refine ⟨?_, Begins.intro hwritten hlater⟩
        intro hwords
        exact hgap.endsWord (hapart hwords) _
  · rintro ⟨hends, hbegins⟩
    generalize hskip : skipTrivia cs = behind at hbegins
    cases hbegins with
    | intro hwritten hlater =>
        rcases hwritten.head? with ⟨c, rest, rfl, _, _, hword⟩
        have hne : skipTrivia cs ≠ [] := by
          rw [hskip]
          exact List.cons_ne_nil _ _
        rcases skipTrivia_eq hne with ⟨gap, hgap, hcs⟩
        rw [hskip] at hcs
        rw [hcs]
        refine Spaced.cons hgap ?_ hwritten hlater
        rintro hwords rfl
        have hstop := hends hwords c (by rw [hcs]; rfl)
        rw [Bool.and_eq_true] at hwords
        rw [hword, hwords.right] at hstop
        cases hstop

theorem Spaced.endsWord (h : Spaced Literal true (token :: tokens) cs tail) :
    EndsWord cs := by
  cases hword : token.isWord with
  | true =>
      exact (spaced_cons_iff.mp h).left hword
  | false =>
      cases h with
      | @cons _ _ _ gap _ _ _ hgap _ hwritten _ =>
          cases gap with
          | nil =>
              rcases hwritten.head? with ⟨c, rest, rfl, _, _, hpart⟩
              intro d hd
              cases hd
              rw [hpart, hword]
          | cons c gap =>
              exact hgap.endsWord (List.cons_ne_nil _ _) _

end

end Import
end RemoteImports
