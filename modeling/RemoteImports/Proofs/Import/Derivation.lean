import RemoteImports.Proofs.Import.Barrier
import RemoteImports.Proofs.Import.Kept

/-!
# The text of a declaration

The bytes that a declaration takes up are a row of tokens of the grammar, from
the word `import` to the module and a semicolon on its line.  They are no other
row of tokens, so what the declaration says is what its text says, and the text
is not one about types only.
-/

namespace RemoteImports
namespace Import

open Script
open Text (byteLength byteLength_cons)

inductive Ending : List Char -> Prop where
  | bare : Ending []
  | semicolon {space : List Char} :
      (forall c, c ∈ space -> c = ' ' ∨ c = '\t') -> Ending (space ++ [';'])

/-- The word `import`, these tokens with nothing but blanks and comments between
them, and an ending. -/
inductive Derives (tokens : List Token) : List Char -> Prop where
  | intro {body ending : List Char} :
      Spaced Literal true tokens body [] -> Ending ending ->
      Derives tokens (importWord ++ (body ++ ending))

def hasTypeEntry : List Token -> Bool
  | .mark c :: .word first :: .word second :: tokens =>
      (c == '{' || c == ',') && first == ['t', 'y', 'p', 'e'] && second != ['a', 's'] ||
        hasTypeEntry (.word second :: tokens)
  | _ :: tokens => hasTypeEntry tokens
  | [] => false

/-- Whether a declaration of these tokens is about types only: the word `type`
comes first, and a brace, a star or a word other than `from` comes next, or the
word `type` comes first in an entry. -/
def isAboutTypes (tokens : List Token) : Bool :=
  hasTypeEntry tokens ||
    match tokens with
    | .word first :: .mark c :: _ => first == ['t', 'y', 'p', 'e'] && (c == '{' || c == '*')
    | .word first :: .word second :: _ =>
        first == ['t', 'y', 'p', 'e'] && second != ['f', 'r', 'o', 'm']
    | _ => false

/-!
# One reading
-/

def token? (cs : List Char) : Option (Token × List Char) :=
  match word? cs with
  | some (word, rest) => some (.word word, rest)
  | none =>
      match literal? cs with
      | some (value, rest) => some (.literal value, rest)
      | none =>
          match cs with
          | c :: rest => if c ∈ ['*', ',', '{', '}'] then some (.mark c, rest) else none
          | [] => none

section

variable {behindWord behindWord' : Bool} {token : Token} {tokens tokens' : List Token}
  {cs tail tail' span : List Char}

theorem Spaced.append (h : Spaced Literal behindWord tokens cs []) (tail : List Char) :
    Spaced Literal behindWord tokens (cs ++ tail) tail := by
  rcases h.exists_append with ⟨front, hfront, hany⟩
  rw [List.append_nil] at hfront
  rw [hfront]
  exact hany tail

theorem Begins.token? (h : Begins Literal (token :: tokens) cs tail)
    (hends : EndsWord tail) :
    exists rest : List Char,
      Import.token? cs = some (token, rest) ∧
        Spaced Literal token.isWord tokens rest tail := by
  cases h with
  | @intro _ _ text rest _ hwritten hlater =>
      refine ⟨rest, ?_, hlater⟩
      cases hwritten with
      | word hword =>
          have hbehind : EndsWord rest := by
            cases tokens with
            | nil =>
                cases hlater
                exact hends
            | cons next tokens =>
                exact hlater.endsWord
          have hread := word?_eq_some_iff.mpr ⟨rfl, hword, hbehind⟩
          simp only [Import.token?, hread]
      | @mark c hmark =>
          have hword : word? (c :: rest) = none := by
            apply word?_cons_eq_none
            simp only [List.mem_cons, List.not_mem_nil, or_false] at hmark
            rcases hmark with rfl | rfl | rfl | rfl <;> decide
          have hliteral : literal? (c :: rest) = none := by
            simp only [List.mem_cons, List.not_mem_nil, or_false] at hmark
            rcases hmark with rfl | rfl | rfl | rfl <;> rfl
          simp only [List.singleton_append, Import.token?, hword, hliteral, if_pos hmark]
      | literal hliteral =>
          have hread := hliteral.literal? rest
          cases hliteral with
          | intro hquote hquoted =>
              rw [List.cons_append] at hread ⊢
              have hword := word?_cons_eq_none (isWordStart_eq_false_of_isQuote hquote)
              simp only [Import.token?, hword, hread]

/-- A text that ends where no token can follow has one reading. -/
theorem Spaced.unique (h : Spaced Literal behindWord tokens cs tail)
    (h' : Spaced Literal behindWord' tokens' cs tail')
    (hends : EndsWord tail) (hends' : EndsWord tail')
    (hstop : Import.token? (skipTrivia tail) = none)
    (hstop' : Import.token? (skipTrivia tail') = none) : tokens = tokens' := by
  induction tokens generalizing behindWord behindWord' tokens' cs with
  | nil =>
      cases h
      cases tokens' with
      | nil =>
          rfl
      | cons token' tokens' =>
          rcases (spaced_cons_iff.mp h').right.token? hends' with ⟨rest, hread, _⟩
          rw [hstop] at hread
          cases hread
  | cons token tokens ih =>
      rcases (spaced_cons_iff.mp h).right.token? hends with ⟨rest, hread, hlater⟩
      cases tokens' with
      | nil =>
          cases h'
          rw [hstop'] at hread
          cases hread
      | cons token' tokens' =>
          rcases (spaced_cons_iff.mp h').right.token? hends' with
            ⟨rest', hread', hlater'⟩
          rw [hread] at hread'
          cases hread'
          rw [ih hlater hlater']

theorem Ending.stops {ending : List Char} (h : Ending ending) :
    EndsWord ending ∧ Import.token? (skipTrivia ending) = none := by
  cases h with
  | bare =>
      constructor
      · rintro c ⟨⟩
      · rw [skipTrivia_nil]
        rfl
  | @semicolon space hspace =>
      have hblank : forall c, c ∈ space -> isBlank c = true := by
        intro c hmem
        rcases hspace c hmem with rfl | rfl <;> rfl
      have htrivia := Trivia.of_blanks hblank
      constructor
      · cases space with
        | nil =>
            rintro c ⟨⟩
            decide
        | cons c space =>
            exact htrivia.endsWord (List.cons_ne_nil c space) [';']
      · rw [skipTrivia_append htrivia, skipTrivia_cons_of_ne (by decide) (by decide)]
        rfl

theorem Derives.unique (h : Derives tokens span) (h' : Derives tokens' span) :
    tokens = tokens' := by
  cases h with
  | @intro body ending hbody hending =>
      generalize hspan : importWord ++ (body ++ ending) = text at h'
      cases h' with
      | @intro body' ending' hbody' hending' =>
          have hsame := List.append_cancel_left hspan
          have hwhole' := hbody'.append ending'
          rw [← hsame] at hwhole'
          exact (hbody.append ending).unique hwhole' hending.stops.left
            hending'.stops.left hending.stops.right hending'.stops.right

end

/-!
# No types
-/

theorem hasTypeEntry_item (item : Item) (c d : Char) (tokens : List Token) :
    hasTypeEntry (.mark c :: (item.tokens ++ .mark d :: tokens)) =
      hasTypeEntry (.mark d :: tokens) := by
  cases item with
  | plain name =>
      rfl
  | renamed name binding =>
      simp [Item.tokens, hasTypeEntry]
  | quoted name binding =>
      rfl

theorem hasTypeEntry_itemTokens (c : Char) (trailing : Bool) (items : List Item)
    (tokens : List Token) :
    hasTypeEntry (.mark c :: (itemTokens trailing items ++ .mark '}' :: tokens)) =
      hasTypeEntry (.mark '}' :: tokens) := by
  induction items generalizing c with
  | nil =>
      rfl
  | cons item items ih =>
      rw [itemTokens, List.append_assoc]
      split
      · exact hasTypeEntry_item item c '}' tokens
      · rw [List.cons_append, hasTypeEntry_item, ih]

theorem Group.hasTypeEntry_eq_false (group : Group) (source : List Char) :
    hasTypeEntry (group.tokens ++ fromTokens source) = false := by
  cases group with
  | whole binding =>
      simp [tokens, fromTokens, hasTypeEntry]
  | named items trailing =>
      rw [tokens, List.cons_append, List.append_assoc, List.singleton_append,
        hasTypeEntry_itemTokens]
      rfl

theorem Form.isAboutTypes_eq_false (form : Form) : isAboutTypes form.tokens = false := by
  rcases form with ⟨default, group, source⟩
  cases default with
  | none =>
      cases group with
      | none =>
          rfl
      | some group =>
          apply Bool.or_eq_false_iff.mpr
          refine ⟨group.hasTypeEntry_eq_false source, ?_⟩
          cases group <;> rfl
  | some name =>
      cases group with
      | none =>
          apply Bool.or_eq_false_iff.mpr
          exact ⟨rfl, by simp [tokens]⟩
      | some group =>
          apply Bool.or_eq_false_iff.mpr
          refine ⟨?_, by simp [tokens]⟩
          have hgroup := group.hasTypeEntry_eq_false source
          cases group <;> exact hgroup

/-!
# Declarations of a script
-/

section

variable {behind rest tail : List Char} {clause : Clause}

theorem exists_ending_of_finish? (h : finish? tail = some rest) :
    exists ending : List Char, tail = ending ++ rest ∧ Ending ending := by
  rcases finish?_eq_some_iff.mp h with ⟨space, hspace, rfl⟩ | ⟨rfl, _, _⟩
  · refine ⟨space ++ [';'], by simp, Ending.semicolon ?_⟩
    intro c hmem
    have hc := hspace c hmem
    rwa [isSpace, Bool.or_eq_true, beq_iff_eq, beq_iff_eq] at hc
  · exact ⟨[], rfl, Ending.bare⟩

/-- A clause is read off the tokens that stand before an ending. -/
theorem exists_form_of_clause? (hends : EndsWord (behind ++ rest))
    (h : clause? (behind ++ rest) = some (clause, rest)) :
    exists (form : Form) (body ending : List Char),
      form.clause = clause ∧ behind = body ++ ending ∧
      Spaced Literal true form.tokens body [] ∧ Ending ending ∧
      finish? (ending ++ rest) = some rest := by
  rcases clause?_eq_some_iff.mp h with ⟨form, tail, hform, hbegins, hfinish⟩
  have hspaced : Spaced Literal true form.tokens (behind ++ rest) tail :=
    Form.spaced (fun _ => hends) hbegins
  rcases hspaced.exists_append with ⟨body, hbody, hany⟩
  rcases exists_ending_of_finish? hfinish with ⟨ending, rfl, hending⟩
  have hbehind : behind = body ++ ending := by
    apply @List.append_cancel_right _ _ rest
    rw [hbody, List.append_assoc]
  have hwhole := hany []
  rw [List.append_nil] at hwhole
  exact ⟨form, body, ending, hform, hbehind, hwhole, hending, hfinish⟩

theorem clause?_of_tokens_eq {form other : Form} (h : other.tokens = form.tokens)
    {body : List Char} (hbody : Spaced Literal true form.tokens body [])
    (hfinish : finish? tail = some rest) :
    clause? (body ++ tail) = some (other.clause, rest) := by
  have hwhole := hbody.append tail
  rw [← h] at hwhole
  exact clause?_eq_some_iff.mpr ⟨other, tail, rfl, Form.begins hwhole, hfinish⟩

end

/-- The bytes of a declaration are derived in the grammar, they are derived in
no way that says something else, and they are not about types only. -/
def IsDerived (script : String) (declaration : Declaration) : Prop :=
  exists before span after : List Char,
    script.toList = before ++ span ++ after ∧
    declaration.start = byteLength before ∧
    declaration.stop = byteLength (before ++ span) ∧
    (exists form : Form, Derives form.tokens span) ∧
    (forall form : Form, Derives form.tokens span ->
      form.clause.specifiers = declaration.specifiers ∧
        form.clause.source = declaration.source) ∧
    forall tokens : List Token, Derives tokens span -> isAboutTypes tokens = false

theorem isDerived_of_mem {script : String} {declaration : Declaration}
    (h : declaration ∈ declarations script) : IsDerived script declaration := by
  rcases exists_reached_of_mem_declarations h with
    ⟨before, _, behind, rest, clause, hscript, _, _, _, hends, hclause, rfl⟩
  rcases exists_form_of_clause? hends hclause with
    ⟨form, body, ending, rfl, rfl, hbody, hending, hfinish⟩
  have hderives := Derives.intro hbody hending
  refine ⟨before, importWord ++ (body ++ ending), rest, ?_, rfl, rfl,
    ⟨form, hderives⟩, ?_, ?_⟩
  · rw [hscript]
    simp only [List.append_assoc]
  · intro other hother
    have hsame := clause?_of_tokens_eq (hother.unique hderives) hbody hfinish
    rw [← List.append_assoc, hclause, Option.some.injEq, Prod.mk.injEq] at hsame
    rw [← hsame.left]
    exact ⟨rfl, rfl⟩
  · intro tokens htokens
    rw [htokens.unique hderives]
    exact form.isAboutTypes_eq_false

end Import
end RemoteImports
