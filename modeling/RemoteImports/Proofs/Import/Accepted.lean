import RemoteImports.Proofs.Import.Kept
import RemoteImports.Proofs.Import.Reading
import RemoteImports.Proofs.Script.Spelling

/-!
# Scripts of declarations

A script that is made of declarations, with blanks and comments between them,
is read back as these declarations, each at its place.
-/

namespace RemoteImports
namespace Import

open Script
open Text (byteLength byteLength_append)

/-- A declaration of this form, from the word `import` to a semicolon on the
line of the module. -/
inductive Form.Written (spelled : List Char -> List Char -> Prop) (form : Form) :
    List Char -> Prop where
  | intro {body space : List Char} :
      Spaced spelled true form.tokens body [] ->
      (forall c, c ∈ space -> c = ' ' ∨ c = '\t') ->
      Written spelled form (importWord ++ body ++ space ++ [';'])

/-- In the text `before ++ rest`, the rest is made of these declarations and of
blanks and comments. -/
inductive Lists (spelled : List Char -> List Char -> Prop) :
    List Char -> List Char -> List Declaration -> Prop where
  | nil {before gap : List Char} : Trivia gap -> Lists spelled before gap []
  | cons {before gap text rest : List Char} {form : Form}
      {declaration : Declaration} {declarations : List Declaration} :
      Trivia gap -> form.Written spelled text ->
      declaration =
        { specifiers := form.clause.specifiers
          source := form.clause.source
          start := byteLength (before ++ gap)
          stop := byteLength (before ++ gap ++ text) } ->
      Lists spelled (before ++ gap ++ text) rest declarations ->
      Lists spelled before (gap ++ text ++ rest) (declaration :: declarations)

section

variable {spelled spelled' : List Char -> List Char -> Prop}
  {before rest text : List Char} {declarations : List Declaration}

theorem Lists.imp
    (himp : forall text value, spelled text value -> spelled' text value)
    (h : Lists spelled before rest declarations) :
    Lists spelled' before rest declarations := by
  induction h with
  | nil hgap =>
      exact Lists.nil hgap
  | cons hgap hwritten hdeclaration _ ih =>
      cases hwritten with
      | intro hbody hspace =>
          exact Lists.cons hgap (Form.Written.intro (hbody.imp himp) hspace)
            hdeclaration ih

theorem Lists.skipInterpreter (h : Lists spelled before rest declarations) :
    skipInterpreter rest = rest := by
  cases h with
  | nil hgap =>
      have hself := @skipInterpreter_of_trivia _ [] hgap nofun
      rwa [List.append_nil] at hself
  | cons hgap hwritten =>
      cases hwritten
      simp only [List.append_assoc]
      exact skipInterpreter_of_trivia hgap nofun

theorem Form.Written.clause? {form : Form} (h : form.Written Literal text)
    (rest : List Char) :
    exists behind : List Char,
      text = importWord ++ behind ∧ EndsWord (behind ++ rest) ∧
        clause? (behind ++ rest) = some (form.clause, rest) := by
  cases h with
  | @intro body space hbody hspace =>
      rcases hbody.exists_append with ⟨front, hfront, hspaced⟩
      rw [List.append_nil] at hfront
      subst hfront
      have hwhole := hspaced (space ++ [';'] ++ rest)
      rcases form.exists_tokens_eq with ⟨token, tokens, htokens⟩
      refine ⟨body ++ space ++ [';'], by simp, ?_, ?_⟩
      · rw [htokens] at hwhole
        simpa using hwhole.endsWord
      · apply clause?_eq_some_iff.mpr
        refine ⟨form, space ++ ';' :: rest, rfl, ?_, ?_⟩
        · rw [htokens] at hwhole ⊢
          simpa using (spaced_cons_iff.mp hwhole).right
        · rw [finish?_eq_some_iff]
          refine Or.inl ⟨space, ?_, rfl⟩
          intro c hmem
          rcases hspace c hmem with rfl | rfl <;> rfl

theorem Lists.scan (h : Lists Literal before rest declarations) {total : Nat}
    (htotal : byteLength (before ++ rest) = total) {state : State}
    (hdepth : state.depth = 0) (hlast : state.last ≠ .punctuation '.') :
    scan total state rest = declarations := by
  induction h generalizing state with
  | @nil before gap hgap =>
      have hrun := Runs.of_trivia hgap state []
      rw [List.append_nil] at hrun
      rw [hrun.scan, Import.scan]
  | @cons before gap text rest form declaration declarations hgap hwritten
      hdeclaration _ ih =>
      rcases hwritten.clause? rest with ⟨behind, htext, hends, hclause⟩
      have hstart : total - byteLength (importWord ++ (behind ++ rest)) =
          byteLength (before ++ gap) := by
        rw [← htotal, htext]
        simp only [byteLength_append]
        omega
      have hstop : total - byteLength rest = byteLength (before ++ gap ++ text) := by
        rw [← htotal]
        simp only [byteLength_append]
        omega
      rw [List.append_assoc, (Runs.of_trivia hgap state _).scan, htext,
        List.append_assoc, scan_declaration total hdepth hlast hends hclause,
        hstart, hstop, hdeclaration]
      congr 1
      apply ih
      · rw [← htotal]
        simp only [List.append_assoc]
      · exact hdepth
      · rintro ⟨⟩

/-- A script of declarations has these declarations, if no escape stands for
half of a character. -/
theorem declarations_eq_of_lists {script : String}
    (h : Lists (Spells (!·.isSurrogate)) [] script.toList declarations) :
    Import.declarations script = declarations := by
  have hlists := h.imp fun _ _ => Spells.literal
  rw [Import.declarations, hlists.skipInterpreter]
  exact hlists.scan rfl rfl (by decide)

/-- They are handed out, if 32 bits tell the places of the script apart. -/
theorem keptDeclarations_eq_of_lists {script : String}
    (hshort : byteLength script.toList < placeLimit)
    (h : Lists (Spells (!·.isSurrogate)) [] script.toList declarations) :
    keptDeclarations script = declarations :=
  (keptDeclarations_eq hshort).trans (declarations_eq_of_lists h)

end

theorem keptDeclarations_eq_of_lists_type :
    let script := "//a\nimport type,\x7b\x7dfrom'\\x61' ;/*b*/"
    let found : Declaration :=
      { specifiers := [.default "type"], source := "a", start := 4, stop := 30 }
    byteLength script.toList < placeLimit ∧
      Lists (Spells (!·.isSurrogate)) [] script.toList [found] ∧
      keptDeclarations script = [found] := by
  intro script found
  let form : Form :=
    { default := some "type".toList, group := some (.named [] false), source := ['a'] }
  have hspells : Spells (!·.isSurrogate) "'\\x61'".toList ['a'] :=
    @Spells.intro _ '\'' [.byte ['6', '1']] ['a'] (by decide) (by decide) (by decide)
      (by decide)
  have hword : forall c cs, isWordStart c = true -> cs.all isWordPart = true ->
      IsWord (c :: cs) := by
    intro c cs hc hcs
    exact ⟨hc, List.all_eq_true.mp hcs⟩
  have hmark : forall {c behindWord tokens rest}, c ∈ ['*', ',', '{', '}'] ->
      Spaced (Spells (!·.isSurrogate)) false tokens rest [] ->
      Spaced (Spells (!·.isSurrogate)) behindWord (.mark c :: tokens)
        ([] ++ ([c] ++ rest)) [] := by
    intro c behindWord tokens rest hc hrest
    exact Spaced.cons Trivia.nil (by simp [Token.isWord]) (Token.Written.mark hc) hrest
  have hbody : Spaced (Spells (!·.isSurrogate)) true form.tokens
      " type,\x7b\x7dfrom'\\x61'".toList [] :=
    Spaced.cons (Trivia.blank (show isBlank ' ' = true by decide) Trivia.nil) (by decide)
      (Token.Written.word (hword 't' "ype".toList (by decide) (by decide)))
      (hmark (by decide) (hmark (by decide) (hmark (by decide)
        (Spaced.cons Trivia.nil (by decide)
          (Token.Written.word (hword 'f' "rom".toList (by decide) (by decide)))
          (Spaced.cons Trivia.nil (by decide) (Token.Written.literal hspells)
            (Spaced.nil _ []))))))
  have hform : form.Written (Spells (!·.isSurrogate))
      (importWord ++ " type,\x7b\x7dfrom'\\x61'".toList ++ [' '] ++ [';']) :=
    Form.Written.intro hbody (by simp)
  have hline : Trivia "//a\n".toList :=
    @Trivia.line ['a'] [] (by decide) Trivia.nil
  have hblock : Trivia "/*b*/".toList :=
    @Trivia.block ['b'] [] (by decide) Trivia.nil
  have hlists : Lists (Spells (!·.isSurrogate)) [] script.toList [found] := by
    have htext : script.toList = "//a\n".toList ++
        (importWord ++ " type,\x7b\x7dfrom'\\x61'".toList ++ [' '] ++ [';']) ++
        "/*b*/".toList := by decide
    rw [htext]
    exact Lists.cons hline hform (by decide) (Lists.nil hblock)
  have hshort : byteLength script.toList < placeLimit := by decide
  exact ⟨hshort, hlists, keptDeclarations_eq_of_lists hshort hlists⟩

theorem written_import {spelled : List Char -> List Char -> Prop} {source : List Char}
    {text : List Char} (h : spelled text source) :
    Form.Written spelled { default := none, group := none, source }
      (importWord ++ ([' '] ++ (text ++ [])) ++ [] ++ [';']) :=
  Form.Written.intro
    (Spaced.cons (Trivia.blank rfl Trivia.nil) (fun _ => List.cons_ne_nil _ _)
      (Token.Written.literal h) (Spaced.nil _ []))
    (List.forall_mem_nil _)

/-- Two escapes that stand for a character together are not read, and what
stands behind as many blanks as 32 bits can count is handed out with other
places. -/
theorem not_forall_keptDeclarations_eq :
    (¬ forall (script : String) (declarations : List Declaration),
      byteLength script.toList < placeLimit ->
      Lists (Spells fun _ => true) [] script.toList declarations ->
        keptDeclarations script = declarations) ∧
    ¬ forall (script : String) (declarations : List Declaration),
      Lists (Spells (!·.isSurrogate)) [] script.toList declarations ->
        keptDeclarations script = declarations := by
  constructor
  · intro hread
    have hspells : Spells (fun _ => true) "'\\ud83d\\ude00'".toList ['😀'] :=
      @Spells.intro _ '\'' [.unit "d83d".toList, .unit "de00".toList] ['😀']
        (by decide) (by decide) (by decide) (by decide)
    have hlists := @Lists.cons _ [] [] _ [] _ _ [] Trivia.nil (written_import hspells) rfl
      (Lists.nil Trivia.nil)
    have hfound := hread "import '\\ud83d\\ude00';" _ (by decide) hlists
    have hnone : keptDeclarations "import '\\ud83d\\ude00';" = [] := by
      decide +kernel
    rw [hnone] at hfound
    cases hfound
  · intro hread
    have hspells : Spells (!·.isSurrogate) "'b'".toList ['b'] :=
      @Spells.intro _ '\'' [.plain 'b'] ['b'] (by decide) (by decide) (by decide) (by decide)
    have hlists := @Lists.cons _ [] _ _ [] _ _ [] (trivia_replicate placeLimit)
      (written_import hspells) rfl (Lists.nil Trivia.nil)
    have hfound := hread (String.ofList (List.replicate placeLimit ' ' ++ "import 'b';".toList))
      _ (by rw [String.toList_ofList, ← List.append_nil (_ ++ _)]; exact hlists)
    have hkept : keptDeclarations (String.ofList "import 'b';".toList) =
        [⟨[], "b", 0, 11⟩] := by
      decide +kernel
    rw [keptDeclarations_of_blanks (by decide), hkept, List.nil_append,
      byteLength_replicate] at hfound
    cases hfound

end Import
end RemoteImports
