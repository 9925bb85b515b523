import RemoteImports.Proofs.Import.Located
import RemoteImports.Rewrite.Transform

/-!
# What a rewrite leaves alone

A rewrite walks along a script once and puts texts in place of some
declarations.  What comes out is the script with every gap between
declarations, and every declaration that is not replaced, as it was.
-/

namespace RemoteImports
namespace Rewrite

open Import Text

/-- Behind the text `before`, the source becomes the target by nothing but a
text for each span of a declaration. -/
inductive Spliced
    (Replaces : List Char -> List Char -> Declaration -> List Char -> Prop) :
    List Char -> List Char -> List Char -> List Declaration -> Prop where
  | nil (before rest : List Char) : Spliced Replaces before rest rest []
  | cons {before gap span text rest target : List Char}
      {declaration : Declaration} {declarations : List Declaration} :
      declaration.start = byteLength (before ++ gap) ->
      declaration.stop = byteLength (before ++ gap ++ span) ->
      Replaces (before ++ gap) span declaration text ->
      Spliced Replaces (before ++ gap ++ span) rest target declarations ->
      Spliced Replaces before (gap ++ span ++ rest) (gap ++ text ++ target)
        (declaration :: declarations)

section

variable {R S : List Char -> List Char -> Declaration -> List Char -> Prop}
  {before source target : List Char} {declarations : List Declaration}

theorem Spliced.imp
    (himp : forall before span declaration text,
      R before span declaration text -> S before span declaration text)
    (h : Spliced R before source target declarations) :
    Spliced S before source target declarations := by
  induction h with
  | nil before rest =>
      exact Spliced.nil before rest
  | cons hstart hstop hreplaces _ ih =>
      exact Spliced.cons hstart hstop (himp _ _ _ _ hreplaces) ih

/-- Where a text that is put in place of a span cannot be mistaken for it, a
script that comes out as it was had no declaration replaced. -/
theorem Spliced.forall_of_eq {Kept : Declaration -> Prop}
    (hkept : forall before span declaration text,
      R before span declaration text ->
        (Kept declaration ∧ text = span) ∨
          forall rest target : List Char, span ++ rest ≠ text ++ target)
    (h : Spliced R before source target declarations) (heq : source = target) :
    forall declaration, declaration ∈ declarations -> Kept declaration := by
  induction h with
  | nil =>
      intro declaration hmem
      cases hmem
  | cons _ _ hreplaces _ ih =>
      rename_i rest target first later _
      rw [List.append_assoc, List.append_assoc] at heq
      have hbehind := List.append_cancel_left heq
      rcases hkept _ _ _ _ hreplaces with ⟨hfirst, htext⟩ | hdiffers
      · rw [htext] at hbehind
        intro declaration hmem
        cases hmem with
        | head =>
            exact hfirst
        | tail _ hlater =>
            exact ih (List.append_cancel_left hbehind) declaration hlater
      · exact absurd hbehind (hdiffers _ _)

end

/-!
# The walk along a script

Declarations that are not replaced do not move the cursor.  Their text is
copied with the gap before the next declaration that is, or with the end.
-/

def editsOf (text? : Declaration -> Option (List Char))
    (declarations : List Declaration) : List (Declaration × List Char) :=
  declarations.filterMap fun declaration =>
    (text? declaration).map fun text => (declaration, text)

theorem editsOf_cons_none {text? : Declaration -> Option (List Char)}
    {declaration : Declaration} (h : text? declaration = none)
    (declarations : List Declaration) :
    editsOf text? (declaration :: declarations) = editsOf text? declarations := by
  rw [editsOf, List.filterMap_cons, h]
  rfl

theorem editsOf_cons_some {text? : Declaration -> Option (List Char)}
    {declaration : Declaration} {text : List Char}
    (h : text? declaration = some text) (declarations : List Declaration) :
    editsOf text? (declaration :: declarations) =
      (declaration, text) :: editsOf text? declarations := by
  rw [editsOf, List.filterMap_cons, h]
  rfl

theorem splice_edit {before gap span : List Char} {declaration : Declaration}
    (hstart : declaration.start = byteLength (before ++ gap))
    (hstop : declaration.stop = byteLength (before ++ gap ++ span))
    (rest text : List Char) (edits : List (Declaration × List Char)) :
    splice (byteLength before) (gap ++ span ++ rest) ((declaration, text) :: edits) =
      gap ++ text ++ splice (byteLength (before ++ gap ++ span)) rest edits := by
  have hgap : declaration.start - byteLength before = byteLength gap := by
    rw [hstart, byteLength_append]
    omega
  have hspan : declaration.stop - byteLength before = byteLength (gap ++ span) := by
    rw [hstop, List.append_assoc, byteLength_append]
    omega
  rw [splice, hspan, dropBytes_byteLength_append, hgap, List.append_assoc gap span,
    takeBytes_byteLength_append, hstop]

theorem splice_pass {before passed rest : List Char}
    {edits : List (Declaration × List Char)}
    (h : forall edit, edit ∈ edits ->
      byteLength (before ++ passed) <= edit.1.start ∧ edit.1.start <= edit.1.stop) :
    splice (byteLength before) (passed ++ rest) edits =
      passed ++ splice (byteLength (before ++ passed)) rest edits := by
  cases edits with
  | nil =>
      rfl
  | cons edit edits =>
      rcases edit with ⟨declaration, text⟩
      rcases h _ List.mem_cons_self with ⟨hstart, hstop⟩
      rw [byteLength_append] at hstart ⊢
      have hgap : declaration.start - byteLength before = byteLength passed +
          (declaration.start - (byteLength before + byteLength passed)) := by
        simp only at hstart
        omega
      have hspan : declaration.stop - byteLength before = byteLength passed +
          (declaration.stop - (byteLength before + byteLength passed)) := by
        simp only at hstart hstop
        omega
      rw [splice, splice, hgap, hspan, takeBytes_add_append, dropBytes_add_append]
      simp only [List.append_assoc]

structure Filled (whole : List Char) (text? : Declaration -> Option (List Char))
    (before span : List Char) (declaration : Declaration) (text : List Char) :
    Prop where
  start : declaration.start = byteLength before
  whole : before <+: whole
  word : importWord <+: span
  text : text = (text? declaration).getD span

theorem splice_spliced {whole before rest : List Char}
    {declarations : List Declaration} (h : Located before rest declarations)
    (hwhole : before ++ rest = whole) (text? : Declaration -> Option (List Char)) :
    Spliced (Filled whole text?) before rest
      (splice (byteLength before) rest (editsOf text? declarations))
      declarations := by
  induction h with
  | nil before rest =>
      exact Spliced.nil before rest
  | cons _ hdeclaration hlater ih =>
      rename_i before gap behind rest clause declaration declarations _
      have hstart : declaration.start = byteLength (before ++ gap) := by
        rw [hdeclaration]
      have hstop : declaration.stop =
          byteLength (before ++ gap ++ (importWord ++ behind)) := by
        rw [hdeclaration]
      have hrest : before ++ gap ++ (importWord ++ behind) ++ rest = whole := by
        rw [← hwhole]
        simp only [List.append_assoc]
      have hbefore : before ++ gap <+: whole := by
        rw [← hrest, List.append_assoc (before ++ gap)]
        exact List.prefix_append _ _
      have hword : importWord <+: importWord ++ behind := List.prefix_append _ _
      cases htext : text? declaration with
      | none =>
          have hedits : forall edit, edit ∈ editsOf text? declarations ->
              byteLength (before ++ (gap ++ (importWord ++ behind))) <= edit.1.start ∧
                edit.1.start <= edit.1.stop := by
            intro edit hmem
            rcases List.mem_filterMap.mp hmem with ⟨later, hin, hedit⟩
            rcases Option.map_eq_some_iff.mp hedit with ⟨text, _, rfl⟩
            rw [← List.append_assoc]
            exact hlater.bounds later hin
          rw [editsOf_cons_none htext, splice_pass hedits, ← List.append_assoc before]
          exact Spliced.cons hstart hstop
            ⟨hstart, hbefore, hword, by rw [htext, Option.getD_none]⟩ (ih hrest)
      | some text =>
          rw [editsOf_cons_some htext, splice_edit hstart hstop]
          exact Spliced.cons hstart hstop
            ⟨hstart, hbefore, hword, by rw [htext, Option.getD_some]⟩ (ih hrest)

end Rewrite
end RemoteImports
