import RemoteImports.Proofs.Import.Accepted
import RemoteImports.Proofs.Import.Opacity

/-!
# Cutting a script behind a declaration

Behind a declaration the scan is in a state like the one it starts in, and what
it did before does not depend on what follows.  So the declarations of a script
are those of the text up to the end of one of them, and then those of the text
behind it.
-/

namespace RemoteImports
namespace Import

open Script
open Text (byteLength byteLength_append takeBytes dropBytes takeBytes_append_dropBytes
  takeBytes_byteLength_append dropBytes_byteLength_append)

section

variable {state state' mid : State} {cs front front' later text : List Char} {c : Char}
  {clause : Clause}

/-!
# Behind the cut
-/

theorem Alike.refl (cs : List Char) : Alike cs cs := by
  cases cs with
  | nil =>
      exact Alike.nil
  | cons c cs =>
      exact Alike.same c cs cs

theorem scan_eq_of_agrees (total : Nat) (state : State) (cs : List Char) :
    forall state' : State, state.Agrees state' ->
      scan total state cs = scan total state' cs := by
  fun_induction scan total state cs with
  | case1 state =>
      intro state' _
      rw [scan]
  | case2 state c cs step _ later hnone ih =>
      intro state' h
      rcases state.step_suffix c cs with ⟨text, htext⟩
      have hstep : (state.step c cs).Agrees (state'.step c cs) step.rest step.rest := by
        rw [← htext]
        apply h.step (Alike.refl _)
        · rw [htext]
          exact hnone
        · rw [htext]
        · exact fun _ => id
      rw [scan_cons_of_none hstep.clause', hstep.rest']
      exact ih _ hstep.state
  | case3 state c cs step _ later clause hsome ih =>
      intro state' h
      rcases state.step_declaration hsome with
        ⟨hdepth, hlast, hnext, behind, htext, hends, hclause⟩
      have hdepth' : state'.depth = 0 := h.depth ▸ hdepth
      have hlast' : state'.last ≠ .punctuation '.' := mt h.property.mpr hlast
      have hbehind : step.state.Agrees { state' with last := .punctuation ';' } := by
        rw [show step.state = { state with last := .punctuation ';' } from hnext]
        exact ⟨h.depth, rfl, Iff.rfl⟩
      have hlater := ih _ hbehind
      rw [htext, scan_declaration total hdepth' hlast' hends hclause]
      exact congrArg _ hlater

/-!
# Before the cut

What follows a declaration may be anything before which it is read as well.  The
induction is on the steps that lead there from the front of the script.
-/

structure Approaches (mid : State) (front front' : List Char) (state : State)
    (text : List Char) : Prop where
  abreast : Abreast state state (text ++ front) (text ++ front')
  found : forall n : Nat, exists earlier : List Declaration,
    scan (n + byteLength front) state (text ++ front) =
      earlier ++ scan (n + byteLength front) mid front ∧
    scan (n + byteLength front') state (text ++ front') =
      earlier ++ scan (n + byteLength front') mid front'

theorem Approaches.pass (h : Approaches mid front front' (state.step c cs).state later)
    (hcs : cs = text ++ (later ++ front)) (hclause : (state.step c cs).clause = none)
    (hrest : (state.step c cs).rest = later ++ front) :
    Approaches mid front front' state (c :: (text ++ later)) := by
  subst hcs
  have hsplit : forall tail : List Char,
      c :: (text ++ later) ++ tail = c :: (text ++ (later ++ tail)) := by
    intro tail
    rw [List.cons_append, List.append_assoc]
  have halike := h.abreast.alike
  have hstep : (state.step c (text ++ (later ++ front))).Agrees
      (state.step c (text ++ (later ++ front'))) (later ++ front) (later ++ front') :=
    State.Agrees.rfl.step halike hclause hrest
      fun hbehind => h.abreast.clause?_eq_none hbehind.left hbehind.left
  have hstate := State.step_state_alike halike hclause hstep.clause' hrest
  constructor
  · rw [hsplit, hsplit]
    exact h.abreast.of_step hstep rfl hstate.symm
  · intro n
    rw [hsplit, hsplit, scan_cons_of_none hclause, scan_cons_of_none hstep.clause',
      hrest, hstep.rest', ← hstate]
    exact h.found n

theorem Approaches.declaration {behind : List Char}
    (h : Approaches mid front front' { state with last := .punctuation ';' } later)
    (hdepth : state.depth = 0) (hlast : state.last ≠ .punctuation '.')
    (hends : EndsWord (behind ++ (later ++ front)))
    (hclause : clause? (behind ++ (later ++ front)) = some (clause, later ++ front)) :
    Approaches mid front front' state (importWord ++ (behind ++ later)) := by
  have hsplit : forall tail : List Char,
      importWord ++ (behind ++ later) ++ tail =
        importWord ++ (behind ++ (later ++ tail)) := by
    intro tail
    simp only [List.append_assoc]
  rcases h.abreast.declaration hdepth hdepth hends hclause with
    ⟨hends', hclause', habreast⟩
  constructor
  · rw [hsplit, hsplit]
    exact habreast
  · intro n
    rcases h.found n with ⟨earlier, hscan, hscan'⟩
    rw [hsplit, hsplit, scan_declaration_append n hdepth hlast hends hclause, hscan,
      scan_declaration_append n hdepth hlast hends' hclause', hscan']
    exact ⟨_ :: earlier, rfl, rfl⟩

theorem Reaches.approaches (h : Reaches state cs mid front)
    (hmid : Abreast mid mid front front') :
    exists text : List Char, cs = text ++ front ∧
      Approaches mid front front' state text := by
  induction h with
  | refl =>
      exact ⟨[], rfl, hmid, fun n => ⟨[], rfl, rfl⟩⟩
  | @step state mid c cs front _ ih =>
      rcases ih hmid with ⟨later, hrest, hlater⟩
      rcases state.step_suffix c cs with ⟨text, htext⟩
      rw [hrest] at htext
      cases hclause : (state.step c cs).clause with
      | none =>
          refine ⟨c :: (text ++ later), ?_, hlater.pass htext.symm hclause hrest⟩
          rw [← htext, List.cons_append, List.append_assoc]
      | some clause =>
          rcases state.step_declaration hclause with
            ⟨hdepth, hlast, hstate, behind, himport, hends, hread⟩
          rw [hstate] at hlater
          rw [hrest] at himport hends hread
          refine ⟨importWord ++ (behind ++ later), ?_,
            hlater.declaration hdepth hlast hends hread⟩
          rw [himport]
          simp only [List.append_assoc]

end

/-!
# The cut
-/

section

variable {behind rest : List Char} {clause : Clause}

theorem clause?_of_append (h : clause? (behind ++ rest) = some (clause, rest)) :
    clause? behind = some (clause, []) := by
  have hclause : clause? (behind ++ []) = some (clause, []) := by
    refine clause?_append (fun between => finish?_append ?_ ?_) h
    · rintro ⟨⟩
    · rintro ⟨⟩
  rwa [List.append_nil] at hclause

theorem endsWord_of_append (h : EndsWord (behind ++ rest)) : EndsWord behind := by
  intro c hc
  apply h c
  rw [List.head?_append, hc]
  rfl

theorem abreast_of_append (state : State) (hdepth : state.depth = 0)
    (hends : EndsWord (behind ++ rest))
    (hclause : clause? (behind ++ rest) = some (clause, rest)) :
    Abreast state state (importWord ++ (behind ++ rest)) (importWord ++ behind) :=
  Abreast.of_barred (Alike.same _ _ _) hdepth hdepth (barred_declaration hends hclause)
    (barred_declaration (endsWord_of_append hends) (clause?_of_append hclause))

end

theorem Abreast.skipInterpreter_eq {state : State} {before text front front' : List Char}
    (h : Abreast state state (text ++ front) (text ++ front'))
    (htext : skipInterpreter (before ++ front) = text ++ front) :
    skipInterpreter (before ++ front') = text ++ front' := by
  rcases skipInterpreter_suffix (before ++ front) with ⟨line, hline⟩
  have hbefore : before = line ++ text := by
    apply @List.append_cancel_right _ _ front
    rw [List.append_assoc, ← htext, hline]
  rw [← htext] at h
  rw [hbefore, List.append_assoc] at hline ⊢
  rw [hbefore, List.append_assoc] at h
  exact h.skipInterpreter_append hline

/-- What is found behind a declaration is what is found in the text behind it. -/
theorem scan_behind_declaration {state : State} (n : Nat) (hdepth : state.depth = 0)
    (rest : List Char) :
    scan (n + byteLength rest) { state with last := .punctuation ';' } rest =
      (scan (byteLength rest) .start rest).map (Declaration.shift n) := by
  have hagrees : State.Agrees { state with last := .punctuation ';' } .start :=
    ⟨hdepth, rfl, by simp [State.start]⟩
  rw [scan_eq_of_agrees _ _ _ _ hagrees, scan_add n (Nat.le_refl _)]

/-- The declarations of a script, told by the place of one of them. -/
theorem Reaches.declarations_eq {script : String} {before behind rest : List Char}
    {last : State} {clause : Clause}
    (h : Reaches .start (skipInterpreter script.toList) last
      (importWord ++ (behind ++ rest)))
    (hscript : script.toList = before ++ (importWord ++ (behind ++ rest)))
    (hdepth : last.depth = 0) (hlast : last.last ≠ .punctuation '.')
    (hends : EndsWord (behind ++ rest))
    (hclause : clause? (behind ++ rest) = some (clause, rest)) :
    declarations script =
      declarations (String.ofList (before ++ (importWord ++ behind))) ++
        (scan (byteLength rest) .start rest).map
          (Declaration.shift (byteLength (before ++ (importWord ++ behind)))) := by
  rcases h.approaches (abreast_of_append last hdepth hends hclause) with
    ⟨text, htext, happroaches⟩
  rcases happroaches.found (byteLength before) with ⟨earlier, hscan, hscan'⟩
  have hfront : skipInterpreter (before ++ (importWord ++ behind)) =
      text ++ (importWord ++ behind) := by
    rw [hscript] at htext
    exact happroaches.abreast.skipInterpreter_eq htext
  have hbytes : byteLength before + byteLength (importWord ++ (behind ++ rest)) =
      byteLength (before ++ (importWord ++ behind)) + byteLength rest := by
    simp only [byteLength_append, Nat.add_assoc]
  have hwhole : declarations script = earlier ++
      clause.declaration (byteLength before)
          (byteLength (before ++ (importWord ++ behind))) ::
        (scan (byteLength rest) .start rest).map
          (Declaration.shift (byteLength (before ++ (importWord ++ behind)))) := by
    rw [declarations, htext, hscript, byteLength_append, hscan,
      scan_declaration _ hdepth hlast hends hclause, Nat.add_sub_cancel, hbytes,
      scan_behind_declaration _ hdepth, Nat.add_sub_cancel]
    rfl
  have hpart : declarations (String.ofList (before ++ (importWord ++ behind))) =
      earlier ++ [clause.declaration (byteLength before)
        (byteLength (before ++ (importWord ++ behind)))] := by
    rw [declarations, String.toList_ofList, hfront, byteLength_append, hscan',
      scan_declaration _ hdepth hlast (endsWord_of_append hends)
        (clause?_of_append hclause), Nat.add_sub_cancel, scan]
    rfl
  rw [hwhole, hpart, List.append_assoc]
  rfl

theorem declarations_eq_append {script : String} {declaration : Declaration}
    (h : declaration ∈ declarations script)
    (hrest : forall later : List Char,
      dropBytes declaration.stop script.toList ≠ '#' :: '!' :: later) :
    declarations script =
      declarations (String.ofList (takeBytes declaration.stop script.toList)) ++
        (declarations (String.ofList (dropBytes declaration.stop script.toList))).map
          (Declaration.shift declaration.stop) := by
  rcases exists_reached_of_mem_declarations h with
    ⟨before, last, behind, rest, clause, hscript, hreach, hdepth, hlast, hends, hclause,
      rfl⟩
  have hsplit : script.toList = before ++ (importWord ++ behind) ++ rest := by
    rw [hscript]
    simp only [List.append_assoc]
  rw [Clause.declaration, hsplit, dropBytes_byteLength_append] at hrest
  have hbehind : declarations (String.ofList rest) = scan (byteLength rest) .start rest := by
    rw [declarations, String.toList_ofList, skipInterpreter_eq_self hrest]
  rw [hreach.declarations_eq hscript hdepth hlast hends hclause, Clause.declaration,
    hsplit, takeBytes_byteLength_append, dropBytes_byteLength_append, hbehind]

/-- A script has the declarations of its front up to the end of one of them, and
then those of the rest, unless the rest begins like the line of an interpreter.
The cut is at that end if 32 bits tell the places of the script apart. -/
theorem keptDeclarations_eq_append {script : String} {declaration : Declaration}
    (hshort : byteLength script.toList < placeLimit)
    (h : declaration ∈ keptDeclarations script)
    (hrest : forall later : List Char,
      dropBytes declaration.stop script.toList ≠ '#' :: '!' :: later) :
    keptDeclarations script =
      keptDeclarations (String.ofList (takeBytes declaration.stop script.toList)) ++
        (keptDeclarations (String.ofList (dropBytes declaration.stop script.toList))).map
          (Declaration.shift declaration.stop) := by
  rw [keptDeclarations_eq hshort] at h ⊢
  -- The parts are no longer than the script.
  have hparts : byteLength (takeBytes declaration.stop script.toList) < placeLimit ∧
      byteLength (dropBytes declaration.stop script.toList) < placeLimit := by
    have hlength := congrArg byteLength
      (takeBytes_append_dropBytes declaration.stop script.toList)
    rw [byteLength_append] at hlength
    omega
  rw [keptDeclarations_eq (by rw [String.toList_ofList]; exact hparts.left),
    keptDeclarations_eq (by rw [String.toList_ofList]; exact hparts.right)]
  exact declarations_eq_append h hrest

/-- A word that may begin attributes stands behind the cut. -/
theorem keptDeclarations_eq_append_with :
    exists declaration : Declaration,
      byteLength "import import from 'b' with\nimport c from 'c'".toList < placeLimit ∧
      declaration ∈ keptDeclarations "import import from 'b' with\nimport c from 'c'" ∧
      declaration.source = "b" ∧
      (forall later : List Char,
        dropBytes declaration.stop "import import from 'b' with\nimport c from 'c'".toList ≠
          '#' :: '!' :: later) ∧
      keptDeclarations "import import from 'b' with\nimport c from 'c'" =
        keptDeclarations (String.ofList (takeBytes declaration.stop
          "import import from 'b' with\nimport c from 'c'".toList)) ++
          (keptDeclarations (String.ofList (dropBytes declaration.stop
            "import import from 'b' with\nimport c from 'c'".toList))).map
              (Declaration.shift declaration.stop) := by
  have hshort : byteLength "import import from 'b' with\nimport c from 'c'".toList <
      placeLimit := by
    decide
  have hmem : (⟨[.default "import"], "b", 0, 22⟩ : Declaration) ∈
      keptDeclarations "import import from 'b' with\nimport c from 'c'" := by
    decide +kernel
  have hhead : (dropBytes 22
      "import import from 'b' with\nimport c from 'c'".toList).head? = some ' ' := by
    decide +kernel
  have hrest : forall later : List Char,
      dropBytes 22 "import import from 'b' with\nimport c from 'c'".toList ≠
        '#' :: '!' :: later := by
    intro later hlater
    rw [hlater] at hhead
    cases hhead
  exact ⟨_, hshort, hmem, rfl, hrest, keptDeclarations_eq_append hshort hmem hrest⟩

theorem declarations_two (n : Nat) :
    declarations (String.ofList ("import 'a';".toList ++
        (List.replicate n ' ' ++ "import 'b';".toList))) =
      [⟨[], "a", 0, 11⟩, ⟨[], "b", 11 + n, 11 + n + 11⟩] := by
  have hfirst : Spells (!·.isSurrogate) "'a'".toList ['a'] :=
    @Spells.intro _ '\'' [.plain 'a'] ['a'] (by decide) (by decide) (by decide) (by decide)
  have hsecond : Spells (!·.isSurrogate) "'b'".toList ['b'] :=
    @Spells.intro _ '\'' [.plain 'b'] ['b'] (by decide) (by decide) (by decide) (by decide)
  have hlists := @Lists.cons _ [] [] _ _ _ _ _ Trivia.nil (written_import hfirst) rfl
    (Lists.cons (trivia_replicate n) (written_import hsecond) rfl (Lists.nil Trivia.nil))
  have hstart : byteLength ("import 'a';".toList ++ List.replicate n ' ') = 11 + n := by
    rw [byteLength_append, byteLength_replicate]
    rfl
  have hstop : byteLength ("import 'a';".toList ++ List.replicate n ' ' ++
      "import 'b';".toList) = 11 + n + 11 := by
    rw [byteLength_append, hstart]
    rfl
  apply declarations_eq_of_lists
  rw [String.toList_ofList, ← hstop, ← hstart, ← List.append_nil (List.replicate n ' ' ++ _)]
  exact hlists

/-- As many bytes behind one declaration as 32 bits can count, another is handed
out with an end within the first. -/
theorem not_forall_keptDeclarations_eq_append :
    ¬ forall (script : String) (declaration : Declaration),
      declaration ∈ keptDeclarations script ->
      (forall later : List Char,
        dropBytes declaration.stop script.toList ≠ '#' :: '!' :: later) ->
      keptDeclarations script =
        keptDeclarations (String.ofList (takeBytes declaration.stop script.toList)) ++
          (keptDeclarations (String.ofList (dropBytes declaration.stop script.toList))).map
            (Declaration.shift declaration.stop) := by
  intro h
  -- With these blanks the end of the second declaration is kept as ten, which is in
  -- front of the semicolon of the first.  Their number is never written out.
  rcases Nat.exists_eq_add_of_le (show 12 <= placeLimit by decide) with ⟨n, hn⟩
  generalize hgap : List.replicate n ' ' = gap
  have hfound := declarations_two n
  rw [hgap] at hfound
  have hsplit : "import 'a';".toList ++ (gap ++ "import 'b';".toList) =
      "import 'a'".toList ++ (';' :: (gap ++ "import 'b';".toList)) := rfl
  have hbytes : byteLength "import 'a'".toList = 10 := by
    decide
  have hdrop := dropBytes_byteLength_append "import 'a'".toList
    (';' :: (gap ++ "import 'b';".toList))
  have htake := takeBytes_byteLength_append "import 'a'".toList
    (';' :: (gap ++ "import 'b';".toList))
  rw [← hsplit, hbytes] at hdrop htake
  have hstop : kept (11 + n + 11) = 10 := by
    rw [show 11 + n + 11 = placeLimit + 10 by omega, kept_add_placeLimit]
    rfl
  have hkept : keptDeclarations (String.ofList
      ("import 'a';".toList ++ (gap ++ "import 'b';".toList))) =
        [⟨[], "a", 0, 11⟩, ⟨[], "b", kept (11 + n), 10⟩] := by
    rw [keptDeclarations, hfound, List.map_cons, List.map_cons, List.map_nil,
      Declaration.kept, Declaration.kept, hstop]
    rfl
  have hfront : keptDeclarations (String.ofList "import 'a'".toList) =
      [⟨[], "a", 0, 10⟩] := by
    decide +kernel
  have hcut := h _ ⟨[], "b", kept (11 + n), 10⟩
    (by rw [hkept]; exact List.mem_cons_of_mem _ List.mem_cons_self)
    (by rw [String.toList_ofList, hdrop]; intro later hlater; cases hlater)
  rw [hkept, String.toList_ofList, htake, hfront] at hcut
  cases hcut

end Import
end RemoteImports
