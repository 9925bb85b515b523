import RemoteImports.Proofs.Import.Places

/-!
# Literals by places

A literal may be read from the place of its opening quote, or passed over from
there octet by octet.  Where it can be read, both leave off at the same place,
also if the scan comes back to the quote after no declaration was made of what
was read.  So the literal of a text, with whatever stands around it, is read as
that text, and is passed over up to its closing quote.
-/

namespace RemoteImports
namespace Import

open Script Text

/-- Where passing over a literal leaves off, from the place of its quote. -/
def stringEnd (quote : Char) (cs : List Char) (place : Nat) : Nat :=
  place + 1 + stringMove quote ((octets cs).drop (place + 1))

section

variable {quote : Char} {bs cs rest value left : List Char} {place : Nat}

theorem getLast?_cons_of_eq {c d : Char} (h : bs.getLast? = some d) :
    (c :: bs).getLast? = some d := by
  rw [List.getLast?_cons, h]
  rfl

theorem stringMove_le (h : bs.getLast? ≠ some '\\') : stringMove quote bs <= bs.length := by
  fun_induction stringMove quote bs with
  | case1 =>
      exact Nat.le_refl 0
  | case2 bs ih =>
      have hle := ih fun hlast =>
        h (getLast?_cons_of_eq (getLast?_cons_of_eq (getLast?_cons_of_eq hlast)))
      simp only [List.length_cons]
      omega
  | case3 c bs _ ih =>
      have hle := ih fun hlast => h (getLast?_cons_of_eq (getLast?_cons_of_eq hlast))
      simp only [List.length_cons]
      omega
  | case4 bs _ hslash =>
      cases bs with
      | nil =>
          exact absurd rfl h
      | cons d bs =>
          exact (hslash d bs rfl rfl).elim
  | case5 | case6 =>
      simp
  | case7 c bs _ _ _ _ _ ih =>
      have hle := ih fun hlast => h (getLast?_cons_of_eq hlast)
      simp only [List.length_cons]
      omega

/-- Where a literal is read, passing over it leaves what reading it leaves. -/
theorem at_stringEnd (h : At cs place (quote :: rest)) (hquote : isQuote quote = true)
    (hread : readLiteral? quote rest = some (value, left)) :
    At cs (stringEnd quote cs place) left := by
  have hrest := h.next (lt_of_isQuote hquote)
  rcases readLiteral?_eq hread with ⟨text, rfl, hquoted⟩
  have hskip : skipString quote (text ++ left) = left := hquoted.skipString hquote left
  rw [stringEnd, hrest.drop]
  cases left with
  | cons c left =>
      have hleaves := (passes_string hquote).leaves hrest.toLeaves
      rw [hskip] at hleaves
      exact hleaves.toAt (List.cons_ne_nil c left)
  | nil =>
      have hmove := (passes_string hquote).toAt hrest
      rw [hskip] at hmove
      apply hmove
      apply stringMove_le
      rcases List.eq_nil_or_concat text with rfl | ⟨inside, last, rfl⟩
      · cases hquoted.getLast?
      · have hlast : last = quote := by
          have hend := hquoted.getLast?
          rw [List.concat_eq_append, List.getLast?_append] at hend
          exact Option.some.inj hend
        rw [hlast, List.append_nil, List.concat_eq_append, octets_append,
          octets_of_ascii (lt_of_isQuote hquote), List.getLast?_append]
        intro hslash
        cases Option.some.inj hslash
        cases hquote

theorem exists_at_of_literalAt {start stop : Nat} (hpeek : peek cs start = some quote)
    (hread : (literalAt cs start).run = some (some (value, stop))) :
    isQuote quote = true ∧ exists rest : List Char, At cs start (quote :: rest) := by
  have hquote : isQuote quote = true := by
    rw [literalAt, hpeek] at hread
    cases hquote : isQuote quote with
    | true =>
        rfl
    | false =>
        simp only [hquote, Bool.false_eq_true, if_false] at hread
        cases hread
  exact ⟨hquote, exists_at_of_peek (lt_of_isQuote hquote) hpeek⟩

theorem State.stride_quote (state : State) (cs : List Char) (place : Nat)
    (hquote : isQuote quote = true) :
    state.stride cs quote place = some (state.reach .value (stringEnd quote cs place)) := by
  rcases isBlank_eq_false_of_isQuote hquote with ⟨hblank, hslash⟩
  rw [State.stride, hblank, if_neg Bool.false_ne_true, if_neg fun h => hslash h.left,
    if_neg fun h => hslash h.left, State.strideToken, if_pos hquote]
  rfl

end

/-- Where a literal is read from a place, passing over it from there leaves off
where reading it does, and so does the scan, whatever it has come through. -/
theorem stringEnd_of_literalAt {cs value : List Char} {quote : Char} {start stop : Nat}
    (hpeek : peek cs start = some quote)
    (hread : (literalAt cs start).run = some (some (value, stop))) :
    stringEnd quote cs start = stop ∧
    forall state : State, state.stride cs quote start = some (state.reach .value stop) := by
  rcases exists_at_of_literalAt hpeek hread with ⟨hquote, rest, hstart⟩
  have hreads := literalAt_reads hstart
  cases hliteral : literal? (quote :: rest) with
  | none =>
      rw [hreads.run_of_none hliteral] at hread
      cases hread
  | some found =>
      rcases hreads.run_of_some hliteral with ⟨_, hrun, _, hstop⟩
      rw [hrun] at hread
      cases hread
      rw [literal?, if_pos hquote] at hliteral
      have hend : stringEnd quote cs start = stop :=
        (at_stringEnd hstart hquote hliteral).eq_sub.trans hstop.eq_sub.symm
      constructor
      · exact hend
      · intro state
        rw [state.stride_quote cs start hquote, hend]

/-- A character of several octets, one of them behind a backslash, and a line
that goes on. -/
theorem stringEnd_of_literalAt_accented :
    let cs := ['a', '\'', 'é', '\\', 'é', '\\', '\r', '\n', '\'', 'b']
    peek cs 1 = some '\'' ∧
    (literalAt cs 1).run = some (some (['é', 'é'], 11)) ∧
    stringEnd '\'' cs 1 = 11 := by
  intro cs
  have hpeek : peek cs 1 = some '\'' := by
    decide +kernel
  have hread : (literalAt cs 1).run = some (some (['é', 'é'], 11)) := by
    decide +kernel
  exact ⟨hpeek, hread, (stringEnd_of_literalAt hpeek hread).left⟩

/-- The literal of a text is read back as the text, whatever stands before it
and behind it, and reading it and passing over it both leave off right behind
its closing quote. -/
theorem literalAt_writeLiteral (before value rest : List Char) :
    let cs := before ++ (writeLiteral value ++ rest)
    let start := byteLength before
    let stop := start + byteLength (writeLiteral value)
    literal? (writeLiteral value ++ rest) = some (value, rest) ∧
    skipString '"' ((writeLiteral value ++ rest).drop 1) = rest ∧
    peek cs start = some '"' ∧
    (literalAt cs start).run = some (some (value, stop)) ∧
    stringEnd '"' cs start = stop ∧
    slice? cs start stop = some (writeLiteral value) := by
  intro cs start stop
  have hstart : At cs start (writeLiteral value ++ rest) := at_append before _
  have hstop : At cs stop rest := hstart.append
  have hunique : forall place : Nat, At cs place rest -> place = stop := by
    intro place hplace
    exact hplace.eq_sub.trans hstop.eq_sub.symm
  have hread : literal? (writeLiteral value ++ rest) = some (value, rest) :=
    (literal_writeLiteral value).literal? rest
  have hinside : readLiteral? '"' (value.flatMap writeChar ++ ['"'] ++ rest) =
      some (value, rest) := hread
  refine ⟨hread, ?_, ?_, ?_, ?_, hstart.slice⟩
  · rcases readLiteral?_eq hinside with ⟨text, htext, hquoted⟩
    have hskip := hquoted.skipString rfl rest
    rwa [← htext] at hskip
  · exact (hstart.peek_eq_some_iff (by decide)).mpr rfl
  · rcases (literalAt_reads hstart).run_of_some hread with ⟨⟨found, place⟩, hrun, rfl, hplace⟩
    rw [hrun, hunique place hplace]
  · exact hunique _ (at_stringEnd hstart rfl hinside)

end Import
end RemoteImports
