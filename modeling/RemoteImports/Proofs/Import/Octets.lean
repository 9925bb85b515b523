import RemoteImports.Proofs.Import.Reading
import RemoteImports.Proofs.Script.Octets

/-!
# Reading by places

A declaration may be read from the octets of a script and a place among them.
The words and literals that are read are cut out of the script between two
places, and an attempt that cut it out of place would come to nothing at all.
None does: reading by places finds what is found in the text that the place
leaves, and goes on from the place where that goes on.
-/

namespace RemoteImports
namespace Import

open Script Text

/-- An attempt at reading: nothing if a slice is out of place, and otherwise
what is read, if anything is. -/
abbrev Attempt (α : Type) : Type := OptionT Option α

def cut (cs : List Char) (start stop : Nat) : Attempt (List Char) :=
  OptionT.lift (slice? cs start stop)

def triviaEnd (cs : List Char) (place : Nat) : Nat :=
  place + triviaMove ((octets cs).drop place)

def wordEnd? (cs : List Char) (place : Nat) : Option Nat :=
  if (peek cs place).any isWordStart then some (place + wordMove ((octets cs).drop place))
  else none

def wordAt (cs : List Char) (place : Nat) : Attempt (List Char × Nat) := do
  let stop ← OptionT.mk (some (wordEnd? cs place))
  let word ← cut cs place stop
  return (word, stop)

def peekWord (cs : List Char) (place : Nat) : Option (Option (List Char)) :=
  (wordAt cs place).run.map (Option.map Prod.fst)

def afterAt (word cs : List Char) (place : Nat) : Attempt Nat := do
  let (found, stop) ← wordAt cs place
  if found = word then return stop else failure

def literalAt (cs : List Char) (place : Nat) : Attempt (List Char × Nat) :=
  match peek cs place with
  | none => failure
  | some quote =>
      if isQuote quote then do
        let rest ← cut cs (place + 1) (byteLength cs)
        match readLiteral? quote rest with
        | none => failure
        | some (value, left) =>
            return (value, place + 1 + (byteLength rest - byteLength left))
      else failure

def bindingAt (cs : List Char) (place : Nat) : Attempt (String × Nat) := do
  let stop ← afterAt ['a', 's'] cs place
  let (name, stop) ← wordAt cs (triviaEnd cs stop)
  return (String.ofList name, triviaEnd cs stop)

def bracedAt (cs : List Char) (place : Nat) : Attempt (Specifier × Nat) :=
  if (peek cs place).any isQuote then do
    let (name, stop) ← literalAt cs place
    let (binding, stop) ← bindingAt cs (triviaEnd cs stop)
    return (.named (String.ofList name) binding, stop)
  else do
    let (name, stop) ← wordAt cs place
    let stop := triviaEnd cs stop
    let next ← OptionT.lift (peekWord cs stop)
    if name = ['t', 'y', 'p', 'e'] ∧ next.any (· != ['a', 's']) then failure
    else if next = some ['a', 's'] then do
      let (binding, stop) ← bindingAt cs stop
      return (.named (String.ofList name) binding, stop)
    else return (.named (String.ofList name) (String.ofList name), stop)

theorem lt_of_peek {cs : List Char} {place : Nat} {c : Char}
    (h : peek cs place = some c) : place < (octets cs).length := by
  rcases List.getElem?_eq_some_iff.mp h with ⟨hlt, _⟩
  exact hlt

def bracedListAt (cs : List Char) (place : Nat) : Attempt (List Specifier × Nat) :=
  let inside := triviaEnd cs place
  if peek cs inside = some '}' then return ([], inside + 1)
  else
    match (bracedAt cs inside).run with
    | none => OptionT.mk none
    | some none => failure
    | some (some (specifier, stop)) =>
        if _ : peek cs stop = some ',' then
          if _ : place <= stop then do
            let (specifiers, stop) ← bracedListAt cs (stop + 1)
            return (specifier :: specifiers, stop)
          else OptionT.mk none
        else if peek cs stop = some '}' then return ([specifier], stop + 1)
        else failure
termination_by (octets cs).length - place
decreasing_by
  have hlt := lt_of_peek ‹_›
  omega

def groupAt (cs : List Char) (place : Nat) : Attempt (List Specifier × Nat) :=
  if peek cs place = some '*' then do
    let (name, stop) ← bindingAt cs (triviaEnd cs (place + 1))
    return ([.namespace name], stop)
  else if peek cs place = some '{' then do
    let (specifiers, stop) ← bracedListAt cs (place + 1)
    return (specifiers, triviaEnd cs stop)
  else failure

def specifiersAt (cs : List Char) (place : Nat) : Attempt (List Specifier × Nat) :=
  if (peek cs place).any isWordStart then do
    let (name, stop) ← wordAt cs place
    let first := Specifier.default (String.ofList name)
    let stop := triviaEnd cs stop
    if peek cs stop = some ',' then do
      let (specifiers, stop) ← groupAt cs (triviaEnd cs (stop + 1))
      return (first :: specifiers, stop)
    else return ([first], stop)
  else groupAt cs place

def isTypeOnlyAt (cs : List Char) (place : Nat) : Option Bool := do
  match ← (afterAt ['t', 'y', 'p', 'e'] cs place).run with
  | none => return false
  | some stop =>
      let stop := triviaEnd cs stop
      if peek cs stop = some '{' ∨ peek cs stop = some '*' then return true
      else return (← peekWord cs stop).any (· != ['f', 'r', 'o', 'm'])

def hasAttributesAt (cs : List Char) (place : Nat) : Option Bool := do
  match ← (wordAt cs place).run with
  | none => return false
  | some (word, stop) =>
      return (word == ['w', 'i', 't', 'h'] || word == ['a', 's', 's', 'e', 'r', 't'])
        && peek cs (triviaEnd cs stop) == some '{'

def finishAt (cs : List Char) (place : Nat) : Attempt Nat := do
  let behind := place + (((octets cs).drop place).takeWhile isSpace).length
  if ← OptionT.lift (hasAttributesAt cs behind) then failure
  else if peek cs behind = some ';' then return behind + 1
  else return place

def sourceAt (cs : List Char) (place : Nat) : Attempt (String × Nat) := do
  let (source, stop) ← literalAt cs place
  return (String.ofList source, ← finishAt cs stop)

def clauseAt (cs : List Char) (place : Nat) : Attempt (Clause × Nat) := do
  let place := triviaEnd cs place
  if (peek cs place).any isQuote then do
    let (source, stop) ← sourceAt cs place
    return ({ specifiers := [], source }, stop)
  else if ← OptionT.lift (isTypeOnlyAt cs place) then failure
  else do
    let (specifiers, stop) ← specifiersAt cs place
    let stop ← afterAt ['f', 'r', 'o', 'm'] cs stop
    let (source, stop) ← sourceAt cs (triviaEnd cs stop)
    return ({ specifiers, source }, stop)

/-!
# Reading the same
-/

def Reads {α β : Type} (R : α -> β -> Prop) (attempt : Attempt α) (result : Option β) :
    Prop :=
  match result with
  | none => attempt.run = some none
  | some b => exists a : α, attempt.run = some (some a) ∧ R a b

def SameAt {α : Type} (cs : List Char) (found : α × Nat) (expected : α × List Char) : Prop :=
  found.fst = expected.fst ∧ At cs found.snd expected.snd

section

variable {α β γ δ : Type} {R : α -> β -> Prop} {S : γ -> δ -> Prop}
  {cs rest word : List Char} {place : Nat}

theorem Reads.failure : Reads R (failure : Attempt α) none := rfl

theorem Reads.return {a : α} {b : β} (h : R a b) :
    Reads R (pure a : Attempt α) (some b) :=
  ⟨a, rfl, h⟩

theorem Reads.run_of_none {attempt : Attempt α} {result : Option β}
    (h : Reads R attempt result) (hresult : result = none) : attempt.run = some none := by
  rw [hresult] at h
  exact h

theorem Reads.run_of_some {attempt : Attempt α} {result : Option β} {b : β}
    (h : Reads R attempt result) (hresult : result = some b) :
    exists a : α, attempt.run = some (some a) ∧ R a b := by
  rw [hresult] at h
  exact h

theorem Reads.after {attempt : Attempt α} {a : α} (h : attempt.run = some (some a))
    {f : α -> Attempt γ} {result : Option δ} (hlater : Reads S (f a) result) :
    Reads S (attempt >>= f) result := by
  have heq : (attempt >>= f).run = (f a).run := by
    rw [OptionT.run_bind, h]
    rfl
  unfold Reads at hlater ⊢
  rw [heq]
  exact hlater

theorem Reads.bind {attempt : Attempt α} {result : Option β} {f : α -> Attempt γ}
    {g : β -> Option δ} (h : Reads R attempt result)
    (hlater : forall (a : α) (b : β), R a b -> Reads S (f a) (g b)) :
    Reads S (attempt >>= f) (result >>= g) := by
  cases result with
  | none =>
      change (attempt >>= f).run = some none
      rw [OptionT.run_bind, h.run_of_none rfl]
      rfl
  | some b =>
      rcases h with ⟨a, hrun, hvalue⟩
      exact Reads.after hrun (hlater a b hvalue)

theorem Reads.next {attempt : Attempt (α × Nat)} {result : Option (α × List Char)}
    {f : α × Nat -> Attempt γ} {g : α × List Char -> Option δ}
    (h : Reads (SameAt cs) attempt result)
    (hlater : forall (value : α) (stop : Nat) (left : List Char), At cs stop left ->
      Reads S (f (value, stop)) (g (value, left))) :
    Reads S (attempt >>= f) (result >>= g) := by
  refine h.bind ?_
  rintro ⟨value, stop⟩ ⟨_, left⟩ ⟨rfl, hstop⟩
  exact hlater value stop left hstop

theorem Reads.value {a : α} (h : At cs place rest) :
    Reads (SameAt cs) (pure (a, place) : Attempt (α × Nat)) (some (a, rest)) :=
  Reads.return ⟨rfl, h⟩

theorem Reads.lift {test : Option α} {a : α} (h : test = some a) {f : α -> Attempt γ}
    {result : Option δ} (hlater : Reads S (f a) result) :
    Reads S (OptionT.lift test >>= f) result := by
  rw [h]
  exact hlater

/-!
# Words and literals
-/

theorem at_triviaEnd (h : At cs place rest) :
    At cs (triviaEnd cs place) (skipTrivia rest) := by
  rw [triviaEnd, h.drop]
  exact passes_trivia.toAt h (triviaMove_le _)

theorem uniform_isWordStart : Uniform isWordStart :=
  ⟨true, fun _ h => isWordStart_of_high h⟩

theorem uniform_isQuote : Uniform isQuote :=
  uniform_of_ascii fun _ h => lt_of_isQuote h

theorem isSome_word? (rest : List Char) :
    (word? rest).isSome = rest.head?.any isWordStart := by
  cases rest with
  | nil =>
      rfl
  | cons c rest =>
      cases hc : isWordStart c with
      | false =>
          rw [word?_cons_eq_none hc]
          exact hc.symm
      | true =>
          rw [word?, if_pos hc]
          exact hc.symm

theorem wordAt_reads (h : At cs place rest) :
    Reads (SameAt cs) (wordAt cs place) (word? rest) := by
  cases hword : word? rest with
  | none =>
      have hend : wordEnd? cs place = none := by
        rw [wordEnd?, h.peek_any uniform_isWordStart, ← isSome_word?, hword]
        rfl
      rw [wordAt, hend]
      rfl
  | some found =>
      rcases found with ⟨word, left⟩
      rcases word?_eq_some_iff.mp hword with ⟨rfl, hisWord, hends⟩
      have hmove : wordMove (octets (word ++ left)) = byteLength word := by
        rw [wordMove, takeWhile_octets uniform_isWordPart,
          takeWhile_append_of_endsWord hisWord.part hends, length_octets]
      have hend : wordEnd? cs place = some (place + byteLength word) := by
        rw [wordEnd?, h.peek_any uniform_isWordStart, ← isSome_word?, hword, h.drop, hmove]
        rfl
      rw [wordAt, hend]
      exact Reads.lift h.slice (Reads.return ⟨rfl, h.append⟩)

theorem peekWord_eq (h : At cs place rest) :
    peekWord cs place = some ((word? rest).map Prod.fst) := by
  rw [peekWord]
  cases hword : word? rest with
  | none =>
      rw [(wordAt_reads h).run_of_none hword]
      rfl
  | some found =>
      rcases (wordAt_reads h).run_of_some hword with ⟨a, hrun, hvalue, _⟩
      rw [hrun, Option.map_some, Option.map_some, Option.map_some, hvalue]

theorem afterAt_reads (h : At cs place rest) (word : List Char) :
    Reads (At cs) (afterAt word cs place) (after? word rest) := by
  have hafter : after? word rest = word? rest >>= fun found =>
      if found.fst = word then some found.snd else none := by
    rw [after?]
    cases word? rest with
    | none =>
        rfl
    | some found =>
        rfl
  rw [hafter, afterAt]
  refine (wordAt_reads h).next ?_
  intro found stop left hstop
  change Reads (At cs) (if found = word then pure stop else failure)
    (if found = word then some left else none)
  by_cases heq : found = word
  · rw [if_pos heq, if_pos heq]
    exact Reads.return hstop
  · rw [if_neg heq, if_neg heq]
    exact Reads.failure

theorem literalAt_reads (h : At cs place rest) :
    Reads (SameAt cs) (literalAt cs place) (literal? rest) := by
  have hpeek := h.peek_any uniform_isQuote
  rw [literalAt]
  cases rest with
  | nil =>
      rw [h.peek]
      rfl
  | cons c rest =>
      rw [literal?]
      by_cases hquote : isQuote c = true
      · have hascii := lt_of_isQuote hquote
        have hrest := h.next hascii
        rw [(h.peek_eq_some_iff hascii).mpr rfl, if_pos hquote]
        simp only [if_pos hquote]
        refine Reads.lift hrest.slice_end ?_
        cases hread : readLiteral? c rest with
        | none =>
            exact Reads.failure
        | some found =>
            rcases found with ⟨value, left⟩
            rcases readLiteral?_suffix hread with ⟨inside, rfl⟩
            have hmove : byteLength (inside ++ left) - byteLength left = byteLength inside := by
              rw [byteLength_append, Nat.add_sub_cancel]
            refine Reads.return ⟨rfl, ?_⟩
            rw [hmove]
            exact hrest.append
      · rw [if_neg hquote]
        cases hquoted : peek cs place with
        | none =>
            exact Reads.failure
        | some d =>
            have hd : ¬ isQuote d = true := by
              rw [hquoted, Option.any_some, List.head?_cons, Option.any_some] at hpeek
              rwa [hpeek]
            simp only [if_neg hd]
            exact Reads.failure

/-!
# Entries
-/

theorem bindingAt_reads (h : At cs place rest) :
    Reads (SameAt cs) (bindingAt cs place) (binding? rest) := by
  rw [bindingAt, binding?]
  refine (afterAt_reads h _).bind ?_
  intro stop left hstop
  refine (wordAt_reads (at_triviaEnd hstop)).next ?_
  intro name stop left hstop
  exact Reads.value (at_triviaEnd hstop)

theorem hasOtherWord_eq (word rest : List Char) :
    hasOtherWord word rest = ((word? rest).map Prod.fst).any (· != word) := by
  rw [hasOtherWord]
  cases word? rest with
  | none =>
      rfl
  | some found =>
      rfl

theorem after?_eq_none_iff :
    after? word rest = none <-> (word? rest).map Prod.fst ≠ some word := by
  rw [after?]
  cases word? rest with
  | none =>
      simp
  | some found =>
      by_cases heq : found.fst = word
      · simp [heq]
      · simp [heq]

theorem literal?_eq_none_of_not_isQuote (h : ¬ rest.head?.any isQuote = true) :
    literal? rest = none := by
  cases rest with
  | nil =>
      rfl
  | cons c rest =>
      rw [literal?]
      exact if_neg h

theorem braced?_of_isQuote (h : rest.head?.any isQuote = true) :
    braced? rest = literal? rest >>= fun found =>
      binding? (skipTrivia found.snd) >>= fun bound =>
        some (.named (String.ofList found.fst) bound.fst, bound.snd) := by
  rw [braced?]
  cases hliteral : literal? rest with
  | none =>
      have hword : word? rest = none := by
        cases rest with
        | nil =>
            rfl
        | cons c rest =>
            exact word?_cons_eq_none (isWordStart_eq_false_of_isQuote h) rest
      simp only [hword]
      rfl
  | some found =>
      rfl

theorem bracedAt_reads (h : At cs place rest) :
    Reads (SameAt cs) (bracedAt cs place) (braced? rest) := by
  rw [bracedAt, h.peek_any uniform_isQuote]
  by_cases hquote : rest.head?.any isQuote = true
  · rw [if_pos hquote, braced?_of_isQuote hquote]
    refine (literalAt_reads h).next ?_
    intro name stop left hstop
    refine (bindingAt_reads (at_triviaEnd hstop)).next ?_
    intro binding stop left hstop
    exact Reads.value hstop
  · rw [if_neg hquote, braced?, literal?_eq_none_of_not_isQuote hquote]
    refine (wordAt_reads h).next ?_
    intro name stop left hstop
    have hbehind := at_triviaEnd hstop
    refine Reads.lift (peekWord_eq hbehind) ?_
    dsimp only
    rw [hasOtherWord_eq]
    by_cases htype : name = ['t', 'y', 'p', 'e'] ∧
        ((word? (skipTrivia left)).map Prod.fst).any (· != ['a', 's']) = true
    · rw [if_pos htype, if_pos htype]
      exact Reads.failure
    rw [if_neg htype, if_neg htype]
    cases hafter : after? ['a', 's'] (skipTrivia left) with
    | none =>
        rw [if_neg (after?_eq_none_iff.mp hafter)]
        exact Reads.value hbehind
    | some behind =>
        have has : (word? (skipTrivia left)).map Prod.fst = some ['a', 's'] := by
          rw [after?_eq_some_iff] at hafter
          rw [hafter]
          rfl
        rw [if_pos has]
        refine (bindingAt_reads hbehind).next ?_
        intro binding stop left hstop
        exact Reads.value hstop

theorem bracedListAt_of_bracedAt_none
    (hopen : peek cs (triviaEnd cs place) ≠ some '}')
    (hentry : (bracedAt cs (triviaEnd cs place)).run = some none) :
    (bracedListAt cs place).run = some none := by
  rw [bracedListAt]
  simp only [if_neg hopen, hentry]
  rfl

/-- The loop goes on behind a comma, at a place that has not come back. -/
theorem bracedListAt_of_bracedAt {specifier : Specifier} {stop : Nat}
    (hopen : peek cs (triviaEnd cs place) ≠ some '}')
    (hentry : (bracedAt cs (triviaEnd cs place)).run = some (some (specifier, stop)))
    (hle : place <= stop) :
    bracedListAt cs place =
      if peek cs stop = some ',' then
        bracedListAt cs (stop + 1) >>= fun (specifiers, stop) =>
          return (specifier :: specifiers, stop)
      else if peek cs stop = some '}' then return ([specifier], stop + 1)
      else failure := by
  rw [bracedListAt]
  simp only [if_neg hopen, hentry]
  by_cases hcomma : peek cs stop = some ','
  · rw [dif_pos hcomma, dif_pos hle, if_pos hcomma]
  · rw [dif_neg hcomma, if_neg hcomma]

theorem bracedListAt_of_braced? {c : Char} {inside left : List Char} {specifier : Specifier}
    (h : At cs place rest) (hskip : skipTrivia rest = c :: inside) (hc : c ≠ '}')
    (hentry : braced? (c :: inside) = some (specifier, left)) :
    exists stop : Nat, At cs stop left ∧
      bracedListAt cs place =
        if left.head? = some ',' then
          bracedListAt cs (stop + 1) >>= fun (specifiers, stop) =>
            return (specifier :: specifiers, stop)
        else if left.head? = some '}' then return ([specifier], stop + 1)
        else failure := by
  have hinside := at_triviaEnd h
  rw [hskip] at hinside
  rcases (bracedAt_reads hinside).run_of_some hentry with ⟨⟨_, stop⟩, hrun, rfl, hstop⟩
  have hopen : peek cs (triviaEnd cs place) ≠ some '}' := by
    rw [Ne, hinside.peek_eq_some_iff (by decide)]
    simpa using hc
  have hsuffix : left <:+ rest :=
    (braced?_suffix hentry).trans (hskip ▸ skipTrivia_suffix rest)
  refine ⟨stop, hstop, ?_⟩
  rw [bracedListAt_of_bracedAt hopen hrun (h.le_of_suffix hstop hsuffix)]
  simp only [hstop.peek_eq_some_iff (show ','.toNat < 128 by decide),
    hstop.peek_eq_some_iff (show '}'.toNat < 128 by decide)]

theorem bracedListAt_reads (h : At cs place rest) :
    Reads (SameAt cs) (bracedListAt cs place) (bracedList? rest) := by
  fun_induction bracedList? rest generalizing place with
  | case1 rest hskip =>
      have hinside := at_triviaEnd h
      rw [hskip] at hinside
      apply bracedListAt_of_bracedAt_none
      · rw [hinside.peek]
        rintro ⟨⟩
      · exact bracedAt_reads hinside
  | case2 rest inside hskip =>
      have hinside := at_triviaEnd h
      rw [hskip] at hinside
      rw [bracedListAt, if_pos ((hinside.peek_eq_some_iff (by decide)).mpr rfl)]
      exact Reads.value (hinside.next (by decide))
  | case3 rest c inside hskip hc hentry =>
      have hinside := at_triviaEnd h
      rw [hskip] at hinside
      apply bracedListAt_of_bracedAt_none
      · rw [Ne, hinside.peek_eq_some_iff (by decide)]
        simpa using hc
      · exact (bracedAt_reads hinside).run_of_none hentry
  | case4 rest c inside hskip hc specifier hentry =>
      rcases bracedListAt_of_braced? h hskip hc hentry with ⟨stop, _, heq⟩
      rw [heq]
      exact Reads.failure
  | case5 rest c inside hskip hc specifier later hentry ih =>
      rcases bracedListAt_of_braced? h hskip hc hentry with ⟨stop, hstop, heq⟩
      rw [heq, if_pos List.head?_cons, Option.map_eq_bind]
      refine (ih (hstop.next (by decide))).next ?_
      intro specifiers stop left hstop
      exact Reads.value hstop
  | case6 rest c inside hskip hc specifier later hentry =>
      rcases bracedListAt_of_braced? h hskip hc hentry with ⟨stop, hstop, heq⟩
      rw [heq, if_neg (by simp), if_pos List.head?_cons]
      exact Reads.value (hstop.next (by decide))
  | case7 rest c inside hskip hc specifier d later hentry hcomma hclose =>
      rcases bracedListAt_of_braced? h hskip hc hentry with ⟨stop, hstop, heq⟩
      rw [heq, if_neg (by simpa using hcomma), if_neg (by simpa using hclose)]
      exact Reads.failure

/-!
# Declarations
-/

theorem groupAt_reads (h : At cs place rest) :
    Reads (SameAt cs) (groupAt cs place) (group? rest) := by
  rw [groupAt]
  simp only [h.peek_eq_some_iff (show '*'.toNat < 128 by decide),
    h.peek_eq_some_iff (show '{'.toNat < 128 by decide)]
  by_cases hstar : rest.head? = some '*'
  · rcases List.head?_eq_some_iff.mp hstar with ⟨inside, rfl⟩
    rw [if_pos hstar, group?]
    refine (bindingAt_reads (at_triviaEnd (h.next (by decide)))).next ?_
    intro name stop left hstop
    exact Reads.value hstop
  rw [if_neg hstar]
  by_cases hbrace : rest.head? = some '{'
  · rcases List.head?_eq_some_iff.mp hbrace with ⟨inside, rfl⟩
    rw [if_pos hbrace, group?]
    refine (bracedListAt_reads (h.next (by decide))).next ?_
    intro specifiers stop left hstop
    exact Reads.value (at_triviaEnd hstop)
  rw [if_neg hbrace, group?]
  · exact Reads.failure
  · rintro inside rfl
    exact hstar rfl
  · rintro inside rfl
    exact hbrace rfl

theorem specifiersAt_reads (h : At cs place rest) :
    Reads (SameAt cs) (specifiersAt cs place) (specifiers? rest) := by
  rw [specifiersAt, h.peek_any uniform_isWordStart, ← isSome_word?]
  unfold specifiers?
  cases hword : word? rest with
  | none =>
      exact groupAt_reads h
  | some found =>
      rcases found with ⟨_, left⟩
      rcases (wordAt_reads h).run_of_some hword with ⟨⟨name, stop⟩, hrun, rfl, hstop⟩
      have hbehind : At cs (triviaEnd cs stop) (skipTrivia left) := at_triviaEnd hstop
      have hpeek := hbehind.peek_eq_some_iff (show ','.toNat < 128 by decide)
      refine Reads.after hrun ?_
      dsimp only
      by_cases hcomma : (skipTrivia left).head? = some ','
      · rcases List.head?_eq_some_iff.mp hcomma with ⟨later, hlater⟩
        rw [hlater] at hbehind
        simp only [if_pos (hpeek.mpr hcomma), hlater]
        refine (groupAt_reads (at_triviaEnd (hbehind.next (by decide)))).next ?_
        intro specifiers stop left hstop
        exact Reads.value hstop
      · rw [if_neg (mt hpeek.mp hcomma)]
        split
        · rename_i later hlater
          rw [hlater] at hcomma
          exact absurd rfl hcomma
        · exact Reads.value hbehind

theorem isTypeOnlyAt_eq (h : At cs place rest) :
    isTypeOnlyAt cs place = some (isTypeOnly rest) := by
  rw [isTypeOnlyAt, isTypeOnly]
  cases hafter : after? ['t', 'y', 'p', 'e'] rest with
  | none =>
      rw [(afterAt_reads h _).run_of_none hafter]
      rfl
  | some left =>
      rcases (afterAt_reads h _).run_of_some hafter with ⟨stop, hrun, hstop⟩
      have hbehind := at_triviaEnd hstop
      have hiff := or_congr
        (hbehind.peek_eq_some_iff (show '{'.toNat < 128 by decide))
        (hbehind.peek_eq_some_iff (show '*'.toNat < 128 by decide))
      rw [hrun, Option.bind_eq_bind, Option.bind_some]
      dsimp only
      rw [peekWord_eq hbehind, hasOtherWord_eq]
      by_cases hopen : (skipTrivia left).head? = some '{' ∨ (skipTrivia left).head? = some '*'
      · have hmarks : ((skipTrivia left).head? == some '{' ||
            (skipTrivia left).head? == some '*') = true := by
          simpa using hopen
        rw [if_pos (hiff.mpr hopen), hmarks]
        rfl
      · have hmarks : ((skipTrivia left).head? == some '{' ||
            (skipTrivia left).head? == some '*') = false := by
          simpa using hopen
        rw [if_neg (mt hiff.mp hopen), hmarks]
        rfl

theorem hasAttributesAt_eq (h : At cs place rest) :
    hasAttributesAt cs place = some (hasAttributes rest) := by
  rw [hasAttributesAt, hasAttributes]
  cases hword : word? rest with
  | none =>
      rw [(wordAt_reads h).run_of_none hword]
      rfl
  | some found =>
      rcases found with ⟨_, left⟩
      rcases (wordAt_reads h).run_of_some hword with ⟨⟨word, stop⟩, hrun, rfl, hstop⟩
      have hbehind : At cs (triviaEnd cs stop) (skipTrivia left) := at_triviaEnd hstop
      have hbrace : (peek cs (triviaEnd cs stop) == some '{') =
          ((skipTrivia left).head? == some '{') := by
        rw [Bool.eq_iff_iff, beq_iff_eq, beq_iff_eq]
        exact hbehind.peek_eq_some_iff (by decide)
      rw [hrun]
      exact congrArg some (congrArg (_ && ·) hbrace)

theorem uniform_isSpace : Uniform isSpace :=
  uniform_of_ascii fun _ h => lt_of_isBlank (isBlank_of_isSpace h)

theorem finishAt_reads (h : At cs place rest) :
    Reads (At cs) (finishAt cs place) (finish? rest) := by
  have hbehind : At cs (place + (((octets cs).drop place).takeWhile isSpace).length)
      (rest.dropWhile isSpace) := by
    rw [h.drop]
    exact (passes_dropWhile uniform_isSpace).toAt h (List.takeWhile_prefix _).length_le
  have hpeek := hbehind.peek_eq_some_iff (show ';'.toNat < 128 by decide)
  rw [finishAt]
  refine Reads.lift (hasAttributesAt_eq hbehind) ?_
  cases hattributes : hasAttributes (rest.dropWhile isSpace) with
  | true =>
      rw [finish?_of_hasAttributes hattributes]
      exact Reads.failure
  | false =>
      rw [if_neg Bool.false_ne_true]
      by_cases hhead : (rest.dropWhile isSpace).head? = some ';'
      · rcases List.head?_eq_some_iff.mp hhead with ⟨later, hlater⟩
        rw [if_pos (hpeek.mpr hhead), finish?_of_semicolon hlater]
        rw [hlater] at hbehind
        exact Reads.return (hbehind.next (by decide))
      · rw [if_neg (mt hpeek.mp hhead), finish?_of_head?_ne hattributes hhead]
        exact Reads.return h

theorem sourceAt_reads (h : At cs place rest) :
    Reads (SameAt cs) (sourceAt cs place) (source? rest) := by
  rw [sourceAt, source?]
  refine (literalAt_reads h).next ?_
  intro source stop left hstop
  refine (finishAt_reads hstop).bind ?_
  intro stop left hstop
  exact Reads.value hstop

theorem clauseAt_reads (h : At cs place rest) :
    Reads (SameAt cs) (clauseAt cs place) (clause? rest) := by
  have hinside := at_triviaEnd h
  have hquote : ((skipTrivia rest).head?.map isQuote).getD false =
      (peek cs (triviaEnd cs place)).any isQuote := by
    rw [hinside.peek_any uniform_isQuote]
    cases (skipTrivia rest).head? with
    | none =>
        rfl
    | some c =>
        rfl
  rw [clauseAt, clause?]
  dsimp only
  rw [hquote]
  by_cases hquoted : (peek cs (triviaEnd cs place)).any isQuote = true
  · rw [if_pos hquoted, if_pos hquoted]
    refine (sourceAt_reads hinside).next ?_
    intro source stop left hstop
    exact Reads.value hstop
  rw [if_neg hquoted, if_neg hquoted]
  refine Reads.lift (isTypeOnlyAt_eq hinside) ?_
  by_cases htype : isTypeOnly (skipTrivia rest) = true
  · rw [if_pos htype, if_pos htype]
    exact Reads.failure
  rw [if_neg htype, if_neg htype]
  refine (specifiersAt_reads hinside).next ?_
  intro specifiers stop left hstop
  refine (afterAt_reads hstop _).bind ?_
  intro stop left hstop
  refine (sourceAt_reads (at_triviaEnd hstop)).next ?_
  intro source stop left hstop
  exact Reads.value hstop

end

end Import
end RemoteImports
