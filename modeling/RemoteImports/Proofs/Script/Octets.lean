import RemoteImports.Proofs.Script.Locality
import RemoteImports.Proofs.Text.Octets

/-!
# Passing over octets

Each part of a script may be passed over octet by octet.  An octet beyond ASCII
ends no part and begins none, so what is left is what is left of the text.  Only
a backslash takes an octet along without looking at it, and so may come to stand
within a character, of which the remaining octets are then passed over like any
others, or behind the end of the text.
-/

namespace RemoteImports
namespace Script

open Text

/-!
# How far a part goes
-/

def lineMove (bs : List Char) : Nat :=
  (bs.takeWhile (· != '\n')).length

def wordMove (bs : List Char) : Nat :=
  (bs.takeWhile isWordPart).length

def blockMove : List Char -> Nat
  | [] => 0
  | '*' :: '/' :: _ => 2
  | _ :: bs => blockMove bs + 1

def stringMove (quote : Char) : List Char -> Nat
  | [] => 0
  | '\\' :: '\r' :: '\n' :: bs => stringMove quote bs + 3
  | '\\' :: _ :: bs => stringMove quote bs + 2
  | c :: bs =>
      if c = '\\' then 2
      else if c = '\n' then 0
      else if c = quote then 1
      else stringMove quote bs + 1

def regexMove : (inClass : Bool) -> List Char -> Nat
  | _, [] => 0
  | inClass, '\\' :: _ :: bs => regexMove inClass bs + 2
  | inClass, c :: bs =>
      if c = '\\' then 2
      else if c = '[' then regexMove true bs + 1
      else if c = ']' then regexMove false bs + 1
      else if c = '/' ∧ !inClass then wordMove bs + 1
      else if c = '\n' then 0
      else regexMove inClass bs + 1

def Open.move (c : Char) (bs : List Char) : Open -> Nat
  | .text => if c = '\\' ∨ c = '$' ∧ bs.head? = some '{' then 2 else 1
  | .code _ =>
      if isQuote c then stringMove c bs + 1
      else if c = '/' ∧ bs.head? = some '/' then lineMove bs + 1
      else if c = '/' ∧ bs.head? = some '*' then blockMove (bs.drop 1) + 2
      else 1

def openMove (stack : List Open) (bs : List Char) : Nat :=
  match stack, bs with
  | [], _ => 0
  | _, [] => 0
  | inner :: stack, c :: bs =>
      have := (inner.step_suffix stack c bs).length_le
      inner.move c bs + openMove (inner.step stack c bs).fst (inner.step stack c bs).snd
termination_by bs.length
decreasing_by (simp only [List.length_cons]; omega)

def triviaMove (bs : List Char) : Nat :=
  match bs with
  | [] => 0
  | c :: bs =>
      if isBlank c then triviaMove bs + 1
      else if c = '/' ∧ bs.head? = some '/' then
        triviaMove (bs.drop (lineMove bs)) + (lineMove bs + 1)
      else if c = '/' ∧ bs.head? = some '*' then
        triviaMove (bs.drop (blockMove (bs.drop 1) + 1)) + (blockMove (bs.drop 1) + 2)
      else 0
termination_by bs.length
decreasing_by all_goals (simp only [List.length_cons, List.length_drop]; omega)

structure Passes (skip : List Char -> List Char) (move : List Char -> Nat) : Prop where
  suffix : forall cs : List Char, skip cs <:+ cs
  drop : forall bs : List Char, skip bs = bs.drop (move bs)
  octets : forall cs : List Char, skip (octets cs) = octets (skip cs)

section

variable {skip : List Char -> List Char} {move : List Char -> Nat} {c quote : Char}
  {cs rest text : List Char} {place : Nat} {p : Char -> Bool}

theorem Passes.leaves (h : Passes skip move) (hrest : Leaves cs place rest) :
    Leaves cs (place + move (Text.octets rest)) (skip rest) := by
  refine ⟨(h.suffix rest).trans hrest.suffix, ?_⟩
  rw [← List.drop_drop, hrest.drop, ← h.drop, h.octets]

theorem Passes.toAt (h : Passes skip move) (hrest : At cs place rest)
    (hle : move (Text.octets rest) <= (Text.octets rest).length) :
    At cs (place + move (Text.octets rest)) (skip rest) := by
  refine ⟨h.leaves hrest.toLeaves, ?_⟩
  have hlength := hrest.length
  have hbound := hrest.bound
  rw [length_octets] at hle
  omega

/-!
# Octets beyond ASCII
-/

theorem ne_of_high {c d : Char} (hc : 128 <= c.toNat) (hd : d.toNat < 128) : c ≠ d := by
  rintro rfl
  omega

theorem isWordStart_of_high (h : 128 <= c.toNat) : isWordStart c = true :=
  isWordStart_iff.mpr (by omega)

theorem lt_of_not_isWordStart (h : ¬ isWordStart c = true) : c.toNat < 128 :=
  Nat.lt_of_not_le (mt isWordStart_of_high h)

theorem uniform_isWordPart : Uniform isWordPart :=
  ⟨true, fun _ h => isWordPart_of_isWordStart (isWordStart_of_high h)⟩

theorem uniform_bne (hc : c.toNat < 128) : Uniform (· != c) :=
  ⟨true, fun _ h => bne_iff_ne.mpr (ne_of_high h hc)⟩

theorem passes_dropWhile (hp : Uniform p) :
    Passes (List.dropWhile p) fun bs => (bs.takeWhile p).length := by
  refine ⟨fun _ => List.dropWhile_suffix p, ?_, dropWhile_octets hp⟩
  intro bs
  have hdrop := @List.drop_left _ (bs.takeWhile p) (bs.dropWhile p)
  rw [List.takeWhile_append_dropWhile] at hdrop
  exact hdrop.symm

theorem passes_line : Passes skipLine lineMove :=
  passes_dropWhile (uniform_bne (by decide))

theorem passes_words : Passes (List.dropWhile isWordPart) wordMove :=
  passes_dropWhile uniform_isWordPart

theorem drop_one_octets (hhead : cs.head? = some c) (hc : c.toNat < 128) :
    (octets cs).drop 1 = octets (cs.drop 1) := by
  rcases List.head?_eq_some_iff.mp hhead with ⟨later, rfl⟩
  rw [octets_of_ascii hc]
  rfl

/-!
# Comments
-/

theorem skipBlock_high (h : forall d, d ∈ text -> 128 <= d.toNat) (rest : List Char) :
    skipBlock (text ++ rest) = skipBlock rest := by
  induction text with
  | nil =>
      rfl
  | cons d text ih =>
      rw [List.cons_append, skipBlock_cons]
      · exact ih fun e hmem => h e (List.mem_cons_of_mem d hmem)
      · rintro ⟨rfl, _⟩
        exact absurd (h _ List.mem_cons_self) (by decide)

theorem skipBlock_octets (cs : List Char) :
    skipBlock (octets cs) = octets (skipBlock cs) := by
  fun_induction skipBlock cs with
  | case1 =>
      rfl
  | case2 cs =>
      rw [octets_of_ascii (by decide), octets_of_ascii (by decide)]
      rfl
  | case3 c cs hnext ih =>
      by_cases hascii : c.toNat < 128
      · rw [octets_of_ascii hascii, skipBlock_cons, ih]
        rintro ⟨hc, hhead⟩
        rw [head?_octets_eq_some_iff (by decide)] at hhead
        rcases List.head?_eq_some_iff.mp hhead with ⟨later, hlater⟩
        exact hnext later hc hlater
      · rw [octets_cons, skipBlock_high (high_of_mem_octets (Nat.not_lt.mp hascii)), ih]

theorem skipBlock_drop (bs : List Char) : skipBlock bs = bs.drop (blockMove bs) := by
  fun_induction blockMove bs with
  | case1 =>
      rfl
  | case2 =>
      rfl
  | case3 c bs hnext ih =>
      rw [skipBlock]
      · exact ih
      · exact hnext

theorem passes_block : Passes skipBlock blockMove :=
  ⟨skipBlock_suffix, skipBlock_drop, skipBlock_octets⟩

/-!
# Literals
-/

theorem lt_of_isQuote (h : isQuote quote = true) : quote.toNat < 128 := by
  rw [isQuote, Bool.or_eq_true, beq_iff_eq, beq_iff_eq] at h
  rcases h with rfl | rfl <;> decide

theorem skipString_high (hquote : isQuote quote = true)
    (h : forall d, d ∈ text -> 128 <= d.toNat) (rest : List Char) :
    skipString quote (text ++ rest) = skipString quote rest := by
  apply skipString_append
  intro d hmem
  have hhigh := h d hmem
  exact ⟨ne_of_high hhigh (lt_of_isQuote hquote), ne_of_high hhigh (by decide),
    ne_of_high hhigh (by decide)⟩

theorem skipString_octets (hquote : isQuote quote = true) (cs : List Char) :
    skipString quote (octets cs) = octets (skipString quote cs) := by
  fun_induction skipString quote cs with
  | case1 =>
      rfl
  | case2 cs ih =>
      rw [octets_of_ascii (by decide), octets_of_ascii (by decide),
        octets_of_ascii (by decide), skipString, ih]
  | case3 c cs hnext ih =>
      rw [octets_of_ascii (by decide)]
      by_cases hascii : c.toNat < 128
      · rw [octets_of_ascii hascii, skipString_escape, ih]
        intro hc hhead
        rw [head?_octets_eq_some_iff (by decide)] at hhead
        rcases List.head?_eq_some_iff.mp hhead with ⟨later, hlater⟩
        exact hnext later hc hlater
      · rcases exists_octets_of_high (Nat.not_lt.mp hascii) with ⟨d, ds, hoctets, hhigh⟩
        rw [octets_cons, hoctets, List.cons_append, skipString_escape,
          skipString_high hquote fun e hmem => hhigh e (List.mem_cons_of_mem d hmem), ih]
        intro hd
        exact absurd hd (ne_of_high (hhigh d List.mem_cons_self) (by decide))
  | case4 cs =>
      rw [octets_of_ascii (by decide), skipString, if_pos rfl]
      · rintro _ ⟨⟩
      · rintro _ _ ⟨⟩
  | case5 cs hreturn hslash hline =>
      rw [octets_of_ascii (lt_of_isQuote hquote), skipString, if_neg hline, if_pos rfl]
      · intro later hc hlater
        exact absurd hquote (by rw [hc]; decide)
      · intro d later hc hlater
        exact absurd hquote (by rw [hc]; decide)
  | case6 c cs _ hslash hline hclose ih =>
      by_cases hascii : c.toNat < 128
      · rw [octets_of_ascii hascii]
        by_cases hc : c = '\\'
        · have hnil : cs = [] := by
            cases cs with
            | nil =>
                rfl
            | cons d later =>
                exact (hslash d later hc rfl).elim
          rw [hnil, hc]
          simp [skipString]
        · rw [skipString_plain hclose hc hline, ih]
      · rw [octets_cons, skipString_high hquote (high_of_mem_octets (Nat.not_lt.mp hascii)), ih]

theorem skipString_drop (bs : List Char) :
    skipString quote bs = bs.drop (stringMove quote bs) := by
  fun_induction stringMove quote bs with
  | case1 =>
      rfl
  | case2 bs ih =>
      rw [skipString, ih]
      rfl
  | case3 c bs hnext ih =>
      rw [skipString, ih]
      · rfl
      · exact hnext
  | case4 bs _ hslash =>
      have hnil : bs = [] := by
        cases bs with
        | nil =>
            rfl
        | cons d later =>
            exact (hslash d later rfl rfl).elim
      rw [hnil]
      simp [skipString]
  | case5 bs hreturn hslash hline =>
      rw [skipString, if_pos rfl]
      · rfl
      · exact hreturn
      · exact hslash
  | case6 bs hreturn hslash hne hline =>
      rw [skipString, if_neg hline, if_pos rfl]
      · rfl
      · exact hreturn
      · exact hslash
  | case7 c bs hreturn hslash hne hline hclose ih =>
      rw [skipString_plain hclose hne hline, ih]
      rfl

theorem passes_string (hquote : isQuote quote = true) :
    Passes (skipString quote) (stringMove quote) :=
  ⟨skipString_suffix quote, skipString_drop, skipString_octets hquote⟩

/-!
# Regular expressions
-/

theorem skipRegex_plain {inClass : Bool} (hslash : c ≠ '\\') (hopen : c ≠ '[')
    (hclose : c ≠ ']') (hend : c ≠ '/') (hline : c ≠ '\n') (rest : List Char) :
    skipRegex inClass (c :: rest) = skipRegex inClass rest := by
  rw [skipRegex_cons fun hc => absurd hc hslash, if_neg hopen, if_neg hclose,
    if_neg fun h => hend h.left, if_neg hline]

theorem skipRegex_high (inClass : Bool) (h : forall d, d ∈ text -> 128 <= d.toNat)
    (rest : List Char) : skipRegex inClass (text ++ rest) = skipRegex inClass rest := by
  induction text with
  | nil =>
      rfl
  | cons d text ih =>
      have hne : forall e : Char, e.toNat < 128 -> d ≠ e :=
        fun e => ne_of_high (h d List.mem_cons_self)
      rw [List.cons_append, skipRegex_plain (hne _ (by decide)) (hne _ (by decide))
        (hne _ (by decide)) (hne _ (by decide)) (hne _ (by decide))]
      exact ih fun e hmem => h e (List.mem_cons_of_mem d hmem)

theorem skipRegex_octets (inClass : Bool) (cs : List Char) :
    skipRegex inClass (octets cs) = octets (skipRegex inClass cs) := by
  fun_induction skipRegex inClass cs with
  | case1 =>
      rw [octets_nil, skipRegex]
  | case2 inClass c cs ih =>
      rw [octets_of_ascii (by decide)]
      by_cases hascii : c.toNat < 128
      · rw [octets_of_ascii hascii, skipRegex, ih]
      · rcases exists_octets_of_high (Nat.not_lt.mp hascii) with ⟨d, ds, hoctets, hhigh⟩
        rw [octets_cons, hoctets, List.cons_append, skipRegex,
          skipRegex_high inClass fun e hmem => hhigh e (List.mem_cons_of_mem d hmem), ih]
  | case3 inClass cs _ ih =>
      rw [octets_of_ascii (by decide), skipRegex_cons (by rintro ⟨⟩), if_pos rfl, ih]
  | case4 inClass cs _ hopen ih =>
      rw [octets_of_ascii (by decide), skipRegex_cons (by rintro ⟨⟩), if_neg hopen,
        if_pos rfl, ih]
  | case5 inClass c cs _ hopen hclose hend =>
      cases hend.left
      rw [octets_of_ascii (by decide), skipRegex_cons (by rintro ⟨⟩), if_neg hopen,
        if_neg hclose, if_pos hend, dropWhile_octets uniform_isWordPart]
  | case6 inClass cs =>
      rw [octets_of_ascii (by decide), skipRegex_cons (by rintro ⟨⟩)]
      simp
  | case7 inClass c cs hslash hopen hclose hend hline ih =>
      have hlast : c = '\\' -> cs = [] := by
        intro hc
        cases cs with
        | nil =>
            rfl
        | cons d later =>
            exact (hslash d later hc rfl).elim
      by_cases hascii : c.toNat < 128
      · rw [octets_of_ascii hascii, skipRegex_cons, if_neg hopen, if_neg hclose,
          if_neg hend, if_neg hline, ih]
        intro hc
        rw [hlast hc]
        rfl
      · rw [octets_cons, skipRegex_high inClass (high_of_mem_octets (Nat.not_lt.mp hascii)),
          ih]

theorem skipRegex_drop (inClass : Bool) (bs : List Char) :
    skipRegex inClass bs = bs.drop (regexMove inClass bs) := by
  fun_induction regexMove inClass bs with
  | case1 =>
      rw [skipRegex]
      rfl
  | case2 inClass c bs ih =>
      rw [skipRegex, ih]
      rfl
  | case3 inClass bs hslash =>
      have hnil : bs = [] := by
        cases bs with
        | nil =>
            rfl
        | cons d later =>
            exact (hslash d later rfl rfl).elim
      rw [hnil]
      simp [skipRegex]
  | case4 inClass bs _ _ ih =>
      rw [skipRegex_cons (by rintro ⟨⟩), if_pos rfl, ih]
      rfl
  | case5 inClass bs _ _ hopen ih =>
      rw [skipRegex_cons (by rintro ⟨⟩), if_neg hopen, if_pos rfl, ih]
      rfl
  | case6 inClass c bs _ hne hopen hclose hend =>
      rw [skipRegex_cons fun hc => absurd hc hne, if_neg hopen, if_neg hclose, if_pos hend,
        passes_words.drop]
      rfl
  | case7 inClass bs =>
      rw [skipRegex_cons (by rintro ⟨⟩)]
      simp
  | case8 inClass c bs _ hne hopen hclose hend hline ih =>
      rw [skipRegex_cons fun hc => absurd hc hne, if_neg hopen, if_neg hclose,
        if_neg hend, if_neg hline, ih]
      rfl

theorem passes_regex : Passes (skipRegex false) (regexMove false) :=
  ⟨skipRegex_suffix false, skipRegex_drop false, skipRegex_octets false⟩

/-!
# Templates

A step in a template takes an ASCII character, and with it a part that is passed
over whole.  The one exception is a backslash, which takes the next octet.
-/

theorem Open.step_high (inner : Open) (stack : List Open) (hc : 128 <= c.toNat)
    (cs : List Char) : inner.step stack c cs = (inner :: stack, cs) := by
  have hne : forall d : Char, d.toNat < 128 -> c ≠ d := fun d => ne_of_high hc
  have hquote : isQuote c = false := by
    rw [isQuote, Bool.or_eq_false_iff, beq_eq_false_iff_ne, beq_eq_false_iff_ne]
    exact ⟨hne _ (by decide), hne _ (by decide)⟩
  cases inner with
  | text =>
      simp [Open.step, textStep, hne]
  | code braces =>
      simp [Open.step, codeStep, hne, hquote]

theorem skipOpen_high (stack : List Open) (h : forall d, d ∈ text -> 128 <= d.toNat)
    (rest : List Char) (hne : stack ≠ []) :
    skipOpen stack (text ++ rest) = skipOpen stack rest := by
  cases stack with
  | nil =>
      exact absurd rfl hne
  | cons inner stack =>
      induction text with
      | nil =>
          rfl
      | cons d text ih =>
          rw [List.cons_append, skipOpen_cons, inner.step_high stack (h d List.mem_cons_self)]
          exact ih fun e hmem => h e (List.mem_cons_of_mem d hmem)

/-- The same step is taken in octets, except at a backslash in the text. -/
theorem Open.step_octets (inner : Open) (stack : List Open)
    (hescape : c = '\\' -> inner ≠ .text) (cs : List Char) :
    inner.step stack c (octets cs) =
      ((inner.step stack c cs).fst, octets (inner.step stack c cs).snd) := by
  have hiff : forall d : Char, d.toNat < 128 ->
      ((octets cs).head? = some d <-> cs.head? = some d) :=
    fun d hd => head?_octets_eq_some_iff hd
  cases inner with
  | text =>
      have hslash : c ≠ '\\' := fun h => hescape h rfl
      rw [Open.step, Open.step, textStep, textStep, if_neg hslash, if_neg hslash]
      by_cases hend : c = '`'
      · rw [if_pos hend, if_pos hend]
      rw [if_neg hend, if_neg hend]
      have hbrace := hiff '{' (by decide)
      by_cases hopen : c = '$' ∧ cs.head? = some '{'
      · rw [if_pos hopen, if_pos (hopen.imp_right hbrace.mpr),
          drop_one_octets hopen.right (by decide)]
      · rw [if_neg hopen, if_neg (mt (And.imp_right hbrace.mp) hopen)]
  | code braces =>
      rw [Open.step, Open.step, codeStep, codeStep]
      by_cases hopen : c = '{'
      · rw [if_pos hopen, if_pos hopen]
      rw [if_neg hopen, if_neg hopen]
      by_cases hclose : c = '}'
      · rw [if_pos hclose, if_pos hclose]
      rw [if_neg hclose, if_neg hclose]
      by_cases hquote : isQuote c = true
      · rw [if_pos hquote, if_pos hquote, skipString_octets hquote]
      rw [if_neg hquote, if_neg hquote]
      by_cases htemplate : c = '`'
      · rw [if_pos htemplate, if_pos htemplate]
      rw [if_neg htemplate, if_neg htemplate]
      have hslash := hiff '/' (by decide)
      by_cases hline : c = '/' ∧ cs.head? = some '/'
      · rw [if_pos hline, if_pos (hline.imp_right hslash.mpr), passes_line.octets]
      rw [if_neg hline, if_neg (mt (And.imp_right hslash.mp) hline)]
      have hstar := hiff '*' (by decide)
      by_cases hblock : c = '/' ∧ cs.head? = some '*'
      · rw [if_pos hblock, if_pos (hblock.imp_right hstar.mpr),
          drop_one_octets hblock.right (by decide), skipBlock_octets]
      · rw [if_neg hblock, if_neg (mt (And.imp_right hstar.mp) hblock)]

/-- The octet behind a backslash is taken along, and those behind it that belong
to the same character are text like any other. -/
theorem skipOpen_escaped (stack : List Open) (cs : List Char) :
    skipOpen (.text :: stack) ((octets cs).drop 1) =
      skipOpen (.text :: stack) (octets (cs.drop 1)) := by
  cases cs with
  | nil =>
      rfl
  | cons c cs =>
      by_cases hascii : c.toNat < 128
      · rw [octets_of_ascii hascii]
        rfl
      · rcases exists_octets_of_high (Nat.not_lt.mp hascii) with ⟨d, ds, hoctets, hhigh⟩
        rw [octets_cons, hoctets]
        exact skipOpen_high _ (fun e hmem => hhigh e (List.mem_cons_of_mem d hmem)) _
          (List.cons_ne_nil _ _)

theorem skipOpen_octets (stack : List Open) (cs : List Char) :
    skipOpen stack (octets cs) = octets (skipOpen stack cs) := by
  induction hlength : cs.length using Nat.strongRecOn generalizing stack cs with
  | ind n ih =>
      cases stack with
      | nil =>
          rw [skipOpen, skipOpen]
      | cons inner stack =>
          cases cs with
          | nil =>
              rw [octets_nil, skipOpen]
              · rfl
              · rintro ⟨⟩
          | cons c cs =>
              have hshorter := (inner.step_suffix stack c cs).length_le
              rw [List.length_cons] at hlength
              by_cases hascii : c.toNat < 128
              · rw [octets_of_ascii hascii, skipOpen_cons, skipOpen_cons]
                by_cases hescape : c = '\\' -> inner ≠ .text
                · rw [inner.step_octets stack hescape]
                  exact ih _ (by omega) _ _ rfl
                · rcases Classical.not_imp.mp hescape with ⟨rfl, hinner⟩
                  cases Classical.not_not.mp hinner
                  rw [show Open.step stack '\\' (octets cs) .text =
                      (.text :: stack, (octets cs).drop 1) from rfl,
                    show Open.step stack '\\' cs .text = (.text :: stack, cs.drop 1) from rfl,
                    skipOpen_escaped]
                  exact ih _ (by rw [List.length_drop]; omega) _ _ rfl
              · have hhigh := Nat.not_lt.mp hascii
                rw [octets_cons, skipOpen_high _ (high_of_mem_octets hhigh) _
                  (List.cons_ne_nil _ _), skipOpen_cons, inner.step_high stack hhigh]
                exact ih _ (by omega) _ _ rfl

theorem Open.step_drop (inner : Open) (stack : List Open) (c : Char) (bs : List Char) :
    (inner.step stack c bs).snd = (c :: bs).drop (inner.move c bs) := by
  cases inner with
  | text =>
      rw [Open.step, textStep, Open.move]
      by_cases hend : c = '`'
      · cases hend
        rfl
      rw [if_neg hend]
      by_cases hslash : c = '\\'
      · rw [if_pos hslash, if_pos (Or.inl hslash)]
        rfl
      rw [if_neg hslash]
      by_cases hopen : c = '$' ∧ bs.head? = some '{'
      · rw [if_pos hopen, if_pos (Or.inr hopen)]
        rfl
      · rw [if_neg hopen, if_neg (not_or.mpr ⟨hslash, hopen⟩)]
        rfl
  | code braces =>
      rw [Open.step, codeStep, Open.move]
      by_cases hopen : c = '{'
      · cases hopen
        rfl
      rw [if_neg hopen]
      by_cases hclose : c = '}'
      · cases hclose
        rfl
      rw [if_neg hclose]
      by_cases hquote : isQuote c = true
      · rw [if_pos hquote, if_pos hquote]
        exact skipString_drop bs
      rw [if_neg hquote, if_neg hquote]
      by_cases htemplate : c = '`'
      · cases htemplate
        rfl
      rw [if_neg htemplate]
      by_cases hline : c = '/' ∧ bs.head? = some '/'
      · rw [if_pos hline, if_pos hline]
        exact passes_line.drop bs
      rw [if_neg hline, if_neg hline]
      by_cases hblock : c = '/' ∧ bs.head? = some '*'
      · rw [if_pos hblock, if_pos hblock, skipBlock_drop, List.drop_drop, Nat.add_comm 1]
        rfl
      · rw [if_neg hblock, if_neg hblock]
        rfl

theorem skipOpen_drop (stack : List Open) (bs : List Char) :
    skipOpen stack bs = bs.drop (openMove stack bs) := by
  fun_induction openMove stack bs with
  | case1 =>
      rw [skipOpen]
      rfl
  | case2 stack hne =>
      rw [skipOpen]
      · rfl
      · exact hne
  | case3 inner stack c bs _ ih =>
      rw [skipOpen_cons, ih, inner.step_drop stack c bs, List.drop_drop]

theorem passes_template : Passes skipTemplate (openMove [.text]) :=
  ⟨skipTemplate_suffix, skipOpen_drop _, skipOpen_octets _⟩

/-!
# Blanks and comments
-/

theorem lt_of_isBlank (h : isBlank c = true) : c.toNat < 128 :=
  lt_of_not_isWordStart (Bool.eq_false_iff.mp (isWordStart_eq_false_of_isBlank h))

theorem skipTrivia_octets (cs : List Char) :
    skipTrivia (octets cs) = octets (skipTrivia cs) := by
  fun_induction skipTrivia cs with
  | case1 =>
      exact skipTrivia_nil
  | case2 c cs hblank ih =>
      rw [octets_of_ascii (lt_of_isBlank hblank), skipTrivia_cons_of_isBlank hblank, ih]
  | case3 c cs _ hline _ ih =>
      rcases hline with ⟨rfl, hhead⟩
      rcases List.head?_eq_some_iff.mp hhead with ⟨inside, rfl⟩
      rw [octets_of_ascii (by decide), octets_of_ascii (by decide), skipTrivia_line,
        passes_line.octets]
      exact ih
  | case4 c cs _ _ hblock _ ih =>
      rcases hblock with ⟨rfl, hhead⟩
      rcases List.head?_eq_some_iff.mp hhead with ⟨inside, rfl⟩
      rw [octets_of_ascii (by decide), octets_of_ascii (by decide), skipTrivia_block,
        skipBlock_octets]
      exact ih
  | case5 c cs hblank hline hblock =>
      by_cases hascii : c.toNat < 128
      · rw [octets_of_ascii hascii, skipTrivia, if_neg hblank, if_neg, if_neg]
        · rwa [head?_octets_eq_some_iff (by decide)]
        · rwa [head?_octets_eq_some_iff (by decide)]
      · rcases exists_octets_of_high (Nat.not_lt.mp hascii) with ⟨d, ds, hoctets, hhigh⟩
        have hd := hhigh d List.mem_cons_self
        rw [octets_cons, hoctets, List.cons_append, skipTrivia_cons_of_ne]
        · exact isBlank_eq_false_of_isWordStart (isWordStart_of_high hd)
        · exact ne_of_high hd (by decide)

theorem skipTrivia_drop (bs : List Char) : skipTrivia bs = bs.drop (triviaMove bs) := by
  fun_induction triviaMove bs with
  | case1 =>
      exact skipTrivia_nil
  | case2 c bs hblank ih =>
      rw [skipTrivia_cons_of_isBlank hblank, ih]
      rfl
  | case3 c bs hblank hline ih =>
      rw [skipTrivia, if_neg hblank, if_pos hline, passes_line.drop, ih, List.drop_drop,
        Nat.add_comm (triviaMove _), Nat.add_right_comm]
      rfl
  | case4 c bs hblank hline hblock ih =>
      rw [skipTrivia, if_neg hblank, if_neg hline, if_pos hblock, skipBlock_drop,
        List.drop_drop, Nat.add_comm 1, ih, List.drop_drop,
        Nat.add_comm (blockMove _ + 1) (triviaMove _)]
      rfl
  | case5 c bs hblank hline hblock =>
      rw [skipTrivia, if_neg hblank, if_neg hline, if_neg hblock]
      rfl

theorem passes_trivia : Passes skipTrivia triviaMove :=
  ⟨skipTrivia_suffix, skipTrivia_drop, skipTrivia_octets⟩

theorem blockMove_le (bs : List Char) : blockMove bs <= bs.length := by
  fun_induction blockMove bs with
  | case1 =>
      exact Nat.le_refl 0
  | case2 =>
      simp
  | case3 c bs _ ih =>
      exact Nat.succ_le_succ ih

theorem triviaMove_le (bs : List Char) : triviaMove bs <= bs.length := by
  fun_induction triviaMove bs with
  | case1 =>
      exact Nat.le_refl 0
  | case2 c bs _ ih =>
      exact Nat.succ_le_succ ih
  | case3 c bs _ _ ih =>
      have hline : lineMove bs <= bs.length := (List.takeWhile_prefix _).length_le
      rw [List.length_drop] at ih
      rw [List.length_cons]
      omega
  | case4 c bs _ _ hblock ih =>
      rcases List.head?_eq_some_iff.mp hblock.right with ⟨inside, rfl⟩
      have hbody := blockMove_le inside
      simp only [List.length_drop, List.length_cons, List.drop_one, List.tail_cons] at ih ⊢
      omega
  | case5 =>
      exact Nat.zero_le _

end

end Script
end RemoteImports
