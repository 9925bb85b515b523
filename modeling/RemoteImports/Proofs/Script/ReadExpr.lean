import RemoteImports.Proofs.Script.Grouping
import RemoteImports.Proofs.Script.Literal

/-!
# Reading written expressions back

A reader that goes by the order of the operators finds every expression that
needs no parentheses again in what is written for it.
-/

namespace RemoteImports
namespace Script

/-!
# The reader
-/

def mark? (c : Char) : List Char -> Option (List Char)
  | [] => none
  | d :: cs => if d = c then some cs else none

mutual

def readExpr : Nat -> List Char -> Option (Expr × List Char)
  | 0, _ => none
  | fuel + 1, cs => do
      let (target, cs) <- readUnary fuel cs
      match cs with
      | ' ' :: '=' :: ' ' :: cs =>
          let (value, cs) <- readExpr fuel cs
          return (.assign target value, cs)
      | cs => return (target, cs)

def readUnary : Nat -> List Char -> Option (Expr × List Char)
  | 0, _ => none
  | fuel + 1, cs =>
      match after? "await".toList cs with
      | some (' ' :: cs) => do
          let (argument, cs) <- readUnary fuel cs
          return (.await argument, cs)
      | _ => do
          let (expr, cs) <- readPrimary fuel cs
          readSuffixes expr fuel cs

def readPrimary : Nat -> List Char -> Option (Expr × List Char)
  | 0, _ => none
  | fuel + 1, cs =>
      match word? cs with
      | some (word, cs) =>
          if word = "import".toList then do
            let cs <- mark? '(' cs
            let (address, cs) <- readExpr fuel cs
            let cs <- mark? ')' cs
            return (.load address, cs)
          else some (.name (String.ofList word), cs)
      | none => do
          let (value, cs) <- literal? cs
          return (.text (String.ofList value), cs)

def readSuffixes (expr : Expr) : Nat -> List Char -> Option (Expr × List Char)
  | 0, _ => none
  | fuel + 1, '.' :: cs => do
      let (property, cs) <- word? cs
      readSuffixes (.member expr (String.ofList property)) fuel cs
  | fuel + 1, '(' :: ')' :: cs => readSuffixes (.call expr []) fuel cs
  | fuel + 1, '(' :: cs => do
      let (exprs, cs) <- readArguments fuel cs
      let cs <- mark? ')' cs
      readSuffixes (.call expr exprs) fuel cs
  | _ + 1, cs => some (expr, cs)

def readArguments : Nat -> List Char -> Option (List Expr × List Char)
  | 0, _ => none
  | fuel + 1, cs => do
      let (expr, cs) <- readExpr fuel cs
      match cs with
      | ',' :: ' ' :: cs =>
          let (exprs, cs) <- readArguments fuel cs
          return (expr :: exprs, cs)
      | cs => return ([expr], cs)

end

/-!
# Enough steps

A reader is given a number of steps.  What it reads is what it reads with any
number that is great enough.
-/

def Reads {α : Type} (read : Nat -> List Char -> Option (α × List Char)) (cs : List Char)
    (x : α) (rest : List Char) : Prop :=
  exists enough : Nat, forall fuel : Nat, enough <= fuel -> read fuel cs = some (x, rest)

section

variable {α β γ : Type} {read : Nat -> List Char -> Option (α × List Char)}
  {next : Nat -> List Char -> Option (β × List Char)}
  {last : Nat -> List Char -> Option (γ × List Char)} {x x' : α} {y : β} {z : γ}
  {cs cs' text rest rest' left : List Char}

theorem Reads.unique (h : Reads read cs x rest) (h' : Reads read cs x' rest') :
    x = x' ∧ rest = rest' := by
  rcases h with ⟨enough, h⟩
  rcases h' with ⟨enough', h'⟩
  have hboth := h (max enough enough') (Nat.le_max_left _ _)
  rw [h' _ (Nat.le_max_right _ _)] at hboth
  cases hboth
  exact ⟨rfl, rfl⟩

/-- A reader that reads after one step does so with any greater number of steps. -/
theorem Reads.start (h : forall fuel, last (fuel + 1) text = some (z, left)) :
    Reads last text z left := by
  refine ⟨1, ?_⟩
  intro fuel hfuel
  rcases Nat.exists_eq_add_of_le' hfuel with ⟨fuel, rfl⟩
  exact h fuel

theorem Reads.step (h : Reads read cs x rest)
    (hstep : forall fuel, read fuel cs = some (x, rest) ->
      last (fuel + 1) text = some (z, left)) : Reads last text z left := by
  rcases h with ⟨enough, h⟩
  refine ⟨enough + 1, ?_⟩
  intro fuel hfuel
  rcases Nat.exists_eq_add_of_le' hfuel with ⟨more, rfl⟩
  exact hstep (more + enough) (h _ (Nat.le_add_left _ _))

theorem Reads.step_both (h : Reads read cs x rest) (h' : Reads next cs' y rest')
    (hstep : forall fuel, read fuel cs = some (x, rest) -> next fuel cs' = some (y, rest') ->
      last (fuel + 1) text = some (z, left)) : Reads last text z left := by
  rcases h with ⟨enough, h⟩
  rcases h' with ⟨enough', h'⟩
  refine ⟨max enough enough' + 1, ?_⟩
  intro fuel hfuel
  rcases Nat.exists_eq_add_of_le' hfuel with ⟨more, rfl⟩
  exact hstep (more + max enough enough') (h _ (by omega)) (h' _ (by omega))

end

/-!
# What stands behind
-/

inductive Follows (marks : List Char) : List Char -> Prop where
  | mark {c : Char} (hc : c ∈ marks) (rest : List Char) : Follows marks (c :: rest)

def exprMarks : List Char := [',', ')', ';']

def unaryMarks : List Char := ' ' :: exprMarks

section

variable {α : Type} {c : Char} {cs rest left word marks : List Char} {expr whole : Expr}

theorem Follows.mono {others : List Char} (h : Follows marks rest) (hsubset : marks ⊆ others) :
    Follows others rest := by
  cases h with
  | mark hc rest =>
      exact Follows.mark (hsubset hc) rest

theorem Follows.endsWord (h : Follows marks rest)
    (hmarks : (marks.all fun c => !isWordPart c) = true) : EndsWord rest := by
  cases h with
  | mark hc rest =>
      rintro d ⟨⟩
      have hnot := List.all_eq_true.mp hmarks _ hc
      rwa [Bool.not_eq_true'] at hnot

theorem mark?_cons (c : Char) (rest : List Char) : mark? c (c :: rest) = some rest :=
  if_pos rfl

theorem word?_append_of_isWord (hword : IsWord word) (hrest : EndsWord rest) :
    word? (word ++ rest) = some (word, rest) :=
  word?_eq_some_iff.mpr ⟨rfl, hword, hrest⟩

theorem literal?_writeLiteral (value rest : List Char) :
    literal? (writeLiteral value ++ rest) = some (value, rest) :=
  (literal_writeLiteral value).literal? rest

theorem word?_writeLiteral (value rest : List Char) :
    word? (writeLiteral value ++ rest) = none := by
  rw [writeLiteral, List.cons_append]
  exact word?_cons_eq_none rfl _

/-!
# Lists
-/

def readItems (read : List Char -> Option (α × List Char))
    (readAll : List Char -> Option (List α × List Char)) (cs : List Char) :
    Option (List α × List Char) := do
  let (item, cs) <- read cs
  match cs with
  | ',' :: ' ' :: cs =>
      let (items, cs) <- readAll cs
      return (item :: items, cs)
  | cs => return ([item], cs)

theorem separated_cons_append (text : List Char) (texts : List (List Char))
    (h : Follows marks rest) :
    exists more : List Char, Follows (',' :: marks) more ∧
      separated [',', ' '] (text :: texts) ++ rest = text ++ more := by
  cases texts with
  | nil =>
      rw [separated, List.intercalate_singleton]
      exact ⟨rest, h.mono (List.subset_cons_self _ _), rfl⟩
  | cons next texts =>
      rw [separated, List.intercalate_cons_cons, List.append_assoc, List.append_assoc]
      exact ⟨_, Follows.mark List.mem_cons_self _, rfl⟩

/-- Items that are each read back are read back with commas between them. -/
theorem reads_separated {read : Nat -> List Char -> Option (α × List Char)}
    {readAll : Nat -> List Char -> Option (List α × List Char)} {write : α -> List Char}
    (hall : forall fuel cs, readAll (fuel + 1) cs = readItems (read fuel) (readAll fuel) cs)
    {items : List α}
    (hread : forall item, item ∈ items -> forall rest, Follows (',' :: marks) rest ->
      Reads read (write item ++ rest) item rest)
    (hne : items ≠ []) (hmarks : ',' ∉ marks) (hrest : Follows marks rest) :
    Reads readAll (separated [',', ' '] (items.map write) ++ rest) items rest := by
  induction items with
  | nil =>
      exact absurd rfl hne
  | cons item items ih =>
      rw [List.forall_mem_cons] at hread
      cases items with
      | nil =>
          rw [List.map_singleton, separated, List.intercalate_singleton]
          refine (hread.left rest (hrest.mono (List.subset_cons_self _ _))).step ?_
          intro fuel hitem
          rw [hall, readItems, hitem]
          -- No comma stands behind the last item, so the reader stops here.
          cases hrest with
          | @mark c hc rest =>
              have hcomma : c ≠ ',' := ne_of_mem_of_not_mem hc hmarks
              simp [hcomma]
      | cons next items =>
          have hlater := ih hread.right (List.cons_ne_nil next items)
          have hitem := hread.left (',' :: ' ' :: (separated [',', ' ']
            ((next :: items).map write) ++ rest)) (Follows.mark List.mem_cons_self _)
          have hsplit : separated [',', ' '] ((item :: next :: items).map write) ++ rest =
              write item ++
                ',' :: ' ' :: (separated [',', ' '] ((next :: items).map write) ++ rest) := by
            simp [separated, List.intercalate_cons_cons]
          rw [hsplit]
          refine hitem.step_both hlater ?_
          intro fuel hitem hlater
          rw [List.map_cons] at hitem hlater ⊢
          rw [hall, readItems, hitem]
          simp [hlater]

/-!
# How an expression begins
-/

def stmtWords : List String := ["let", "const", "try"]

inductive Opening : List Char -> Prop where
  | word {word rest : List Char} :
      IsWord word -> EndsWord rest ->
      (forall keyword, keyword ∈ stmtWords -> word ≠ keyword.toList) -> Opening (word ++ rest)
  | quote (rest : List Char) : Opening ('"' :: rest)

theorem IsVariable.toList_ne {name keyword : String} (h : IsVariable name)
    (hkeyword : keyword ∈ reservedWords) : name.toList ≠ keyword.toList := by
  intro heq
  rw [String.toList_inj] at heq
  rw [heq] at h
  exact h.free hkeyword

theorem opening_writeExpr (expr : Expr) (h : expr.Plain) (rest : List Char)
    (hrest : EndsWord rest) : Opening (writeExpr expr ++ rest) := by
  cases expr with
  | name name =>
      have hfree : forall keyword, keyword ∈ stmtWords -> name.toList ≠ keyword.toList := by
        intro keyword hkeyword
        have hsubset : stmtWords ⊆ reservedWords := by
          decide
        exact h.toList_ne (hsubset hkeyword)
      exact Opening.word h.word hrest hfree
  | text value =>
      exact Opening.quote _
  | member object property =>
      rw [writeExpr_member, List.append_assoc]
      exact opening_writeExpr object h.left _ (endsWord_cons rfl _)
  | call callee arguments =>
      rw [writeExpr_call, List.append_assoc]
      exact opening_writeExpr callee h.left _ (endsWord_cons rfl _)
  | load address =>
      rw [writeExpr_load, List.append_assoc, List.append_assoc]
      exact @Opening.word "import".toList _ (by decide) (endsWord_cons rfl _) (by decide)
  | await argument =>
      rw [writeExpr_await, List.append_assoc]
      exact @Opening.word "await".toList _ (by decide) (endsWord_cons rfl _) (by decide)
  | assign target value =>
      rw [writeExpr_assign, List.append_assoc, List.append_assoc]
      exact opening_writeExpr target h.left _ (endsWord_cons rfl _)
  | commented comment expr =>
      exact h.elim

theorem Opening.exists_cons (h : Opening cs) :
    exists (c : Char) (rest : List Char),
      cs = c :: rest ∧ isBlank c = false ∧ c ≠ ')' ∧ c ≠ '}' := by
  cases h with
  | @word word rest hword _ _ =>
      cases word with
      | nil =>
          exact hword.elim
      | cons c word =>
          exact ⟨c, word ++ rest, rfl, isBlank_eq_false_of_isWordStart hword.left,
            ne_of_isWordStart hword.left rfl, ne_of_isWordStart hword.left rfl⟩
  | quote rest =>
      exact ⟨'"', rest, rfl, rfl, by decide, by decide⟩

/-!
# Expressions
-/

/-- At each rank the expression has, it is read from what is written for it.  What
suffixes can follow is read together with them, since the reader goes on to take
all that are there. -/
structure ReadsBack (expr : Expr) : Prop where
  suffixes : expr.isPostfix = true -> forall (rest : List Char) (whole : Expr)
    (left : List Char), EndsWord rest -> Reads (readSuffixes expr) rest whole left ->
      Reads readUnary (writeExpr expr ++ rest) whole left
  unary : expr.isUnary = true -> forall rest : List Char, Follows unaryMarks rest ->
    Reads readUnary (writeExpr expr ++ rest) expr rest
  whole : forall rest : List Char, Follows exprMarks rest ->
    Reads readExpr (writeExpr expr ++ rest) expr rest

theorem reads_suffixes_stop (expr : Expr) (h : Follows unaryMarks rest) :
    Reads (readSuffixes expr) rest expr rest := by
  apply Reads.start
  intro fuel
  cases h with
  | mark hc rest =>
      simp only [unaryMarks, exprMarks, List.mem_cons, List.not_mem_nil, or_false] at hc
      rcases hc with rfl | rfl | rfl | rfl <;> rfl

theorem reads_suffixes_dot {property : String} (hproperty : IsWord property.toList)
    (hrest : EndsWord rest) (h : Reads (readSuffixes (.member expr property)) rest whole left) :
    Reads (readSuffixes expr) ('.' :: (property.toList ++ rest)) whole left := by
  refine h.step ?_
  intro fuel hread
  rw [readSuffixes, word?_append_of_isWord hproperty hrest]
  simp [hread]

theorem reads_suffixes_arguments {exprs : List Expr}
    (hplain : forall expr, expr ∈ exprs -> expr.Plain)
    (hread : forall expr, expr ∈ exprs -> ReadsBack expr)
    (h : Reads (readSuffixes (.call expr exprs)) rest whole left) :
    Reads (readSuffixes expr)
      ('(' :: (separated [',', ' '] (exprs.map writeExpr) ++ ')' :: rest)) whole left := by
  cases exprs with
  | nil =>
      exact h.step fun fuel hread => hread
  | cons first exprs =>
      have hitems : Reads readArguments
          (separated [',', ' '] ((first :: exprs).map writeExpr) ++ ')' :: rest)
          (first :: exprs) (')' :: rest) := by
        refine reads_separated (fun _ _ => rfl) ?_ (List.cons_ne_nil first exprs)
          (by decide : ',' ∉ [')', ';']) (Follows.mark List.mem_cons_self rest)
        exact fun item hitem => (hread item hitem).whole
      have hfirst := hplain first List.mem_cons_self
      rcases separated_cons_append (writeExpr first) (exprs.map writeExpr)
          (Follows.mark List.mem_cons_self rest : Follows [')'] (')' :: rest)) with
        ⟨more, hmore, hsplit⟩
      rcases (opening_writeExpr first hfirst more (hmore.endsWord rfl)).exists_cons with
        ⟨c, behind, hcons, _, hclose, _⟩
      rw [List.map_cons, hsplit, hcons] at hitems ⊢
      refine hitems.step_both h ?_
      intro fuel hitems hread
      rw [readSuffixes]
      · simp [hitems, mark?_cons, hread]
      · rintro cs ⟨⟩
        exact hclose rfl

theorem reads_unary_of_primary (hafter : after? "await".toList cs = none)
    (hprimary : Reads readPrimary cs expr rest)
    (h : Reads (readSuffixes expr) rest whole left) : Reads readUnary cs whole left := by
  refine hprimary.step_both h ?_
  intro fuel hprimary hread
  rw [readUnary, hafter]
  simp [hprimary, hread]

theorem after?_eq_none_of_ne {word other : List Char} (hword : IsWord word) (hne : word ≠ other)
    (hrest : EndsWord rest) : after? other (word ++ rest) = none := by
  rw [after?, word?_append_of_isWord hword hrest]
  exact if_neg hne

theorem reads_unary_name {name : String} (h : IsVariable name) (hrest : EndsWord rest)
    (hread : Reads (readSuffixes (.name name)) rest whole left) :
    Reads readUnary (name.toList ++ rest) whole left := by
  have himport : name.toList ≠ "import".toList := h.toList_ne (by decide)
  have hafter := after?_eq_none_of_ne h.word (h.toList_ne (by decide : "await" ∈ reservedWords))
    hrest
  refine reads_unary_of_primary hafter (Reads.start ?_) hread
  intro fuel
  rw [readPrimary, word?_append_of_isWord h.word hrest]
  dsimp only
  rw [if_neg himport, String.ofList_toList]

theorem reads_unary_text {value : String}
    (hread : Reads (readSuffixes (.text value)) rest whole left) :
    Reads readUnary (writeLiteral value.toList ++ rest) whole left := by
  have hword := word?_writeLiteral value.toList rest
  have hafter : after? "await".toList (writeLiteral value.toList ++ rest) = none := by
    rw [after?, hword]
  refine reads_unary_of_primary hafter (Reads.start ?_) hread
  intro fuel
  rw [readPrimary, hword, literal?_writeLiteral]
  simp

theorem reads_unary_load {address : Expr} (h : ReadsBack address)
    (hread : Reads (readSuffixes (.load address)) rest whole left) :
    Reads readUnary (writeExpr (.load address) ++ rest) whole left := by
  have hsplit : writeExpr (.load address) ++ rest =
      "import".toList ++ '(' :: (writeExpr address ++ ')' :: rest) := by
    rw [writeExpr_load]
    simp
  have hends := @endsWord_cons '(' rfl (writeExpr address ++ ')' :: rest)
  have hword : IsWord "import".toList := by
    decide
  have hafter := after?_eq_none_of_ne hword (by decide : _ ≠ "await".toList) hends
  rw [hsplit]
  refine reads_unary_of_primary hafter ?_ hread
  refine (h.whole (')' :: rest) (Follows.mark (by decide) rest)).step ?_
  intro fuel haddress
  rw [readPrimary, word?_append_of_isWord hword hends]
  simp [mark?_cons, haddress]

theorem reads_unary_await {argument : Expr}
    (h : Reads readUnary (writeExpr argument ++ rest) argument rest) :
    Reads readUnary (writeExpr (.await argument) ++ rest) (.await argument) rest := by
  have hsplit : writeExpr (.await argument) ++ rest =
      "await".toList ++ ' ' :: (writeExpr argument ++ rest) := by
    rw [writeExpr_await]
    simp
  have hafter : after? "await".toList (writeExpr (.await argument) ++ rest) =
      some (' ' :: (writeExpr argument ++ rest)) := by
    rw [after?_eq_some_iff, hsplit]
    exact word?_append_of_isWord (by decide) (endsWord_blank _)
  refine h.step ?_
  intro fuel hread
  rw [readUnary, hafter]
  simp [hread]

theorem reads_expr_of_unary
    (h : forall rest : List Char, Follows unaryMarks rest ->
      Reads readUnary (writeExpr expr ++ rest) expr rest) (hrest : Follows exprMarks rest) :
    Reads readExpr (writeExpr expr ++ rest) expr rest := by
  refine (h rest (hrest.mono (List.subset_cons_self _ _))).step ?_
  intro fuel hread
  rw [readExpr, hread]
  cases hrest with
  | mark hc rest =>
      simp only [exprMarks, List.mem_cons, List.not_mem_nil, or_false] at hc
      rcases hc with rfl | rfl | rfl <;> rfl

theorem ReadsBack.of_postfix
    (h : forall (rest : List Char) (whole : Expr) (left : List Char), EndsWord rest ->
      Reads (readSuffixes expr) rest whole left ->
      Reads readUnary (writeExpr expr ++ rest) whole left) : ReadsBack expr := by
  have hunary : forall rest : List Char, Follows unaryMarks rest ->
      Reads readUnary (writeExpr expr ++ rest) expr rest :=
    fun rest hrest => h rest expr rest (hrest.endsWord rfl) (reads_suffixes_stop expr hrest)
  exact ⟨fun _ => h, fun _ => hunary, fun rest => reads_expr_of_unary hunary⟩

theorem ReadsBack.await {argument : Expr} (hunary : argument.isUnary = true)
    (h : ReadsBack argument) : ReadsBack (.await argument) := by
  have hawait : forall rest : List Char, Follows unaryMarks rest ->
      Reads readUnary (writeExpr (.await argument) ++ rest) (.await argument) rest :=
    fun rest hrest => reads_unary_await (h.unary hunary rest hrest)
  refine ⟨?_, fun _ => hawait, fun rest => reads_expr_of_unary hawait⟩
  rintro ⟨⟩

theorem ReadsBack.assign {target value : Expr} (hunary : target.isUnary = true)
    (htarget : ReadsBack target) (hvalue : ReadsBack value) :
    ReadsBack (.assign target value) := by
  refine ⟨?_, ?_, ?_⟩
  · rintro ⟨⟩
  · rintro ⟨⟩
  · intro rest hrest
    have hsplit : writeExpr (.assign target value) ++ rest =
        writeExpr target ++ ' ' :: '=' :: ' ' :: (writeExpr value ++ rest) := by
      rw [writeExpr_assign]
      simp
    rw [hsplit]
    have hleft := htarget.unary hunary (' ' :: '=' :: ' ' :: (writeExpr value ++ rest))
      (Follows.mark List.mem_cons_self _)
    refine hleft.step_both (hvalue.whole rest hrest) ?_
    intro fuel htarget hvalue
    rw [readExpr, htarget]
    simp [hvalue]

theorem writeArguments_eq_map (exprs : List Expr) :
    writeArguments exprs = exprs.map writeExpr := by
  induction exprs with
  | nil =>
      rfl
  | cons expr exprs ih =>
      rw [writeArguments, ih, List.map_cons]

theorem argumentsPlain_iff {exprs : List Expr} :
    ArgumentsPlain exprs <-> forall expr, expr ∈ exprs -> expr.Plain := by
  induction exprs with
  | nil =>
      simp [ArgumentsPlain]
  | cons expr exprs ih =>
      rw [ArgumentsPlain, ih, List.forall_mem_cons]

mutual

/-- An expression that needs no parentheses is read back. -/
theorem readsBack (expr : Expr) (hplain : expr.Plain) (hfree : expr.ParenFree) :
    ReadsBack expr := by
  -- Each operand is read at a rank that it has, as no parentheses are needed.
  cases expr with
  | name name =>
      exact ReadsBack.of_postfix fun _ _ _ hrest hread => reads_unary_name hplain hrest hread
  | text value =>
      exact ReadsBack.of_postfix fun _ _ _ _ hread => reads_unary_text hread
  | member object property =>
      have hobject := readsBack object hplain.left hfree.right
      refine ReadsBack.of_postfix ?_
      intro rest whole left hrest hread
      rw [writeExpr_member, List.append_assoc]
      exact hobject.suffixes hfree.left _ whole left (endsWord_cons rfl _)
        (reads_suffixes_dot hplain.right hrest hread)
  | call callee arguments =>
      have hcallee := readsBack callee hplain.left hfree.right.left
      have harguments := readsBack_arguments arguments hplain.right hfree.right.right
      refine ReadsBack.of_postfix ?_
      intro rest whole left _ hread
      have hsplit : writeExpr (.call callee arguments) ++ rest = writeExpr callee ++
          '(' :: (separated [',', ' '] (arguments.map writeExpr) ++ ')' :: rest) := by
        rw [writeExpr_call, writeArguments_eq_map]
        simp
      rw [hsplit]
      exact hcallee.suffixes hfree.left _ whole left (endsWord_cons rfl _)
        (reads_suffixes_arguments (argumentsPlain_iff.mp hplain.right) harguments hread)
  | load address =>
      have haddress := readsBack address hplain hfree
      exact ReadsBack.of_postfix fun _ _ _ _ hread => reads_unary_load haddress hread
  | await argument =>
      exact ReadsBack.await hfree.left (readsBack argument hplain hfree.right)
  | assign target value =>
      exact ReadsBack.assign hfree.left (readsBack target hplain.left hfree.right.left)
        (readsBack value hplain.right hfree.right.right)
  | commented comment expr =>
      exact hplain.elim

theorem readsBack_arguments (exprs : List Expr) (hplain : ArgumentsPlain exprs)
    (hfree : ArgumentsParenFree exprs) : forall expr, expr ∈ exprs -> ReadsBack expr := by
  cases exprs with
  | nil =>
      intro expr hmem
      cases hmem
  | cons first exprs =>
      rw [List.forall_mem_cons]
      exact ⟨readsBack first hplain.left hfree.left,
        readsBack_arguments exprs hplain.right hfree.right⟩

end

end

end Script
end RemoteImports
