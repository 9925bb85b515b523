import RemoteImports.Proofs.Script.ReadExpr
import RemoteImports.Proofs.Script.WellNamed

/-!
# Reading written statements back

Statements whose expressions need no parentheses are found again in what is
written for them.  So two lists of statements are written alike exactly if they
are the same once their expressions are regrouped.
-/

namespace RemoteImports
namespace Script

/-!
# The reader
-/

def readKey (cs : List Char) : Option (Key × List Char) :=
  match word? cs with
  | some (word, cs) => some (.name (String.ofList word), cs)
  | none => do
      let (value, cs) <- literal? cs
      return (.text (String.ofList value), cs)

mutual

def readBinding : Nat -> List Char -> Option (Binding × List Char)
  | 0, _ => none
  | _ + 1, '{' :: '}' :: cs => some (.object [], cs)
  | fuel + 1, '{' :: ' ' :: cs => do
      let (properties, cs) <- readProperties fuel cs
      let cs <- mark? ' ' cs
      let cs <- mark? '}' cs
      return (.object properties, cs)
  | _ + 1, cs => do
      let (word, cs) <- word? cs
      return (.name (String.ofList word), cs)

def readProperties : Nat -> List Char -> Option (List Property × List Char)
  | 0, _ => none
  | fuel + 1, cs => do
      let (property, cs) <- readProperty fuel cs
      match cs with
      | ',' :: ' ' :: cs =>
          let (properties, cs) <- readProperties fuel cs
          return (property :: properties, cs)
      | cs => return ([property], cs)

def readProperty : Nat -> List Char -> Option (Property × List Char)
  | 0, _ => none
  | fuel + 1, cs => do
      let (key, cs) <- readKey cs
      match cs with
      | ':' :: ' ' :: cs =>
          let (value, cs) <- readBinding fuel cs
          return (.bind key value false, cs)
      | cs =>
          match key with
          | .name name => return (.bind key (.name name) true, cs)
          | .text _ => none

end

def readDeclarator : Nat -> List Char -> Option (Declarator × List Char)
  | 0, _ => none
  | fuel + 1, cs => do
      let (binding, cs) <- readBinding fuel cs
      match cs with
      | ' ' :: '=' :: ' ' :: cs =>
          let (value, cs) <- readExpr fuel cs
          return ({ binding, value := some value }, cs)
      | cs => return ({ binding, value := none }, cs)

def readDeclarators : Nat -> List Char -> Option (List Declarator × List Char)
  | 0, _ => none
  | fuel + 1, cs => do
      let (declarator, cs) <- readDeclarator fuel cs
      match cs with
      | ',' :: ' ' :: cs =>
          let (declarators, cs) <- readDeclarators fuel cs
          return (declarator :: declarators, cs)
      | cs => return ([declarator], cs)

def readDeclaration (keyword : Keyword) : Nat -> List Char -> Option (Stmt × List Char)
  | 0, _ => none
  | _ + 1, ';' :: cs => some (.declare keyword [], cs)
  | fuel + 1, cs => do
      let (declarators, cs) <- readDeclarators fuel cs
      let cs <- mark? ';' cs
      return (.declare keyword declarators, cs)

def readCaught : Nat -> List Char -> Option (Option Binding × List Char)
  | 0, _ => none
  | fuel + 1, '(' :: cs => do
      let (binding, cs) <- readBinding fuel cs
      let cs <- mark? ')' cs
      let cs <- mark? ' ' cs
      return (some binding, cs)
  | _ + 1, cs => some (none, cs)

def readExprStmt : Nat -> List Char -> Option (Stmt × List Char)
  | 0, _ => none
  | fuel + 1, cs => do
      let (expr, cs) <- readExpr fuel cs
      let cs <- mark? ';' cs
      return (.expr expr, cs)

mutual

def readStmt : Nat -> List Char -> Option (Stmt × List Char)
  | 0, _ => none
  | fuel + 1, cs =>
      match word? cs with
      | some (word, ' ' :: behind) =>
          if word = "let".toList then readDeclaration .letKeyword fuel behind
          else if word = "const".toList then readDeclaration .constKeyword fuel behind
          else if word = "try".toList then readTry fuel behind
          else readExprStmt fuel cs
      | _ => readExprStmt fuel cs

def readTry : Nat -> List Char -> Option (Stmt × List Char)
  | 0, _ => none
  | fuel + 1, cs => do
      let (body, cs) <- readBlock fuel cs
      readHandler body fuel cs

def readHandler (body : List Stmt) : Nat -> List Char -> Option (Stmt × List Char)
  | 0, _ => none
  | fuel + 1, ' ' :: 'c' :: 'a' :: 't' :: 'c' :: 'h' :: ' ' :: cs => do
      let (caught, cs) <- readCaught fuel cs
      let (handler, cs) <- readBlock fuel cs
      return (.tryCatch body caught handler, cs)
  | _ + 1, cs => some (.tryOnly body, cs)

def readBlock : Nat -> List Char -> Option (List Stmt × List Char)
  | 0, _ => none
  | fuel + 1, cs => do
      let cs <- mark? '{' cs
      let (stmts, cs) <- readLines fuel cs
      let cs <- mark? '}' cs
      return (stmts, cs)

def readLines : Nat -> List Char -> Option (List Stmt × List Char)
  | 0, _ => none
  | fuel + 1, cs =>
      match cs.dropWhile isBlank with
      | [] => some ([], [])
      | '}' :: cs => some ([], '}' :: cs)
      | cs => do
          let (stmt, cs) <- readStmt fuel cs
          let (stmts, cs) <- readLines fuel cs
          return (stmt :: stmts, cs)

end

mutual

/-- The names that are bound are words and no reserved words, each key is a word
or a text, and what is marked as a shorthand is a key that is bound to itself. -/
def Binding.Plain : Binding -> Prop
  | .name name => IsVariable name
  | .object properties => PropertiesPlain properties

def PropertiesPlain : List Property -> Prop
  | [] => True
  | property :: properties => property.Plain ∧ PropertiesPlain properties

def Property.Plain : Property -> Prop
  | .bind key value shorthand =>
      key.WellNamed ∧ value.Plain ∧
        (shorthand = true <-> exists name, key = .name name ∧ value = .name name)

end

def EndsLine (rest : List Char) : Prop :=
  forall c, rest.head? = some c -> c = '\n'

section

variable {rest : List Char}

/-!
# Bindings
-/

theorem readKey_writeKey {key : Key} (h : key.WellNamed) (hrest : EndsWord rest) :
    readKey (writeKey key ++ rest) = some (key, rest) := by
  cases key with
  | name key =>
      rw [writeKey, readKey, word?_append_of_isWord h hrest]
      simp
  | text key =>
      rw [writeKey, readKey, word?_writeLiteral, literal?_writeLiteral]
      simp

theorem writeProperties_eq_map (properties : List Property) :
    writeProperties properties = properties.map writeProperty := by
  induction properties with
  | nil =>
      rfl
  | cons property properties ih =>
      rw [writeProperties, ih, List.map_cons]

theorem readBinding_name {name : String} (h : IsWord name.toList) (hrest : EndsWord rest) :
    Reads readBinding (name.toList ++ rest) (.name name) rest := by
  have hbrace := h.head?_append_ne (rfl : isWordStart '{' = false) rest
  have hword := word?_append_of_isWord h hrest
  generalize name.toList ++ rest = cs at hbrace hword
  apply Reads.start
  intro fuel
  rw [readBinding]
  · rw [hword]
    simp
  · rintro cs rfl
    exact hbrace rfl
  · rintro cs rfl
    exact hbrace rfl

mutual

theorem readBinding_writeBinding (binding : Binding) (h : binding.Plain) (rest : List Char)
    (hrest : EndsWord rest) :
    Reads readBinding (writeBinding binding ++ rest) binding rest := by
  cases binding with
  | name name =>
      exact readBinding_name h.word hrest
  | object properties =>
      cases properties with
      | nil =>
          exact Reads.start fun _ => rfl
      | cons property properties =>
          have hitems : Reads readProperties
              (separated [',', ' '] ((property :: properties).map writeProperty) ++
                ' ' :: '}' :: rest) (property :: properties) (' ' :: '}' :: rest) :=
            reads_separated (fun _ _ => rfl)
              (readProperty_writeProperties (property :: properties) h)
              (List.cons_ne_nil property properties) (by decide : ',' ∉ [' '])
              (Follows.mark List.mem_cons_self ('}' :: rest))
          have hsplit : writeBinding (.object (property :: properties)) ++ rest =
              '{' :: ' ' :: (separated [',', ' '] ((property :: properties).map writeProperty) ++
                ' ' :: '}' :: rest) := by
            rw [writeBinding, writeProperties_eq_map]
            simp
          rw [hsplit]
          refine hitems.step ?_
          intro fuel hitems
          rw [readBinding, hitems]
          simp [mark?_cons]

theorem readProperty_writeProperties (properties : List Property)
    (h : PropertiesPlain properties) :
    forall property, property ∈ properties -> forall rest, Follows [',', ' '] rest ->
      Reads readProperty (writeProperty property ++ rest) property rest := by
  cases properties with
  | nil =>
      intro property hmem
      cases hmem
  | cons first properties =>
      rw [List.forall_mem_cons]
      exact ⟨readProperty_writeProperty first h.left,
        readProperty_writeProperties properties h.right⟩

theorem readProperty_writeProperty (property : Property) (h : property.Plain)
    (rest : List Char) (hrest : Follows [',', ' '] rest) :
    Reads readProperty (writeProperty property ++ rest) property rest := by
  have hends := hrest.endsWord rfl
  cases property with
  | bind key value shorthand =>
      cases shorthand with
      | true =>
          rcases h.right.right.mp rfl with ⟨name, rfl, rfl⟩
          have hkey := readKey_writeKey h.left hends
          rw [writeKey] at hkey
          apply Reads.start
          intro fuel
          rw [writeProperty, writeBinding, readProperty, hkey]
          cases hrest with
          | mark hc rest =>
              simp only [List.mem_cons, List.not_mem_nil, or_false] at hc
              rcases hc with rfl | rfl <;> rfl
      | false =>
          have hvalue := readBinding_writeBinding value h.right.left rest hends
          have hsplit : writeProperty (.bind key value false) ++ rest =
              writeKey key ++ ':' :: ' ' :: (writeBinding value ++ rest) := by
            rw [writeProperty]
            simp
          rw [hsplit]
          refine hvalue.step ?_
          intro fuel hvalue
          rw [readProperty, readKey_writeKey h.left (endsWord_cons rfl _)]
          simp [hvalue]

end

/-!
# Declarations
-/

theorem readDeclarator_writeDeclarator {declarator : Declarator}
    (h : declarator.Every ReadsBack Binding.Plain) (rest : List Char)
    (hrest : Follows [',', ';'] rest) :
    Reads readDeclarator (writeDeclarator declarator ++ rest) declarator rest := by
  rcases declarator with ⟨binding, value⟩
  cases value with
  | none =>
      have hbinding := readBinding_writeBinding binding h.binding rest (hrest.endsWord rfl)
      rw [writeDeclarator, List.append_nil]
      refine hbinding.step ?_
      intro fuel hbinding
      rw [readDeclarator, hbinding]
      cases hrest with
      | mark hc rest =>
          simp only [List.mem_cons, List.not_mem_nil, or_false] at hc
          rcases hc with rfl | rfl <;> rfl
  | some value =>
      have hvalue := (h.value value rfl).whole rest (hrest.mono (by decide))
      have hsplit : writeDeclarator ⟨binding, some value⟩ ++ rest =
          writeBinding binding ++ ' ' :: '=' :: ' ' :: (writeExpr value ++ rest) := by
        rw [writeDeclarator]
        simp
      have hbinding := readBinding_writeBinding binding h.binding
        (' ' :: '=' :: ' ' :: (writeExpr value ++ rest)) (endsWord_cons rfl _)
      rw [hsplit]
      refine hbinding.step_both hvalue ?_
      intro fuel hbinding hvalue
      rw [readDeclarator, hbinding]
      simp [hvalue]

theorem exists_writeBinding_eq {binding : Binding} (h : binding.Plain) :
    exists (c : Char) (cs : List Char), writeBinding binding = c :: cs ∧ c ≠ ';' := by
  cases binding with
  | name name =>
      cases hname : name.toList with
      | nil =>
          have hword := h.word
          rw [hname] at hword
          exact hword.elim
      | cons c cs =>
          have hword := h.word
          rw [hname] at hword
          exact ⟨c, cs, hname, ne_of_isWordStart hword.left rfl⟩
  | object properties =>
      cases properties with
      | nil =>
          exact ⟨'{', _, rfl, by decide⟩
      | cons property properties =>
          exact ⟨'{', _, rfl, by decide⟩

theorem readDeclaration_separated (keyword : Keyword) {declarators : List Declarator}
    (h : forall declarator, declarator ∈ declarators ->
      declarator.Every ReadsBack Binding.Plain) (rest : List Char) :
    Reads (readDeclaration keyword)
      (separated [',', ' '] (declarators.map writeDeclarator) ++ ';' :: rest)
      (.declare keyword declarators) rest := by
  cases declarators with
  | nil =>
      exact Reads.start fun _ => rfl
  | cons first declarators =>
      have hitems : Reads readDeclarators
          (separated [',', ' '] ((first :: declarators).map writeDeclarator) ++ ';' :: rest)
          (first :: declarators) (';' :: rest) :=
        reads_separated (fun _ _ => rfl)
          (fun declarator hmem => readDeclarator_writeDeclarator (h declarator hmem))
          (List.cons_ne_nil first declarators) (by decide : ',' ∉ [';'])
          (Follows.mark List.mem_cons_self rest)
      rcases separated_cons_append (writeDeclarator first) (declarators.map writeDeclarator)
          (Follows.mark List.mem_cons_self rest : Follows [';'] (';' :: rest)) with
        ⟨more, _, hsplit⟩
      rcases exists_writeBinding_eq (h first List.mem_cons_self).binding with
        ⟨c, cs, hbinding, hc⟩
      rw [writeDeclarator, hbinding] at hsplit
      rw [List.map_cons, writeDeclarator, hbinding] at hitems ⊢
      rw [hsplit] at hitems ⊢
      simp only [List.cons_append] at hitems ⊢
      refine hitems.step ?_
      intro fuel hitems
      rw [readDeclaration, hitems]
      · simp [mark?_cons]
      · rintro cs ⟨⟩
        exact hc rfl

/-!
# Statements
-/

def StmtReadsBack (depth : Nat) (stmt : Stmt) : Prop :=
  forall rest : List Char, EndsLine rest ->
    Reads readStmt (writeStmt {} depth stmt ++ rest) stmt rest

def LinesReadBack (depth : Nat) (stmts : List Stmt) : Prop :=
  forall rest behind : List Char, EndsLine rest -> Reads readLines rest [] behind ->
    Reads readLines (writeLines {} depth stmts ++ rest) stmts behind

variable {depth : Nat} {stmts : List Stmt} {left : List Char}

theorem isBlank_of_mem_line {c : Char} (h : c ∈ Layout.line {} depth) : isBlank c = true := by
  rw [Layout.line, List.mem_cons, List.nil_append] at h
  rcases h with rfl | h
  · rfl
  · rcases List.mem_flatten.mp h with ⟨indent, hindent, hc⟩
    rw [List.eq_of_mem_replicate hindent] at hc
    simp only [List.mem_cons, List.not_mem_nil, or_false, or_self] at hc
    rw [hc]
    rfl

theorem endsLine_line (depth : Nat) (rest : List Char) :
    EndsLine (Layout.line {} depth ++ rest) := by
  rintro c ⟨⟩
  rfl

theorem readLines_blanks {blanks : List Char}
    (hblanks : forall c, c ∈ blanks -> isBlank c = true) (h : Reads readLines rest stmts left) :
    Reads readLines (blanks ++ rest) stmts left := by
  -- The blanks are dropped within one step, so the number of steps is the same.
  rcases h with ⟨enough, h⟩
  refine ⟨enough, ?_⟩
  intro fuel hfuel
  have hread := h fuel hfuel
  cases fuel with
  | zero =>
      cases hread
  | succ fuel =>
      rw [readLines] at hread ⊢
      rwa [List.dropWhile_append_of_pos hblanks]

theorem readLines_close (rest : List Char) : Reads readLines ('}' :: rest) [] ('}' :: rest) :=
  Reads.start fun _ => rfl

theorem readBlock_writeBlock (h : LinesReadBack (depth + 1) stmts) (rest : List Char) :
    Reads readBlock (writeBlock {} depth stmts ++ rest) stmts rest := by
  cases stmts with
  | nil =>
      refine (readLines_close rest).step ?_
      intro fuel hclose
      rw [readBlock, writeBlock, List.cons_append, mark?_cons]
      simp [hclose, mark?_cons]
  | cons stmt stmts =>
      have hclose := readLines_blanks (fun _ => @isBlank_of_mem_line depth _)
        (readLines_close rest)
      have hlines := h _ _ (endsLine_line depth _) hclose
      have hsplit : writeBlock {} depth (stmt :: stmts) ++ rest =
          '{' :: (writeLines {} (depth + 1) (stmt :: stmts) ++
            (Layout.line {} depth ++ '}' :: rest)) := by
        rw [writeBlock, writeLines]
        simp
      rw [hsplit]
      refine hlines.step ?_
      intro fuel hlines
      rw [readBlock, mark?_cons]
      simp [hlines, mark?_cons]

theorem exists_writeStmt_eq (stmt : Stmt)
    (h : stmt.Every (fun expr => expr.Plain ∧ expr.ParenFree) Binding.Plain) :
    exists (c : Char) (cs : List Char),
      writeStmt {} depth stmt = c :: cs ∧ isBlank c = false ∧ c ≠ '}' := by
  cases stmt with
  | declare keyword declarators =>
      cases keyword with
      | letKeyword =>
          exact ⟨'l', _, rfl, rfl, by decide⟩
      | constKeyword =>
          exact ⟨'c', _, rfl, rfl, by decide⟩
  | tryOnly body =>
      exact ⟨'t', _, rfl, rfl, by decide⟩
  | tryCatch body caught handler =>
      exact ⟨'t', _, rfl, rfl, by decide⟩
  | expr expr =>
      rcases (opening_writeExpr expr h.left [';'] (endsWord_cons rfl [])).exists_cons with
        ⟨c, cs, hcons, hblank, _, hbrace⟩
      exact ⟨c, cs, hcons, hblank, hbrace⟩

theorem readStmt_declare (keyword : Keyword) {declarators : List Declarator}
    (h : forall declarator, declarator ∈ declarators ->
      declarator.Every ReadsBack Binding.Plain) :
    StmtReadsBack depth (.declare keyword declarators) := by
  intro rest _
  have hdeclaration := readDeclaration_separated keyword h rest
  have hsplit : writeStmt {} depth (.declare keyword declarators) ++ rest =
      keyword.text ++ ' ' ::
        (separated [',', ' '] (declarators.map writeDeclarator) ++ ';' :: rest) := by
    rw [writeStmt_declare]
    simp
  rw [hsplit]
  refine hdeclaration.step ?_
  intro fuel hdeclaration
  rw [readStmt, word?_append_of_isWord (isWord_text keyword) (endsWord_blank _)]
  cases keyword with
  | letKeyword =>
      exact hdeclaration
  | constKeyword =>
      exact hdeclaration

theorem readStmt_try {body : List Stmt} {stmt : Stmt} (hbody : LinesReadBack (depth + 1) body)
    (h : Reads (readHandler body) rest stmt left) :
    Reads readStmt ("try ".toList ++ (writeBlock {} depth body ++ rest)) stmt left := by
  have htry : Reads readTry (writeBlock {} depth body ++ rest) stmt left := by
    refine (readBlock_writeBlock hbody rest).step_both h ?_
    intro fuel hblock hread
    rw [readTry, hblock]
    exact hread
  have hword : IsWord "try".toList := by
    decide
  generalize writeBlock {} depth body ++ rest = cs at htry
  have hfound := word?_append_of_isWord hword (endsWord_blank cs)
  have hsplit : "try ".toList ++ cs = "try".toList ++ ' ' :: cs := rfl
  rw [hsplit]
  refine htry.step ?_
  intro fuel hread
  rw [readStmt, hfound]
  exact hread

theorem readStmt_tryOnly {body : List Stmt} (h : LinesReadBack (depth + 1) body) :
    StmtReadsBack depth (.tryOnly body) := by
  intro rest hrest
  have hsplit : writeStmt {} depth (.tryOnly body) ++ rest =
      "try ".toList ++ (writeBlock {} depth body ++ rest) := by
    unfold writeStmt
    rw [List.append_assoc]
  rw [hsplit]
  refine readStmt_try h (Reads.start ?_)
  intro fuel
  cases rest with
  | nil =>
      rfl
  | cons c rest =>
      cases hrest c rfl
      rfl

theorem readCaught_writeCaught {caught : Option Binding} (depth : Nat) (handler : List Stmt)
    (h : forall binding, caught = some binding -> binding.Plain) (rest : List Char) :
    Reads readCaught (writeCaught caught ++ (writeBlock {} depth handler ++ rest)) caught
      (writeBlock {} depth handler ++ rest) := by
  cases caught with
  | none =>
      cases handler with
      | nil =>
          exact Reads.start fun _ => rfl
      | cons stmt handler =>
          exact Reads.start fun _ => rfl
  | some binding =>
      have hbinding := readBinding_writeBinding binding (h binding rfl)
        (')' :: ' ' :: (writeBlock {} depth handler ++ rest)) (endsWord_cons rfl _)
      refine hbinding.step ?_
      intro fuel hbinding
      rw [writeCaught, List.cons_append, List.append_assoc, readCaught, List.cons_append,
        List.cons_append, List.nil_append, hbinding]
      simp [mark?_cons]

theorem readStmt_tryCatch {body handler : List Stmt} {caught : Option Binding}
    (hbody : LinesReadBack (depth + 1) body)
    (hcaught : forall binding, caught = some binding -> binding.Plain)
    (hhandler : LinesReadBack (depth + 1) handler) :
    StmtReadsBack depth (.tryCatch body caught handler) := by
  intro rest _
  have hsplit : writeStmt {} depth (.tryCatch body caught handler) ++ rest =
      "try ".toList ++ (writeBlock {} depth body ++ (" catch ".toList ++
        (writeCaught caught ++ (writeBlock {} depth handler ++ rest)))) := by
    unfold writeStmt
    simp only [List.append_assoc]
  rw [hsplit]
  refine readStmt_try hbody ((readCaught_writeCaught depth handler hcaught rest).step_both
    (readBlock_writeBlock hhandler rest) ?_)
  intro fuel hfound hblock
  change (readCaught fuel (writeCaught caught ++ (writeBlock {} depth handler ++ rest)) >>=
    _) = _
  rw [hfound]
  simp [hblock]

theorem readStmt_expr {expr : Expr} (hplain : expr.Plain) (h : ReadsBack expr) :
    StmtReadsBack depth (.expr expr) := by
  intro rest _
  have hends : EndsWord (';' :: rest) := endsWord_cons rfl rest
  have hsplit : writeStmt {} depth (.expr expr) ++ rest = writeExpr expr ++ ';' :: rest := by
    unfold writeStmt
    simp
  have hexpr : Reads readExprStmt (writeExpr expr ++ ';' :: rest) (.expr expr) rest := by
    refine (h.whole (';' :: rest) (Follows.mark (by decide) rest)).step ?_
    intro fuel hread
    rw [readExprStmt, hread]
    simp [mark?_cons]
  rw [hsplit]
  have hopening := opening_writeExpr expr hplain (';' :: rest) hends
  generalize writeExpr expr ++ ';' :: rest = cs at hexpr hopening
  refine hexpr.step ?_
  intro fuel hexpr
  rw [readStmt]
  -- No expression begins with a word that a declaration or a `try` begins with.
  cases hopening with
  | word hword hrest hne =>
      rw [word?_append_of_isWord hword hrest]
      split
      · rename_i heq
        cases heq
        rw [if_neg (hne "let" (by decide)), if_neg (hne "const" (by decide)),
          if_neg (hne "try" (by decide))]
        exact hexpr
      · exact hexpr
  | quote behind =>
      rw [word?_cons_eq_none rfl]
      exact hexpr

theorem endsLine_writeLines {rest : List Char} (hrest : EndsLine rest) :
    EndsLine (writeLines {} depth stmts ++ rest) := by
  cases stmts with
  | nil =>
      exact hrest
  | cons stmt stmts =>
      rw [writeLines, List.append_assoc, List.append_assoc]
      exact endsLine_line depth _

theorem readLines_writeStmt {stmt : Stmt} {behind : List Char}
    (hopen : exists (c : Char) (cs : List Char),
      writeStmt {} depth stmt = c :: cs ∧ isBlank c = false ∧ c ≠ '}')
    (hstmt : StmtReadsBack depth stmt) (hlines : Reads readLines rest stmts behind)
    (hrest : EndsLine rest) :
    Reads readLines (writeStmt {} depth stmt ++ rest) (stmt :: stmts) behind := by
  have hread := hstmt rest hrest
  rcases hopen with ⟨c, cs, hcons, hblank, hbrace⟩
  rw [hcons, List.cons_append] at hread ⊢
  refine hread.step_both hlines ?_
  intro fuel hread hlines
  rw [readLines, List.dropWhile_cons, hblank, if_neg Bool.false_ne_true]
  simp [hbrace, hread, hlines]

mutual

theorem readStmt_writeStmt (stmt : Stmt)
    (h : stmt.Every (fun expr => expr.Plain ∧ expr.ParenFree) Binding.Plain) (depth : Nat) :
    StmtReadsBack depth stmt := by
  cases stmt with
  | declare keyword declarators =>
      refine readStmt_declare keyword ?_
      intro declarator hmem
      refine ⟨(h declarator hmem).binding, ?_⟩
      intro value hvalue
      have hexpr := (h declarator hmem).value value hvalue
      exact readsBack value hexpr.left hexpr.right
  | tryOnly body =>
      exact readStmt_tryOnly (readLines_writeLines body h (depth + 1))
  | tryCatch body caught handler =>
      exact readStmt_tryCatch (readLines_writeLines body h.left (depth + 1)) h.right.left
        (readLines_writeLines handler h.right.right (depth + 1))
  | expr expr =>
      exact readStmt_expr h.left (readsBack expr h.left h.right)

theorem readLines_writeLines (stmts : List Stmt)
    (h : EveryIn (fun expr => expr.Plain ∧ expr.ParenFree) Binding.Plain stmts)
    (depth : Nat) : LinesReadBack depth stmts := by
  cases stmts with
  | nil =>
      exact fun _ _ _ hclose => hclose
  | cons stmt stmts =>
      intro rest behind hrest hclose
      have hlater := readLines_writeLines stmts h.right depth rest behind hrest hclose
      rw [writeLines, List.append_assoc, List.append_assoc]
      exact readLines_blanks (fun _ => isBlank_of_mem_line)
        (readLines_writeStmt (exists_writeStmt_eq stmt h.left)
          (readStmt_writeStmt stmt h.left depth) hlater (endsLine_writeLines hrest))

end

/-- Statements whose expressions need no parentheses are read back. -/
theorem readLines_writeStmts
    (h : EveryIn (fun expr => expr.Plain ∧ expr.ParenFree) Binding.Plain stmts) :
    Reads readLines (writeStmts {} stmts) stmts [] := by
  have hend : Reads readLines [] [] [] := Reads.start fun _ => rfl
  have hnil : EndsLine [] := by
    rintro c ⟨⟩
  cases stmts with
  | nil =>
      exact hend
  | cons stmt stmts =>
      have hlater := readLines_writeLines stmts h.right 0 [] [] hnil hend
      have hends := @endsLine_writeLines 0 stmts [] hnil
      rw [List.append_nil] at hlater hends
      exact readLines_writeStmt (exists_writeStmt_eq stmt h.left)
        (readStmt_writeStmt stmt h.left 0) hlater hends

/-!
# Statements that are written alike
-/

theorem readLines_writeStmts_regrouped (h : EveryIn Expr.Plain Binding.Plain stmts) :
    Reads readLines (writeStmts {} stmts) (mapExprsIn Expr.regrouped stmts) [] := by
  have hregrouped : EveryIn (fun expr => expr.Plain ∧ expr.ParenFree) Binding.Plain
      (mapExprsIn Expr.regrouped stmts) :=
    EveryIn.mapExprsIn (fun expr hexpr => ⟨plain_regrouped expr hexpr, parenFree_regrouped expr⟩)
      stmts h
  have hread := readLines_writeStmts hregrouped
  rwa [writeStmts_mapExprsIn {} writeExpr_regrouped] at hread

end

/-- Two lists of statements are written alike exactly if they are the same once
their expressions are regrouped.  If neither needs parentheses, they are the
same. -/
theorem writeStmts_eq_iff {first second : List Stmt}
    (hfirst : EveryIn Expr.Plain Binding.Plain first)
    (hsecond : EveryIn Expr.Plain Binding.Plain second) :
    (writeStmts {} first = writeStmts {} second <->
      mapExprsIn Expr.regrouped first = mapExprsIn Expr.regrouped second) ∧
    (EveryIn Expr.ParenFree (fun _ => True) first ->
      EveryIn Expr.ParenFree (fun _ => True) second ->
      writeStmts {} first = writeStmts {} second -> first = second) := by
  have hiff : writeStmts {} first = writeStmts {} second <->
      mapExprsIn Expr.regrouped first = mapExprsIn Expr.regrouped second := by
    constructor
    · intro hsame
      have hread := readLines_writeStmts_regrouped hfirst
      rw [hsame] at hread
      -- One text is read as both lists, each regrouped.
      exact (hread.unique (readLines_writeStmts_regrouped hsecond)).left
    · intro hsame
      rw [← writeStmts_mapExprsIn {} writeExpr_regrouped first, hsame,
        writeStmts_mapExprsIn {} writeExpr_regrouped]
  refine ⟨hiff, ?_⟩
  intro hfreeFirst hfreeSecond hsame
  have hregrouped := hiff.mp hsame
  rwa [EveryIn.mapExprsIn_eq regrouped_of_parenFree first hfreeFirst,
    EveryIn.mapExprsIn_eq regrouped_of_parenFree second hfreeSecond] at hregrouped

/-- A member of what is awaited, a member that is awaited, and what has the
member. -/
def memberOfAwaited : List Stmt :=
  [.expr (.member (.await (.name "m")) "default")]

def memberAwaited : List Stmt :=
  [.expr (.await (.member (.name "m") "default"))]

def nameAwaited : List Stmt :=
  [.expr (.await (.name "m"))]

theorem plain_memberOfAwaited : EveryIn Expr.Plain Binding.Plain memberOfAwaited :=
  ⟨⟨⟨by decide, by decide⟩, by decide⟩, trivial⟩

theorem plain_memberAwaited : EveryIn Expr.Plain Binding.Plain memberAwaited :=
  ⟨⟨⟨by decide, by decide⟩, by decide⟩, trivial⟩

theorem plain_nameAwaited : EveryIn Expr.Plain Binding.Plain nameAwaited :=
  ⟨⟨by decide, by decide⟩, trivial⟩

/-- The first two are written alike, though they are not the same; the last two
are free of parentheses, and as they are not the same, they are not written
alike. -/
theorem writeStmts_eq_iff_member :
    EveryIn Expr.Plain Binding.Plain memberOfAwaited ∧
      EveryIn Expr.Plain Binding.Plain memberAwaited ∧
      EveryIn Expr.Plain Binding.Plain nameAwaited ∧
      mapExprsIn Expr.regrouped memberOfAwaited = mapExprsIn Expr.regrouped memberAwaited ∧
      writeStmts {} memberOfAwaited = writeStmts {} memberAwaited ∧
      EveryIn Expr.ParenFree (fun _ => True) memberAwaited ∧
      EveryIn Expr.ParenFree (fun _ => True) nameAwaited ∧
      memberAwaited ≠ nameAwaited ∧
      writeStmts {} memberAwaited ≠ writeStmts {} nameAwaited := by
  have hregrouped : mapExprsIn Expr.regrouped memberOfAwaited =
      mapExprsIn Expr.regrouped memberAwaited := rfl
  have hfree : EveryIn Expr.ParenFree (fun _ => True) memberAwaited :=
    ⟨⟨rfl, rfl, trivial⟩, trivial⟩
  have hfree' : EveryIn Expr.ParenFree (fun _ => True) nameAwaited :=
    ⟨⟨rfl, trivial⟩, trivial⟩
  have hne : memberAwaited ≠ nameAwaited := by
    rintro ⟨⟩
  refine ⟨plain_memberOfAwaited, plain_memberAwaited, plain_nameAwaited, hregrouped, ?_,
    hfree, hfree', hne, ?_⟩
  · exact (writeStmts_eq_iff plain_memberOfAwaited plain_memberAwaited).left.mpr hregrouped
  · intro hsame
    exact hne ((writeStmts_eq_iff plain_memberAwaited plain_nameAwaited).right hfree hfree' hsame)

/-- Not all lists of statements that are written alike are the same. -/
theorem not_forall_writeStmts_injective :
    ¬ forall first second : List Stmt,
      EveryIn Expr.Plain Binding.Plain first -> EveryIn Expr.Plain Binding.Plain second ->
      writeStmts {} first = writeStmts {} second -> first = second := by
  intro h
  have hsame : writeStmts {} memberOfAwaited = writeStmts {} memberAwaited := rfl
  cases h memberOfAwaited memberAwaited plain_memberOfAwaited plain_memberAwaited hsame

end Script
end RemoteImports
