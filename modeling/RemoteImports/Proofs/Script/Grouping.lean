import RemoteImports.Proofs.Script.Parts
import RemoteImports.Proofs.Script.Trivia

/-!
# Grouping of expressions

No parentheses are written, so an expression is not told from one that is put
together from the same parts in another order.  A dot or arguments behind an
`await` or an assignment belong to their last operand, an `await` before an
assignment belongs to its target, and assignments are grouped to the right.
Every expression can be regrouped like that, and is written as before.
-/

namespace RemoteImports
namespace Script

/-!
# Names and comments
-/

def reservedWords : List String :=
  ["await", "break", "case", "catch", "class", "const", "continue", "debugger", "default",
    "delete", "do", "else", "enum", "export", "extends", "false", "finally", "for", "function",
    "if", "import", "in", "instanceof", "let", "new", "null", "return", "super", "switch",
    "this", "throw", "true", "try", "typeof", "var", "void", "while", "with", "yield"]

structure IsVariable (name : String) : Prop where
  word : IsWord name.toList
  free : name ∉ reservedWords

mutual

/-- The expression has no comments, each name in it is a word, and its variables
are no reserved words. -/
def Expr.Plain : Expr -> Prop
  | .name name => IsVariable name
  | .text _ => True
  | .member object property => object.Plain ∧ IsWord property.toList
  | .call callee arguments => callee.Plain ∧ ArgumentsPlain arguments
  | .load address => address.Plain
  | .await argument => argument.Plain
  | .assign target value => target.Plain ∧ value.Plain
  | .commented _ _ => False

def ArgumentsPlain : List Expr -> Prop
  | [] => True
  | expr :: exprs => expr.Plain ∧ ArgumentsPlain exprs

end

/-!
# Expressions without parentheses
-/

def Expr.isPostfix : Expr -> Bool
  | .await _ | .assign _ _ => false
  | _ => true

def Expr.isUnary : Expr -> Bool
  | .assign _ _ => false
  | _ => true

mutual

/-- Nothing in the expression would have to stand in parentheses. -/
def Expr.ParenFree : Expr -> Prop
  | .name _ => True
  | .text _ => True
  | .member object _ => object.isPostfix = true ∧ object.ParenFree
  | .call callee arguments =>
      callee.isPostfix = true ∧ callee.ParenFree ∧ ArgumentsParenFree arguments
  | .load address => address.ParenFree
  | .await argument => argument.isUnary = true ∧ argument.ParenFree
  | .assign target value => target.isUnary = true ∧ target.ParenFree ∧ value.ParenFree
  | .commented _ expr => expr.ParenFree

def ArgumentsParenFree : List Expr -> Prop
  | [] => True
  | expr :: exprs => expr.ParenFree ∧ ArgumentsParenFree exprs

end

/-!
# Regrouping
-/

def Expr.suffixed (suffix : Expr -> Expr) : Expr -> Expr
  | .await argument => .await (argument.suffixed suffix)
  | .assign target value => .assign target (value.suffixed suffix)
  | expr => suffix expr

def Expr.awaited : Expr -> Expr
  | .assign target value => .assign (.await target) value
  | expr => .await expr

def Expr.assigned : Expr -> Expr -> Expr
  | .assign target middle, value => .assign target (middle.assigned value)
  | expr, value => .assign expr value

mutual

def Expr.regrouped : Expr -> Expr
  | .name name => .name name
  | .text value => .text value
  | .member object property => object.regrouped.suffixed (.member · property)
  | .call callee arguments => callee.regrouped.suffixed (.call · (regroupedAll arguments))
  | .load address => .load address.regrouped
  | .await argument => argument.regrouped.awaited
  | .assign target value => target.regrouped.assigned value.regrouped
  | .commented comment expr => .commented comment expr.regrouped

def regroupedAll : List Expr -> List Expr
  | [] => []
  | expr :: exprs => expr.regrouped :: regroupedAll exprs

end

section

variable {suffix : Expr -> Expr} {text : List Char}

/-!
# What is written for a regrouped expression
-/

theorem writeExpr_member (object : Expr) (property : String) :
    writeExpr (.member object property) = writeExpr object ++ '.' :: property.toList := rfl

theorem writeExpr_call (callee : Expr) (arguments : List Expr) :
    writeExpr (.call callee arguments) = writeExpr callee ++
      '(' :: (separated [',', ' '] (writeArguments arguments) ++ [')']) := rfl

theorem writeExpr_load (address : Expr) :
    writeExpr (.load address) = "import(".toList ++ writeExpr address ++ [')'] := rfl

theorem writeExpr_await (argument : Expr) :
    writeExpr (.await argument) = "await ".toList ++ writeExpr argument := rfl

theorem writeExpr_assign (target value : Expr) :
    writeExpr (.assign target value) = writeExpr target ++ " = ".toList ++ writeExpr value := rfl

theorem writeExpr_suffixed
    (hsuffix : forall expr, writeExpr (suffix expr) = writeExpr expr ++ text) (expr : Expr) :
    writeExpr (expr.suffixed suffix) = writeExpr expr ++ text := by
  fun_induction expr.suffixed suffix with
  | case1 argument ih =>
      rw [writeExpr_await, writeExpr_await, ih, List.append_assoc]
  | case2 target value ih =>
      rw [writeExpr_assign, writeExpr_assign, ih, ← List.append_assoc]
  | case3 expr =>
      exact hsuffix expr

theorem writeExpr_awaited (expr : Expr) :
    writeExpr expr.awaited = "await ".toList ++ writeExpr expr := by
  fun_cases Expr.awaited expr with
  | case1 target value =>
      rw [writeExpr_assign, writeExpr_await, writeExpr_assign, List.append_assoc,
        List.append_assoc, List.append_assoc]
  | case2 =>
      exact writeExpr_await expr

theorem writeExpr_assigned (expr value : Expr) :
    writeExpr (expr.assigned value) = writeExpr expr ++ " = ".toList ++ writeExpr value := by
  fun_induction Expr.assigned expr value with
  | case1 target middle value ih =>
      rw [writeExpr_assign, writeExpr_assign, ih]
      simp only [List.append_assoc]
  | case2 expr value =>
      exact writeExpr_assign expr value

mutual

theorem writeExpr_regrouped (expr : Expr) : writeExpr expr.regrouped = writeExpr expr := by
  cases expr with
  | name name =>
      rfl
  | text value =>
      rfl
  | member object property =>
      rw [Expr.regrouped, writeExpr_suffixed fun expr => writeExpr_member expr property,
        writeExpr_regrouped object, writeExpr_member]
  | call callee arguments =>
      rw [Expr.regrouped, writeExpr_suffixed fun expr => writeExpr_call expr _,
        writeExpr_regrouped callee, writeArguments_regroupedAll arguments, writeExpr_call]
  | load address =>
      rw [Expr.regrouped, writeExpr_load, writeExpr_load, writeExpr_regrouped address]
  | await argument =>
      rw [Expr.regrouped, writeExpr_awaited, writeExpr_await, writeExpr_regrouped argument]
  | assign target value =>
      rw [Expr.regrouped, writeExpr_assigned, writeExpr_assign, writeExpr_regrouped target,
        writeExpr_regrouped value]
  | commented comment expr =>
      have hexpr := writeExpr_regrouped expr
      unfold Expr.regrouped writeExpr
      rw [hexpr]

theorem writeArguments_regroupedAll (exprs : List Expr) :
    writeArguments (regroupedAll exprs) = writeArguments exprs := by
  cases exprs with
  | nil =>
      rfl
  | cons expr exprs =>
      rw [regroupedAll, writeArguments, writeArguments, writeExpr_regrouped expr,
        writeArguments_regroupedAll exprs]

end

/-!
# What a regrouped expression is made of
-/

theorem Expr.isUnary_iff {expr : Expr} :
    expr.isUnary = true <-> forall target value, expr ≠ .assign target value := by
  cases expr with
  | assign target value =>
      simp [isUnary]
  | _ =>
      simp [isUnary]

theorem Expr.isPostfix_iff {expr : Expr} :
    expr.isPostfix = true <->
      (forall argument, expr ≠ .await argument) ∧
        forall target value, expr ≠ .assign target value := by
  cases expr with
  | await argument =>
      simp [isPostfix]
  | assign target value =>
      simp [isPostfix]
  | _ =>
      simp [isPostfix]

theorem Expr.ParenFree.suffixed
    (hsuffix : forall expr : Expr, expr.isPostfix = true -> expr.ParenFree ->
      (suffix expr).isUnary = true ∧ (suffix expr).ParenFree)
    {expr : Expr} (h : expr.ParenFree) :
    (expr.isUnary = true -> (expr.suffixed suffix).isUnary = true) ∧
      (expr.suffixed suffix).ParenFree := by
  fun_induction expr.suffixed suffix with
  | case1 argument ih =>
      rcases ih h.right with ⟨hunary, hfree⟩
      exact ⟨fun _ => rfl, hunary h.left, hfree⟩
  | case2 target value ih =>
      refine ⟨?_, h.left, h.right.left, (ih h.right.right).right⟩
      rintro ⟨⟩
  | case3 expr hawait hassign =>
      rcases hsuffix expr (isPostfix_iff.mpr ⟨hawait, hassign⟩) h with ⟨hunary, hfree⟩
      exact ⟨fun _ => hunary, hfree⟩

theorem Expr.ParenFree.awaited {expr : Expr} (h : expr.ParenFree) : expr.awaited.ParenFree := by
  fun_cases Expr.awaited expr with
  | case1 target value =>
      exact ⟨rfl, ⟨h.left, h.right.left⟩, h.right.right⟩
  | case2 _ hassign =>
      exact ⟨isUnary_iff.mpr hassign, h⟩

theorem Expr.ParenFree.assigned {expr value : Expr} (h : expr.ParenFree)
    (hvalue : value.ParenFree) : (expr.assigned value).ParenFree := by
  fun_induction Expr.assigned expr value with
  | case1 target middle value ih =>
      exact ⟨h.left, h.right.left, ih h.right.right hvalue⟩
  | case2 expr value hassign =>
      exact ⟨isUnary_iff.mpr hassign, h, hvalue⟩

mutual

theorem parenFree_regrouped (expr : Expr) : expr.regrouped.ParenFree := by
  cases expr with
  | name name =>
      trivial
  | text value =>
      trivial
  | member object property =>
      have hsuffix : forall expr : Expr, expr.isPostfix = true -> expr.ParenFree ->
          (Expr.member expr property).isUnary = true ∧ (Expr.member expr property).ParenFree :=
        fun _ hpostfix hfree => ⟨rfl, hpostfix, hfree⟩
      exact ((parenFree_regrouped object).suffixed hsuffix).right
  | call callee arguments =>
      have harguments := parenFree_regroupedAll arguments
      have hsuffix : forall expr : Expr, expr.isPostfix = true -> expr.ParenFree ->
          (Expr.call expr (regroupedAll arguments)).isUnary = true ∧
            (Expr.call expr (regroupedAll arguments)).ParenFree :=
        fun _ hpostfix hfree => ⟨rfl, hpostfix, hfree, harguments⟩
      exact ((parenFree_regrouped callee).suffixed hsuffix).right
  | load address =>
      exact parenFree_regrouped address
  | await argument =>
      exact (parenFree_regrouped argument).awaited
  | assign target value =>
      exact (parenFree_regrouped target).assigned (parenFree_regrouped value)
  | commented comment expr =>
      exact parenFree_regrouped expr

theorem parenFree_regroupedAll (exprs : List Expr) :
    ArgumentsParenFree (regroupedAll exprs) := by
  cases exprs with
  | nil =>
      trivial
  | cons expr exprs =>
      exact ⟨parenFree_regrouped expr, parenFree_regroupedAll exprs⟩

end

theorem Expr.Plain.suffixed
    (hsuffix : forall expr : Expr, expr.Plain -> (suffix expr).Plain) {expr : Expr}
    (h : expr.Plain) : (expr.suffixed suffix).Plain := by
  fun_induction expr.suffixed suffix with
  | case1 argument ih =>
      exact ih h
  | case2 target value ih =>
      exact ⟨h.left, ih h.right⟩
  | case3 expr =>
      exact hsuffix expr h

theorem Expr.Plain.awaited {expr : Expr} (h : expr.Plain) : expr.awaited.Plain := by
  fun_cases Expr.awaited expr with
  | case1 target value =>
      exact h
  | case2 =>
      exact h

theorem Expr.Plain.assigned {expr value : Expr} (h : expr.Plain) (hvalue : value.Plain) :
    (expr.assigned value).Plain := by
  fun_induction Expr.assigned expr value with
  | case1 target middle value ih =>
      exact ⟨h.left, ih h.right hvalue⟩
  | case2 =>
      exact ⟨h, hvalue⟩

mutual

theorem plain_regrouped (expr : Expr) (h : expr.Plain) : expr.regrouped.Plain := by
  cases expr with
  | name name =>
      exact h
  | text value =>
      trivial
  | member object property =>
      have hsuffix : forall expr : Expr, expr.Plain -> (Expr.member expr property).Plain :=
        fun _ hobject => ⟨hobject, h.right⟩
      exact (plain_regrouped object h.left).suffixed hsuffix
  | call callee arguments =>
      have harguments := plain_regroupedAll arguments h.right
      have hsuffix : forall expr : Expr, expr.Plain ->
          (Expr.call expr (regroupedAll arguments)).Plain :=
        fun _ hcallee => ⟨hcallee, harguments⟩
      exact (plain_regrouped callee h.left).suffixed hsuffix
  | load address =>
      exact plain_regrouped address h
  | await argument =>
      exact (plain_regrouped argument h).awaited
  | assign target value =>
      exact (plain_regrouped target h.left).assigned (plain_regrouped value h.right)
  | commented comment expr =>
      exact h.elim

theorem plain_regroupedAll (exprs : List Expr) (h : ArgumentsPlain exprs) :
    ArgumentsPlain (regroupedAll exprs) := by
  cases exprs with
  | nil =>
      trivial
  | cons expr exprs =>
      exact ⟨plain_regrouped expr h.left, plain_regroupedAll exprs h.right⟩

end

/-!
# Expressions that stay as they are
-/

theorem Expr.suffixed_of_isPostfix {expr : Expr} (h : expr.isPostfix = true)
    (suffix : Expr -> Expr) : expr.suffixed suffix = suffix expr := by
  cases expr with
  | await argument =>
      cases h
  | assign target value =>
      cases h
  | _ =>
      rfl

theorem Expr.awaited_of_isUnary {expr : Expr} (h : expr.isUnary = true) :
    expr.awaited = .await expr := by
  cases expr with
  | assign target value =>
      cases h
  | _ =>
      rfl

theorem Expr.assigned_of_isUnary {expr : Expr} (h : expr.isUnary = true) (value : Expr) :
    expr.assigned value = .assign expr value := by
  cases expr with
  | assign target value =>
      cases h
  | _ =>
      rfl

mutual

theorem regrouped_of_parenFree (expr : Expr) (h : expr.ParenFree) :
    expr.regrouped = expr := by
  cases expr with
  | name name =>
      rfl
  | text value =>
      rfl
  | member object property =>
      rw [Expr.regrouped, regrouped_of_parenFree object h.right, Expr.suffixed_of_isPostfix h.left]
  | call callee arguments =>
      rw [Expr.regrouped, regrouped_of_parenFree callee h.right.left,
        regroupedAll_of_parenFree arguments h.right.right,
        Expr.suffixed_of_isPostfix h.left]
  | load address =>
      rw [Expr.regrouped, regrouped_of_parenFree address h]
  | await argument =>
      rw [Expr.regrouped, regrouped_of_parenFree argument h.right, Expr.awaited_of_isUnary h.left]
  | assign target value =>
      rw [Expr.regrouped, regrouped_of_parenFree target h.right.left,
        regrouped_of_parenFree value h.right.right, Expr.assigned_of_isUnary h.left]
  | commented comment expr =>
      rw [Expr.regrouped, regrouped_of_parenFree expr h]

theorem regroupedAll_of_parenFree (exprs : List Expr) (h : ArgumentsParenFree exprs) :
    regroupedAll exprs = exprs := by
  cases exprs with
  | nil =>
      rfl
  | cons expr exprs =>
      rw [regroupedAll, regrouped_of_parenFree expr h.left,
        regroupedAll_of_parenFree exprs h.right]

end

end

end Script
end RemoteImports
