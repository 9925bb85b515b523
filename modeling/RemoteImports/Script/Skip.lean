import RemoteImports.Script.Word

/-!
# Passing over parts of a script

Comments, text literals, templates and regular expressions are passed over whole, without
being read. Each function starts behind the opening of the part and gives back the text
behind its end; a part that does not end takes the rest of the script.

A template may hold substitutions, which hold code, which may hold templates: what is open
is kept as a stack.
-/

namespace RemoteImports
namespace Script

/-- The text from the end of the line. -/
def skipLine (cs : List Char) : List Char :=
  cs.dropWhile (· != '\n')

def skipBlock : List Char -> List Char
  | [] => []
  | '*' :: '/' :: cs => cs
  | _ :: cs => skipBlock cs

/-- The text behind the quote that ends a literal, or from the end of its line if none
does. A backslash takes the next character with it, and both characters of a line end. -/
def skipString (quote : Char) : List Char -> List Char
  | [] => []
  | '\\' :: '\r' :: '\n' :: cs => skipString quote cs
  | '\\' :: _ :: cs => skipString quote cs
  | c :: cs =>
    if c = '\n' then c :: cs
    else if c = quote then cs
    else skipString quote cs

/-- The text behind a regular expression and its flags, or from the end of its line. A
slash in a character class does not end it. -/
def skipRegex : (inClass : Bool) -> List Char -> List Char
  | _, [] => []
  | inClass, '\\' :: _ :: cs => skipRegex inClass cs
  | inClass, c :: cs =>
    if c = '[' then skipRegex true cs
    else if c = ']' then skipRegex false cs
    else if c = '/' ∧ !inClass then cs.dropWhile isWordPart
    else if c = '\n' then c :: cs
    else skipRegex inClass cs

theorem skipLine_suffix (cs : List Char) : skipLine cs <:+ cs :=
  List.dropWhile_suffix _

theorem skipBlock_suffix (cs : List Char) : skipBlock cs <:+ cs := by
  fun_induction skipBlock cs with
  | case1 =>
      exact List.suffix_rfl
  | case2 cs =>
      exact List.suffix_append ['*', '/'] cs
  | case3 c cs _ ih =>
      exact ih.trans (List.suffix_cons c cs)

/-- The same from behind the slash of a comment, whose star is not looked at again. -/
theorem skipBlock_drop_suffix (cs : List Char) : skipBlock (cs.drop 1) <:+ cs :=
  (skipBlock_suffix _).trans (List.drop_suffix 1 cs)

theorem skipString_suffix (quote : Char) (cs : List Char) : skipString quote cs <:+ cs := by
  fun_induction skipString quote cs with
  | case1 =>
      exact List.suffix_rfl
  | case2 cs ih =>
      exact ih.trans (List.suffix_append ['\\', '\r', '\n'] cs)
  | case3 c cs _ ih =>
      exact ih.trans (List.suffix_append ['\\', c] cs)
  | case4 =>
      exact List.suffix_rfl
  | case5 cs =>
      exact List.suffix_cons quote cs
  | case6 c cs _ _ _ _ ih =>
      exact ih.trans (List.suffix_cons c cs)

theorem skipRegex_suffix (inClass : Bool) (cs : List Char) : skipRegex inClass cs <:+ cs := by
  fun_induction skipRegex inClass cs with
  | case1 =>
      exact List.suffix_rfl
  | case2 inClass c cs ih =>
      exact ih.trans (List.suffix_append ['\\', c] cs)
  | case5 =>
      exact (List.dropWhile_suffix _).trans (List.suffix_cons _ _)
  | case6 =>
      exact List.suffix_rfl
  | _ =>
      exact List.IsSuffix.trans ‹_› (List.suffix_cons _ _)

/-- What is open inside a template: its text, or the code of a substitution with so many
braces. -/
inductive Open where
  | text
  | code (braces : Nat)

/-- The text behind the innermost part that is open, and all parts around it. -/
def skipOpen (stack : List Open) (cs : List Char) : List Char :=
  match stack, cs with
  | [], cs => cs
  | _, [] => []
  | .text :: stack, c :: cs =>
    if c = '`' then skipOpen stack cs
    else if c = '\\' then skipOpen (.text :: stack) (cs.drop 1)
    else if c = '$' ∧ cs.head? = some '{' then
      skipOpen (.code 1 :: .text :: stack) (cs.drop 1)
    else skipOpen (.text :: stack) cs
  | .code braces :: stack, c :: cs =>
    if c = '{' then skipOpen (.code (braces + 1) :: stack) cs
    else if c = '}' then
      if braces <= 1 then skipOpen stack cs else skipOpen (.code (braces - 1) :: stack) cs
    else if isQuote c then
      have := (skipString_suffix c cs).length_le
      skipOpen (.code braces :: stack) (skipString c cs)
    else if c = '`' then skipOpen (.text :: .code braces :: stack) cs
    else if c = '/' ∧ cs.head? = some '/' then
      have := (skipLine_suffix cs).length_le
      skipOpen (.code braces :: stack) (skipLine cs)
    else if c = '/' ∧ cs.head? = some '*' then
      have := (skipBlock_drop_suffix cs).length_le
      skipOpen (.code braces :: stack) (skipBlock (cs.drop 1))
    else skipOpen (.code braces :: stack) cs
termination_by cs.length
decreasing_by all_goals (simp only [List.length_cons, List.length_drop] at *; omega)

/-- The text behind a template, from behind its opening backtick. -/
def skipTemplate (cs : List Char) : List Char :=
  skipOpen [.text] cs

theorem skipOpen_suffix (stack : List Open) (cs : List Char) : skipOpen stack cs <:+ cs := by
  fun_induction skipOpen stack cs with
  | case1 =>
      exact List.suffix_rfl
  | case2 =>
      exact List.suffix_rfl
  | case4 _ cs _ ih =>
      exact (ih.trans (List.drop_suffix 1 cs)).trans (List.suffix_cons _ cs)
  | case5 _ _ cs _ _ _ ih =>
      exact (ih.trans (List.drop_suffix 1 cs)).trans (List.suffix_cons _ cs)
  | case10 _ _ c cs _ _ _ _ ih =>
      exact (ih.trans (skipString_suffix c cs)).trans (List.suffix_cons _ cs)
  | case12 _ _ _ cs _ _ _ _ _ _ ih =>
      exact (ih.trans (skipLine_suffix cs)).trans (List.suffix_cons _ cs)
  | case13 _ _ _ cs _ _ _ _ _ _ _ ih =>
      exact (ih.trans (skipBlock_drop_suffix cs)).trans (List.suffix_cons _ cs)
  | _ =>
      exact List.IsSuffix.trans ‹_› (List.suffix_cons _ _)

theorem skipTemplate_suffix (cs : List Char) : skipTemplate cs <:+ cs :=
  skipOpen_suffix _ cs

def skipTrivia (cs : List Char) : List Char :=
  match cs with
  | [] => []
  | c :: cs =>
    if isBlank c then skipTrivia cs
    else if c = '/' ∧ cs.head? = some '/' then
      have := (skipLine_suffix cs).length_le
      skipTrivia (skipLine cs)
    else if c = '/' ∧ cs.head? = some '*' then
      have := (skipBlock_drop_suffix cs).length_le
      skipTrivia (skipBlock (cs.drop 1))
    else c :: cs
termination_by cs.length
decreasing_by all_goals (simp only [List.length_cons] at *; omega)

theorem skipTrivia_suffix (cs : List Char) : skipTrivia cs <:+ cs := by
  fun_induction skipTrivia cs with
  | case1 =>
      exact List.suffix_rfl
  | case2 c cs _ ih =>
      exact ih.trans (List.suffix_cons c cs)
  | case3 _ cs _ _ _ ih =>
      exact (ih.trans (skipLine_suffix cs)).trans (List.suffix_cons _ cs)
  | case4 _ cs _ _ _ _ ih =>
      exact (ih.trans (skipBlock_drop_suffix cs)).trans (List.suffix_cons _ cs)
  | case5 =>
      exact List.suffix_rfl

end Script
end RemoteImports
