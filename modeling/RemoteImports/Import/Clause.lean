import RemoteImports.Import.Declaration
import RemoteImports.Script.Literal
import RemoteImports.Script.Skip

/-!
# Reading a declaration

Reading an import declaration from behind the word `import`. Blanks and comments may stand
between any two tokens. A declaration that is about types only, or that carries
attributes, is not read.

Each reader gives back the end of the text it was given, which is what ends the loops over
them and what the places of declarations are measured by.
-/

namespace RemoteImports
namespace Import

open Script

/-- What a declaration says: its bindings and the module. -/
structure Clause where
  specifiers : List Specifier
  source : String

/-- Reads the word `as` and the name behind it, and passes over what follows the name. -/
def binding? (cs : List Char) : Option (String × List Char) := do
  let rest <- after? ['a', 's'] cs
  let (name, rest) <- word? (skipTrivia rest)
  return (String.ofList name, skipTrivia rest)

/-- Whether a word other than the given one stands at the front of a text. -/
def hasOtherWord (word : List Char) (cs : List Char) : Bool :=
  match word? cs with
  | some (found, _) => found != word
  | none => false

/-- Reads one entry between braces: a word or a literal, and what it is bound to. A
literal must be bound to a word, and a word behind `type` must be `as`. -/
def braced? (cs : List Char) : Option (Specifier × List Char) :=
  match literal? cs with
  | some (name, rest) => do
    let (binding, rest) <- binding? (skipTrivia rest)
    return (.named (String.ofList name) binding, rest)
  | none => do
    let (name, rest) <- word? cs
    let rest := skipTrivia rest
    if name = ['t', 'y', 'p', 'e'] ∧ hasOtherWord ['a', 's'] rest then none
    else match after? ['a', 's'] rest with
      | some _ => do
        let (binding, rest) <- binding? rest
        return (.named (String.ofList name) binding, rest)
      | none => return (.named (String.ofList name) (String.ofList name), rest)

theorem binding?_suffix {cs rest : List Char} {name : String}
    (h : binding? cs = some (name, rest)) : rest <:+ cs := by
  simp only [binding?, Option.bind_eq_bind, Option.bind_eq_some_iff, Option.pure_def,
    Option.some.injEq, Prod.mk.injEq, Prod.exists] at h
  rcases h with ⟨r1, h1, name', r2, h2, _, rfl⟩
  have hname := (word?_suffix h2).trans (skipTrivia_suffix r1)
  exact (skipTrivia_suffix r2).trans (hname.trans (after?_suffix h1))

theorem braced?_suffix {cs rest : List Char} {specifier : Specifier}
    (h : braced? cs = some (specifier, rest)) : rest <:+ cs := by
  unfold braced? at h
  split at h
  · rename_i name r1 h1
    simp only [Option.bind_eq_bind, Option.bind_eq_some_iff, Option.pure_def,
      Option.some.injEq, Prod.mk.injEq, Prod.exists] at h
    rcases h with ⟨binding, r2, h2, _, rfl⟩
    exact (binding?_suffix h2).trans ((skipTrivia_suffix r1).trans (literal?_suffix h1))
  · simp only [Option.bind_eq_bind, Option.bind_eq_some_iff, Prod.exists] at h
    rcases h with ⟨name, r1, h1, h⟩
    have hname := (skipTrivia_suffix r1).trans (word?_suffix h1)
    split at h
    · simp at h
    · split at h
      · simp only [Option.bind_eq_some_iff, Option.pure_def,
          Option.some.injEq, Prod.mk.injEq, Prod.exists] at h
        rcases h with ⟨binding, r2, h2, _, rfl⟩
        exact (binding?_suffix h2).trans hname
      · simp only [Option.pure_def, Option.some.injEq, Prod.mk.injEq] at h
        rcases h with ⟨_, rfl⟩
        exact hname

/-- Reads the entries behind an opening brace, and the closing brace. -/
def bracedList? (cs : List Char) : Option (List Specifier × List Char) :=
  match _ : skipTrivia cs with
  | [] => none
  | c :: inside =>
    if c = '}' then some ([], inside)
    else match _ : braced? (c :: inside) with
      | none => none
      | some (_, []) => none
      | some (specifier, d :: rest) =>
        if d = ',' then
          (bracedList? rest).map fun (specifiers, rest) => (specifier :: specifiers, rest)
        else if d = '}' then some ([specifier], rest)
        else none
termination_by cs.length
decreasing_by
  have l1 := (skipTrivia_suffix cs).length_le
  have l2 := (braced?_suffix ‹braced? _ = _›).length_le
  simp_all only [List.length_cons]
  omega

/-- Reads `* as` and a name, or entries between braces, and passes over what follows. -/
def group? : List Char -> Option (List Specifier × List Char)
  | '*' :: cs => do
    let (name, rest) <- binding? (skipTrivia cs)
    return ([.namespace name], rest)
  | '{' :: cs => do
    let (specifiers, rest) <- bracedList? cs
    return (specifiers, skipTrivia rest)
  | _ => none

/-- Reads all bindings of a declaration, and passes over what follows them. -/
def specifiers? (cs : List Char) : Option (List Specifier × List Char) :=
  match word? cs with
  | none => group? cs
  | some (name, rest) =>
    let first := Specifier.default (String.ofList name)
    match skipTrivia rest with
    | ',' :: rest => do
      let (specifiers, rest) <- group? (skipTrivia rest)
      return (first :: specifiers, rest)
    | rest => some ([first], rest)

/-- Whether the word `type` at the front makes a declaration one about types only: braces,
a star, or a word other than `from` follow it. -/
def isTypeOnly (cs : List Char) : Bool :=
  match after? ['t', 'y', 'p', 'e'] cs with
  | none => false
  | some rest =>
    let rest := skipTrivia rest
    rest.head? == some '{' || rest.head? == some '*' || hasOtherWord ['f', 'r', 'o', 'm'] rest

def hasAttributes (cs : List Char) : Bool :=
  match word? cs with
  | none => false
  | some (word, rest) =>
    (word == ['w', 'i', 't', 'h'] || word == ['a', 's', 's', 'e', 'r', 't'])
      && (skipTrivia rest).head? == some '{'

/-- What follows the module's name in a declaration: a semicolon on the same line belongs
to it. -/
def finish? (cs : List Char) : Option (List Char) :=
  let behind := cs.dropWhile fun c => c == ' ' || c == '\t'
  if hasAttributes behind then none
  else match behind with
    | ';' :: rest => some rest
    | _ => some cs

/-- Reads the name of the module and the end of the declaration. -/
def source? (cs : List Char) : Option (String × List Char) := do
  let (source, rest) <- literal? cs
  return (String.ofList source, <- finish? rest)

def clause? (cs : List Char) : Option (Clause × List Char) :=
  let cs := skipTrivia cs
  if (cs.head?.map isQuote).getD false then do
    let (source, rest) <- source? cs
    return ({ specifiers := [], source }, rest)
  else if isTypeOnly cs then none
  else do
    let (specifiers, rest) <- specifiers? cs
    let (source, rest) <- source? (skipTrivia (<- after? ['f', 'r', 'o', 'm'] rest))
    return ({ specifiers, source }, rest)

end Import
end RemoteImports
