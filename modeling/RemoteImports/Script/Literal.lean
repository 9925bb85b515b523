import RemoteImports.Script.Word
import RemoteImports.Text.Ascii

/-!
# Text literals

A text between quotes, in both directions. A literal is written between double quotes,
with an escape for a quote, a backslash and each control character. It is read in either
kind of quotes and with every escape of the language, save that a surrogate has no value
here.
-/

namespace RemoteImports
namespace Script

/-!
## Writing
-/

def isControl (c : Char) : Bool :=
  c.toNat < 0x20 || (0x7F <= c.toNat && c.toNat < 0xA0)

def writeChar (c : Char) : List Char :=
  if c = '\\' then ['\\', '\\']
  else if c = '"' then ['\\', '"']
  else if c = '\n' then ['\\', 'n']
  else if c = '\r' then ['\\', 'r']
  else if c = '\t' then ['\\', 't']
  else if c.toNat = 0 then ['\\', '0']
  else if isControl c then ['\\', 'u'] ++ Text.hexDigits 4 c.toNat
  else [c]

def writeLiteral (text : List Char) : List Char :=
  '"' :: (text.flatMap writeChar ++ ['"'])

/-!
## Reading
-/

def readFixed? (count : Nat) (cs : List Char) : Option (Char × List Char) := do
  if cs.length < count then none
  else return (<- Text.scalar? (<- Text.hexValue? (cs.take count)), cs.drop count)

/-- The character of hexadecimal digits up to a closing brace; there must be a digit. -/
def readBraced? (cs : List Char) : Option (Char × List Char) :=
  let digits := cs.takeWhile (· != '}')
  match cs.dropWhile (· != '}') with
  | [] => none
  | _ :: rest => do
    if digits.isEmpty then none
    else return (<- Text.scalar? (<- Text.hexValue? digits), rest)

def escape? (c : Char) : Option Char :=
  match c with
  | 'n' => some '\n'
  | 't' => some '\t'
  | 'r' => some '\r'
  | 'b' => some '\x08'
  | 'f' => some '\x0C'
  | 'v' => some '\x0B'
  | '0' => some '\x00'
  | _ => none

/-- Reads what follows a backslash: no character, where a line goes on behind it, or one.
-/
def readEscape? : List Char -> Option (List Char × List Char)
  | [] => none
  | 'x' :: cs => (readFixed? 2 cs).map fun (c, rest) => ([c], rest)
  | 'u' :: '{' :: cs => (readBraced? cs).map fun (c, rest) => ([c], rest)
  | 'u' :: cs => (readFixed? 4 cs).map fun (c, rest) => ([c], rest)
  | '\r' :: '\n' :: cs => some ([], cs)
  | c :: cs =>
    if c = '\n' ∨ c = '\r' ∨ c.toNat = 0x2028 ∨ c.toNat = 0x2029 then some ([], cs)
    else some ([(escape? c).getD c], cs)

theorem readFixed?_suffix {count : Nat} {cs rest : List Char} {c : Char}
    (h : readFixed? count cs = some (c, rest)) : rest <:+ cs := by
  unfold readFixed? at h
  split at h
  · simp at h
  · simp only [Option.bind_eq_bind, Option.bind_eq_some_iff, Option.pure_def, Option.some.injEq,
      Prod.mk.injEq] at h
    rcases h with ⟨_, _, _, _, _, rfl⟩
    exact List.drop_suffix count cs

theorem readBraced?_suffix {cs rest : List Char} {c : Char}
    (h : readBraced? cs = some (c, rest)) : rest <:+ cs := by
  simp only [readBraced?] at h
  split at h
  · simp at h
  · rename_i brace rest' hd
    split at h
    · simp at h
    · simp only [Option.bind_eq_bind, Option.bind_eq_some_iff, Option.pure_def, Option.some.injEq,
        Prod.mk.injEq] at h
      rcases h with ⟨_, _, _, _, _, rfl⟩
      have hdrop : brace :: rest' <:+ cs := hd ▸ List.dropWhile_suffix _
      exact (List.suffix_cons brace rest').trans hdrop

theorem readEscape?_suffix {cs value rest : List Char}
    (h : readEscape? cs = some (value, rest)) : rest <:+ cs := by
  unfold readEscape? at h
  split at h
  · simp at h
  · simp only [Option.map_eq_some_iff, Prod.exists, Prod.mk.injEq] at h
    rcases h with ⟨c, r, hr, _, rfl⟩
    exact (readFixed?_suffix hr).trans (List.suffix_cons 'x' _)
  · simp only [Option.map_eq_some_iff, Prod.exists, Prod.mk.injEq] at h
    rcases h with ⟨c, r, hr, _, rfl⟩
    exact (readBraced?_suffix hr).trans (List.suffix_append ['u', '{'] _)
  · simp only [Option.map_eq_some_iff, Prod.exists, Prod.mk.injEq] at h
    rcases h with ⟨c, r, hr, _, rfl⟩
    exact (readFixed?_suffix hr).trans (List.suffix_cons 'u' _)
  · simp only [Option.some.injEq, Prod.mk.injEq] at h
    rcases h with ⟨_, rfl⟩
    exact List.suffix_append ['\r', '\n'] _
  · rename_i c cs _ _ _ _
    split at h
    · simp only [Option.some.injEq, Prod.mk.injEq] at h
      exact h.2 ▸ List.suffix_cons c cs
    · simp only [Option.some.injEq, Prod.mk.injEq] at h
      exact h.2 ▸ List.suffix_cons c cs

/-- Reads a literal from behind its opening quote: its value, and the text behind its
closing quote. -/
def readLiteral? (quote : Char) (cs : List Char) : Option (List Char × List Char) :=
  match cs with
  | [] => none
  | c :: cs =>
    if c = quote then some ([], cs)
    else if c = '\\' then
      match h : readEscape? cs with
      | none => none
      | some (value, rest) =>
        have := (readEscape?_suffix h).length_le
        (readLiteral? quote rest).map fun (text, rest) => (value ++ text, rest)
    else if c = '\n' then none
    else (readLiteral? quote cs).map fun (text, rest) => (c :: text, rest)
termination_by cs.length
decreasing_by all_goals (simp only [List.length_cons] at *; omega)

def literal? : List Char -> Option (List Char × List Char)
  | [] => none
  | c :: cs => if isQuote c then readLiteral? c cs else none

theorem readLiteral?_suffix {quote : Char} {cs value rest : List Char}
    (h : readLiteral? quote cs = some (value, rest)) : rest <:+ cs := by
  fun_induction readLiteral? quote cs generalizing value rest with
  | case1 =>
      simp at h
  | case2 cs =>
      simp only [Option.some.injEq, Prod.mk.injEq] at h
      exact h.2 ▸ List.suffix_cons quote cs
  | case3 =>
      simp at h
  | case4 cs _ _ he _ _ ih =>
      simp only [Option.map_eq_some_iff, Prod.exists, Prod.mk.injEq] at h
      rcases h with ⟨_, r, hr, _, rfl⟩
      exact ((ih hr).trans (readEscape?_suffix he)).trans (List.suffix_cons '\\' cs)
  | case5 =>
      simp at h
  | case6 c cs _ _ _ ih =>
      simp only [Option.map_eq_some_iff, Prod.exists, Prod.mk.injEq] at h
      rcases h with ⟨_, r, hr, _, rfl⟩
      exact (ih hr).trans (List.suffix_cons c cs)

theorem literal?_suffix {cs value rest : List Char} (h : literal? cs = some (value, rest)) :
    rest <:+ cs := by
  cases cs with
  | nil =>
      simp [literal?] at h
  | cons c cs =>
      simp only [literal?] at h
      split at h
      · exact (readLiteral?_suffix h).trans (List.suffix_cons c cs)
      · simp at h

end Script
end RemoteImports
