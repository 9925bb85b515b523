/-!
# Words and blanks of a script

The words of a script, as far as finding its imports needs them: runs of letters, digits,
`_`, `$` and of any characters beyond ASCII. What lies beyond ASCII is not looked at
closer, so a blank is an ASCII one.
-/

namespace RemoteImports
namespace Script

/-- A blank of ASCII: space, tab, line feed, carriage return or form feed. -/
def isBlank (c : Char) : Bool :=
  c == ' ' || c == '\t' || c == '\n' || c == '\r' || c.toNat == 12

def isWordStart (c : Char) : Bool :=
  c.isAlpha || c == '_' || c == '$' || 0x80 <= c.toNat

def isWordPart (c : Char) : Bool :=
  isWordStart c || c.isDigit

def isQuote (c : Char) : Bool :=
  c == '"' || c == '\''

def word? : List Char -> Option (List Char × List Char)
  | [] => none
  | c :: cs =>
    if isWordStart c then some (c :: cs.takeWhile isWordPart, cs.dropWhile isWordPart) else none

/-- What follows a given word at the front of a text, if that word is there. -/
def after? (word : List Char) (cs : List Char) : Option (List Char) :=
  match word? cs with
  | some (found, rest) => if found = word then some rest else none
  | none => none

theorem word?_append {cs word rest : List Char} (h : word? cs = some (word, rest)) :
    word ++ rest = cs := by
  cases cs with
  | nil =>
      simp [word?] at h
  | cons c cs =>
      simp only [word?] at h
      split at h
      · simp only [Option.some.injEq, Prod.mk.injEq] at h
        rcases h with ⟨rfl, rfl⟩
        simp
      · simp at h

theorem word?_suffix {cs word rest : List Char} (h : word? cs = some (word, rest)) :
    rest <:+ cs :=
  ⟨word, word?_append h⟩

theorem after?_append {word cs rest : List Char} (h : after? word cs = some rest) :
    word ++ rest = cs := by
  unfold after? at h
  cases hw : word? cs with
  | none =>
      simp [hw] at h
  | some p =>
      rcases p with ⟨found, left⟩
      simp only [hw] at h
      split at h
      · rename_i hfound
        simp only [Option.some.injEq] at h
        exact hfound ▸ h ▸ word?_append hw
      · simp at h

theorem after?_suffix {word cs rest : List Char} (h : after? word cs = some rest) :
    rest <:+ cs :=
  ⟨word, after?_append h⟩

end Script
end RemoteImports
