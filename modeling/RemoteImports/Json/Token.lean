import RemoteImports.Json.Problem

/-!
# The tokens of JSON

Reading blanks, words and strings from the front of a text. A reader gives back what it
read and the text that is left, or stops.

A problem is placed by the number of bytes left when it was noticed. A character that was
only looked at counts as its first byte, whether it is taken or not.
-/

namespace RemoteImports
namespace Json

/-- Why and where a reading stops. A problem of the shape of a whole value is `pending`
until the container of the value has tried to go on: only then is its place known. -/
inductive Stop where
  | placed (problem : Problem) (left : Nat)
  | pending (problem : Problem) (rest : List Char)

abbrev Reader (α : Type) := List Char -> Except Stop (α × List Char)

/-- Stops where the reading stands. -/
def stopAt (problem : Problem) (rest : List Char) : Stop :=
  .placed problem (Text.byteLength rest)

/-- Stops at the first byte of the text that is left, which counts. -/
def stopOn (problem : Problem) (rest : List Char) : Stop :=
  .placed problem (Text.byteLength rest - 1)

def isBlank (c : Char) : Bool :=
  c == ' ' || c == '\n' || c == '\t' || c == '\r'

def skipBlanks (cs : List Char) : List Char :=
  cs.dropWhile isBlank

/-- Takes the given characters, and no others, from the front of a text. -/
def takeWord : List Char -> List Char -> Except Stop (List Char)
  | [], cs => .ok cs
  | _ :: _, [] => .error (stopAt .eofInValue [])
  | expected :: word, c :: cs =>
    if c = expected then takeWord word cs else .error (stopOn .expectedIdent (c :: cs))

def readHex (cs : List Char) : Except Stop (Nat × List Char) :=
  if Text.byteLength cs < 4 then .error (stopAt .eofInString [])
  else match Text.hexValue? (cs.take 4) with
    | some value => .ok (value, cs.drop 4)
    | none => .error (.placed .invalidEscape (Text.byteLength cs - 4))

def takeInString (expected : Char) (problem : Problem) : List Char -> Except Stop (List Char)
  | [] => .error (stopAt .eofInString [])
  | c :: cs => if c = expected then .ok cs else .error (stopOn problem (c :: cs))

/-- Reads what follows `\u` in a string: one group of digits, or two for a character
beyond the first plane. -/
def readUnicode (cs : List Char) : Except Stop (Char × List Char) := do
  let (high, rest) <- readHex cs
  if 0xDC00 <= high ∧ high <= 0xDFFF then .error (stopAt .loneSurrogate rest)
  else if high < 0xD800 ∨ 0xDBFF < high then .ok (Char.ofNat high, rest)
  else
    let rest <- takeInString '\\' .unfinishedSurrogate rest
    let rest <- takeInString 'u' .unfinishedSurrogate rest
    let (low, rest) <- readHex rest
    if low < 0xDC00 ∨ 0xDFFF < low then .error (stopAt .loneSurrogate rest)
    else .ok (Char.ofNat ((high - 0xD800) * 1024 + (low - 0xDC00) + 0x10000), rest)

def simpleEscape? (c : Char) : Option Char :=
  if c = '"' ∨ c = '\\' ∨ c = '/' then some c
  else if c = 'b' then some (Char.ofNat 8)
  else if c = 'f' then some (Char.ofNat 12)
  else if c = 'n' then some '\n'
  else if c = 'r' then some '\r'
  else if c = 't' then some '\t'
  else none

def readEscape : List Char -> Except Stop (Char × List Char)
  | [] => .error (stopAt .eofInString [])
  | c :: cs =>
    match simpleEscape? c with
    | some x => .ok (x, cs)
    | none => if c = 'u' then readUnicode cs else .error (stopOn .invalidEscape (c :: cs))

theorem readHex_length {cs rest : List Char} {n : Nat} (h : readHex cs = .ok (n, rest)) :
    rest.length <= cs.length := by
  unfold readHex at h
  split at h
  · simp at h
  · split at h
    · simp only [Except.ok.injEq, Prod.mk.injEq] at h
      rw [← h.2, List.length_drop]
      omega
    · simp at h

theorem takeInString_length {c : Char} {problem : Problem} {cs rest : List Char}
    (h : takeInString c problem cs = .ok rest) : rest.length <= cs.length := by
  cases cs with
  | nil =>
      simp [takeInString] at h
  | cons d cs =>
      simp only [takeInString] at h
      split at h
      · simp only [Except.ok.injEq] at h
        subst h
        simp
      · simp at h

theorem readUnicode_length {cs rest : List Char} {c : Char}
    (h : readUnicode cs = .ok (c, rest)) : rest.length <= cs.length := by
  unfold readUnicode at h
  cases h1 : readHex cs with
  | error e =>
      simp [h1, bind, Except.bind] at h
  | ok p =>
      rcases p with ⟨high, r1⟩
      have l1 := readHex_length h1
      simp only [h1, bind, Except.bind] at h
      split at h
      · simp at h
      split at h
      · simp only [Except.ok.injEq, Prod.mk.injEq] at h
        exact h.2 ▸ l1
      cases h2 : takeInString '\\' .unfinishedSurrogate r1 with
      | error e =>
          simp [h2] at h
      | ok r2 =>
          have l2 := takeInString_length h2
          simp only [h2] at h
          cases h3 : takeInString 'u' .unfinishedSurrogate r2 with
          | error e =>
              simp [h3] at h
          | ok r3 =>
              have l3 := takeInString_length h3
              simp only [h3] at h
              cases h4 : readHex r3 with
              | error e =>
                  simp [h4] at h
              | ok p =>
                  rcases p with ⟨low, r4⟩
                  have l4 := readHex_length h4
                  simp only [h4] at h
                  split at h
                  · simp at h
                  · simp only [Except.ok.injEq, Prod.mk.injEq] at h
                    rw [← h.2]
                    omega

theorem readEscape_length {cs rest : List Char} {c : Char}
    (h : readEscape cs = .ok (c, rest)) : rest.length <= cs.length := by
  cases cs with
  | nil =>
      simp [readEscape] at h
  | cons d cs =>
      simp only [readEscape] at h
      split at h
      · simp only [Except.ok.injEq, Prod.mk.injEq] at h
        simp [← h.2]
      · split at h
        · have := readUnicode_length h
          simp only [List.length_cons]
          omega
        · simp at h

def prepend (c : Char) (read : Except Stop (List Char × List Char)) :
    Except Stop (List Char × List Char) :=
  read.map fun (cs, rest) => (c :: cs, rest)

/-- Reads a string from behind its opening quote to behind its closing one. -/
def readString (cs : List Char) : Except Stop (List Char × List Char) :=
  match cs with
  | [] => .error (stopAt .eofInString [])
  | c :: cs =>
    if c = '"' then .ok ([], cs)
    else if c = '\\' then
      match h : readEscape cs with
      | .error stop => .error stop
      | .ok (x, rest) =>
        have := readEscape_length h
        prepend x (readString rest)
    else if c.toNat < 0x20 then .error (stopAt .controlCharacter cs)
    else prepend c (readString cs)
termination_by cs.length
decreasing_by all_goals (simp_wf <;> omega)

/-- Passes over a string from behind its opening quote to behind its closing one. Escaped
surrogates need not be paired here, and a control character does not count itself. -/
def skipString (cs : List Char) : Except Stop (List Char) :=
  match cs with
  | [] => .error (stopAt .eofInString [])
  | c :: cs =>
    if c = '"' then .ok cs
    else if c = '\\' then
      match cs with
      | [] => .error (stopAt .eofInString [])
      | d :: cs =>
        if (simpleEscape? d).isSome then skipString cs
        else if d = 'u' then
          match h : readHex cs with
          | .error stop => .error stop
          | .ok (_, rest) =>
            have := readHex_length h
            skipString rest
        else .error (stopOn .invalidEscape (d :: cs))
    else if c.toNat < 0x20 then .error (stopAt .controlCharacter (c :: cs))
    else skipString cs
termination_by cs.length
decreasing_by all_goals (simp_wf <;> omega)

end Json
end RemoteImports
