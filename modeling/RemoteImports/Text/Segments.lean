/-!
# Segments and trimming

The parts of a text between slashes. A text without a slash is its own only segment, so
there is always one, and the text can be put together again from its segments.

A text is trimmed by the white space of Unicode (the property White_Space).
-/

namespace RemoteImports
namespace Text

/-- The segments of a text between slashes; there is always one. -/
def segments : List Char -> List (List Char)
  | [] => [[]]
  | c :: cs =>
    if c = '/' then [] :: segments cs
    else match segments cs with
      | [] => [[c]]
      | segment :: rest => (c :: segment) :: rest

def joined : List (List Char) -> List Char
  | [] => []
  | [segment] => segment
  | segment :: next :: rest => segment ++ '/' :: joined (next :: rest)

theorem segments_ne_nil (cs : List Char) : segments cs ≠ [] := by
  cases cs with
  | nil =>
      simp [segments]
  | cons c cs =>
      simp only [segments]
      split
      · simp
      · split <;> simp

theorem joined_cons_cons (c : Char) (segment : List Char) (rest : List (List Char)) :
    joined ((c :: segment) :: rest) = c :: joined (segment :: rest) := by
  cases rest <;> rfl

/-- Putting the segments of a text together gives back the text. -/
theorem joined_segments (cs : List Char) : joined (segments cs) = cs := by
  induction cs with
  | nil =>
      rfl
  | cons c cs ih =>
      have hne := segments_ne_nil cs
      simp only [segments]
      cases h : segments cs with
      | nil =>
          exact absurd h hne
      | cons segment rest =>
          rw [h] at ih
          split
          · rename_i hc
            simp [joined, ih, hc]
          · rw [joined_cons_cons, ih]

/-- White space in the sense of Unicode. -/
def isBlank (c : Char) : Bool :=
  let n := c.toNat
  (9 <= n && n <= 13) || n == 0x20 || n == 0x85 || n == 0xA0 || n == 0x1680
    || (0x2000 <= n && n <= 0x200A) || n == 0x2028 || n == 0x2029 || n == 0x202F || n == 0x205F
    || n == 0x3000

/-- A text without the characters at its end that satisfy `p`. -/
def dropEndWhile (p : Char -> Bool) (cs : List Char) : List Char :=
  (cs.reverse.dropWhile p).reverse

def trim (cs : List Char) : List Char :=
  dropEndWhile isBlank (cs.dropWhile isBlank)

end Text
end RemoteImports
