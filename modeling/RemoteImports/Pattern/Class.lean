/-!
# Classes of characters

A class is a list of ranges of code points.

A class as it is written may name a code point twice, or two ranges that meet. In its
normal form the ranges are in order, and between any two of them lies a code point that is
in neither. How many ranges a class has, and what it becomes where case is ignored, is
asked of the normal form. The laws say that it holds the same code points.
-/

namespace RemoteImports
namespace Pattern

/-- The code points from the first to the last. -/
structure Range where
  first : Nat
  last : Nat
deriving DecidableEq

/-- A class of characters: those in any of its ranges. -/
abbrev Class := List Range

def Range.holds (range : Range) (n : Nat) : Bool :=
  range.first <= n && n <= range.last

def Class.holds (cls : Class) (n : Nat) : Bool :=
  cls.any fun range => range.holds n

/-- The greatest code point. -/
def greatestCodePoint : Nat := 0x10FFFF

def Range.ofChars (first last : Char) : Range := ⟨first.toNat, last.toNat⟩

def Class.ofChar (c : Char) : Class := [.ofChars c c]

def Range.without (other range : Range) : Class :=
  let below : Class :=
    if range.first < other.first then [⟨range.first, min range.last (other.first - 1)⟩] else []
  let above : Class :=
    if other.last < range.last then [⟨max range.first (other.last + 1), range.last⟩] else []
  below ++ above

def Class.complement (cls : Class) : Class :=
  cls.foldl (fun (left : Class) range => left.flatMap range.without) [⟨0, greatestCodePoint⟩]

/-- A class with one range more. Ranges that meet it become one with it; those before it
and behind it stay as they are. -/
def Class.insert (range : Range) : Class -> Class
  | [] => [range]
  | next :: rest =>
    if range.last + 1 < next.first then range :: next :: rest
    else if next.last + 1 < range.first then next :: Class.insert range rest
    else Class.insert ⟨min range.first next.first, max range.last next.last⟩ rest

def Class.normal (cls : Class) : Class := cls.foldr Class.insert []

/-- The ASCII letters of a range in the other case. A range that holds small letters gives
only the capitals for those, even if it holds capitals, too. -/
def Range.fold (range : Range) : Class :=
  let small : Range := ⟨max range.first 97, min range.last 122⟩
  let great : Range := ⟨max range.first 65, min range.last 90⟩
  if small.first <= small.last then [⟨small.first - 32, small.last - 32⟩]
  else if great.first <= great.last then [⟨great.first + 32, great.last + 32⟩]
  else []

/-- A class and its ASCII letters in the other case, range by range. -/
def Class.fold (cls : Class) : Class :=
  (cls ++ cls.flatMap Range.fold).normal

def named? (name : String) : Option Class :=
  let digits := Range.ofChars '0' '9'
  let great := Range.ofChars 'A' 'Z'
  let small := Range.ofChars 'a' 'z'
  match name with
  | "alnum" => some [digits, great, small]
  | "alpha" => some [great, small]
  | "ascii" => some [⟨0, 0x7F⟩]
  | "blank" => some (.ofChar '\t' ++ .ofChar ' ')
  | "cntrl" => some [⟨0, 0x1F⟩, ⟨0x7F, 0x7F⟩]
  | "digit" => some [digits]
  | "graph" => some [.ofChars '!' '~']
  | "lower" => some [small]
  | "print" => some [.ofChars ' ' '~']
  | "punct" => some [.ofChars '!' '/', .ofChars ':' '@', .ofChars '[' '\x60', .ofChars '\x7B' '~']
  | "space" => some [⟨9, 13⟩, ⟨32, 32⟩]
  | "upper" => some [great]
  | "word" => some [digits, great, .ofChars '_' '_', small]
  | "xdigit" => some [digits, .ofChars 'A' 'F', .ofChars 'a' 'f']
  | _ => none

/-- Whether a character belongs to a word: an ASCII letter or digit, or an underscore. -/
def isWordChar (c : Char) : Bool :=
  c.isAlphanum || c == '_'

/-- The class of a one-letter escape: digits, blanks or word characters, or all but those.
-/
def escapeClass? (c : Char) : Option Class :=
  match c with
  | 'd' => named? "digit"
  | 's' => named? "space"
  | 'w' => named? "word"
  | 'D' => (named? "digit").map Class.complement
  | 'S' => (named? "space").map Class.complement
  | 'W' => (named? "word").map Class.complement
  | _ => none

@[simp] theorem holds_nil (n : Nat) : Class.holds [] n = false := rfl

@[simp] theorem holds_cons (range : Range) (cls : Class) (n : Nat) :
    Class.holds (range :: cls) n = (range.holds n || Class.holds cls n) :=
  List.any_cons

/-- Two ranges with nothing between them are together the range from the lesser start to
the greater end. -/
theorem holds_of_meeting {range next : Range} (h : next.first <= range.last + 1)
    (h' : range.first <= next.last + 1) (n : Nat) :
    Range.holds ⟨min range.first next.first, max range.last next.last⟩ n =
      (range.holds n || next.holds n) := by
  simp only [Range.holds]
  rw [Bool.eq_iff_iff]
  simp only [Bool.or_eq_true, Bool.and_eq_true, decide_eq_true_eq]
  omega

theorem holds_insert (range : Range) (cls : Class) (n : Nat) :
    Class.holds (cls.insert range) n = (range.holds n || Class.holds cls n) := by
  induction cls generalizing range with
  | nil =>
      simp [Class.insert]
  | cons next rest ih =>
      by_cases h1 : range.last + 1 < next.first
      · simp [Class.insert, h1]
      · by_cases h2 : next.last + 1 < range.first
        · simp only [Class.insert, h1, h2, if_true, if_false, holds_cons, ih]
          exact Bool.or_left_comm _ _ _
        · simp only [Class.insert, h1, h2, if_false, holds_cons, ih]
          rw [holds_of_meeting (Nat.le_of_not_lt h1) (Nat.le_of_not_lt h2), Bool.or_assoc]

/-- The normal form holds the same code points. -/
@[simp] theorem holds_normal (cls : Class) (n : Nat) :
    Class.holds cls.normal n = Class.holds cls n := by
  induction cls with
  | nil =>
      rfl
  | cons range cls ih =>
      rw [Class.normal, List.foldr_cons, holds_insert, holds_cons, ← ih, Class.normal]

end Pattern
end RemoteImports
