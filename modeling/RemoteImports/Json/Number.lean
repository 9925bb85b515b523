import RemoteImports.Json.Token
import RemoteImports.Json.Value

/-!
# Numbers in JSON

A number is read in two passes: first its digits, part by part, then its value. An integer
that fits 64 bits is kept as it is. Every other number becomes one in binary64: as many
leading digits as fit 64 bits make its significand, which is scaled by one power of ten.
-/

namespace RemoteImports
namespace Json

/-- The digits of a number: before the point, behind it, and of the exponent with its
sign. -/
structure Numeral where
  whole : List Nat
  fraction : List Nat
  exponent : Option (Bool × List Nat)

def readDigits : List Char -> List Nat × List Char
  | [] => ([], [])
  | c :: cs =>
    match Text.decimalDigit? c with
    | some digit => (digit :: (readDigits cs).1, (readDigits cs).2)
    | none => ([], c :: cs)

/-- Reads digits of which there must be one. At the end of the text the problem is
`atEnd`. -/
def readSomeDigits (atEnd : Problem) (cs : List Char) : Except Stop (List Nat × List Char) :=
  match cs, readDigits cs with
  | [], _ => .error (stopAt atEnd [])
  | c :: cs, ([], _) => .error (stopOn .invalidNumber (c :: cs))
  | _ :: _, (digits, rest) => .ok (digits, rest)

def readWhole (atEnd : Problem) (cs : List Char) : Except Stop (List Nat × List Char) := do
  let (digits, rest) <- readSomeDigits atEnd cs
  match digits with
  | 0 :: _ :: _ => .error (stopOn .invalidNumber (cs.drop 1))
  | _ => .ok (digits, rest)

def readFraction (atEnd : Problem) : List Char -> Except Stop (List Nat × List Char)
  | '.' :: cs => readSomeDigits atEnd cs
  | cs => .ok ([], cs)

/-- A sign, if there is one, and what follows it: whether it is a minus sign. -/
def readSign : List Char -> Bool × List Char
  | '-' :: cs => (true, cs)
  | '+' :: cs => (false, cs)
  | cs => (false, cs)

def readExponent (atEnd : Problem) : List Char -> Except Stop (Option (Bool × List Nat) × List Char)
  | [] => .ok (none, [])
  | c :: cs =>
    if c = 'e' ∨ c = 'E' then do
      let (negative, rest) := readSign cs
      let (digits, rest) <- readSomeDigits atEnd rest
      return (some (negative, digits), rest)
    else .ok (none, c :: cs)

def readNumeral (atEnd : Problem) (cs : List Char) : Except Stop (Numeral × List Char) := do
  let (whole, cs) <- readWhole atEnd cs
  let (fraction, cs) <- readFraction atEnd cs
  let (exponent, cs) <- readExponent atEnd cs
  return ({ whole, fraction, exponent }, cs)

/-- Appends digits to a number as long as it stays within a limit; the digits left over
remain. -/
def absorb (limit : Nat) : Nat -> List Nat -> Nat × List Nat
  | n, [] => (n, [])
  | n, digit :: digits =>
    if n * 10 + digit <= limit then absorb limit (n * 10 + digit) digits else (n, digit :: digits)

def greatestInteger : Nat := Nat.pow 2 64 - 1

def greatestExponent : Nat := Nat.pow 2 31 - 1

def power (exponent : Nat) : Float :=
  Float.ofScientific 1 false exponent

/-- A significand times or over a power of ten, unless it is too great. -/
def scaled? (significand : Nat) (exponent : Int) : Option Float :=
  let x := (UInt64.ofNat significand).toFloat
  if significand = 0 then some x
  else if exponent > 308 then none
  else if 0 <= exponent then
    let y := x * power exponent.toNat
    if y.isInf then none else some y
  else if -308 <= exponent then some (x / power exponent.natAbs)
  else if -616 <= exponent then some (x / power 308 / power (exponent.natAbs - 308))
  else some 0

/-- The value of an integer, which is not kept as one if it is too low or a zero with a
minus sign. -/
def signed (negative : Bool) (n : Nat) : Json :=
  if negative then
    if n = 0 ∨ Nat.pow 2 63 < n then float (-(UInt64.ofNat n).toFloat) else integer (-n)
  else integer n

/-- The value of a fraction. `left` is the number of bytes behind the number. -/
def Numeral.toFloat (n : Numeral) (left : Nat) : Except Stop Float :=
  let (head, dropped) := absorb greatestInteger 0 n.whole
  let (significand, unused) := absorb greatestInteger head n.fraction
  let point : Int := (dropped.length + unused.length : Int) - n.fraction.length
  let (negative, digits) := n.exponent.getD (false, [])
  match absorb greatestExponent 0 digits with
  | (exponent, []) =>
    match scaled? significand (if negative then point - exponent else point + exponent) with
    | some x => .ok x
    | none => .error (.placed .numberOutOfRange left)
  | (_, _ :: beyond) =>
    if significand ≠ 0 ∧ !negative then .error (.placed .numberOutOfRange (left + beyond.length))
    else .ok 0

/-- The value of a number. `left` is the number of bytes behind it. -/
def Numeral.value (n : Numeral) (negative : Bool) (left : Nat) : Except Stop Json :=
  match absorb greatestInteger 0 n.whole, n.fraction, n.exponent with
  | (whole, []), [], none => .ok (signed negative whole)
  | _, _, _ => do
    let x <- n.toFloat left
    return float (if negative then -x else x)

/-- Reads a number from behind its minus sign, if it has one. -/
def readNumber (negative : Bool) (cs : List Char) : Except Stop (Json × List Char) := do
  let (numeral, rest) <- readNumeral .eofInValue cs
  return (<- numeral.value negative (Text.byteLength rest), rest)

/-- Passes over a number from behind its minus sign, if it has one. -/
def skipNumber (cs : List Char) : Except Stop (List Char) := do
  let (_, rest) <- readNumeral .invalidNumber cs
  return rest

end Json
end RemoteImports
