/-!
# Digits

Hexadecimal and decimal digits as values, in both directions. Only the ASCII digits count.
-/

namespace RemoteImports
namespace Text

def decimalDigit? (c : Char) : Option Nat :=
  if '0' <= c ∧ c <= '9' then some (c.toNat - 48) else none

def hexDigit? (c : Char) : Option Nat :=
  if '0' <= c ∧ c <= '9' then some (c.toNat - 48)
  else if 'a' <= c ∧ c <= 'f' then some (c.toNat - 87)
  else if 'A' <= c ∧ c <= 'F' then some (c.toNat - 55)
  else none

/-- The lower-case hexadecimal digit of a value below sixteen. -/
def hexDigit (n : Nat) : Char :=
  if n < 10 then Char.ofNat (48 + n) else Char.ofNat (87 + n)

/-- The value that a run of hexadecimal digits denotes, if all of them are digits. -/
def hexValue? (cs : List Char) : Option Nat :=
  cs.foldl (fun value c => do return (<- value) * 16 + (<- hexDigit? c)) (some 0)

/-- A value as exactly `width` hexadecimal digits, higher digits first. -/
def hexDigits : (width : Nat) -> Nat -> List Char
  | 0, _ => []
  | width + 1, n => hexDigit (n / Nat.pow 16 width % 16) :: hexDigits width n

def decimal (n : Nat) : List Char :=
  Nat.toDigits 10 n

def hexadecimal (n : Nat) : List Char :=
  Nat.toDigits 16 n

/-- The character with this code point, if there is one: surrogates and values past the
last plane have none. -/
def scalar? (n : Nat) : Option Char :=
  if h : n.isValidChar then some (Char.ofNatAux n h) else none

end Text
end RemoteImports
