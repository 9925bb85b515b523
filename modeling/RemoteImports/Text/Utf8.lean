/-!
# UTF-8

Bytes as text and back. Reading goes octet by octet and yields one entry per character;
where the octets so far can no longer begin a character, the entry is `none` and reading
starts afresh at the octet that ruled it out. A strict reading allows no such entry, a
lenient one puts U+FFFD there.
-/

namespace RemoteImports
namespace Text
namespace Utf8

/-- A character begun: the bits read so far, how many octets are owed, and the bounds of
the next. -/
structure Begun where
  bits : Nat
  owed : Nat
  low : Nat := 0x80
  high : Nat := 0xBF

/-- What a first octet begins, if it can begin a character of several octets. -/
def begin? (b : Nat) : Option Begun :=
  if 0xC2 <= b ∧ b <= 0xDF then some { bits := b - 0xC0, owed := 1 }
  else if b = 0xE0 then some { bits := 0, owed := 2, low := 0xA0 }
  else if b = 0xED then some { bits := 0xD, owed := 2, high := 0x9F }
  else if 0xE1 <= b ∧ b <= 0xEF then some { bits := b - 0xE0, owed := 2 }
  else if b = 0xF0 then some { bits := 0, owed := 3, low := 0x90 }
  else if 0xF1 <= b ∧ b <= 0xF3 then some { bits := b - 0xF0, owed := 3 }
  else if b = 0xF4 then some { bits := 4, owed := 3, high := 0x8F }
  else none

/-- Reads one octet between characters: the entry it completes, if any, and what it
begins. -/
def first (b : Nat) : List (Option Char) × Option Begun :=
  if b < 0x80 then ([some (Char.ofNat b)], none)
  else match begin? b with
    | some begun => ([], some begun)
    | none => ([none], none)

/-- Reads one octet: the entries it completes and what is begun after it. -/
def step : Option Begun -> Nat -> List (Option Char) × Option Begun
  | none, b => first b
  | some begun, b =>
    if begun.low <= b ∧ b <= begun.high then
      let bits := begun.bits * 64 + (b - 0x80)
      if begun.owed <= 1 then ([some (Char.ofNat bits)], none)
      else ([], some { bits := bits, owed := begun.owed - 1 })
    else
      let (entries, begun) := first b
      (none :: entries, begun)

def entries : Option Begun -> List UInt8 -> List (Option Char)
  | none, [] => []
  | some _, [] => [none]
  | begun, b :: bs =>
    let (found, begun) := step begun b.toNat
    found ++ entries begun bs

def decode? (bytes : List UInt8) : Option (List Char) :=
  (entries none bytes).mapM id

/-- The text that the octets encode, with U+FFFD in place of each malformed part. -/
def decodeLossy (bytes : List UInt8) : List Char :=
  (entries none bytes).map (·.getD (Char.ofNat 0xFFFD))

def encodeChar (c : Char) : List UInt8 :=
  let n := c.toNat
  let tail (shift : Nat) : UInt8 := UInt8.ofNat (0x80 + n / shift % 64)
  if n < 0x80 then [UInt8.ofNat n]
  else if n < 0x800 then [UInt8.ofNat (0xC0 + n / 64), tail 1]
  else if n < 0x10000 then [UInt8.ofNat (0xE0 + n / 4096), tail 64, tail 1]
  else [UInt8.ofNat (0xF0 + n / 262144), tail 4096, tail 64, tail 1]

def encode (cs : List Char) : List UInt8 :=
  cs.flatMap encodeChar

end Utf8
end Text
end RemoteImports
