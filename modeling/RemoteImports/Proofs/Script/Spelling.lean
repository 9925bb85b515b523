import RemoteImports.Proofs.Script.Literal

/-!
# Spellings of a text

The language spells a text in many ways: in either kind of quotes, with a
character as it is or behind a backslash, with a code in two or four
hexadecimal digits or in braces, and with the end of a line left out behind a
backslash.  What a literal says is a sequence of UTF-16 code units, so that two
escapes may make up one character.

The reader goes character by character.  It reads every literal in which no
escape stands for half of a character.
-/

namespace RemoteImports
namespace Script

open Text

/-- A part of a literal between its quotes. -/
inductive Piece where
  | plain (c : Char)
  | escaped (c : Char)
  | byte (digits : List Char)
  | unit (digits : List Char)
  | braced (digits : List Char)
  | continued (lineEnd : List Char)

def Piece.text : Piece -> List Char
  | plain c => [c]
  | escaped c => ['\\', c]
  | byte digits => '\\' :: 'x' :: digits
  | unit digits => '\\' :: 'u' :: digits
  | braced digits => '\\' :: 'u' :: '{' :: (digits ++ ['}'])
  | continued lineEnd => '\\' :: lineEnd

def controlEscapes : List (Char × Nat) :=
  [('0', 0), ('b', 8), ('t', 9), ('n', 10), ('v', 11), ('f', 12), ('r', 13)]

/-- Whether a part may stand in a literal before the text `behind`, in strict
mode: a digit is escaped only where it is a zero and no digit follows it. -/
def Piece.isLegal (quote : Char) (behind : List Char) : Piece -> Bool
  | plain c => c != quote && c != '\\' && c != '\n' && c != '\r'
  | escaped c =>
      !lineEnds.contains [c] && c != 'x' && c != 'u' &&
        (!c.isDigit || c == '0' && !behind.head?.any Char.isDigit)
  | byte digits => digits.length == 2 && (hexValue? digits).isSome
  | unit digits => digits.length == 4 && (hexValue? digits).isSome
  | braced digits => !digits.isEmpty && (hexValue? digits).any (· <= 0x10FFFF)
  | continued lineEnd => lineEnds.contains lineEnd

def Piece.code? : Piece -> Option Nat
  | plain c => some c.toNat
  | escaped c => some ((controlEscapes.lookup c).getD c.toNat)
  | byte digits => hexValue? digits
  | unit digits => hexValue? digits
  | braced digits => hexValue? digits
  | continued _ => none

/-- The UTF-16 code units of a code point. -/
def codeUnits (code : Nat) : List Nat :=
  if code < 0x10000 then
    [code]
  else
    [0xD800 + (code - 0x10000) / 0x400, 0xDC00 + (code - 0x10000) % 0x400]

/-- Whether a part stands for half of a character. -/
def Piece.isSurrogate (piece : Piece) : Bool :=
  piece.code?.any fun code => 0xD800 <= code && code <= 0xDFFF

def areLegal (quote : Char) : List Piece -> Bool
  | [] => true
  | piece :: pieces =>
      piece.isLegal quote (pieces.flatMap Piece.text) && areLegal quote pieces

/-- In the language, a text is a literal of this value, whose parts have the
given property. -/
inductive Spells (allowed : Piece -> Bool) : List Char -> List Char -> Prop where
  | intro {quote : Char} {pieces : List Piece} {value : List Char} :
      isQuote quote = true ->
      areLegal quote pieces = true ->
      pieces.all allowed = true ->
      pieces.flatMap (fun piece => piece.code?.toList.flatMap codeUnits) =
        value.flatMap (fun c => codeUnits c.toNat) ->
      Spells allowed (quote :: (pieces.flatMap Piece.text ++ [quote])) value

/-!
# Code units

A text of characters is determined by its code units, since the units of a
character beyond the first plane belong to no character of that plane.
-/

theorem toNat_bounds (c : Char) :
    c.toNat < 0xD800 ∨ (0xDFFF < c.toNat ∧ c.toNat < 0x110000) :=
  c.valid

theorem codeUnits_append_inj {c d : Char} {us vs : List Nat}
    (h : codeUnits c.toNat ++ us = codeUnits d.toNat ++ vs) : c = d ∧ us = vs := by
  have hc := toNat_bounds c
  have hd := toNat_bounds d
  rw [← Char.toNat_inj]
  unfold codeUnits at h
  split at h
  · split at h
    · simpa using h
    · simp only [List.cons_append, List.nil_append, List.cons.injEq] at h
      omega
  · split at h
    · simp only [List.cons_append, List.nil_append, List.cons.injEq] at h
      omega
    · simp only [List.cons_append, List.nil_append, List.cons.injEq] at h
      rcases h with ⟨hhigh, hlow, hrest⟩
      exact ⟨by omega, hrest⟩

theorem flatMap_codeUnits_inj {a b : List Char}
    (h : a.flatMap (fun c => codeUnits c.toNat) =
      b.flatMap (fun c => codeUnits c.toNat)) : a = b := by
  have hne : forall c : Char, codeUnits c.toNat ≠ [] := by
    intro c
    unfold codeUnits
    split <;> simp
  induction a generalizing b with
  | nil =>
      cases b with
      | nil =>
          rfl
      | cons d b =>
          simp [hne] at h
  | cons c a ih =>
      cases b with
      | nil =>
          simp [hne] at h
      | cons d b =>
          rw [List.flatMap_cons, List.flatMap_cons] at h
          rcases codeUnits_append_inj h with ⟨hfirst, hrest⟩
          rw [hfirst, ih hrest]

/-!
# Spelled texts are read

Without halves of characters, each part is an escape or a character that the
reader knows, and stands for the same code units.
-/

theorem hexDigit?_lt {c : Char} {d : Nat} (h : hexDigit? c = some d) : d < 16 := by
  unfold hexDigit? at h
  simp only [Char.le_def, UInt32.le_iff_toNat_le] at h
  have hc : c.toNat = c.val.toNat := rfl
  rw [hc] at h
  split at h
  · rename_i hrange
    have hhigh : c.val.toNat <= 57 := hrange.right
    cases h
    omega
  split at h
  · rename_i hrange
    have hhigh : c.val.toNat <= 102 := hrange.right
    cases h
    omega
  split at h
  · rename_i hrange
    have hhigh : c.val.toNat <= 70 := hrange.right
    cases h
    omega
  · cases h

theorem foldl_addDigit_lt {digits : List Char} {value n : Nat}
    (h : digits.foldl addDigit (some value) = some n) :
    n < (value + 1) * Nat.pow 16 digits.length := by
  induction digits generalizing value with
  | nil =>
      cases h
      rw [List.length_nil, Nat.pow]
      omega
  | cons c digits ih =>
      rcases addDigit_of_foldl_eq_some h with ⟨_, d, hvalue, hdigit, hrest⟩
      cases hvalue
      have hd := hexDigit?_lt hdigit
      have hbound := ih hrest
      have hstep : (value * 16 + d + 1) * Nat.pow 16 digits.length <=
          (value + 1) * 16 * Nat.pow 16 digits.length :=
        Nat.mul_le_mul_right _ (by omega)
      have hpow : Nat.pow 16 (digits.length + 1) =
          16 * Nat.pow 16 digits.length := Nat.mul_comm _ _
      rw [List.length_cons, hpow, ← Nat.mul_assoc]
      exact Nat.lt_of_lt_of_le hbound hstep

theorem toNat_escape? (c : Char) :
    ((escape? c).getD c).toNat = (controlEscapes.lookup c).getD c.toNat := by
  unfold escape?
  split
  case h_8 hn ht hr hb hf hv h0 =>
    have hnone : controlEscapes.lookup c = none := by
      rw [List.lookup_eq_none_iff]
      simp only [controlEscapes, List.mem_cons, List.not_mem_nil, or_false]
      rintro _ (rfl | rfl | rfl | rfl | rfl | rfl | rfl) <;>
        simpa using by assumption
    rw [hnone]
    rfl
  all_goals rfl

theorem Piece.exists_scalar? {piece : Piece} {n : Nat} (hn : piece.code? = some n)
    (hbound : n <= 0x10FFFF) (hwhole : piece.isSurrogate = false) :
    exists c : Char, scalar? n = some c ∧ c.toNat = n := by
  rw [isSurrogate, hn] at hwhole
  have hvalid : n.isValidChar := by
    simp at hwhole
    unfold Nat.isValidChar
    omega
  refine ⟨Char.ofNatAux n hvalid, ?_, rfl⟩
  rw [scalar?, dif_pos hvalid]

inductive StandsFor (quote : Char) : List Char -> List Char -> Prop where
  | plain {c : Char} :
      c ≠ quote -> c ≠ '\\' -> c ≠ '\n' -> StandsFor quote [c] [c]
  | escape {escaped first : List Char} :
      Escape escaped first -> StandsFor quote ('\\' :: escaped) first

theorem StandsFor.quoted {quote : Char} {text first later value : List Char}
    (h : StandsFor quote text first) (hlater : Quoted quote later value) :
    Quoted quote (text ++ later) (first ++ value) := by
  cases h with
  | plain hne hslash hline =>
      exact Quoted.plain hne hslash hline hlater
  | escape hescape =>
      exact Quoted.escape hescape hlater

theorem Piece.exists_standsFor {quote : Char} {behind : List Char} {piece : Piece}
    (hlegal : piece.isLegal quote behind = true) (hwhole : piece.isSurrogate = false) :
    exists first : List Char,
      piece.code?.toList.flatMap codeUnits =
        first.flatMap (fun c => codeUnits c.toNat) ∧
      StandsFor quote piece.text first := by
  cases piece with
  | plain c =>
      simp only [isLegal, Bool.and_eq_true, bne_iff_ne] at hlegal
      rcases hlegal with ⟨⟨⟨hne, hslash⟩, hline⟩, _⟩
      exact ⟨[c], by simp [code?], StandsFor.plain hne hslash hline⟩
  | escaped c =>
      simp only [isLegal, Bool.and_eq_true, bne_iff_ne, Bool.not_eq_true',
        List.contains_eq_mem, decide_eq_false_iff_not] at hlegal
      rcases hlegal with ⟨⟨⟨hline, hx⟩, hu⟩, _⟩
      refine ⟨[(escape? c).getD c], ?_, ?_⟩
      · simp [code?, ← toNat_escape?]
      · exact StandsFor.escape (Escape.plain hx hu hline)
  | byte digits =>
      simp only [isLegal, Bool.and_eq_true, beq_iff_eq, Option.isSome_iff_exists] at hlegal
      rcases hlegal with ⟨hlength, n, hn⟩
      have hbound : n <= 0x10FFFF := by
        have hlt := foldl_addDigit_lt hn
        rw [hlength] at hlt
        change n < 256 at hlt
        omega
      have hcode : (Piece.byte digits).code? = some n := hn
      rcases exists_scalar? hcode hbound hwhole with ⟨c, hc, hunit⟩
      exact ⟨[c], by simp [hcode, hunit], StandsFor.escape (Escape.byte hlength hn hc)⟩
  | unit digits =>
      simp only [isLegal, Bool.and_eq_true, beq_iff_eq, Option.isSome_iff_exists] at hlegal
      rcases hlegal with ⟨hlength, n, hn⟩
      have hbound : n <= 0x10FFFF := by
        have hlt := foldl_addDigit_lt hn
        rw [hlength] at hlt
        change n < 65536 at hlt
        omega
      have hcode : (Piece.unit digits).code? = some n := hn
      rcases exists_scalar? hcode hbound hwhole with ⟨c, hc, hunit⟩
      exact ⟨[c], by simp [hcode, hunit], StandsFor.escape (Escape.unit hlength hn hc)⟩
  | braced digits =>
      simp only [isLegal, Bool.and_eq_true, Option.any_eq_true, Bool.not_eq_true',
        List.isEmpty_eq_false_iff, decide_eq_true_eq] at hlegal
      rcases hlegal with ⟨hne, n, hn, hbound⟩
      have hcode : (Piece.braced digits).code? = some n := hn
      rcases exists_scalar? hcode hbound hwhole with ⟨c, hc, hunit⟩
      exact ⟨[c], by simp [hcode, hunit], StandsFor.escape (Escape.braced hne hn hc)⟩
  | continued lineEnd =>
      rw [isLegal, List.contains_eq_mem, decide_eq_true_eq] at hlegal
      exact ⟨[], rfl, StandsFor.escape (Escape.lineEnd hlegal)⟩

theorem quoted_flatMap_text {quote : Char} {pieces : List Piece}
    (hlegal : areLegal quote pieces = true)
    (hwhole : pieces.all (!·.isSurrogate) = true) :
    exists value : List Char,
      pieces.flatMap (fun piece => piece.code?.toList.flatMap codeUnits) =
        value.flatMap (fun c => codeUnits c.toNat) ∧
      Quoted quote (pieces.flatMap Piece.text ++ [quote]) value := by
  induction pieces with
  | nil =>
      exact ⟨[], rfl, Quoted.close⟩
  | cons piece pieces ih =>
      rw [areLegal, Bool.and_eq_true] at hlegal
      rw [List.all_cons, Bool.and_eq_true, Bool.not_eq_true'] at hwhole
      rcases ih hlegal.right hwhole.right with ⟨later, hlater, hquoted⟩
      rcases piece.exists_standsFor hlegal.left hwhole.left with ⟨first, hfirst, hstands⟩
      refine ⟨first ++ later, ?_, ?_⟩
      · rw [List.flatMap_cons, List.flatMap_append, hfirst, hlater]
      · rw [List.flatMap_cons, List.append_assoc]
        exact hstands.quoted hquoted

theorem Spells.literal {text value : List Char}
    (h : Spells (!·.isSurrogate) text value) : Literal text value := by
  cases h with
  | intro hquote hlegal hwhole hunits =>
      rcases quoted_flatMap_text hlegal hwhole with ⟨read, hread, hquoted⟩
      rw [hunits] at hread
      rw [flatMap_codeUnits_inj hread]
      exact Literal.intro hquote hquoted

end Script
end RemoteImports
