import RemoteImports.Json.Printer
import RemoteImports.Json.Reader

/-!
# Integers of JSON

An integer that fits 64 bits is written in decimal digits and read back from
them, provided that no number goes on with what stands behind it.
-/

namespace RemoteImports
namespace Json

open Text

def EndsNumber (rest : List Char) : Prop :=
  forall c, rest.head? = some c -> decimalDigit? c = none ∧ c ∉ ['.', 'e', 'E']

section

variable {n digit limit : Nat} {digits : List Nat} {rest : List Char} {c : Char}

theorem EndsNumber.nil : EndsNumber [] := by
  rintro c ⟨⟩

theorem EndsNumber.of_mark (h : c ∈ [',', ']', '}']) (rest : List Char) :
    EndsNumber (c :: rest) := by
  rintro d ⟨⟩
  simp only [List.mem_cons, List.not_mem_nil, or_false] at h
  rcases h with rfl | rfl | rfl <;> decide

/-!
# Digits

A number is its digits but the last, and the last one.
-/

theorem decimal_of_lt (h : n < 10) : decimal n = [Nat.digitChar n] :=
  Nat.toDigits_of_lt_base h

theorem decimal_of_le (h : 10 <= n) :
    decimal n = decimal (n / 10) ++ [Nat.digitChar (n % 10)] :=
  Nat.toDigits_of_base_le (by decide) h

theorem decimalDigit?_digitChar (h : digit < 10) :
    decimalDigit? (Nat.digitChar digit) = some digit := by
  revert digit
  decide

def digitsOf (n : Nat) : List Nat :=
  if n < 10 then [n] else digitsOf (n / 10) ++ [n % 10]

theorem digitsOf_of_lt (h : n < 10) : digitsOf n = [n] := by
  rw [digitsOf, if_pos h]

theorem digitsOf_of_le (h : 10 <= n) : digitsOf n = digitsOf (n / 10) ++ [n % 10] := by
  rw [digitsOf, if_neg (Nat.not_lt.mpr h)]

theorem digitsOf_lt (n : Nat) : forall digit, digit ∈ digitsOf n -> digit < 10 := by
  induction n using digitsOf.induct with
  | case1 n hlt =>
      rw [digitsOf_of_lt hlt]
      intro digit hdigit
      rw [List.mem_singleton.mp hdigit]
      exact hlt
  | case2 n hge ih =>
      rw [digitsOf_of_le (Nat.not_lt.mp hge)]
      intro digit hdigit
      rcases List.mem_append.mp hdigit with hbefore | hlast
      · exact ih digit hbefore
      · rw [List.mem_singleton.mp hlast]
        exact Nat.mod_lt n (by decide)

theorem decimal_eq_map (n : Nat) : decimal n = (digitsOf n).map Nat.digitChar := by
  induction n using digitsOf.induct with
  | case1 n hlt =>
      rw [decimal_of_lt hlt, digitsOf_of_lt hlt]
      rfl
  | case2 n hge ih =>
      have hle := Nat.not_lt.mp hge
      rw [decimal_of_le hle, digitsOf_of_le hle, List.map_append, ih]
      rfl

theorem exists_digitsOf_eq (n : Nat) :
    exists (digit : Nat) (digits : List Nat),
      digitsOf n = digit :: digits ∧ (digit = 0 -> n = 0) := by
  induction n using digitsOf.induct with
  | case1 n hlt =>
      exact ⟨n, [], digitsOf_of_lt hlt, id⟩
  | case2 n hge ih =>
      rcases ih with ⟨digit, digits, hdigits, hzero⟩
      refine ⟨digit, digits ++ [n % 10], ?_, ?_⟩
      · rw [digitsOf_of_le (Nat.not_lt.mp hge), hdigits]
        rfl
      · intro h
        have hsmall := hzero h
        omega

theorem readDigits_of_endsNumber (h : EndsNumber rest) : readDigits rest = ([], rest) := by
  cases rest with
  | nil =>
      rfl
  | cons c rest =>
      rw [readDigits, (h c rfl).left]

theorem readDigits_map_digitChar (hdigits : forall digit, digit ∈ digits -> digit < 10)
    (h : EndsNumber rest) :
    readDigits (digits.map Nat.digitChar ++ rest) = (digits, rest) := by
  induction digits with
  | nil =>
      exact readDigits_of_endsNumber h
  | cons digit digits ih =>
      rw [List.forall_mem_cons] at hdigits
      rw [List.map_cons, List.cons_append, readDigits, decimalDigit?_digitChar hdigits.left,
        ih hdigits.right]

theorem absorb_append {start middle : Nat} {first : List Nat}
    (h : absorb limit start first = (middle, [])) (later : List Nat) :
    absorb limit start (first ++ later) = absorb limit middle later := by
  induction first generalizing start with
  | nil =>
      cases h
      rfl
  | cons digit first ih =>
      rw [absorb] at h
      rw [List.cons_append, absorb]
      by_cases hle : start * 10 + digit <= limit
      · rw [if_pos hle] at h ⊢
        exact ih h
      · rw [if_neg hle] at h
        cases h

theorem absorb_digitsOf (h : n <= limit) : absorb limit 0 (digitsOf n) = (n, []) := by
  induction n using digitsOf.induct with
  | case1 n hlt =>
      rw [digitsOf_of_lt hlt, absorb, Nat.zero_mul, Nat.zero_add, if_pos h, absorb]
  | case2 n hge ih =>
      have hfirst := ih (Nat.le_trans (Nat.div_le_self n 10) h)
      have hsplit : n / 10 * 10 + n % 10 = n := by omega
      rw [digitsOf_of_le (Nat.not_lt.mp hge), absorb_append hfirst, absorb, hsplit, if_pos h,
        absorb]

/-!
# Numbers
-/

theorem readWhole_decimal (n : Nat) (atEnd : Problem) (h : EndsNumber rest) :
    readWhole atEnd (decimal n ++ rest) = .ok (digitsOf n, rest) := by
  have hread : readDigits (decimal n ++ rest) = (digitsOf n, rest) := by
    rw [decimal_eq_map]
    exact readDigits_map_digitChar (digitsOf_lt n) h
  rcases exists_digitsOf_eq n with ⟨digit, digits, hdigits, hzero⟩
  have hsome : readSomeDigits atEnd (decimal n ++ rest) = .ok (digitsOf n, rest) := by
    rw [readSomeDigits.eq_def, hread, decimal_eq_map, hdigits]
    rfl
  unfold readWhole
  simp only [hsome, bind, Except.bind]
  split
  · rename_i hsplit
    rw [hdigits] at hsplit
    cases hsplit
    rw [hzero rfl, digitsOf_of_lt (by decide)] at hdigits
    cases hdigits
  · rfl

theorem readFraction_of_endsNumber (atEnd : Problem) (h : EndsNumber rest) :
    readFraction atEnd rest = .ok ([], rest) := by
  unfold readFraction
  split
  · exact absurd (by decide) (h '.' rfl).right
  · rfl

theorem readExponent_of_endsNumber (atEnd : Problem) (h : EndsNumber rest) :
    readExponent atEnd rest = .ok (none, rest) := by
  cases rest with
  | nil =>
      rfl
  | cons c rest =>
      have hmarks := (h c rfl).right
      simp only [List.mem_cons, List.not_mem_nil, or_false, not_or] at hmarks
      rw [readExponent, if_neg]
      rintro (rfl | rfl)
      · exact hmarks.right.left rfl
      · exact hmarks.right.right rfl

theorem readNumber_decimal (negative : Bool) (hn : n <= greatestInteger)
    (h : EndsNumber rest) :
    readNumber negative (decimal n ++ rest) = .ok (signed negative n, rest) := by
  have hnumeral : readNumeral .eofInValue (decimal n ++ rest) =
      .ok ({ whole := digitsOf n, fraction := [], exponent := none }, rest) := by
    simp only [readNumeral, readWhole_decimal n _ h, readFraction_of_endsNumber _ h,
      readExponent_of_endsNumber _ h, bind, Except.bind]
    rfl
  have hvalue : Numeral.value { whole := digitsOf n, fraction := [], exponent := none }
      negative (byteLength rest) = .ok (signed negative n) := by
    rw [Numeral.value, absorb_digitsOf hn]
  simp only [readNumber, hnumeral, hvalue, bind, Except.bind]
  rfl

theorem exists_decimal_eq (n : Nat) :
    exists (c : Char) (cs : List Char), decimal n = c :: cs ∧ c.isDigit = true := by
  rcases exists_digitsOf_eq n with ⟨digit, digits, hdigits, _⟩
  have hlt : digit < 10 := by
    apply digitsOf_lt n
    rw [hdigits]
    exact List.mem_cons_self
  refine ⟨Nat.digitChar digit, digits.map Nat.digitChar, ?_, ?_⟩
  · rw [decimal_eq_map, hdigits, List.map_cons]
  · rw [Nat.isDigit_digitChar]
    exact decide_eq_true hlt

theorem readScalar_of_isDigit {cs : List Char} (h : c.isDigit = true) :
    readScalar (c :: cs) =
      (readNumber false (c :: cs)).map fun found => (some found.fst, found.snd) := by
  have hne : forall d : Char, d.isDigit = false -> c ≠ d := by
    intro d hd heq
    rw [heq, hd] at h
    cases h
  rw [readScalar, if_neg, if_neg (hne '"' rfl), if_neg (hne 'n' rfl), if_neg (hne 't' rfl),
    if_neg (hne 'f' rfl), if_neg (hne '-' rfl), if_pos h]
  rintro (heq | heq)
  · exact hne '[' rfl heq
  · exact hne '{' rfl heq

def IsShort (n : Int) : Prop :=
  -(Int.pow 2 63) <= n ∧ n < Int.pow 2 64

theorem readScalar_integer {n : Int} (hn : IsShort n) (h : EndsNumber rest) :
    readScalar (compact (integer n) ++ rest) = .ok (some (integer n), rest) := by
  have hlow : Int.pow 2 63 = 9223372036854775808 := rfl
  have hhigh : Int.pow 2 64 = 18446744073709551616 := rfl
  have hgreatest : greatestInteger = 18446744073709551615 := rfl
  have hlimit : Nat.pow 2 63 = 9223372036854775808 := rfl
  rw [IsShort, hlow, hhigh] at hn
  have habs : n.natAbs <= greatestInteger := by omega
  rw [compact, writeInteger]
  by_cases hneg : n < 0
  · have hsigned : signed true n.natAbs = integer n := by
      rw [signed, if_pos rfl, if_neg (by rw [hlimit]; omega)]
      congr 1
      omega
    rw [if_pos hneg, List.cons_append, readScalar, if_neg (by decide), if_neg (by decide),
      if_neg (by decide), if_neg (by decide), if_neg (by decide), if_pos rfl,
      readNumber_decimal true habs h, hsigned]
    rfl
  · have hsigned : signed false n.natAbs = integer n := by
      rw [signed, if_neg Bool.false_ne_true]
      congr 1
      omega
    rw [if_neg hneg]
    rcases exists_decimal_eq n.natAbs with ⟨c, cs, hdigits, hc⟩
    have hread := readNumber_decimal false habs h
    rw [hdigits, List.cons_append] at hread ⊢
    rw [readScalar_of_isDigit hc, hread, hsigned]
    rfl

end

end Json
end RemoteImports
