import RemoteImports.Script.Literal
import RemoteImports.Script.Skip

/-!
# The literals that are read

The reader of literals takes a text up to the closing quote and nothing else
into account.  So it has a grammar: a literal is a quote, characters and
escapes, and the same quote again.  What passes over literals without reading
them ends at the same place.
-/

namespace RemoteImports
namespace Script

open Text

def lineEnds : List (List Char) :=
  [['\n'], ['\r'], ['\r', '\n'], ['\u2028'], ['\u2029']]

inductive Escape : List Char -> List Char -> Prop where
  | byte {digits : List Char} {n : Nat} {c : Char} :
      digits.length = 2 -> hexValue? digits = some n -> scalar? n = some c ->
      Escape ('x' :: digits) [c]
  | unit {digits : List Char} {n : Nat} {c : Char} :
      digits.length = 4 -> hexValue? digits = some n -> scalar? n = some c ->
      Escape ('u' :: digits) [c]
  | braced {digits : List Char} {n : Nat} {c : Char} :
      digits ≠ [] -> hexValue? digits = some n -> scalar? n = some c ->
      Escape ('u' :: '{' :: (digits ++ ['}'])) [c]
  | lineEnd {text : List Char} : text ∈ lineEnds -> Escape text []
  | plain {c : Char} :
      c ≠ 'x' -> c ≠ 'u' -> [c] ∉ lineEnds -> Escape [c] [(escape? c).getD c]

inductive Quoted (quote : Char) : List Char -> List Char -> Prop where
  | close : Quoted quote [quote] []
  | plain {c : Char} {text value : List Char} :
      c ≠ quote -> c ≠ '\\' -> c ≠ '\n' -> Quoted quote text value ->
      Quoted quote (c :: text) (c :: value)
  | escape {escaped first text value : List Char} :
      Escape escaped first -> Quoted quote text value ->
      Quoted quote ('\\' :: (escaped ++ text)) (first ++ value)

inductive Literal : List Char -> List Char -> Prop where
  | intro {quote : Char} {text value : List Char} :
      isQuote quote = true -> Quoted quote text value ->
      Literal (quote :: text) value

/-!
# Reading hexadecimal digits
-/

def addDigit (value : Option Nat) (c : Char) : Option Nat := do
  return (<- value) * 16 + (<- hexDigit? c)

theorem hexValue?_eq (digits : List Char) :
    hexValue? digits = digits.foldl addDigit (some 0) := rfl

theorem foldl_addDigit_none (digits : List Char) :
    digits.foldl addDigit none = none := by
  induction digits with
  | nil =>
      rfl
  | cons c digits ih =>
      exact ih

section

variable {digits rest : List Char} {value n : Nat} {c : Char}

theorem addDigit_of_foldl_eq_some {start : Option Nat}
    (h : (c :: digits).foldl addDigit start = some n) :
    exists value d : Nat,
      start = some value ∧ hexDigit? c = some d ∧
        digits.foldl addDigit (some (value * 16 + d)) = some n := by
  rw [List.foldl_cons] at h
  cases start with
  | none =>
      have hstop : addDigit none c = none := rfl
      rw [hstop, foldl_addDigit_none] at h
      cases h
  | some value =>
      cases hdigit : hexDigit? c with
      | none =>
          have hstop : addDigit (some value) c = none := by
            rw [addDigit, hdigit]
            rfl
          rw [hstop, foldl_addDigit_none] at h
          cases h
      | some d =>
          have hnext : addDigit (some value) c = some (value * 16 + d) := by
            rw [addDigit, hdigit]
            rfl
          rw [hnext] at h
          exact ⟨value, d, rfl, rfl, h⟩

theorem not_mem_of_hexValue? (h : hexValue? digits = some n)
    (hc : hexDigit? c = none) : c ∉ digits := by
  rw [hexValue?_eq] at h
  generalize some 0 = start at h
  induction digits generalizing start with
  | nil =>
      exact List.not_mem_nil
  | cons d digits ih =>
      rcases addDigit_of_foldl_eq_some h with ⟨value, _, _, hdigit, hrest⟩
      rw [List.mem_cons, not_or]
      constructor
      · intro heq
        rw [heq, hdigit] at hc
        cases hc
      · exact ih _ hrest

theorem readFixed?_append (hn : hexValue? digits = some n) (hc : scalar? n = some c)
    (rest : List Char) :
    readFixed? digits.length (digits ++ rest) = some (c, rest) := by
  have hlength : ¬ (digits ++ rest).length < digits.length := by
    rw [List.length_append]
    omega
  rw [readFixed?, if_neg hlength, List.take_left, List.drop_left, hn]
  simp [hc]

theorem readFixed?_eq {count : Nat} {cs : List Char}
    (h : readFixed? count cs = some (c, rest)) :
    exists (digits : List Char) (n : Nat),
      cs = digits ++ rest ∧ digits.length = count ∧
        hexValue? digits = some n ∧ scalar? n = some c := by
  unfold readFixed? at h
  split at h
  · cases h
  · rename_i hlength
    simp only [Option.bind_eq_bind, Option.bind_eq_some_iff, Option.pure_def,
      Option.some.injEq, Prod.mk.injEq] at h
    rcases h with ⟨n, hn, _, hc, rfl, rfl⟩
    refine ⟨cs.take count, n, (List.take_append_drop count cs).symm, ?_, hn, hc⟩
    rw [List.length_take]
    omega

theorem readBraced?_append (hne : digits ≠ []) (hn : hexValue? digits = some n)
    (hc : scalar? n = some c) (rest : List Char) :
    readBraced? (digits ++ '}' :: rest) = some (c, rest) := by
  have hdigits : forall d, d ∈ digits -> (d != '}') = true := by
    intro d hmem
    have hbrace := not_mem_of_hexValue? hn (c := '}') rfl
    rw [bne_iff_ne]
    exact ne_of_mem_of_not_mem hmem hbrace
  have htake : (digits ++ '}' :: rest).takeWhile (· != '}') = digits := by
    rw [List.takeWhile_append_of_pos hdigits]
    simp
  have hdrop : (digits ++ '}' :: rest).dropWhile (· != '}') = '}' :: rest := by
    rw [List.dropWhile_append_of_pos hdigits]
    simp
  simp only [readBraced?, htake, hdrop]
  simp [hne, hn, hc]

theorem readBraced?_eq {cs : List Char} (h : readBraced? cs = some (c, rest)) :
    exists (digits : List Char) (n : Nat),
      cs = digits ++ '}' :: rest ∧ digits ≠ [] ∧
        hexValue? digits = some n ∧ scalar? n = some c := by
  have hsplit : cs.takeWhile (· != '}') ++ cs.dropWhile (· != '}') = cs :=
    List.takeWhile_append_dropWhile
  have hnot := List.head?_dropWhile_not (· != '}') cs
  simp only [readBraced?] at h
  split at h
  · cases h
  · rename_i d later hdrop
    split at h
    · cases h
    · rename_i hne
      simp only [Option.bind_eq_bind, Option.bind_eq_some_iff, Option.pure_def,
        Option.some.injEq, Prod.mk.injEq] at h
      rcases h with ⟨n, hn, _, hc, rfl, rfl⟩
      rw [hdrop] at hsplit hnot
      have hd : d = '}' := by simpa using hnot
      rw [hd] at hsplit
      exact ⟨_, n, hsplit.symm, by simpa using hne, hn, hc⟩

end

/-!
# Escapes

A carriage return is read with the line feed behind it, and this is all that
an escape depends on what follows it.
-/

theorem mem_lineEnds_iff (c : Char) :
    [c] ∈ lineEnds <->
      c = '\n' ∨ c = '\r' ∨ c.toNat = 0x2028 ∨ c.toNat = 0x2029 := by
  have hcode : forall d : Char, c = d <-> c.toNat = d.toNat := by
    intro d
    exact Char.toNat_inj.symm
  simp only [lineEnds, List.mem_cons, List.cons.injEq, List.not_mem_nil, and_true,
    or_false, reduceCtorEq, and_false, false_or]
  rw [hcode '\u2028', hcode '\u2029']
  rfl

theorem readEscape?_plain {c : Char} (hx : c ≠ 'x') (hu : c ≠ 'u')
    (hline : [c] ∉ lineEnds) (rest : List Char) :
    readEscape? (c :: rest) = some ([(escape? c).getD c], rest) := by
  have hends := mt (mem_lineEnds_iff c).mpr hline
  have hreturn : c ≠ '\r' := fun h => hends (Or.inr (Or.inl h))
  unfold readEscape?
  split
  case h_1 heq =>
    cases heq
  case h_2 heq =>
    exact absurd (List.cons.inj heq).left hx
  case h_3 heq =>
    exact absurd (List.cons.inj heq).left hu
  case h_4 heq =>
    exact absurd (List.cons.inj heq).left hu
  case h_5 heq =>
    exact absurd (List.cons.inj heq).left hreturn
  case h_6 heq =>
    cases heq
    rw [if_neg hends]

theorem readEscape?_lineEnd {text rest : List Char} (h : text ∈ lineEnds)
    (hrest : rest.head? ≠ some '\n') :
    readEscape? (text ++ rest) = some ([], rest) := by
  simp only [lineEnds, List.mem_cons, List.not_mem_nil, or_false] at h
  rcases h with rfl | rfl | rfl | rfl | rfl
  · rfl
  · cases rest with
    | nil =>
        rfl
    | cons c rest =>
        have hc : c ≠ '\n' := fun heq => hrest (congrArg some heq)
        simp [readEscape?, hc]
  · rfl
  · rfl
  · rfl

theorem Escape.readEscape? {text value rest : List Char} (h : Escape text value)
    (hrest : rest.head? ≠ some '\n') :
    readEscape? (text ++ rest) = some (value, rest) := by
  cases h with
  | byte hlength hn hc =>
      rw [List.cons_append, Script.readEscape?, ← hlength, readFixed?_append hn hc]
      rfl
  | @unit digits n c hlength hn hc =>
      have hbrace : forall cs : List Char, digits ++ rest = '{' :: cs -> False := by
        intro cs heq
        cases digits with
        | nil =>
            cases hlength
        | cons d digits =>
            cases heq
            exact not_mem_of_hexValue? hn (c := '{') rfl List.mem_cons_self
      rw [List.cons_append, Script.readEscape?, ← hlength, readFixed?_append hn hc]
      · rfl
      · exact hbrace
  | braced hne hn hc =>
      rw [List.cons_append, List.cons_append, List.append_assoc, Script.readEscape?,
        List.singleton_append, readBraced?_append hne hn hc]
      rfl
  | lineEnd htext =>
      exact readEscape?_lineEnd htext hrest
  | plain hx hu hline =>
      exact readEscape?_plain hx hu hline rest

theorem readEscape?_eq {cs value rest : List Char}
    (h : readEscape? cs = some (value, rest)) :
    exists text : List Char, cs = text ++ rest ∧ Escape text value := by
  unfold readEscape? at h
  split at h
  case h_1 =>
    cases h
  case h_2 =>
    simp only [Option.map_eq_some_iff, Prod.exists, Prod.mk.injEq] at h
    rcases h with ⟨c, r, hread, rfl, rfl⟩
    rcases readFixed?_eq hread with ⟨digits, n, rfl, hlength, hn, hc⟩
    exact ⟨'x' :: digits, rfl, Escape.byte hlength hn hc⟩
  case h_3 =>
    simp only [Option.map_eq_some_iff, Prod.exists, Prod.mk.injEq] at h
    rcases h with ⟨c, r, hread, rfl, rfl⟩
    rcases readBraced?_eq hread with ⟨digits, n, rfl, hne, hn, hc⟩
    exact ⟨'u' :: '{' :: (digits ++ ['}']), by simp, Escape.braced hne hn hc⟩
  case h_4 =>
    simp only [Option.map_eq_some_iff, Prod.exists, Prod.mk.injEq] at h
    rcases h with ⟨c, r, hread, rfl, rfl⟩
    rcases readFixed?_eq hread with ⟨digits, n, rfl, hlength, hn, hc⟩
    exact ⟨'u' :: digits, rfl, Escape.unit hlength hn hc⟩
  case h_5 =>
    cases h
    exact ⟨['\r', '\n'], rfl, Escape.lineEnd (by decide)⟩
  case h_6 c cs hx _ hu _ =>
    split at h
    · rename_i hends
      cases h
      exact ⟨[c], rfl, Escape.lineEnd ((mem_lineEnds_iff c).mpr hends)⟩
    · rename_i hends
      cases h
      exact ⟨[c], rfl, Escape.plain hx hu (mt (mem_lineEnds_iff c).mp hends)⟩

/-!
# Literals
-/

section

variable {quote : Char} {cs text value rest : List Char}

theorem Quoted.head?_ne (h : Quoted quote text value) (hquote : isQuote quote = true)
    (rest : List Char) : (text ++ rest).head? ≠ some '\n' := by
  intro hhead
  cases h with
  | close =>
      cases hhead
      cases hquote
  | plain _ _ hline _ =>
      cases hhead
      exact hline rfl
  | escape =>
      cases hhead

theorem Quoted.readLiteral? (h : Quoted quote text value)
    (hquote : isQuote quote = true) (rest : List Char) :
    readLiteral? quote (text ++ rest) = some (value, rest) := by
  induction h with
  | close =>
      rw [List.singleton_append, Script.readLiteral?, if_pos rfl]
  | plain hne hslash hline _ ih =>
      rw [List.cons_append, Script.readLiteral?, if_neg hne, if_neg hslash,
        if_neg hline, ih]
      rfl
  | escape hescape hquoted ih =>
      have hslash : '\\' ≠ quote := by
        rintro rfl
        cases hquote
      have hread := hescape.readEscape? (hquoted.head?_ne hquote rest)
      rw [List.cons_append, List.append_assoc, Script.readLiteral?, if_neg hslash,
        if_pos rfl]
      split
      · rename_i hnone
        rw [hread] at hnone
        cases hnone
      · rename_i hsome
        rw [hread] at hsome
        cases hsome
        rw [ih]
        rfl

theorem readLiteral?_eq (h : readLiteral? quote cs = some (value, rest)) :
    exists text : List Char, cs = text ++ rest ∧ Quoted quote text value := by
  fun_induction readLiteral? quote cs generalizing value rest with
  | case1 | case3 | case5 =>
      cases h
  | case2 cs =>
      cases h
      exact ⟨[quote], rfl, Quoted.close⟩
  | case4 cs first later hescape _ _ ih =>
      simp only [Option.map_eq_some_iff, Prod.exists, Prod.mk.injEq] at h
      rcases h with ⟨value, r, hlater, rfl, rfl⟩
      rcases readEscape?_eq hescape with ⟨escaped, rfl, hescaped⟩
      rcases ih hlater with ⟨text, rfl, hquoted⟩
      exact ⟨'\\' :: (escaped ++ text), by simp, Quoted.escape hescaped hquoted⟩
  | case6 c cs hne hslash hline ih =>
      simp only [Option.map_eq_some_iff, Prod.exists, Prod.mk.injEq] at h
      rcases h with ⟨value, r, hlater, rfl, rfl⟩
      rcases ih hlater with ⟨text, rfl, hquoted⟩
      exact ⟨c :: text, rfl, Quoted.plain hne hslash hline hquoted⟩

theorem Quoted.getLast? {quote : Char} (h : Quoted quote text value) :
    text.getLast? = some quote := by
  induction h with
  | close =>
      rfl
  | plain _ _ _ _ ih =>
      rw [List.getLast?_cons, ih]
      rfl
  | escape _ _ ih =>
      rw [List.getLast?_cons, List.getLast?_append, ih]
      rfl

theorem Literal.getLast? (h : Literal text value) :
    exists quote : Char, text.getLast? = some quote ∧ isQuote quote = true := by
  cases h with
  | @intro quote text value hquote hquoted =>
      exact ⟨quote, by rw [List.getLast?_cons, hquoted.getLast?]; rfl, hquote⟩

theorem Literal.literal? (h : Literal text value) (rest : List Char) :
    literal? (text ++ rest) = some (value, rest) := by
  cases h with
  | intro hquote hquoted =>
      rw [List.cons_append, Script.literal?, if_pos hquote]
      exact hquoted.readLiteral? hquote rest

theorem literal?_eq_some_iff :
    literal? cs = some (value, rest) <->
      exists text : List Char, cs = text ++ rest ∧ Literal text value := by
  constructor
  · intro h
    cases cs with
    | nil =>
        cases h
    | cons c cs =>
        rw [literal?] at h
        split at h
        · rename_i hquote
          rcases readLiteral?_eq h with ⟨text, rfl, hquoted⟩
          exact ⟨c :: text, rfl, Literal.intro hquote hquoted⟩
        · cases h
  · rintro ⟨text, rfl, hliteral⟩
    exact hliteral.literal? rest

/-!
# Passing over literals
-/

theorem skipString_plain {c : Char} (hne : c ≠ quote) (hslash : c ≠ '\\')
    (hline : c ≠ '\n') (rest : List Char) :
    skipString quote (c :: rest) = skipString quote rest := by
  rw [skipString, if_neg hline, if_neg hne]
  · intro rest hc _
    exact hslash hc
  · intro d rest hc _
    exact hslash hc

theorem skipString_append
    (h : forall c, c ∈ text -> c ≠ quote ∧ c ≠ '\\' ∧ c ≠ '\n') (rest : List Char) :
    skipString quote (text ++ rest) = skipString quote rest := by
  induction text with
  | nil =>
      rfl
  | cons c text ih =>
      rcases h c List.mem_cons_self with ⟨hne, hslash, hline⟩
      rw [List.cons_append, skipString_plain hne hslash hline]
      exact ih fun d hmem => h d (List.mem_cons_of_mem c hmem)

theorem skipString_escape {c : Char} (hreturn : c = '\r' -> rest.head? ≠ some '\n') :
    skipString quote ('\\' :: c :: rest) = skipString quote rest := by
  rw [skipString]
  intro later hc hrest
  rw [hrest] at hreturn
  exact hreturn hc rfl

theorem plain_of_hexValue? {digits : List Char} {n : Nat}
    (hquote : isQuote quote = true) (hn : hexValue? digits = some n) :
    forall c, c ∈ digits -> c ≠ quote ∧ c ≠ '\\' ∧ c ≠ '\n' := by
  intro c hmem
  have hdigit : forall d : Char, hexDigit? d = none -> c ≠ d := by
    intro d hd
    exact ne_of_mem_of_not_mem hmem (not_mem_of_hexValue? hn hd)
  refine ⟨hdigit quote ?_, hdigit '\\' rfl, hdigit '\n' rfl⟩
  rw [isQuote, Bool.or_eq_true, beq_iff_eq, beq_iff_eq] at hquote
  rcases hquote with rfl | rfl
  · rfl
  · rfl

theorem Escape.skipString (h : Escape text value) (hquote : isQuote quote = true)
    (hrest : rest.head? ≠ some '\n') :
    skipString quote ('\\' :: (text ++ rest)) = skipString quote rest := by
  cases h with
  | byte _ hn _ | unit _ hn _ =>
      rw [List.cons_append, skipString_escape (by rintro ⟨⟩)]
      exact skipString_append (plain_of_hexValue? hquote hn) rest
  | braced _ hn _ =>
      have hplain : forall c, c = '{' ∨ c = '}' -> c ≠ quote ∧ c ≠ '\\' ∧ c ≠ '\n' := by
        rw [isQuote, Bool.or_eq_true, beq_iff_eq, beq_iff_eq] at hquote
        rcases hquote with rfl | rfl
        · rintro c (rfl | rfl) <;> decide
        · rintro c (rfl | rfl) <;> decide
      rw [List.cons_append, skipString_escape (by rintro ⟨⟩)]
      apply skipString_append
      intro c hmem
      simp only [List.mem_cons, List.mem_append, List.not_mem_nil, or_false] at hmem
      rcases hmem with hopen | hdigit | hclose
      · exact hplain c (Or.inl hopen)
      · exact plain_of_hexValue? hquote hn c hdigit
      · exact hplain c (Or.inr hclose)
  | lineEnd htext =>
      simp only [lineEnds, List.mem_cons, List.not_mem_nil, or_false] at htext
      rcases htext with rfl | rfl | rfl | rfl | rfl
      · exact skipString_escape fun _ => hrest
      · exact skipString_escape fun _ => hrest
      · rw [List.cons_append, List.singleton_append, Script.skipString]
      · exact skipString_escape fun _ => hrest
      · exact skipString_escape fun _ => hrest
  | plain =>
      exact skipString_escape fun _ => hrest

theorem Quoted.skipString (h : Quoted quote text value)
    (hquote : isQuote quote = true) (rest : List Char) :
    skipString quote (text ++ rest) = rest := by
  have hne : quote ≠ '\\' ∧ quote ≠ '\n' := by
    rw [isQuote, Bool.or_eq_true, beq_iff_eq, beq_iff_eq] at hquote
    rcases hquote with rfl | rfl <;> decide
  induction h with
  | close =>
      rw [List.singleton_append, Script.skipString, if_neg hne.right, if_pos rfl]
      · intro rest hc _
        exact hne.left hc
      · intro d rest hc _
        exact hne.left hc
  | plain hne hslash hline _ ih =>
      rw [List.cons_append, skipString_plain hne hslash hline, ih]
  | escape hescape hquoted ih =>
      rw [List.cons_append, List.append_assoc,
        hescape.skipString hquote (hquoted.head?_ne hquote rest), ih]

end

/-!
# The literals that are written

Every text has a literal, and the reader reads it back.
-/

theorem hexValue?_hexDigits {n : Nat} (h : n < 160) :
    hexValue? (hexDigits 4 n) = some n := by
  revert n
  decide +kernel

theorem newline_not_mem_hexDigits {n : Nat} (h : n < 160) : '\n' ∉ hexDigits 4 n :=
  not_mem_of_hexValue? (hexValue?_hexDigits h) rfl

theorem scalar?_toNat (c : Char) : scalar? c.toNat = some c := by
  have hvalid : c.toNat.isValidChar := c.valid
  rw [scalar?, dif_pos hvalid]
  rfl

theorem isControl_iff {c : Char} :
    isControl c = true <-> c.toNat < 32 ∨ 127 <= c.toNat ∧ c.toNat < 160 := by
  simp [isControl]

theorem quoted_writeChar {text value : List Char} (c : Char)
    (h : Quoted '"' text value) : Quoted '"' (writeChar c ++ text) (c :: value) := by
  have hplain : forall d : Char, d ≠ 'x' -> d ≠ 'u' -> [d] ∉ lineEnds ->
      Quoted '"' ('\\' :: d :: text) ((escape? d).getD d :: value) :=
    fun d hbyte hunit hline => Quoted.escape (Escape.plain hbyte hunit hline) h
  unfold writeChar
  by_cases hslash : c = '\\'
  · rw [if_pos hslash, hslash]
    exact hplain '\\' (by decide) (by decide) (by decide)
  rw [if_neg hslash]
  by_cases hquote : c = '"'
  · rw [if_pos hquote, hquote]
    exact hplain '"' (by decide) (by decide) (by decide)
  rw [if_neg hquote]
  by_cases hline : c = '\n'
  · rw [if_pos hline, hline]
    exact hplain 'n' (by decide) (by decide) (by decide)
  rw [if_neg hline]
  by_cases hreturn : c = '\r'
  · rw [if_pos hreturn, hreturn]
    exact hplain 'r' (by decide) (by decide) (by decide)
  rw [if_neg hreturn]
  by_cases htab : c = '\t'
  · rw [if_pos htab, htab]
    exact hplain 't' (by decide) (by decide) (by decide)
  rw [if_neg htab]
  by_cases hzero : c.toNat = 0
  · have hc : c = '\x00' := Char.toNat_inj.mp hzero
    rw [if_pos hzero, hc]
    exact hplain '0' (by decide) (by decide) (by decide)
  rw [if_neg hzero]
  by_cases hcontrol : isControl c = true
  · rw [if_pos hcontrol]
    rw [isControl_iff] at hcontrol
    have hdigits : hexValue? (hexDigits 4 c.toNat) = some c.toNat :=
      hexValue?_hexDigits (by omega)
    exact Quoted.escape (Escape.unit rfl hdigits (scalar?_toNat c)) h
  · rw [if_neg hcontrol]
    exact Quoted.plain hquote hslash hline h

theorem literal_writeLiteral (value : List Char) :
    Literal (writeLiteral value) value := by
  apply Literal.intro rfl
  induction value with
  | nil =>
      exact Quoted.close
  | cons c value ih =>
      rw [List.flatMap_cons, List.append_assoc]
      exact quoted_writeChar c ih

end Script
end RemoteImports
