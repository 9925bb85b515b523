import RemoteImports.Json.Printer
import RemoteImports.Json.Reader
import RemoteImports.Proofs.Script.Literal

/-!
# Strings of JSON

A string that is written is read back, whatever stands behind its closing
quote.
-/

namespace RemoteImports
namespace Json

open Text

variable {c d : Char} {cs rest : List Char}

theorem readString_close (rest : List Char) : readString ('"' :: rest) = .ok ([], rest) := by
  rw [readString, if_pos rfl]

theorem readString_plain (hquote : c ≠ '"') (hslash : c ≠ '\\') (hcode : ¬ c.toNat < 0x20)
    (rest : List Char) : readString (c :: rest) = prepend c (readString rest) := by
  rw [readString, if_neg hquote, if_neg hslash, if_neg hcode]

theorem readString_escape (h : readEscape cs = .ok (d, rest)) :
    readString ('\\' :: cs) = prepend d (readString rest) := by
  rw [readString, if_neg (by decide), if_pos rfl]
  split
  · rename_i hstop
    rw [h] at hstop
    cases hstop
  · rename_i hread
    rw [h] at hread
    cases hread
    rfl

theorem readEscape_simple (h : simpleEscape? c = some d) (rest : List Char) :
    readEscape (c :: rest) = .ok (d, rest) := by
  rw [readEscape, h]

theorem length_le_byteLength (cs : List Char) : cs.length <= byteLength cs := by
  induction cs with
  | nil =>
      exact Nat.le_refl 0
  | cons c cs ih =>
      have hsize := c.utf8Size_pos
      rw [List.length_cons, byteLength_cons]
      omega

theorem readHex_append {digits : List Char} {n : Nat} (hvalue : hexValue? digits = some n)
    (hlength : digits.length = 4) (rest : List Char) :
    readHex (digits ++ rest) = .ok (n, rest) := by
  have hbytes : ¬ byteLength (digits ++ rest) < 4 := by
    have hdigits := length_le_byteLength digits
    rw [byteLength_append]
    omega
  rw [readHex, if_neg hbytes, ← hlength, List.take_left, List.drop_left, hvalue]

theorem readEscape_code (h : c.toNat < 0x20) (rest : List Char) :
    readEscape ('u' :: (hexDigits 4 c.toNat ++ rest)) = .ok (c, rest) := by
  have hvalue : hexValue? (hexDigits 4 c.toNat) = some c.toNat :=
    Script.hexValue?_hexDigits (by omega)
  have hsimple : simpleEscape? 'u' = none := rfl
  rw [readEscape, hsimple]
  simp only [if_pos, readUnicode, readHex_append hvalue rfl, bind, Except.bind]
  rw [if_neg (by omega), if_pos (by omega), Char.ofNat_toNat]

theorem readString_writeChar (c : Char) (rest : List Char) :
    readString (writeChar c ++ rest) = prepend c (readString rest) := by
  unfold writeChar
  by_cases hquote : c = '"'
  · rw [if_pos hquote, hquote]
    exact readString_escape (readEscape_simple rfl rest)
  rw [if_neg hquote]
  by_cases hslash : c = '\\'
  · rw [if_pos hslash, hslash]
    exact readString_escape (readEscape_simple rfl rest)
  rw [if_neg hslash]
  by_cases hback : c.toNat = 8
  · have hc : c = Char.ofNat 8 := Char.toNat_inj.mp hback
    rw [if_pos hback, hc]
    exact readString_escape (readEscape_simple rfl rest)
  rw [if_neg hback]
  by_cases htab : c = '\t'
  · rw [if_pos htab, htab]
    exact readString_escape (readEscape_simple rfl rest)
  rw [if_neg htab]
  by_cases hline : c = '\n'
  · rw [if_pos hline, hline]
    exact readString_escape (readEscape_simple rfl rest)
  rw [if_neg hline]
  by_cases hfeed : c.toNat = 12
  · have hc : c = Char.ofNat 12 := Char.toNat_inj.mp hfeed
    rw [if_pos hfeed, hc]
    exact readString_escape (readEscape_simple rfl rest)
  rw [if_neg hfeed]
  by_cases hreturn : c = '\r'
  · rw [if_pos hreturn, hreturn]
    exact readString_escape (readEscape_simple rfl rest)
  rw [if_neg hreturn]
  by_cases hcode : c.toNat < 0x20
  · rw [if_pos hcode]
    exact readString_escape (readEscape_code hcode rest)
  · rw [if_neg hcode]
    exact readString_plain hquote hslash hcode rest

theorem readString_flatMap_writeChar (text rest : List Char) :
    readString (text.flatMap writeChar ++ '"' :: rest) = .ok (text, rest) := by
  induction text with
  | nil =>
      exact readString_close rest
  | cons c text ih =>
      rw [List.flatMap_cons, List.append_assoc, readString_writeChar, ih]
      rfl

theorem compact_string (text : String) (rest : List Char) :
    compact (string text) ++ rest =
      '"' :: (text.toList.flatMap writeChar ++ '"' :: rest) := by
  rw [compact, writeString, List.cons_append, List.append_assoc, List.singleton_append]

theorem readScalar_string (text : String) (rest : List Char) :
    readScalar (compact (string text) ++ rest) = .ok (some (string text), rest) := by
  rw [compact_string, readScalar, if_neg (by decide), if_pos rfl,
    readString_flatMap_writeChar]
  simp only [Except.map, String.ofList_toList]

theorem skipBlanks_string (text : String) (rest : List Char) :
    skipBlanks (compact (string text) ++ rest) = compact (string text) ++ rest := by
  rw [compact_string]
  rfl

theorem readText_string (text : String) (rest : List Char) :
    readText (compact (string text) ++ rest) = .ok (text, rest) := by
  rw [readText, readOnly]
  simp only [skipBlanks_string, readScalar_string]

theorem readOptional_string (text : String) (rest : List Char) :
    readOptional readText (compact (string text) ++ rest) = .ok (some text, rest) := by
  have hread := readText_string text rest
  rw [readOptional, skipBlanks_string]
  rw [compact_string] at hread ⊢
  change Except.map _ (readText _) = _
  rw [hread]
  rfl

end Json
end RemoteImports
