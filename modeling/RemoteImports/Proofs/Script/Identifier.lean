import RemoteImports.Proofs.Script.Trivia
import RemoteImports.Proofs.Text.OtherCase
import RemoteImports.Script.Syntax

/-!
# Identifiers are words

What needs no quotes as a key is a word, and changing the case of letters keeps
to the characters of words.  Beyond ASCII every character may be part of a word,
so only what the tables say of ASCII is looked at.
-/

namespace RemoteImports
namespace Script

open Text.Unicode

theorem isWordStart_of_isIdentifierStart {c : Char} (h : isIdentifierStart c = true) :
    isWordStart c = true := by
  have hascii : forall n, n < 128 ->
      isIdentifierStart (Char.ofNat n) = true -> isWordStart (Char.ofNat n) = true := by
    decide +kernel
  by_cases hc : c.toNat < 128
  · have hcode := hascii c.toNat hc
    rw [Char.ofNat_toNat] at hcode
    exact hcode h
  · rw [isWordStart_iff]
    omega

theorem isWordPart_of_isIdentifierPart {c : Char} (h : isIdentifierPart c = true) :
    isWordPart c = true := by
  have hascii : forall n, n < 128 ->
      isIdentifierPart (Char.ofNat n) = true -> isWordPart (Char.ofNat n) = true := by
    decide +kernel
  by_cases hc : c.toNat < 128
  · have hcode := hascii c.toNat hc
    rw [Char.ofNat_toNat] at hcode
    exact hcode h
  · apply isWordPart_of_isWordStart
    rw [isWordStart_iff]
    omega

theorem isWord_of_isIdentifier {name : String} (h : isIdentifier name = true) :
    IsWord name.toList := by
  rw [isIdentifier] at h
  cases hname : name.toList with
  | nil =>
      rw [hname] at h
      cases h
  | cons c cs =>
      rw [hname] at h
      rw [Bool.and_eq_true, List.all_eq_true] at h
      refine ⟨isWordStart_of_isIdentifierStart h.left, ?_⟩
      intro d hd
      exact isWordPart_of_isIdentifierPart (h.right d hd)

/-!
# The other case
-/

theorem isWordPart_of_isLetter {c : Char} (h : isLetter c.toNat = true) :
    isWordPart c = true := by
  have hrange := range_of_isLetter h
  apply isWordPart_of_isWordStart
  rw [isWordStart_iff]
  omega

theorem isWordPart_of_isMark {c : Char} (h : isMark c.toNat = true) :
    isWordPart c = true := by
  rw [isMark_iff] at h
  apply isWordPart_of_isWordStart
  rw [isWordStart_iff]
  omega

theorem isWordPart_of_isCircled {c : Char} (h : isCircled c.toNat = true) :
    isWordPart c = true := by
  rw [isCircled_iff] at h
  apply isWordPart_of_isWordStart
  rw [isWordStart_iff]
  omega

theorem isWordPart_of_turned {c : Char} {image : List Char} (h : Turned c image)
    (hc : isWordPart c = true) : forall d, d ∈ image -> isWordPart d = true := by
  cases h with
  | same =>
      simpa using hc
  | letter d marks hc hd hmarks =>
      rw [List.forall_mem_cons]
      refine ⟨isWordPart_of_isLetter hd, ?_⟩
      intro e he
      exact (hmarks e he).elim isWordPart_of_isLetter isWordPart_of_isMark
  | circled d hc hd =>
      rw [List.forall_mem_singleton]
      exact isWordPart_of_isCircled hd
  | iota d hc hd =>
      rw [List.forall_mem_singleton]
      exact isWordPart_of_isLetter hd

theorem isWordPart_toUpper {c : Char} (hc : isWordPart c = true) :
    forall d, d ∈ toUpper c -> isWordPart d = true :=
  isWordPart_of_turned (turned_toUpper c) hc

theorem isWordPart_toLower {c : Char} (hc : isWordPart c = true) :
    forall d, d ∈ toLower c -> isWordPart d = true :=
  isWordPart_of_turned (turned_toLower c) hc

end Script
end RemoteImports
