import RemoteImports.Proofs.Text.IdentifierClasses
import RemoteImports.Proofs.Text.Octets
import RemoteImports.Text.Unicode.CaseMap

/-!
# Characters with another case

The letters with another case lie in a few stretches of ID_Start, and so does what
they become.  Apart from them there are the letters in circles, which stay in
their circles, and the iota below a letter, a mark that becomes a letter.
-/

namespace RemoteImports
namespace Text
namespace Unicode

def letterBounds : List Nat := [
    0x41, 0x5B, 0x61, 0x7B, 0xB5, 0xB6, 0xC0, 0xD7, 0xD8, 0xF7, 0xF8, 0x2C2, 0x370, 0x375, 0x376,
    0x378, 0x37A, 0x37E, 0x37F, 0x380, 0x386, 0x387, 0x388, 0x38B, 0x38C, 0x38D, 0x38E, 0x3A2,
    0x3A3, 0x3F6, 0x3F7, 0x482, 0x48A, 0x530, 0x531, 0x557, 0x560, 0x589, 0x10A0, 0x10C6, 0x10C7,
    0x10C8, 0x10CD, 0x10CE, 0x10D0, 0x10FB, 0x10FC, 0x1249, 0x13A0, 0x13F6, 0x13F8, 0x13FE, 0x1C80,
    0x1C8B, 0x1C90, 0x1CBB, 0x1CBD, 0x1CC0, 0x1D00, 0x1DC0, 0x1E00, 0x1F16, 0x1F18, 0x1F1E, 0x1F20,
    0x1F46, 0x1F48, 0x1F4E, 0x1F50, 0x1F58, 0x1F59, 0x1F5A, 0x1F5B, 0x1F5C, 0x1F5D, 0x1F5E, 0x1F5F,
    0x1F7E, 0x1F80, 0x1FB5, 0x1FB6, 0x1FBD, 0x1FBE, 0x1FBF, 0x1FC2, 0x1FC5, 0x1FC6, 0x1FCD, 0x1FD0,
    0x1FD4, 0x1FD6, 0x1FDC, 0x1FE0, 0x1FED, 0x1FF2, 0x1FF5, 0x1FF6, 0x1FFD, 0x2126, 0x2127, 0x212A,
    0x213A, 0x214E, 0x214F, 0x2160, 0x2189, 0x2C00, 0x2CE5, 0x2CEB, 0x2CEF, 0x2CF2, 0x2CF4, 0x2D00,
    0x2D26, 0x2D27, 0x2D28, 0x2D2D, 0x2D2E, 0xA640, 0xA66F, 0xA67F, 0xA69E, 0xA722, 0xA789, 0xA78B,
    0xA7DD, 0xA7F1, 0xA802, 0xAB30, 0xAB5B, 0xAB70, 0xABE3, 0xFB00, 0xFB07, 0xFB13, 0xFB18, 0xFF21,
    0xFF3B, 0xFF41, 0xFF5B, 0x10400, 0x1049E, 0x104B0, 0x104D4, 0x104D8, 0x104FC, 0x10570, 0x1057B,
    0x1057C, 0x1058B, 0x1058C, 0x10593, 0x10594, 0x10596, 0x10597, 0x105A2, 0x105A3, 0x105B2,
    0x105B3, 0x105BA, 0x105BB, 0x105BD, 0x10C80, 0x10CB3, 0x10CC0, 0x10CF3, 0x10D4A, 0x10D66,
    0x10D6F, 0x10D86, 0x118A0, 0x118E0, 0x16E40, 0x16E80, 0x16EA0, 0x16EB9, 0x16EBB, 0x16ED4,
    0x1E900, 0x1E944]

def isLetter (n : Nat) : Bool :=
  holdsThrough false letterBounds n n

def isMark (n : Nat) : Bool :=
  Nat.ble 0x300 n && Nat.ble n 0x36F

def isCircled (n : Nat) : Bool :=
  Nat.ble 0x24B6 n && Nat.ble n 0x24E9

def iotaBelow : Nat := 0x345

theorem isMark_iff {n : Nat} : isMark n = true <-> 0x300 <= n ∧ n <= 0x36F := by
  rw [isMark, Bool.and_eq_true, Nat.ble_eq, Nat.ble_eq]

theorem isCircled_iff {n : Nat} : isCircled n = true <-> 0x24B6 <= n ∧ n <= 0x24E9 := by
  rw [isCircled, Bool.and_eq_true, Nat.ble_eq, Nat.ble_eq]

theorem isLetter_eq (n : Nat) : isLetter n = holdsFrom false letterBounds n :=
  holdsThrough_self false letterBounds n

theorem isLetter_of_holdsThrough {first last n : Nat}
    (h : holdsThrough false letterBounds first last = true) (hfirst : first <= n)
    (hlast : n <= last) : isLetter n = true := by
  rw [isLetter_eq]
  exact holdsFrom_of_holdsThrough h hfirst hlast

theorem isIdStart_of_isLetter {c : Char} (h : isLetter c.toNat = true) :
    isIdStart c = true := by
  have hcovers : covers 2000 ⟨false, letterBounds⟩ ⟨false, idStartBounds⟩ ⟨false, []⟩ =
      true := by
    decide +kernel
  rw [isLetter_eq] at h
  exact holdsFrom_of_covers hcovers h

theorem isIdContinue_of_isMark {c : Char} (h : isMark c.toNat = true) :
    isIdContinue c = true := by
  have hthrough : holdsThrough false idContinueBounds 0x300 0x36F = true := by
    decide
  rw [isMark_iff] at h
  exact holdsFrom_of_holdsThrough hthrough h.left h.right

theorem isStray_of_isCircled {c : Char} (h : isCircled c.toNat = true) :
    isStray c = true := by
  have hthrough : holdsThrough false strayBounds 0x24B6 0x24E9 = true := by
    decide
  rw [isCircled_iff] at h
  exact holdsFrom_of_holdsThrough hthrough h.left h.right

/-- Among the ASCII characters only the letters can be, and no surrogate. -/
theorem range_of_isLetter {n : Nat} (h : isLetter n = true) :
    0x41 <= n ∧ n < 0x5B ∨ 0x61 <= n ∧ n < 0x7B ∨ 0x80 <= n ∧ n < 0xD800 ∨
      0xE000 <= n ∧ n < 0x110000 := by
  have hcovers : covers 200 ⟨false, letterBounds⟩
      ⟨false, [0x41, 0x5B, 0x61, 0x7B, 0x80, 0xD800, 0xE000, 0x110000]⟩ ⟨false, []⟩ =
        true := by
    decide +kernel
  rw [isLetter_eq] at h
  have hrange := holdsFrom_of_covers hcovers h
  simp only [holdsFrom] at hrange
  grind

theorem toNat_ofNat_of_isLetter {n : Nat} (h : isLetter n = true) :
    (Char.ofNat n).toNat = n := by
  have hrange := range_of_isLetter h
  apply toNat_ofNat_of_isValidChar
  unfold Nat.isValidChar
  omega

theorem toNat_ofNat_of_isMark {n : Nat} (h : isMark n = true) :
    (Char.ofNat n).toNat = n := by
  rw [isMark_iff] at h
  exact toNat_ofNat_of_isValidChar (Or.inl (by omega))

theorem toNat_ofNat_of_isCircled {n : Nat} (h : isCircled n = true) :
    (Char.ofNat n).toNat = n := by
  rw [isCircled_iff] at h
  exact toNat_ofNat_of_isValidChar (Or.inl (by omega))

/-!
# What the characters become
-/

/-- What a character becomes in another case. -/
inductive Turned (c : Char) : List Char -> Prop
  | same : Turned c [c]
  | letter (d : Char) (marks : List Char) (hc : isLetter c.toNat = true)
      (hd : isLetter d.toNat = true)
      (hmarks : forall e, e ∈ marks -> isLetter e.toNat = true ∨ isMark e.toNat = true) :
      Turned c (d :: marks)
  | circled (d : Char) (hc : isCircled c.toNat = true) (hd : isCircled d.toNat = true) :
      Turned c [d]
  | iota (d : Char) (hc : c.toNat = iotaBelow) (hd : isLetter d.toNat = true) : Turned c [d]

def turns (n m : Nat) : Bool :=
  (isLetter n && isLetter m) || (isCircled n && isCircled m) ||
    (n == iotaBelow && isLetter m)

theorem turned_of_turns {c : Char} {m : Nat} (h : turns c.toNat m = true) :
    Turned c [Char.ofNat m] := by
  simp only [turns, Bool.or_eq_true, Bool.and_eq_true, beq_iff_eq] at h
  rcases h with (⟨hc, hm⟩ | ⟨hc, hm⟩) | ⟨hc, hm⟩
  · exact .letter _ [] hc (by rwa [toNat_ofNat_of_isLetter hm]) (by simp)
  · exact .circled _ hc (by rwa [toNat_ofNat_of_isCircled hm])
  · exact .iota _ hc (by rwa [toNat_ofNat_of_isLetter hm])

def turnsRun : Nat × Nat × Nat × Nat -> Bool
  | (first, last, step, image) =>
      (holdsThrough false letterBounds first last &&
          holdsThrough false letterBounds image (image + (last - first))) ||
        (List.range (last - first + 1)).all fun k =>
          k % step != 0 || turns (first + k) (image + k)

theorem turns_of_turnsRun {first last step image n : Nat}
    (h : turnsRun (first, last, step, image) = true) (hfirst : first <= n) (hlast : n <= last)
    (hstep : (n - first) % step = 0) : turns n (image + (n - first)) = true := by
  rw [turnsRun, Bool.or_eq_true] at h
  rcases h with hletters | heach
  · rw [Bool.and_eq_true] at hletters
    have hn := isLetter_of_holdsThrough hletters.left hfirst hlast
    have himage := isLetter_of_holdsThrough (n := image + (n - first)) hletters.right
      (by omega) (by omega)
    simp [turns, hn, himage]
  · rw [List.all_eq_true] at heach
    have hhere := heach (n - first) (List.mem_range.mpr (by omega))
    simpa [hstep, Nat.add_sub_cancel' hfirst] using hhere

def turnsSequence : Nat × List Nat -> Bool
  | (_, []) => false
  | (n, m :: marks) => isLetter n && isLetter m && marks.all fun k => isLetter k || isMark k

theorem turned_of_turnsSequence {c : Char} {image : List Nat}
    (h : turnsSequence (c.toNat, image) = true) : Turned c (image.map Char.ofNat) := by
  cases image with
  | nil =>
      cases h
  | cons m marks =>
      rw [turnsSequence, Bool.and_eq_true, Bool.and_eq_true, List.all_eq_true] at h
      rcases h with ⟨⟨hc, hm⟩, hmarks⟩
      refine .letter _ _ hc (by rwa [toNat_ofNat_of_isLetter hm]) ?_
      intro e he
      rcases List.mem_map.mp he with ⟨k, hk, rfl⟩
      rcases Bool.or_eq_true_iff.mp (hmarks k hk) with hletter | hmark
      · exact Or.inl (by rwa [toNat_ofNat_of_isLetter hletter])
      · exact Or.inr (by rwa [toNat_ofNat_of_isMark hmark])

theorem turned_mapCase {runs : List (Nat × Nat × Nat × Nat)}
    {sequences : List (Nat × List Nat)} (hruns : runs.all turnsRun = true)
    (hsequences : sequences.all turnsSequence = true) (c : Char) :
    Turned c ((mapCase runs sequences c.toNat).map Char.ofNat) := by
  rw [List.all_eq_true] at hruns hsequences
  unfold mapCase
  split
  · rename_i image hlookup
    rcases List.lookup_eq_some_iff.mp hlookup with ⟨before, behind, hrows, _⟩
    apply turned_of_turnsSequence
    apply hsequences
    rw [hrows]
    exact List.mem_append_right before List.mem_cons_self
  · split
    · rename_i first last step image hfind
      have hrun := hruns _ (List.mem_of_find?_eq_some hfind)
      have hbounds := List.find?_some hfind
      simp only [Bool.and_eq_true, decide_eq_true_eq, beq_iff_eq] at hbounds
      rcases hbounds with ⟨⟨hfirst, hlast⟩, hstep⟩
      exact turned_of_turns (turns_of_turnsRun hrun hfirst hlast hstep)
    · rw [List.map_singleton, Char.ofNat_toNat]
      exact .same

theorem turns_tables :
    (upperRuns.all turnsRun = true ∧ upperSequences.all turnsSequence = true) ∧
      lowerRuns.all turnsRun = true ∧ lowerSequences.all turnsSequence = true := by
  decide +kernel

theorem turned_toUpper (c : Char) : Turned c (toUpper c) :=
  turned_mapCase turns_tables.left.left turns_tables.left.right c

theorem turned_toLower (c : Char) : Turned c (toLower c) :=
  turned_mapCase turns_tables.right.left turns_tables.right.right c

end Unicode
end Text
end RemoteImports
