import RemoteImports.Text.Bytes
import RemoteImports.Text.Utf8

/-!
# The octets of a text

A program that reads a script octet by octet sees each of them as a character of
its own.  What is ASCII looks the same to it; every other character is a run of
octets beyond ASCII.

Where such a program cuts a text, it must do so between characters.
-/

namespace RemoteImports
namespace Text

/-- The octets of a text, each as the character of its number. -/
def octets (cs : List Char) : List Char :=
  (Utf8.encode cs).map fun b => Char.ofNat b.toNat

/-- The octet at a place, if the place is in the text. -/
def peek (cs : List Char) (place : Nat) : Option Char :=
  (octets cs)[place]?

def IsBoundary (cs : List Char) (place : Nat) : Prop :=
  byteLength (takeBytes place cs) = place

instance (cs : List Char) (place : Nat) : Decidable (IsBoundary cs place) :=
  inferInstanceAs (Decidable (_ = _))

/-- The part of a text between two places, unless they are out of order, behind
its end, or within a character. -/
def slice? (cs : List Char) (start stop : Nat) : Option (List Char) :=
  if start <= stop ∧ stop <= byteLength cs ∧ IsBoundary cs start ∧ IsBoundary cs stop then
    some (takeBytes (stop - start) (dropBytes start cs))
  else none

def Uniform (p : Char -> Bool) : Prop :=
  exists answer : Bool, forall c : Char, 128 <= c.toNat -> p c = answer

structure Leaves (cs : List Char) (place : Nat) (rest : List Char) : Prop where
  suffix : rest <:+ cs
  drop : (octets cs).drop place = octets rest

structure At (cs : List Char) (place : Nat) (rest : List Char) : Prop
    extends Leaves cs place rest where
  bound : place <= byteLength cs

section

variable {c : Char} {cs before text rest : List Char} {p : Char -> Bool}
  {place start stop : Nat}

/-!
# One character
-/

theorem toNat_ofNat_of_isValidChar {n : Nat} (h : n.isValidChar) :
    (Char.ofNat n).toNat = n := by
  rw [Char.ofNat, dif_pos h]
  rfl

theorem toNat_octet (b : UInt8) : (Char.ofNat b.toNat).toNat = b.toNat :=
  toNat_ofNat_of_isValidChar (Or.inl (Nat.lt_trans b.toNat_lt (by decide)))

theorem utf8Size_eq (c : Char) :
    c.utf8Size =
      if c.toNat < 0x80 then 1
      else if c.toNat < 0x800 then 2
      else if c.toNat < 0x10000 then 3
      else 4 := by
  have hle : forall n : UInt32, c.val <= n <-> c.toNat < n.toNat + 1 := by
    intro n
    rw [UInt32.le_iff_toNat_le, Nat.lt_succ_iff]
    rfl
  simp only [Char.utf8Size, hle]
  rfl

@[simp] theorem octets_nil : octets [] = [] := rfl

theorem octets_cons (c : Char) (cs : List Char) :
    octets (c :: cs) = octets [c] ++ octets cs := by
  rw [octets, octets, octets, Utf8.encode, Utf8.encode, Utf8.encode, List.flatMap_cons,
    List.flatMap_cons, List.map_append, List.map_append, List.flatMap_nil, List.map_nil,
    List.append_nil]

theorem octets_append (cs later : List Char) :
    octets (cs ++ later) = octets cs ++ octets later := by
  induction cs with
  | nil =>
      rfl
  | cons c cs ih =>
      rw [List.cons_append, octets_cons, ih, octets_cons c cs, List.append_assoc]

theorem octets_of_ascii (h : c.toNat < 128) (cs : List Char) :
    octets (c :: cs) = c :: octets cs := by
  have hbyte : (UInt8.ofNat c.toNat).toNat = c.toNat :=
    UInt8.toNat_ofNat_of_lt' (Nat.lt_trans h (by decide))
  have hchar : octets [c] = [c] := by
    simp only [octets, Utf8.encode, Utf8.encodeChar, List.flatMap_cons, List.flatMap_nil,
      if_pos h, List.append_nil, List.map_cons, List.map_nil, hbyte, Char.ofNat_toNat]
  rw [octets_cons, hchar]
  rfl

theorem high_of_mem_encodeChar (h : 128 <= c.toNat) {b : UInt8}
    (hmem : b ∈ Utf8.encodeChar c) : 128 <= b.toNat := by
  have hvalid : c.toNat < 0x110000 := by
    rcases c.valid with hlow | ⟨_, hhigh⟩
    · exact Nat.lt_trans hlow (by decide)
    · exact hhigh
  unfold Utf8.encodeChar at hmem
  rw [if_neg (Nat.not_lt.mpr h)] at hmem
  split at hmem
  · simp only [List.mem_cons, List.not_mem_nil, or_false] at hmem
    rcases hmem with rfl | rfl <;> rw [UInt8.toNat_ofNat'] <;> omega
  split at hmem
  · simp only [List.mem_cons, List.not_mem_nil, or_false] at hmem
    rcases hmem with rfl | rfl | rfl <;> rw [UInt8.toNat_ofNat'] <;> omega
  · simp only [List.mem_cons, List.not_mem_nil, or_false] at hmem
    rcases hmem with rfl | rfl | rfl | rfl <;> rw [UInt8.toNat_ofNat'] <;> omega

theorem high_of_mem_octets (h : 128 <= c.toNat) :
    forall d, d ∈ octets [c] -> 128 <= d.toNat := by
  intro d hmem
  rw [octets, Utf8.encode, List.flatMap_cons, List.flatMap_nil, List.append_nil] at hmem
  rcases List.mem_map.mp hmem with ⟨b, hb, rfl⟩
  rw [toNat_octet]
  exact high_of_mem_encodeChar h hb

theorem length_octets (cs : List Char) : (octets cs).length = byteLength cs := by
  induction cs with
  | nil =>
      rfl
  | cons c cs ih =>
      rw [octets_cons, List.length_append, ih, byteLength_cons, utf8Size_eq]
      simp only [octets, Utf8.encode, Utf8.encodeChar, List.flatMap_cons, List.flatMap_nil,
        List.append_nil, List.length_map]
      repeat' split
      all_goals rfl

theorem exists_octets_of_high (h : 128 <= c.toNat) :
    exists (d : Char) (ds : List Char),
      octets [c] = d :: ds ∧ forall e, e ∈ d :: ds -> 128 <= e.toNat := by
  have hhigh := high_of_mem_octets h
  cases hoctets : octets [c] with
  | nil =>
      have hlength := length_octets [c]
      rw [hoctets, byteLength_cons] at hlength
      have hpos := c.utf8Size_pos
      rw [List.length_nil] at hlength
      omega
  | cons d ds =>
      rw [hoctets] at hhigh
      exact ⟨d, ds, rfl, hhigh⟩

/-!
# Tests on octets
-/

theorem uniform_of_ascii (h : forall c : Char, p c = true -> c.toNat < 128) : Uniform p := by
  refine ⟨false, fun c hhigh => ?_⟩
  rw [Bool.eq_false_iff]
  exact fun hc => absurd (h c hc) (Nat.not_lt.mpr hhigh)

theorem takeWhile_octets (hp : Uniform p) (cs : List Char) :
    (octets cs).takeWhile p = octets (cs.takeWhile p) := by
  rcases hp with ⟨answer, hp⟩
  induction cs with
  | nil =>
      rfl
  | cons c cs ih =>
      by_cases hascii : c.toNat < 128
      · rw [octets_of_ascii hascii, List.takeWhile_cons, List.takeWhile_cons, ih]
        split
        · rw [octets_of_ascii hascii]
        · rfl
      · rcases exists_octets_of_high (Nat.not_lt.mp hascii) with ⟨d, ds, hoctets, hhigh⟩
        rw [octets_cons, List.takeWhile_cons, hp c (Nat.not_lt.mp hascii)]
        cases answer with
        | true =>
            rw [List.takeWhile_append_of_pos, ih, if_pos rfl,
              octets_cons c (cs.takeWhile p)]
            intro e hmem
            rw [hoctets] at hmem
            exact hp e (hhigh e hmem)
        | false =>
            rw [hoctets, List.cons_append,
              List.takeWhile_cons_of_neg (by simp [hp d (hhigh d List.mem_cons_self)])]
            rfl

theorem dropWhile_octets (hp : Uniform p) (cs : List Char) :
    (octets cs).dropWhile p = octets (cs.dropWhile p) := by
  have hsplit : (octets cs).takeWhile p ++ (octets cs).dropWhile p = octets cs :=
    List.takeWhile_append_dropWhile
  have hsplit' : octets (cs.takeWhile p) ++ octets (cs.dropWhile p) = octets cs := by
    rw [← octets_append, List.takeWhile_append_dropWhile]
  rw [takeWhile_octets hp] at hsplit
  exact List.append_cancel_left (hsplit.trans hsplit'.symm)

theorem head?_octets_eq_some_iff (hc : c.toNat < 128) :
    (octets cs).head? = some c <-> cs.head? = some c := by
  cases cs with
  | nil =>
      rfl
  | cons d cs =>
      by_cases hascii : d.toNat < 128
      · rw [octets_of_ascii hascii]
        rfl
      · rcases exists_octets_of_high (Nat.not_lt.mp hascii) with ⟨e, es, hoctets, hhigh⟩
        have he := hhigh e List.mem_cons_self
        rw [octets_cons, hoctets, List.cons_append, List.head?_cons, List.head?_cons,
          Option.some.injEq, Option.some.injEq]
        constructor
        · rintro rfl
          omega
        · rintro rfl
          omega

theorem head?_octets_any (hp : Uniform p) (cs : List Char) :
    (octets cs).head?.any p = cs.head?.any p := by
  rcases hp with ⟨answer, hp⟩
  cases cs with
  | nil =>
      rfl
  | cons c cs =>
      by_cases hascii : c.toNat < 128
      · rw [octets_of_ascii hascii]
        rfl
      · rcases exists_octets_of_high (Nat.not_lt.mp hascii) with ⟨d, ds, hoctets, hhigh⟩
        rw [octets_cons, hoctets]
        exact (hp d (hhigh d List.mem_cons_self)).trans (hp c (Nat.not_lt.mp hascii)).symm

/-!
# Slices
-/

theorem isBoundary_iff :
    IsBoundary cs place <->
      exists front later : List Char, cs = front ++ later ∧ byteLength front = place := by
  constructor
  · intro h
    exact ⟨_, _, (takeBytes_append_dropBytes place cs).symm, h⟩
  · rintro ⟨front, later, rfl, rfl⟩
    rw [IsBoundary, takeBytes_byteLength_append]

/-- A slice is a part of the text, with its places where the part begins and
ends. -/
theorem slice?_eq_some_iff :
    slice? cs start stop = some text <->
      exists before rest : List Char, cs = before ++ (text ++ rest) ∧
        start = byteLength before ∧ stop = byteLength (before ++ text) := by
  constructor
  · intro h
    unfold slice? at h
    split at h
    · rename_i hplaces
      rcases hplaces with ⟨horder, _, hstart, hstop⟩
      have htext : takeBytes (stop - start) (dropBytes start cs) = text := Option.some.inj h
      have hcs := takeBytes_append_dropBytes start cs
      have hbefore : byteLength (takeBytes start cs) = start := hstart
      have hboth : takeBytes stop cs = takeBytes start cs ++ text := by
        have hadd := takeBytes_add_append (takeBytes start cs) (dropBytes start cs)
          (stop - start)
        rwa [hcs, hbefore, htext, Nat.add_sub_cancel' horder] at hadd
      refine ⟨takeBytes start cs, dropBytes (stop - start) (dropBytes start cs), ?_,
        hstart.symm, ?_⟩
      · rw [← htext, takeBytes_append_dropBytes, hcs]
      · rw [← hboth]
        exact hstop.symm
    · cases h
  · rintro ⟨before, rest, rfl, rfl, rfl⟩
    have hstart : IsBoundary (before ++ (text ++ rest)) (byteLength before) :=
      isBoundary_iff.mpr ⟨_, _, rfl, rfl⟩
    have hstop : IsBoundary (before ++ (text ++ rest)) (byteLength (before ++ text)) :=
      isBoundary_iff.mpr ⟨_, _, (List.append_assoc _ _ _).symm, rfl⟩
    have hends : byteLength (before ++ text) <= byteLength (before ++ (text ++ rest)) := by
      simp only [byteLength_append]
      omega
    rw [slice?, if_pos ⟨by simp, hends, hstart, hstop⟩, dropBytes_byteLength_append,
      byteLength_append, Nat.add_sub_cancel_left, takeBytes_byteLength_append]

/-!
# Places
-/

theorem Leaves.length (h : Leaves cs place rest) :
    byteLength cs - place = byteLength rest := by
  have hlength := congrArg List.length h.drop
  rwa [List.length_drop, length_octets, length_octets] at hlength

theorem byteLength_eq_zero_iff : byteLength cs = 0 <-> cs = [] := by
  cases cs with
  | nil =>
      simp
  | cons c cs =>
      have hpos := c.utf8Size_pos
      rw [byteLength_cons]
      constructor
      · intro h
        omega
      · rintro ⟨⟩

theorem Leaves.toAt (h : Leaves cs place rest) (hne : rest ≠ []) : At cs place rest := by
  refine ⟨h, ?_⟩
  have hlength := h.length
  have hrest := mt byteLength_eq_zero_iff.mp hne
  omega

theorem At.place_eq (h : At cs place rest) (hcs : cs = before ++ rest) :
    place = byteLength before := by
  have hlength := h.length
  have hbound := h.bound
  rw [hcs, byteLength_append] at hlength hbound
  omega

theorem At.eq_sub (h : At cs place rest) : place = byteLength cs - byteLength rest := by
  have hlength := h.length
  have hbound := h.bound
  omega

theorem At.le_of_suffix {later : List Char} (hstart : At cs start rest)
    (hstop : At cs stop later) (h : later <:+ rest) : start <= stop := by
  have hle := byteLength_le_of_suffix h
  have hfirst := hstart.length
  have hlast := hstop.length
  have hstart := hstart.bound
  have hstop := hstop.bound
  omega

theorem at_append (before rest : List Char) : At (before ++ rest) (byteLength before) rest := by
  refine ⟨⟨List.suffix_append before rest, ?_⟩, ?_⟩
  · rw [octets_append, ← length_octets, List.drop_left]
  · rw [byteLength_append]
    exact Nat.le_add_right _ _

theorem At.append (h : At cs place (text ++ rest)) :
    At cs (place + byteLength text) rest := by
  rcases h.suffix with ⟨before, hbefore⟩
  rw [h.place_eq hbefore.symm, ← byteLength_append, ← hbefore, ← List.append_assoc]
  exact at_append _ _

theorem At.slice (h : At cs place (text ++ rest)) :
    slice? cs place (place + byteLength text) = some text := by
  rcases h.suffix with ⟨before, hbefore⟩
  rw [h.place_eq hbefore.symm]
  exact slice?_eq_some_iff.mpr ⟨before, rest, hbefore.symm, rfl, (byteLength_append _ _).symm⟩

theorem At.slice_end (h : At cs place rest) :
    slice? cs place (byteLength cs) = some rest := by
  have hlength := h.length
  have hbound := h.bound
  have hend : place + byteLength rest = byteLength cs := by
    omega
  rw [← List.append_nil rest] at h
  rw [← hend]
  exact h.slice

theorem Leaves.peek (h : Leaves cs place rest) : Text.peek cs place = (octets rest).head? := by
  rw [Text.peek, ← h.drop, List.head?_drop]

theorem Leaves.peek_eq_some_iff (h : Leaves cs place rest) (hc : c.toNat < 128) :
    Text.peek cs place = some c <-> rest.head? = some c := by
  rw [h.peek, head?_octets_eq_some_iff hc]

theorem Leaves.peek_any (h : Leaves cs place rest) (hp : Uniform p) :
    (Text.peek cs place).any p = rest.head?.any p := by
  rw [h.peek, head?_octets_any hp]

theorem At.next (h : At cs place (c :: rest)) (hc : c.toNat < 128) :
    At cs (place + 1) rest := by
  have hsize : byteLength [c] = 1 := by
    rw [byteLength_cons, byteLength_nil, utf8Size_eq, if_pos hc]
  have hnext : At cs (place + byteLength [c]) rest := h.append
  rwa [hsize] at hnext

/-- An ASCII character among the octets is a character of the text: no octet of
any other character is one. -/
theorem exists_at_of_peek (hc : c.toNat < 128) (h : Text.peek cs place = some c) :
    exists rest : List Char, At cs place (c :: rest) := by
  induction cs generalizing place with
  | nil =>
      cases h
  | cons d cs ih =>
      rw [Text.peek, octets_cons] at h
      by_cases hinside : place < (octets [d]).length
      · rw [List.getElem?_append_left hinside] at h
        have hmem := List.mem_of_getElem? h
        have hd : d.toNat < 128 := by
          apply Nat.lt_of_not_le
          intro hhigh
          exact Nat.not_lt.mpr (high_of_mem_octets hhigh c hmem) hc
        rw [octets_of_ascii hd] at hmem hinside
        have hplace : place = 0 := Nat.lt_one_iff.mp hinside
        rw [List.mem_singleton.mp hmem, hplace]
        exact ⟨cs, at_append [] (d :: cs)⟩
      · have hle := Nat.not_lt.mp hinside
        rw [List.getElem?_append_right hle] at h
        rcases ih h with ⟨rest, hrest⟩
        rcases hrest.suffix with ⟨before, hbefore⟩
        have hplace : place = byteLength (d :: before) := by
          have hsize := length_octets [d]
          have hstart := hrest.place_eq hbefore.symm
          rw [byteLength_cons] at hsize ⊢
          rw [byteLength_nil] at hsize
          omega
        rw [hplace, ← hbefore]
        exact ⟨rest, at_append (d :: before) (c :: rest)⟩

end

end Text
end RemoteImports
