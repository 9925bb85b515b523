/-!
# Sizes in bytes

A text is a list of characters; the places in it that other programs are told about are
counted in UTF-8 bytes. This module measures a text in bytes and cuts it at a byte count.

The laws below say that cutting a text where a part of it ends gives back the part: a span
that was measured on the text is therefore never cut out of place.
-/

namespace RemoteImports
namespace Text

def byteLength (cs : List Char) : Nat :=
  cs.foldr (fun c n => c.utf8Size + n) 0

/-- The characters that lie whole within the first `n` bytes. -/
def takeBytes : Nat -> List Char -> List Char
  | _, [] => []
  | n, c :: cs => if c.utf8Size <= n then c :: takeBytes (n - c.utf8Size) cs else []

/-- What follows the characters that lie whole within the first `n` bytes. -/
def dropBytes : Nat -> List Char -> List Char
  | _, [] => []
  | n, c :: cs => if c.utf8Size <= n then dropBytes (n - c.utf8Size) cs else c :: cs

@[simp] theorem byteLength_nil : byteLength [] = 0 := rfl

@[simp] theorem byteLength_cons (c : Char) (cs : List Char) :
    byteLength (c :: cs) = c.utf8Size + byteLength cs := rfl

@[simp] theorem byteLength_append (a b : List Char) :
    byteLength (a ++ b) = byteLength a + byteLength b := by
  induction a with
  | nil =>
      simp
  | cons c cs ih =>
      simp [ih, Nat.add_assoc]

theorem byteLength_le_of_suffix {a b : List Char} (h : a <:+ b) :
    byteLength a <= byteLength b := by
  rcases h with ⟨front, rfl⟩
  rw [byteLength_append]
  omega

theorem takeBytes_append_dropBytes (n : Nat) (cs : List Char) :
    takeBytes n cs ++ dropBytes n cs = cs := by
  induction cs generalizing n with
  | nil =>
      simp [takeBytes, dropBytes]
  | cons c cs ih =>
      simp only [takeBytes, dropBytes]
      split
      · simp [ih]
      · simp

@[simp] theorem takeBytes_zero (cs : List Char) : takeBytes 0 cs = [] := by
  cases cs with
  | nil =>
      rfl
  | cons c cs =>
      have h : ¬ c.utf8Size <= 0 := by have := c.utf8Size_pos; omega
      rw [takeBytes, if_neg h]

@[simp] theorem dropBytes_zero (cs : List Char) : dropBytes 0 cs = cs := by
  cases cs with
  | nil =>
      rfl
  | cons c cs =>
      have h : ¬ c.utf8Size <= 0 := by have := c.utf8Size_pos; omega
      rw [dropBytes, if_neg h]

theorem takeBytes_add_append (a b : List Char) (n : Nat) :
    takeBytes (byteLength a + n) (a ++ b) = a ++ takeBytes n b := by
  induction a with
  | nil =>
      simp
  | cons c cs ih =>
      have h : c.utf8Size + byteLength cs + n - c.utf8Size = byteLength cs + n := by omega
      have hle : c.utf8Size <= c.utf8Size + byteLength cs + n := by omega
      rw [List.cons_append, byteLength_cons, takeBytes, if_pos hle, h, ih, List.cons_append]

theorem dropBytes_add_append (a b : List Char) (n : Nat) :
    dropBytes (byteLength a + n) (a ++ b) = dropBytes n b := by
  induction a with
  | nil =>
      simp
  | cons c cs ih =>
      have h : c.utf8Size + byteLength cs + n - c.utf8Size = byteLength cs + n := by omega
      have hle : c.utf8Size <= c.utf8Size + byteLength cs + n := by omega
      rw [List.cons_append, byteLength_cons, dropBytes, if_pos hle, h, ih]

theorem takeBytes_byteLength_append (a b : List Char) :
    takeBytes (byteLength a) (a ++ b) = a := by
  have h := takeBytes_add_append a b 0
  rwa [Nat.add_zero, takeBytes_zero, List.append_nil] at h

theorem dropBytes_byteLength_append (a b : List Char) :
    dropBytes (byteLength a) (a ++ b) = b := by
  have h := dropBytes_add_append a b 0
  rwa [Nat.add_zero, dropBytes_zero] at h

/-- Two fronts of a text that take up as many bytes are the same. -/
theorem append_inj_of_byteLength {a b c d : List Char} (h : a ++ c = b ++ d)
    (hlength : byteLength a = byteLength b) : a = b ∧ c = d := by
  have ha := takeBytes_byteLength_append a c
  have hc := dropBytes_byteLength_append a c
  rw [h, hlength, takeBytes_byteLength_append] at ha
  rw [h, hlength, dropBytes_byteLength_append] at hc
  exact ⟨ha.symm, hc.symm⟩

end Text
end RemoteImports
