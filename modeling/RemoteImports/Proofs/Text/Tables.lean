import RemoteImports.Text.Unicode.Alphanumeric

/-!
# Comparing tables of characters

Between two places where one of a few properties changes, all of them stay as
they are.  So a statement about tables is checked once for each such stretch,
and it is never asked of every code point.  Nothing is supposed about the order
of the places in a table: one that is out of order can only make a check fail.
-/

namespace RemoteImports
namespace Text
namespace Unicode

structure Table where
  present : Bool
  bounds : List Nat

namespace Table

def has (table : Table) (n : Nat) : Bool :=
  holdsFrom table.present table.bounds n

def pass (m : Nat) : Table -> Table
  | ⟨present, []⟩ => ⟨present, []⟩
  | ⟨present, bound :: bounds⟩ =>
      bif bound.ble m then ⟨!present, bounds⟩ else ⟨present, bound :: bounds⟩

theorem has_of_lt {table : Table} {n : Nat}
    (h : forall bound, bound ∈ table.bounds.head? -> n < bound) :
    table.has n = table.present := by
  rcases table with ⟨present, _ | ⟨bound, bounds⟩⟩
  · rfl
  · exact if_pos (h bound rfl)

theorem has_pass {m n : Nat} (h : m <= n) (table : Table) :
    (table.pass m).has n = table.has n := by
  rcases table with ⟨present, _ | ⟨bound, bounds⟩⟩
  · rfl
  · rw [pass]
    cases hpassed : bound.ble m with
    | false =>
        rfl
    | true =>
        have hbound := Nat.le_of_ble_eq_true hpassed
        exact (if_neg (by omega)).symm

end Table

def nextChange (s t u : Table) : Option Nat :=
  earlier s.bounds.head? (earlier t.bounds.head? u.bounds.head?)
where
  earlier : Option Nat -> Option Nat -> Option Nat
    | none, n => n
    | m, none => m
    | some m, some n => bif m.ble n then some m else some n

theorem lt_of_lt_earlier {p q : Option Nat} {n : Nat}
    (h : forall m, m ∈ nextChange.earlier p q -> n < m) :
    (forall m, m ∈ p -> n < m) ∧ forall m, m ∈ q -> n < m := by
  cases p with
  | none =>
      exact ⟨by simp, h⟩
  | some p =>
      cases q with
      | none =>
          exact ⟨h, by simp⟩
      | some q =>
          simp only [nextChange.earlier, Bool.cond_eq_ite, Nat.ble_eq] at h
          split at h
          · have hp := h p rfl
            exact ⟨by simpa using hp, by simp; omega⟩
          · have hq := h q rfl
            exact ⟨by simp; omega, by simpa using hq⟩

/-- Whether every code point in the first table is in one of the other two,
where `fuel` bounds the number of changes. -/
def covers : Nat -> Table -> Table -> Table -> Bool
  | 0, _, _, _ => false
  | fuel + 1, s, t, u =>
      (!s.present || t.present || u.present) &&
        match nextChange s t u with
        | none =>
            true
        | some m => covers fuel (s.pass m) (t.pass m) (u.pass m)

theorem has_of_lt_nextChange {s t u : Table} {n : Nat}
    (hbefore : forall m, m ∈ nextChange s t u -> n < m)
    (hhere : (!s.present || t.present || u.present) = true) (hs : s.has n = true) :
    t.has n = true ∨ u.has n = true := by
  rcases lt_of_lt_earlier hbefore with ⟨hsbefore, hothers⟩
  rcases lt_of_lt_earlier hothers with ⟨htbefore, hubefore⟩
  rw [Table.has_of_lt hsbefore] at hs
  rw [Table.has_of_lt htbefore, Table.has_of_lt hubefore]
  simpa [hs] using hhere

theorem has_of_covers {fuel : Nat} {s t u : Table} (h : covers fuel s t u = true) {n : Nat}
    (hs : s.has n = true) : t.has n = true ∨ u.has n = true := by
  induction fuel generalizing s t u with
  | zero =>
      cases h
  | succ fuel ih =>
      rw [covers, Bool.and_eq_true] at h
      rcases h with ⟨hhere, hbehind⟩
      cases hnext : nextChange s t u with
      | none =>
          exact has_of_lt_nextChange (by simp [hnext]) hhere hs
      | some m =>
          by_cases hn : n < m
          · exact has_of_lt_nextChange (by simp [hnext, hn]) hhere hs
          · have hpassed : m <= n := Nat.le_of_not_lt hn
            rw [hnext] at hbehind
            rw [← Table.has_pass hpassed s] at hs
            rw [← Table.has_pass hpassed t, ← Table.has_pass hpassed u]
            exact ih hbehind hs

theorem holdsFrom_of_covers {fuel : Nat} {present : Bool} {bounds others : List Nat}
    (h : covers fuel ⟨false, bounds⟩ ⟨present, others⟩ ⟨false, []⟩ = true) {n : Nat}
    (hn : holdsFrom false bounds n = true) : holdsFrom present others n = true := by
  rcases has_of_covers h hn with hothers | hnothing
  · exact hothers
  · cases hnothing

theorem holdsFrom_not (present : Bool) (bounds : List Nat) (n : Nat) :
    holdsFrom (!present) bounds n = !holdsFrom present bounds n := by
  induction bounds generalizing present with
  | nil =>
      rfl
  | cons bound bounds ih =>
      rw [holdsFrom, holdsFrom, ih]
      split <;> rfl

/-!
# A run of code points
-/

def holdsThrough (present : Bool) (bounds : List Nat) (first last : Nat) : Bool :=
  match bounds with
  | [] => present
  | bound :: bounds =>
      bif bound.ble first then holdsThrough (!present) bounds first last
      else present && last.blt bound

theorem holdsFrom_of_holdsThrough {present : Bool} {bounds : List Nat} {first last n : Nat}
    (h : holdsThrough present bounds first last = true) (hfirst : first <= n)
    (hlast : n <= last) : holdsFrom present bounds n = true := by
  induction bounds generalizing present with
  | nil =>
      exact h
  | cons bound bounds ih =>
      rw [holdsThrough] at h
      cases hpassed : bound.ble first with
      | true =>
          have hbound := Nat.le_of_ble_eq_true hpassed
          rw [hpassed] at h
          exact (if_neg (by omega)).trans (ih h)
      | false =>
          rw [hpassed, cond_false, Bool.and_eq_true, Nat.blt_eq] at h
          exact (if_pos (by omega)).trans h.left

theorem holdsThrough_self (present : Bool) (bounds : List Nat) (n : Nat) :
    holdsThrough present bounds n n = holdsFrom present bounds n := by
  induction bounds generalizing present with
  | nil =>
      rfl
  | cons bound bounds ih =>
      rw [holdsThrough, holdsFrom, ih]
      by_cases hn : n < bound
      · simp [hn, Bool.cond_eq_ite, Nat.not_le_of_lt hn]
      · simp [hn, Bool.cond_eq_ite, Nat.le_of_not_lt hn]

end Unicode
end Text
end RemoteImports
