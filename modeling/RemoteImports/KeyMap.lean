/-!
# Maps from texts, in the order of their keys

A map keeps its entries in ascending order of the keys, each key once, so that two maps
with the same entries are equal and a listing of a map has one order.
-/

namespace RemoteImports

/-- A map from texts, its entries in ascending order of the keys. -/
structure KeyMap (α : Type) where
  entries : List (String × α)
  sorted : entries.Pairwise (fun a b => a.1 < b.1)

namespace KeyMap

variable {α : Type}

/-- Puts an entry where its key belongs, over an entry with the same key. -/
def insertEntry (key : String) (value : α) : List (String × α) -> List (String × α)
  | [] => [(key, value)]
  | entry :: entries =>
    if key < entry.1 then (key, value) :: entry :: entries
    else if key = entry.1 then (key, value) :: entries
    else entry :: insertEntry key value entries

theorem mem_insertEntry {key : String} {value : α} {entries : List (String × α)}
    {e : String × α} (h : e ∈ insertEntry key value entries) :
    e = (key, value) ∨ e ∈ entries := by
  induction entries with
  | nil =>
      simpa [insertEntry] using h
  | cons entry entries ih =>
      simp only [insertEntry] at h
      split at h
      · simpa using h
      · split at h
        · rcases List.mem_cons.mp h with h | h
          · exact .inl h
          · exact .inr (List.mem_cons_of_mem _ h)
        · rcases List.mem_cons.mp h with h | h
          · exact .inr (h ▸ List.mem_cons_self)
          · exact (ih h).imp id (List.mem_cons_of_mem _)

theorem lt_of_not_lt {a b : String} (h : ¬ a < b) (hne : a ≠ b) : b < a := by
  rcases Std.lt_trichotomy a b with h' | h' | h'
  · exact absurd h' h
  · exact absurd h' hne
  · exact h'

theorem pairwise_insertEntry (key : String) (value : α) {entries : List (String × α)}
    (h : entries.Pairwise (fun a b => a.1 < b.1)) :
    (insertEntry key value entries).Pairwise (fun a b => a.1 < b.1) := by
  induction entries with
  | nil =>
      simp [insertEntry]
  | cons entry entries ih =>
      rw [List.pairwise_cons] at h
      simp only [insertEntry]
      split
      · rename_i hlt
        refine List.pairwise_cons.mpr ⟨fun e he => ?_, List.pairwise_cons.mpr h⟩
        rcases List.mem_cons.mp he with rfl | he
        · exact hlt
        · exact String.lt_trans hlt (h.1 e he)
      · split
        · rename_i heq
          subst heq
          exact List.pairwise_cons.mpr ⟨h.1, h.2⟩
        · rename_i hlt hne
          refine List.pairwise_cons.mpr ⟨fun e he => ?_, ih h.2⟩
          rcases mem_insertEntry he with rfl | he
          · exact lt_of_not_lt hlt hne
          · exact h.1 e he

def empty : KeyMap α := ⟨[], .nil⟩

instance : Inhabited (KeyMap α) := ⟨empty⟩

/-- The map with one entry put in, over an entry with the same key. -/
def insert (map : KeyMap α) (key : String) (value : α) : KeyMap α :=
  ⟨insertEntry key value map.entries, pairwise_insertEntry key value map.sorted⟩

def get? (map : KeyMap α) (key : String) : Option α :=
  map.entries.lookup key

/-- The map of a list of entries, of which a later one replaces an earlier one with its
key. -/
def ofList (entries : List (String × α)) : KeyMap α :=
  entries.foldl (fun map entry => map.insert entry.1 entry.2) empty

end KeyMap
end RemoteImports
