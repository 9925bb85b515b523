import RemoteImports.KeyMap

/-!
# What a map has for a key

The entries of a map are looked up one after the other, and each key is there
once.
-/

namespace RemoteImports
namespace KeyMap

variable {α : Type}

theorem lookup_cons (name key : String) (value : α) (entries : List (String × α)) :
    ((name, value) :: entries).lookup key =
      if key = name then some value else entries.lookup key := by
  by_cases h : key = name
  · rw [if_pos h, h, List.lookup_cons_self]
  · have hne : (key == name) = false := beq_eq_false_iff_ne.mpr h
    rw [if_neg h, List.lookup_cons, hne]

theorem lookup_insertEntry (key other : String) (value : α) (entries : List (String × α)) :
    (insertEntry key value entries).lookup other =
      if other = key then some value else entries.lookup other := by
  induction entries with
  | nil =>
      rw [insertEntry, lookup_cons]
  | cons entry entries ih =>
      rcases entry with ⟨name, kept⟩
      by_cases hlt : key < name
      · rw [insertEntry, if_pos hlt, lookup_cons]
      rw [insertEntry, if_neg hlt]
      by_cases heq : key = name
      · rw [if_pos heq, lookup_cons, lookup_cons, heq]
        by_cases hother : other = name
        · rw [if_pos hother, if_pos hother]
        · rw [if_neg hother, if_neg hother, if_neg hother]
      · rw [if_neg heq, lookup_cons, lookup_cons, ih]
        by_cases hother : other = key
        · rw [if_pos hother, if_pos hother, hother, if_neg heq]
        · rw [if_neg hother, if_neg hother]

theorem get?_insert (map : KeyMap α) (key other : String) (value : α) :
    (map.insert key value).get? other =
      if other = key then some value else map.get? other :=
  lookup_insertEntry key other value map.entries

theorem lookup_eq_some_iff_mem {entries : List (String × α)}
    (h : entries.Pairwise fun a b => a.1 < b.1) {key : String} {value : α} :
    entries.lookup key = some value <-> (key, value) ∈ entries := by
  induction entries with
  | nil =>
      simp
  | cons entry entries ih =>
      rcases entry with ⟨name, kept⟩
      rw [List.pairwise_cons] at h
      rw [lookup_cons, List.mem_cons, Prod.mk.injEq]
      by_cases hkey : key = name
      · have hlater : (key, value) ∉ entries := by
          intro hmem
          have hlt := h.left _ hmem
          rw [hkey] at hlt
          exact String.lt_irrefl name hlt
        simp [hkey, hkey ▸ hlater, eq_comm]
      · rw [if_neg hkey, ih h.right]
        simp [hkey]

theorem insertEntry_of_last {name : String} {entries : List (String × α)}
    (h : forall entry, entry ∈ entries -> entry.1 < name) (x : α) :
    insertEntry name x entries = entries ++ [(name, x)] := by
  induction entries with
  | nil =>
      rfl
  | cons entry entries ih =>
      have hlt := h entry List.mem_cons_self
      have hne : name ≠ entry.1 := by
        intro heq
        rw [heq] at hlt
        exact String.lt_irrefl _ hlt
      rw [insertEntry, if_neg (String.lt_asymm hlt), if_neg hne,
        ih fun later hlater => h later (List.mem_cons_of_mem entry hlater)]
      rfl

/-!
# Maps of lists
-/

theorem get?_foldl_insert_iff (entries : List (String × α)) (map : KeyMap α)
    (key : String) (value : α) :
    (entries.foldl (fun map entry => map.insert entry.1 entry.2) map).get? key = some value <->
      (exists before behind : List (String × α),
        entries = before ++ (key, value) :: behind ∧
          forall entry, entry ∈ behind -> entry.1 ≠ key) ∨
      ((forall entry, entry ∈ entries -> entry.1 ≠ key) ∧ map.get? key = some value) := by
  induction entries generalizing map with
  | nil =>
      simp
  | cons entry entries ih =>
      rcases entry with ⟨name, kept⟩
      rw [List.foldl_cons, ih, get?_insert]
      constructor
      · rintro (⟨before, behind, rfl, hbehind⟩ | ⟨hlater, hget⟩)
        · exact Or.inl ⟨(name, kept) :: before, behind, rfl, hbehind⟩
        · by_cases hkey : key = name
          · rw [if_pos hkey] at hget
            cases hget
            cases hkey
            exact Or.inl ⟨[], entries, rfl, hlater⟩
          · rw [if_neg hkey] at hget
            exact Or.inr ⟨List.forall_mem_cons.mpr ⟨Ne.symm hkey, hlater⟩, hget⟩
      · rintro (⟨before, behind, hsplit, hbehind⟩ | ⟨hall, hget⟩)
        · cases before with
          | nil =>
              cases hsplit
              exact Or.inr ⟨hbehind, if_pos rfl⟩
          | cons first before =>
              rcases List.cons.inj hsplit with ⟨_, hlater⟩
              exact Or.inl ⟨before, behind, hlater, hbehind⟩
        · rcases List.forall_mem_cons.mp hall with ⟨hne, hlater⟩
          rw [if_neg (Ne.symm hne)]
          exact Or.inr ⟨hlater, hget⟩

/-- The map of a list has for a key what the last entry with the key says. -/
theorem get?_ofList_iff (entries : List (String × α)) (key : String) (value : α) :
    (ofList entries).get? key = some value <->
      exists before behind : List (String × α),
        entries = before ++ (key, value) :: behind ∧
          forall entry, entry ∈ behind -> entry.1 ≠ key := by
  rw [ofList, get?_foldl_insert_iff]
  constructor
  · rintro (h | ⟨_, hempty⟩)
    · exact h
    · cases hempty
  · exact Or.inl

theorem entries_foldl_insert (entries : List (String × α)) (map : KeyMap α)
    (h : (map.entries ++ entries).Pairwise fun a b => a.1 < b.1) :
    (entries.foldl (fun map entry => map.insert entry.1 entry.2) map).entries =
      map.entries ++ entries := by
  induction entries generalizing map with
  | nil =>
      exact (List.append_nil _).symm
  | cons entry entries ih =>
      rcases entry with ⟨name, value⟩
      have hlast : forall entry, entry ∈ map.entries -> entry.1 < name := by
        intro entry hentry
        exact (List.pairwise_append.mp h).right.right entry hentry _ List.mem_cons_self
      have hput : (map.insert name value).entries = map.entries ++ [(name, value)] :=
        insertEntry_of_last hlast value
      rw [List.append_cons, ← hput] at h
      rw [List.foldl_cons, ih _ h, hput, List.append_assoc]
      rfl

theorem ofList_entries (map : KeyMap α) : ofList map.entries = map := by
  have hentries := entries_foldl_insert map.entries (empty : KeyMap α) map.sorted
  rw [ofList]
  rcases map with ⟨entries, sorted⟩
  rw [KeyMap.mk.injEq]
  exact hentries

/-!
# The order of the entries
-/

theorem perm_insertEntry {name : String} {entries : List (String × α)}
    (h : name ∉ entries.map Prod.fst) (value : α) :
    (insertEntry name value entries).Perm ((name, value) :: entries) := by
  induction entries with
  | nil =>
      exact List.Perm.refl _
  | cons entry entries ih =>
      rw [List.map_cons, List.mem_cons, not_or] at h
      rw [insertEntry]
      split
      · exact List.Perm.refl _
      · rw [if_neg h.left]
        exact ((ih h.right).cons entry).trans (List.Perm.swap _ _ _)

theorem perm_foldl_insertEntry {kept members : List (String × α)}
    (h : ((kept ++ members).map Prod.fst).Nodup) :
    (members.foldl (fun kept member => insertEntry member.1 member.2 kept) kept).Perm
      (kept ++ members) := by
  induction members generalizing kept with
  | nil =>
      rw [List.append_nil]
      exact List.Perm.refl kept
  | cons entry members ih =>
      rcases entry with ⟨name, value⟩
      have hmiddle : (kept ++ (name, value) :: members).Perm
          ((name, value) :: (kept ++ members)) := List.perm_middle
      have hnodup := (hmiddle.map Prod.fst).nodup_iff.mp h
      have hnew : name ∉ kept.map Prod.fst := by
        intro hmem
        apply (List.nodup_cons.mp hnodup).left
        rw [List.map_append]
        exact List.mem_append_left _ hmem
      have hinsert : (insertEntry name value kept ++ members).Perm
          ((name, value) :: (kept ++ members)) := (perm_insertEntry hnew value).append_right members
      have hlater := ih ((hinsert.map Prod.fst).nodup_iff.mpr hnodup)
      exact hlater.trans (hinsert.trans hmiddle.symm)

end KeyMap
end RemoteImports
