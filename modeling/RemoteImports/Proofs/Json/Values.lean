import RemoteImports.Proofs.Json.Members

/-!
# JSON values that are read back

A value of any shape is read from what is written for it, provided that its
integers fit 64 bits, that it has no other numbers and that its containers are
not nested too deep.  The members of an object come back in the order of their
names.
-/

namespace RemoteImports
namespace Json

/-- A value that can be read at this depth, with no numbers but short
integers. -/
inductive Fits : Nat -> Json -> Prop where
  | null {depth : Nat} : Fits depth .null
  | bool {depth : Nat} (value : Bool) : Fits depth (.bool value)
  | integer {depth : Nat} {n : Int} : IsShort n -> Fits depth (.integer n)
  | string {depth : Nat} (text : String) : Fits depth (.string text)
  | array {depth : Nat} {items : List Json} :
      (forall item, item ∈ items -> Fits depth item) -> Fits (depth + 1) (.array items)
  | object {depth : Nat} {members : List (String × Json)} :
      (forall entry, entry ∈ members -> Fits depth entry.2) ->
      Fits (depth + 1) (.object members)

mutual

def sorted : Json -> Json
  | null => null
  | bool value => bool value
  | integer n => integer n
  | float x => float x
  | string text => string text
  | array items => array (sortedItems items)
  | object members => ofMembers (sortedMembers members)

def sortedItems : List Json -> List Json
  | [] => []
  | item :: items => item.sorted :: sortedItems items

def sortedMembers : List (String × Json) -> List (String × Json)
  | [] => []
  | (name, value) :: members => (name, value.sorted) :: sortedMembers members

end

section

variable {α : Type} {depth fuel : Nat} {c : Char} {cs rest : List Char} {value : Json}
  {items : List Json} {members : List (String × Json)}

theorem sortedItems_eq_map (items : List Json) : sortedItems items = items.map sorted := by
  induction items with
  | nil =>
      rfl
  | cons item items ih =>
      rw [sortedItems, ih]
      rfl

/-!
# Scalars
-/

theorem Fits.exists_compact_eq (h : Fits depth value) :
    exists (c : Char) (cs : List Char),
      compact value = c :: cs ∧ isBlank c = false ∧ c ≠ ']' := by
  cases h with
  | null =>
      exact ⟨'n', _, rfl, rfl, by decide⟩
  | bool value =>
      cases value with
      | true =>
          exact ⟨'t', _, rfl, rfl, by decide⟩
      | false =>
          exact ⟨'f', _, rfl, rfl, by decide⟩
  | @integer _ n _ =>
      by_cases hneg : n < 0
      · refine ⟨'-', Text.decimal n.natAbs, ?_, rfl, by decide⟩
        rw [compact, writeInteger, if_pos hneg]
      · rcases exists_decimal_eq n.natAbs with ⟨c, cs, hdigits, hc⟩
        refine ⟨c, cs, ?_, ?_, ?_⟩
        · rw [compact, writeInteger, if_neg hneg, hdigits]
        · rw [Bool.eq_false_iff]
          intro hblank
          simp only [isBlank, Bool.or_eq_true, beq_iff_eq] at hblank
          rcases hblank with ((rfl | rfl) | rfl) | rfl <;> cases hc
        · rintro rfl
          cases hc
  | string text =>
      exact ⟨'"', _, rfl, rfl, by decide⟩
  | array _ =>
      exact ⟨'[', _, rfl, rfl, by decide⟩
  | object _ =>
      exact ⟨'{', _, rfl, rfl, by decide⟩

theorem skipBlanks_cons (h : isBlank c = false) (cs : List Char) :
    skipBlanks (c :: cs) = c :: cs := by
  rw [skipBlanks, List.dropWhile_cons, h, if_neg Bool.false_ne_true]

theorem skipBlanks_compact (h : Fits depth value) (rest : List Char) :
    skipBlanks (compact value ++ rest) = compact value ++ rest := by
  rcases h.exists_compact_eq with ⟨c, cs, hcompact, hc, _⟩
  rw [hcompact, List.cons_append]
  exact skipBlanks_cons hc _

theorem readValueWith_scalar (inner : Option (Reader Json)) (h : Fits depth value)
    (hread : readScalar (compact value ++ rest) = .ok (some value, rest)) :
    readValueWith inner (compact value ++ rest) = .ok (value, rest) := by
  simp only [readValueWith, skipBlanks_compact h, hread, bind, Except.bind]
  rfl

theorem readValue_eq (depth : Nat) :
    exists inner : Option (Reader Json), readValue depth = readValueWith inner := by
  cases depth with
  | zero =>
      exact ⟨none, rfl⟩
  | succ depth =>
      exact ⟨some (readValue depth), rfl⟩

theorem readAs_scalar (h : Fits depth value)
    (hread : forall rest : List Char, EndsNumber rest ->
      readScalar (compact value ++ rest) = .ok (some value, rest)) :
    ReadAs (readValue depth) value value := by
  intro rest hrest
  rcases readValue_eq depth with ⟨inner, hinner⟩
  rw [hinner]
  exact readValueWith_scalar inner h (hread rest hrest)

/-!
# Arrays
-/

def ledItems (first : Bool) : List Json -> List Char
  | [] => []
  | item :: items => lead first ++ (compact item ++ ledItems false items)

theorem compactItems_eq_ledItems (items : List Json) :
    compactItems items = ledItems true items := by
  induction items with
  | nil =>
      rw [compactItems, ledItems]
  | cons item items ih =>
      cases items with
      | nil =>
          simp [compactItems, ledItems, lead]
      | cons next items =>
          rw [compactItems, ih]
          simp [ledItems, lead]

theorem endsNumber_ledItems (items : List Json) (rest : List Char) :
    EndsNumber (ledItems false items ++ ']' :: rest) := by
  cases items with
  | nil =>
      exact EndsNumber.of_mark (by decide) rest
  | cons item items =>
      exact EndsNumber.of_mark (by decide) _

theorem Fits.nextElement_lead (h : Fits depth value) (first : Bool) (rest : List Char) :
    nextElement first (lead first ++ (compact value ++ rest)) =
      .ok (true, compact value ++ rest) := by
  rcases h.exists_compact_eq with ⟨c, cs, hcompact, hc, hne⟩
  rw [hcompact, List.cons_append]
  cases first with
  | true =>
      simp [nextElement, lead, skipBlanks_cons hc, hne]
  | false =>
      have hcomma : skipBlanks (',' :: c :: (cs ++ rest)) = ',' :: c :: (cs ++ rest) := rfl
      simp [nextElement, lead, hcomma, skipBlanks_cons hc, hne]

/-- What is written for the items of a list, each in its own way, is read back
item by item. -/
theorem readElements_ledItems {β : Type} {read : Reader α} {xs : List β}
    {write : β -> Json} {found : β -> α}
    (hitems : forall x, x ∈ xs ->
      Fits depth (write x) ∧ ReadAs read (write x) (found x))
    (hfuel : xs.length < fuel) (first : Bool) (rest : List Char) :
    readElements read fuel first (ledItems first (xs.map write) ++ ']' :: rest) =
      .ok (xs.map found, ']' :: rest) := by
  induction xs generalizing fuel first with
  | nil =>
      rcases Nat.exists_eq_succ_of_ne_zero (Nat.ne_zero_of_lt hfuel) with ⟨fuel, rfl⟩
      rfl
  | cons x xs ih =>
      rcases Nat.exists_eq_succ_of_ne_zero (Nat.ne_zero_of_lt hfuel) with ⟨fuel, rfl⟩
      rw [List.forall_mem_cons] at hitems
      have hread := hitems.left.right _ (endsNumber_ledItems (xs.map write) rest)
      rw [readElements, List.map_cons, ledItems, List.append_assoc, List.append_assoc,
        hitems.left.left.nextElement_lead]
      simp only [bind, Except.bind, if_pos, hread,
        ih hitems.right (Nat.lt_of_succ_lt_succ hfuel) false]
      rfl

theorem length_le_ledItems (first : Bool)
    (hitems : forall item, item ∈ items -> Fits depth item) :
    items.length <= (ledItems first items).length := by
  induction items generalizing first with
  | nil =>
      exact Nat.le_refl 0
  | cons item items ih =>
      rw [List.forall_mem_cons] at hitems
      have hlater := ih false hitems.right
      rcases hitems.left.exists_compact_eq with ⟨c, cs, hcompact, _⟩
      simp only [ledItems, hcompact, List.length_append, List.length_cons]
      omega

theorem compact_array (items : List Json) (rest : List Char) :
    compact (array items) ++ rest = '[' :: (ledItems true items ++ ']' :: rest) := by
  rw [compact, compactItems_eq_ledItems]
  simp

/-- An array is read by what reads its items one level down. -/
theorem settle_readElements {β : Type} {read : Reader α} {xs : List β}
    (write : β -> Json) (found : β -> α)
    (hitems : forall x, x ∈ xs ->
      Fits depth (write x) ∧ ReadAs read (write x) (found x)) (rest : List Char) :
    settle endArray afterArray (readElements read
      (ledItems true (xs.map write) ++ ']' :: rest).length true
      (ledItems true (xs.map write) ++ ']' :: rest)) = .ok (xs.map found, rest) := by
  have hfits : forall item, item ∈ xs.map write -> Fits depth item := by
    intro item hitem
    rcases List.mem_map.mp hitem with ⟨x, hx, rfl⟩
    exact (hitems x hx).left
  have hlength := length_le_ledItems true hfits
  have hfuel : xs.length < (ledItems true (xs.map write) ++ ']' :: rest).length := by
    rw [List.length_map] at hlength
    rw [List.length_append, List.length_cons]
    omega
  rw [readElements_ledItems hitems hfuel]
  rfl

theorem readAs_array
    (hitems : forall item, item ∈ items ->
      Fits depth item ∧ ReadAs (readValue depth) item item.sorted) :
    ReadAs (readValue (depth + 1)) (.array items) (sorted (.array items)) := by
  intro rest _
  have hread := settle_readElements (fun item => item) sorted hitems rest
  rw [List.map_id'] at hread
  rw [compact_array, sorted, sortedItems_eq_map]
  change (settle endArray afterArray (readElements (readValue depth)
    (ledItems true items ++ ']' :: rest).length true
    (ledItems true items ++ ']' :: rest))).map _ = _
  rw [hread]
  rfl

/-!
# Objects
-/

theorem gathers_sortedMembers {read : Reader Json}
    (hmembers : forall entry, entry ∈ members -> ReadAs read entry.2 entry.2.sorted)
    (before : List (String × Json)) :
    Gathers (readEntry read KeyMap.insertEntry) members before
      ((sortedMembers members).foldl
        (fun kept entry => KeyMap.insertEntry entry.1 entry.2 kept) before) := by
  induction members generalizing before with
  | nil =>
      exact Gathers.nil
  | cons entry members ih =>
      rw [List.forall_mem_cons] at hmembers
      exact Gathers.cons (hmembers.left.puts_entry KeyMap.insertEntry entry.1 before)
        (ih hmembers.right _)

theorem readAs_object
    (hmembers : forall entry, entry ∈ members ->
      ReadAs (readValue depth) entry.2 entry.2.sorted) :
    ReadAs (readValue (depth + 1)) (.object members) (sorted (.object members)) := by
  intro rest _
  have hread := (gathers_sortedMembers hmembers []).readMembers
    (lt_length_led members rest) true rest
  rw [compact_object, sorted, ofMembers]
  change (settle endObject afterObject (readMembers (readEntry (readValue depth) KeyMap.insertEntry)
    (led true members ++ '}' :: rest).length true [] (led true members ++ '}' :: rest))).map _ = _
  rw [hread, settle, endObject_close]
  rfl

/-!
# Any value
-/

theorem Fits.readAs (h : Fits depth value) :
    ReadAs (readValue depth) value value.sorted := by
  induction h with
  | null =>
      exact readAs_scalar Fits.null fun _ _ => rfl
  | bool value =>
      cases value with
      | true =>
          exact readAs_scalar (Fits.bool true) fun _ _ => rfl
      | false =>
          exact readAs_scalar (Fits.bool false) fun _ _ => rfl
  | integer hn =>
      exact readAs_scalar (Fits.integer hn) fun _ hrest => readScalar_integer hn hrest
  | string text =>
      exact readAs_scalar (Fits.string text) fun rest _ => readScalar_string text rest
  | array hitems ih =>
      exact readAs_array fun item hitem => ⟨hitems item hitem, ih item hitem⟩
  | object _ ih =>
      exact readAs_object ih

/-!
# The line of a value

Whatever strings a value has, no line ends within what is written for it.
-/

theorem newline_not_mem_writeChar (c : Char) : '\n' ∉ writeChar c := by
  unfold writeChar
  split
  · decide
  split
  · decide
  split
  · decide
  split
  · decide
  split
  · decide
  split
  · decide
  split
  · decide
  split
  · rename_i hcode
    simp [Script.newline_not_mem_hexDigits (by omega : c.toNat < 160)]
  · rename_i hline _ _ _
    rw [List.mem_singleton]
    exact Ne.symm hline

theorem newline_not_mem_writeString (text : String) : '\n' ∉ writeString text := by
  rw [writeString, List.mem_cons, List.mem_append, List.mem_flatMap]
  rintro (hopen | ⟨c, _, hc⟩ | hclose)
  · cases hopen
  · exact newline_not_mem_writeChar c hc
  · simp at hclose

theorem mem_ledItems {first : Bool} (h : c ∈ ledItems first items) :
    c = ',' ∨ exists item, item ∈ items ∧ c ∈ compact item := by
  induction items generalizing first with
  | nil =>
      cases h
  | cons item items ih =>
      rw [ledItems, List.mem_append, List.mem_append] at h
      rcases h with hlead | hitem | hlater
      · cases first with
        | true =>
            cases hlead
        | false =>
            exact Or.inl (List.mem_singleton.mp hlead)
      · exact Or.inr ⟨item, List.mem_cons_self, hitem⟩
      · rcases ih hlater with hcomma | ⟨found, hmem, hc⟩
        · exact Or.inl hcomma
        · exact Or.inr ⟨found, List.mem_cons_of_mem item hmem, hc⟩

theorem mem_led {first : Bool} (h : c ∈ led first members) :
    c ∈ [',', ':'] ∨
      exists entry, entry ∈ members ∧ (c ∈ writeString entry.1 ∨ c ∈ compact entry.2) := by
  induction members generalizing first with
  | nil =>
      cases h
  | cons entry members ih =>
      rcases entry with ⟨name, value⟩
      have hsplit : led first ((name, value) :: members) =
          lead first ++ (writeString name ++ ':' :: (compact value ++ led false members)) := by
        simp [led, writeString]
      rw [hsplit, List.mem_append, List.mem_append, List.mem_cons, List.mem_append] at h
      rcases h with hlead | hname | hcolon | hvalue | hlater
      · cases first with
        | true =>
            cases hlead
        | false =>
            rw [List.mem_singleton.mp hlead]
            exact Or.inl (by decide)
      · exact Or.inr ⟨_, List.mem_cons_self, Or.inl hname⟩
      · rw [hcolon]
        exact Or.inl (by decide)
      · exact Or.inr ⟨_, List.mem_cons_self, Or.inr hvalue⟩
      · rcases ih hlater with hmark | ⟨found, hmem, hc⟩
        · exact Or.inl hmark
        · exact Or.inr ⟨found, List.mem_cons_of_mem _ hmem, hc⟩

theorem Fits.newline_not_mem (h : Fits depth value) : '\n' ∉ compact value := by
  induction h with
  | null =>
      decide
  | bool value =>
      cases value with
      | true =>
          decide
      | false =>
          decide
  | @integer _ n _ =>
      have hdigits : '\n' ∉ Text.decimal n.natAbs := by
        intro hmem
        cases Nat.isDigit_of_mem_toDigits (by decide) (by decide) hmem
      rw [compact, writeInteger]
      split
      · simp [hdigits]
      · exact hdigits
  | string text =>
      exact newline_not_mem_writeString text
  | @array _ items _ ih =>
      have hsplit := compact_array items []
      rw [List.append_nil] at hsplit
      rw [hsplit, List.mem_cons, List.mem_append]
      rintro (hopen | hitem | hclose)
      · cases hopen
      · rcases mem_ledItems hitem with hcomma | ⟨item, hmem, hc⟩
        · cases hcomma
        · exact ih item hmem hc
      · simp at hclose
  | @object _ members _ ih =>
      have hsplit := compact_object members []
      rw [List.append_nil] at hsplit
      rw [hsplit, List.mem_cons, List.mem_append]
      rintro (hopen | hmember | hclose)
      · cases hopen
      · rcases mem_led hmember with hmark | ⟨entry, hmem, hname | hvalue⟩
        · revert hmark
          decide
        · exact newline_not_mem_writeString entry.1 hname
        · exact ih entry hmem hvalue
      · simp at hclose

end

end Json
end RemoteImports
