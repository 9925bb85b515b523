import RemoteImports.Proofs.Json.Values
import RemoteImports.Proofs.KeyMap

/-!
# JSON values that are expected

Where a value of a known shape is expected, it is read back from what is written
for it: a text, a truth value, a list, a map to texts, or one of two names.  A
value that may be absent is written as `null` where it is.
-/

namespace RemoteImports
namespace Json

section

variable {α β : Type} {read : Reader α} {value : Json} {x : α} {depth : Nat}

/-!
# Scalars
-/

theorem readAs_text (text : String) : ReadAs readText (.string text) text :=
  fun rest _ => readText_string text rest

theorem readAs_bool (value : Bool) : ReadAs readBool (.bool value) value := by
  intro rest _
  cases value with
  | true =>
      rfl
  | false =>
      rfl

/-- A value that may be absent: only `null` begins with an `n`, so one that
begins with another letter is there. -/
theorem readAs_optional {write : α -> Json} (hread : forall x, ReadAs read (write x) x)
    (hhead : forall x, exists (c : Char) (cs : List Char),
      compact (write x) = c :: cs ∧ isBlank c = false ∧ c ≠ 'n') (found : Option α) :
    ReadAs (readOptional read) ((found.map write).getD .null) found := by
  intro rest hrest
  cases found with
  | none =>
      rfl
  | some x =>
      have hx := hread x rest hrest
      rcases hhead x with ⟨c, cs, hvalue, hblank, hne⟩
      rw [Option.map_some, Option.getD_some]
      rw [hvalue, List.cons_append] at hx ⊢
      rw [readOptional, skipBlanks_cons hblank]
      split
      · rename_i heq
        exact absurd (List.cons.inj heq).left hne
      · rw [hx]
        rfl

theorem ofOption_eq (text : Option String) : ofOption text = (text.map string).getD .null := by
  cases text with
  | none =>
      rfl
  | some text =>
      rfl

theorem readAs_optionalText (text : Option String) :
    ReadAs (readOptional readText) (ofOption text) text := by
  rw [ofOption_eq]
  exact readAs_optional readAs_text (fun text => ⟨'"', _, rfl, rfl, by decide⟩) text

theorem readAs_name (first second found : String × α)
    (hname : found = first ∨ found = second ∧ second.1 ≠ first.1) :
    ReadAs (readVariant first second depth) (.string found.1) found.2 := by
  intro rest _
  rw [compact_string]
  change (readString (found.1.toList.flatMap writeChar ++ '"' :: rest) >>= _) = _
  rw [readString_flatMap_writeChar]
  simp only [bind, Except.bind, String.ofList_toList]
  rcases hname with rfl | ⟨rfl, hne⟩
  · rw [if_pos rfl]
    rfl
  · rw [if_neg hne, if_pos rfl]
    rfl

/-!
# Lists and maps
-/

theorem readAs_list {read : Nat -> Reader α} {write : α -> Json} {xs : List α}
    (hitems : forall x, x ∈ xs ->
      Fits depth (write x) ∧ ReadAs (read depth) (write x) x) :
    ReadAs (readList read (depth + 1)) (.array (xs.map write)) xs := by
  intro rest _
  have hread := settle_readElements write (fun x => x) hitems rest
  rw [List.map_id'] at hread
  rw [compact_array]
  exact hread

theorem gathers_texts (entries : List (String × String)) (map : KeyMap String) :
    Gathers (readEntry readText fun key text map => map.insert key text)
      (entries.map fun entry => (entry.1, string entry.2)) map
      (entries.foldl (fun map entry => map.insert entry.1 entry.2) map) := by
  induction entries generalizing map with
  | nil =>
      exact Gathers.nil
  | cons entry entries ih =>
      exact Gathers.cons ((readAs_text entry.2).puts_entry _ entry.1 map) (ih _)

theorem readAs_texts (map : KeyMap String) :
    ReadAs (readTexts (depth + 1)) (ofTexts map) map := by
  intro rest _
  have hgathers := gathers_texts map.entries .empty
  have hmap : map.entries.foldl (fun map entry => map.insert entry.1 entry.2) .empty = map :=
    KeyMap.ofList_entries map
  rw [hmap] at hgathers
  exact Gathers.readObject (fun _ => readEntry readText _) hgathers rest

end

end Json
end RemoteImports
