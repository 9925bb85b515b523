import RemoteImports.Proofs.Computation
import RemoteImports.Proofs.Json.Integers
import RemoteImports.Proofs.Json.Strings

/-!
# Members of JSON objects

An object is read member by member, and what was read so far is a state.  What
every member keeps, the whole object keeps.  An object that is written is read
back member by member, in the order in which its members are written, up to the
first one that is refused.
-/

namespace RemoteImports
namespace Json

variable {α σ : Type} {member : String -> σ -> Reader σ} {state last : σ}
  {x : α} {cs rest : List Char} {problem : Problem}

/-!
# What a reading keeps
-/

theorem settle_eq_ok {close : List Char -> Except Stop (List Char)}
    {after : List Char -> List Char} {inside : Except Stop (α × List Char)}
    (h : settle close after inside = .ok (x, rest)) :
    exists cs : List Char, inside = .ok (x, cs) := by
  cases inside with
  | error stop =>
      cases stop with
      | placed problem left =>
          cases h
      | pending problem cs =>
          cases h
  | ok read =>
      rcases read with ⟨y, cs⟩
      rw [settle] at h
      cases hclose : close cs with
      | error stop =>
          rw [hclose] at h
          cases h
      | ok left =>
          rw [hclose] at h
          cases h
          exact ⟨cs, rfl⟩

theorem descend_eq_ok {depth : Nat} {inside : Nat -> Except Stop α}
    (h : descend depth cs inside = .ok x) :
    exists inner : Nat, depth = inner + 1 ∧ inside inner = .ok x := by
  cases depth with
  | zero =>
      cases h
  | succ inner =>
      exact ⟨inner, rfl, h⟩

/-- What holds of the state before the members and is kept by each of them holds
of the state behind them. -/
theorem readMembers_keeps {Keeps : σ -> Prop}
    (hmember : forall (key : String) (state next : σ) (cs rest : List Char),
      Keeps state -> member key state cs = .ok (next, rest) -> Keeps next)
    {fuel : Nat} {first : Bool} (hstate : Keeps state)
    (h : readMembers member fuel first state cs = .ok (last, rest)) :
    Keeps last := by
  induction fuel generalizing first state cs with
  | zero =>
      cases h
      exact hstate
  | succ fuel ih =>
      rcases bind_eq_ok.mp h with ⟨⟨more, cs⟩, _, h⟩
      cases more with
      | false =>
          cases h
          exact hstate
      | true =>
          rcases bind_eq_ok.mp h with ⟨⟨key, cs⟩, _, h⟩
          rcases bind_eq_ok.mp h with ⟨⟨next, cs⟩, hnext, h⟩
          exact ih (hmember _ _ _ _ _ hstate hnext) h

theorem readObject_keeps {inside : Nat -> String -> σ -> Reader σ} {Keeps : σ -> Prop}
    (hmember : forall (depth : Nat) (key : String) (state next : σ) (cs rest : List Char),
      Keeps state -> inside depth key state cs = .ok (next, rest) -> Keeps next)
    {depth : Nat} (hstate : Keeps state)
    (h : readObject inside state depth cs = .ok (last, rest)) :
    Keeps last := by
  unfold readObject at h
  split at h
  · cases h
  · rcases descend_eq_ok h with ⟨inner, _, h⟩
    rcases settle_eq_ok h with ⟨cs, h⟩
    exact readMembers_keeps (hmember inner) hstate h
  · cases h

theorem readRecord_eq_ok {title : String} {ofArray ofObject : Nat -> Reader α} {depth : Nat}
    (h : readRecord title ofArray ofObject depth cs = .ok (x, rest)) :
    exists (inner : Nat) (inside left : List Char),
      ofArray inner inside = .ok (x, left) ∨ ofObject inner inside = .ok (x, left) := by
  unfold readRecord at h
  split at h
  · cases h
  · rcases descend_eq_ok h with ⟨inner, _, h⟩
    rcases settle_eq_ok h with ⟨left, h⟩
    exact ⟨inner, _, left, Or.inl h⟩
  · rcases descend_eq_ok h with ⟨inner, _, h⟩
    rcases settle_eq_ok h with ⟨left, h⟩
    exact ⟨inner, _, left, Or.inr h⟩
  · cases h

theorem readEntry_eq_ok {read : Reader α} {put : String -> α -> σ -> σ} {key : String}
    (h : readEntry read put key state cs = .ok (last, rest)) :
    exists (x : α) (inside : List Char),
      read inside = .ok (x, rest) ∧ last = put key x state := by
  rcases bind_eq_ok.mp h with ⟨inside, _, h⟩
  rcases bind_eq_ok.mp h with ⟨⟨x, left⟩, hread, h⟩
  cases h
  exact ⟨x, inside, hread, rfl⟩

theorem readOnce_eq_ok {name : String} {before : Option α} {read : Reader α} {put : α -> σ}
    (h : readOnce name before read put cs = .ok (last, rest)) :
    exists (x : α) (inside : List Char), read inside = .ok (x, rest) ∧ last = put x := by
  unfold readOnce at h
  split at h
  · cases h
  · rcases bind_eq_ok.mp h with ⟨inside, _, h⟩
    rcases bind_eq_ok.mp h with ⟨⟨x, left⟩, hread, h⟩
    cases h
    exact ⟨x, inside, hread, rfl⟩

theorem readOther_eq_ok (h : readOther state cs = .ok (last, rest)) : last = state := by
  rcases bind_eq_ok.mp h with ⟨inside, _, h⟩
  rcases bind_eq_ok.mp h with ⟨left, _, h⟩
  cases h
  rfl

theorem readField_eq_ok {first : Bool} {read : Reader α}
    (h : readField first read cs = .ok (some x, rest)) :
    exists inside : List Char, read inside = .ok (x, rest) := by
  rcases bind_eq_ok.mp h with ⟨⟨more, inside⟩, _, h⟩
  cases more with
  | false =>
      cases h
  | true =>
      rcases bind_eq_ok.mp h with ⟨⟨y, left⟩, hread, h⟩
      cases h
      exact ⟨inside, hread⟩

/-!
# Objects that are written
-/

theorem takeColon_colon (rest : List Char) : takeColon (':' :: rest) = .ok rest := rfl

theorem endObject_close (rest : List Char) : endObject ('}' :: rest) = .ok rest := rfl

def lead : Bool -> List Char
  | true => []
  | false => [',']

def led (first : Bool) : List (String × Json) -> List Char
  | [] => []
  | (name, value) :: members =>
      lead first ++ '"' :: (name.toList.flatMap writeChar ++
        '"' :: ':' :: (compact value ++ led false members))

theorem compactMembers_eq_led (members : List (String × Json)) :
    compactMembers members = led true members := by
  induction members with
  | nil =>
      rw [compactMembers, led]
  | cons entry members ih =>
      cases members with
      | nil =>
          simp [compactMembers, led, lead, writeString]
      | cons next members =>
          rw [compactMembers, ih]
          simp [led, lead, writeString]

theorem length_le_led (first : Bool) (members : List (String × Json)) :
    members.length <= (led first members).length := by
  induction members generalizing first with
  | nil =>
      exact Nat.le_refl 0
  | cons entry members ih =>
      have hlater := ih false
      simp only [led, List.length_append, List.length_cons]
      omega

def Puts (member : String -> σ -> Reader σ) (name : String) (value : Json)
    (state next : σ) : Prop :=
  forall rest : List Char, EndsNumber rest ->
    member name state (':' :: (compact value ++ rest)) = .ok (next, rest)

def ReadAs (read : Reader α) (value : Json) (x : α) : Prop :=
  forall rest : List Char, EndsNumber rest -> read (compact value ++ rest) = .ok (x, rest)

def Bars (member : String -> σ -> Reader σ) (name : String) (value : Json)
    (state : σ) (problem : Problem) : Prop :=
  forall rest : List Char, exists left : Nat,
    member name state (':' :: (compact value ++ rest)) = .error (.placed problem left)

inductive Gathers (member : String -> σ -> Reader σ) :
    List (String × Json) -> σ -> σ -> Prop where
  | nil {state : σ} : Gathers member [] state state
  | cons {name : String} {value : Json} {members : List (String × Json)}
      {state next last : σ} :
      Puts member name value state next -> Gathers member members next last ->
      Gathers member ((name, value) :: members) state last

inductive Refuses (member : String -> σ -> Reader σ) (problem : Problem) :
    List (String × Json) -> σ -> Prop where
  | here {name : String} {value : Json} {members : List (String × Json)} {state : σ} :
      Bars member name value state problem ->
      Refuses member problem ((name, value) :: members) state
  | later {name : String} {value : Json} {members : List (String × Json)}
      {state next : σ} :
      Puts member name value state next -> Refuses member problem members next ->
      Refuses member problem ((name, value) :: members) state

section

variable {name : String} {value : Json} {members : List (String × Json)} {next : σ}
  {fuel : Nat} {first : Bool}

theorem nextKey_lead (first : Bool) (rest : List Char) :
    nextKey first (lead first ++ '"' :: rest) = .ok (true, rest) := by
  cases first with
  | true =>
      rfl
  | false =>
      rfl

theorem readMembers_led (first : Bool) (fuel : Nat) (state : σ) (rest : List Char) :
    readMembers member (fuel + 1) first state (led first ((name, value) :: members) ++ rest) =
      (do
        let (next, cs) <-
          member name state (':' :: (compact value ++ (led false members ++ rest)))
        readMembers member fuel false next cs) := by
  have hkey : nextKey first (led first ((name, value) :: members) ++ rest) =
      .ok (true, name.toList.flatMap writeChar ++
        '"' :: ':' :: (compact value ++ (led false members ++ rest))) := by
    simp only [led, List.append_assoc, List.cons_append]
    exact nextKey_lead first _
  rw [readMembers, hkey]
  simp only [bind, Except.bind, if_pos, readString_flatMap_writeChar, String.ofList_toList]

theorem ReadAs.puts_entry {read : Reader α} (h : ReadAs read value x)
    (put : String -> α -> σ -> σ) (name : String) (state : σ) :
    Puts (readEntry read put) name value state (put name x state) := by
  intro rest hrest
  rw [readEntry, takeColon_colon]
  change (read (compact value ++ rest) >>= _) = _
  rw [h rest hrest]
  rfl

theorem ReadAs.readOnce {read : Reader α} (h : ReadAs read value x) (name : String)
    (put : α -> σ) (hrest : EndsNumber rest) :
    readOnce name none read put (':' :: (compact value ++ rest)) = .ok (put x, rest) := by
  rw [Json.readOnce, takeColon_colon]
  change (read (compact value ++ rest) >>= _) = _
  rw [h rest hrest]
  rfl

theorem endsNumber_led (members : List (String × Json)) (rest : List Char) :
    EndsNumber (led false members ++ '}' :: rest) := by
  cases members with
  | nil =>
      exact EndsNumber.of_mark (by decide) rest
  | cons entry members =>
      exact EndsNumber.of_mark (by decide) _

theorem readMembers_close (first : Bool) (fuel : Nat) (state : σ) (rest : List Char) :
    readMembers member (fuel + 1) first state ('}' :: rest) = .ok (state, '}' :: rest) := rfl

theorem Gathers.readMembers (h : Gathers member members state last)
    (hfuel : members.length < fuel) (first : Bool) (rest : List Char) :
    readMembers member fuel first state (led first members ++ '}' :: rest) =
      .ok (last, '}' :: rest) := by
  induction h generalizing fuel first with
  | nil =>
      rcases Nat.exists_eq_succ_of_ne_zero (Nat.ne_zero_of_lt hfuel) with ⟨fuel, rfl⟩
      exact readMembers_close first fuel _ rest
  | cons hput _ ih =>
      rcases Nat.exists_eq_succ_of_ne_zero (Nat.ne_zero_of_lt hfuel) with ⟨fuel, rfl⟩
      rw [readMembers_led, hput _ (endsNumber_led _ rest)]
      exact ih (Nat.lt_of_succ_lt_succ hfuel) false

theorem Refuses.readMembers (h : Refuses member problem members state)
    (hfuel : members.length < fuel) (first : Bool) (rest : List Char) :
    exists left : Nat,
      readMembers member fuel first state (led first members ++ '}' :: rest) =
        .error (.placed problem left) := by
  induction h generalizing fuel first with
  | here hbar =>
      rcases Nat.exists_eq_succ_of_ne_zero (Nat.ne_zero_of_lt hfuel) with ⟨fuel, rfl⟩
      rcases hbar (led false _ ++ '}' :: rest) with ⟨left, hleft⟩
      rw [readMembers_led, hleft]
      exact ⟨left, rfl⟩
  | later hput _ ih =>
      rcases Nat.exists_eq_succ_of_ne_zero (Nat.ne_zero_of_lt hfuel) with ⟨fuel, rfl⟩
      rw [readMembers_led, hput _ (endsNumber_led _ rest)]
      exact ih (Nat.lt_of_succ_lt_succ hfuel) false

theorem compact_object (members : List (String × Json)) (rest : List Char) :
    compact (object members) ++ rest = '{' :: (led true members ++ '}' :: rest) := by
  rw [compact, compactMembers_eq_led]
  simp

theorem lt_length_led (members : List (String × Json)) (rest : List Char) :
    members.length < (led true members ++ '}' :: rest).length := by
  have hle := length_le_led true members
  rw [List.length_append, List.length_cons]
  omega

section

variable {inside : Nat -> String -> σ -> Reader σ} {depth : Nat}

theorem Gathers.readObject (inside : Nat -> String -> σ -> Reader σ)
    (h : Gathers (inside depth) members state last)
    (rest : List Char) :
    readObject inside state (depth + 1) (compact (object members) ++ rest) =
      .ok (last, rest) := by
  rw [compact_object]
  change settle endObject afterObject (Json.readMembers (inside depth) _ true state _) = _
  rw [h.readMembers (lt_length_led members rest), settle, endObject_close]
  rfl

theorem Refuses.readObject (inside : Nat -> String -> σ -> Reader σ)
    (h : Refuses (inside depth) problem members state)
    (rest : List Char) :
    exists left : Nat,
      readObject inside state (depth + 1) (compact (object members) ++ rest) =
        .error (.placed problem left) := by
  rcases h.readMembers (lt_length_led members rest) true rest with ⟨left, hleft⟩
  rw [compact_object]
  refine ⟨left, ?_⟩
  change settle endObject afterObject (Json.readMembers (inside depth) _ true state _) = _
  rw [hleft, settle]

theorem readObject_zero (members : List (String × Json)) (rest : List Char) :
    exists left : Nat,
      readObject inside state 0 (compact (object members) ++ rest) =
        .error (.placed .nestedTooDeep left) := by
  rw [compact_object]
  exact ⟨_, rfl⟩

end

theorem readRecord_object {title : String} {ofArray ofObject : Nat -> Reader α}
    {depth : Nat} (members : List (String × Json)) (rest : List Char) :
    readRecord title ofArray ofObject (depth + 1) (compact (object members) ++ rest) =
      settle endObject afterObject
        (ofObject depth (led true members ++ '}' :: rest)) := by
  rw [compact_object]
  rfl

end

/-!
# Whole texts
-/

theorem parse_eq_ok {read : Nat -> Reader α} {text : String} (h : parse read text = .ok x) :
    exists rest : List Char, read greatestDepth text.toList = .ok (x, rest) := by
  cases hread : read greatestDepth text.toList with
  | error stop =>
      rw [parse, hread] at h
      cases h
  | ok value =>
      rcases value with ⟨y, rest⟩
      rw [parse] at h
      simp only [hread] at h
      split at h
      · cases h
        exact ⟨rest, rfl⟩
      · cases h

end Json
end RemoteImports
