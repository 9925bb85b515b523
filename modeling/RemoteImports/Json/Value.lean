import RemoteImports.KeyMap

/-!
# JSON values

A value of the data format in which configurations and listings are written. Integers are
those of 64 bits, with or without a sign; every other number is in binary64. The members
of an object are in ascending order of their names.
-/

namespace RemoteImports

/-- A JSON value. -/
inductive Json where
  | null
  | bool (value : Bool)
  | integer (value : Int)
  | float (value : Float)
  | string (value : String)
  | array (items : List Json)
  | object (members : List (String × Json))

namespace Json

instance : Inhabited Json := ⟨null⟩

/-- The object with these members, of which a later one replaces an earlier one with its
name. -/
def ofMembers (members : List (String × Json)) : Json :=
  object (members.foldl (fun kept member => KeyMap.insertEntry member.1 member.2 kept) [])

def ofOption (text : Option String) : Json :=
  match text with
  | some text => string text
  | none => null

def ofTexts (map : KeyMap String) : Json :=
  object (map.entries.map fun entry => (entry.1, string entry.2))

end Json
end RemoteImports
