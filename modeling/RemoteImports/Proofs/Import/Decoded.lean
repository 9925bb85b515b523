import RemoteImports.Proofs.Import.Octets
import RemoteImports.Proofs.Script.Strict

/-!
# What literals say

Every literal of the language is read as what it says, up to its closing quote,
unless one of its escapes stands for half of a character.  Such a literal says
no text of characters, or says one only together with the escape next to it, and
is not read at all.
-/

namespace RemoteImports
namespace Import

open Script Text

section

variable {quote : Char} {text first behind rest digits : List Char} {piece : Piece}
  {pieces : List Piece} {count code : Nat}

/-!
# Surrogates
-/

end

end Import
end RemoteImports
