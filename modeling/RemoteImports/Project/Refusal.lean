/-!
# Refusals of the file system

Why an operation on files was refused: in the words and with the number of the operating
system, or in words alone where the system was not asked.
-/

namespace RemoteImports
namespace Project

/-- Why an operation on files was refused. -/
inductive Refusal where
  | missing
  | exists
  | notDirectory
  | isDirectory
  | nameTooLong
  | tooManyLinks
  /-- A path holds the character that ends a path for the operating system. -/
  | nulByte
deriving DecidableEq

def Refusal.text : Refusal -> String
  | missing => "No such file or directory (os error 2)"
  | .exists => "File exists (os error 17)"
  | notDirectory => "Not a directory (os error 20)"
  | isDirectory => "Is a directory (os error 21)"
  | nameTooLong => "File name too long (os error 36)"
  | tooManyLinks => "Too many levels of symbolic links (os error 40)"
  | nulByte => "nul byte found in provided data"

/-- Why the text of a file could not be had. -/
inductive Unreadable where
  | refused (refusal : Refusal)
  | absent
  | noUtf8

def Unreadable.text : Unreadable -> String
  | refused refusal => refusal.text
  | absent => "file not found"
  | noUtf8 => "stream did not contain valid UTF-8"

end Project
end RemoteImports
