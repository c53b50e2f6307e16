import NwbLot.Crash.ArchivePaths

/-!
# Lexical paths

The lexical operations of `path.h`: component iteration, filename and parent, normalisation and
relative paths, on the text of a path.  Root names are a Windows notion; the other platforms have a
root directory only.
-/

namespace NwbLot.Filesystem

open Crash (Text Platform ascii charColon charSlash isSeparator preferredSeparator rootNameLength
  rootDirectoryLength isAbsolute appendComponent components)

/-- The directory itself. -/
def dot : Text := ascii "."
/-- The parent directory. -/
def dotDot : Text := ascii ".."

/-- What the iterator finds in front of the names. -/
def rootLength (platform : Platform) (text : Text) : ℕ :=
  if rootDirectoryLength platform text ≠ 0 then rootDirectoryLength platform text
  else rootNameLength platform text

end NwbLot.Filesystem
