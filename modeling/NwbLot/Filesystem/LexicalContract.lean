import NwbLot.Filesystem.RelativePaths

/-!
# From a base to a path and back

Behind its base a relative path leads back to the path, unless the base is `.`, for which it climbs
too, or the climbing takes away a drive.
-/

namespace NwbLot.Filesystem

open Crash (Text Platform ascii charColon charSlash isSeparator preferredSeparator rootNameLength
  rootDirectoryLength isAbsolute appendComponent components)

namespace PathForm

variable {platform : Platform} {form : PathForm}

/-! ## Climbing -/

section Joined

variable {path base : Text}

end Joined

/-! ## The law -/

section Listed

variable (hrooted : form.rooted = false) (hdrive : form.drive = [])
include hrooted hdrive

end Listed

section Law

variable {path base : PathForm}

end Law

section Cases

variable {path base : PathForm} (hpath : path.Reduced platform) (hbase : base.Reduced platform)
  (hpathRooted : path.rooted = false) (hbaseRooted : base.rooted = false)
  (hup : dotDot ∉ base.names)

include hpath hbase hpathRooted hbaseRooted hup

end Cases

section Contract

variable {path base : Text} (hpath : Plain platform path) (hbase : Plain platform base)
  (hdrive : (start platform path).drive = (start platform base).drive)
  (hrooted : (start platform path).rooted = (start platform base).rooted)
include hpath hbase

include hdrive hrooted

end Contract

/-! ## Different drives -/

section Drives

variable {path base : Text}

end Drives

end PathForm

end NwbLot.Filesystem
