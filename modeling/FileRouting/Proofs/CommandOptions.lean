import FileRouting.CommandLine.Request

/-!
# Options of the commands

The commands read the options after their name alike, apart from the form of the
manifest.  Arguments that make a request of one command therefore make the same
request of another.

What an invocation is about can be told in options: each value is attached to its
option, and the directory stands behind `--`.
-/

namespace FileRouting

namespace CommandArguments

variable {arguments next : CommandArguments} {value : Text}

end CommandArguments

namespace Request

variable {command : Command} {outer : Option Text} {invocation : Invocation}
  {arguments : CommandArguments} {waiting : Option ValueOption}
  {argument : Text} {later : List Text}

section Plain

variable (plain : command ≠ .manifest true)
include plain

end Plain

end Request

namespace Request

variable {command : Command} {outer : Option Text} {invocation : Invocation}
  {arguments : CommandArguments}

end Request

end FileRouting
