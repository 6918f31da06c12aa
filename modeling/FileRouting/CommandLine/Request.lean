import FileRouting.Config
import FileRouting.ConfigFile

/-!
# Requests on the command line

The arguments of the command line are read from left to right into a request.
A command may be preceded by the option that names the configuration file, and
is followed by its own options and at most one directory.

An option takes the value that is attached to it or the next argument, unless
that begins with a hyphen; a hyphen alone is an ordinary argument.  After `--`
nothing is an option.  The first fault, and the first request for help or for
the version, ends the reading.
-/

namespace FileRouting

/-- What is to be printed about the routes. -/
inductive Command where
  /-- The manifest as JSON. -/
  | manifest (indented : Bool)
  /-- The outline of the routes. -/
  | tree
  /-- The conflicts. -/
  | check
  deriving DecidableEq, Repr

/-- A command with what it is applied to. -/
structure Invocation where
  command : Command
  /-- The routes directory, instead of the configured one. -/
  directory : Option Text
  /-- Patterns to ignore, besides the configured ones. -/
  ignored : List Text
  configPath : Text
  deriving DecidableEq, Repr

/-- What the arguments ask for. -/
inductive Request where
  | invoke (invocation : Invocation)
  | version
  | help
  /-- The arguments are no request. -/
  | misuse
  deriving DecidableEq, Repr

/-- The shape of an argument. -/
inductive Argument where
  /-- `--` alone. -/
  | separator
  /-- `--name` or `--name=value`. -/
  | long (name : Text) (value : Option Text)
  /-- `-` followed by letters. -/
  | short (letter : Char) (rest : Text)
  | plain (value : Text)
  deriving DecidableEq, Repr

namespace Argument

/-- The shape of an argument. -/
def of : Text → Argument
  | ['-', '-'] => .separator
  | '-' :: '-' :: option =>
      match Text.cutFirst '=' option with
      | some (name, value) => .long name (some value)
      | none => .long option none
  | '-' :: letter :: rest => .short letter rest
  | value => .plain value

/-- The value attached to a letter, if any. -/
def attached : Text → Option Text
  | [] => none
  | '=' :: value => some value
  | value => some value

end Argument

/-- Options that take a value. -/
inductive ValueOption where
  | config
  | ignore
  deriving DecidableEq, Repr

/-- What has been read about a command. -/
structure CommandArguments where
  indented : Bool := false
  directory : Option Text := none
  ignored : List Text := []
  config : Option Text := none
  deriving DecidableEq, Repr

namespace CommandArguments

/-- Takes the value of an option.  There is one configuration file at most, and
its path is not empty. -/
def set? (arguments : CommandArguments) (value : Text) :
    ValueOption → Option CommandArguments
  | .config =>
      if value = [] || arguments.config.isSome then none
      else some { arguments with config := some value }
  | .ignore =>
      some { arguments with ignored := arguments.ignored ++ [value] }

/-- Takes an argument that is no option.  There is one directory at most, and
its path is not empty. -/
def setDirectory? (arguments : CommandArguments) (value : Text) :
    Option CommandArguments :=
  if value = [] || arguments.directory.isSome then none
  else some { arguments with directory := some value }

/-- The finished request; a configuration file named after the command counts
before one that is named in front of it. -/
def toRequest (command : Command) (outer : Option Text)
    (arguments : CommandArguments) : Request :=
  .invoke {
    command :=
      match command with
      | .manifest _ => .manifest arguments.indented
      | command => command
    directory := arguments.directory
    ignored := arguments.ignored
    configPath := (arguments.config.or outer).getD Config.defaultPath }

end CommandArguments

namespace Request

/-- Reads arguments of which none is an option. -/
def ofOperands (command : Command) (outer : Option Text)
    (arguments : CommandArguments) : List Text → Request
  | [] => arguments.toRequest command outer
  | value :: later =>
      match arguments.setDirectory? value with
      | none => .misuse
      | some arguments => ofOperands command outer arguments later

/-- Reads the arguments after a command.  An option may be waiting for its
value. -/
def ofCommand (command : Command) (outer : Option Text)
    (arguments : CommandArguments) (waiting : Option ValueOption) :
    List Text → Request
  | [] =>
      match waiting with
      | some _ => .misuse
      | none => arguments.toRequest command outer
  | argument :: later =>
      let goOn := fun arguments : Option CommandArguments =>
        match arguments with
        | none => .misuse
        | some arguments => ofCommand command outer arguments none later
      let take := fun (option : ValueOption) (value : Option Text) =>
        match value with
        | some value => goOn (arguments.set? value option)
        | none => ofCommand command outer arguments (some option) later
      match waiting, Argument.of argument with
      | some option, .plain value => goOn (arguments.set? value option)
      | some _, _ => .misuse
      | none, .plain value => goOn (arguments.setDirectory? value)
      | none, .separator => ofOperands command outer arguments later
      | none, .short letter rest =>
          if letter = 'h' then .help
          else if letter = 'i' then take .ignore (Argument.attached rest)
          else .misuse
      | none, .long name value =>
          if name = "config".toList then take .config value
          else if name = "ignore".toList then take .ignore value
          else if value.isSome then .misuse
          else if name = "help".toList then .help
          else if name = "pretty".toList then
            match command with
            | .manifest _ =>
                if arguments.indented then .misuse
                else goOn (some { arguments with indented := true })
            | _ => .misuse
          else .misuse

def commandOf? (name : Text) : Option Command :=
  if name = "manifest".toList then some (.manifest false)
  else if name = "tree".toList then some .tree
  else if name = "check".toList then some .check
  else none

/-- Reads the arguments after `help`, which may name one command. -/
def ofHelp : List Text → Request
  | [] => .help
  | [name] =>
      if (commandOf? name).isSome || name = "help".toList then .help
      else .misuse
  | _ => .misuse

/-- Reads the arguments up to the command.  The option of the configuration file
may be waiting for its value. -/
def ofArgumentsFrom (config : Option Text) (waiting : Bool) :
    List Text → Request
  | [] => .misuse
  | argument :: later =>
      let take := fun value : Text =>
        if value = [] || config.isSome then .misuse
        else ofArgumentsFrom (some value) false later
      match waiting, Argument.of argument with
      | true, .plain value => take value
      | true, _ => .misuse
      | false, .plain name =>
          if name = "help".toList then ofHelp later
          else
            match commandOf? name with
            | some command => ofCommand command config {} none later
            | none => .misuse
      | false, .separator => .misuse
      | false, .short letter _ =>
          if letter = 'h' then .help
          else if letter = 'V' then .version
          else .misuse
      | false, .long name value =>
          if name = "config".toList then
            match value with
            | some value => take value
            | none => ofArgumentsFrom config true later
          else if value.isSome then .misuse
          else if name = "help".toList then .help
          else if name = "version".toList then .version
          else .misuse

/-- Reads all arguments. -/
def ofArguments (arguments : List Text) : Request :=
  ofArgumentsFrom none false arguments

end Request

end FileRouting
