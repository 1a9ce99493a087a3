import Viewpoint.Report.Request

/-!
# Command line arguments

The words of a command line are one input file and options with values. A value is attached to its
option or is the next word, unless that looks like an option. A value is looked at when the next
argument is clear, so an argument that is unknown comes before a bad value in front of it.

* `Arguments.ofWords` reads the words.
* `ArgumentFault` are the reasons why they cannot be read, or what is asked for instead.
-/

namespace Viewpoint

/-- The options that have a value. -/
inductive ValueOption where
  | select | flag | view | output | settings | logLevel
  deriving DecidableEq

instance : Vocabulary ValueOption where
  words := [.select, .flag, .view, .output, .settings, .logLevel]
  spelling
    | .select => "select"
    | .flag => "include"
    | .view => "view"
    | .output => "output"
    | .settings => "config"
    | .logLevel => "log-level"

/-- The option with a one-letter name. -/
def ValueOption.ofLetter? : Char → Option ValueOption
  | 's' => some select
  | 'i' => some flag
  | 'o' => some output
  | 'c' => some settings
  | _ => none

/-- Why words are not read as arguments. -/
inductive ArgumentFault where
  /-- There is no input file. -/
  | missingInput
  /-- A word is neither an option nor has a place. -/
  | unknownArgument
  /-- An option has no value. -/
  | missingValue
  /-- A value is none that the option takes. -/
  | invalidValue
  /-- An option that takes a single value is repeated. -/
  | repeatedOption
  /-- A value is attached to an option that takes none. -/
  | surplusValue
  /-- Help is asked for. -/
  | helpWanted
  /-- The version is asked for. -/
  | versionWanted
  deriving DecidableEq

/-- The fault in words. -/
def ArgumentFault.message : ArgumentFault → String
  | missingInput => "the input file is missing"
  | unknownArgument => "an argument is not known"
  | missingValue => "an option has no value"
  | invalidValue => "an option has a value that it does not take"
  | repeatedOption => "an option must not be repeated"
  | surplusValue => "an option takes no value"
  | helpWanted => "help is wanted"
  | versionWanted => "the version is wanted"

/-- An option without a value. It ends the reading. -/
def closingLong? : String → Option ArgumentFault
  | "help" => some .helpWanted
  | "version" => some .versionWanted
  | _ => none

/-- An option without a value, by its one-letter name. -/
def closingLetter? : Char → Option ArgumentFault
  | 'h' => some .helpWanted
  | 'V' => some .versionWanted
  | _ => none

/-- What a command line says. -/
structure Arguments where
  /-- The file of the document. -/
  input : String
  /-- The criteria of the items to select. -/
  select : Option String := none
  /-- What the selection is widened by. -/
  flags : List IncludeFlag := []
  /-- The only view to compose. -/
  view : Option String := none
  /-- The file to write to. -/
  output : Option String := none
  /-- The settings file. -/
  settings : Option String := none
  /-- How much is noted. -/
  logLevel : String := "info"
  deriving DecidableEq

namespace Arguments

/-- What the arguments ask of the document. -/
def request (arguments : Arguments) : Request where
  select := arguments.select
  flags := arguments.flags
  view := arguments.view.map Ident.mk

/-- The name and the version of the program. -/
def version : String := "viewpoint 0.1.0"

/-- What the user may write. -/
def usage : String :=
  String.intercalate "\n"
    ["Usage: viewpoint [OPTIONS] <INPUT>",
      "",
      "  -s, --select <CRITERIA>  select items by criteria, written as JSON, instead of views",
      "  -i, --include <FLAG>     widen the selection by relations or related elements",
      "      --view <ID>          compose only this view",
      "  -o, --output <FILE>      write the report to a file",
      "  -c, --config <FILE>      read settings from a file",
      "      --log-level <LEVEL>  off, error, warn, info, debug or trace",
      "  -h, --help               show this help",
      "  -V, --version            show the version"]

end Arguments

/-- An argument whose value is not looked at yet. -/
inductive PendingArgument where
  /-- The input file. -/
  | input (path : String)
  /-- An option whose value is still to come. -/
  | awaiting (name : ValueOption)
  /-- An option with its value. -/
  | given (name : ValueOption) (value : String)

/-- What has been read of a command line. -/
structure ArgumentProgress where
  /-- The input file. -/
  input : Option String := none
  /-- The values of the options, in order. -/
  values : List (ValueOption × String) := []
  /-- What the selection is widened by. -/
  flags : List IncludeFlag := []
  /-- The latest argument. -/
  pending : Option PendingArgument := none
  /-- Whether an input file has been found. -/
  hasInput : Bool := false
  /-- Whether all further words are files. -/
  onlyFiles : Bool := false

namespace ArgumentProgress

/-- Takes the value of an option. -/
def take (progress : ArgumentProgress) (name : ValueOption) (value : String) :
    Except ArgumentFault ArgumentProgress :=
  match name with
  | .flag =>
    match IncludeFlag.ofText? value with
    | some flag => .ok { progress with flags := progress.flags ++ [flag] }
    | none => .error .invalidValue
  | name =>
    if (progress.values.lookup name).isSome then .error .repeatedOption
    else .ok { progress with values := progress.values ++ [(name, value)] }

/-- Looks at the latest argument. -/
def settle (progress : ArgumentProgress) : Except ArgumentFault ArgumentProgress :=
  let settled := { progress with pending := none }
  match progress.pending with
  | none => .ok settled
  | some (.input path) => .ok { settled with input := some path }
  | some (.awaiting _) => .error .missingValue
  | some (.given name value) => settled.take name value

/-- Reads an option, with the value that is attached to it. -/
def readOption (progress : ArgumentProgress) (name : ValueOption) (attached : Option String) :
    Except ArgumentFault ArgumentProgress := do
  let progress ← progress.settle
  match attached with
  | some value => progress.take name value
  | none => pure { progress with pending := some (.awaiting name) }

/-- Reads an option with a long name. -/
def readLong (progress : ArgumentProgress) (cs : List Char) :
    Except ArgumentFault ArgumentProgress :=
  let name := String.ofList (cs.takeWhile (· ≠ '='))
  let attached :=
    match cs.dropWhile (· ≠ '=') with
    | [] => none
    | _ :: value => some (String.ofList value)
  match (Vocabulary.ofSpelling? name : Option ValueOption), closingLong? name with
  | some option, _ => progress.readOption option attached
  | none, none => .error .unknownArgument
  | none, some closing =>
    if attached.isSome then .error .surplusValue
    else do
      let _ ← progress.settle
      .error closing

/-- Reads an option with a one-letter name, to which a value may be attached with a sign or without.
-/
def readShort (progress : ArgumentProgress) (letter : Char) (rest : List Char) :
    Except ArgumentFault ArgumentProgress :=
  let attached :=
    match rest with
    | [] => none
    | '=' :: value => some (String.ofList value)
    | value => some (String.ofList value)
  match ValueOption.ofLetter? letter, closingLetter? letter with
  | some option, _ => progress.readOption option attached
  | none, none => .error .unknownArgument
  | none, some closing => do
    let _ ← progress.settle
    .error closing

/-- Reads a word that is no option: the input file. -/
def readFile (progress : ArgumentProgress) (word : String) :
    Except ArgumentFault ArgumentProgress :=
  if progress.hasInput then .error .unknownArgument
  else do
    let progress ← progress.settle
    pure { progress with pending := some (.input word), hasInput := true }

/-- Reads a word. -/
def read (progress : ArgumentProgress) (word : String) : Except ArgumentFault ArgumentProgress :=
  if progress.onlyFiles then progress.readFile word
  else
    match word.toList with
    | ['-', '-'] => .ok { progress with onlyFiles := true }
    | '-' :: '-' :: cs => progress.readLong cs
    | '-' :: letter :: rest => progress.readShort letter rest
    | _ =>
      match progress.pending with
      | some (.awaiting name) => .ok { progress with pending := some (.given name word) }
      | _ => progress.readFile word

/-- The arguments, once all words have been read. -/
def finish (progress : ArgumentProgress) : Except ArgumentFault Arguments := do
  let progress ← progress.settle
  match progress.input with
  | none => .error .missingInput
  | some input =>
    pure
      { input
        select := progress.values.lookup .select
        flags := progress.flags
        view := progress.values.lookup .view
        output := progress.values.lookup .output
        settings := progress.values.lookup .settings
        logLevel := (progress.values.lookup .logLevel).getD "info" }

end ArgumentProgress

/-- Reads the words of a command line. -/
def Arguments.ofWords (words : List String) : Except ArgumentFault Arguments := do
  let progress ← words.foldlM ArgumentProgress.read {}
  progress.finish

end Viewpoint
