import Loading.Text.Split

/-!
# Arguments

The command line: options for the hierarchy, then a command with its name and at
most one flag of its own.

    --layer DIR ...  --library-dir DIR  --system-library-path PATHS
    --library-path PATHS  --allow-reserved-prefix
    resolve NAME [--link] | load-library NAME | resource NAME [--all]

A value stands behind its option, or behind a `=` in the same word.  A value in a
word of its own takes effect when the next option has been recognised, or after
the whole command; so of two faults the one that is reported is not always the
first.

* `Word.read` — what one word looks like.
* `Arguments.parse` — all words.
-/

namespace Loading

/-- What is to be done with a hierarchy. -/
inductive Command where
  /-- Resolve a module, and perhaps link it. -/
  | resolve (name : String) (link : Bool)
  /-- Load a native library. -/
  | loadLibrary (name : String)
  /-- Find a resource, or all of that name. -/
  | resource (name : String) (all : Bool)
  deriving Repr, DecidableEq, Inhabited

/-- What the options say. -/
structure Options where
  /-- The directories of the layers, root first. -/
  layers : List String := []
  /-- The directory of native libraries of the innermost layer. -/
  libraryDir : Option String := none
  /-- The path list of system libraries. -/
  systemLibraryPath : Option String := none
  /-- The path list of the libraries of the user. -/
  libraryPath : Option String := none
  /-- Are names under the reserved prefix permitted? -/
  allowReservedPrefix : Bool := false
  deriving Repr, DecidableEq, Inhabited

/-- A whole command line. -/
structure Arguments where
  /-- The options before the command. -/
  options : Options
  /-- The command. -/
  command : Command
  deriving Repr, DecidableEq, Inhabited

/-- What is wrong with a command line, or what it asks for instead of a command. -/
inductive UsageError where
  /-- Help is asked for. -/
  | help
  /-- There is nothing at all. -/
  | nothing
  /-- There is no command. -/
  | missingCommand
  /-- There is a word that is no command where a command is due. -/
  | unknownCommand
  /-- There is a word that has no place. -/
  | unknownArgument
  /-- An option lacks its value, or has an empty one. -/
  | invalidValue
  /-- A command lacks its name. -/
  | missingName
  /-- Something is given twice. -/
  | conflict
  /-- A flag is given a value. -/
  | tooManyValues
  deriving Repr, DecidableEq, Inhabited

/-! ## Words -/

/-- What one word of a command line looks like. -/
inductive Word where
  /-- `--`, behind which no word is an option. -/
  | escape
  /-- `--name` or `--name=value`. -/
  | long (name : String) (value : Option String)
  /-- `-` with letters. -/
  | short (letters : List Char)
  /-- Anything else. -/
  | plain (text : String)
  deriving Repr, DecidableEq

/-- Divides a long option at its first `=`. -/
def Word.ofLong (cs : List Char) : Word :=
  let name := cs.takeWhile (· ≠ '=')
  match cs.dropWhile (· ≠ '=') with
  | [] => .long (String.ofList name) none
  | _ :: value => .long (String.ofList name) (some (String.ofList value))

/-- What one word of a command line looks like. -/
def Word.read (w : String) : Word :=
  match w.toList with
  | ['-', '-'] => .escape
  | '-' :: '-' :: rest => .ofLong rest
  | '-' :: c :: rest => .short (c :: rest)
  | _ => .plain w

/-! ## Options -/

/-- The options that take a value. -/
inductive ValueOption where
  /-- The directory of one more layer. -/
  | layer
  /-- The directory of native libraries. -/
  | libraryDir
  /-- The path list of system libraries. -/
  | systemLibraryPath
  /-- The path list of the libraries of the user. -/
  | libraryPath
  deriving Repr, DecidableEq, Inhabited

namespace ValueOption

/-- The name of an option. -/
def name : ValueOption → String
  | .layer => "layer"
  | .libraryDir => "library-dir"
  | .systemLibraryPath => "system-library-path"
  | .libraryPath => "library-path"

/-- All options that take a value. -/
def all : List ValueOption :=
  [.layer, .libraryDir, .systemLibraryPath, .libraryPath]

/-- The option of a name. -/
def ofName? (name : String) : Option ValueOption :=
  all.find? fun option => option.name = name

end ValueOption

/-- The name of the flag that permits the reserved prefix. -/
def allowFlag : String := "allow-reserved-prefix"

/-- The name of the flag that asks for help. -/
def helpFlag : String := "help"

/-- An option whose value has not taken effect: it is still to come, or it has
been read. -/
abbrev Awaited := Option (ValueOption × Option String)

namespace Options

/-- The value of an option that may be given once. -/
def once (known : Option String) (value : String) : Except UsageError (Option String) :=
  match known with
  | some _ => .error .conflict
  | none => .ok (some value)

/-- The options with one more value.  Directories must not be empty. -/
def give (o : Options) (option : ValueOption) (value : String) : Except UsageError Options :=
  match option with
  | .layer =>
      if value.isEmpty then .error .invalidValue
      else .ok { o with layers := o.layers ++ [value] }
  | .libraryDir => do
      let dir ← once o.libraryDir value
      if value.isEmpty then .error .invalidValue else .ok { o with libraryDir := dir }
  | .systemLibraryPath => do
      .ok { o with systemLibraryPath := ← once o.systemLibraryPath value }
  | .libraryPath => do
      .ok { o with libraryPath := ← once o.libraryPath value }

/-- The options with the awaited value in effect; it must have been read. -/
def settle (o : Options) : Awaited → Except UsageError Options
  | none => .ok o
  | some (_, none) => .error .invalidValue
  | some (option, some value) => o.give option value

end Options

/-! ## Commands -/

/-- Goes on behind `--`, where every word is a name. -/
def readNames (name : Option String) (flag : Bool) : List String →
    Except UsageError (String × Bool)
  | [] =>
      match name with
      | some name => .ok (name, flag)
      | none => .error .missingName
  | word :: rest =>
      match name with
      | none => readNames (some word) flag rest
      | some _ => .error .unknownArgument

/-- The name and the flag of a command, from the words behind it. -/
def readOperands (flagName : Option String) (name : Option String) (flag : Bool) :
    List String → Except UsageError (String × Bool)
  | [] => readNames name flag []
  | word :: rest =>
      match Word.read word with
      | .escape => readNames name flag rest
      | .long n value =>
          if n = helpFlag ∨ some n = flagName then
            if value.isSome then .error .tooManyValues
            else if n = helpFlag then .error .help
            else if flag then .error .conflict
            else readOperands flagName name true rest
          else .error .unknownArgument
      | .short ('h' :: _) => .error .help
      | .short _ => .error .unknownArgument
      | .plain text =>
          match name with
          | none => readOperands flagName (some text) flag rest
          | some _ => .error .unknownArgument

/-- What commands there are; each begins with a word of its own. -/
inductive Verb where
  /-- Resolve a module. -/
  | resolve
  /-- Load a native library. -/
  | loadLibrary
  /-- Find resources. -/
  | resource
  deriving Repr, DecidableEq, Inhabited

namespace Verb

/-- The word that a command begins with. -/
def word : Verb → String
  | .resolve => "resolve"
  | .loadLibrary => "load-library"
  | .resource => "resource"

/-- The name of the flag that a command knows. -/
def flagName : Verb → Option String
  | .resolve => some "link"
  | .loadLibrary => none
  | .resource => some "all"

/-- The command for a name, with the flag or without it. -/
def command (verb : Verb) (name : String) (flag : Bool) : Command :=
  match verb with
  | .resolve => .resolve name flag
  | .loadLibrary => .loadLibrary name
  | .resource => .resource name flag

/-- All verbs. -/
def all : List Verb :=
  [.resolve, .loadLibrary, .resource]

/-- The verb of a word, if a command begins with it. -/
def ofWord? (word : String) : Option Verb :=
  all.find? fun verb => verb.word = word

/-- Reads what stands behind a verb. -/
def read (verb : Verb) (words : List String) : Except UsageError Command :=
  (readOperands verb.flagName none false words).map fun (name, flag) => verb.command name flag

end Verb

/-- Is the word the name of a command, or `help`? -/
def Command.isNamed (word : String) : Bool :=
  word == helpFlag || (Verb.ofWord? word).isSome

/-- What the words behind `help` ask for: help on one command at most. -/
def helpOn : List String → UsageError
  | [] => .help
  | [word] => if Command.isNamed word then .help else .unknownCommand
  | _ => .unknownCommand

/-! ## The whole command line -/

namespace Arguments

/-- What is wrong when the words end before a command. -/
def incomplete (o : Options) : UsageError :=
  if o = {} then .nothing else .missingCommand

/-- Goes on with a word that is no option and no value: it must be a command. -/
def readCommand (o : Options) (awaited : Awaited) (word : String) (rest : List String) :
    Except UsageError Arguments :=
  if word = helpFlag then .error (helpOn rest)
  else match Verb.ofWord? word with
    | none => .error .unknownCommand
    | some verb => do
        let command ← verb.read rest
        return ⟨← o.settle awaited, command⟩

/-- Reads words when some options are known and one may be awaited.  Behind `--`
there can be no command: not even the name of one is read as such. -/
def parseFrom (o : Options) (awaited : Awaited) : List String → Except UsageError Arguments
  | [] => do
      let o ← o.settle awaited
      .error (incomplete o)
  | word :: rest =>
      match Word.read word with
      | .escape =>
          match rest with
          | [] => do
              let o ← o.settle awaited
              .error (incomplete o)
          | word :: _ =>
              .error (if Command.isNamed word then .unknownArgument else .unknownCommand)
      | .long name value =>
          match ValueOption.ofName? name with
          | some option => do
              let o ← o.settle awaited
              match value with
              | some value => do
                  let o ← o.give option value
                  parseFrom o none rest
              | none => parseFrom o (some (option, none)) rest
          | none =>
              if name = helpFlag ∨ name = allowFlag then
                if value.isSome then .error .tooManyValues
                else do
                  let o ← o.settle awaited
                  if name = helpFlag then .error .help
                  else if o.allowReservedPrefix then .error .conflict
                  else parseFrom { o with allowReservedPrefix := true } none rest
              else .error .unknownArgument
      | .short ('h' :: _) => do
          let _ ← o.settle awaited
          .error .help
      | .short _ => .error .unknownArgument
      | .plain text =>
          match awaited with
          | some (option, none) => parseFrom o (some (option, some text)) rest
          | _ => readCommand o awaited text rest

/-- Reads all words of a command line. -/
def parse (words : List String) : Except UsageError Arguments :=
  parseFrom {} none words

end Arguments

end Loading
