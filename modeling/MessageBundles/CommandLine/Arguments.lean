/-
  Arguments — what a command line asks for

  A command line has two levels: options, then a command with arguments and options of its own. The
  value of an option follows it or stands behind an equals sign, and does not start with a hyphen
  unless it stands there; a lone hyphen is a value. Behind two hyphens nothing is an option. Arguments
  are read in order, and the first that asks for help or the version, or that cannot be read, decides;
  an option that waits for its value is looked at before the next option is.

  Correspondence:
    `Cli`                               ↔ `Invocation`
    `Command`, `OutputFormat`           ↔ `Command`, `OutputFormat`
    `Cli::parse`, of the library `clap` ↔ `read`
-/

namespace MessageBundles.CommandLine

/-- How a bundle is printed. -/
inductive OutputFormat where
  | properties
  | json
  deriving DecidableEq, Repr

def OutputFormat.ofName? (name : String) : Option OutputFormat :=
  if name = "properties" then some .properties
  else if name = "json" then some .json
  else none

inductive Command where
  /-- Print the identifier of a reference. -/
  | normalize (reference : Option String)
  /-- Load the bundle of a reference, and print it or the message at a key. -/
  | load (reference : Option String) (isBuild : Bool) (key : Option String)
      (format : Option OutputFormat)
  deriving DecidableEq, Repr

structure Invocation where
  config : Option String
  command : Command
  deriving DecidableEq, Repr

/-- Why there is nothing to do. -/
inductive Stop where
  | help
  | version
  | misuse
  deriving DecidableEq, Repr

/-- Where in a command line an argument stands. -/
inductive Level where
  | top
  | normalize
  | load
  deriving DecidableEq, Repr

inductive Setting where
  | config
  | key
  | format
  deriving DecidableEq, Repr

/-- The options with a value that can be given at a level. -/
def Level.setting? (level : Level) (name : String) : Option Setting :=
  if name = "config" then some .config
  else if level = .load ∧ name = "key" then some .key
  else if level = .load ∧ name = "format" then some .format
  else none

structure Given where
  config : Option String
  key : Option String
  format : Option OutputFormat
  isBuild : Bool
  reference : Option String
  deriving DecidableEq, Repr

def Given.nothing : Given := ⟨none, none, none, false, none⟩

/-- Give a value to an option: once, and not one it cannot have. -/
def Given.give (g : Given) (s : Setting) (value : String) : Except Stop Given :=
  match s with
  | .config =>
    if g.config.isSome || value.isEmpty then .error .misuse else .ok { g with config := some value }
  | .key => if g.key.isSome then .error .misuse else .ok { g with key := some value }
  | .format =>
    match OutputFormat.ofName? value with
    | none => .error .misuse
    | some f => if g.format.isSome then .error .misuse else .ok { g with format := some f }

structure Progress where
  given : Given
  -- The last option, with its value if there is one.
  pending : Option (Setting × Option String)
  -- Whether two hyphens have been read.
  onlyValues : Bool
  deriving DecidableEq, Repr

def Progress.start : Progress := ⟨Given.nothing, none, false⟩

/-- Look at the option that waits for its value. -/
def Progress.settle (p : Progress) : Except Stop Given :=
  match p.pending with
  | none => .ok p.given
  | some (_, none) => .error .misuse
  | some (s, some value) => p.given.give s value

inductive Shape where
  -- Two hyphens.
  | divider
  -- An option with a long name, and the text behind the equals sign.
  | long (name : String) (attached : Option String)
  -- An option with a name of one character.
  | short (c : Char)
  | value
  deriving DecidableEq, Repr

def Shape.of (argument : String) : Shape :=
  match argument.toList with
  | ['-', '-'] => .divider
  | '-' :: '-' :: rest =>
    .long (String.ofList (rest.takeWhile (· != '=')))
      (match rest.dropWhile (· != '=') with
        | [] => none
        | _ :: text => some (String.ofList text))
  | '-' :: c :: _ => .short c
  | _ => .value

def longOption (level : Level) (p : Progress) (name : String) (attached : Option String) :
    Except Stop Progress :=
  match level.setting? name with
  | some s => do
    let g ← p.settle
    match attached with
    | some value => return ⟨← g.give s value, none, false⟩
    | none => return ⟨g, some (s, none), false⟩
  | none => do
    if attached.isSome then throw .misuse
    if name = "help" then
      let _ ← p.settle
      throw .help
    else if name = "version" ∧ level = .top then
      let _ ← p.settle
      throw .version
    else if name = "build" ∧ level = .load then
      let g ← p.settle
      if g.isBuild then throw .misuse
      return ⟨{ g with isBuild := true }, none, false⟩
    else throw .misuse

def shortOption (level : Level) (p : Progress) (c : Char) : Except Stop Progress :=
  if c = 'h' then do
    let _ ← p.settle
    throw .help
  else if c = 'V' ∧ level = .top then do
    let _ ← p.settle
    throw .version
  else .error .misuse

/-- Read a value: that of an option which waits for one, or a reference. -/
def valueArgument (p : Progress) (value : String) : Except Stop Progress :=
  match p.pending, p.onlyValues with
  | some (s, none), false => .ok { p with pending := some (s, some value) }
  | _, _ => do
    let g ← p.settle
    if g.reference.isSome then throw .misuse
    return ⟨{ g with reference := some value }, none, p.onlyValues⟩

def readArgument (level : Level) (p : Progress) (argument : String) : Except Stop Progress :=
  if p.onlyValues then valueArgument p argument
  else match Shape.of argument with
    | .divider => .ok { p with onlyValues := true }
    | .long name attached => longOption level p name attached
    | .short c => shortOption level p c
    | .value => valueArgument p argument

def readLevel (level : Level) (arguments : List String) : Except Stop Given := do
  let p ← arguments.foldlM (readArgument level) Progress.start
  p.settle

/-- The level of a command's name. -/
def Level.ofCommand? (name : String) : Option Level :=
  if name = "normalize" then some .normalize
  else if name = "load" then some .load
  else none

def commandOf (level : Level) (g : Given) : Command :=
  match level with
  | .load => .load g.reference g.isBuild g.key g.format
  | .top | .normalize => .normalize g.reference

/-- Read a command and its arguments, and then look at what was given in front of it. A file of
settings that is given at both levels counts at the inner one. -/
def readCommand (p : Progress) (level : Level) (arguments : List String) :
    Except Stop Invocation := do
  let inner ← readLevel level arguments
  let outer ← p.settle
  return ⟨inner.config.or outer.config, commandOf level inner⟩

/-- What follows the word for help: at most the name of a command. -/
def helpWith (arguments : List String) : Stop :=
  match arguments with
  | [] => .help
  | [name] => if name = "help" ∨ (Level.ofCommand? name).isSome = true then .help else .misuse
  | _ => .misuse

def readFrom : Progress → List String → Except Stop Invocation
  | _, [] => .error .misuse
  | p, argument :: rest =>
    if p.onlyValues then .error .misuse
    else match Shape.of argument with
      | .divider => readFrom { p with onlyValues := true } rest
      | .long name attached => do readFrom (← longOption .top p name attached) rest
      | .short c => do readFrom (← shortOption .top p c) rest
      | .value =>
        match p.pending with
        | some (s, none) => readFrom { p with pending := some (s, some argument) } rest
        | _ =>
          if argument = "help" then .error (helpWith rest)
          else match Level.ofCommand? argument with
            | none => .error .misuse
            | some level => readCommand p level rest

/-- What a command line asks for. -/
def read (arguments : List String) : Except Stop Invocation := readFrom Progress.start arguments

end MessageBundles.CommandLine
