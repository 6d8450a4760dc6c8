/-!
The arguments are read one by one: an option that takes a value waits for the next one unless its value is
attached, and after `--` every argument is a plain word.
-/

namespace RecordFlow.CommandLine

inductive ValueOption where
  | script
  | config
  | input
  deriving DecidableEq

inductive Switch where
  | verbose
  | gzip
  | help
  | version
  | value (option : ValueOption)

structure RunOptions where
  script : Option String := none
  config : Option String := none
  input : Option String := none
  gzip : Bool := false
  deriving DecidableEq, Repr

inductive Command where
  | compile (script : String)
  | run (options : RunOptions)
  | help
  | version
  | misused
  deriving DecidableEq, Repr

inductive Scope where
  | top
  | compile
  | run
  | help
  deriving DecidableEq

structure Reading where
  scope : Scope := .top
  pending : Option ValueOption := none
  /-- `--` has been read. -/
  plain : Bool := false
  verbose : Bool := false
  word : Option String := none
  options : RunOptions := {}

def longOption? (scope : Scope) (name : String) : Option Switch :=
  match scope, name with
  | .help, _ => none
  | _, "verbose" => some .verbose
  | _, "help" => some .help
  | .top, "version" => some .version
  | .run, "script" => some (.value .script)
  | .run, "config" => some (.value .config)
  | .run, "input" => some (.value .input)
  | .run, "gzip" => some .gzip
  | _, _ => none

def shortOption? (scope : Scope) (name : Char) : Option Switch :=
  match scope, name with
  | .help, _ => none
  | _, 'v' => some .verbose
  | _, 'h' => some .help
  | .top, 'V' => some .version
  | .run, 'i' => some (.value .input)
  | _, _ => none

namespace Reading

/-- Stores the value of an option, which is not empty and given only once. -/
def setValue (reading : Reading) (option : ValueOption) (value : String) :
    Except Command Reading :=
  let options := reading.options
  let store (old : Option String) (changed : RunOptions) : Except Command Reading :=
    if value.isEmpty || old.isSome then .error .misused
    else .ok { reading with pending := none, options := changed }
  match option with
  | .script => store options.script { options with script := some value }
  | .config => store options.config { options with config := some value }
  | .input => store options.input { options with input := some value }

/-- Takes an option without value, which is given only once. -/
def setFlag (reading : Reading) : Switch → Except Command Reading
  | .verbose =>
    if reading.verbose then .error .misused else .ok { reading with verbose := true }
  | .gzip =>
    if reading.options.gzip then .error .misused
    else .ok { reading with options := { reading.options with gzip := true } }
  | .help => .error .help
  | .version => .error .version
  | .value option => .ok { reading with pending := some option }

def long (reading : Reading) (text : List Char) : Except Command Reading :=
  let name := String.ofList (text.takeWhile (· != '='))
  match longOption? reading.scope name, text.dropWhile (· != '=') with
  | none, _ => .error .misused
  | some (.value option), '=' :: value => reading.setValue option (String.ofList value)
  | some option, [] => reading.setFlag option
  | some _, _ => .error .misused

/-- Takes an argument that starts with one dash, given without it: a row of short options, of which
the last may have its value attached. -/
def short (reading : Reading) : List Char → Except Command Reading
  | [] => .ok reading
  | c :: rest =>
    match shortOption? reading.scope c, rest with
    | none, _ => .error .misused
    | some (.value option), [] => .ok { reading with pending := some option }
    | some (.value option), '=' :: value => reading.setValue option (String.ofList value)
    | some (.value option), value => reading.setValue option (String.ofList value)
    | some option, rest => do (← reading.setFlag option).short rest

def isCommandName (word : String) : Bool := word == "compile" || word == "run" || word == "help"

/-- Enters a command, whose `--verbose` counts apart from the one before it. -/
def enter (reading : Reading) (scope : Scope) : Reading :=
  { reading with scope := scope, verbose := false }

/-- Takes a plain word: the name of a command, or its one operand. -/
def operand (reading : Reading) (word : String) : Except Command Reading :=
  match reading.scope with
  | .top =>
    if reading.plain then .error .misused
    else
      match word with
      | "compile" => .ok (reading.enter .compile)
      | "run" => .ok (reading.enter .run)
      | "help" => .ok (reading.enter .help)
      | _ => .error .misused
  | .compile =>
    if word.isEmpty || reading.word.isSome then .error .misused
    else .ok { reading with word := some word }
  | .run => .error .misused
  | .help =>
    if isCommandName word && reading.word.isNone then .ok { reading with word := some word }
    else .error .misused

def step (reading : Reading) (argument : String) : Except Command Reading :=
  if reading.plain then reading.operand argument
  else
    match reading.pending, argument.toList with
    | some option, text =>
      if text.head? = some '-' ∧ text ≠ ['-'] then .error .misused
      else reading.setValue option argument
    | none, ['-', '-'] => .ok { reading with plain := true }
    | none, '-' :: '-' :: text => reading.long text
    | none, '-' :: c :: text => reading.short (c :: text)
    | none, _ => reading.operand argument

def finish (reading : Reading) : Command :=
  match reading.pending, reading.scope, reading.word with
  | some _, _, _ => .misused
  | none, .compile, some word => .compile word
  | none, .run, _ =>
    if reading.options.script.isSome && reading.options.config.isSome then .misused
    else .run reading.options
  | none, .help, _ => .help
  | none, _, _ => .misused

end Reading

def Command.ofArguments (arguments : List String) : Command :=
  match arguments.foldlM Reading.step {} with
  | .ok reading => reading.finish
  | .error command => command

end RecordFlow.CommandLine
