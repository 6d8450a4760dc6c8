import RecordFlow.CommandLine.Arguments
import RecordFlow.CommandLine.Failure

/-! What a command prints and how it ends, given the files it names and the standard input. -/

namespace RecordFlow.CommandLine

open Operation

structure Outcome where
  exitCode : Nat
  output : String
  errors : String
  deriving DecidableEq, Repr

/-- Where a command gets its data: files by name, or the reason why one cannot be read, and the
standard input. -/
structure Surroundings where
  file : String → Except String ByteArray
  input : ByteArray

def versionText : String := "subpipe 0.3.0\n"

def defaultScript : String := "split_string()\nsend_stdout()"

/-- What a file that is no text is refused with. -/
def notTextReason : String := "stream did not contain valid UTF-8"

def Surroundings.textFile (surroundings : Surroundings) (path : String) : Except String String :=
  match surroundings.file path with
  | .error reason => .error reason
  | .ok bytes => (String.fromUTF8? bytes).elim (.error notTextReason) .ok

def compileFile (surroundings : Surroundings) (path : String) :
    Except Failure (List Descriptor) := do
  match surroundings.textFile path with
  | .error reason => throw (Failure.mk reason [] |>.during ("Failed to read script: " ++ path))
  | .ok text =>
    (Script.compile text).mapError fun error =>
      (Failure.ofScript error).during ("Failed to compile " ++ path)

def configFile (surroundings : Surroundings) (path : String) :
    Except Failure (List Descriptor) := do
  match surroundings.textFile path with
  | .error reason => throw (Failure.ofConfig (.unreadable path reason))
  | .ok text =>
    let config ← (Config.ofFile path text).mapError Failure.ofConfig
    config.descriptors.mapError fun error =>
      (Failure.ofConfig error).during ("Invalid configuration: " ++ path)

def runDescriptors (surroundings : Surroundings) (options : RunOptions) :
    Except Failure (List Descriptor) :=
  match options.script, options.config with
  | some path, _ => compileFile surroundings path
  | none, some path => configFile surroundings path
  | none, none =>
    (Script.compile defaultScript).mapError fun error =>
      (Failure.ofScript error).during "Failed to compile default pipeline"

def runInput (surroundings : Surroundings) (options : RunOptions) : Except Failure ByteArray := do
  let bytes ←
    match options.input with
    | none => pure surroundings.input
    | some path =>
      (surroundings.file path).mapError fun reason =>
        (Failure.mk reason []).during ("Failed to read input: " ++ path)
  if bytes.isEmpty then throw ⟨"Input is empty", []⟩
  return bytes

def isGzip (bytes : ByteArray) : Bool := Gzip.magic.isPrefixOf (bytes.toList)

/-- The operations with a decompression in front, unless there is one already. -/
def withDecompression : List Descriptor → List Descriptor
  | [] => [⟨.decompressGzip, [], none, none⟩]
  | first :: rest =>
    if first.kind = .decompressGzip then first :: rest
    else ⟨.decompressGzip, [], none, none⟩ :: first :: rest

/-- The first record of a run: the tree of a JSON object or array, or else the bytes as they are.
Compressed bytes are never read as JSON. -/
def firstRecord (compressed : Bool) (bytes : ByteArray) : Record :=
  if compressed then .ofBytes bytes
  else
    match (String.fromUTF8? bytes).bind Json.ofText? with
    | some (.object fields) => .ofPayload (.object fields)
    | some (.array items) => .ofPayload (.array items)
    | _ => .ofBytes bytes

def doneText (records operations : Nat) : String :=
  "done: " ++ toString records ++ " record(s) from " ++ toString operations ++ " operation(s)\n"

def runPipeline (descriptors : List Descriptor) (gzip : Bool) (bytes : ByteArray) : Outcome :=
  let compressed := isGzip bytes
  let descriptors := if gzip || compressed then withDecompression descriptors else descriptors
  match Pipeline.build Pipeline.builtinStage descriptors with
  | .error error =>
    ⟨1, "", ((Failure.ofOperation error).during "Failed to build pipeline").text⟩
  | .ok stages =>
    let run := Pipeline.run ({} : Sink) stages [firstRecord compressed bytes]
    match run.result with
    | .ok records => ⟨0, run.sink.printed, doneText records.length stages.length⟩
    | .error error =>
      ⟨1, run.sink.printed, ((Failure.ofOperation error).during "Pipeline failed").text⟩

def listing (descriptors : List Descriptor) : String :=
  (Json.array (descriptors.map fun d => .object d.entries)).indented 0 ++ "\n"

/-- How to use the program is told by the reader of its arguments, whose texts are left out. -/
def Command.execute (command : Command) (surroundings : Surroundings) : Outcome :=
  match command with
  | .misused => ⟨2, "", ""⟩
  | .help => ⟨0, "", ""⟩
  | .version => ⟨0, versionText, ""⟩
  | .compile path =>
    match compileFile surroundings path with
    | .ok descriptors => ⟨0, listing descriptors, ""⟩
    | .error failure => ⟨1, "", failure.text⟩
  | .run options =>
    match runDescriptors surroundings options with
    | .error failure => ⟨1, "", failure.text⟩
    | .ok descriptors =>
      match runInput surroundings options with
      | .error failure => ⟨1, "", failure.text⟩
      | .ok bytes => runPipeline descriptors options.gzip bytes

def Command.files : Command → List String
  | .compile path => [path]
  | .run options => options.script.toList ++ options.config.toList ++ options.input.toList
  | _ => []

def Command.readsInput : Command → Bool
  | .run options => options.input.isNone
  | _ => false

end RecordFlow.CommandLine
