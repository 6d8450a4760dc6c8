import RecordFlow.Descriptor
import RecordFlow.Operation.Fault
import RecordFlow.Record

/-!
Where an operation reads and writes: its source, or else the whole payload; its target, or else the payload anew.
What is printed goes to a sink.
-/

namespace RecordFlow.Operation

/-- Sinks by their states `τ`. A write takes the whole text, or refuses it for a reason and takes none of it. -/
class Output (τ : Type) where
  printed : τ → String
  write : τ → String → Except String τ
  printed_write {sink next : τ} {text : String} :
    write sink text = .ok next → printed next = printed sink ++ text

/-- A sink that keeps the text in memory, up to so many bytes of UTF-8 if it has a capacity. -/
structure Sink where
  printed : String := ""
  capacity : Option Nat := none
  deriving DecidableEq, Repr, Inhabited

namespace Sink

def fullText : String := "sink full"

def overflows (sink : Sink) (text : String) : Bool :=
  sink.capacity.any (· < sink.printed.utf8ByteSize + text.utf8ByteSize)

def write (sink : Sink) (text : String) : Except String Sink :=
  if sink.overflows text then .error fullText
  else .ok { sink with printed := sink.printed ++ text }

theorem printed_write {sink next : Sink} {text : String} (taken : sink.write text = .ok next) :
    next.printed = sink.printed ++ text := by
  unfold write at taken
  split at taken
  · cases taken
  · cases taken
    rfl

@[default_instance]
instance : Output Sink := ⟨printed, write, printed_write⟩

end Sink

structure Endpoints where
  id : String
  source : Option Path
  target : Option Path
  deriving DecidableEq, Repr

namespace Endpoints

def path? (id : String) : Option String → Except Error (Option Path)
  | none => .ok none
  | some text =>
    match Path.parse text with
    | .ok path => .ok (some path)
    | .error error => .error ⟨id, .path error⟩

/-- The endpoints a descriptor asks for; a bad source is reported before a bad target. -/
def ofDescriptor (descriptor : Descriptor) : Except Error Endpoints := do
  let source ← path? descriptor.id descriptor.source
  let target ← path? descriptor.id descriptor.target
  return ⟨descriptor.id, source, target⟩

def read (endpoints : Endpoints) (record : Record) : Field :=
  match endpoints.source with
  | none => record.get .payload
  | some source =>
    let field := record.get source
    if field.isPresent then field else record.get .payload

def store (id : String) (record : Record) (path : Path) (value : Json) : Except Error Record :=
  (record.set path value).result.mapError fun error => ⟨id, .path error⟩

def write (endpoints : Endpoints) (record : Record) (value : Json) : Except Error Record :=
  match endpoints.target with
  | none => .ok (record.setPayload value)
  | some target => store endpoints.id record target value

end Endpoints

end RecordFlow.Operation
