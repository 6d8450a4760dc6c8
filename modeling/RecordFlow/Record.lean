import RecordFlow.Field
import RecordFlow.Path.Walk

/-! A record is a payload and a metadata tree, or a control record, which holds no data and takes none. -/

namespace RecordFlow

inductive Record where
  | control
  | data (payload metadata : Json)
  deriving Repr

def Path.lookup (path : Path) (tree : Json) : Field :=
  match path.resolve tree with
  | .ok value => .ofTree value
  | .error _ => .missing

namespace Record

def ofPayload (payload : Json) : Record := data payload .null

def ofBytes (bytes : ByteArray) : Record := ofPayload (.ofBytes bytes)

def isControl : Record → Bool
  | control => true
  | data .. => false

def payload : Record → Json
  | control => .null
  | data payload _ => payload

def metadata : Record → Json
  | control => .null
  | data _ metadata => metadata

def setPayload (payload : Json) : Record → Record
  | control => control
  | data _ metadata => data payload metadata

def setMetadata (metadata : Json) : Record → Record
  | control => control
  | data payload _ => data payload metadata

def get (record : Record) (path : Path) : Field :=
  match record, path.root with
  | control, _ => .missing
  | data payload _, .payload => path.lookup payload
  | data _ metadata, .metadata => path.lookup metadata

def editTree (record : Record) (root : Path.Root) (change : Json → Path.Edit Json) :
    Path.Edit Record :=
  match record, root with
  | control, _ => .done control
  | data payload metadata, .payload => (change payload).map (data · metadata)
  | data payload metadata, .metadata => (change metadata).map (data payload ·)

def set (record : Record) (path : Path) (value : Json) : Path.Edit Record :=
  record.editTree path.root (path.write value)

def erase (record : Record) (path : Path) : Path.Edit Record :=
  record.editTree path.root path.erase

def getText (record : Record) (path : String) : Except Path.Error Field :=
  (Path.parse path).map record.get

/-- An edit at a written path; one that cannot be read leaves the record as it is. -/
def editAt (record : Record) (path : String) (change : Path → Path.Edit Record) :
    Path.Edit Record :=
  match Path.parse path with
  | .ok path => change path
  | .error error => .stopped record error

def setText (record : Record) (path : String) (value : Json) : Path.Edit Record :=
  record.editAt path (record.set · value)

def eraseText (record : Record) (path : String) : Path.Edit Record :=
  record.editAt path record.erase

end Record

end RecordFlow
