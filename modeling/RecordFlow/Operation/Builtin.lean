import RecordFlow.Gzip.Member
import RecordFlow.Operation.Endpoints
import RecordFlow.Text.Lowercase
import RecordFlow.Text.Pieces

/-! The operations that need no host. A control record passes through all of them unchanged. -/

namespace RecordFlow.Operation

inductive Builtin where
  | assign (id : String) (source target : Path)
  /-- One record for every non-empty piece between the separators, each `first :: more`. -/
  | split (endpoints : Endpoints) (first : Char) (more : List Char)
  | gunzip (endpoints : Endpoints)
  | print (endpoints : Endpoints)
  | decodeBase64 (endpoints : Endpoints)
  | lowercase (endpoints : Endpoints)
  | delete (id : String) (source target : Path)
  deriving Repr

namespace Builtin

/-- Where a delete leaves what it removed, unless it has a target. -/
def deletedField : Path := ⟨.payload, ["deleted_value"]⟩

def separator (descriptor : Descriptor) : Except Error (Char × List Char) :=
  match descriptor.setting? "separator" with
  | none => .ok ('\n', [])
  | some (.string text) =>
    match text.toList with
    | first :: more => .ok (first, more)
    | [] => .error ⟨descriptor.id, .misuse (.separator "")⟩
  | some other => .error ⟨descriptor.id, .misuse (.separator other.display)⟩

def ofDescriptor (descriptor : Descriptor) : Except Error Builtin :=
  match descriptor.kind with
  | .directAssignment => do
    let endpoints ← Endpoints.ofDescriptor descriptor
    match endpoints.source, endpoints.target with
    | some source, some target => return assign endpoints.id source target
    | _, _ => throw ⟨endpoints.id, .misuse .assignmentPaths⟩
  | .splitString => do
    let endpoints ← Endpoints.ofDescriptor descriptor
    let (first, more) ← separator descriptor
    return split endpoints first more
  | .decompressGzip => gunzip <$> Endpoints.ofDescriptor descriptor
  | .sendStdout => print <$> Endpoints.ofDescriptor descriptor
  | .decodeBase64 => decodeBase64 <$> Endpoints.ofDescriptor descriptor
  | .lowercaseString => lowercase <$> Endpoints.ofDescriptor descriptor
  | .delete => do
    let endpoints ← Endpoints.ofDescriptor descriptor
    match endpoints.source with
    | some source => return delete endpoints.id source (endpoints.target.getD deletedField)
    | none => throw ⟨endpoints.id, .misuse .deletePath⟩
  | .custom name => .error ⟨descriptor.id, .unsupported name⟩

def id : Builtin → String
  | assign id _ _ | delete id _ _ => id
  | split endpoints _ _ | gunzip endpoints | print endpoints | decodeBase64 endpoints
  | lowercase endpoints => endpoints.id

def decodeText (text : String) : Except BadInput Json :=
  match Base64.decode (Text.trimmed text).toUTF8.toList with
  | .ok bytes => .ok (.ofBytes ⟨bytes.toArray⟩)
  | .error error => .error (.base64 error)

def decompress (bytes : ByteArray) : Except BadInput Json :=
  match Gzip.decompress? bytes with
  | some data => .ok (.ofBytes data)
  | none => .error .gzip

def convert (endpoints : Endpoints) (record : Record) (value : Except BadInput Json) :
    Except Error (List Record) := do
  match value with
  | .error input => throw ⟨endpoints.id, .input input⟩
  | .ok value => return [← endpoints.write record value]

/-- The record of one piece of a split: the piece is the payload, or is written into an empty one. -/
def pieceRecord (endpoints : Endpoints) (metadata : Json) (piece : List Char) :
    Except Error Record :=
  let piece := Json.string (String.ofList piece)
  match endpoints.target with
  | some target => Endpoints.store endpoints.id (.data (.object []) metadata) target piece
  | none => .ok (.data piece metadata)

def pieces (first : Char) (more : List Char) (text : String) : List (List Char) :=
  (Text.piecesBetween first more text.toList).filter (· ≠ [])

/-- Removes what lives at a path of a record, on behalf of an operation. -/
def remove (id : String) (record : Record) (path : Path) : Except Error Record :=
  (record.erase path).result.mapError fun error => ⟨id, .path error⟩

variable {τ : Type} [Output τ]

def applyData (operation : Builtin) (sink : τ) (record : Record) : Except Error (List Record) × τ :=
  match operation with
  | assign id source target =>
    let field := record.get source
    if field.isPresent then
      ((Endpoints.store id record target field.value).map ([·]), sink)
    else (.ok [record], sink)
  | split endpoints first more =>
    let text := (endpoints.read record).text
    ((pieces first more text).mapM (pieceRecord endpoints record.metadata), sink)
  | gunzip endpoints =>
    (convert endpoints record (decompress (endpoints.read record).bytes), sink)
  | print endpoints =>
    match Output.write sink ((endpoints.read record).text ++ "\n") with
    | .ok sink => (.ok [record], sink)
    | .error reason => (.error ⟨endpoints.id, .output reason⟩, sink)
  | decodeBase64 endpoints =>
    (convert endpoints record (decodeText (endpoints.read record).text), sink)
  | lowercase endpoints =>
    (convert endpoints record (.ok (.string (Text.lowercase (endpoints.read record).text))), sink)
  | delete id source target =>
    let field := record.get source
    if field.isPresent then
      (do
        let emptied ← remove id record source
        return [← Endpoints.store id emptied target field.value], sink)
    else (.ok [record], sink)

def apply (operation : Builtin) (sink : τ) (record : Record) : Except Error (List Record) × τ :=
  if record.isControl then (.ok [record], sink) else operation.applyData sink record

end Builtin

end RecordFlow.Operation
