/-! Builtin operations have fixed names, some with aliases; every other name is a custom kind. -/

namespace RecordFlow

inductive Kind where
  | directAssignment
  | splitString
  | decompressGzip
  | sendStdout
  | decodeBase64
  | lowercaseString
  | delete
  | custom (name : String)
  deriving DecidableEq, Repr

namespace Kind

def ofName (name : String) : Kind :=
  match name with
  | "direct_assignment" => directAssignment
  | "split_string" | "split" | "string_split" => splitString
  | "decompress_gzip" | "decompress" | "gunzip" | "format_from_gzip" => decompressGzip
  | "send_stdout" | "print" | "stdout" => sendStdout
  | "decode_base64" | "base64_decode" | "b64decode" => decodeBase64
  | "lowercase_string" | "lowercase" | "lower" => lowercaseString
  | "delete" | "del" => delete
  | other => custom other

def name : Kind → String
  | directAssignment => "direct_assignment"
  | splitString => "split_string"
  | decompressGzip => "decompress_gzip"
  | sendStdout => "send_stdout"
  | decodeBase64 => "decode_base64"
  | lowercaseString => "lowercase_string"
  | delete => "delete"
  | custom name => name

def isBuiltin : Kind → Bool
  | directAssignment | custom _ => false
  | _ => true

def isCustom : Kind → Bool
  | custom _ => true
  | _ => false

end Kind

end RecordFlow
