import DdsBridge.Codec
import DdsBridge.Dds.Duration
import DdsBridge.Dds.ReturnCode
import DdsBridge.Dds.Status
import DdsBridge.Host.Ref

/-!
# Errors

Every way in which a bridge operation fails, as a cause with the data that the failure knows. The
wording is in one function, `Error.message`; the kind of an error decides which exception class
the scripting host raises for it.

* **`HostError`** — a failure reported by the scripting host itself.
* **`Error`** — a failure of a bridge operation, the host's own failures included.
* **`ErrorKind`** — the kinds, each with its exception class.
-/

namespace DdsBridge

/-- The kind of a failure that the host reports. -/
inductive HostErrorKind where
  | attribute
  | missingModule
  | type
  | overflow
  | value
  | encoding
  | other
  deriving DecidableEq, Repr

namespace HostErrorKind

/-- Every kind. -/
def all : List HostErrorKind :=
  [.attribute, .missingModule, .type, .overflow, .value, .encoding, .other]

/-- The name of a kind in error texts. -/
def name : HostErrorKind → String
  | .attribute => "AttributeError"
  | .missingModule => "ImportError"
  | .type => "TypeError"
  | .overflow => "OverflowError"
  | .value => "ValueError"
  | .encoding => "UnicodeError"
  | .other => "Exception"

/-- The kind with a name. -/
def ofName? (name : String) : Option HostErrorKind := all.find? (·.name == name)

/-- The kind as one capitalized word. -/
def word : HostErrorKind → String
  | .attribute => "Attribute"
  | .missingModule => "Import"
  | .type => "Type"
  | .overflow => "Overflow"
  | .value => "Value"
  | .encoding => "Encoding"
  | .other => "Other"

end HostErrorKind

/-- What a host attaches to a failure so that it can raise it again unchanged. -/
inductive Payload where
  /-- A note. -/
  | note (text : String)
  /-- The host's own exception object. -/
  | object (ref : Ref)
  deriving DecidableEq, Repr

/-- A failure reported by the host. -/
structure HostError where
  kind : HostErrorKind
  message : String
  payload : Option Payload := none
  deriving DecidableEq, Repr

/-- The text of a host failure: its kind and its message. -/
def HostError.text (error : HostError) : String := s!"{error.kind.name}: {error.message}"

/-- A failed attribute access. -/
def HostError.attribute (message : String) : HostError := { kind := .attribute, message }

/-- A use of an object that its type does not allow. -/
def HostError.type (message : String) : HostError := { kind := .type, message }

/-- A failure of a bridge operation. -/
inductive Error where
  /-- The bridge was not, or could not be, initialized. -/
  | init (message : String)
  /-- A proxy that should stand for an entity in the given role does not. -/
  | handleMissing (role expected : String)
  /-- A class is not registered as a topic type. -/
  | unknownType (name : String)
  /-- A value does not fit. -/
  | range (fault : RangeFault)
  /-- A value has the wrong type. -/
  | type (message : String)
  /-- A text cannot be coded. -/
  | encoding (fault : CodecFault)
  /-- A provider operation ended with a code that signals a failure. -/
  | operation (name : String) (code : ReturnCode)
  /-- A reader has no sample to take. -/
  | noData (source : String)
  /-- A wait ended without any of its statuses. -/
  | timeout (after : Duration) (mask : StatusMask)
  /-- A payload is not the coded form of its type. -/
  | serialization (reason : String)
  /-- The host failed. -/
  | host (error : HostError)
  deriving DecidableEq, Repr

/-- The kind of a failure. -/
inductive ErrorKind where
  | init
  | handleMissing
  | unknownType
  | range
  | type
  | encoding
  | operation
  | noData
  | timeout
  | serialization
  | host
  deriving DecidableEq, Repr

namespace ErrorKind

/-- Every kind. -/
def all : List ErrorKind :=
  [.init, .handleMissing, .unknownType, .range, .type, .encoding, .operation, .noData, .timeout,
    .serialization, .host]

/-- Name of the exception class for a kind. -/
def exceptionName : ErrorKind → String
  | .init => "InitError"
  | .handleMissing => "HandleMissing"
  | .unknownType => "UnknownType"
  | .range => "RangeError"
  | .type => "TypeMismatchError"
  | .encoding => "EncodingError"
  | .operation => "DdsOperationError"
  | .noData => "NoDataAvailable"
  | .timeout => "TimeoutError"
  | .serialization => "SerializationError"
  | .host => "PyOpenDDS_Error"

/-- The built-in exception class that the class also derives from, so that host code which
catches the built-in one keeps working. -/
def builtinBase : ErrorKind → Option String
  | .range => some "OverflowError"
  | .type => some "TypeError"
  | .encoding => some "ValueError"
  | .timeout => some "TimeoutError"
  | _ => none

end ErrorKind

namespace Error

/-- The kind of an error. -/
def kind : Error → ErrorKind
  | .init _ => .init
  | .handleMissing .. => .handleMissing
  | .unknownType _ => .unknownType
  | .range _ => .range
  | .type _ => .type
  | .encoding _ => .encoding
  | .operation .. => .operation
  | .noData _ => .noData
  | .timeout .. => .timeout
  | .serialization _ => .serialization
  | .host _ => .host

/-- The text of an error. -/
def message : Error → String
  | .init message => message
  | .handleMissing role expected => s!"{role} is missing a valid native {expected}"
  | .unknownType name => s!"{name} is not a valid PyOpenDDS type"
  | .range fault => s!"{fault.value} is out of range for {fault.target}"
  | .type message => message
  | .encoding fault => fault.message
  | .operation name code => s!"{name} failed with {code.name}"
  | .noData source => s!"no sample available on {source}"
  | .timeout after mask => s!"timed out after {after.text} waiting for {mask.text}"
  | .serialization reason => s!"sample serialization failed: {reason}"
  | .host error => error.text

/-- The return code behind an error, if there is one. -/
def returnCode? : Error → Option ReturnCode
  | .operation _ code => some code
  | .noData _ => some .noData
  | .timeout .. => some .timeout
  | _ => none

/-- Whether a polling loop takes the error for "try again later". -/
def isRecoverable : Error → Bool
  | .noData _ | .timeout .. => true
  | _ => false

end Error

/-! ## Errors with their fields -/

/-- A name with fields, as diagnostics show it. -/
def showFields (name : String) (fields : List (String × String)) : String :=
  let shown := fields.map fun field => field.1 ++ ": " ++ field.2
  name ++ " \x7b " ++ ", ".intercalate shown ++ " \x7d"

/-- A host failure with its fields; of the payload only whether there is one. -/
def HostError.inspect (error : HostError) : String :=
  showFields "HostError"
    [("kind", error.kind.word), ("message", Text.quoteText error.message),
      ("payload", toString error.payload.isSome)]

/-- An error with its fields. -/
def Error.inspect : Error → String
  | .init message => s!"Init({Text.quoteText message})"
  | .handleMissing role expected =>
    showFields "HandleMissing"
      [("role", Text.quoteText role), ("expected", Text.quoteText expected)]
  | .unknownType name => s!"UnknownType({Text.quoteText name})"
  | .range fault =>
    showFields "Range"
      [("target", Text.quoteText fault.target), ("value", Text.quoteText fault.value)]
  | .type message => s!"Type({Text.quoteText message})"
  | .encoding fault =>
    showFields "Encoding"
      [("codec", Text.quoteText fault.codec), ("action", Text.quoteText fault.action),
        ("reason", Text.quoteText fault.reason)]
  | .operation name code =>
    showFields "DdsOperation" [("operation", Text.quoteText name), ("code", code.word)]
  | .noData source => s!"NoDataAvailable({Text.quoteText source})"
  | .timeout after mask =>
    showFields "Timeout"
      [("timeout", showFields "DdsDuration"
          [("sec", toString after.sec), ("nanosec", toString after.nanosec)]),
        ("mask", s!"StatusMask({mask.bits})")]
  | .serialization reason => s!"Serialization({Text.quoteText reason})"
  | .host error => s!"Host({error.inspect})"

end DdsBridge
