/-!
# Return codes

The outcome codes of data distribution service operations.

* **`ReturnCode`** — the thirteen codes, `ok` first.
* **`ReturnCode.code`**, **`ReturnCode.ofCode?`** — the code's number and back.
* **`ReturnCode.failures`** — every code but `ok`.
-/

namespace DdsBridge

/-- The outcome of an operation. -/
inductive ReturnCode where
  | ok
  | error
  | unsupported
  | badParameter
  | preconditionNotMet
  | outOfResources
  | notEnabled
  | immutablePolicy
  | inconsistentPolicy
  | alreadyDeleted
  | timeout
  | noData
  | illegalOperation
  deriving DecidableEq, Repr, Inhabited

namespace ReturnCode

/-- Every code, in the order of their numbers. -/
def all : List ReturnCode :=
  [.ok, .error, .unsupported, .badParameter, .preconditionNotMet, .outOfResources, .notEnabled,
    .immutablePolicy, .inconsistentPolicy, .alreadyDeleted, .timeout, .noData, .illegalOperation]

/-- The number of a code. -/
def code : ReturnCode → Nat
  | .ok => 0
  | .error => 1
  | .unsupported => 2
  | .badParameter => 3
  | .preconditionNotMet => 4
  | .outOfResources => 5
  | .notEnabled => 6
  | .immutablePolicy => 7
  | .inconsistentPolicy => 8
  | .alreadyDeleted => 9
  | .timeout => 10
  | .noData => 11
  | .illegalOperation => 12

/-- The code with a number. -/
def ofCode? (n : Int) : Option ReturnCode := all.find? fun c => (c.code : Int) = n

/-- The code's name in capitals, as error texts show it. -/
def name : ReturnCode → String
  | .ok => "OK"
  | .error => "ERROR"
  | .unsupported => "UNSUPPORTED"
  | .badParameter => "BAD_PARAMETER"
  | .preconditionNotMet => "PRECONDITION_NOT_MET"
  | .outOfResources => "OUT_OF_RESOURCES"
  | .notEnabled => "NOT_ENABLED"
  | .immutablePolicy => "IMMUTABLE_POLICY"
  | .inconsistentPolicy => "INCONSISTENT_POLICY"
  | .alreadyDeleted => "ALREADY_DELETED"
  | .timeout => "TIMEOUT"
  | .noData => "NO_DATA"
  | .illegalOperation => "ILLEGAL_OPERATION"

/-- The code's name as one capitalized word. -/
def word : ReturnCode → String
  | .ok => "Ok"
  | .error => "Error"
  | .unsupported => "Unsupported"
  | .badParameter => "BadParameter"
  | .preconditionNotMet => "PreconditionNotMet"
  | .outOfResources => "OutOfResources"
  | .notEnabled => "NotEnabled"
  | .immutablePolicy => "ImmutablePolicy"
  | .inconsistentPolicy => "InconsistentPolicy"
  | .alreadyDeleted => "AlreadyDeleted"
  | .timeout => "Timeout"
  | .noData => "NoData"
  | .illegalOperation => "IllegalOperation"

/-- The name of the exception class for a failure with this code. -/
def exceptionName (c : ReturnCode) : String := c.word ++ "ReturnCodeError"

/-- Whether the operation succeeded. -/
def isOk (c : ReturnCode) : Bool := c = .ok

/-- The codes that signal a failure. -/
def failures : List ReturnCode := all.filter fun c => !c.isOk

end ReturnCode

end DdsBridge
