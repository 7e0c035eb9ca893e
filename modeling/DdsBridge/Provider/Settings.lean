import DdsBridge.Error

/-!
# Settings of a provider

A provider is initialized from a flat list of arguments in which some flags take the next argument
as their value. The bridge writes such a list from its options and the provider reads it back.

* **`InitOptions.toArgs`** — the writer: the user's own arguments, then the options.
* **`InitArgs.parse`** — the reader: two flags are understood, the values of other provider flags
  are skipped with them, and all else is ignored.
-/

namespace DdsBridge

/-- The greatest debug level. -/
def maxDebugLevel : Int := 10

/-- The flag before a debug level. -/
def debugLevelFlag : String := "-DCPSDebugLevel"

/-- The flag before the name of a configuration file. -/
def configFileFlag : String := "-DCPSConfigFile"

/-- What the user asks of the initialization. File names are bytes; `environment` is the file that
the environment names, which counts if no other is given. -/
structure InitOptions where
  args : List String := []
  defaultRtps : Bool := true
  debugLevel : Option Int := none
  configFile : Option (List UInt8) := none
  environment : Option (List UInt8) := none
  deriving DecidableEq, Repr

namespace InitOptions

/-- The configuration file asked for, as text. -/
def configPath (options : InitOptions) : Option String :=
  (options.configFile <|> options.environment).map Text.Utf8.decodeLossy

/-- The arguments that stand for a debug level. -/
def debugLevelArgs : Option Int → Except RangeFault (List String)
  | none => .ok []
  | some level =>
    if 0 ≤ level ∧ level ≤ maxDebugLevel then .ok [debugLevelFlag, toString level]
    else .error ⟨"opendds_debug_level (0..=10)", toString level⟩

/-- The arguments that stand for a configuration file. -/
def configFileArgs : Option String → List String
  | none => []
  | some path => [configFileFlag, path]

/-- The arguments for the provider. -/
def toArgs (options : InitOptions) : Except RangeFault (List String) := do
  let level ← debugLevelArgs options.debugLevel
  return options.args ++ level ++ configFileArgs options.configPath

end InitOptions

/-- What the provider understands of its arguments. -/
structure InitArgs where
  debugLevel : Option Nat := none
  configFile : Option String := none
  deriving DecidableEq, Repr

namespace InitArgs

/-- Reads a number below 256 in decimal digits, which a plus sign may precede. -/
def parseLevel (text : String) : Option Nat :=
  let digits := match text.toList with
    | '+' :: rest => rest
    | all => all
  if digits.isEmpty || !digits.all Char.isDigit then none
  else
    let value := digits.foldl (fun n c => 10 * n + (c.toNat - '0'.toNat)) 0
    if value < 256 then some value else none

/-- Whether a flag takes a value that the provider does not look at. -/
def skipsValue (flag : String) : Bool := flag.startsWith "-DCPS" || flag.startsWith "-ORB"

/-- Reads the arguments; a later setting replaces an earlier one. `isFile` says which files
exist. -/
def parseFrom (isFile : String → Bool) (parsed : InitArgs) :
    List String → Except ReturnCode InitArgs
  | [] => .ok parsed
  | flag :: rest =>
    if flag = debugLevelFlag then
      match rest with
      | [] => .error .badParameter
      | value :: rest =>
        match parseLevel value with
        | none => .error .badParameter
        | some level =>
          if maxDebugLevel < level then .error .badParameter
          else parseFrom isFile { parsed with debugLevel := some level } rest
    else if flag = configFileFlag then
      match rest with
      | [] => .error .badParameter
      | path :: rest =>
        if isFile path then parseFrom isFile { parsed with configFile := some path } rest
        else .error .preconditionNotMet
    else if skipsValue flag then
      match rest with
      | [] => .ok parsed
      | _ :: rest => parseFrom isFile parsed rest
    else parseFrom isFile parsed rest

/-- Reads the arguments of an initialization. -/
def parse (isFile : String → Bool) (args : List String) : Except ReturnCode InitArgs :=
  parseFrom isFile {} args

end InitArgs

end DdsBridge
