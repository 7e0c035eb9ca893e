import DdsBridge.Idl.Type

/-!
# The coding of samples

A sample travels as bytes. How a value becomes bytes, and bytes a value, is not the affair of whoever
sends or receives it: a coding is handed to the bridge, which passes its failures on as texts.
-/

namespace DdsBridge

/-- A coding of values as bytes. Either way may fail, with a text that says why. -/
structure SampleCoding where
  encode : IdlType → Value → Except String (List UInt8)
  decode : IdlType → List UInt8 → Except String Value

end DdsBridge
