import DdsBridge.Host.Ref

/-!
# Built-in objects of the interpreter

The interpreter has three built-in objects that are values and a fixed set of built-in classes,
the exception classes among them. Each has a fixed place in every world.

* **`Builtin`** — the built-in objects, each with its **`ref`**.
* **`Builtin.bases`**, **`Builtin.ancestors`** — the classes above a class, nearest first.
* **`Builtin.layout`** — the class that decides how the instances of a class are laid out; no class
  can derive from two classes of unrelated layouts.
-/

namespace DdsBridge.Interpreter

/-- The built-in objects. -/
inductive Builtin where
  | none
  | true
  | false
  | object
  | type
  | int
  | bool
  | float
  | str
  | list
  | tuple
  | dict
  | noneType
  | module
  | function
  | nativeFunction
  | method
  | weakReference
  /-- The class of enumeration classes. -/
  | enumType
  | enum
  | reprEnum
  | intEnum
  /-- The class of the objects that stand for a proxy's hold on an entity. -/
  | handle
  | baseException
  | exception
  | arithmeticError
  | overflowError
  | lookupError
  | keyError
  | valueError
  | unicodeError
  | unicodeEncodeError
  | typeError
  | attributeError
  | importError
  | moduleNotFoundError
  | runtimeError
  | osError
  | timeoutError
  deriving DecidableEq, Repr

namespace Builtin

/-- Every built-in object, in the order of their places. -/
def all : List Builtin :=
  [.none, .true, .false, .object, .type, .int, .bool, .float, .str, .list, .tuple, .dict,
    .noneType, .module, .function, .nativeFunction, .method, .weakReference, .enumType, .enum,
    .reprEnum, .intEnum, .handle, .baseException, .exception, .arithmeticError, .overflowError,
    .lookupError, .keyError, .valueError, .unicodeError, .unicodeEncodeError, .typeError,
    .attributeError, .importError, .moduleNotFoundError, .runtimeError, .osError, .timeoutError]

/-- The place of a built-in object. -/
def ref (b : Builtin) : Ref := ⟨all.idxOf b⟩

/-- The built-in object at a place. -/
def at? (r : Ref) : Option Builtin := all[r.id]?

/-- Whether a built-in object is a class. -/
def isClass : Builtin → Bool
  | .none | .true | .false => Bool.false
  | _ => Bool.true

/-- The name of a built-in class. -/
def name : Builtin → String
  | .none => "None"
  | .true => "True"
  | .false => "False"
  | .object => "object"
  | .type => "type"
  | .int => "int"
  | .bool => "bool"
  | .float => "float"
  | .str => "str"
  | .list => "list"
  | .tuple => "tuple"
  | .dict => "dict"
  | .noneType => "NoneType"
  | .module => "module"
  | .function => "function"
  | .nativeFunction => "builtin_function_or_method"
  | .method => "method"
  | .weakReference => "ReferenceType"
  | .enumType => "EnumType"
  | .enum => "Enum"
  | .reprEnum => "ReprEnum"
  | .intEnum => "IntEnum"
  | .handle => "NativeHandle"
  | .baseException => "BaseException"
  | .exception => "Exception"
  | .arithmeticError => "ArithmeticError"
  | .overflowError => "OverflowError"
  | .lookupError => "LookupError"
  | .keyError => "KeyError"
  | .valueError => "ValueError"
  | .unicodeError => "UnicodeError"
  | .unicodeEncodeError => "UnicodeEncodeError"
  | .typeError => "TypeError"
  | .attributeError => "AttributeError"
  | .importError => "ImportError"
  | .moduleNotFoundError => "ModuleNotFoundError"
  | .runtimeError => "RuntimeError"
  | .osError => "OSError"
  | .timeoutError => "TimeoutError"

/-- The module that a built-in class belongs to. -/
def home : Builtin → String
  | .weakReference => "weakref"
  | .enumType | .enum | .reprEnum | .intEnum => "enum"
  | .handle => "pyopendds._pyopendds"
  | _ => "builtins"

/-- The name of a built-in class in most error texts, with the module if it is not one of the
ordinary ones. -/
def fullName (b : Builtin) : String :=
  match b with
  | .handle => s!"{b.home}.{b.name}"
  | .weakReference => s!"{b.home}.{b.name}"
  | _ => b.name

/-- The classes that a built-in class derives from directly. -/
def bases : Builtin → List Builtin
  | .object => []
  | .bool => [.int]
  | .enumType => [.type]
  | .reprEnum => [.enum]
  | .intEnum => [.int, .reprEnum]
  | .exception => [.baseException]
  | .arithmeticError | .lookupError | .valueError | .typeError | .attributeError | .importError
  | .runtimeError | .osError => [.exception]
  | .overflowError => [.arithmeticError]
  | .keyError => [.lookupError]
  | .unicodeError => [.valueError]
  | .unicodeEncodeError => [.unicodeError]
  | .moduleNotFoundError => [.importError]
  | .timeoutError => [.osError]
  | _ => [.object]

/-- The classes above a built-in class, nearest first. -/
def ancestors : Builtin → List Builtin
  | .object => []
  | .bool => [.int, .object]
  | .enumType => [.type, .object]
  | .reprEnum => [.enum, .object]
  | .intEnum => [.int, .reprEnum, .enum, .object]
  | .exception => [.baseException, .object]
  | .arithmeticError | .lookupError | .valueError | .typeError | .attributeError | .importError
  | .runtimeError | .osError => [.exception, .baseException, .object]
  | .overflowError => [.arithmeticError, .exception, .baseException, .object]
  | .keyError => [.lookupError, .exception, .baseException, .object]
  | .unicodeError => [.valueError, .exception, .baseException, .object]
  | .unicodeEncodeError => [.unicodeError, .valueError, .exception, .baseException, .object]
  | .moduleNotFoundError => [.importError, .exception, .baseException, .object]
  | .timeoutError => [.osError, .exception, .baseException, .object]
  | _ => [.object]

/-- The class that decides the layout of the instances of a built-in class. -/
def layout : Builtin → Builtin
  | .bool | .intEnum => .int
  | .enumType => .type
  | .enum | .reprEnum => .object
  | .exception | .arithmeticError | .overflowError | .lookupError | .keyError | .valueError
  | .unicodeError | .typeError | .runtimeError => .baseException
  | .moduleNotFoundError => .importError
  | .timeoutError => .osError
  | b => b

/-- Whether no class can derive from a built-in class. -/
def isFinal : Builtin → Bool
  | .bool | .noneType | .function | .nativeFunction | .method | .handle => Bool.true
  | _ => Bool.false

/-- Whether nothing can be stored on a built-in class. Those that are not built into the
interpreter itself are ordinary classes in this respect. -/
def isImmutable : Builtin → Bool
  | .enumType | .enum | .reprEnum | .intEnum | .handle => Bool.false
  | _ => Bool.true

/-- Whether a built-in class is an exception class. -/
def isException (b : Builtin) : Bool := b = .baseException || b.ancestors.contains .baseException

end Builtin

end DdsBridge.Interpreter
