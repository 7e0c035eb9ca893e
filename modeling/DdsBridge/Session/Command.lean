import DdsBridge.Host.Memory.Object
import DdsBridge.Idl.Type
import DdsBridge.Provider.Operation
import DdsBridge.Provider.Method
import DdsBridge.Provider.Settings

/-!
# The commands of a session

A session is a list of steps. A step carries out one command and may keep the object that the
command yields in a register. Commands name objects by operands, which can build new objects on
the spot, and among them functions whose bodies are again steps.

* **`HostCommand`**, **`TypeCommand`**, **`CapsuleCommand`**, **`BridgeCommand`**,
  **`ProviderCommand`** — the commands, by what they address; `O` stands for the notation of
  objects and `F` for that of functions.
* **`Operand`**, **`FunctionSpec`** — the notation of objects and functions, mutually.
* **`Code`** — a function as it lives in the heap, its value already an object.
-/

namespace DdsBridge.Session

/-- Commands on host objects, modules and registers. -/
inductive HostCommand (O F : Type) where
  | addModule (name : String)
  | defineClass (module : O) (name : String) (bases : List O) (init : Option F)
  | defineException (name : String) (bases : List O)
  | use (value : O)
  | importModule (name : String)
  | getAttr (obj : O) (name : String)
  | setAttr (obj : O) (name : String) (value : O)
  | delAttr (obj : O) (name : String)
  | call (callable : O) (args : List O)
  | typeOf (obj : O)
  | isInstance (obj cls : O)
  /-- Whether two operands are the same object, and whether they have the same identity. -/
  | same (a b : O)
  /-- Whether an object is the one that stands for nothing, for true, or for false. -/
  | flags (obj : O)
  | asSigned (obj : O)
  | asUnsigned (obj : O)
  | asFloat (obj : O)
  | strOf (obj : O)
  | describe (obj : O)
  | inspect (obj : O)
  /-- An object in full, the items of lists and tuples one by one. -/
  | dump (obj : O)
  | items (obj : O)
  | item (obj : O) (index : Nat)
  | capsuleHandle (obj : O)
  /-- Names an object without keeping it alive. -/
  | weaken (obj : O) (name : String)
  /-- The object with such a name, if it is still there. -/
  | upgrade (name : String)
  | drop (name : String)
  | dropAll
  /-- How often the host's lock was released, and how often an action ran as if on a thread. -/
  | counters

/-- Commands that convert values. They remember classes with the bridge if there is one. -/
inductive TypeCommand (O : Type) where
  | fromHost (type : IdlType) (obj : O)
  | toHost (type : IdlType) (value : Value)
  | structToHost (type : StructType) (value : Value) (existing : Option O)
  | structFromHost (type : StructType) (obj : O)
  /-- The host class of a type, remembered apart from the bridge. -/
  | resolve (name : String) (path : ClassPath)
  /-- How many classes are remembered apart from the bridge. -/
  | remembered
  | writerQos (qos : Option O)
  | readerQos (qos : Option O)

/-- Commands on capsules that belong to no bridge. -/
inductive CapsuleCommand (O : Type) where
  | bind (proxy : O) (kind : EntityKind) (handle : Handle)
  | fetch (proxy : O) (kind : EntityKind) (role : String)
  | fetchAny (proxy : O) (role expected : String)
  | unbind (proxy : O)

/-- What an exception class is looked up by. -/
inductive ExceptionKey where
  | code (code : ReturnCode)
  | error (error : Error)
  | kind (kind : ErrorKind)

/-- Commands on the bridge. -/
inductive BridgeCommand (O : Type) where
  | build (moduleName : Option String) (maxSamples : Option Nat) (observed : Bool)
  | init (options : InitOptions)
  | isInitialized
  | version
  | registerTopicType (type : StructType)
  /-- The size of the registry and what it finds for some type names. -/
  | registry (names : List String)
  | lookup (cls : O)
  | typeName (cls : O)
  | createParticipant (proxy : O) (domain : DomainId)
  | createTopic (proxy participant : O) (name typeName : String)
  | createPublisher (proxy participant : O)
  | createSubscriber (proxy participant : O)
  | createWriter (proxy publisher topic : O) (qos : Option O)
  | createReader (proxy subscriber topic : O) (qos : Option O)
  | registerType (participant cls : O)
  | cleanup (proxy : O)
  | write (writer sample : O)
  | take (reader : O)
  | takeAs (reader : O) (type : IdlType)
  | waitFor (entity : O) (mask : StatusMask) (sec : Int) (nanosec : Nat)
  | setCallback (reader callback : O)
  | clearCallback (reader : O)
  | pending
  | dispatch (timeout : Option Nat)
  | fetch (proxy : O) (kind : EntityKind) (role : String)
  | fetchAny (proxy : O) (role : String)
  | exception (error : Error)
  | exceptionClass (key : ExceptionKey)
  | exceptionClasses
  | exceptionBase

/-- Commands on the provider, past the bridge. -/
inductive ProviderCommand where
  | perform (operation : Provider.Operation)
  | release (kind : EntityKind) (handle : Handle)
  /-- The settings that the provider was initialized with. -/
  | config
  | version
  | isAlive (handle : Handle)
  /-- An entity's counts. -/
  | entity (handle : Handle)
  | wait (waitSet : WaitSetId) (limit : Duration)
  /-- Begins a wait beside the session. -/
  | startWait (name : String) (waitSet : WaitSetId) (limit : Duration)
  /-- Ends such a wait. -/
  | joinWait (name : String)
  /-- Puts faults in store. -/
  | inject (method : Provider.Method) (codes : List ReturnCode)

/-- A command. -/
inductive Command (O F : Type) where
  | host (command : HostCommand O F)
  | type (command : TypeCommand O)
  | capsule (command : CapsuleCommand O)
  | bridge (command : BridgeCommand O)
  | provider (command : ProviderCommand)

/-- A command, and the register that keeps the object it yields. -/
structure Step (O F : Type) where
  command : Command O F
  register : Option String

mutual

/-- The notation of an object. -/
inductive Operand where
  | none
  | bool (b : Bool)
  | int (n : Int)
  | float (x : Number.Binary64)
  | text (s : String)
  | register (name : String)
  | list (items : List Operand)
  | tuple (items : List Operand)
  /-- A new instance of a class, with attributes assigned in order. -/
  | instance (cls : Operand) (attrs : List (String × Operand))
  | call (callable : Operand) (args : List Operand)
  | function (spec : FunctionSpec)

/-- The notation of a function. -/
inductive FunctionSpec where
  /-- Returns an object, the same each time. -/
  | give (value : Operand)
  /-- Fails. -/
  | fail (error : HostError)
  /-- Leaves a trace of its arguments. -/
  | record (name : String)
  /-- Fails if the text of its second argument is the given one. -/
  | guard (attr : String) (error : HostError)
  /-- Returns one of its arguments. -/
  | argument (index : Nat)
  /-- Returns an attribute of its first argument. -/
  | attribute (name : String)
  /-- Carries out steps with its arguments in registers. -/
  | script (steps : List (Step Operand FunctionSpec))

end

instance : Inhabited Operand := ⟨.none⟩

/-- A step of a session. -/
abbrev SessionStep := Step Operand FunctionSpec

/-- A function of the heap. -/
inductive Code where
  | give (value : Ref)
  | fail (error : HostError)
  | record (name : String)
  | guard (attr : String) (error : HostError)
  | argument (index : Nat)
  | attribute (name : String)
  | script (steps : List SessionStep)

instance : Memory.HostCode Code where
  references
    | .give value => [value]
    | _ => []

/-- The body of an object of a session. -/
abbrev SessionBody := Memory.Body Code

/-- The world of a session. -/
abbrev SessionWorld := World SessionBody

end DdsBridge.Session
