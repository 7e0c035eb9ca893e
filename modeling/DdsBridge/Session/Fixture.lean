import DdsBridge.Idl.Catalog
import DdsBridge.Session.Run

/-!
# Where sessions start

A session starts in one of a few situations, each of which includes the one before it: a host with
nothing but built-in objects, classes for the sample types, a bridge, the topic types registered
with it, and the provider initialized.

* **`Fixture`** — the situations.
* **`Session`**, **`Session.run`** — a session from its start.
-/

namespace DdsBridge.Session

/-- Where a session starts. -/
inductive Fixture where
  | host
  | classes
  | bridge
  | types
  | init
  deriving DecidableEq, Repr

namespace Fixture

/-- Every situation, each with what the one before it has and more. -/
def all : List Fixture := [.host, .classes, .bridge, .types, .init]

/-- The name of a situation. -/
def name : Fixture → String
  | .host => "host"
  | .classes => "classes"
  | .bridge => "bridge"
  | .types => "types"
  | .init => "init"

/-- The situation with a name. -/
def ofName? (name : String) : Option Fixture := all.find? (·.name == name)

/-- Whether a situation includes another. -/
def includes (fixture part : Fixture) : Bool := all.idxOf part ≤ all.idxOf fixture

end Fixture

/-- An action that prepares a session. -/
abbrev Preparation := HostAction SessionBody

/-- Puts an object into a register. -/
def setRegister (name : String) (r : Ref) : Preparation Unit :=
  Action.change fun w => { w with registers := w.registers.insert name r }

/-- Defines classes on a module, each in the register of its name. -/
def defineClasses (module : Ref) (bases : List Ref) (names : List String) : Preparation Unit := do
  for name in names do
    setRegister name (← Memory.defineClass module name bases none)

/-- The modules and classes for the sample types, the policies and the entities. -/
def prepareClasses : Preparation Unit := do
  let basic ← Memory.addModule "basic"
  setRegister "basic" basic
  defineClasses basic [Memory.Builtin.int.ref] ["ReadingKind", "Level"]
  defineClasses basic []
    ["Reading", "Scalars", "Texts", "Nested", "Empty", "Partial", "Blank"]
  let reading ← Memory.getAttr basic "Reading"
  defineClasses basic [reading] ["Special"]
  let sub ← Memory.addModule "pkg.sub"
  defineClasses sub [] ["Outer"]
  let outer ← Memory.getAttr sub "Outer"
  defineClasses outer [] ["Inner"]
  defineClasses (← Memory.addModule "qos") [] ["Policy"]
  defineClasses (← Memory.addModule "pyopendds") []
    ["DomainParticipant", "Topic", "Publisher", "Subscriber", "DataWriter", "DataReader"]

variable (isFile : String → Bool) (h : SessionHost)

/-- Brings about a situation, step by step. -/
def prepare (fixture : Fixture) : BridgeAction SessionBody Unit := do
  let builtins ← (h.importModule "builtins" : Preparation Ref)
  (setRegister "builtins" builtins : Preparation Unit)
  (setRegister "int" Memory.Builtin.int.ref : Preparation Unit)
  if fixture.includes .classes then (prepareClasses : Preparation Unit)
  if fixture.includes .bridge then
    Bridge.build h Bridge.defaultModule Provider.defaultMaxSamples true
  if fixture.includes .types then
    for type in Catalog.published do
      let _ ← Registry.registerTopicType h type
  if fixture.includes .init then Bridge.init isFile {}

/-- The world in which a session starts. -/
def startWorld (fixture : Fixture) : SessionWorld :=
  ((Action.framed (prepare isFile h fixture)).apply Memory.newWorld).2

end DdsBridge.Session

namespace DdsBridge

/-- A session: where it starts, its steps, and whether each shows the provider's state. -/
structure Session where
  fixture : Session.Fixture
  steps : List Session.SessionStep
  traced : Bool

/-- What happened in each step of a session. -/
def Session.run (isFile : String → Bool) (session : Session) : List Session.StepReport :=
  let h := Session.hostAt isFile Session.callDepth
  Session.reportSteps isFile h session.traced (Session.startWorld isFile h session.fixture)
    session.steps

end DdsBridge
