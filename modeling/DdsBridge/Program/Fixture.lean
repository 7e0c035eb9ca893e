import DdsBridge.Idl.Catalog
import DdsBridge.Program.Run

/-!
# Where programs start

A program starts in one of a few situations, each of which includes the one before it: modules and
classes for the sample types, the extension module imported, the topic types registered, and the
provider initialized.

* **`Fixture`** — the situations.
* **`Program`**, **`Program.run`** — a program from its start.
-/

namespace DdsBridge.Program

open Interpreter

/-- Where a program starts. -/
inductive Fixture where
  /-- The extension module is not imported. -/
  | bare
  | imported
  | types
  | init
  deriving DecidableEq, Repr

namespace Fixture

/-- Every situation, each with what the one before it has and more. -/
def all : List Fixture := [.bare, .imported, .types, .init]

/-- The name of a situation. -/
def name : Fixture → String
  | .bare => "none"
  | .imported => "import"
  | .types => "types"
  | .init => "init"

/-- The situation with a name. -/
def ofName? (name : String) : Option Fixture := all.find? (·.name == name)

/-- Whether a situation includes another. -/
def includes (fixture part : Fixture) : Bool := all.idxOf part ≤ all.idxOf fixture

end Fixture

/-- Puts an object into a register. -/
def setRegister (name : String) (r : Ref) : ProgramAction Unit :=
  Action.change fun w => { w with registers := w.registers.insert name r }

/-- Defines classes on a module, each in the register of its name. -/
def defineClasses (module : Ref) (names : List String) : ProgramAction Unit := do
  for name in names do
    setRegister name (← defineSimple module name none)

/-- The modules and classes for the sample types, the policies and the entities. -/
def prepareClasses : ProgramAction Unit := do
  let basic ← addModule "basic"
  setRegister "basic" basic
  for e in Catalog.enums do
    setRegister e.name (← defineEnum basic e.name e.variants)
  defineClasses basic ["Reading", "Scalars", "Texts", "Nested", "Empty", "Partial", "Blank"]
  let reading := ownAttr? (← Action.world) basic "Reading"
  setRegister "Special" (← defineSimple basic "Special" reading)
  setRegister "Slotted" (← defineSlotted basic "Slotted" [Proxies.capsuleAttr, Registry.topicAttr])
  let package ← addModule "pkg"
  let sub ← addModule "pkg.sub"
  Action.change (World.storeAttr · package "sub" sub)
  let outer ← defineSimple sub "Outer" none
  setRegister "Outer" outer
  setRegister "Inner" (← defineSimple outer "Inner" none)
  defineClasses (← addModule "qos") ["Policy"]
  defineClasses (← addModule "pyopendds")
    ["DomainParticipant", "Topic", "Publisher", "Subscriber", "DataWriter", "DataReader"]

/-- The built-in classes that have a register. -/
def registeredBuiltins : List Builtin :=
  [.int, .str, .float, .bool, .list, .object, .type, .exception, .attributeError, .importError,
    .typeError, .overflowError, .valueError, .unicodeError, .keyError, .runtimeError,
    .timeoutError]

variable (isFile : String → Bool) (h : ProgramHost)

/-- Brings about a situation, step by step. -/
def prepare (fixture : Fixture) : ProgramAction Unit := do
  for b in registeredBuiltins do
    setRegister b.name b.ref
  prepareClasses
  if fixture.includes .imported then
    setRegister "module" (← Extension.load h Code.native)
  if fixture.includes .types then
    for type in Catalog.published do
      let _ ← Extension.raising h (Registry.registerTopicType h type)
  if fixture.includes .init then
    Extension.raising h (Bridge.init isFile {})

/-- The world in which a program starts. -/
def startWorld (fixture : Fixture) : ProgramWorld :=
  ((Action.framed (prepare isFile h fixture)).apply newWorld).2

end DdsBridge.Program

namespace DdsBridge

/-- A program: where it starts and its steps. -/
structure Program where
  fixture : Program.Fixture
  steps : List Program.Step

/-- What happened in each step of a program. -/
def Program.run (isFile : String → Bool) (program : Program) : List Program.StepReport :=
  let h := Program.hostAt isFile Program.callDepth
  Program.reportSteps isFile h (Program.startWorld isFile h program.fixture) program.steps

end DdsBridge
