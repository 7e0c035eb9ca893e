import DdsBridge.Provider.State

/-!
# Statuses and samples

Raising a status on an entity makes it visible to conditions and, on a reader whose listener asked
for it, makes a listener call due. Samples are offered to a reader's queue, which its history
policy bounds: a queue that keeps the last ones gives up its oldest samples for a new one, a queue
that keeps all refuses a new one when it is full.

* **`State.raise`** — a status.
* **`State.offer`** — a sample to one reader.
* **`State.write`** — a payload to all readers matched with a writer, and to its history.
* **`State.take`** — the oldest sample of a reader.
-/

namespace DdsBridge.Provider

/-- Adds a number to an ascending list of handles. -/
def insertHandle (handle : Handle) : List Handle → List Handle
  | [] => [handle]
  | h :: rest =>
    if handle.id < h.id then handle :: h :: rest
    else if handle.id = h.id then h :: rest
    else h :: insertHandle handle rest

/-- The listener call that a status on an entity makes due. -/
def Record.callFor (record : Record) (handle : Handle) (kind : StatusKind) : List Call :=
  match record.body with
  | .reader reader =>
    match reader.listener with
    | some (listener, mask) => if mask.contains kind then [⟨listener, handle, kind⟩] else []
    | none => []
  | _ => []

namespace State

/-- Raises a status on an entity. -/
def raise (s : State) (handle : Handle) (kind : StatusKind) : State :=
  match s.entities.get? handle with
  | none => s
  | some record =>
    { s.modifyEntity handle fun r => { r with raised := r.raised.insert kind } with
      calls := s.calls ++ record.callFor handle kind }

/-- Takes a status back. -/
def lower (s : State) (handle : Handle) (kind : StatusKind) : State :=
  s.modifyEntity handle fun r => { r with raised := r.raised.remove kind }

/-- The queue after a sample was offered to it, or nothing if it refuses the sample. -/
def enqueue (history : History) (bound : Nat) (queue : List Sample) (sample : Sample) :
    Option (List Sample) :=
  match history.kind with
  | .keepLast =>
    let depth := history.capacity bound
    some (queue.drop (queue.length + 1 - depth) ++ [sample])
  | .keepAll => if queue.length < history.capacity bound then some (queue ++ [sample]) else none

/-- Raises the statuses of an accepted sample: on the reader and on its subscriber. -/
def announce (s : State) (reader : Handle) : State :=
  let subscriber := (s.entities.get? reader).bind Record.parent
  let s := s.raise reader .dataAvailable
  match subscriber with
  | some subscriber => s.raise subscriber .dataOnReaders
  | none => s

/-- Offers a sample to a reader. -/
def offer (s : State) (reader : Handle) (sample : Sample) : State :=
  match s.reader? reader with
  | none => s
  | some r =>
    match enqueue r.qos.history s.maxSamples r.queue sample with
    | none => s.raise reader .sampleRejected
    | some queue => (s.modifyReader reader fun r => { r with queue }).announce reader

/-- Offers samples to a reader, in order. -/
def offerAll (s : State) (reader : Handle) (samples : List Sample) : State :=
  samples.foldl (fun s sample => s.offer reader sample) s

/-- The payloads a writer keeps after writing one more. -/
def remember (qos : EndpointQos) (bound : Nat) (history : List (List UInt8))
    (payload : List UInt8) : List (List UInt8) :=
  if qos.durability.isDurable then
    let all := history ++ [payload]
    all.drop (all.length - qos.history.capacity bound)
  else history

/-- Writes a payload: the writer remembers it if it is durable, and every reader matched with the
writer is offered it, in ascending order. -/
def write (s : State) (writer : Handle) (payload : List UInt8) : Result Unit :=
  s.proceed (s.get writer .writer) fun _ =>
    match s.writer? writer with
    | none => s.fail .badParameter
    | some w =>
      let s := s.modifyWriter writer fun w =>
        { w with history := remember w.qos s.maxSamples w.history payload }
      succeed (w.matched.foldl (fun s reader => s.offer reader ⟨payload, .valid writer⟩) s) ()

/-- Whether a reader below a subscriber has something to take. -/
def hasData (s : State) (subscriber : Handle) : Bool :=
  s.entities.any fun _ record =>
    record.parent = some subscriber &&
      match record.body with
      | .reader reader => !reader.queue.isEmpty
      | _ => false

/-- Lowers the subscriber's status once none of its readers has anything to take. -/
def settleSubscriber (s : State) (subscriber : Handle) : State :=
  if s.hasData subscriber then s else s.lower subscriber .dataOnReaders

/-- Lowers the statuses of a reader that has nothing to take. -/
def settleReader (s : State) (reader : Handle) : State :=
  let parent := (s.entities.get? reader).bind Record.parent
  let s := s.lower reader .dataAvailable
  match parent with
  | some subscriber => s.settleSubscriber subscriber
  | none => s

/-- Takes the oldest sample of a reader. -/
def take (s : State) (reader : Handle) : Result Sample :=
  s.proceed (s.get reader .reader) fun _ =>
    match s.reader? reader with
    | none => s.fail .badParameter
    | some r =>
      match r.queue with
      | [] => (s.settleReader reader).fail .noData
      | sample :: rest =>
        let s := s.modifyReader reader fun r => { r with queue := rest }
        (if rest.isEmpty then s.settleReader reader else s).succeed sample

end State

end DdsBridge.Provider
