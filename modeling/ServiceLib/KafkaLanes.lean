import Mathlib.Data.List.Sort
import ServiceLib.Transition

set_option autoImplicit false

/-!
# The lanes of the Kafka consumer

`LibrdkafkaConsumerClient::start` polls messages and hands each to the lane of its
partition, a queue with a worker thread of its own. The polling thread and every worker
are program counters over the shared state; a step is an access to an atomic flag, a
critical section, a notification, or the beginning or end of a poll or a handler call.
-/
namespace ServiceLib.KafkaLanes
open Transition

/-- The response codes that the consumer names, and any other one. -/
inductive ResponseError
 | noError
 | partitionEof
 | transport
 | resolve
 | unknownTopic
 | allBrokersDown
 | timedOut
 | waitCoord
 | inProgress
 | timedOutQueue
 | requestTimedOut
 | unknownTopicOrPart
 | leaderNotAvailable
 | networkException
 | coordinatorLoadInProgress
 | notCoordinator
 | other (code:ℤ)
deriving DecidableEq

def isTransientError : ResponseError → Bool
 | .transport | .resolve | .unknownTopic | .allBrokersDown | .timedOut | .waitCoord | .inProgress
 | .timedOutQueue | .requestTimedOut | .unknownTopicOrPart | .leaderNotAvailable | .networkException
 | .coordinatorLoadInProgress | .notCoordinator => true
 | _ => false

/-- What `rd_kafka_consumer_poll` returns, with the text of its error. -/
structure Message where
 err : ResponseError := .noError
 errText : String := ""
 key : Option String := none
 payload : Option String := none
 topic : String := ""
 partition : Int32 := 0
 offset : ℤ := 0
 headers : List (Option String × Option String) := []
deriving DecidableEq

structure QueuedMessage where
 key : String
 value : String
 topic : String
 partition : UInt32
 offset : ℤ
 headers : List (String × String)
deriving DecidableEq

def copyBytes (data:Option String) : String :=
 data.getD ""

def keepsHeader (tracingEnabled:Bool) (key:String) : Bool :=
 key = "x-stream-id" ||
  (tracingEnabled && (key = "x-trace" || key = "traceparent" || key = "tracestate" || key = "baggage"))

def copyHeaders (tracingEnabled:Bool) (headers:List (Option String × Option String)) :
  List (String × String) :=
 headers.foldl (fun result header =>
  match header.1 with
  | some key =>
   if keepsHeader tracingEnabled key then
    result.filter (fun h=>h.1 ≠ key) ++ [(key,copyBytes header.2)]
   else result
  | none => result) []

def Message.queued (tracingEnabled:Bool) (m:Message) : QueuedMessage :=
 { key := copyBytes m.key
   value := copyBytes m.payload
   topic := m.topic
   partition := m.partition.toUInt32
   offset := m.offset
   headers := copyHeaders tracingEnabled m.headers }

/-- The position that `commitOffset` or `storeOffset` writes. -/
structure Position where
 topic : String
 partition : UInt32
 offset : ℤ
deriving DecidableEq

structure ConsumerMessage where
 key : String
 value : String
 topic : String
 partition : UInt32
 offset : ℤ
 headers : List (String × String)
 commit : Position
 markMessage : Position
deriving DecidableEq

def dispatch (m:QueuedMessage) : ConsumerMessage :=
 { key := m.key
   value := m.value
   topic := m.topic
   partition := m.partition
   offset := m.offset
   headers := m.headers
   commit := ⟨m.topic,m.partition,m.offset + 1⟩
   markMessage := ⟨m.topic,m.partition,m.offset + 1⟩ }

/-- Where the worker of a lane is. `absent` is a worker that was never created; at `ready`
it is about to take the lane's mutex, at `handled` to load `running`. -/
inductive Worker
 | absent
 | ready
 | waiting
 | taken (m:QueuedMessage)
 | handling (m:QueuedMessage)
 | handled
 | caught (what:String)
 | remembered
 | ended
deriving DecidableEq

structure Lane where
 messages : List QueuedMessage := []
 stopped : Bool := false
 worker : Worker := .absent

/-- Where the thread that runs `start` is. `claimed` is past the exchange of `started` and
before the store to `running`. -/
inductive Main
 | idle
 | initialized
 | claimed
 | looping
 | polling
 | enqueuing (m:QueuedMessage)
 | pushing (m:QueuedMessage)
 | notifying (p:UInt32)
 | catching (what:String)
 | stopping (ps:List UInt32)
 | notifyingAll (p:UInt32) (ps:List UInt32)
 | joining (ps:List UInt32)
 | clearing
 | returned
 | threw (what:String)
deriving DecidableEq

/-- `lanes` are the keys of the map, in its order. A lane stays in `lane` when the map is
cleared, so that its worker can still be spoken of. -/
structure State where
 tracingEnabled : Bool
 main : Main := .idle
 started : Bool := false
 running : Bool := false
 error : Option String := none
 lanes : List UInt32 := []
 lane : UInt32 → Lane := fun _=>{}

def State.initial (tracingEnabled:Bool) : State :=
 { tracingEnabled := tracingEnabled }

/-- `advance` is the next step of `start` and `work p` the next one of a worker, where
their code determines it. `again` is a further call of `start`. -/
inductive Label
 | start (initialized:Bool)
 | advance
 | poll (result:Option Message)
 | emplace (exception:Option String)
 | stop
 | again
 | work (p:UInt32)
 | finish (p:UInt32) (exception:Option String)
 | wake (p:UInt32)
deriving DecidableEq

namespace State

def setLane (s:State) (p:UInt32) (lane:Lane) : State :=
 { s with lane := Function.update s.lane p lane }

def setWorker (s:State) (p:UInt32) (worker:Worker) : State :=
 s.setLane p { s.lane p with worker := worker }

def goto (s:State) (main:Main) : State :=
 { s with main := main }

def rememberError (s:State) (what:String) : State :=
 { s with error := s.error <|> some what }

/-- A notification of the lane's condition variable, on which only its worker waits. -/
def notify (s:State) (p:UInt32) : State :=
 match (s.lane p).worker with
 | .waiting => s.setWorker p .ready
 | _ => s

def joinable : Worker → Bool
 | .absent => false
 | _ => true

/-- What the loop of `start` does with the result of a poll. -/
def polled (s:State) : Option Message → State
 | none => s.goto .looping
 | some m =>
  if m.err = .partitionEof then s.goto .looping
  else if m.err ≠ .noError then
   if isTransientError m.err then s.goto .looping
   else s.goto (.catching ("Kafka consume: " ++ m.errText))
  else s.goto (.enqueuing (m.queued s.tracingEnabled))

/-- The lane is found, or put into the map and given a worker, whose creation may throw. -/
def emplace (s:State) (m:QueuedMessage) (exception:Option String) : State :=
 if m.partition ∈ s.lanes then s.goto (.pushing m)
 else
  let inserted:={ s with lanes := s.lanes.orderedInsert (· ≤ ·) m.partition }
  match exception with
  | none => (inserted.setLane m.partition { worker := .ready }).goto (.pushing m)
  | some what => (inserted.setLane m.partition {}).goto (.catching what)

def advance (s:State) : Option State :=
 match s.main with
 | .initialized => some { s with started := true,main := .claimed }
 | .claimed => some { s with running := true,main := .looping }
 | .looping => some (s.goto (if s.running then .polling else .stopping s.lanes))
 | .pushing m =>
  let lane:=s.lane m.partition
  some ((s.setLane m.partition { lane with messages := lane.messages ++ [m] }).goto
   (.notifying m.partition))
 | .notifying p => some ((s.notify p).goto .looping)
 | .catching what => some ((s.rememberError what).goto (.stopping s.lanes))
 | .stopping [] => some (s.goto (.joining s.lanes))
 | .stopping (p :: ps) =>
  some ((s.setLane p { s.lane p with stopped := true,messages := [] }).goto (.notifyingAll p ps))
 | .notifyingAll p ps => some ((s.notify p).goto (.stopping ps))
 | .joining [] => some (s.goto .clearing)
 | .joining (p :: ps) =>
  if !joinable (s.lane p).worker ∨ (s.lane p).worker = .ended then some (s.goto (.joining ps))
  else none
 | .clearing =>
  some { s with
   lanes := []
   error := none
   main := match s.error with
    | some what => .threw what
    | none => .returned }
 | _ => none

/-- The critical section at the head of `runLane`'s loop: the wait's condition is
evaluated with the mutex held, which a wait releases. -/
def check (s:State) (p:UInt32) : State :=
 let lane:=s.lane p
 if lane.stopped then s.setWorker p .ended
 else
  match lane.messages with
  | [] => s.setWorker p .waiting
  | m :: messages => s.setLane p { lane with messages := messages,worker := .taken m }

def work (s:State) (p:UInt32) : Option State :=
 match (s.lane p).worker with
 | .ready => some (s.check p)
 | .taken m => some (s.setWorker p (.handling m))
 | .handled => some (s.setWorker p (if s.running then .ready else .ended))
 | .caught what => some ((s.rememberError what).setWorker p .remembered)
 | .remembered => some ({ s with running := false }.setWorker p .ended)
 | _ => none

end State

/-- A wait may also end without a notification (`wake`). A further call of `start` throws
at the exchange of `started`. -/
def step (s:State) : Label → Option State
 | .start initialized =>
  match s.main with
  | .idle => some (if initialized then s.goto .initialized else s)
  | _ => none
 | .advance => s.advance
 | .poll result =>
  match s.main with
  | .polling => some (s.polled result)
  | _ => none
 | .emplace exception =>
  match s.main with
  | .enqueuing m => some (s.emplace m exception)
  | _ => none
 | .stop => some { s with running := false }
 | .again => if s.started then some s else none
 | .work p => s.work p
 | .finish p exception =>
  match (s.lane p).worker with
  | .handling _ =>
   some (s.setWorker p (match exception with
    | some what => .caught what
    | none => .handled))
  | _ => none
 | .wake p =>
  match (s.lane p).worker with
  | .waiting => some (s.setWorker p .ready)
  | _ => none

end ServiceLib.KafkaLanes
