import ClusterQuery.Fetch.Request
import ClusterQuery.Fetch.Schedule

/-!
# Fan-out

One request goes to many endpoints at once, and the caller waits until all have ended or a
deadline has passed. The same deadline bounds each request and the wait as a whole. Each request
has a slot; a request that ends puts its outcome into its slot, in whatever order requests end.
A request that dies says nothing: its slot stays empty. When the wait is over, an empty slot is
reported as aborted, unless the wait ended at the deadline, when every empty slot counts as timed
out. A wait whose end lies beyond the last moment of the clock cannot begin: the fan-out dies, and
reports nothing.
-/

namespace ClusterQuery

/-- What one peer does with a request. -/
inductive Conduct where
  /-- Answers, or fails with an error of its own, after some time. -/
  | answers (after : Time.Span) (outcome : FetchOutcome)
  /-- Never answers. -/
  | hangs
  /-- The request dies at once, without an outcome. -/
  | dies

namespace Conduct

/-- When a request ends by itself. -/
def endsAfter? : Conduct → Option Time.Span
  | .answers after _ => some after
  | .hangs => none
  | .dies => some .zero

/-- Whether a request has ended before a deadline. -/
def endsBefore (deadline : Time.Span) (conduct : Conduct) : Bool :=
  FanOut.inTime deadline conduct.endsAfter?

end Conduct

/-- An endpoint, and what its peer does with each request. -/
structure Listener where
  endpoint : Endpoint
  conduct : FetchRequest → Conduct

namespace FanOut

/-! ## Sending -/

/-- The requests sent so far, and what their peers do with them. -/
structure Dispatch where
  requests : List (Endpoint × FetchRequest)
  conducts : List Conduct

namespace Dispatch

/-- Sends a request to one more endpoint, whose peer decides what comes of it. -/
def send (request : FetchRequest) (dispatch : Dispatch) (listener : Listener) : Dispatch :=
  { requests := dispatch.requests ++ [(listener.endpoint, request)]
    conducts := dispatch.conducts ++ [listener.conduct request] }

/-- Sends a request to every endpoint, in their order. -/
def toAll (request : FetchRequest) (listeners : List Listener) : Dispatch :=
  listeners.foldl (send request) ⟨[], []⟩

/-- The requests at some positions. -/
def requestsAt (dispatch : Dispatch) (chosen : Nat → Bool) : List (Endpoint × FetchRequest) :=
  (dispatch.requests.zipIdx.filter fun sent => chosen sent.2).map Prod.fst

end Dispatch

/-! ## Waiting -/

/-- What the caller learns next while it waits. -/
inductive Signal where
  /-- The request at a position ended, some time after the start, with an outcome. -/
  | outcome (position : Nat) (after : Time.Span) (outcome : FetchOutcome)
  /-- A request died; nothing tells which. -/
  | death (after : Time.Span)
  /-- The deadline of the whole wait has passed. -/
  | cutoff

/-- The signal with which the request at a position ends under its own deadline. -/
def signal (deadline : Time.Span) (position : Nat) : Conduct → Signal
  | .answers after outcome =>
      if after.nanos ≤ deadline.nanos then .outcome position after outcome
      else .outcome position deadline (.error (.timedOut deadline))
  | .hangs => .outcome position deadline (.error (.timedOut deadline))
  | .dies => .death .zero

/-- What the caller learns from an event. -/
def Event.signal? (deadline : Time.Span) (conducts : List Conduct) : Event → Option Signal
  | .ends position => conducts[position]?.map (signal deadline position)
  | .cutoff => some .cutoff

/-- What the caller learns from events, in their order. -/
def signals (deadline : Time.Span) (conducts : List Conduct) (events : List Event) : List Signal :=
  events.filterMap (Event.signal? deadline conducts)

/-- What a caller has got so far. -/
structure Wait where
  /-- One slot for each request, in the order of the endpoints. -/
  slots : List (Option FetchOutcome)
  /-- The outcomes in the order in which they came. -/
  received : List FetchOutcome
  clock : Time.Span
  /-- Whether the wait has ended at the deadline. -/
  expired : Bool

namespace Wait

/-- The wait for a number of requests, when it begins. -/
def start (count : Nat) : Wait := ⟨List.replicate count none, [], .zero, false⟩

/-- The wait at a moment; time does not go back. -/
def advance (wait : Wait) (moment : Time.Span) : Wait :=
  { wait with clock := ⟨max wait.clock.nanos moment.nanos⟩ }

/-- The wait after one signal. -/
def take (deadline : Time.Span) (wait : Wait) : Signal → Wait
  | .outcome position after outcome =>
      { wait.advance after with
        slots := wait.slots.set position (some outcome)
        received := wait.received ++ [outcome] }
  | .death after => wait.advance after
  | .cutoff => { wait with clock := deadline, expired := true }

/-- Takes signals until there are no more or the deadline has passed. -/
def collect (deadline : Time.Span) (wait : Wait) : List Signal → Wait
  | [] => wait
  | signal :: signals =>
      let wait := wait.take deadline signal
      if wait.expired then wait else wait.collect deadline signals

end Wait

/-- What a slot is reported as when the wait is over. -/
def settle (deadline : Time.Span) (expired : Bool) : Option FetchOutcome → FetchOutcome
  | some outcome => outcome
  | none =>
      if expired then .error (.timedOut deadline)
      else .error (.aborted "task panicked or was cancelled")

/-- What a fan-out came to. -/
structure Report where
  /-- One outcome for each endpoint, in their order. -/
  outcomes : List FetchOutcome
  /-- The outcomes that came in before the deadline, in the order of time. -/
  received : List FetchOutcome
  elapsed : Time.Span

/-- The report on requests, once events have come in the given order. -/
def report (deadline : Time.Span) (conducts : List Conduct) (events : List Event) : Report :=
  let wait :=
    (Wait.start conducts.length).collect deadline (signals deadline conducts events)
  { outcomes := wait.slots.map (settle deadline wait.expired)
    received := wait.received
    elapsed := wait.clock }

/-! ## Sending and waiting -/

/-- When a fan-out begins, and what carries it out. -/
structure Course where
  now : Time.Span := .zero
  [executor : Executor]

namespace Course

/-- Whether the clock can name the end of a wait. -/
def reaches (course : Course) (deadline : Time.Span) : Bool :=
  course.now.nanos + deadline.nanos ≤ course.executor.lastMoment.nanos

/-- The events of requests, given what their peers do with them. -/
def events (course : Course) (deadline : Time.Span) (conducts : List Conduct) : List Event :=
  course.executor.events deadline (conducts.map Conduct.endsAfter?)

end Course

/-- What a fan-out came to, and the requests that were sent for it. -/
structure Run where
  requests : List (Endpoint × FetchRequest)
  /-- None where the fan-out died. -/
  report? : Option Report

/-- A fan-out to nobody. -/
def Run.idle : Run := ⟨[], some ⟨[], [], .zero⟩⟩

/-- Sends a request to listeners and waits for them. The end of the wait is set once all requests
are handed over; if the clock cannot name it, the fan-out dies, and only those requests were sent
that were on their way by then. -/
def run (course : Course) (deadline : Time.Span) (request : FetchRequest)
    (listeners : List Listener) : Run :=
  let dispatch := Dispatch.toAll request listeners
  if course.reaches deadline then
    { requests := dispatch.requests
      report? :=
        some (report deadline dispatch.conducts (course.events deadline dispatch.conducts)) }
  else
    { requests := dispatch.requestsAt course.executor.isPrompt
      report? := none }

end FanOut

/-- What every endpoint does with a request. -/
abbrev Peers := Endpoint → FetchRequest → Conduct

/-- The peers at endpoints. -/
def Peers.listeners (peers : Peers) (endpoints : List Endpoint) : List Listener :=
  endpoints.map fun endpoint => ⟨endpoint, peers endpoint⟩

end ClusterQuery
