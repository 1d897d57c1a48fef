import ClusterQuery.Time.Span

/-!
# Schedules

Requests run at once, and whoever waits for them waits until a deadline. In which order they are
noticed to end is not for them to say: one that ends in time may come before or after any other, one
that ends at the very deadline may be noticed or not, and one that goes on may be stopped by its own
timer before the shared one ends the wait. A schedule is an order in which this may happen. It
depends on when the requests end by themselves, but not on what they come to.
-/

namespace ClusterQuery.FanOut

/-- What happens next while requests are waited for. -/
inductive Event where
  /-- The request at a position ends, by itself or by its own timer. -/
  | ends (position : Nat)
  /-- The deadline of the whole wait passes. -/
  | cutoff
deriving DecidableEq, Repr

/-- A request that is running: when it ends by itself, if it does, and its position. -/
abbrev Running := Option Time.Span × Nat

/-- Whether what happens after some time, if ever, happens before a deadline. -/
def inTime (deadline : Time.Span) : Option Time.Span → Bool
  | some after => after.nanos < deadline.nanos
  | none => false

/-- Whether a request is still running at a deadline. -/
def isLate (deadline : Time.Span) (request : Running) : Bool := !inTime deadline request.1

/-- Whether a request goes on beyond a deadline. -/
def outlasts (deadline : Time.Span) (request : Running) : Bool :=
  match request.1 with
  | some after => deadline.nanos < after.nanos
  | none => true

/-- The events that may come, in their order, while some requests are running. -/
inductive Schedule (deadline : Time.Span) : List Running → List Event → Prop where
  /-- Nothing is running, and the wait is over. -/
  | drained : Schedule deadline [] []
  /-- Any request that ends by the deadline may be the next to end. -/
  | ends {before after : List Running} {request : Running} {events : List Event}
      (byThen : outlasts deadline request = false)
      (rest : Schedule deadline (before ++ after) events) :
      Schedule deadline (before ++ request :: after) (.ends request.2 :: events)
  /-- One that goes on may be stopped by its own timer as long as another such one is left. -/
  | lapses {before after : List Running} {request : Running} {events : List Event}
      (beyond : outlasts deadline request = true)
      (other : (before ++ after).any (outlasts deadline) = true)
      (rest : Schedule deadline (before ++ after) events) :
      Schedule deadline (before ++ request :: after) (.ends request.2 :: events)
  /-- The shared timer ends the wait once only late requests are left. -/
  | cutoff {running : List Running} (some : running ≠ [])
      (late : ∀ request ∈ running, isLate deadline request = true) :
      Schedule deadline running [.cutoff]

/-! ## The order of time -/

/-- Puts a request before the first one that ends no sooner. -/
def insertInTime (deadline : Time.Span) (request : Running) : List Running → List Running
  | [] => [request]
  | other :: running =>
      if (request.1.getD deadline).nanos ≤ (other.1.getD deadline).nanos then
        request :: other :: running
      else other :: insertInTime deadline request running

/-- The requests that end before the deadline in the order of time, those of one moment in the
order of their positions. -/
def chronological (deadline : Time.Span) (running : List Running) : List Running :=
  (running.filter fun request => inTime deadline request.1).foldr (insertInTime deadline) []

/-- The events of requests in the order of time. The deadline passes as soon as it has come, if some
request is still running then. -/
def orderOfTime (deadline : Time.Span) (running : List Running) : List Event :=
  (chronological deadline running).map (fun request => .ends request.2) ++
    if (running.filter (isLate deadline)).isEmpty then [] else [.cutoff]

theorem perm_insertInTime (deadline : Time.Span) (request : Running) (running : List Running) :
    (insertInTime deadline request running).Perm (request :: running) := by
  induction running with
  | nil => exact .refl _
  | cons other running ih =>
      rw [insertInTime]
      split
      · exact .refl _
      · exact (ih.cons other).trans (.swap request other running)

theorem perm_chronological (deadline : Time.Span) (running : List Running) :
    (chronological deadline running).Perm
      (running.filter fun request => inTime deadline request.1) := by
  rw [chronological]
  induction running.filter fun request => inTime deadline request.1 with
  | nil => exact .refl _
  | cons request early ih => exact (perm_insertInTime deadline request _).trans (ih.cons request)

/-- A request that ends in time does not go on beyond the deadline. -/
theorem outlasts_of_inTime {deadline : Time.Span} {request : Running}
    (early : inTime deadline request.1 = true) : outlasts deadline request = false := by
  rw [outlasts]
  split
  next after ends =>
    rw [ends] at early
    exact decide_eq_false (Nat.lt_asymm (of_decide_eq_true early))
  next never =>
    rw [never] at early
    cases early

/-- Requests may end in the order of any list of them, before the late ones are cut off. -/
theorem Schedule.of_perm {deadline : Time.Span} {early late running : List Running}
    (perm : running.Perm (early ++ late))
    (areByThen : ∀ request ∈ early, outlasts deadline request = false)
    (areLate : ∀ request ∈ late, isLate deadline request = true) :
    Schedule deadline running
      (early.map (fun request => .ends request.2) ++ if late.isEmpty then [] else [.cutoff]) := by
  induction early generalizing running with
  | nil =>
      cases late with
      | nil =>
          rw [List.perm_nil.mp perm]
          exact .drained
      | cons request late =>
          refine .cutoff (fun none => ?_) (fun other member => areLate other (perm.subset member))
          exact List.not_perm_nil_cons _ _ (none ▸ perm)
  | cons request early ih =>
      obtain ⟨before, after, rfl⟩ := List.append_of_mem (perm.symm.subset List.mem_cons_self)
      refine .ends (areByThen request List.mem_cons_self) (ih ?_ fun other member =>
        areByThen other (List.mem_cons_of_mem request member))
      exact (List.perm_middle.symm.trans perm).cons_inv

/-- The order of time is one in which requests may end. -/
theorem schedule_orderOfTime (deadline : Time.Span) (running : List Running) :
    Schedule deadline running (orderOfTime deadline running) := by
  have early := perm_chronological deadline running
  have perm : running.Perm
      (chronological deadline running ++ running.filter (isLate deadline)) :=
    (List.filter_append_perm _ running).symm.trans (early.symm.append_right _)
  exact .of_perm perm
    (fun request member => outlasts_of_inTime (List.mem_filter.mp (early.subset member)).2)
    (fun request member => (List.mem_filter.mp member).2)

/-! ## Executors -/

/-- What carries out the requests of a fan-out. -/
class Executor where
  /-- The events, given a deadline and when each request ends by itself. -/
  events : Time.Span → List (Option Time.Span) → List Event
  schedule_events : ∀ deadline ends, Schedule deadline ends.zipIdx (events deadline ends)
  /-- Whether the request at a position is on its way before the end of the wait is set. -/
  isPrompt : Nat → Bool
  /-- The last moment that the clock can name. -/
  lastMoment : Time.Span

/-- Where nothing else is said, requests end in the order of time, none of them is on its way before
the end of the wait is set, and the clock counts seconds with 63 bits. -/
instance Executor.chronological : Executor where
  events deadline ends := orderOfTime deadline ends.zipIdx
  schedule_events deadline ends := schedule_orderOfTime deadline ends.zipIdx
  isPrompt _ := false
  lastMoment := ⟨(Text.maxInt64 + 1) * 1000000000 - 1⟩

end ClusterQuery.FanOut
