import ClusterQuery.Proofs.FanOut.Parallel

/-!
# The course of a fan-out

A fan-out sends its requests one by one, and only then sets the end of its wait. If the clock can
name that moment, every request is sent and every endpoint has an outcome, whatever carries out the
requests; if not, the fan-out is over before it has heard of anyone.
-/

namespace ClusterQuery.FanOut

variable {deadline : Time.Span}

/-- Every schedule of given requests is that of some executor. -/
theorem exists_executor (executor : Executor) {ends : List (Option Time.Span)}
    {events : List Event} (schedule : Schedule deadline ends.zipIdx events) :
    ∃ other : Executor, other.lastMoment = executor.lastMoment ∧
      other.events deadline ends = events := by
  let other : Executor :=
    { executor with
      events := fun span others =>
        if span = deadline ∧ others = ends then events else executor.events span others
      schedule_events := by
        intro span others
        split
        next same =>
          obtain ⟨rfl, rfl⟩ := same
          exact schedule
        next => exact executor.schedule_events span others }
  exact ⟨other, rfl, if_pos ⟨rfl, rfl⟩⟩

/-! ## Whole fan-outs -/

namespace Dispatch

theorem foldl_send (request : FetchRequest) (listeners : List Listener) (dispatch : Dispatch) :
    listeners.foldl (send request) dispatch =
      { requests := dispatch.requests ++ listeners.map fun listener => (listener.endpoint, request)
        conducts :=
          dispatch.conducts ++ listeners.map fun listener => listener.conduct request } := by
  induction listeners generalizing dispatch with
  | nil => rw [List.map_nil, List.map_nil, List.append_nil, List.append_nil, List.foldl_nil]
  | cons listener listeners ih =>
      rw [List.foldl_cons, ih, send, List.append_assoc, List.append_assoc]
      rfl

/-- Each listener gets the request, in their order. -/
theorem toAll_eq (request : FetchRequest) (listeners : List Listener) :
    toAll request listeners =
      { requests := listeners.map fun listener => (listener.endpoint, request)
        conducts := listeners.map fun listener => listener.conduct request } :=
  foldl_send request listeners ⟨[], []⟩

theorem sublist_requestsAt (dispatch : Dispatch) (chosen : Nat → Bool) :
    (dispatch.requestsAt chosen).Sublist dispatch.requests := by
  have positions : dispatch.requests.zipIdx.map Prod.fst = dispatch.requests :=
    List.zipIdx_map_fst 0 _
  conv_rhs => rw [← positions]
  exact List.filter_sublist.map Prod.fst

end Dispatch

variable {course : Course} {request : FetchRequest} {listeners : List Listener}

/-- What listeners do with a request. -/
def conductsOf (request : FetchRequest) (listeners : List Listener) : List Conduct :=
  listeners.map fun listener => listener.conduct request

/-- The requests that a fan-out is for. -/
def requestsTo (request : FetchRequest) (listeners : List Listener) :
    List (Endpoint × FetchRequest) :=
  listeners.map fun listener => (listener.endpoint, request)

/-- What the requests to listeners come to, in their order; nothing where the fan-out dies. -/
def outcomesOf (course : Course) (deadline : Time.Span) (request : FetchRequest)
    (listeners : List Listener) : List FetchOutcome :=
  ((run course deadline request listeners).report?.map Report.outcomes).getD []

/-- A fan-out whose deadline the clock can name sends every request and reports on all. -/
theorem run_of_reaches (reaches : course.reaches deadline = true) (request : FetchRequest)
    (listeners : List Listener) :
    run course deadline request listeners =
      { requests := requestsTo request listeners
        report? := some (report deadline (conductsOf request listeners)
          (course.events deadline (conductsOf request listeners))) } := by
  rw [run, if_pos reaches, Dispatch.toAll_eq]
  rfl

/-- A fan-out whose deadline the clock cannot name reports nothing. -/
theorem report?_run_of_not_reaches (beyond : course.reaches deadline = false)
    (request : FetchRequest) (listeners : List Listener) :
    (run course deadline request listeners).report? = none := by
  rw [run, if_neg (Bool.not_eq_true _ ▸ beyond)]

/-- Each listener gets the request at most once. -/
theorem sublist_requests_run (course : Course) (deadline : Time.Span) (request : FetchRequest)
    (listeners : List Listener) :
    (run course deadline request listeners).requests.Sublist (requestsTo request listeners) := by
  have all : (Dispatch.toAll request listeners).requests = requestsTo request listeners :=
    congrArg Dispatch.requests (Dispatch.toAll_eq request listeners)
  rw [run]
  split
  · rw [all]
  · exact all ▸ Dispatch.sublist_requestsAt _ _

theorem schedule_events (course : Course) (deadline : Time.Span) (conducts : List Conduct) :
    Schedule deadline (runningAtFirst conducts) (course.events deadline conducts) :=
  course.executor.schedule_events deadline _

theorem outcomesOf_of_reaches (reaches : course.reaches deadline = true) (request : FetchRequest)
    (listeners : List Listener) :
    outcomesOf course deadline request listeners =
      (report deadline (conductsOf request listeners)
        (course.events deadline (conductsOf request listeners))).outcomes := by
  rw [outcomesOf, run_of_reaches reaches]
  rfl

theorem outcomesOf_of_not_reaches (beyond : course.reaches deadline = false)
    (request : FetchRequest) (listeners : List Listener) :
    outcomesOf course deadline request listeners = [] := by
  rw [outcomesOf, report?_run_of_not_reaches beyond]
  rfl

theorem length_outcomesOf (reaches : course.reaches deadline = true) (request : FetchRequest)
    (listeners : List Listener) :
    (outcomesOf course deadline request listeners).length = listeners.length := by
  rw [outcomesOf_of_reaches reaches, outcomes_report_eq (schedule_events course deadline _),
    List.length_mapIdx, conductsOf, List.length_map]

/-- Every listener has an outcome that its conduct comes to. -/
theorem exists_comesTo_of_mem_zip (reaches : course.reaches deadline = true) {listener : Listener}
    {outcome : FetchOutcome}
    (member : (listener, outcome) ∈ listeners.zip (outcomesOf course deadline request listeners)) :
    ∃ heard expired, (listener.conduct request).comesTo deadline heard expired = outcome := by
  obtain ⟨position, here⟩ := List.mem_iff_getElem?.mp member
  obtain ⟨isListener, isOutcome⟩ := List.getElem?_zip_eq_some.mp here
  rw [outcomesOf_of_reaches reaches, outcomes_report_eq (schedule_events course deadline _),
    List.getElem?_mapIdx, conductsOf, List.getElem?_map, isListener] at isOutcome
  exact ⟨_, _, Option.some.inj isOutcome⟩

/-- A listener whose outcome is records answered with them by the deadline. -/
theorem answers_of_mem_zip (reaches : course.reaches deadline = true) {listener : Listener}
    {records : List Record}
    (member : (listener, .ok records) ∈
      listeners.zip (outcomesOf course deadline request listeners)) :
    ∃ after, after.nanos ≤ deadline.nanos ∧
      listener.conduct request = .answers after (.ok records) := by
  obtain ⟨heard, expired, comesTo⟩ := exists_comesTo_of_mem_zip reaches member
  exact Conduct.answers_of_comesTo_eq_ok comesTo

/-- Where no request ends at the very deadline, outcomes are fates. -/
theorem outcomesOf_eq (reaches : course.reaches deadline = true)
    (notThen : ∀ conduct ∈ conductsOf request listeners, conduct.endsAfter? ≠ some deadline) :
    outcomesOf course deadline request listeners = (conductsOf request listeners).map
      (Conduct.fate deadline (anyLate deadline (conductsOf request listeners))) := by
  rw [outcomesOf_of_reaches reaches]
  exact outcomes_report (schedule_events course deadline _) notThen

/-- What listeners come to under one executor is related if they end together. -/
theorem forall₂_outcomesOf_of_parallel {related : FetchOutcome → FetchOutcome → Prop}
    (failed : ∀ failure, related (.error failure) (.error failure))
    (course : Course) (deadline : Time.Span) {other : FetchRequest} {others : List Listener}
    (parallel : List.Forall₂ (Conduct.Parallel related) (conductsOf request listeners)
      (conductsOf other others)) :
    List.Forall₂ related (outcomesOf course deadline request listeners)
      (outcomesOf course deadline other others) := by
  cases reaches : course.reaches deadline with
  | false =>
      rw [outcomesOf_of_not_reaches reaches, outcomesOf_of_not_reaches reaches]
      exact .nil
  | true =>
      have events : course.events deadline (conductsOf other others) =
          course.events deadline (conductsOf request listeners) :=
        congrArg (course.executor.events deadline) (map_endsAfter?_of_parallel parallel)
      rw [outcomesOf_of_reaches reaches, outcomesOf_of_reaches reaches, events]
      exact forall₂_outcomes_of_parallel failed parallel _

/-! ## Without those that fail -/

/-- The listeners whose outcomes are of some sort. -/
def listenersWith (chosen : FetchOutcome → Bool) (course : Course) (deadline : Time.Span)
    (request : FetchRequest) (listeners : List Listener) : List Listener :=
  ((listeners.zip (outcomesOf course deadline request listeners)).filter
    fun party => chosen party.2).map Prod.fst

section Chosen

variable {chosen : FetchOutcome → Bool} (notFailed : ∀ failure, chosen (.error failure) = false)
variable {elsewhere : Course}

include notFailed

/-- Whose outcome is of a sort that no failure is of answered with records by the deadline. -/
theorem exists_answer_of_mem (reaches : course.reaches deadline = true)
    {party : Listener × FetchOutcome}
    (member : party ∈ (listeners.zip (outcomesOf course deadline request listeners)).filter
      fun party => chosen party.2) :
    ∃ after, after.nanos ≤ deadline.nanos ∧ party.1.conduct request = .answers after party.2 := by
  obtain ⟨isParty, isChosen⟩ := List.mem_filter.mp member
  obtain ⟨listener, outcome⟩ := party
  cases outcome with
  | error failure =>
      rw [notFailed] at isChosen
      cases isChosen
  | ok records => exact answers_of_mem_zip reaches isParty

/-- Requests that come to an outcome of such a sort in two fan-outs come to the same one. -/
theorem outcomesOf_listenersWith (reaches : course.reaches deadline = true)
    (reachesThere : elsewhere.reaches deadline = true)
    (again : ∀ outcome ∈ outcomesOf elsewhere deadline request
      (listenersWith chosen course deadline request listeners), chosen outcome = true) :
    outcomesOf elsewhere deadline request
        (listenersWith chosen course deadline request listeners) =
      (outcomesOf course deadline request listeners).filter chosen := by
  let parties := (listeners.zip (outcomesOf course deadline request listeners)).filter
    fun party => chosen party.2
  have chosenOutcomes : (outcomesOf course deadline request listeners).filter chosen =
      parties.map Prod.snd := by
    conv_lhs => rw [← List.map_snd_zip (Nat.le_of_eq (length_outcomesOf reaches request listeners)),
      List.filter_map]
    rfl
  have length := length_outcomesOf reachesThere request (parties.map Prod.fst)
  symm
  rw [chosenOutcomes, ← List.forall₂_eq_eq_eq, List.forall₂_map_left_iff, List.forall₂_iff_zip]
  refine ⟨(length.trans (List.length_map Prod.fst)).symm, fun {party outcome} member => ?_⟩
  obtain ⟨inParties, inOutcomes⟩ := List.of_mem_zip member
  obtain ⟨after, byThen, answers⟩ := exists_answer_of_mem notFailed reaches inParties
  have there : (party.1, outcome) ∈ (parties.map Prod.fst).zip
      (outcomesOf elsewhere deadline request (parties.map Prod.fst)) := by
    rw [List.zip_map_left]
    exact List.mem_map_of_mem (f := Prod.map Prod.fst id) member
  obtain ⟨heard, expired, comesTo⟩ := exists_comesTo_of_mem_zip reachesThere there
  rw [answers, Conduct.comesTo] at comesTo
  split at comesTo
  next => exact comesTo
  next =>
    have isChosen := again outcome inOutcomes
    rw [← comesTo, notFailed] at isChosen
    cases isChosen

/-- Requests that came to an outcome of such a sort do so again without the others, unless one ends
at the very deadline. -/
theorem chosen_of_notThen (reaches : course.reaches deadline = true)
    (reachesThere : elsewhere.reaches deadline = true)
    (notThen : ∀ conduct ∈ conductsOf request
      (listenersWith chosen course deadline request listeners),
        conduct.endsAfter? ≠ some deadline) :
    ∀ outcome ∈ outcomesOf elsewhere deadline request
      (listenersWith chosen course deadline request listeners), chosen outcome = true := by
  rw [outcomesOf_eq reachesThere notThen, conductsOf, List.forall_mem_map, listenersWith,
    List.forall_mem_map, List.forall_mem_map]
  rw [conductsOf, List.forall_mem_map, listenersWith, List.forall_mem_map] at notThen
  intro party member
  obtain ⟨after, byThen, answers⟩ := exists_answer_of_mem notFailed reaches member
  have apart : after.nanos ≠ deadline.nanos := by
    intro equal
    refine notThen party member ?_
    rw [answers, Conduct.endsAfter?, Time.Span.ext equal]
  rw [answers, Conduct.fate, if_pos (Nat.lt_of_le_of_ne byThen apart)]
  exact (List.mem_filter.mp member).2

/-- There is an executor under which they all do, even those that end at the very deadline. -/
theorem exists_executor_chosen (reaches : course.reaches deadline = true) :
    ∃ executor : Executor, executor.lastMoment = course.executor.lastMoment ∧
      ∀ outcome ∈ outcomesOf { course with executor } deadline request
        (listenersWith chosen course deadline request listeners), chosen outcome = true := by
  let conducts := conductsOf request (listenersWith chosen course deadline request listeners)
  have answered : ∀ conduct ∈ conducts, ∃ after outcome, after.nanos ≤ deadline.nanos ∧
      chosen outcome = true ∧ conduct = .answers after outcome := by
    intro conduct member
    obtain ⟨listener, isListener, rfl⟩ := List.mem_map.mp member
    obtain ⟨party, isParty, rfl⟩ := List.mem_map.mp isListener
    obtain ⟨after, byThen, answers⟩ := exists_answer_of_mem notFailed reaches isParty
    exact ⟨after, party.2, byThen, (List.mem_filter.mp isParty).2, answers⟩
  obtain ⟨events, schedule, heard⟩ := exists_schedule_heard fun conduct member => by
    obtain ⟨after, outcome, byThen, -, rfl⟩ := answered conduct member
    exact ⟨after, rfl, byThen⟩
  obtain ⟨executor, sameClock, sameEvents⟩ := exists_executor course.executor schedule
  have reachesThere : ({ course with executor } : Course).reaches deadline = true := by
    rw [Course.reaches, sameClock]
    exact reaches
  refine ⟨executor, sameClock, fun outcome member => ?_⟩
  rw [outcomesOf_of_reaches reachesThere,
    outcomes_report_eq (schedule_events { course with executor } deadline _),
    Course.events, sameEvents, List.mem_mapIdx] at member
  obtain ⟨position, inside, rfl⟩ := member
  obtain ⟨after, outcome, byThen, isChosen, answers⟩ := answered _ (List.getElem_mem inside)
  change chosen (conducts[position].comesTo deadline _ _) = true
  rw [decide_eq_true (heard position inside), answers, Conduct.comesTo, if_pos ⟨rfl, byThen⟩]
  exact isChosen

end Chosen

/-! ## The law of fan-outs -/

/-- The law of a fan-out. Every schedule of its requests is that of some executor. If the clock
cannot name the end of the wait, the fan-out dies without a report, and each endpoint got the
request at most once. Otherwise each endpoint gets it, and there is one outcome for each, in their
order: its own if it ends before the deadline, a timeout if it does not, and for one that died an
abortion, unless the wait ran into the deadline. The wait takes as long as its longest request, or
until the deadline. Other delays before the deadline, another order and another beginning change no
outcome. -/
theorem law_of_run (course : Course) (deadline : Time.Span) (request : FetchRequest)
    (listeners : List Listener)
    (notThen : ∀ conduct ∈ conductsOf request listeners, conduct.endsAfter? ≠ some deadline) :
    let conducts := conductsOf request listeners
    let run := run course deadline request listeners
    (∀ events, Schedule deadline (runningAtFirst conducts) events →
      ∃ other : Course, other.now = course.now ∧
        other.executor.lastMoment = course.executor.lastMoment ∧
        other.events deadline conducts = events) ∧
    (course.reaches deadline = false →
      run.report? = none ∧ run.requests.Sublist (requestsTo request listeners)) ∧
    (course.reaches deadline = true →
      ∃ report, run.report? = some report ∧ run.requests = requestsTo request listeners ∧
        report.outcomes = conducts.map (Conduct.fate deadline (anyLate deadline conducts)) ∧
        report.elapsed = (if anyLate deadline conducts then deadline
          else lastEnd (conducts.map Conduct.endsAfter?)) ∧
        ∀ (other : Course) (others : List Listener), other.reaches deadline = true →
          List.Forall₂ (Conduct.Alike deadline) conducts (conductsOf request others) →
            ∃ again, (FanOut.run other deadline request others).report? = some again ∧
              again.outcomes = report.outcomes) := by
  intro conducts run
  refine ⟨fun events schedule => ?_, fun beyond => ?_, fun reaches => ?_⟩
  · obtain ⟨executor, sameClock, sameEvents⟩ := exists_executor course.executor schedule
    exact ⟨{ course with executor }, rfl, sameClock, sameEvents⟩
  · exact ⟨report?_run_of_not_reaches beyond request listeners,
      sublist_requests_run course deadline request listeners⟩
  · have schedule := schedule_events course deadline conducts
    rw [show run = _ from run_of_reaches reaches request listeners]
    refine ⟨_, rfl, rfl, outcomes_report schedule notThen, elapsed_report schedule notThen, ?_⟩
    intro other others reachesThere alike
    rw [run_of_reaches reachesThere]
    exact ⟨_, rfl,
      outcomes_report_of_alike alike notThen schedule (schedule_events other deadline _)⟩

/-- Two quick answers, a death, a silent peer and a slow answer: the death counts as a timeout,
in whatever order the requests end. -/
theorem law_of_mixed_conducts :
    let deadline := Time.Span.ofSeconds 10
    let request : FetchRequest := ⟨.log, none, 5⟩
    let listeners : List Listener :=
      [⟨⟨"a", 1⟩, fun _ => .answers (.ofSeconds 2) (.ok [])⟩, ⟨⟨"b", 2⟩, fun _ => .dies⟩,
        ⟨⟨"c", 3⟩, fun _ => .answers (.ofSeconds 1) (.error (.status 503 ""))⟩,
        ⟨⟨"d", 4⟩, fun _ => .hangs⟩,
        ⟨⟨"e", 5⟩, fun _ => .answers (.ofSeconds 20) (.ok [])⟩]
    (∀ conduct ∈ conductsOf request listeners, conduct.endsAfter? ≠ some deadline) ∧
      ({} : Course).reaches deadline = true ∧
      ∀ course : Course, course.reaches deadline = true →
        ∃ report, (run course deadline request listeners).report? = some report ∧
          report.outcomes =
            [.ok [], .error (.timedOut deadline), .error (.status 503 ""),
              .error (.timedOut deadline), .error (.timedOut deadline)] ∧
          report.elapsed = deadline := by
  intro deadline request listeners
  have notThen : ∀ conduct ∈ conductsOf request listeners, conduct.endsAfter? ≠ some deadline := by
    decide
  refine ⟨notThen, by decide, fun course reaches => ?_⟩
  obtain ⟨report, reported, -, outcomes, elapsed, -⟩ :=
    (law_of_run course deadline request listeners notThen).2.2 reaches
  exact ⟨report, reported, outcomes, elapsed⟩

/-- Of a fan-out with the longest deadline that can be given, nothing is reported, though its only
peer answers at once. -/
theorem no_report_beyond_clock :
    let deadline : Time.Span := ⟨Time.Span.maxNanos⟩
    let request : FetchRequest := ⟨.log, none, 5⟩
    let listeners : List Listener := [⟨⟨"a", 1⟩, fun _ => .answers .zero (.ok [])⟩]
    (∀ conduct ∈ conductsOf request listeners, conduct.endsAfter? ≠ some deadline) ∧
      ¬∃ report, (run {} deadline request listeners).report? = some report ∧
        report.outcomes.length = listeners.length := by
  intro deadline request listeners
  refine ⟨by decide, ?_⟩
  rintro ⟨report, reported, -⟩
  rw [report?_run_of_not_reaches (by decide)] at reported
  cases reported

end ClusterQuery.FanOut
