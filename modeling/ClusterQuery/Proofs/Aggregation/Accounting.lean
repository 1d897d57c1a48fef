import ClusterQuery.Proofs.Aggregation

/-!
# Who answered and who did not

Every position of a list of endpoints either answers a plan's request or is listed with what went
wrong there, even where an endpoint is listed twice and does not behave the same both times. A
position that does not answer leaves no trace in the records: they are those of the same plan run
against the positions that answer and no others.
-/

namespace ClusterQuery

namespace QueryPlan

variable (plan : QueryPlan)

/-- Whether an endpoint with a given outcome answers: it brings records, and all of them are of the
kind that was asked for. -/
def answers (outcome : FetchOutcome) : Bool :=
  match outcome with
  | .ok records => records.all fun record => record.kind = plan.request.kind
  | .error _ => false

theorem not_answers_of_error (failure : FetchFailure) : plan.answers (.error failure) = false :=
  rfl

/-- What is wrong with the outcome of an endpoint that does not answer. -/
inductive Blames : FetchOutcome → FetchFailure → Prop where
  /-- The request failed. -/
  | failed (failure : FetchFailure) : Blames (.error failure) failure
  /-- A record is of another kind, and none before it is. -/
  | stray {before after : List Record} {record : Record}
      (allRight : ∀ earlier ∈ before, earlier.kind = plan.request.kind)
      (wrong : record.kind ≠ plan.request.kind) :
      Blames (.ok (before ++ record :: after))
        (.decoding ("peer returned a " ++ record.kind.tag ++ " record for a " ++
          plan.request.kind.tag ++ " query"))

/-- An entry for a position that does not answer: its endpoint, and what is wrong there. -/
def LeftOut (position : Endpoint × FetchOutcome) (entry : PartialFailure) : Prop :=
  entry.endpoint = position.1 ∧ plan.Blames position.2 entry.failure

theorem usable_of_answers {outcome : FetchOutcome} (answers : plan.answers outcome = true) :
    ∃ kept, plan.usable outcome = .ok kept := by
  cases outcome with
  | error failure => cases answers
  | ok records =>
      refine ⟨_, plan.usable_eq_ok_iff.mpr ⟨records, rfl, ?_, rfl⟩⟩
      simpa [QueryPlan.answers] using answers

/-- The outcome of an endpoint that does not answer is an error, whose cause is in the outcome. -/
theorem usable_of_not_answers {outcome : FetchOutcome} (silent : plan.answers outcome = false) :
    ∃ failure, plan.usable outcome = .error failure ∧ plan.Blames outcome failure := by
  cases outcome with
  | error failure => exact ⟨failure, rfl, .failed failure⟩
  | ok records =>
      cases found : records.find? fun record => record.kind ≠ plan.request.kind with
      | none =>
          have all : plan.answers (.ok records) = true := by
            simpa [answers] using found
          rw [all] at silent
          cases silent
      | some record =>
          obtain ⟨wrong, before, after, rfl, allRight⟩ := List.find?_eq_some_iff_append.mp found
          refine ⟨_, ?_, .stray (by simpa using allRight) (of_decide_eq_true wrong)⟩
          change plan.conforming _ = _
          rw [conforming, found]

end QueryPlan

namespace Aggregation

/-- Whatever makes an outcome usable, there is one entry for each position where it does not, in the
order of the positions, with what is wrong there. -/
theorem forall₂_failuresOf_of_usable {usable : FetchOutcome → FetchOutcome}
    {answers : FetchOutcome → Bool} {Blames : FetchOutcome → FetchFailure → Prop}
    (succeeds : ∀ outcome, answers outcome = true → ∃ kept, usable outcome = .ok kept)
    (fails : ∀ outcome, answers outcome = false →
      ∃ failure, usable outcome = .error failure ∧ Blames outcome failure)
    (endpoints : List Endpoint) (outcomes : List FetchOutcome) :
    List.Forall₂
      (fun (position : Endpoint × FetchOutcome) (entry : PartialFailure) =>
        entry.endpoint = position.1 ∧ Blames position.2 entry.failure)
      ((endpoints.zip outcomes).filter fun position => !answers position.2)
      (failuresOf endpoints (outcomes.map usable)) := by
  induction endpoints generalizing outcomes with
  | nil => exact .nil
  | cons endpoint endpoints ih =>
      cases outcomes with
      | nil => exact .nil
      | cons outcome outcomes =>
          rw [List.zip_cons_cons, List.filter_cons, List.map_cons]
          cases answered : answers outcome with
          | true =>
              obtain ⟨kept, used⟩ := succeeds outcome answered
              rw [used]
              exact ih outcomes
          | false =>
              obtain ⟨failure, refused, blames⟩ := fails outcome answered
              rw [refused]
              exact .cons ⟨rfl, blames⟩ (ih outcomes)

variable {plan : QueryPlan} {endpoints : List Endpoint} {outcomes : List FetchOutcome}

/-- There is one entry for each position that does not answer, in the order of the positions. -/
theorem forall₂_failuresOf (plan : QueryPlan) (endpoints : List Endpoint)
    (outcomes : List FetchOutcome) :
    List.Forall₂ plan.LeftOut
      ((endpoints.zip outcomes).filter fun position => !plan.answers position.2)
      (failuresOf endpoints (outcomes.map plan.usable)) :=
  forall₂_failuresOf_of_usable (fun outcome => @QueryPlan.usable_of_answers plan outcome)
    (fun outcome => @QueryPlan.usable_of_not_answers plan outcome) endpoints outcomes

/-- All positions are left out if and only if none answers. -/
theorem length_failuresOf_eq_iff (length : outcomes.length = endpoints.length) :
    (failuresOf endpoints (outcomes.map plan.usable)).length = endpoints.length ↔
      ¬outcomes.any plan.answers = true := by
  have zipped : (endpoints.zip outcomes).length = endpoints.length := by
    rw [List.length_zip, length, Nat.min_self]
  rw [← (forall₂_failuresOf plan endpoints outcomes).length_eq, ← zipped,
    List.length_filter_eq_length_iff]
  conv_rhs => rw [← List.map_snd_zip (Nat.le_of_eq length)]
  simp

/-- Outcomes come to a result if and only if some position answers. -/
theorem assemble_eq (length : outcomes.length = endpoints.length) (limit : Nat) :
    assemble endpoints plan limit outcomes =
      if outcomes.any plan.answers then
        .ok ⟨Merge.merge ((outcomes.map plan.usable).map batchOf) plan.order limit,
          failuresOf endpoints (outcomes.map plan.usable)⟩
      else .error (.allFailed (failuresOf endpoints (outcomes.map plan.usable))) := by
  rw [assemble_def]
  simp only [length_failuresOf_eq_iff length]
  exact ite_not ..

/-- A position that does not answer brings no records. -/
theorem flatten_batches_filter_answers (plan : QueryPlan) (outcomes : List FetchOutcome) :
    (((outcomes.filter plan.answers).map plan.usable).map batchOf).flatten =
      ((outcomes.map plan.usable).map batchOf).flatten := by
  induction outcomes with
  | nil => rfl
  | cons outcome outcomes ih =>
      rw [List.filter_cons]
      cases answers : plan.answers outcome with
      | true => exact congrArg (batchOf (plan.usable outcome) ++ ·) ih
      | false =>
          obtain ⟨failure, usable, _⟩ := plan.usable_of_not_answers answers
          rw [List.map_cons, usable]
          exact ih

/-! ## Runs -/

/-- The listeners that answer a plan's request, in their order. -/
def answering (course : FanOut.Course) (plan : QueryPlan) (listeners : List Listener)
    (deadline : Time.Span) : List Listener :=
  FanOut.listenersWith plan.answers course deadline plan.request listeners

variable {course : FanOut.Course} {listeners : List Listener} {window : Window}

theorem answering_eq_nil_iff (reaches : course.reaches window.deadline = true) :
    answering course plan listeners window.deadline = [] ↔
      ¬(FanOut.outcomesOf course window.deadline plan.request listeners).any plan.answers =
        true := by
  conv_rhs => rw [← List.map_snd_zip
    (Nat.le_of_eq (FanOut.length_outcomesOf reaches plan.request listeners))]
  simp [answering, FanOut.listenersWith]

theorem result?_runOn (valid : plan.validate = .ok ()) (some : listeners ≠ [])
    (reaches : course.reaches window.deadline = true) :
    let outcomes := FanOut.outcomesOf course window.deadline plan.request listeners
    (runOn course listeners plan window).result? =
      if outcomes.any plan.answers then
        Option.some (.ok ⟨Merge.merge ((outcomes.map plan.usable).map batchOf) plan.order
            window.limit,
          failuresOf (listeners.map Listener.endpoint) (outcomes.map plan.usable)⟩)
      else Option.some (.error (.allFailed
        (failuresOf (listeners.map Listener.endpoint) (outcomes.map plan.usable)))) := by
  intro outcomes
  have length : outcomes.length = (listeners.map Listener.endpoint).length := by
    rw [FanOut.length_outcomesOf reaches, List.length_map]
  rw [runOn_of_reaches valid some reaches]
  change Option.some (assemble _ plan _ outcomes) = _
  rw [assemble_eq length window.limit]
  split <;> rfl

/-- A run that asks everyone comes to a result or to a failure. -/
theorem isSome_result?_runOn (valid : plan.validate = .ok ()) (listeners : List Listener)
    (reaches : course.reaches window.deadline = true) :
    (runOn course listeners plan window).result?.isSome = true := by
  cases listeners with
  | nil => rw [runOn_nil course window valid]; rfl
  | cons first rest =>
      rw [result?_runOn valid (List.cons_ne_nil first rest) reaches]
      split <;> rfl

/-- Outcomes that all answer leave nobody out. -/
theorem failuresOf_of_all_answer (endpoints : List Endpoint)
    (answer : ∀ outcome ∈ outcomes, plan.answers outcome = true) :
    failuresOf endpoints (outcomes.map plan.usable) = [] := by
  have entries := forall₂_failuresOf plan endpoints outcomes
  have nobody : ((endpoints.zip outcomes).filter fun position => !plan.answers position.2) =
      [] := by
    rw [List.filter_eq_nil_iff]
    intro position member
    simp [answer position.2 (List.of_mem_zip member).2]
  rw [nobody, List.forall₂_nil_left_iff] at entries
  exact entries

/-- The positions that answer give the same records on their own, if they answer there. -/
theorem result?_runOn_answering {elsewhere : FanOut.Course} (valid : plan.validate = .ok ())
    (reaches : course.reaches window.deadline = true)
    (reachesThere : elsewhere.reaches window.deadline = true) :
    let outcomes := FanOut.outcomesOf course window.deadline plan.request listeners
    let answering := answering course plan listeners window.deadline
    answering ≠ [] →
    (∀ outcome ∈ FanOut.outcomesOf elsewhere window.deadline plan.request answering,
      plan.answers outcome = true) →
    ∃ alone, (runOn elsewhere answering plan window).result? = some (.ok alone) ∧
      alone.partialFailures = [] ∧
      alone.results =
        Merge.merge ((outcomes.map plan.usable).map batchOf) plan.order window.limit := by
  intro outcomes answering someAnswers again
  have outcomesThere : FanOut.outcomesOf elsewhere window.deadline plan.request answering =
      outcomes.filter plan.answers :=
    FanOut.outcomesOf_listenersWith plan.not_answers_of_error reaches reachesThere again
  have answers := not_not.mp (mt (answering_eq_nil_iff reaches).mpr someAnswers)
  have answersThere : (outcomes.filter plan.answers).any plan.answers = true := by
    rw [List.any_filter]
    simpa using answers
  have result := result?_runOn valid someAnswers reachesThere
  simp only [outcomesThere, if_pos answersThere] at result
  refine ⟨_, result, ?_, ?_⟩
  · exact failuresOf_of_all_answer _ fun outcome member => (List.mem_filter.mp member).2
  · exact Merge.merge_congr plan.order window.limit (flatten_batches_filter_answers plan outcomes)

/-- Every position answers or is listed. Without endpoints there is an empty result and no request.
With endpoints but a deadline that the clock cannot name, the run dies without a result. Otherwise
every position has an outcome; if none answers, the run fails with one entry for each of them, in
their order; and if some do, there is one entry for each position that does not answer, with what is
wrong there, and the records are those of the same plan run against the positions that answer,
whatever carries that out, if they answer there. They always can, and they must unless one of them
ends at the very deadline. -/
theorem account_of_runOn (course : FanOut.Course) (listeners : List Listener) (plan : QueryPlan)
    (window : Window) (ordersKind : plan.order.path.kind = plan.request.kind)
    (filtersKind : ∀ filter ∈ plan.filter, filter.path.kind = plan.request.kind) :
    let report := runOn course listeners plan window
    let outcomes := FanOut.outcomesOf course window.deadline plan.request listeners
    let positions := (listeners.map Listener.endpoint).zip outcomes
    let answering := answering course plan listeners window.deadline
    let answerAgain (elsewhere : FanOut.Course) : Prop :=
      ∀ outcome ∈ FanOut.outcomesOf elsewhere window.deadline plan.request answering,
        plan.answers outcome = true
    (listeners = [] → report.result? = some (.ok empty) ∧ report.requests = []) ∧
    (listeners ≠ [] → course.reaches window.deadline = false → report.result? = none) ∧
    (course.reaches window.deadline = true →
      positions.length = listeners.length ∧
      (listeners ≠ [] → answering = [] →
        ∃ failures, report.result? = some (.error (.allFailed failures)) ∧
          List.Forall₂ plan.LeftOut positions failures) ∧
      (answering ≠ [] →
        ∃ aggregation, report.result? = some (.ok aggregation) ∧
          List.Forall₂ plan.LeftOut (positions.filter fun position => !plan.answers position.2)
            aggregation.partialFailures ∧
          ∀ elsewhere : FanOut.Course, elsewhere.reaches window.deadline = true →
            answerAgain elsewhere →
            ∃ alone, (runOn elsewhere answering plan window).result? = some (.ok alone) ∧
              alone.partialFailures = [] ∧ aggregation.results = alone.results) ∧
      (∃ executor : FanOut.Executor,
        ({ course with executor } : FanOut.Course).reaches window.deadline = true ∧
          answerAgain { course with executor }) ∧
      ∀ elsewhere : FanOut.Course, elsewhere.reaches window.deadline = true →
        (∀ conduct ∈ FanOut.conductsOf plan.request answering,
          conduct.endsAfter? ≠ some window.deadline) →
        answerAgain elsewhere) := by
  intro report outcomes positions answering answerAgain
  have valid := plan.validate_eq_ok ordersKind filtersKind
  have entries := forall₂_failuresOf plan (listeners.map Listener.endpoint) outcomes
  refine ⟨?_, fun some beyond => ?_, fun reaches => ⟨?_, fun some noneAnswers => ?_,
    fun someAnswers => ?_, ?_, fun elsewhere reachesThere notThen => ?_⟩⟩
  · rintro rfl
    rw [show report = _ from runOn_nil course window valid]
    exact ⟨rfl, rfl⟩
  · rw [show report = _ from runOn_of_not_reaches valid some beyond]
    rfl
  · rw [List.length_zip, List.length_map, FanOut.length_outcomesOf reaches, Nat.min_self]
  · have silent := (answering_eq_nil_iff reaches).mp noneAnswers
    refine ⟨_, (result?_runOn valid some reaches).trans (if_neg silent), ?_⟩
    rwa [List.filter_eq_self.mpr] at entries
    intro position member
    have isOutcome := (List.of_mem_zip member).2
    rw [List.any_eq_true] at silent
    simpa using fun answers => silent ⟨_, isOutcome, answers⟩
  · have some : listeners ≠ [] := by
      rintro rfl
      exact someAnswers rfl
    have answers := not_not.mp (mt (answering_eq_nil_iff reaches).mpr someAnswers)
    refine ⟨_, (result?_runOn valid some reaches).trans (if_pos answers), entries, ?_⟩
    intro elsewhere reachesThere again
    obtain ⟨alone, result, nobody, results⟩ :=
      result?_runOn_answering valid reaches reachesThere someAnswers again
    exact ⟨alone, result, nobody, results.symm⟩
  · obtain ⟨executor, sameClock, again⟩ :=
      FanOut.exists_executor_chosen plan.not_answers_of_error reaches
    refine ⟨executor, ?_, again⟩
    rw [FanOut.Course.reaches, sameClock]
    exact reaches
  · exact FanOut.chosen_of_notThen plan.not_answers_of_error reaches reachesThere notThen

/-- An endpoint that answers once and hangs once, and between the two a peer that sends a record of
another kind: both failures are listed, and the one answer makes up the result. -/
theorem account_of_mixed_listeners :
    let node : Json := .object [("node", .object [("id", .string "x"), ("host", .string "h"),
      ("port", .ofNat 1), ("status", .string "UP")])]
    let log : Json := .object [("log", .object [("ts", .ofNat 0), ("level", .string "INFO"),
      ("logger", .string "l"), ("thread", .string "t"), ("message", .string "m"),
      ("node", .string "x")])]
    let listeners : List Listener :=
      [⟨⟨"a", 1⟩, fun _ => .answers .zero (.ofBody .node (.array [node]))⟩,
        ⟨⟨"b", 2⟩, fun _ => .answers .zero (.ofBody .log (.array [log]))⟩,
        ⟨⟨"a", 1⟩, fun _ => .hangs⟩]
    let plan : QueryPlan :=
      ⟨⟨.node, none, 5⟩, ⟨⟨.node, "node.id", [0], .string⟩, .ascending⟩, none⟩
    let window : Window := ⟨.ofSeconds 1, 5⟩
    plan.order.path.kind = plan.request.kind ∧
      (∀ filter ∈ plan.filter, filter.path.kind = plan.request.kind) ∧
      ∃ aggregation alone, (runOn {} listeners plan window).result? = some (.ok aggregation) ∧
        aggregation.partialFailures =
          [⟨⟨"b", 2⟩, .decoding "peer returned a log record for a nodeinfo query"⟩,
            ⟨⟨"a", 1⟩, .timedOut window.deadline⟩] ∧
        (runOn {} (answering {} plan listeners window.deadline) plan window).result? =
          some (.ok alone) ∧
        aggregation.results = alone.results ∧ alone.results.length = 1 := by
  intro node log listeners plan window
  have filtersKind : ∀ filter ∈ plan.filter, filter.path.kind = plan.request.kind :=
    fun filter chosen => absurd chosen (Option.not_mem_none filter)
  have reaches : ({} : FanOut.Course).reaches window.deadline = true := by decide
  have someAnswers : answering {} plan listeners window.deadline ≠ [] := by
    rw [ne_eq, ← List.isEmpty_iff]
    decide +kernel
  have notThen : ∀ conduct ∈ FanOut.conductsOf plan.request
      (answering {} plan listeners window.deadline), conduct.endsAfter? ≠ some window.deadline := by
    decide +kernel
  obtain ⟨-, -, answered, -, again⟩ :=
    (account_of_runOn {} listeners plan window rfl filtersKind).2.2 reaches
  obtain ⟨aggregation, result, -, onTheirOwn⟩ := answered someAnswers
  obtain ⟨alone, resultAlone, -, same⟩ := onTheirOwn {} reaches (again {} reaches notThen)
  have found : (runOn {} listeners plan window).result?.map (fun result =>
      result.toOption.map fun aggregation =>
        (aggregation.results.length, aggregation.partialFailures)) =
      some (some (1,
        [⟨⟨"b", 2⟩, .decoding "peer returned a log record for a nodeinfo query"⟩,
          ⟨⟨"a", 1⟩, .timedOut window.deadline⟩])) := by
    decide +kernel
  rw [result] at found
  obtain ⟨length, failures⟩ := Prod.mk.inj (Option.some.inj (Option.some.inj found))
  exact ⟨rfl, filtersKind, aggregation, alone, result, failures, resultAlone, same, same ▸ length⟩

/-- The longest deadline that can be given leaves a run without a result, though the only peer
answers at once. -/
theorem no_result_beyond_clock :
    let listeners : List Listener := [⟨⟨"a", 1⟩, fun _ => .answers .zero (.ok [])⟩]
    let plan : QueryPlan :=
      ⟨⟨.node, none, 5⟩, ⟨⟨.node, "node.id", [0], .string⟩, .ascending⟩, none⟩
    let window : Window := ⟨⟨Time.Span.maxNanos⟩, 5⟩
    plan.order.path.kind = plan.request.kind ∧ plan.filter = none ∧
      (∀ aggregation, (runOn {} listeners plan window).result? ≠ some (.ok aggregation)) ∧
      ∀ failures,
        (runOn {} listeners plan window).result? ≠ some (.error (.allFailed failures)) := by
  intro listeners plan window
  have died : (runOn {} listeners plan window).result? = none :=
    congrArg AggregationReport.result?
      (runOn_of_not_reaches rfl (List.cons_ne_nil _ _) (by decide))
  rw [died]
  exact ⟨rfl, rfl, nofun, nofun⟩

end Aggregation

end ClusterQuery
