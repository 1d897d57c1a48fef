import ClusterQuery.Proofs.FanOut.Course

/-!
# What peers can do to each other

The slots of a fan-out share one thing, which is whether the wait ran into the deadline. A request
that answers or is still running then is reported by what it does itself. Only for a request that
died is the shared fact consulted: an empty slot counts as a timeout as soon as some other request
is late, so a slow peer decides what is reported about a dead one.
-/

namespace ClusterQuery

namespace Conduct

variable {deadline : Time.Span} {conduct : Conduct}

/-- What a request comes to depends on the other requests if and only if it dies. -/
theorem fate_eq_fate_iff {one other : Bool} :
    conduct.fate deadline one = conduct.fate deadline other ↔ (conduct = .dies → one = other) := by
  cases conduct with
  | answers after outcome => simp [fate]
  | hangs => simp [fate]
  | dies => cases one <;> cases other <;> simp [fate]

/-- A request counts as timed out if its peer said so in time, if it is late, or if it died while
some other request is late. -/
theorem of_fate_eq_timedOut {expired : Bool} {after : Time.Span}
    (timedOut : conduct.fate deadline expired = .error (.timedOut after)) :
    (∃ own, own.nanos < deadline.nanos ∧ conduct = .answers own (.error (.timedOut after))) ∨
      after = deadline ∧
        (conduct.endsBefore deadline = false ∨ conduct = .dies ∧ expired = true) := by
  cases conduct with
  | answers own outcome =>
      rw [fate] at timedOut
      split at timedOut
      next inTime =>
        left
        exact ⟨own, inTime, by rw [timedOut]⟩
      next late =>
        right
        cases timedOut
        exact ⟨rfl, .inl (decide_eq_false late)⟩
  | hangs =>
      right
      cases timedOut
      exact ⟨rfl, .inl rfl⟩
  | dies =>
      right
      cases expired with
      | true =>
          cases timedOut
          exact ⟨rfl, .inr ⟨rfl, rfl⟩⟩
      | false => cases timedOut

end Conduct

namespace FanOut

variable {deadline : Time.Span} {conducts others : List Conduct}
variable {events otherEvents : List Event} {position : Nat} {conduct : Conduct}

theorem getElem?_outcomes_report (schedule : Schedule deadline (runningAtFirst conducts) events)
    (notThen : ∀ conduct ∈ conducts, conduct.endsAfter? ≠ some deadline)
    (here : conducts[position]? = some conduct) :
    (report deadline conducts events).outcomes[position]? =
      some (conduct.fate deadline (anyLate deadline conducts)) := by
  rw [outcomes_report schedule notThen, List.getElem?_map, here]
  rfl

/-- How far the outcome at a position depends on the other positions. Let a request behave the same
in two fan-outs, whatever the other requests do and in whatever order all of them end. What is
reported about it is the same, unless it died, and then it is the same if and only if both waits ran
into the deadline or neither did. So a request is reported as timed out if its peer said so, if it
was still running at the deadline, or if it died while some other request was. -/
theorem outcome_of_position
    (notThen : ∀ conduct ∈ conducts, conduct.endsAfter? ≠ some deadline)
    (notThenThere : ∀ conduct ∈ others, conduct.endsAfter? ≠ some deadline)
    (schedule : Schedule deadline (runningAtFirst conducts) events)
    (otherSchedule : Schedule deadline (runningAtFirst others) otherEvents)
    (here : conducts[position]? = some conduct) (there : others[position]? = some conduct) :
    ∃ outcome other,
      (report deadline conducts events).outcomes[position]? = some outcome ∧
      (report deadline others otherEvents).outcomes[position]? = some other ∧
      (outcome = other ↔
        (conduct = .dies → anyLate deadline conducts = anyLate deadline others)) ∧
      ∀ after, outcome = .error (.timedOut after) →
        (∃ own, own.nanos < deadline.nanos ∧ conduct = .answers own (.error (.timedOut after))) ∨
          after = deadline ∧ (conduct.endsBefore deadline = false ∨
            conduct = .dies ∧ anyLate deadline conducts = true) := by
  refine ⟨_, _, getElem?_outcomes_report schedule notThen here,
    getElem?_outcomes_report otherSchedule notThenThere there, Conduct.fate_eq_fate_iff, ?_⟩
  intro after timedOut
  exact Conduct.of_fate_eq_timedOut timedOut

/-- A quick failure is reported as it is, beside a peer that dies and beside one that hangs. -/
theorem outcome_of_quick_failure :
    let deadline := Time.Span.ofSeconds 10
    let quick : Conduct := .answers (.ofSeconds 1) (.error (.status 503 ""))
    let beside (neighbour : Conduct) : List Conduct := [neighbour, quick]
    let outcomes (conducts : List Conduct) : List FetchOutcome :=
      (report deadline conducts (({} : Course).events deadline conducts)).outcomes
    (∀ conduct ∈ beside .dies, conduct.endsAfter? ≠ some deadline) ∧
      (∀ conduct ∈ beside .hangs, conduct.endsAfter? ≠ some deadline) ∧
      (outcomes (beside .dies))[1]? = some (.error (.status 503 "")) ∧
      (outcomes (beside .hangs))[1]? = some (.error (.status 503 "")) := by
  intro deadline quick beside outcomes
  have notThen : ∀ conduct ∈ beside .dies, conduct.endsAfter? ≠ some deadline := by decide
  have notThenThere : ∀ conduct ∈ beside .hangs, conduct.endsAfter? ≠ some deadline := by decide
  obtain ⟨outcome, other, reported, elsewhere, same, -⟩ :=
    @outcome_of_position deadline (beside .dies) (beside .hangs) _ _ 1 quick notThen notThenThere
      (schedule_events {} _ _) (schedule_events {} _ _) rfl rfl
  have equal : outcome = other := same.mpr nofun
  subst equal
  have own : (outcomes (beside .dies))[1]? = some (.error (.status 503 "")) :=
    getElem?_outcomes_report (schedule_events {} _ _) notThen
      (show (beside .dies)[1]? = some quick from rfl)
  exact ⟨notThen, notThenThere, own, elsewhere.trans (reported.symm.trans own)⟩

/-- A request that dies at once is reported as aborted beside a peer that answers, and as timed out
beside one that hangs, though it is not running at the deadline either way. -/
theorem death_reported_as_timeout :
    let deadline := Time.Span.ofSeconds 2
    let beside (neighbour : Conduct) : List Conduct := [.dies, neighbour]
    let answering : Conduct := .answers .zero (.ok [])
    let outcomes (conducts : List Conduct) : List FetchOutcome :=
      (report deadline conducts (({} : Course).events deadline conducts)).outcomes
    (∀ conduct ∈ beside answering ++ beside .hangs, conduct.endsAfter? ≠ some deadline) ∧
      Conduct.dies.endsBefore deadline = true ∧
      (outcomes (beside answering))[0]? =
        some (.error (.aborted "task panicked or was cancelled")) ∧
      (outcomes (beside .hangs))[0]? = some (.error (.timedOut deadline)) ∧
      (outcomes (beside answering))[0]? ≠ (outcomes (beside .hangs))[0]? := by
  intro deadline beside answering outcomes
  have notThen : ∀ conduct ∈ beside answering ++ beside .hangs,
      conduct.endsAfter? ≠ some deadline := by decide
  obtain ⟨notThenHere, notThenThere⟩ := List.forall_mem_append.mp notThen
  have aborted : (outcomes (beside answering))[0]? =
      some (.error (.aborted "task panicked or was cancelled")) :=
    getElem?_outcomes_report (schedule_events {} _ _) notThenHere
      (show (beside answering)[0]? = some .dies from rfl)
  have timedOut : (outcomes (beside .hangs))[0]? = some (.error (.timedOut deadline)) :=
    getElem?_outcomes_report (schedule_events {} _ _) notThenThere
      (show (beside .hangs)[0]? = some .dies from rfl)
  refine ⟨notThen, rfl, aborted, timedOut, ?_⟩
  rw [aborted, timedOut]
  exact nofun

end FanOut

end ClusterQuery
