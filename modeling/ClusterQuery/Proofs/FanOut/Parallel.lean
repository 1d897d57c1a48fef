import ClusterQuery.Proofs.FanOut

/-!
# Requests that end together

A schedule does not depend on what requests come to. Two fan-outs whose requests end at the same
times may have the same schedule, and then what they report is related position by position, as the
answers of their peers are. That holds even of requests that end at the very deadline, of which
nothing else decides whether they are heard.
-/

namespace ClusterQuery

/-- Two requests that end together, with related outcomes where their peers answer. -/
inductive Conduct.Parallel (related : FetchOutcome → FetchOutcome → Prop) :
    Conduct → Conduct → Prop where
  | answers {after : Time.Span} {one other : FetchOutcome} (outcomes : related one other) :
      Parallel related (.answers after one) (.answers after other)
  | hangs : Parallel related .hangs .hangs
  | dies : Parallel related .dies .dies

namespace FanOut

variable {deadline : Time.Span} {conducts others : List Conduct}
variable {related : FetchOutcome → FetchOutcome → Prop}

/-- Two waits at the same point of their schedules, with related outcomes so far. -/
structure Wait.Parallel (related : FetchOutcome → FetchOutcome → Prop) (one other : Wait) :
    Prop where
  slots : List.Forall₂ (Option.Rel related) one.slots other.slots
  expired : other.expired = one.expired

theorem Wait.parallel_start (count : Nat) : Parallel related (start count) (start count) where
  slots := List.forall₂_same.mpr fun slot member => by
    rw [List.eq_of_mem_replicate member]
    exact .none
  expired := rfl

theorem Wait.Parallel.fill {one other : Wait} (parallel : Parallel related one other)
    {left right : FetchOutcome} (outcomes : related left right) (position : Nat)
    (after : Time.Span) :
    Parallel related (one.take deadline (.outcome position after left))
      (other.take deadline (.outcome position after right)) where
  slots := by
    have slots := List.forall₂_iff_get.mp parallel.slots
    refine List.forall₂_iff_get.mpr ⟨by simpa [take] using slots.1, fun place inOne inOther => ?_⟩
    simp only [take, List.get_eq_getElem, List.getElem_set]
    split
    next => exact .some outcomes
    next =>
      exact slots.2 place (by simpa [take, advance] using inOne)
        (by simpa [take, advance] using inOther)
  expired := parallel.expired

theorem Wait.Parallel.take_signal (deadline : Time.Span)
    (failed : ∀ failure, related (.error failure) (.error failure)) {one other : Wait}
    (parallel : Parallel related one other) {left right : Conduct}
    (conducts : left.Parallel related right) (position : Nat) :
    Parallel related (one.take deadline (signal deadline position left))
      (other.take deadline (signal deadline position right)) := by
  cases conducts with
  | @answers after own its outcomes =>
      rw [signal, signal]
      split
      next => exact parallel.fill outcomes position after
      next => exact parallel.fill (failed _) position deadline
  | hangs => exact parallel.fill (failed _) position deadline
  | dies => exact ⟨parallel.slots, parallel.expired⟩

/-- Waits that take the same events stay parallel. -/
theorem Wait.Parallel.collect (deadline : Time.Span)
    (failed : ∀ failure, related (.error failure) (.error failure))
    (parallel : List.Forall₂ (Conduct.Parallel related) conducts others) (events : List Event)
    {one other : Wait} (waits : Wait.Parallel related one other) :
    Wait.Parallel related (one.collect deadline (signals deadline conducts events))
      (other.collect deadline (signals deadline others events)) := by
  induction events generalizing one other with
  | nil => exact waits
  | cons event events ih =>
      cases event with
      | cutoff => exact ⟨waits.slots, rfl⟩
      | ends position =>
          by_cases inside : position < conducts.length
          · have here := List.getElem?_eq_getElem inside
            have there := List.getElem?_eq_getElem (parallel.length_eq ▸ inside)
            have next := waits.take_signal deadline failed
              ((List.forall₂_iff_get.mp parallel).2 position inside (parallel.length_eq ▸ inside))
              position
            rw [signals_ends here, signals_ends there, Wait.collect, Wait.collect]
            simp only [List.get_eq_getElem] at next
            rw [next.expired]
            split
            · exact next
            · exact ih next
          · have none : signals deadline conducts (.ends position :: events) =
                signals deadline conducts events := List.filterMap_cons_none (by
              rw [Event.signal?, List.getElem?_eq_none (Nat.le_of_not_lt inside)]
              rfl)
            have noneThere : signals deadline others (.ends position :: events) =
                signals deadline others events := List.filterMap_cons_none (by
              rw [Event.signal?, List.getElem?_eq_none
                (Nat.le_of_not_lt (parallel.length_eq ▸ inside))]
              rfl)
            rw [none, noneThere]
            exact ih waits

/-- Requests that end together have related outcomes under the same schedule, even those that end at
the very deadline. -/
theorem forall₂_outcomes_of_parallel
    (failed : ∀ failure, related (.error failure) (.error failure))
    (parallel : List.Forall₂ (Conduct.Parallel related) conducts others) (events : List Event) :
    List.Forall₂ related (report deadline conducts events).outcomes
      (report deadline others events).outcomes := by
  have start : Wait.Parallel related (Wait.start conducts.length) (Wait.start others.length) := by
    rw [parallel.length_eq]
    exact Wait.parallel_start _
  have waits := Wait.Parallel.collect deadline failed parallel events start
  rw [report, report, List.forall₂_map_left_iff, List.forall₂_map_right_iff, waits.expired]
  refine waits.slots.imp fun left right slots => ?_
  cases slots with
  | some outcomes => exact outcomes
  | none =>
      rw [settle]
      split <;> exact failed _

theorem map_endsAfter?_of_parallel
    (parallel : List.Forall₂ (Conduct.Parallel related) conducts others) :
    others.map Conduct.endsAfter? = conducts.map Conduct.endsAfter? := by
  induction parallel with
  | nil => rfl
  | cons first _ ih =>
      rw [List.map_cons, List.map_cons, ih]
      cases first <;> rfl

end FanOut

end ClusterQuery
