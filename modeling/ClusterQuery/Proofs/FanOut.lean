import ClusterQuery.Fetch.FanOut
import Mathlib.Data.List.Forall2
import Mathlib.Data.List.Nodup

/-!
# Fan-outs in any order

Nothing fixes the order in which requests end, nor whether a request that is still running at the
deadline is first stopped by its own timer or by the shared one. What a fan-out reports is the same
for every schedule: each slot has the fate of its request, which depends on that request and on
whether some request ran into the deadline. Only of requests that end at the very deadline does it
matter whether the schedule lets them be heard.
-/

namespace ClusterQuery

/-- The outcome that a request comes to; `expired` tells whether some request of the fan-out was
still running at the deadline. -/
def Conduct.fate (deadline : Time.Span) (expired : Bool) : Conduct → FetchOutcome
  | .answers after outcome =>
      if after.nanos < deadline.nanos then outcome else .error (.timedOut deadline)
  | .hangs => .error (.timedOut deadline)
  | .dies =>
      if expired then .error (.timedOut deadline)
      else .error (.aborted "task panicked or was cancelled")

/-- The outcome that a request comes to, given whether it is heard and whether the wait ends at the
deadline. -/
def Conduct.comesTo (deadline : Time.Span) (heard expired : Bool) : Conduct → FetchOutcome
  | .answers after outcome =>
      if heard ∧ after.nanos ≤ deadline.nanos then outcome else .error (.timedOut deadline)
  | .hangs => .error (.timedOut deadline)
  | .dies =>
      if expired then .error (.timedOut deadline)
      else .error (.aborted "task panicked or was cancelled")

/-- A request that ends in time is heard, and one that does not end at the very deadline comes to
its fate. -/
theorem Conduct.comesTo_eq_fate {deadline : Time.Span} {heard expired : Bool} {conduct : Conduct}
    (isHeard : conduct.endsBefore deadline = true → heard = true)
    (notThen : conduct.endsAfter? ≠ some deadline) :
    conduct.comesTo deadline heard expired = conduct.fate deadline expired := by
  cases conduct with
  | answers after outcome =>
      have apart : after.nanos ≠ deadline.nanos := fun equal =>
        notThen (congrArg some (Time.Span.ext equal))
      rw [comesTo, fate]
      by_cases early : after.nanos < deadline.nanos
      · rw [if_pos early, if_pos ⟨isHeard (decide_eq_true early), Nat.le_of_lt early⟩]
      · rw [if_neg early, if_neg fun both => early (Nat.lt_of_le_of_ne both.2 apart)]
  | hangs => rfl
  | dies => rfl

/-- Only a peer that answered by the deadline with records comes to records. -/
theorem Conduct.answers_of_comesTo_eq_ok {deadline : Time.Span} {heard expired : Bool}
    {conduct : Conduct} {records : List Record}
    (comesTo : conduct.comesTo deadline heard expired = .ok records) :
    ∃ after, after.nanos ≤ deadline.nanos ∧ conduct = .answers after (.ok records) := by
  cases conduct with
  | answers after outcome =>
      rw [Conduct.comesTo] at comesTo
      split at comesTo
      next both => exact ⟨after, both.2, comesTo ▸ rfl⟩
      next => cases comesTo
  | hangs => cases comesTo
  | dies => cases expired <;> cases comesTo

/-- Two requests that come to the same, though they may end at different times before the
deadline. -/
inductive Conduct.Alike (deadline : Time.Span) : Conduct → Conduct → Prop where
  | same (conduct : Conduct) : Alike deadline conduct conduct
  | retimed {one other : Time.Span} (outcome : FetchOutcome)
      (oneInTime : one.nanos < deadline.nanos) (otherInTime : other.nanos < deadline.nanos) :
      Alike deadline (.answers one outcome) (.answers other outcome)

namespace Conduct.Alike

variable {deadline : Time.Span} {one other : Conduct}

theorem fate_eq (alike : Alike deadline one other) (expired : Bool) :
    other.fate deadline expired = one.fate deadline expired := by
  cases alike with
  | same => rfl
  | retimed outcome oneInTime otherInTime => rw [fate, fate, if_pos oneInTime, if_pos otherInTime]

theorem endsBefore_eq (alike : Alike deadline one other) :
    other.endsBefore deadline = one.endsBefore deadline := by
  cases alike with
  | same => rfl
  | retimed outcome oneInTime otherInTime =>
      exact (decide_eq_true otherInTime).trans (decide_eq_true oneInTime).symm

/-- No other delay before the deadline is the deadline. -/
theorem endsAfter?_ne (alike : Alike deadline one other)
    (notThen : one.endsAfter? ≠ some deadline) : other.endsAfter? ≠ some deadline := by
  cases alike with
  | same => exact notThen
  | retimed outcome oneInTime otherInTime =>
      intro equal
      exact absurd otherInTime (by rw [Option.some.inj equal]; exact Nat.lt_irrefl _)

end Conduct.Alike

namespace FanOut

variable {deadline : Time.Span}

theorem isLate_iff {request : Running} :
    isLate deadline request = true ↔ inTime deadline request.1 = false := by
  rw [isLate, Bool.not_eq_true']

theorem any_middle (test : Running → Bool) (before after : List Running) (request : Running) :
    (before ++ request :: after).any test = (test request || (before ++ after).any test) := by
  simp only [List.any_append, List.any_cons]
  exact Bool.or_left_comm _ _ _

/-- A request that goes on beyond the deadline is late, and one that does not is so only if it ends
at the very deadline. -/
theorem isLate_eq_outlasts {request : Running} (notThen : request.1 ≠ some deadline) :
    isLate deadline request = outlasts deadline request := by
  obtain ⟨own, position⟩ := request
  cases own with
  | none => rfl
  | some after =>
      have apart : after.nanos ≠ deadline.nanos := fun equal =>
        notThen (congrArg some (Time.Span.ext equal))
      simp only [isLate, inTime, outlasts, ← decide_not, decide_eq_decide]
      omega

theorem any_isLate_of_forall {running : List Running} (some : running ≠ [])
    (late : ∀ request ∈ running, isLate deadline request = true) :
    running.any (isLate deadline) = true := by
  obtain ⟨request, others, rfl⟩ := List.exists_cons_of_ne_nil some
  rw [List.any_cons, late request List.mem_cons_self, Bool.true_or]

/-- The time until the last of some requests ends; one that never ends does not count. -/
def lastEnd (ends : List (Option Time.Span)) : Time.Span :=
  ⟨(ends.map fun own => (own.getD .zero).nanos).foldr max 0⟩

theorem lastEnd_append_cons (before after : List (Option Time.Span)) (own : Option Time.Span) :
    (lastEnd (before ++ own :: after)).nanos =
      max (own.getD .zero).nanos (lastEnd (before ++ after)).nanos := by
  induction before with
  | nil => rfl
  | cons first before ih =>
      simp only [lastEnd, List.cons_append, List.map_cons, List.foldr_cons] at ih ⊢
      rw [ih, Nat.max_left_comm]

/-- Every running request is one that was sent. -/
def Tracks (conducts : List Conduct) (running : List Running) : Prop :=
  ∀ request ∈ running, ∃ conduct, conducts[request.2]? = some conduct ∧
    conduct.endsAfter? = request.1

theorem Tracks.without {conducts : List Conduct} {before after : List Running} {request : Running}
    (tracks : Tracks conducts (before ++ request :: after)) : Tracks conducts (before ++ after) :=
  fun other member => tracks other
    (((List.sublist_cons_self request after).append_left before).subset member)

/-- A request that is running has a conduct. -/
theorem Tracks.middle {conducts : List Conduct} {before after : List Running} {request : Running}
    (tracks : Tracks conducts (before ++ request :: after)) :
    ∃ conduct, conducts[request.2]? = some conduct ∧ conduct.endsAfter? = request.1 :=
  tracks request (List.mem_append_right before List.mem_cons_self)

theorem tracks_zipIdx (conducts : List Conduct) :
    Tracks conducts (conducts.map Conduct.endsAfter?).zipIdx := by
  rintro ⟨own, position⟩ member
  rw [List.mk_mem_zipIdx_iff_getElem?, List.getElem?_map, Option.map_eq_some_iff] at member
  exact member

/-! ## One signal -/

section Signals

variable {conducts : List Conduct} {conduct : Conduct} {position : Nat}

theorem signals_ends (here : conducts[position]? = some conduct) (events : List Event) :
    signals deadline conducts (.ends position :: events) =
      signal deadline position conduct :: signals deadline conducts events := by
  have heard : Event.signal? deadline conducts (.ends position) =
      some (signal deadline position conduct) := by
    rw [Event.signal?, here]
    rfl
  exact List.filterMap_cons_some heard

end Signals

namespace Wait

theorem expired_start (count : Nat) : (start count).expired = false := rfl

theorem getElem?_slots_start {count position : Nat} (inside : position < count) :
    (start count).slots[position]? = some none :=
  List.getElem?_replicate_of_lt inside

/-- The signal with which a request ends touches no slot but its own. -/
theorem getElem?_slots_take_signal (wait : Wait) (conduct : Conduct) {position other : Nat}
    (different : other ≠ position) :
    (wait.take deadline (signal deadline position conduct)).slots[other]? = wait.slots[other]? := by
  cases conduct with
  | answers after outcome =>
      rw [signal]
      split <;> exact List.getElem?_set_ne different.symm
  | hangs => exact List.getElem?_set_ne different.symm
  | dies => rfl

@[simp] theorem expired_take_signal (wait : Wait) (conduct : Conduct) (position : Nat) :
    (wait.take deadline (signal deadline position conduct)).expired = wait.expired := by
  cases conduct with
  | answers after outcome =>
      rw [signal]
      split <;> rfl
  | hangs => rfl
  | dies => rfl

@[simp] theorem length_slots_take (wait : Wait) (signal : Signal) :
    (wait.take deadline signal).slots.length = wait.slots.length := by
  cases signal with
  | outcome position after outcome => exact List.length_set
  | death after => rfl
  | cutoff => rfl

@[simp] theorem length_slots_collect (wait : Wait) (signals : List Signal) :
    (wait.collect deadline signals).slots.length = wait.slots.length := by
  induction signals generalizing wait with
  | nil => rfl
  | cons signal signals ih =>
      rw [collect]
      split
      · exact length_slots_take wait signal
      · rw [ih, length_slots_take]

/-- A request that ends by the deadline moves the clock to its end. -/
theorem clock_take_signal (wait : Wait) {conduct : Conduct} {position : Nat}
    (byThen : outlasts deadline (conduct.endsAfter?, position) = false) :
    (wait.take deadline (signal deadline position conduct)).clock.nanos =
      max wait.clock.nanos (conduct.endsAfter?.getD .zero).nanos := by
  cases conduct with
  | answers after outcome =>
      rw [signal, if_pos (Nat.le_of_not_lt (of_decide_eq_false byThen))]
      rfl
  | hangs => cases byThen
  | dies => rfl

/-- A wait goes on after the end of a request. -/
theorem collect_signal_cons {wait : Wait} (waiting : wait.expired = false) (conduct : Conduct)
    (position : Nat) (signals : List Signal) :
    wait.collect deadline (signal deadline position conduct :: signals) =
      (wait.take deadline (signal deadline position conduct)).collect deadline signals := by
  rw [collect]
  exact if_neg (by simp [waiting])

/-- After the signal with which a request ends, its slot settles to what the request comes to when
it is heard. -/
theorem settle_take_signal {wait : Wait} {position : Nat}
    (empty : wait.slots[position]? = some none) (conduct : Conduct) (expired : Bool) :
    (wait.take deadline (signal deadline position conduct)).slots[position]?.map
      (settle deadline expired) = some (conduct.comesTo deadline true expired) := by
  obtain ⟨inside, -⟩ := List.getElem?_eq_some_iff.mp empty
  have filled (outcome : FetchOutcome) :
      (wait.slots.set position (some outcome))[position]?.map (settle deadline expired) =
        some outcome := by
    rw [List.getElem?_set_self inside]
    rfl
  cases conduct with
  | answers after outcome =>
      rw [signal, Conduct.comesTo]
      by_cases byThen : after.nanos ≤ deadline.nanos
      · rw [if_pos byThen, if_pos ⟨rfl, byThen⟩]
        exact filled outcome
      · rw [if_neg byThen, if_neg fun both => byThen both.2]
        exact filled _
  | hangs => exact filled _
  | dies =>
      change wait.slots[position]?.map (settle deadline expired) = _
      rw [empty]
      rfl

end Wait

/-! ## A whole schedule -/

namespace Schedule

variable {running : List Running} {events : List Event} {conducts : List Conduct}

/-- The wait ends at the deadline if and only if the schedule says so. -/
theorem expired_collect (schedule : Schedule deadline running events)
    (tracks : Tracks conducts running) {wait : Wait} (waiting : wait.expired = false) :
    (wait.collect deadline (signals deadline conducts events)).expired =
      decide (.cutoff ∈ events) := by
  induction schedule generalizing wait with
  | drained => exact waiting
  | @ends before after request events _ rest ih
  | @lapses before after request events _ _ rest ih =>
      obtain ⟨conduct, here, -⟩ := tracks.middle
      rw [signals_ends here, Wait.collect_signal_cons waiting,
        ih tracks.without (by simpa using waiting)]
      simp
  | cutoff => rfl

/-- Where nothing ends at the very deadline, that is so if and only if some request is late. -/
theorem cutoff_mem_iff (schedule : Schedule deadline running events)
    (notThen : ∀ request ∈ running, request.1 ≠ some deadline) :
    .cutoff ∈ events ↔ running.any (isLate deadline) = true := by
  induction schedule with
  | drained => simp
  | @ends before after request events byThen rest ih =>
      rw [List.forall_mem_append, List.forall_mem_cons] at notThen
      obtain ⟨notBefore, notNow, notAfter⟩ := notThen
      have others := ih (List.forall_mem_append.mpr ⟨notBefore, notAfter⟩)
      rw [any_middle, isLate_eq_outlasts notNow, byThen, Bool.false_or, ← others]
      simp
  | @lapses before after request events _ other rest ih =>
      rw [List.forall_mem_append, List.forall_mem_cons] at notThen
      obtain ⟨notBefore, notNow, notAfter⟩ := notThen
      have notOthers := List.forall_mem_append.mpr ⟨notBefore, notAfter⟩
      -- The other request that goes on is late itself.
      have late : (before ++ after).any (isLate deadline) = true := by
        obtain ⟨left, member, goesOn⟩ := List.any_eq_true.mp other
        exact List.any_eq_true.mpr
          ⟨left, member, (isLate_eq_outlasts (notOthers left member)).trans goesOn⟩
      rw [any_middle, late, Bool.or_true, List.mem_cons, ih notOthers, late]
      simp
  | cutoff some late => simp [any_isLate_of_forall some late]

/-- The wait ends at the deadline if some request goes on beyond it. -/
theorem cutoff_mem_of_outlasts (schedule : Schedule deadline running events)
    (goesOn : running.any (outlasts deadline) = true) : .cutoff ∈ events := by
  induction schedule with
  | drained => cases goesOn
  | ends byThen _ ih =>
      rw [any_middle, byThen, Bool.false_or] at goesOn
      exact List.mem_cons_of_mem _ (ih goesOn)
  | lapses _ other _ ih => exact List.mem_cons_of_mem _ (ih other)
  | cutoff => exact List.mem_cons_self

/-- The wait takes as long as its longest request, or until the deadline if it ends there. -/
theorem clock_collect (schedule : Schedule deadline running events)
    (tracks : Tracks conducts running) {wait : Wait} (waiting : wait.expired = false) :
    (wait.collect deadline (signals deadline conducts events)).clock.nanos =
      if .cutoff ∈ events then deadline.nanos
      else max wait.clock.nanos (lastEnd (running.map Prod.fst)).nanos := by
  induction schedule generalizing wait with
  | drained => exact (Nat.max_zero _).symm
  | @ends before after request events byThen rest ih =>
      obtain ⟨conduct, here, own⟩ := tracks.middle
      rw [signals_ends here, Wait.collect_signal_cons waiting,
        ih tracks.without (by simpa using waiting),
        Wait.clock_take_signal wait (own ▸ byThen), List.map_append, List.map_append,
        List.map_cons, lastEnd_append_cons, Nat.max_assoc, own]
      simp
  | @lapses before after request events beyond other rest ih =>
      obtain ⟨conduct, here, -⟩ := tracks.middle
      -- Some request that goes on is left, and it alone decides how long the wait takes.
      have ends : .cutoff ∈ events := rest.cutoff_mem_of_outlasts other
      rw [signals_ends here, Wait.collect_signal_cons waiting,
        ih tracks.without (by simpa using waiting), if_pos ends,
        if_pos (List.mem_cons_of_mem _ ends)]
  | cutoff => rfl

/-- A slot whose request is not running any more stays as it is. -/
theorem getElem?_slots_collect (schedule : Schedule deadline running events)
    (tracks : Tracks conducts running) {wait : Wait} (waiting : wait.expired = false)
    {position : Nat} (ended : position ∉ running.map Prod.snd) :
    (wait.collect deadline (signals deadline conducts events)).slots[position]? =
      wait.slots[position]? := by
  induction schedule generalizing wait with
  | drained => rfl
  | @ends before after request events _ rest ih
  | @lapses before after request events _ _ rest ih =>
      obtain ⟨conduct, here, -⟩ := tracks.middle
      have parts : position ≠ request.2 ∧ position ∉ (before ++ after).map Prod.snd := by
        simp only [List.map_append, List.map_cons, List.mem_append, List.mem_cons] at ended ⊢
        tauto
      rw [signals_ends here, Wait.collect_signal_cons waiting,
        ih tracks.without (by simpa using waiting) parts.2,
        Wait.getElem?_slots_take_signal wait conduct parts.1]
  | cutoff => rfl

/-- The slot of a running request settles to what the request comes to under the schedule. -/
theorem settle_collect (schedule : Schedule deadline running events)
    (tracks : Tracks conducts running) {wait : Wait} (waiting : wait.expired = false)
    (distinct : (running.map Prod.snd).Nodup) {expired : Bool}
    (seen : .cutoff ∈ events → expired = true)
    {conduct : Conduct} {position : Nat} (here : conducts[position]? = some conduct)
    (member : position ∈ running.map Prod.snd) (empty : wait.slots[position]? = some none) :
    (wait.collect deadline (signals deadline conducts events)).slots[position]?.map
        (settle deadline expired) =
      some (conduct.comesTo deadline (decide (.ends position ∈ events)) expired) := by
  induction schedule generalizing wait with
  | drained => exact absurd member List.not_mem_nil
  | @ends before after request events _ rest ih
  | @lapses before after request events _ _ rest ih =>
      obtain ⟨other, there, -⟩ := tracks.middle
      have waiting' : (wait.take deadline (signal deadline request.2 other)).expired = false := by
        simpa using waiting
      have apart : request.2 ∉ (before ++ after).map Prod.snd ∧
          ((before ++ after).map Prod.snd).Nodup := by
        rw [List.map_append, List.map_cons, List.nodup_middle] at distinct
        rw [List.map_append]
        exact List.nodup_cons.mp distinct
      rw [signals_ends there, Wait.collect_signal_cons waiting]
      rw [List.map_append, List.map_cons, List.perm_middle.mem_iff, List.mem_cons,
        ← List.map_append] at member
      rcases member with rfl | elsewhere
      · -- The request itself ends now, and nothing touches its slot afterwards.
        obtain rfl : conduct = other := Option.some.inj (here.symm.trans there)
        rw [rest.getElem?_slots_collect tracks.without waiting' apart.1,
          decide_eq_true List.mem_cons_self]
        exact Wait.settle_take_signal empty conduct expired
      · have different : position ≠ request.2 := by
          rintro rfl
          exact apart.1 elsewhere
        rw [ih tracks.without waiting' apart.2 (fun ends => seen (List.mem_cons_of_mem _ ends))
          elsewhere (by rw [Wait.getElem?_slots_take_signal wait other different, empty])]
        simp [different]
  | cutoff =>
      obtain rfl : expired = true := seen List.mem_cons_self
      change wait.slots[position]?.map (settle deadline true) = _
      rw [empty]
      cases conduct <;> rfl

/-- A request that ends in time is heard. -/
theorem ends_mem_of_inTime (schedule : Schedule deadline running events) {request : Running}
    (member : request ∈ running) (early : inTime deadline request.1 = true) :
    .ends request.2 ∈ events := by
  induction schedule with
  | drained => exact absurd member List.not_mem_nil
  | @ends before after first events _ rest ih
  | @lapses before after first events _ _ rest ih =>
      rcases List.mem_cons.mp (List.perm_middle.mem_iff.mp member) with rfl | elsewhere
      · exact List.mem_cons_self
      · exact List.mem_cons_of_mem _ (ih elsewhere)
  | cutoff _ late =>
      rw [isLate_iff.mp (late request member)] at early
      cases early

end Schedule

/-! ## The law of outcomes -/

/-- Whether some request is still running at the deadline. -/
def anyLate (deadline : Time.Span) (conducts : List Conduct) : Bool :=
  conducts.any fun conduct => !conduct.endsBefore deadline

/-- The requests that run at the start of a wait. -/
def runningAtFirst (conducts : List Conduct) : List Running :=
  (conducts.map Conduct.endsAfter?).zipIdx

theorem any_isLate_runningAtFirst (conducts : List Conduct) :
    (runningAtFirst conducts).any (isLate deadline) = anyLate deadline conducts := by
  have ends : (runningAtFirst conducts).map Prod.fst = conducts.map Conduct.endsAfter? :=
    List.zipIdx_map_fst 0 _
  have late : isLate deadline = (fun own => !inTime deadline own) ∘ Prod.fst := rfl
  rw [late, ← List.any_map, ends, List.any_map]
  rfl

variable {conducts : List Conduct} {events : List Event}

theorem cutoff_mem_iff_anyLate (schedule : Schedule deadline (runningAtFirst conducts) events)
    (notThen : ∀ conduct ∈ conducts, conduct.endsAfter? ≠ some deadline) :
    .cutoff ∈ events ↔ anyLate deadline conducts = true := by
  rw [← any_isLate_runningAtFirst]
  refine schedule.cutoff_mem_iff fun request member => ?_
  obtain ⟨conduct, here, own⟩ := tracks_zipIdx conducts request member
  exact own ▸ notThen conduct (List.mem_of_getElem? here)

theorem elapsed_report (schedule : Schedule deadline (runningAtFirst conducts) events)
    (notThen : ∀ conduct ∈ conducts, conduct.endsAfter? ≠ some deadline) :
    (report deadline conducts events).elapsed =
      if anyLate deadline conducts then deadline
      else lastEnd (conducts.map Conduct.endsAfter?) := by
  have clock := schedule.clock_collect (tracks_zipIdx conducts)
    (Wait.expired_start conducts.length)
  simp only [cutoff_mem_iff_anyLate schedule notThen, runningAtFirst, List.zipIdx_map_fst]
    at clock
  ext
  rw [apply_ite Time.Span.nanos, ← Nat.zero_max (lastEnd _).nanos]
  exact clock

/-- There is one outcome for each request, in their order, and it is what the request comes to under
the schedule. -/
theorem outcomes_report_eq (schedule : Schedule deadline (runningAtFirst conducts) events) :
    (report deadline conducts events).outcomes = conducts.mapIdx fun position conduct =>
      conduct.comesTo deadline (decide (.ends position ∈ events)) (decide (.cutoff ∈ events)) := by
  have positions : (runningAtFirst conducts).map Prod.snd = List.range conducts.length := by
    rw [runningAtFirst, List.zipIdx_map_snd, List.length_map, List.range_eq_range']
  have waiting := Wait.expired_start conducts.length
  ext1 position
  rw [report, List.getElem?_map, schedule.expired_collect (tracks_zipIdx conducts) waiting,
    List.getElem?_mapIdx]
  by_cases inside : position < conducts.length
  · have here := List.getElem?_eq_getElem inside
    rw [here, Option.map_some]
    refine schedule.settle_collect (tracks_zipIdx conducts) waiting ?_ decide_eq_true here ?_
      (Wait.getElem?_slots_start inside)
    · rw [positions]
      exact List.nodup_range
    · rw [positions]
      exact List.mem_range.mpr inside
  · have outside : conducts.length ≤ position := Nat.le_of_not_lt inside
    rw [List.getElem?_eq_none outside, List.getElem?_eq_none (by simpa [Wait.start] using outside)]
    rfl

/-- Every outcome is the fate of its request, unless one ends at the very deadline. -/
theorem outcomes_report (schedule : Schedule deadline (runningAtFirst conducts) events)
    (notThen : ∀ conduct ∈ conducts, conduct.endsAfter? ≠ some deadline) :
    (report deadline conducts events).outcomes =
      conducts.map (Conduct.fate deadline (anyLate deadline conducts)) := by
  have late : decide (.cutoff ∈ events) = anyLate deadline conducts := by
    rw [Bool.eq_iff_iff, decide_eq_true_iff]
    exact cutoff_mem_iff_anyLate schedule notThen
  rw [outcomes_report_eq schedule, late]
  ext1 position
  rw [List.getElem?_mapIdx, List.getElem?_map]
  cases here : conducts[position]? with
  | none => rfl
  | some conduct =>
      have running : (conduct.endsAfter?, position) ∈ runningAtFirst conducts :=
        List.mk_mem_zipIdx_iff_getElem?.mpr (by rw [List.getElem?_map, here]; rfl)
      exact congrArg some (Conduct.comesTo_eq_fate
        (fun early => decide_eq_true (schedule.ends_mem_of_inTime running early))
        (notThen conduct (List.mem_of_getElem? here)))

/-- Requests that all end by the deadline may all be heard. -/
theorem exists_schedule_heard (byThen : ∀ conduct ∈ conducts,
      ∃ after, conduct.endsAfter? = some after ∧ after.nanos ≤ deadline.nanos) :
    ∃ events, Schedule deadline (runningAtFirst conducts) events ∧
      ∀ position < conducts.length, .ends position ∈ events := by
  have noneGoesOn : ∀ request ∈ runningAtFirst conducts, outlasts deadline request = false := by
    intro request member
    obtain ⟨conduct, here, own⟩ := tracks_zipIdx conducts request member
    obtain ⟨after, ends, before⟩ := byThen conduct (List.mem_of_getElem? here)
    rw [outlasts, ← own, ends]
    exact decide_eq_false (Nat.not_lt.mpr before)
  -- They may end in the order in which they were sent.
  refine ⟨_, .of_perm (.of_eq (List.append_nil (runningAtFirst conducts)).symm) noneGoesOn
    fun request none => absurd none List.not_mem_nil, fun position inside => ?_⟩
  refine List.mem_append_left _
    (List.mem_map.mpr ⟨(conducts[position].endsAfter?, position), ?_, rfl⟩)
  rw [runningAtFirst, List.mk_mem_zipIdx_iff_getElem?, List.getElem?_map,
    List.getElem?_eq_getElem inside, Option.map_some]

/-! ## Other delays -/

section Alike

variable {others : List Conduct} (alike : List.Forall₂ (Conduct.Alike deadline) conducts others)

include alike

theorem anyLate_of_alike : anyLate deadline others = anyLate deadline conducts := by
  induction alike with
  | nil => rfl
  | cons first _ ih =>
      rw [anyLate, anyLate, List.any_cons, List.any_cons, first.endsBefore_eq]
      exact congrArg _ ih

theorem map_fate_of_alike (expired : Bool) :
    others.map (Conduct.fate deadline expired) = conducts.map (Conduct.fate deadline expired) := by
  induction alike with
  | nil => rfl
  | cons first _ ih => rw [List.map_cons, List.map_cons, first.fate_eq expired, ih]

theorem endsAfter?_ne_of_alike
    (notThen : ∀ conduct ∈ conducts, conduct.endsAfter? ≠ some deadline) :
    ∀ conduct ∈ others, conduct.endsAfter? ≠ some deadline := by
  induction alike with
  | nil => exact fun conduct member => absurd member List.not_mem_nil
  | cons first _ ih =>
      rw [List.forall_mem_cons] at notThen ⊢
      exact ⟨first.endsAfter?_ne notThen.1, ih notThen.2⟩

/-- Requests that are alike, one by one, have the same outcomes, whatever the orders. -/
theorem outcomes_report_of_alike {otherEvents : List Event}
    (notThen : ∀ conduct ∈ conducts, conduct.endsAfter? ≠ some deadline)
    (schedule : Schedule deadline (runningAtFirst conducts) events)
    (otherSchedule : Schedule deadline (runningAtFirst others) otherEvents) :
    (report deadline others otherEvents).outcomes = (report deadline conducts events).outcomes := by
  rw [outcomes_report schedule notThen,
    outcomes_report otherSchedule (endsAfter?_ne_of_alike alike notThen),
    anyLate_of_alike alike, map_fate_of_alike alike]

end Alike

end FanOut

end ClusterQuery
