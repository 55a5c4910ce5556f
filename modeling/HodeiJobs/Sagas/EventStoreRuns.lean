import HodeiJobs.Library.Panics
import HodeiJobs.Sagas.EventSourcing

/-!
# Runs on the event store of the sagas

What the in-memory store does with a list of events, where a refusal overflows, and what
every run of appends leaves to be read back.
-/

namespace HodeiJobs.Sagas.EventSourcing

open HodeiJobs.Library

namespace InMemorySagaEventStore

/-- How a call ends: with a panic, with an error, or well. -/
abbrev Outcome := Except Panic (Except SagaEventStoreError Unit)

/-- `append_event`, with the addition in its error checked for overflow or not. -/
def tryAppend (overflowChecks : Bool) (store : InMemorySagaEventStore) (event : SagaEvent) :
    Outcome × InMemorySagaEventStore :=
  match (store.events event.sagaId).getLast? with
  | some last =>
      if event.sequenceNumber ≤ last.sequenceNumber then
        ((increment overflowChecks last.sequenceNumber).map fun expected =>
          .error (.invalidSequence expected event.sequenceNumber), store)
      else (.ok (.ok ()), store.push event.sagaId [event])
  | none => (.ok (.ok ()), store.push event.sagaId [event])

/-- `append_events` stops at the first event that is not taken. -/
def appendEvents (overflowChecks : Bool) :
    InMemorySagaEventStore → List SagaEvent → Outcome × InMemorySagaEventStore
  | store, [] => (.ok (.ok ()), store)
  | store, event :: rest =>
      match store.tryAppend overflowChecks event with
      | (.ok (.ok ()), next) => appendEvents overflowChecks next rest
      | (ended, next) => (ended, next)

/-! ## What is asked of a call -/

/-- Every event at the end of its own saga. -/
def appendAll (store : InMemorySagaEventStore) (events : List SagaEvent) :
    InMemorySagaEventStore :=
  ⟨fun sagaId => store.events sagaId ++ events.filter (·.sagaId = sagaId)⟩

/-- The events are appended all, or the call fails and nothing is. -/
def AppendsWhole (overflowChecks : Bool) (store : InMemorySagaEventStore)
    (events : List SagaEvent) : Prop :=
  appendEvents overflowChecks store events = (.ok (.ok ()), store.appendAll events) ∨
    ∃ error, appendEvents overflowChecks store events = (.ok (.error error), store)

/-- An event that comes too late is refused with the number that was expected. -/
def RefusesCleanly (overflowChecks : Bool) (store : InMemorySagaEventStore)
    (event : SagaEvent) : Prop :=
  ∀ last, (store.events event.sagaId).getLast? = some last →
    event.sequenceNumber ≤ last.sequenceNumber →
      store.tryAppend overflowChecks event =
        (.ok (.error (.invalidSequence (last.sequenceNumber + 1) event.sequenceNumber)), store)

/-- In every saga the new sequence numbers rise, also above the last one stored. -/
def Rises (store : InMemorySagaEventStore) (events : List SagaEvent) : Prop :=
  ∀ sagaId, ((store.events sagaId).getLast?.toList ++
    events.filter (·.sagaId = sagaId)).IsChain Follows

/-- The first event of the list comes too late already, and not after the last number
that there is where overflow is checked. -/
def FirstRefused (overflowChecks : Bool) (store : InMemorySagaEventStore) :
    List SagaEvent → Prop
  | [] => False
  | first :: _ => ∃ last, (store.events first.sagaId).getLast? = some last ∧
      first.sequenceNumber ≤ last.sequenceNumber ∧
        (overflowChecks = true → last.sequenceNumber + 1 < 2 ^ 64)

/-- The event does not come too late after the last number that there is. -/
def BelowLimit (store : InMemorySagaEventStore) (event : SagaEvent) : Prop :=
  ∀ last, (store.events event.sagaId).getLast? = some last →
    event.sequenceNumber ≤ last.sequenceNumber → last.sequenceNumber + 1 < 2 ^ 64

/-- The event follows the last one of its saga. -/
def Accepts (store : InMemorySagaEventStore) (event : SagaEvent) : Prop :=
  ∀ last, (store.events event.sagaId).getLast? = some last → Follows last event

/-! ## One append -/

section Append

variable {overflowChecks : Bool} {store : InMemorySagaEventStore} {event : SagaEvent}
  {events : List SagaEvent}

theorem try_append_accepted (accepts : store.Accepts event) :
    store.tryAppend overflowChecks event = (.ok (.ok ()), store.push event.sagaId [event]) := by
  unfold tryAppend
  cases newest : (store.events event.sagaId).getLast? with
  | none => rfl
  | some last =>
      have later : ¬event.sequenceNumber ≤ last.sequenceNumber :=
        Nat.not_le_of_lt (accepts last newest)
      simp only [later, if_false]

theorem not_accepts_iff : ¬store.Accepts event ↔
    ∃ last, (store.events event.sagaId).getLast? = some last ∧
      event.sequenceNumber ≤ last.sequenceNumber := by
  simp only [Accepts, Follows, not_forall, exists_prop, not_lt]

theorem try_append_late {last : SagaEvent}
    (newest : (store.events event.sagaId).getLast? = some last)
    (late : event.sequenceNumber ≤ last.sequenceNumber) :
    store.tryAppend overflowChecks event =
      ((increment overflowChecks last.sequenceNumber).map fun expected =>
        .error (.invalidSequence expected event.sequenceNumber), store) := by
  unfold tryAppend
  simp only [newest, late, if_true]

/-- A refused event leaves the store as it was: the call panics or returns an error. -/
theorem try_append_fails (overflowChecks : Bool) (refused : ¬store.Accepts event) :
    (∃ panic, store.tryAppend overflowChecks event = (.error panic, store)) ∨
      ∃ problem, store.tryAppend overflowChecks event = (.ok (.error problem), store) := by
  obtain ⟨last, newest, late⟩ := not_accepts_iff.mp refused
  rw [try_append_late newest late]
  cases increment overflowChecks last.sequenceNumber with
  | error panic => exact .inl ⟨panic, rfl⟩
  | ok expected => exact .inr ⟨_, rfl⟩

theorem try_append_refused (overflowChecks : Bool) (refused : ¬store.Accepts event) :
    (store.tryAppend overflowChecks event).2 = store ∧
      (store.tryAppend overflowChecks event).1 ≠ .ok (.ok ()) := by
  rcases try_append_fails overflowChecks refused with ⟨panic, ended⟩ | ⟨problem, ended⟩
  · rw [ended]
    exact ⟨rfl, fun same => by cases same⟩
  · rw [ended]
    exact ⟨rfl, fun same => by cases same⟩

end Append

/-! ## A list of events -/

section List

variable {overflowChecks : Bool} {store : InMemorySagaEventStore} {event : SagaEvent}
  {rest events : List SagaEvent}

theorem push_other {sagaId other : SagaId} (different : other ≠ sagaId)
    (events : List SagaEvent) : (store.push sagaId events).events other = store.events other :=
  Function.update_of_ne different _ _

theorem push_self (sagaId : SagaId) (events : List SagaEvent) :
    (store.push sagaId events).events sagaId = store.events sagaId ++ events :=
  Function.update_self _ _ _

theorem accepts_iff_chain : store.Accepts event ↔
    ((store.events event.sagaId).getLast?.toList ++ [event]).IsChain Follows := by
  unfold Accepts
  cases (store.events event.sagaId).getLast? with
  | none => simp
  | some last => simp

theorem append_all_cons : store.appendAll (event :: rest) =
    (store.push event.sagaId [event]).appendAll rest := by
  unfold appendAll
  congr 1
  funext sagaId
  by_cases same : event.sagaId = sagaId
  · subst same
    rw [push_self, List.filter_cons_of_pos (by simp), List.append_assoc]
    rfl
  · rw [push_other (Ne.symm same), List.filter_cons_of_neg (by simpa using same)]

theorem rises_cons : store.Rises (event :: rest) ↔
    store.Accepts event ∧ (store.push event.sagaId [event]).Rises rest := by
  have own : ((store.events event.sagaId).getLast?.toList ++
      (event :: rest).filter (·.sagaId = event.sagaId)).IsChain Follows ↔
        store.Accepts event ∧ (((store.push event.sagaId [event]).events event.sagaId).getLast?.toList
          ++ rest.filter (·.sagaId = event.sagaId)).IsChain Follows := by
    rw [List.filter_cons_of_pos (by simp), List.isChain_split, ← accepts_iff_chain, push_self,
      List.getLast?_concat]
    rfl
  have others (sagaId : SagaId) (different : event.sagaId ≠ sagaId) :
      (store.events sagaId).getLast?.toList ++ (event :: rest).filter (·.sagaId = sagaId) =
        ((store.push event.sagaId [event]).events sagaId).getLast?.toList ++
          rest.filter (·.sagaId = sagaId) := by
    rw [push_other (Ne.symm different), List.filter_cons_of_neg (by simpa using different)]
  constructor
  · intro rises
    refine ⟨(own.mp (rises event.sagaId)).1, ?_⟩
    intro sagaId
    by_cases same : event.sagaId = sagaId
    · subst same
      exact (own.mp (rises event.sagaId)).2
    · rw [← others sagaId same]
      exact rises sagaId
  · intro ⟨accepts, rises⟩ sagaId
    by_cases same : event.sagaId = sagaId
    · subst same
      exact own.mpr ⟨accepts, rises event.sagaId⟩
    · rw [others sagaId same]
      exact rises sagaId

theorem append_events_accepted (accepts : store.Accepts event) :
    appendEvents overflowChecks store (event :: rest) =
      appendEvents overflowChecks (store.push event.sagaId [event]) rest := by
  rw [appendEvents, try_append_accepted accepts]

theorem append_events_refused (refused : ¬store.Accepts event) :
    appendEvents overflowChecks store (event :: rest) =
      store.tryAppend overflowChecks event := by
  rw [appendEvents]
  rcases try_append_fails overflowChecks refused with ⟨panic, ended⟩ | ⟨problem, ended⟩
  · rw [ended]
  · rw [ended]

/-- The whole list is appended exactly if its numbers rise. -/
theorem append_events_ok_iff :
    appendEvents overflowChecks store events = (.ok (.ok ()), store.appendAll events) ↔
      store.Rises events := by
  induction events generalizing store with
  | nil =>
      have fewEvents (sagaId : SagaId) :
          ((store.events sagaId).getLast?.toList).IsChain Follows := by
        cases (store.events sagaId).getLast? <;> simp
      simpa [appendEvents, appendAll, Rises] using fewEvents
  | cons event rest ih =>
      rw [rises_cons]
      by_cases accepts : store.Accepts event
      · rw [append_events_accepted accepts, append_all_cons, ih]
        exact (and_iff_right accepts).symm
      · rw [append_events_refused accepts]
        apply iff_of_false
        · intro ended
          exact (try_append_refused overflowChecks accepts).2 (congrArg Prod.fst ended)
        · intro rises
          exact accepts rises.1

/-- Nothing that is stored is lost. -/
theorem append_events_grows (overflowChecks : Bool) (store : InMemorySagaEventStore)
    (events : List SagaEvent) (sagaId : SagaId) :
    store.events sagaId <+: (appendEvents overflowChecks store events).2.events sagaId := by
  induction events generalizing store with
  | nil => exact List.prefix_refl _
  | cons event rest ih =>
      by_cases accepts : store.Accepts event
      · rw [append_events_accepted accepts]
        have pushed : store.events sagaId <+: (store.push event.sagaId [event]).events sagaId := by
          by_cases same : sagaId = event.sagaId
          · subst same
            rw [push_self]
            exact List.prefix_append _ _
          · exact ⟨[], by rw [List.append_nil, push_other same]⟩
        exact pushed.trans (ih _)
      · have same := (try_append_refused overflowChecks accepts).1
        exact ⟨[], by rw [List.append_nil, append_events_refused accepts, same]⟩

/-- Once the first event is in, the store is not what it was. -/
theorem append_events_changes (accepts : store.Accepts event) :
    (appendEvents overflowChecks store (event :: rest)).2 ≠ store := by
  intro same
  have grown := append_events_grows overflowChecks (store.push event.sagaId [event]) rest
    event.sagaId
  rw [← append_events_accepted accepts, same, push_self] at grown
  have longer := grown.length_le
  rw [List.length_append, List.length_singleton] at longer
  omega

theorem appends_whole_iff : AppendsWhole overflowChecks store events ↔
    store.Rises events ∨ FirstRefused overflowChecks store events := by
  unfold AppendsWhole
  rw [append_events_ok_iff]
  apply or_congr_right
  cases events with
  | nil => simp [appendEvents, FirstRefused]
  | cons event rest =>
      by_cases accepts : store.Accepts event
      · apply iff_of_false
        · intro ⟨error, ended⟩
          exact append_events_changes accepts (congrArg Prod.snd ended)
        · intro ⟨last, newest, late, _⟩
          exact not_accepts_iff.mpr ⟨last, newest, late⟩ accepts
      · obtain ⟨last, newest, late⟩ := not_accepts_iff.mp accepts
        rw [append_events_refused accepts, try_append_late newest late]
        constructor
        · intro ⟨error, ended⟩
          refine ⟨last, newest, late, ?_⟩
          rintro rfl
          by_contra atLimit
          rw [increment_overflows (Nat.le_of_not_lt atLimit)] at ended
          cases congrArg Prod.fst ended
        · intro ⟨other, otherNewest, _, below⟩
          obtain rfl := Option.some.inj (newest.symm.trans otherNewest)
          obtain ⟨expected, counted⟩ := increment_succeeds below
          rw [counted]
          exact ⟨_, rfl⟩

theorem refuses_cleanly_iff : store.RefusesCleanly overflowChecks event ↔
    store.BelowLimit event := by
  unfold RefusesCleanly BelowLimit
  apply forall_congr'
  intro last
  apply forall_congr'
  intro newest
  apply forall_congr'
  intro late
  rw [try_append_late newest late, ← increment_exact_iff overflowChecks]
  cases increment overflowChecks last.sequenceNumber with
  | error panic => simp [Except.map]
  | ok expected => simp [Except.map]

/-- After an event with the last number, as `completed`, `failed` and `cancelled` give it,
every event is refused and every refusal overflows. -/
theorem not_refuses_cleanly_after_last {last : SagaEvent}
    (newest : (store.events event.sagaId).getLast? = some last)
    (number : last.sequenceNumber = 2 ^ 64 - 1) (inRange : event.sequenceNumber < 2 ^ 64) :
    ¬store.Accepts event ∧ ¬store.RefusesCleanly overflowChecks event := by
  have late : event.sequenceNumber ≤ last.sequenceNumber := by omega
  refine ⟨not_accepts_iff.mpr ⟨last, newest, late⟩, ?_⟩
  intro clean
  have below := refuses_cleanly_iff.mp clean last newest late
  omega

end List

/-- A list of events is taken as a whole or not at all exactly if its numbers rise or its
first event is refused without an overflow, and a refusal names the number that was
expected exactly if that number exists. -/
theorem store_fails_cleanly_iff (overflowChecks : Bool) (store : InMemorySagaEventStore)
    (events : List SagaEvent) (event : SagaEvent) :
    (AppendsWhole overflowChecks store events ↔
        store.Rises events ∨ FirstRefused overflowChecks store events) ∧
      (RefusesCleanly overflowChecks store event ↔ store.BelowLimit event) :=
  ⟨appends_whole_iff, refuses_cleanly_iff⟩

def createdTwice : List SagaEvent :=
  let event := SagaEvent.created ⟨7⟩ .execution (.new ⟨7⟩ .execution none none 0) .null ⟨1, 0, 0⟩
  [event, event]

def completedStore : InMemorySagaEventStore :=
  InMemorySagaEventStore.push ⟨fun _ => []⟩ ⟨7⟩
    [.completed ⟨7⟩ .execution 0 (.new ⟨7⟩ .execution none none 0) ⟨1, 0, 0⟩]

def cancelledEvent : SagaEvent :=
  .cancelled ⟨7⟩ .execution 0 0 (.new ⟨7⟩ .execution none none 0) ⟨2, 1, 1⟩

/-- The first of two equal events stays when the second is refused, and the refusal of an
event after the last one of a saga overflows. -/
theorem store_fails_halfway :
    (∀ overflowChecks, ¬AppendsWhole overflowChecks ⟨fun _ => []⟩ createdTwice) ∧
      ∀ overflowChecks, ¬RefusesCleanly overflowChecks completedStore cancelledEvent := by
  constructor
  · intro overflowChecks whole
    rcases appends_whole_iff.mp whole with rises | ⟨last, newest, _⟩
    · have chain := rises ⟨7⟩
      simp [createdTwice, Follows, SagaEvent.created, SagaEvent.stamped] at chain
    · cases newest
  · intro overflowChecks
    exact (not_refuses_cleanly_after_last rfl rfl (by decide)).2

/-! ## Runs of appends -/

section Runs

/-- `append_event`, seen from outside. -/
def step (overflowChecks : Bool) (store : InMemorySagaEventStore) (event : SagaEvent) :
    InMemorySagaEventStore :=
  (store.tryAppend overflowChecks event).2

/-- The events whose calls end well, in the order of the calls. -/
def accepted (overflowChecks : Bool) : InMemorySagaEventStore → List SagaEvent → List SagaEvent
  | _, [] => []
  | store, event :: rest =>
      match store.tryAppend overflowChecks event with
      | (.ok (.ok ()), next) => event :: accepted overflowChecks next rest
      | (_, next) => accepted overflowChecks next rest

/-- In every saga the sequence numbers rise strictly. -/
def Increasing (store : InMemorySagaEventStore) : Prop :=
  ∀ sagaId, (store.events sagaId).Pairwise Follows

variable {overflowChecks : Bool} {store : InMemorySagaEventStore} {event : SagaEvent}

instance : Trans Follows Follows Follows := ⟨Nat.lt_trans⟩

theorem increasing_of_accepts (increasing : store.Increasing) (accepts : store.Accepts event) :
    (store.push event.sagaId [event]).Increasing := by
  intro sagaId
  by_cases same : sagaId = event.sagaId
  · subst same
    rw [push_self, ← List.isChain_iff_pairwise, List.isChain_append]
    refine ⟨(increasing event.sagaId).isChain, List.isChain_singleton _, ?_⟩
    intro last newest later isEvent
    obtain rfl := Option.some.inj isEvent
    exact accepts last newest
  · rw [push_other same]
    exact increasing sagaId

theorem step_increasing (event : SagaEvent) (increasing : store.Increasing) :
    (store.step overflowChecks event).Increasing := by
  unfold step
  by_cases accepts : store.Accepts event
  · rw [try_append_accepted accepts]
    exact increasing_of_accepts increasing accepts
  · rw [(try_append_refused overflowChecks accepts).1]
    exact increasing

theorem accepted_accepts {rest : List SagaEvent} (accepts : store.Accepts event) :
    accepted overflowChecks store (event :: rest) =
      event :: accepted overflowChecks (store.push event.sagaId [event]) rest := by
  rw [accepted, try_append_accepted accepts]

theorem accepted_refuses {rest : List SagaEvent} (refused : ¬store.Accepts event) :
    accepted overflowChecks store (event :: rest) = accepted overflowChecks store rest := by
  rw [accepted]
  rcases try_append_fails overflowChecks refused with ⟨panic, ended⟩ | ⟨problem, ended⟩
  · rw [ended]
  · rw [ended]

/-- A run leaves the events whose calls ended well, and no others. -/
theorem run_eq_append_all (calls : List SagaEvent) :
    calls.foldl (step overflowChecks) store = store.appendAll (accepted overflowChecks store calls) := by
  induction calls generalizing store with
  | nil => simp [accepted, appendAll]
  | cons event rest ih =>
      rw [List.foldl_cons, ih]
      by_cases accepts : store.Accepts event
      · rw [accepted_accepts accepts, append_all_cons, step, try_append_accepted accepts]
      · rw [accepted_refuses accepts, step, (try_append_refused overflowChecks accepts).1]

theorem run_increasing (calls : List SagaEvent) (increasing : store.Increasing) :
    Always (step overflowChecks) Increasing store calls :=
  always_of_preserved (step overflowChecks) Increasing
    (fun _ event => step_increasing event) calls store increasing

end Runs

/-- `InMemorySagaEventStore::new`. -/
def new : InMemorySagaEventStore := ⟨fun _ => []⟩

theorem new_increasing : new.Increasing := fun _ => List.Pairwise.nil

end InMemorySagaEventStore

/-! ## What is read back -/

namespace EventSourcedSagaState

/-- The fold over the events in the order in which they stand, from a state that the first
of them starts. -/
def foldEvents : List SagaEvent → Option EventSourcedSagaState
  | [] => none
  | first :: rest => some ((first :: rest).foldl apply (initial first))

theorem from_events_eq (events : List SagaEvent) :
    fromEvents events = foldEvents (sortBySequence events) := by
  unfold fromEvents foldEvents
  cases sortBySequence events <;> rfl

theorem sort_increasing {events : List SagaEvent}
    (increasing : events.Pairwise InMemorySagaEventStore.Follows) :
    sortBySequence events = events :=
  List.Pairwise.insertionSort_eq (increasing.imp Nat.le_of_lt)

instance : Std.Total fun left right : SagaEvent =>
    left.sequenceNumber ≤ right.sequenceNumber :=
  ⟨fun left right => Nat.le_total left.sequenceNumber right.sequenceNumber⟩

instance : IsTrans SagaEvent fun left right => left.sequenceNumber ≤ right.sequenceNumber :=
  ⟨fun _ _ _ => Nat.le_trans⟩

/-- Events with distinct sequence numbers have one order. -/
theorem sort_perm {events reordered : List SagaEvent} (perm : events.Perm reordered)
    (distinct : (events.map (·.sequenceNumber)).Nodup) :
    sortBySequence events = sortBySequence reordered := by
  have sorted : (sortBySequence events).Perm (sortBySequence reordered) :=
    (List.perm_insertionSort _ events).trans
      (perm.trans (List.perm_insertionSort _ reordered).symm)
  apply List.Perm.eq_of_pairwise _ (List.pairwise_insertionSort _ events)
    (List.pairwise_insertionSort _ reordered) sorted
  intro left right isLeft isRight below above
  have memberLeft : left ∈ events := (List.mem_insertionSort _).mp isLeft
  have memberRight : right ∈ events := perm.mem_iff.mpr ((List.mem_insertionSort _).mp isRight)
  exact List.inj_on_of_nodup_map distinct memberLeft memberRight (Nat.le_antisymm below above)

end EventSourcedSagaState

namespace InMemorySagaEventStore

/-- In every run of appends on a new store the numbers of each saga rise; events with
distinct numbers give one state in any order; and what is read back of a saga is the fold of
the events whose appends went well, in the order of the appends. -/
theorem read_back_in_append_order (overflowChecks : Bool) (calls events reordered : List SagaEvent)
    (perm : events.Perm reordered) (distinct : (events.map (·.sequenceNumber)).Nodup) :
    Always (step overflowChecks) Increasing new calls ∧
      EventSourcedSagaState.fromEvents events = EventSourcedSagaState.fromEvents reordered ∧
        ∀ sagaId, EventSourcingLayer.reconstructState
            ⟨some (calls.foldl (step overflowChecks) new)⟩ sagaId =
          EventSourcedSagaState.foldEvents
            ((accepted overflowChecks new calls).filter (·.sagaId = sagaId)) := by
  have run : Always (step overflowChecks) Increasing new calls :=
    run_increasing calls new_increasing
  refine ⟨run, ?_, ?_⟩
  · rw [EventSourcedSagaState.from_events_eq, EventSourcedSagaState.from_events_eq,
      EventSourcedSagaState.sort_perm perm distinct]
  · intro sagaId
    have final := always_final (step overflowChecks) calls new run
    have left : (calls.foldl (step overflowChecks) new).events sagaId =
        (accepted overflowChecks new calls).filter (·.sagaId = sagaId) := by
      rw [run_eq_append_all]
      rfl
    have sorted := EventSourcedSagaState.sort_increasing (final sagaId)
    rw [left] at sorted
    change EventSourcedSagaState.fromEvents
      ((calls.foldl (step overflowChecks) new).events sagaId) = _
    rw [EventSourcedSagaState.from_events_eq, left, sorted]

def cancelledHistory : List SagaEvent :=
  [.created ⟨7⟩ .execution (.new ⟨7⟩ .execution none none 0) .null ⟨1, 0, 0⟩, cancelledEvent]

theorem cancelled_history_read_back :
    Always (step true) Increasing new cancelledHistory ∧
      EventSourcedSagaState.fromEvents cancelledHistory =
          EventSourcedSagaState.fromEvents cancelledHistory.reverse ∧
        ∀ sagaId, EventSourcingLayer.reconstructState
            ⟨some (cancelledHistory.foldl (step true) new)⟩ sagaId =
          EventSourcedSagaState.foldEvents
            ((accepted true new cancelledHistory).filter (·.sagaId = sagaId)) :=
  read_back_in_append_order true cancelledHistory cancelledHistory cancelledHistory.reverse
    (List.reverse_perm _).symm (by decide)

end InMemorySagaEventStore

end HodeiJobs.Sagas.EventSourcing
