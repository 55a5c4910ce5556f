import HodeiJobs.Interface.LogStream
import HodeiJobs.Library.Runs

/-!
# Subscribing to the log of a job

What has been sent under a number, what is under way without one and what is still to be
notified are, in this order, what the client is owed.
-/

namespace HodeiJobs.Interface.LogStream

open HodeiJobs.Library

/-! ## Delivery -/

/-- The message that carries the number that `append_log` has assigned. -/
def proper (entry : BufferedLogEntry) : Delivery := ⟨entry, entry.message entry.sequence⟩

@[simp]
def Appending.waiting : Appending → List BufferedLogEntry
  | .buffered entry => [entry]
  | _ => []

@[simp]
def Forwarding.unnumbered : Forwarding → List BufferedLogEntry
  | .received entry => [entry]
  | _ => []

@[simp]
def Forwarding.unsent : Forwarding → List Delivery
  | .numbered entry sequence => [⟨entry, entry.message sequence⟩]
  | _ => []

namespace Stream

variable (stream : Stream)

/-- The client has read what it is owed, each entry once, in the order of the numbers and with
its own, up to some entry; and up to the last one if nothing goes on. -/
structure Delivers : Prop where
  ordered : stream.owed.Pairwise fun first second => first.sequence < second.sequence
  once : stream.read <+: stream.owed.map proper
  complete : stream.Quiet → stream.read = stream.owed.map proper

/-- The move is not one at which an entry is lost, sent twice or given another number:
the buffer is empty when the call is made and fits into the channel when it is replayed; an
entry that is replayed has been notified before the subscriber is registered, and no other
one has; the task looks the number up before the next entry is numbered; and no entry waits
for its notification when the subscribers are closed. -/
def Timely : Move → Prop
  | .subscribe _ => stream.call = .notMade → stream.logs = []
  | .close => stream.subscribed = true → stream.appending.waiting = []
  | .work .call => (stream.call = .subscribing → stream.logs.length ≤ 100) ∧
      (stream.call = .registering →
        ∀ entry ∈ stream.appending.waiting, entry ∉ stream.entries.items)
  | .work .notify => stream.call = .registering →
      ∀ entry ∈ stream.appending.waiting, entry ∈ stream.entries.items
  | .work .number =>
      ∀ entry ∈ stream.forwarding.unnumbered, entry.sequence = stream.sequence
  | _ => True

instance (move : Move) : Decidable (stream.Timely move) :=
  match move with
  | .subscribe _ => inferInstanceAs (Decidable (_ → _))
  | .close => inferInstanceAs (Decidable (_ → _))
  | .work .call => inferInstanceAs (Decidable (_ ∧ _))
  | .work .notify => inferInstanceAs (Decidable (_ → _))
  | .work .number => inferInstanceAs (Decidable (∀ _ ∈ _, _))
  | .append _ | .work .push | .work .receive | .work .forward | .work .read =>
      inferInstanceAs (Decidable True)

end Stream

/-! ## What is on its way -/

namespace Stream

variable (stream : Stream)

def sent : List Delivery := stream.read ++ stream.output.items ++ stream.forwarding.unsent

/-- The entries for which the task has still to look up a number. -/
def underWay : List BufferedLogEntry := stream.forwarding.unnumbered ++ stream.entries.items

def toNotify : List BufferedLogEntry :=
  if stream.subscribed then stream.appending.waiting else []

/-- The entry that `append_log` has pushed since the buffer was replayed. -/
def late : List BufferedLogEntry :=
  stream.appending.waiting.filter (· ∉ stream.entries.items)

/-- The call has not returned. -/
@[mk_iff]
structure Unread : Prop where
  sent : stream.sent = []
  forwarding : stream.forwarding = .waiting
  subscribed : stream.subscribed = false
  closed : stream.closed = false

/-- Nothing is replayed yet: what is owed is in the buffer, unless this is full. -/
@[mk_iff]
structure Before : Prop extends stream.Unread where
  entries : stream.entries.items = []
  logs : stream.logs = stream.owed ∨ logBufferSize ≤ stream.logs.length
  waiting : stream.appending.waiting ⊆ stream.owed

def Phase : Prop :=
  match stream.call with
  | .notMade => stream.Unread ∧ stream.entries.items = [] ∧ stream.owed = []
  | .sendingHistory rest => rest = [] ∧ stream.Before
  | .subscribing => stream.Before
  | .replaying rest => stream.Unread ∧ stream.entries.items ++ rest = stream.owed ∧
      stream.owed.length ≤ 100 ∧ stream.appending.waiting ⊆ stream.owed
  | .registering => stream.Unread ∧ stream.entries.items ++ stream.late = stream.owed
  | .returned => stream.closed = !stream.subscribed ∧
      stream.sent ++ (stream.underWay ++ stream.toNotify).map proper = stream.owed.map proper

structure Numbers : Prop where
  ordered : stream.owed.Pairwise fun first second => first.sequence < second.sequence
  assigned : ∀ entry ∈ stream.owed, entry.sequence ≤ stream.sequence
  next : ∀ entry, stream.appending = .numbered entry →
    entry.sequence = stream.sequence ∧ ∀ other ∈ stream.owed, other.sequence < entry.sequence

structure Inv : Prop where
  numbers : stream.Numbers
  logged : stream.appending.waiting ⊆ stream.logs
  phase : stream.Phase

theorem initial_inv : Stream.initial.Inv where
  numbers :=
    { ordered := List.Pairwise.nil
      assigned := by simp [initial]
      next := by simp [initial] }
  logged := by simp [initial, Appending.waiting]
  phase := ⟨⟨rfl, rfl, rfl, rfl⟩, rfl, rfl⟩

/-! ## Steps -/

variable {stream} {after : Stream}

theorem phase_set_appending {sequence : Nat} {appending : Appending}
    (same : appending.waiting = stream.appending.waiting) (phase : stream.Phase) :
    ({ stream with sequence, appending } : Stream).Phase := by
  obtain ⟨_, logs, current, call, subscribed, closed, entries, forwarding, output, read, owed⟩ :=
    stream
  cases call <;>
    simpa only [Phase, unread_iff, before_iff, sent, underWay, toNotify, late, same] using phase

theorem append_inv {entry : LogEntry} (inv : stream.Inv)
    (moved : stream.append entry = some after) : after.Inv := by
  unfold append at moved
  cases idle : stream.appending with
  | numbered | buffered => simp [idle] at moved
  | idle =>
      simp only [idle, Option.some.injEq] at moved
      subst moved
      constructor
      · constructor
        · exact inv.numbers.ordered
        · intro other isOwed
          exact Nat.le_succ_of_le (inv.numbers.assigned other isOwed)
        · intro numbered same
          cases same
          exact ⟨rfl, fun other isOwed => Nat.lt_succ_of_le (inv.numbers.assigned other isOwed)⟩
      · simp [Appending.waiting]
      · exact phase_set_appending (by rw [idle]; rfl) inv.phase

theorem mem_push_log (buffer : List BufferedLogEntry) (entry : BufferedLogEntry) :
    entry ∈ pushLog buffer entry := by
  simp [pushLog]

theorem push_log_of_short {buffer : List BufferedLogEntry} (entry : BufferedLogEntry)
    (short : buffer.length < logBufferSize) : pushLog buffer entry = buffer ++ [entry] := by
  rw [pushLog, if_neg (by omega)]

theorem length_push_log_of_full {buffer : List BufferedLogEntry} (entry : BufferedLogEntry)
    (full : logBufferSize ≤ buffer.length) :
    logBufferSize ≤ (pushLog buffer entry).length := by
  rw [pushLog, if_pos full, List.length_append, List.length_tail, List.length_singleton]
  omega

/-- Before the replay an entry is appended to the buffer and to what is owed. -/
theorem before_push {entry : BufferedLogEntry} {call : Call} (before : stream.Before) :
    ({ stream with
      logs := pushLog stream.logs entry, appending := .buffered entry, call,
      owed := stream.owed ++ [entry] } : Stream).Before := by
  refine ⟨⟨before.sent, before.forwarding, before.subscribed, before.closed⟩, before.entries,
    ?_, ?_⟩
  · by_cases full : logBufferSize ≤ stream.logs.length
    · exact .inr (length_push_log_of_full entry full)
    · rw [push_log_of_short entry (by omega)]
      rcases before.logs with same | full'
      · exact .inl (by rw [same])
      · exact absurd full' full
  · simp [Appending.waiting]

theorem numbers_push {entry : BufferedLogEntry} (numbers : stream.Numbers)
    (numbered : stream.appending = .numbered entry) :
    ({ stream with
      logs := pushLog stream.logs entry, appending := .buffered entry,
      owed := stream.owes entry } : Stream).Numbers := by
  obtain ⟨isLast, later⟩ := numbers.next entry numbered
  have appended : (stream.owed ++ [entry]).Pairwise
      fun first second => first.sequence < second.sequence := by
    rw [List.pairwise_append]
    exact ⟨numbers.ordered, List.pairwise_singleton _ _, by simpa using later⟩
  have assigned : ∀ other ∈ stream.owed ++ [entry], other.sequence ≤ stream.sequence := by
    intro other member
    rcases List.mem_append.mp member with old | new
    · exact numbers.assigned other old
    · exact Nat.le_of_eq (List.mem_singleton.mp new ▸ isLast)
  constructor
  · unfold owes
    split
    · exact numbers.ordered
    · split
      · exact numbers.ordered
      · exact appended
  · intro other
    simp only [owes]
    split
    · exact numbers.assigned other
    · split
      · exact numbers.assigned other
      · exact assigned other
  · intro other same
    cases same

theorem push_inv (inv : stream.Inv) (moved : stream.push = some after) : after.Inv := by
  cases numbered : stream.appending with
  | idle | buffered => simp [push, numbered] at moved
  | numbered entry =>
      have unblocked : (∀ rest, stream.call ≠ .replaying rest) ∧ after = { stream with
          logs := pushLog stream.logs entry, appending := .buffered entry,
          owed := stream.owes entry } := by
        unfold push at moved
        cases call : stream.call <;> simp_all
      obtain ⟨notReplaying, rfl⟩ := unblocked
      have phase := inv.phase
      refine ⟨numbers_push inv.numbers numbered, ?_, ?_⟩
      · simpa [Appending.waiting] using mem_push_log stream.logs entry
      · cases call : stream.call with
        | notMade =>
            simp only [Phase, call, owes] at phase ⊢
            exact ⟨⟨phase.1.1, phase.1.2, phase.1.3, phase.1.4⟩, phase.2⟩
        | sendingHistory rest =>
            simp only [Phase, call, owes] at phase ⊢
            refine ⟨phase.1, ?_⟩
            simpa [phase.2.closed] using before_push phase.2
        | subscribing =>
            simp only [Phase, call, owes] at phase ⊢
            simpa [phase.closed] using before_push phase
        | replaying rest => exact absurd call (notReplaying rest)
        | registering =>
            simp only [Phase, call, owes, late, numbered] at phase ⊢
            obtain ⟨unread, same⟩ := phase
            have unreplayed : entry ∉ stream.entries.items := by
              intro replayed
              have isOwed : entry ∈ stream.owed := same ▸ List.mem_append_left _ replayed
              exact absurd ((inv.numbers.next entry numbered).2 entry isOwed) (Nat.lt_irrefl _)
            refine ⟨⟨unread.sent, unread.forwarding, unread.subscribed, unread.closed⟩, ?_⟩
            rw [unread.closed]
            simpa [Appending.waiting, unreplayed] using same
        | returned =>
            simp only [Phase, call, owes, toNotify, numbered] at phase ⊢
            obtain ⟨closed, same⟩ := phase
            refine ⟨closed, ?_⟩
            cases subscribed : stream.subscribed with
            | false => simpa [closed, subscribed, sent, underWay] using same
            | true =>
                simp only [closed, subscribed, Bool.not_true, Bool.false_eq_true, if_false, if_true,
                  Appending.waiting, List.append_nil] at same ⊢
                simp only [List.map_append, ← same, List.append_assoc]
                rfl

theorem notify_cases (moved : stream.notify = some after) :
    ∃ entry, stream.appending = .buffered entry ∧
      (stream.subscribed = false ∧ after = { stream with appending := .idle } ∨
        stream.subscribed = true ∧ ∃ entries : Channel BufferedLogEntry 100,
          entries.items = stream.entries.items ++ [entry] ∧
          after = { stream with entries, appending := .idle }) := by
  cases buffered : stream.appending with
  | idle | numbered => simp [notify, buffered] at moved
  | buffered entry =>
      refine ⟨entry, rfl, ?_⟩
      cases subscribed : stream.subscribed with
      | false =>
          left
          simpa [notify, buffered, subscribed, eq_comm] using moved
      | true =>
          right
          simp only [notify, buffered, subscribed, if_true, Option.map_eq_some_iff] at moved
          obtain ⟨entries, sent, same⟩ := moved
          refine ⟨rfl, entries, Channel.items_of_send sent, ?_⟩
          rw [← same]

theorem subscribed_of_phase (phase : stream.Phase) (subscribed : stream.subscribed = true) :
    stream.call = .returned := by
  cases call : stream.call <;> simp_all [Phase, before_iff, unread_iff]

/-- A notification that reaches nobody is one of an entry that the replay contains. -/
theorem phase_unheard {entry : BufferedLogEntry} (buffered : stream.appending = .buffered entry)
    (unsubscribed : stream.subscribed = false) (timely : stream.Timely (.work .notify))
    (phase : stream.Phase) : ({ stream with appending := .idle } : Stream).Phase := by
  obtain ⟨_, logs, current, call, subscribed, closed, entries, forwarding, output, read, owed⟩ :=
    stream
  cases call <;>
    simp_all [Phase, unread_iff, before_iff, Stream.sent, underWay, toNotify, late, Timely]

theorem notify_inv (inv : stream.Inv) (timely : stream.Timely (.work .notify))
    (moved : stream.notify = some after) : after.Inv := by
  obtain ⟨entry, buffered, ⟨unsubscribed, rfl⟩ | ⟨subscribed, entries, sent, rfl⟩⟩ :=
    notify_cases moved
  · exact ⟨⟨inv.numbers.ordered, inv.numbers.assigned, by simp⟩, by simp,
      phase_unheard buffered unsubscribed timely inv.phase⟩
  · refine ⟨⟨inv.numbers.ordered, inv.numbers.assigned, by simp⟩, by simp, ?_⟩
    have returned := subscribed_of_phase inv.phase subscribed
    have phase := inv.phase
    simp only [Phase, returned] at phase ⊢
    refine ⟨phase.1, ?_⟩
    rw [← phase.2]
    simp [Stream.sent, underWay, toNotify, subscribed, buffered, sent]

theorem subscribe_inv {request : SubscribeLogsRequest} (inv : stream.Inv)
    (timely : stream.Timely (.subscribe request))
    (moved : stream.subscribe request = some after) : after.Inv := by
  unfold subscribe at moved
  cases call : stream.call <;> simp only [call, reduceCtorEq, Option.some.injEq] at moved
  subst moved
  have phase := inv.phase
  simp only [Phase, call] at phase
  obtain ⟨unread, entries, -⟩ := phase
  have empty : stream.logs = [] := timely call
  have waiting : stream.appending.waiting ⊆ [] := empty ▸ inv.logged
  refine ⟨⟨by simp [empty], by simp [empty], ?_⟩, inv.logged, ?_⟩
  · intro entry numbered
    exact ⟨(inv.numbers.next entry numbered).1, by simp [empty]⟩
  · refine ⟨?_, ⟨⟨unread.sent, unread.forwarding, unread.subscribed, unread.closed⟩, entries,
      .inl rfl, by simpa [empty] using waiting⟩⟩
    simp [SubscribeLogsRequest.history, getLogsWithSequence, empty]

theorem numbers_of_same (numbers : stream.Numbers) (sequence : after.sequence = stream.sequence)
    (appending : after.appending = stream.appending) (owed : after.owed = stream.owed) :
    after.Numbers := by
  constructor
  · rw [owed]
    exact numbers.ordered
  · rw [owed, sequence]
    exact numbers.assigned
  · rw [owed, sequence, appending]
    exact numbers.next

/-- A buffer that fits into the channel has never been full. -/
theorem phase_replay (before : stream.Before) (short : stream.logs.length ≤ 100) :
    ({ stream with call := .replaying stream.logs } : Stream).Phase := by
  have same : stream.logs = stream.owed := by
    rcases before.logs with same | full
    · exact same
    · unfold logBufferSize at full
      omega
  refine ⟨⟨before.sent, before.forwarding, before.subscribed, before.closed⟩, ?_, ?_,
    before.waiting⟩
  · rw [before.entries, List.nil_append, same]
  · exact same ▸ short

theorem phase_replayed {replayed : BufferedLogEntry} {rest : List BufferedLogEntry}
    {entries : Channel BufferedLogEntry 100}
    (sent : entries.items = stream.entries.items ++ [replayed])
    (call : stream.call = .replaying (replayed :: rest)) (phase : stream.Phase) :
    ({ stream with entries, call := .replaying rest } : Stream).Phase := by
  simp only [Phase, call] at phase
  obtain ⟨unread, same, short, waiting⟩ := phase
  refine ⟨⟨unread.sent, unread.forwarding, unread.subscribed, unread.closed⟩, ?_, short, waiting⟩
  rw [sent, List.append_assoc, List.singleton_append, same]

/-- When the replay ends, an entry that waits for its notification is in it. -/
theorem phase_replay_ended (call : stream.call = .replaying []) (phase : stream.Phase) :
    ({ stream with call := .registering } : Stream).Phase := by
  simp only [Phase, call, List.append_nil] at phase
  obtain ⟨unread, same, -, waiting⟩ := phase
  refine ⟨⟨unread.sent, unread.forwarding, unread.subscribed, unread.closed⟩, ?_⟩
  have none : stream.late = [] := by
    simp only [late, List.filter_eq_nil_iff, decide_eq_true_eq, not_not, same]
    exact fun entry member => waiting member
  change stream.entries.items ++ stream.late = stream.owed
  rw [none, List.append_nil, same]

/-- When the subscriber is registered, an entry that waits for its notification is late. -/
theorem phase_registered (timely : stream.Timely (.work .call))
    (call : stream.call = .registering) (phase : stream.Phase) :
    ({ stream with call := .returned, subscribed := true } : Stream).Phase := by
  simp only [Phase, call] at phase
  obtain ⟨unread, same⟩ := phase
  have all : stream.late = stream.appending.waiting := by
    rw [late, List.filter_eq_self]
    intro entry waiting
    exact decide_eq_true (timely.2 call entry waiting)
  refine ⟨by simp [unread.closed], ?_⟩
  have sent := unread.sent
  simp only [Stream.sent] at sent ⊢
  rw [← same, all, sent]
  simp [underWay, toNotify, unread.forwarding]

theorem call_inv (inv : stream.Inv) (timely : stream.Timely (.work .call))
    (moved : stream.callStep = some after) : after.Inv := by
  have phase := inv.phase
  unfold callStep at moved
  cases call : stream.call with
  | notMade | returned => simp [call] at moved
  | sendingHistory rest =>
      simp only [Phase, call] at phase
      obtain ⟨none, before⟩ := phase
      simp only [call, none, Option.some.injEq] at moved
      subst moved
      exact ⟨numbers_of_same inv.numbers rfl rfl rfl, inv.logged,
        ⟨before.sent, before.forwarding, before.subscribed, before.closed⟩, before.entries,
        before.logs, before.waiting⟩
  | subscribing =>
      simp only [Phase, call] at phase
      have short := timely.1 call
      simp only [call, Option.some.injEq] at moved
      subst moved
      exact ⟨numbers_of_same inv.numbers rfl rfl rfl, inv.logged, phase_replay phase short⟩
  | replaying rest =>
      cases rest with
      | nil =>
          simp only [call, Option.some.injEq] at moved
          subst moved
          exact ⟨numbers_of_same inv.numbers rfl rfl rfl, inv.logged,
            phase_replay_ended call phase⟩
      | cons replayed rest =>
          simp only [call, Option.map_eq_some_iff] at moved
          obtain ⟨entries, sent, rfl⟩ := moved
          exact ⟨numbers_of_same inv.numbers rfl rfl rfl, inv.logged,
            phase_replayed (Channel.items_of_send sent) call phase⟩
  | registering =>
      simp only [call, Option.some.injEq] at moved
      subst moved
      exact ⟨numbers_of_same inv.numbers rfl rfl rfl, inv.logged,
        phase_registered timely call phase⟩

theorem returned_of_phase (phase : stream.Phase) (busy : stream.forwarding ≠ .waiting) :
    stream.call = .returned := by
  cases call : stream.call <;> simp_all [Phase, before_iff, unread_iff]

/-- A step of the task or of the client, which keeps what is sent and under way. -/
theorem inv_of_forwarded (inv : stream.Inv) (returned : stream.call = .returned)
    {entries : Channel BufferedLogEntry 100} {forwarding : Forwarding}
    {output : Channel Delivery 100} {read : List Delivery}
    (same : read ++ output.items ++ forwarding.unsent ++
      (forwarding.unnumbered ++ entries.items).map proper =
        stream.sent ++ stream.underWay.map proper) :
    ({ stream with entries, forwarding, output, read } : Stream).Inv := by
  refine ⟨numbers_of_same inv.numbers rfl rfl rfl, inv.logged, ?_⟩
  have phase := inv.phase
  simp only [Phase, returned] at phase ⊢
  refine ⟨phase.1, ?_⟩
  rw [List.map_append, ← List.append_assoc, ← same, List.append_assoc, ← List.map_append] at phase
  exact phase.2

theorem receive_inv (inv : stream.Inv) (moved : stream.receive = some after) : after.Inv := by
  unfold receive at moved
  cases returned : stream.call <;> cases waiting : stream.forwarding <;>
    simp only [returned, waiting, reduceCtorEq, Option.map_eq_some_iff] at moved
  obtain ⟨⟨entry, entries⟩, received, rfl⟩ := moved
  rw [← returned]
  apply inv_of_forwarded inv returned
  rw [sent, underWay, waiting, Channel.items_of_receive received]
  simp

theorem number_inv (inv : stream.Inv) (timely : stream.Timely (.work .number))
    (moved : stream.number = some after) : after.Inv := by
  unfold number at moved
  cases received : stream.forwarding <;>
    simp only [received, reduceCtorEq, Option.some.injEq] at moved
  rename_i entry
  subst moved
  have isLast : entry.sequence = stream.sequence := timely entry (by simp [received])
  apply inv_of_forwarded inv (returned_of_phase inv.phase (by simp [received]))
  rw [sent, underWay, received]
  simp [proper, isLast]

theorem forward_inv (inv : stream.Inv) (moved : stream.forward = some after) : after.Inv := by
  unfold forward at moved
  cases numbered : stream.forwarding <;>
    simp only [numbered, reduceCtorEq, Option.map_eq_some_iff] at moved
  obtain ⟨output, forwarded, rfl⟩ := moved
  apply inv_of_forwarded inv (returned_of_phase inv.phase (by simp [numbered]))
  rw [sent, underWay, numbered, Channel.items_of_send forwarded]
  simp

theorem read_inv (inv : stream.Inv) (moved : stream.readNext = some after) : after.Inv := by
  unfold readNext at moved
  cases returned : stream.call <;>
    simp only [returned, reduceCtorEq, Option.map_eq_some_iff] at moved
  obtain ⟨⟨delivery, output⟩, received, rfl⟩ := moved
  rw [← returned]
  apply inv_of_forwarded inv returned
  rw [sent, underWay, Channel.items_of_receive received]
  simp

theorem close_inv (inv : stream.Inv) (timely : stream.Timely .close) : stream.close.Inv := by
  refine ⟨numbers_of_same inv.numbers rfl rfl rfl, inv.logged, ?_⟩
  have phase := inv.phase
  have notified : stream.subscribed = true → stream.appending.waiting = [] := timely
  obtain ⟨_, logs, current, call, subscribed, closed, entries, forwarding, output, read, owed⟩ :=
    stream
  cases call <;> cases subscribed <;>
    simp_all [close, Phase, unread_iff, before_iff, Stream.sent, underWay, toNotify, late]

theorem step_inv {move : Move} (inv : stream.Inv) (timely : stream.Timely move) :
    (stream.step move).Inv := by
  unfold step
  cases moved : stream.perform move with
  | none => exact inv
  | some after =>
      cases move with
      | append entry => exact append_inv inv moved
      | subscribe request => exact subscribe_inv inv timely moved
      | close =>
          cases moved
          exact close_inv inv timely
      | work task =>
          cases task with
          | push => exact push_inv inv moved
          | notify => exact notify_inv inv timely moved
          | call => exact call_inv inv timely moved
          | receive => exact receive_inv inv moved
          | number => exact number_inv inv timely moved
          | forward => exact forward_inv inv moved
          | read => exact read_inv inv moved

/-! ## What the client has read -/

theorem read_prefix (inv : stream.Inv) : stream.read <+: stream.owed.map proper := by
  have phase := inv.phase
  cases call : stream.call <;>
    simp only [Phase, call, before_iff, unread_iff, Stream.sent, List.append_eq_nil_iff] at phase
  case returned =>
    rw [← phase.2, List.append_assoc, List.append_assoc]
    exact List.prefix_append _ _
  all_goals simp [phase]

/-- A call that is under way can go on: no channel is full before there is a reader. -/
theorem call_step_ne_none (inv : stream.Inv) (made : stream.call ≠ .notMade)
    (running : stream.call ≠ .returned) : stream.callStep ≠ none := by
  have phase := inv.phase
  cases call : stream.call with
  | notMade => exact absurd call made
  | returned => exact absurd call running
  | subscribing | registering => simp [callStep, call]
  | sendingHistory rest =>
      simp only [Phase, call] at phase
      simp [callStep, call, phase.1]
  | replaying rest =>
      cases rest with
      | nil => simp [callStep, call]
      | cons replayed rest =>
          simp only [Phase, call] at phase
          obtain ⟨-, same, short, -⟩ := phase
          rw [← same, List.length_append, List.length_cons] at short
          simp only [callStep, call, ne_eq, Option.map_eq_none_iff, Channel.send_eq_none_iff]
          omega

/-- After the call has returned, what is under way goes on until nothing is. -/
theorem drained_of_quiet (returned : stream.call = .returned) (quiet : stream.Quiet) :
    stream.output.items = [] ∧ stream.forwarding = .waiting ∧ stream.entries.items = [] ∧
      stream.toNotify = [] := by
  have output : stream.output.items = [] := by
    have stuck : stream.readNext = none := quiet .read
    simpa [readNext, returned, Channel.receive_eq_none_iff] using stuck
  have forwarding : stream.forwarding = .waiting := by
    have unsent : stream.forward = none := quiet .forward
    have unnumbered : stream.number = none := quiet .number
    cases busy : stream.forwarding with
    | waiting => rfl
    | received entry => simp [number, busy] at unnumbered
    | numbered entry sequence =>
        simp [forward, busy, Channel.send_eq_none_iff, output] at unsent
  have entries : stream.entries.items = [] := by
    have stuck : stream.receive = none := quiet .receive
    simpa [receive, returned, forwarding, Channel.receive_eq_none_iff] using stuck
  refine ⟨output, forwarding, entries, ?_⟩
  have stuck : stream.notify = none := quiet .notify
  unfold toNotify
  split
  · rename_i subscribed
    cases waiting : stream.appending with
    | idle | numbered => rfl
    | buffered entry =>
        simp [notify, waiting, subscribed, Channel.send_eq_none_iff, entries] at stuck
  · rfl

theorem read_all (inv : stream.Inv) (quiet : stream.Quiet) :
    stream.read = stream.owed.map proper := by
  by_cases made : stream.call = .notMade
  · have phase := inv.phase
    simp only [Phase, made, unread_iff, Stream.sent, List.append_eq_nil_iff] at phase
    simp [phase]
  · by_cases returned : stream.call = .returned
    · obtain ⟨output, forwarding, entries, notified⟩ := drained_of_quiet returned quiet
      have phase := inv.phase
      simp only [Phase, returned] at phase
      rw [← phase.2, notified]
      simp [Stream.sent, underWay, output, forwarding, entries]
    · exact absurd (quiet .call) (call_step_ne_none inv made returned)

theorem delivers_of_inv (inv : stream.Inv) : stream.Delivers :=
  ⟨inv.numbers.ordered, read_prefix inv, read_all inv⟩

end Stream

/-! ## The steps that are left -/

def Appending.remaining : Appending → Nat
  | .idle => 0
  | .numbered _ => 11
  | .buffered _ => 5

def Call.remaining (logs : List BufferedLogEntry) : Call → Nat
  | .sendingHistory rest => 2 * rest.length + 5 * logs.length + 4
  | .subscribing => 5 * logs.length + 3
  | .replaying rest => 5 * rest.length + 2
  | .registering => 1
  | .notMade | .returned => 0

def Forwarding.remaining : Forwarding → Nat
  | .waiting => 0
  | .received _ => 3
  | .numbered _ _ => 2

namespace Stream

variable {stream after : Stream}

/-- An entry that is numbered may be replayed and notified, and is then passed on. -/
def remaining (stream : Stream) : Nat :=
  stream.appending.remaining + stream.call.remaining stream.logs +
    4 * stream.entries.items.length + stream.forwarding.remaining + stream.output.items.length

theorem length_push_log_le (buffer : List BufferedLogEntry) (entry : BufferedLogEntry) :
    (pushLog buffer entry).length ≤ buffer.length + 1 := by
  unfold pushLog
  split <;> simp

theorem remaining_push (moved : stream.push = some after) :
    after.remaining < stream.remaining := by
  unfold push at moved
  cases numbered : stream.appending <;> cases call : stream.call <;>
    simp only [numbered, call, reduceCtorEq, Option.some.injEq] at moved
  all_goals
    subst moved
    simp only [remaining, numbered, call, Appending.remaining, Call.remaining]
    have := length_push_log_le stream.logs ‹_›
    omega

theorem remaining_notify (moved : stream.notify = some after) :
    after.remaining < stream.remaining := by
  obtain ⟨entry, buffered, ⟨-, rfl⟩ | ⟨-, entries, sent, rfl⟩⟩ := notify_cases moved
  · simp [remaining, buffered, Appending.remaining]
  · simp only [remaining, buffered, Appending.remaining, sent, List.length_append,
      List.length_singleton]
    omega

theorem remaining_call (moved : stream.callStep = some after) :
    after.remaining < stream.remaining := by
  unfold callStep at moved
  split at moved <;>
    simp only [reduceCtorEq, Option.some.injEq, Option.map_eq_some_iff] at moved
  case h_1 entry rest call =>
    obtain ⟨output, sent, rfl⟩ := moved
    simp [remaining, call, Call.remaining, Channel.items_of_send sent]
    omega
  case h_4 entry rest call =>
    obtain ⟨entries, sent, rfl⟩ := moved
    simp [remaining, call, Call.remaining, Channel.items_of_send sent]
    omega
  all_goals
    subst moved
    simp [remaining, *, Call.remaining]

theorem remaining_receive (moved : stream.receive = some after) :
    after.remaining < stream.remaining := by
  unfold receive at moved
  split at moved
  · rename_i waiting
    obtain ⟨⟨entry, entries⟩, received, rfl⟩ := Option.map_eq_some_iff.mp moved
    simp [remaining, waiting, Forwarding.remaining, Channel.items_of_receive received]
    omega
  · cases moved

theorem remaining_number (moved : stream.number = some after) :
    after.remaining < stream.remaining := by
  unfold number at moved
  split at moved
  · rename_i received
    cases moved
    simp [remaining, received, Forwarding.remaining]
  · cases moved

theorem remaining_forward (moved : stream.forward = some after) :
    after.remaining < stream.remaining := by
  unfold forward at moved
  split at moved
  · rename_i numbered
    obtain ⟨output, forwarded, rfl⟩ := Option.map_eq_some_iff.mp moved
    simp [remaining, numbered, Forwarding.remaining, Channel.items_of_send forwarded]
    omega
  · cases moved

theorem remaining_read (moved : stream.readNext = some after) :
    after.remaining < stream.remaining := by
  unfold readNext at moved
  split at moved
  · obtain ⟨⟨delivery, output⟩, received, rfl⟩ := Option.map_eq_some_iff.mp moved
    simp [remaining, Channel.items_of_receive received]
  · cases moved

theorem remaining_work {task : Task} (moved : stream.perform (.work task) = some after) :
    after.remaining < stream.remaining := by
  cases task with
  | push => exact remaining_push moved
  | notify => exact remaining_notify moved
  | call => exact remaining_call moved
  | receive => exact remaining_receive moved
  | number => exact remaining_number moved
  | forward => exact remaining_forward moved
  | read => exact remaining_read moved

/-- Without new calls the stream is quiet after so many steps, whichever they are. -/
theorem length_le_remaining (tasks : List Task)
    (moved : tasks.foldlM (fun state task => state.perform (.work task)) stream = some after) :
    tasks.length ≤ stream.remaining := by
  induction tasks generalizing stream with
  | nil => exact Nat.zero_le _
  | cons task rest ih =>
      obtain ⟨next, first, later⟩ := Option.bind_eq_some_iff.mp moved
      have less := remaining_work first
      have bound := ih later
      rw [List.length_cons]
      omega

theorem becomes_quiet (stream : Stream) : ∃ (tasks : List Task) (after : Stream),
    tasks.foldlM (fun state task => state.perform (.work task)) stream = some after ∧
      after.Quiet := by
  induction left : stream.remaining using Nat.strongRecOn generalizing stream with
  | _ left ih =>
      by_cases quiet : stream.Quiet
      · exact ⟨[], stream, rfl, quiet⟩
      · obtain ⟨task, goes⟩ := not_forall.mp quiet
        obtain ⟨next, moved⟩ := Option.ne_none_iff_exists'.mp goes
        obtain ⟨tasks, after, later, ended⟩ :=
          ih next.remaining (left ▸ remaining_work moved) next rfl
        exact ⟨task :: tasks, after, by simp [moved, later], ended⟩

theorem every_order_ends_quiet (stream : Stream) :
    (∀ (tasks : List Task) (after : Stream),
      tasks.foldlM (fun state task => state.perform (.work task)) stream = some after →
        tasks.length ≤ stream.remaining) ∧
      ∃ (tasks : List Task) (after : Stream),
        tasks.foldlM (fun state task => state.perform (.work task)) stream = some after ∧
          after.Quiet :=
  ⟨fun tasks _ moved => length_le_remaining tasks moved, stream.becomes_quiet⟩

end Stream

/-- In a run of timely moves the client is sent all that it is owed: every entry once, in the
order of the numbers, and each with its own. -/
theorem timely_runs_deliver (moves : List Move)
    (timely : EachMove Stream.step Stream.Timely .initial moves) :
    Always Stream.step Stream.Delivers .initial moves := by
  have kept := always_within Stream.step Stream.Inv (fun _ _ => Stream.step_inv)
    (fun _ _ _ _ => trivial) moves .initial Stream.initial_inv timely
  exact always_imp Stream.step (fun _ => Stream.delivers_of_inv) moves .initial kept.1

/-! ## A line before the call, and one after it -/

def hello : LogEntry := ⟨"job-1", "hello", false, none⟩

def wholeHistory : SubscribeLogsRequest := ⟨"job-1", true, 0⟩

/-- The line is logged once the subscriber is registered. -/
def subscribedBefore : List Move :=
  .subscribe wholeHistory :: List.replicate 4 (.work .call) ++
    [.append hello, .work .push, .work .notify, .work .receive, .work .number, .work .forward,
      .work .read]

theorem subscribed_before_delivers :
    Always Stream.step Stream.Delivers .initial subscribedBefore ∧
      (subscribedBefore.foldl Stream.step .initial).read = [proper { hello with sequence := 1 }] :=
  ⟨timely_runs_deliver subscribedBefore (by decide), by decide⟩

/-- The line is logged before the call: it is sent as history and replayed. -/
def subscribedAfter : List Move :=
  [.append hello, .work .push, .work .notify, .subscribe wholeHistory] ++
    List.replicate 6 (.work .call) ++
    [.work .receive, .work .number, .work .forward, .work .read, .work .read]

theorem history_is_delivered_twice :
    ¬Always Stream.step Stream.Delivers .initial subscribedAfter := by
  intro always
  have once := (always_final Stream.step subscribedAfter .initial always).once
  have owed : (subscribedAfter.foldl Stream.step .initial).owed =
      [{ hello with sequence := 1 }] := by decide
  have read : (subscribedAfter.foldl Stream.step .initial).read =
      [proper { hello with sequence := 1 }, proper { hello with sequence := 1 }] := by decide
  rw [owed, read] at once
  exact absurd once.length_le (by decide)

end HodeiJobs.Interface.LogStream
