import HodeiJobs.Interface.LogStream
import HodeiJobs.Library.Runs

/-!
# Room for a subscription

The receiving ends of both channels are handed out when `subscribe_logs` returns, so what is
sent before that stays in them. A call has room if everything that it has still to send fits.
-/

namespace HodeiJobs.Interface.LogStream

open HodeiJobs.Library

namespace Stream

variable (stream : Stream)

/-! ## Calls that return -/

/-- The call goes on while nobody else does anything. -/
def goOn : Nat → Stream
  | 0 => stream
  | steps + 1 => (goOn steps).step (.work .call)

/-- The call returns without the help of anybody. -/
def Returns : Prop := ∃ steps, (stream.goOn steps).call = .returned

/-- A call that is made returns. -/
def Served : Prop := stream.call ≠ .notMade → stream.Returns

/-- What the call has still to send fits into the channels. -/
def Room : Prop :=
  match stream.call with
  | .notMade | .registering | .returned => True
  | .sendingHistory rest => stream.output.items.length + rest.length ≤ 100 ∧
      stream.entries.items.length + stream.logs.length ≤ 100
  | .subscribing => stream.entries.items.length + stream.logs.length ≤ 100
  | .replaying rest => stream.entries.items.length + rest.length ≤ 100

/-- At most 100 entries are in the buffer when the call is made, and none joins 100 others before
`subscribe` has locked the buffer. -/
def FewLogs : Move → Prop
  | .subscribe _ => stream.call = .notMade → stream.logs.length ≤ 100
  | .work .push => (∃ entry, stream.appending = .numbered entry) →
      (∃ rest, stream.call = .sendingHistory rest) ∨ stream.call = .subscribing →
        stream.logs.length < 100
  | _ => True

variable {stream}

theorem go_on_step (steps : Nat) :
    (stream.step (.work .call)).goOn steps = stream.goOn (steps + 1) := by
  induction steps with
  | zero => rfl
  | succ steps ih => exact congrArg (Stream.step · (.work .call)) ih

theorem returns_iff_of_moved {after : Stream} (moved : stream.callStep = some after) :
    stream.Returns ↔ after.Returns := by
  have step : stream.step (.work .call) = after := congrArg (Option.getD · stream) moved
  constructor
  · intro ⟨steps, returned⟩
    cases steps with
    | zero =>
        change stream.call = .returned at returned
        rw [callStep, returned] at moved
        cases moved
    | succ steps =>
        rw [← go_on_step, step] at returned
        exact ⟨steps, returned⟩
  · intro ⟨steps, returned⟩
    rw [← step, go_on_step] at returned
    exact ⟨steps + 1, returned⟩

theorem not_returns_of_stuck (stuck : stream.callStep = none) (waits : stream.call ≠ .returned) :
    ¬stream.Returns := by
  have step : stream.step (.work .call) = stream := congrArg (Option.getD · stream) stuck
  have same : ∀ steps, stream.goOn steps = stream := by
    intro steps
    induction steps with
    | zero => rfl
    | succ steps ih => rw [goOn, ih, step]
  intro ⟨steps, returned⟩
  rw [same] at returned
  exact waits returned

theorem registering_returns (registering : stream.call = .registering) : stream.Returns := by
  have moved : stream.callStep = some { stream with call := .returned, subscribed := true } := by
    rw [callStep, registering]
  rw [returns_iff_of_moved moved]
  exact ⟨0, rfl⟩

theorem replaying_returns_iff {rest : List BufferedLogEntry}
    (replaying : stream.call = .replaying rest) :
    stream.Returns ↔ stream.entries.items.length + rest.length ≤ 100 := by
  induction rest generalizing stream with
  | nil =>
      have moved : stream.callStep = some { stream with call := .registering } := by
        rw [callStep, replaying]
      rw [returns_iff_of_moved moved]
      exact iff_of_true (registering_returns rfl) stream.entries.bounded
  | cons entry rest ih =>
      cases sent : stream.entries.send entry with
      | none =>
          have full := Channel.send_eq_none_iff.mp sent
          have stuck : stream.callStep = none := by
            rw [callStep, replaying]
            exact congrArg (Option.map _) sent
          apply iff_of_false (not_returns_of_stuck stuck (by rw [replaying]; exact Call.noConfusion))
          rw [List.length_cons]
          omega
      | some entries =>
          have moved : stream.callStep =
              some { stream with entries, call := .replaying rest } := by
            rw [callStep, replaying]
            exact congrArg (Option.map _) sent
          rw [returns_iff_of_moved moved, ih rfl, Channel.length_of_send sent, List.length_cons]
          omega

theorem subscribing_returns_iff (subscribing : stream.call = .subscribing) :
    stream.Returns ↔ stream.entries.items.length + stream.logs.length ≤ 100 := by
  have moved : stream.callStep = some { stream with call := .replaying stream.logs } := by
    rw [callStep, subscribing]
  rw [returns_iff_of_moved moved]
  exact replaying_returns_iff rfl

theorem sending_history_returns_iff {rest : List BufferedLogEntry}
    (sending : stream.call = .sendingHistory rest) :
    stream.Returns ↔ stream.output.items.length + rest.length ≤ 100 ∧
      stream.entries.items.length + stream.logs.length ≤ 100 := by
  induction rest generalizing stream with
  | nil =>
      have moved : stream.callStep = some { stream with call := .subscribing } := by
        rw [callStep, sending]
      rw [returns_iff_of_moved moved, subscribing_returns_iff rfl]
      exact (and_iff_right stream.output.bounded).symm
  | cons entry rest ih =>
      cases sent : stream.output.send ⟨entry, entry.message entry.sequence⟩ with
      | none =>
          have full := Channel.send_eq_none_iff.mp sent
          have stuck : stream.callStep = none := by
            rw [callStep, sending]
            exact congrArg (Option.map _) sent
          apply iff_of_false (not_returns_of_stuck stuck (by rw [sending]; exact Call.noConfusion))
          rw [List.length_cons]
          omega
      | some output =>
          have moved : stream.callStep =
              some { stream with output, call := .sendingHistory rest } := by
            rw [callStep, sending]
            exact congrArg (Option.map _) sent
          rw [returns_iff_of_moved moved, ih rfl]
          apply and_congr_left'
          change output.items.length + rest.length ≤ 100 ↔ _
          rw [Channel.length_of_send sent, List.length_cons]
          omega

theorem served_iff_room : stream.Served ↔ stream.Room := by
  unfold Served Room
  cases call : stream.call with
  | notMade => exact iff_of_true (fun made => absurd rfl made) trivial
  | sendingHistory rest => simpa using sending_history_returns_iff call
  | subscribing => simpa using subscribing_returns_iff call
  | replaying rest => simpa using replaying_returns_iff call
  | registering => simpa using registering_returns call
  | returned => simpa using ⟨0, call⟩

/-! ## Steps -/

variable (stream) in
/-- Before the call returns only the call sends, and each channel is filled by one part of it. -/
structure OnlyCall : Prop where
  alone : stream.call ≠ .returned → stream.subscribed = false ∧ stream.forwarding = .waiting
  output : stream.call = .notMade → stream.output.items = []
  entries : stream.call = .notMade ∨ (∃ rest, stream.call = .sendingHistory rest) ∨
    stream.call = .subscribing → stream.entries.items = []

theorem length_push_log (buffer : List BufferedLogEntry) (entry : BufferedLogEntry) :
    (pushLog buffer entry).length = min (buffer.length + 1) (max buffer.length logBufferSize) := by
  unfold pushLog logBufferSize
  split_ifs with full
  · rw [List.length_append, List.length_tail, List.length_singleton]
    omega
  · rw [List.length_append, List.length_singleton]
    omega

theorem length_history_le (request : SubscribeLogsRequest) (buffer : List BufferedLogEntry) :
    (request.history buffer).length ≤ buffer.length := by
  have part : ∀ limit since, (getLogsWithSequence buffer limit since).length ≤ buffer.length := by
    intro limit since
    unfold getLogsWithSequence
    dsimp only
    rw [List.length_reverse, List.length_take, List.length_reverse]
    exact Nat.le_trans (Nat.min_le_right _ _) (List.length_filter_le _ _)
  unfold SubscribeLogsRequest.history
  split_ifs
  · exact part _ _
  · exact part _ _
  · exact Nat.zero_le _

theorem room_congr {other : Stream} (call : other.call = stream.call)
    (output : other.output = stream.output) (entries : other.entries = stream.entries)
    (logs : other.logs = stream.logs) : other.Room ↔ stream.Room := by
  unfold Room
  rw [call, output, entries, logs]

theorem room_of_returned (returned : stream.call = .returned) : stream.Room := by
  unfold Room
  rw [returned]
  trivial

theorem only_call_congr {other : Stream} (only : stream.OnlyCall) (call : other.call = stream.call)
    (subscribed : other.subscribed = true → stream.subscribed = true)
    (forwarding : other.forwarding = stream.forwarding ∨ stream.call = .returned)
    (output : other.output = stream.output ∨ stream.call = .returned)
    (entries : other.entries = stream.entries ∨ stream.call = .returned) : other.OnlyCall := by
  constructor
  · intro waits
    rw [call] at waits
    have before := only.alone waits
    refine ⟨?_, ?_⟩
    · by_contra set
      rw [subscribed (Bool.of_not_eq_false set)] at before
      exact Bool.noConfusion before.1
    · rcases forwarding with same | returned
      · exact same.trans before.2
      · exact absurd returned waits
  · intro notMade
    rw [call] at notMade
    rcases output with same | returned
    · rw [same]
      exact only.output notMade
    · rw [notMade] at returned
      cases returned
  · intro early
    rw [call] at early
    rcases entries with same | returned
    · rw [same]
      exact only.entries early
    · rw [returned] at early
      simp at early

/-! ### The moves one by one -/

theorem append_keeps {after : Stream} {entry : LogEntry} (only : stream.OnlyCall)
    (moved : stream.append entry = some after) :
    after.OnlyCall ∧ (after.Room ↔ stream.Room) := by
  unfold append at moved
  split at moved
  · cases moved
    exact ⟨only_call_congr only rfl id (.inl rfl) (.inl rfl) (.inl rfl),
      room_congr rfl rfl rfl rfl⟩
  · cases moved

theorem push_keeps {after : Stream} (only : stream.OnlyCall) (moved : stream.push = some after) :
    after.OnlyCall ∧ (after.Room ↔ stream.Room ∧ stream.FewLogs (.work .push)) := by
  unfold push at moved
  split at moved
  · cases moved
  · rename_i _ entry numbered unlocked
    cases moved
    refine ⟨only_call_congr only rfl id (.inl rfl) (.inl rfl) (.inl rfl), ?_⟩
    have longer := length_push_log stream.logs entry
    have none := only.entries
    unfold logBufferSize at longer
    cases call : stream.call with
    | notMade | registering | returned => simp [Room, FewLogs, call]
    | sendingHistory rest =>
        have isEmpty := none (.inr (.inl ⟨rest, call⟩))
        simp only [Room, FewLogs, call, isEmpty, numbered, List.length_nil]
        simp
        omega
    | subscribing =>
        have isEmpty := none (.inr (.inr call))
        simp only [Room, FewLogs, call, isEmpty, numbered, List.length_nil]
        simp
        omega
    | replaying rest => exact absurd call (unlocked rest)
  · cases moved

theorem notify_keeps {after : Stream} (only : stream.OnlyCall)
    (moved : stream.notify = some after) : after.OnlyCall ∧ (after.Room ↔ stream.Room) := by
  unfold notify at moved
  split at moved
  · split at moved
    · rename_i _ entry _ set
      have returned : stream.call = .returned := by
        by_contra waits
        rw [(only.alone waits).1] at set
        cases set
      obtain ⟨entries, -, rfl⟩ := Option.map_eq_some_iff.mp moved
      exact ⟨only_call_congr only rfl id (.inl rfl) (.inl rfl) (.inr returned),
        iff_of_true (room_of_returned returned) (room_of_returned returned)⟩
    · cases moved
      exact ⟨only_call_congr only rfl id (.inl rfl) (.inl rfl) (.inl rfl),
        room_congr rfl rfl rfl rfl⟩
  · cases moved

theorem subscribe_keeps {after : Stream} {request : SubscribeLogsRequest} (only : stream.OnlyCall)
    (moved : stream.subscribe request = some after) :
    after.OnlyCall ∧ (after.Room ↔ stream.Room ∧ stream.FewLogs (.subscribe request)) := by
  unfold subscribe at moved
  split at moved
  · rename_i notMade
    cases moved
    have noOutput := only.output notMade
    have noEntries := only.entries (.inl notMade)
    have alone := only.alone (by rw [notMade]; exact Call.noConfusion)
    refine ⟨⟨fun _ => alone, fun made => Call.noConfusion made, fun _ => noEntries⟩, ?_⟩
    have shorter := length_history_le request stream.logs
    simp only [Room, FewLogs, notMade, noOutput, noEntries, List.length_nil]
    simp
    omega
  · cases moved

/-- What the call sends into the second channel, it sends when it has sent the history. -/
theorem only_call_call {after : Stream} (only : stream.OnlyCall)
    (moved : stream.callStep = some after) : after.OnlyCall := by
  unfold callStep at moved
  split at moved
  · rename_i entry rest sending
    obtain ⟨output, -, rfl⟩ := Option.map_eq_some_iff.mp moved
    have alone := only.alone (by rw [sending]; exact Call.noConfusion)
    have none := only.entries (.inr (.inl ⟨_, sending⟩))
    exact ⟨fun _ => alone, fun made => Call.noConfusion made, fun _ => none⟩
  · rename_i sending
    cases moved
    have alone := only.alone (by rw [sending]; exact Call.noConfusion)
    have none := only.entries (.inr (.inl ⟨_, sending⟩))
    exact ⟨fun _ => alone, fun made => Call.noConfusion made, fun _ => none⟩
  · rename_i subscribing
    cases moved
    have alone := only.alone (by rw [subscribing]; exact Call.noConfusion)
    exact ⟨fun _ => alone, fun made => Call.noConfusion made, fun early => by simp at early⟩
  · rename_i entry rest replaying
    obtain ⟨entries, -, rfl⟩ := Option.map_eq_some_iff.mp moved
    have alone := only.alone (by rw [replaying]; exact Call.noConfusion)
    exact ⟨fun _ => alone, fun made => Call.noConfusion made, fun early => by simp at early⟩
  · rename_i replaying
    cases moved
    have alone := only.alone (by rw [replaying]; exact Call.noConfusion)
    exact ⟨fun _ => alone, fun made => Call.noConfusion made, fun early => by simp at early⟩
  · cases moved
    exact ⟨fun waits => absurd rfl waits, fun made => Call.noConfusion made,
      fun early => by simp at early⟩
  · cases moved
  · cases moved

theorem made_of_call_step {after : Stream} (moved : stream.callStep = some after) :
    stream.call ≠ .notMade ∧ after.call ≠ .notMade := by
  unfold callStep at moved
  cases call : stream.call with
  | notMade | returned => simp [call] at moved
  | subscribing | registering =>
      simp only [call, Option.some.injEq] at moved
      subst moved
      exact ⟨Call.noConfusion, Call.noConfusion⟩
  | sendingHistory rest | replaying rest =>
      cases rest <;> simp only [call, Option.some.injEq, Option.map_eq_some_iff] at moved
      · subst moved
        exact ⟨Call.noConfusion, Call.noConfusion⟩
      · obtain ⟨channel, -, rfl⟩ := moved
        exact ⟨Call.noConfusion, Call.noConfusion⟩

/-- The call has room before a step of its own exactly if it has after it. -/
theorem call_keeps {after : Stream} (only : stream.OnlyCall)
    (moved : stream.callStep = some after) : after.OnlyCall ∧ (after.Room ↔ stream.Room) := by
  have made := made_of_call_step moved
  have returns := returns_iff_of_moved moved
  refine ⟨only_call_call only moved, ?_⟩
  rw [← served_iff_room, ← served_iff_room, Served, Served]
  simp only [made.1, made.2, ne_eq, not_false_eq_true, forall_const, returns]

theorem receive_keeps {after : Stream} (only : stream.OnlyCall)
    (moved : stream.receive = some after) : after.OnlyCall ∧ (after.Room ↔ stream.Room) := by
  unfold receive at moved
  split at moved
  · rename_i returned _
    obtain ⟨⟨entry, entries⟩, -, rfl⟩ := Option.map_eq_some_iff.mp moved
    exact ⟨only_call_congr only rfl id (.inr returned) (.inl rfl) (.inr returned),
      iff_of_true (room_of_returned returned) (room_of_returned returned)⟩
  · cases moved

theorem number_keeps {after : Stream} (only : stream.OnlyCall)
    (moved : stream.number = some after) : after.OnlyCall ∧ (after.Room ↔ stream.Room) := by
  unfold number at moved
  split at moved
  · rename_i entry received
    cases moved
    have returned : stream.call = .returned := by
      by_contra waits
      rw [(only.alone waits).2] at received
      cases received
    exact ⟨only_call_congr only rfl id (.inr returned) (.inl rfl) (.inl rfl),
      room_congr rfl rfl rfl rfl⟩
  · cases moved

theorem forward_keeps {after : Stream} (only : stream.OnlyCall)
    (moved : stream.forward = some after) : after.OnlyCall ∧ (after.Room ↔ stream.Room) := by
  unfold forward at moved
  split at moved
  · rename_i entry sequence numbered
    have returned : stream.call = .returned := by
      by_contra waits
      rw [(only.alone waits).2] at numbered
      cases numbered
    obtain ⟨output, -, rfl⟩ := Option.map_eq_some_iff.mp moved
    exact ⟨only_call_congr only rfl id (.inr returned) (.inr returned) (.inl rfl),
      iff_of_true (room_of_returned returned) (room_of_returned returned)⟩
  · cases moved

theorem read_keeps {after : Stream} (only : stream.OnlyCall)
    (moved : stream.readNext = some after) : after.OnlyCall ∧ (after.Room ↔ stream.Room) := by
  unfold readNext at moved
  split at moved
  · rename_i returned
    obtain ⟨⟨delivery, output⟩, -, rfl⟩ := Option.map_eq_some_iff.mp moved
    exact ⟨only_call_congr only rfl id (.inl rfl) (.inr returned) (.inl rfl),
      iff_of_true (room_of_returned returned) (room_of_returned returned)⟩
  · cases moved

theorem close_keeps (only : stream.OnlyCall) :
    stream.close.OnlyCall ∧ (stream.close.Room ↔ stream.Room) :=
  ⟨only_call_congr only rfl Bool.noConfusion (.inl rfl) (.inl rfl) (.inl rfl),
    room_congr rfl rfl rfl rfl⟩

/-- A move leads to a call that has room exactly if the call has it before and few entries are in
the buffer. -/
theorem perform_keeps {after : Stream} {move : Move} (only : stream.OnlyCall)
    (moved : stream.perform move = some after) :
    after.OnlyCall ∧ (after.Room ↔ stream.Room ∧ stream.FewLogs move) := by
  cases move with
  | append entry => simpa [FewLogs] using append_keeps only moved
  | subscribe request => exact subscribe_keeps only moved
  | close =>
      cases moved
      simpa [FewLogs] using close_keeps only
  | work task =>
      cases task with
      | push => exact push_keeps only moved
      | notify => simpa [FewLogs] using notify_keeps only moved
      | call => simpa [FewLogs] using call_keeps only moved
      | receive => simpa [FewLogs] using receive_keeps only moved
      | number => simpa [FewLogs] using number_keeps only moved
      | forward => simpa [FewLogs] using forward_keeps only moved
      | read => simpa [FewLogs] using read_keeps only moved

theorem few_logs_of_stuck {move : Move} (stuck : stream.perform move = none) :
    stream.FewLogs move := by
  cases move with
  | append entry => trivial
  | close => trivial
  | subscribe request =>
      intro notMade
      change stream.subscribe request = none at stuck
      rw [Stream.subscribe, notMade] at stuck
      cases stuck
  | work task =>
      cases task with
      | push =>
          rintro ⟨entry, numbered⟩ (⟨rest, call⟩ | call)
          · change stream.push = none at stuck
            simp [push, numbered, call] at stuck
          · change stream.push = none at stuck
            simp [push, numbered, call] at stuck
      | notify | call | receive | number | forward | read => trivial

theorem step_keeps (only : stream.OnlyCall) (move : Move) :
    (stream.step move).OnlyCall ∧
      ((stream.step move).Room ↔ stream.Room ∧ stream.FewLogs move) := by
  cases moved : stream.perform move with
  | none =>
      have same : stream.step move = stream := congrArg (Option.getD · stream) moved
      rw [same]
      exact ⟨only, (and_iff_left (few_logs_of_stuck moved)).symm⟩
  | some after =>
      have same : stream.step move = after := congrArg (Option.getD · stream) moved
      rw [same]
      exact perform_keeps only moved

/-! ## Runs -/

/-- A call without room returns in no run: nobody else can make room for it. -/
theorem never_returns (only : stream.OnlyCall) (full : ¬stream.Room) (moves : List Move) :
    (moves.foldl step stream).call ≠ .returned := by
  induction moves generalizing stream with
  | nil => exact fun returned => full (room_of_returned returned)
  | cons move rest ih =>
      have next := step_keeps only move
      exact ih next.1 (fun room => full (next.2.mp room).1)

theorem always_served_iff (only : stream.OnlyCall) (room : stream.Room) (moves : List Move) :
    Always step Served stream moves ↔ EachMove step FewLogs stream moves := by
  have same : Always step Served stream moves ↔ Always step Room stream moves :=
    ⟨always_imp step (fun _ => served_iff_room.mp) moves stream,
      always_imp step (fun _ => served_iff_room.mpr) moves stream⟩
  rw [same]
  apply always_iff_each_move_within step OnlyCall Room FewLogs
  · intro state move only
    exact (step_keeps only move).1
  · intro state move only room
    exact (step_keeps only move).2.trans (and_iff_right room)
  · exact only
  · exact room

/-- A job with these entries in its buffer and a call of `append_log` that may be going on, before
`subscribe_logs` is called. -/
def before (logs : List BufferedLogEntry) (sequence : Nat) (appending : Appending) : Stream :=
  { Stream.initial with logs, sequence, appending }

/-- The same, where `subscribe` alone is called. -/
def beginning (logs : List BufferedLogEntry) (sequence : Nat) (appending : Appending) : Stream :=
  { before logs sequence appending with call := .subscribing }

/-- In a run, the calls of `subscribe_logs` and of `subscribe` return exactly if the buffer holds
few entries: no more than 100 when they are made, and none that is pushed to 100 others. -/
theorem served_iff_few_logs (logs : List BufferedLogEntry) (sequence : Nat) (appending : Appending)
    (moves : List Move) :
    (Always step Served (before logs sequence appending) moves ↔
        EachMove step FewLogs (before logs sequence appending) moves) ∧
      (Always step Served (beginning logs sequence appending) moves ↔
        logs.length ≤ 100 ∧ EachMove step FewLogs (beginning logs sequence appending) moves) := by
  have unmade : (before logs sequence appending).OnlyCall :=
    ⟨fun _ => ⟨rfl, rfl⟩, fun _ => rfl, fun _ => rfl⟩
  have begun : (beginning logs sequence appending).OnlyCall :=
    ⟨fun _ => ⟨rfl, rfl⟩, fun _ => rfl, fun _ => rfl⟩
  have room : (beginning logs sequence appending).Room ↔ logs.length ≤ 100 := by
    change 0 + logs.length ≤ 100 ↔ logs.length ≤ 100
    rw [Nat.zero_add]
  refine ⟨always_served_iff unmade trivial moves, ?_⟩
  by_cases few : logs.length ≤ 100
  · rw [always_served_iff begun (room.mpr few) moves]
    exact (and_iff_right few).symm
  · apply iff_of_false
    · intro always
      exact few (room.mp (served_iff_room.mp (always_head step always)))
    · intro both
      exact few both.1

/-- A job that has written 101 lines. -/
def longLog : Stream :=
  before (List.replicate 101 ⟨⟨"job-1", "line", false, none⟩, 1⟩) 101 .idle

/-- The call for its history does not return. -/
theorem history_of_long_log_not_served :
    ¬Always step Served longLog [.subscribe ⟨"job-1", true, 0⟩] := by
  intro always
  have room := (served_iff_room.mp always.2).2
  change 0 + (List.replicate 101 _).length ≤ 100 at room
  rw [List.length_replicate] at room
  omega

end Stream

end HodeiJobs.Interface.LogStream
