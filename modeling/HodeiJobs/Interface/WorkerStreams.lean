import Mathlib.Data.List.Infix
import HodeiJobs.Interface.WorkerMessages

/-!
# The streams of a worker

`worker_stream` and `send_to_worker` of `WorkerAgentServiceImpl`, for any number of
connections. The task of a connection registers its sender at the first heartbeat
that names a worker, and once the inbound side has ended it removes the entry of
that worker, whoever registered it. Logs, results and events are left out: they
do not touch the channels.
-/

namespace HodeiJobs.Interface.WorkerStreams

open HodeiJobs.Library HodeiJobs.Execution
open HodeiJobs.Sagas (Uuid)

/-! ## The streams -/

inductive ServerMessage (Payload : Type) where
  | ack (messageId : Uuid) (success : Bool) (workerId : String)
  | other (payload : Payload)
  deriving DecidableEq

/-- A message of a worker; the server makes up the id of the answer to a heartbeat. -/
inductive WorkerPayload where
  | heartbeat (workerId : Option String) (messageId : Uuid)
  | selfTerminate (workerId : String)
  | other
  deriving DecidableEq

/-- Where the task of a connection is. -/
inductive Phase where
  | reading
  | ended
  | cleanedUp
  deriving DecidableEq

/-- `workerId` is the `worker_id_holder`, `receiving` whether the response stream
still holds the receiver of the channel, and `sent` what went into the channel. -/
structure Connection (Payload : Type) where
  workerId : Option String
  phase : Phase
  receiving : Bool
  selfTerminated : Bool
  sent : List (ServerMessage Payload)
  deriving DecidableEq

/-- The connections in the order in which they were opened, and `worker_channels`
with the number of the connection that each sender belongs to. -/
structure Streams (Payload : Type) where
  connections : List (Connection Payload)
  workerChannels : String → Option Nat

/-- What the task of a connection goes through. -/
inductive Occurrence where
  | received (payload : WorkerPayload)
  | receiverDropped
  | inboundEnded
  | cleanedUp
  deriving DecidableEq

inductive Event where
  | opened
  | on (sender : Nat) (occurrence : Occurrence)
  deriving DecidableEq

variable {Payload : Type}

namespace Connection

def opened : Connection Payload := ⟨none, .reading, true, false, []⟩

/-- Open on both sides, and without a `SelfTerminate`. -/
def live (connection : Connection Payload) : Bool :=
  decide (connection.phase = .reading) && connection.receiving && !connection.selfTerminated

end Connection

namespace Streams

def empty : Streams Payload := ⟨[], fun _ => none⟩

def put (streams : Streams Payload) (sender : Nat) (connection : Connection Payload) :
    Streams Payload :=
  { streams with connections := streams.connections.set sender connection }

def insert (streams : Streams Payload) (workerId : String) (sender : Nat) : Streams Payload :=
  { streams with workerChannels := Function.update streams.workerChannels workerId (some sender) }

def remove (streams : Streams Payload) (workerId : String) : Streams Payload :=
  { streams with workerChannels := Function.update streams.workerChannels workerId none }

/-- `Sender::send`, which fails once the receiver is dropped. -/
def send (streams : Streams Payload) (sender : Nat) (message : ServerMessage Payload) :
    Option (Streams Payload) :=
  match streams.connections[sender]? with
  | none => none
  | some connection =>
      if connection.receiving then
        some (streams.put sender { connection with sent := connection.sent ++ [message] })
      else none

/-- The holder is set and the sender registered at the first heartbeat only. -/
def register (streams : Streams Payload) (sender : Nat) (connection : Connection Payload)
    (workerId : String) : Streams Payload :=
  if connection.workerId = none then
    (streams.put sender { connection with workerId := some workerId }).insert workerId sender
  else streams

def receive (text : UuidText) (streams : Streams Payload) (sender : Nat)
    (connection : Connection Payload) : WorkerPayload → Streams Payload
  | .heartbeat (some workerId) messageId =>
      let registered := streams.register sender connection workerId
      (registered.send sender (.ack messageId true workerId)).getD registered
  | .heartbeat none _ => streams
  | .selfTerminate workerId =>
      let terminated := streams.put sender { connection with selfTerminated := true }
      if (text.parse workerId).isSome then terminated.remove workerId else terminated
  | .other => streams

def cleanUp (streams : Streams Payload) (sender : Nat) (connection : Connection Payload) :
    Streams Payload :=
  let finished := streams.put sender { connection with phase := .cleanedUp }
  match connection.workerId with
  | some workerId => finished.remove workerId
  | none => finished

/-- Only a task that still reads its inbound side takes messages from it. -/
def proceed (text : UuidText) (streams : Streams Payload) (sender : Nat)
    (connection : Connection Payload) : Occurrence → Streams Payload
  | .received payload =>
      if connection.phase = .reading then streams.receive text sender connection payload
      else streams
  | .receiverDropped => streams.put sender { connection with receiving := false }
  | .inboundEnded =>
      if connection.phase = .reading then streams.put sender { connection with phase := .ended }
      else streams
  | .cleanedUp =>
      if connection.phase = .ended then streams.cleanUp sender connection else streams

def step (text : UuidText) (streams : Streams Payload) : Event → Streams Payload
  | .opened => { streams with connections := streams.connections ++ [.opened] }
  | .on sender occurrence =>
      match streams.connections[sender]? with
      | none => streams
      | some connection => streams.proceed text sender connection occurrence

/-! ## Sending to a worker -/

/-- `get_worker` of the supervisor, with the text of its error. -/
abbrev Supervisor := WorkerId → Except String Unit

def contains (text part : String) : Bool := decide (part.toList <:+: text.toList)

def sendOrInternal (streams : Streams Payload) (sender : Nat) (message : ServerMessage Payload)
    (failure : String) : Except Status (Streams Payload) :=
  match streams.send sender message with
  | some delivered => .ok delivered
  | none => .error (.internal (failure ++ ": channel closed"))

/-- The polls of one call, every 100 ms for at most 5 s, each with the streams it sees. -/
def waitForConnection (workerId : String) (message : ServerMessage Payload) :
    List (Streams Payload) → Except Status (Streams Payload)
  | [] => .error (.deadlineExceeded
      ("Worker " ++ workerId ++ " registered but failed to connect within timeout"))
  | streams :: later =>
      match streams.workerChannels workerId with
      | some sender => streams.sendOrInternal sender message "Failed to send message"
      | none => waitForConnection workerId message later

/-- The streams after the message was sent, or the status that is returned. -/
def sendToWorker (text : UuidText) (supervisor : Option Supervisor) (streams : Streams Payload)
    (polls : List (Streams Payload)) (workerId : String) (message : ServerMessage Payload) :
    Except Status (Streams Payload) :=
  match streams.workerChannels workerId with
  | some sender => streams.sendOrInternal sender message "Failed to send message to worker"
  | none =>
      match supervisor with
      | none => .error (.notFound ("Worker " ++ workerId ++ " not connected"))
      | some getWorker =>
          match text.parse workerId with
          | none => .error (.invalidArgument "Invalid worker ID format")
          | some uuid =>
              match getWorker ⟨uuid⟩ with
              | .ok _ => waitForConnection workerId message polls
              | .error error =>
                  if contains error "not found" || contains error "NotFound" then
                    .error (.notFound ("Worker " ++ workerId ++ " not registered"))
                  else .error (.internal ("Actor error: " ++ error))

/-! ## The live connection -/

/-- The connection has named the worker in its first heartbeat. -/
def Names (streams : Streams Payload) (sender : Nat) (workerId : String) : Prop :=
  ∃ connection, streams.connections[sender]? = some connection ∧
    connection.workerId = some workerId

/-- The newest connection that has named the worker, if it is open and sent no
`SelfTerminate`. -/
structure Current (streams : Streams Payload) (workerId : String) (sender : Nat) : Prop where
  live : ∃ connection, streams.connections[sender]? = some connection ∧
    connection.workerId = some workerId ∧ connection.live = true
  newest : ∀ newer, streams.Names newer workerId → newer ≤ sender

/-- The worker id leads to the live connection, and a message to the worker goes there. -/
def Reaches (text : UuidText) (streams : Streams Payload) : Prop :=
  ∀ workerId sender, streams.Current workerId sender →
    streams.workerChannels workerId = some sender ∧
      ∀ supervisor polls message,
        ∃ connection, streams.connections[sender]? = some connection ∧
          streams.sendToWorker text supervisor polls workerId message =
            .ok (streams.put sender { connection with sent := connection.sent ++ [message] })

/-- A connection takes the entry of no live connection that is newer or, when it
removes the entry, not itself. -/
def LeavesCurrent (text : UuidText) (streams : Streams Payload) (sender : Nat)
    (connection : Connection Payload) : Occurrence → Prop
  | .received (.heartbeat (some workerId) _) =>
      connection.phase = .reading → connection.workerId = none →
        ∀ current, streams.Current workerId current → current < sender
  | .received (.selfTerminate workerId) =>
      connection.phase = .reading → (text.parse workerId).isSome = true →
        ∀ current, streams.Current workerId current → current = sender
  | .cleanedUp =>
      connection.phase = .ended → ∀ workerId, connection.workerId = some workerId →
        ∀ current, ¬streams.Current workerId current
  | _ => True

def Undisturbed (text : UuidText) (streams : Streams Payload) : Event → Prop
  | .opened => True
  | .on sender occurrence =>
      ∀ connection, streams.connections[sender]? = some connection →
        streams.LeavesCurrent text sender connection occurrence

section Steps

variable (text : UuidText) {streams : Streams Payload} {sender : Nat}
  {connection : Connection Payload}

/-- A live connection takes every message, so only the entry matters. -/
theorem reaches_iff :
    streams.Reaches text ↔ ∀ workerId current, streams.Current workerId current →
      streams.workerChannels workerId = some current := by
  constructor
  · intro reaches workerId current live
    exact (reaches workerId current live).1
  · intro registered workerId current live
    have entry := registered workerId current live
    obtain ⟨taker, stored, -, open_⟩ := live.live
    have receiving : taker.receiving = true := by
      simp only [Connection.live, Bool.and_eq_true] at open_
      exact open_.1.2
    constructor
    · exact entry
    · intro supervisor polls message
      use taker
      constructor
      · exact stored
      · simp [sendToWorker, entry, sendOrInternal, send, stored, receiving]

section Stored

variable (stored : streams.connections[sender]? = some connection)
include stored

theorem put_get (changed : Connection Payload) (other : Nat) :
    (streams.put sender changed).connections[other]? =
      if sender = other then some changed else streams.connections[other]? := by
  have bound := (List.getElem?_eq_some_iff.mp stored).1
  unfold put
  rw [List.getElem?_set]
  split_ifs <;> rfl

theorem names_put {changed : Connection Payload}
    (sameWorker : changed.workerId = connection.workerId) (other : Nat) (workerId : String) :
    (streams.put sender changed).Names other workerId ↔ streams.Names other workerId := by
  unfold Names
  rw [put_get stored]
  by_cases own : sender = other
  · subst own
    simp [stored, sameWorker]
  · rw [if_neg own]

/-- A connection that keeps its worker and does not come to life again. -/
theorem current_put {changed : Connection Payload}
    (sameWorker : changed.workerId = connection.workerId)
    (weaker : changed.live = true → connection.live = true) (workerId : String) (current : Nat) :
    (streams.put sender changed).Current workerId current ↔
      streams.Current workerId current ∧ (sender = current → changed.live = true) := by
  have names := fun other => names_put stored sameWorker other workerId
  constructor
  · intro now
    have newest : ∀ newer, streams.Names newer workerId → newer ≤ current :=
      fun newer named => now.newest newer ((names newer).mpr named)
    obtain ⟨taker, found, named, open_⟩ := now.live
    rw [put_get stored] at found
    by_cases own : sender = current
    · rw [if_pos own] at found
      cases found
      subst own
      refine ⟨⟨⟨connection, stored, ?_, weaker open_⟩, newest⟩, fun _ => open_⟩
      rw [← sameWorker]
      exact named
    · rw [if_neg own] at found
      exact ⟨⟨⟨taker, found, named, open_⟩, newest⟩, fun same => absurd same own⟩
  · intro ⟨before, alive⟩
    obtain ⟨taker, found, named, open_⟩ := before.live
    refine ⟨?_, fun newer named => before.newest newer ((names newer).mp named)⟩
    rw [put_get stored]
    by_cases own : sender = current
    · subst own
      rw [stored] at found
      cases found
      rw [if_pos rfl]
      exact ⟨changed, rfl, sameWorker.trans named, alive rfl⟩
    · rw [if_neg own]
      exact ⟨taker, found, named, open_⟩

/-- A registration makes its connection one of the worker, and no other. -/
theorem names_register (unnamed : connection.workerId = none) (workerId : String) (other : Nat)
    (name : String) :
    ((streams.put sender { connection with workerId := some workerId }).insert
        workerId sender).Names other name ↔
      streams.Names other name ∨ (sender = other ∧ name = workerId) := by
  show (streams.put sender { connection with workerId := some workerId }).Names other name ↔ _
  unfold Names
  rw [put_get stored]
  by_cases own : sender = other
  · subst own
    simp [stored, unnamed, eq_comm]
  · simp [own]

end Stored

/-- Where the channels stay and no connection becomes current, everyone is still reached. -/
theorem reaches_of_fewer {after : Streams Payload} (before : streams.Reaches text)
    (sameChannels : after.workerChannels = streams.workerChannels)
    (fewer : ∀ workerId current, after.Current workerId current →
      streams.Current workerId current) : after.Reaches text := by
  rw [reaches_iff] at before ⊢
  intro workerId current live
  rw [sameChannels]
  exact before workerId current (fewer workerId current live)

/-- A message in a channel changes neither the entries nor who is current. -/
theorem reaches_send_iff (message : ServerMessage Payload) :
    ((streams.send sender message).getD streams).Reaches text ↔ streams.Reaches text := by
  unfold send
  cases stored : streams.connections[sender]? with
  | none => exact Iff.rfl
  | some connection =>
      dsimp only
      have sameWorker : ({ connection with sent := connection.sent ++ [message] } :
          Connection Payload).workerId = connection.workerId := rfl
      split_ifs
      · rw [Option.getD_some, reaches_iff, reaches_iff]
        apply forall_congr'
        intro workerId
        apply forall_congr'
        intro current
        rw [current_put stored sameWorker id]
        constructor
        · intro registered live
          refine registered ⟨live, ?_⟩
          intro own
          obtain ⟨taker, found, -, open_⟩ := live.live
          rw [own.symm, stored] at found
          cases found
          exact open_
        · intro registered live
          exact registered live.1
      · exact Iff.rfl

theorem opened_reaches (before : streams.Reaches text) :
    (streams.step text .opened).Reaches text := by
  have sameChannels : (streams.step text .opened).workerChannels = streams.workerChannels := rfl
  apply reaches_of_fewer text before sameChannels
  intro workerId current live
  have kept : ∀ (number : Nat) (other : Connection Payload),
      streams.connections[number]? = some other →
        (streams.step text .opened).connections[number]? = some other := by
    intro number other found
    have bound := (List.getElem?_eq_some_iff.mp found).1
    exact (List.getElem?_append_left bound).trans found
  obtain ⟨taker, found, named, open_⟩ := live.live
  have present : streams.connections[current]? = some taker := by
    have split : (streams.connections ++ [Connection.opened])[current]? = some taker := found
    rw [List.getElem?_append] at split
    split_ifs at split with earlier
    · exact split
    · rw [List.mem_singleton.mp (List.mem_of_getElem? split)] at named
      cases named
  constructor
  · exact ⟨taker, present, named, open_⟩
  · intro newer ⟨other, stored, same⟩
    exact live.newest newer ⟨other, kept newer other stored, same⟩

section Reached

variable (before : streams.Reaches text)
  (stored : streams.connections[sender]? = some connection)
include before stored

theorem reaches_put {changed : Connection Payload}
    (sameWorker : changed.workerId = connection.workerId)
    (weaker : changed.live = true → connection.live = true) :
    (streams.put sender changed).Reaches text := by
  have sameChannels : (streams.put sender changed).workerChannels = streams.workerChannels := rfl
  apply reaches_of_fewer text before sameChannels
  intro workerId current live
  exact ((current_put stored sameWorker weaker workerId current).mp live).1

/-- Registering is safe exactly if the worker has no newer live connection. -/
theorem register_reaches_iff (unnamed : connection.workerId = none) (workerId : String) :
    (streams.register sender connection workerId).Reaches text ↔
      ∀ current, streams.Current workerId current → current < sender := by
  unfold register
  rw [if_pos unnamed]
  have entries := (reaches_iff text).mp before
  have get := put_get stored { connection with workerId := some workerId }
  have names := names_register stored unnamed workerId
  rw [reaches_iff]
  constructor
  · intro after current live
    by_contra notOlder
    obtain ⟨taker, found, named, open_⟩ := live.live
    have different : sender ≠ current := by
      intro same
      rw [← same, stored] at found
      cases found
      rw [unnamed] at named
      cases named
    have still : ((streams.put sender { connection with workerId := some workerId }).insert
        workerId sender).Current workerId current := by
      constructor
      · exact ⟨taker, (get current).trans ((if_neg different).trans found), named, open_⟩
      · intro newer named
        rcases (names newer workerId).mp named with earlier | ⟨own, -⟩
        · exact live.newest newer earlier
        · omega
    have entry := after workerId current still
    have taken : ((streams.put sender { connection with workerId := some workerId }).insert
        workerId sender).workerChannels workerId = some sender := Function.update_self ..
    rw [taken] at entry
    exact different (Option.some.inj entry)
  · intro older other current live
    obtain ⟨taker, found, named, open_⟩ := live.live
    have found := (get current).symm.trans found
    by_cases own : sender = current
    · subst own
      rw [if_pos rfl] at found
      cases found
      cases named
      exact Function.update_self ..
    · rw [if_neg own] at found
      have was : streams.Current other current := by
        constructor
        · exact ⟨taker, found, named, open_⟩
        · intro newer earlier
          exact live.newest newer ((names newer other).mpr (.inl earlier))
      by_cases sameWorker : other = workerId
      · have earlier := older current (sameWorker ▸ was)
        have last := live.newest sender ((names sender other).mpr (.inr ⟨rfl, sameWorker⟩))
        omega
      · exact (Function.update_of_ne sameWorker ..).trans (entries other current was)

/-- Removing an entry is safe exactly if no other connection is current for it. -/
theorem remove_reaches_iff {changed : Connection Payload}
    (sameWorker : changed.workerId = connection.workerId) (dead : changed.live = false)
    (workerId : String) :
    ((streams.put sender changed).remove workerId).Reaches text ↔
      ∀ current, streams.Current workerId current → current = sender := by
  have entries := (reaches_iff text).mp before
  have weaker : changed.live = true → connection.live = true := by
    intro alive
    rw [dead] at alive
    cases alive
  have now := current_put stored sameWorker weaker
  have removed : ∀ other current, ((streams.put sender changed).remove workerId).Current
      other current ↔ streams.Current other current ∧ (sender = current → changed.live = true) := by
    intro other current
    rw [← now other current]
    exact ⟨fun live => ⟨live.live, live.newest⟩, fun live => ⟨live.live, live.newest⟩⟩
  rw [reaches_iff]
  constructor
  · intro after current live
    by_contra different
    have entry := after workerId current
      ((removed workerId current).mpr ⟨live, fun same => absurd same.symm different⟩)
    have gone : ((streams.put sender changed).remove workerId).workerChannels workerId = none :=
      Function.update_self ..
    rw [gone] at entry
    cases entry
  · intro own other current live
    obtain ⟨was, alive⟩ := (removed other current).mp live
    by_cases same : other = workerId
    · subst same
      have lives := alive (own current was).symm
      rw [dead] at lives
      cases lives
    · exact (Function.update_of_ne same ..).trans (entries other current was)

theorem heartbeat_reaches_iff (workerId : String) (messageId : Uuid) :
    (streams.receive text sender connection (.heartbeat (some workerId) messageId)).Reaches text ↔
      (connection.workerId = none →
        ∀ current, streams.Current workerId current → current < sender) := by
  unfold receive
  rw [reaches_send_iff]
  by_cases unnamed : connection.workerId = none
  · rw [register_reaches_iff text before stored unnamed]
    exact ⟨fun older _ => older, fun older => older unnamed⟩
  · unfold register
    rw [if_neg unnamed]
    exact iff_of_true before fun first => absurd first unnamed

theorem self_terminate_reaches_iff (workerId : String) :
    (streams.receive text sender connection (.selfTerminate workerId)).Reaches text ↔
      ((text.parse workerId).isSome = true →
        ∀ current, streams.Current workerId current → current = sender) := by
  have dead : ({ connection with selfTerminated := true } : Connection Payload).live = false := by
    simp [Connection.live]
  have sameWorker : ({ connection with selfTerminated := true } : Connection Payload).workerId =
      connection.workerId := rfl
  unfold receive
  dsimp only
  by_cases valid : (text.parse workerId).isSome = true
  · rw [if_pos valid, remove_reaches_iff text before stored sameWorker dead]
    exact ⟨fun own _ => own, fun own => own valid⟩
  · rw [if_neg valid]
    apply iff_of_true
    · apply reaches_put text before stored sameWorker
      simp [dead]
    · intro parsed
      exact absurd parsed valid

theorem clean_up_reaches_iff (ended : connection.phase = .ended) :
    (streams.cleanUp sender connection).Reaches text ↔
      ∀ workerId, connection.workerId = some workerId →
        ∀ current, ¬streams.Current workerId current := by
  have notCurrent : ∀ workerId, ¬streams.Current workerId sender := by
    intro workerId current
    obtain ⟨taker, found, -, open_⟩ := current.live
    rw [stored] at found
    cases found
    simp [Connection.live, ended] at open_
  unfold cleanUp
  cases named : connection.workerId with
  | none =>
      apply iff_of_true
      · apply reaches_put text before stored named.symm
        simp [Connection.live]
      · intro workerId same
        cases same
  | some workerId =>
      dsimp only
      rw [remove_reaches_iff text before stored named.symm (by simp [Connection.live])]
      constructor
      · intro own name same current live
        cases same
        rw [own current live] at live
        exact notCurrent workerId live
      · intro nobody current live
        exact absurd live (nobody workerId rfl current)

theorem proceed_reaches_iff (occurrence : Occurrence) :
    (streams.proceed text sender connection occurrence).Reaches text ↔
      streams.LeavesCurrent text sender connection occurrence := by
  cases occurrence with
  | receiverDropped =>
      apply iff_of_true _ trivial
      apply reaches_put text before stored
      · rfl
      · simp [Connection.live]
  | inboundEnded =>
      apply iff_of_true _ trivial
      unfold proceed
      dsimp only
      split_ifs
      · apply reaches_put text before stored
        · rfl
        · simp [Connection.live]
      · exact before
  | cleanedUp =>
      unfold proceed LeavesCurrent
      dsimp only
      by_cases ended : connection.phase = .ended
      · rw [if_pos ended, clean_up_reaches_iff text before stored ended]
        exact ⟨fun nobody _ => nobody, fun nobody => nobody ended⟩
      · rw [if_neg ended]
        exact iff_of_true before fun late => absurd late ended
  | received payload =>
      unfold proceed
      dsimp only
      by_cases reading : connection.phase = .reading
      · rw [if_pos reading]
        cases payload with
        | heartbeat name messageId =>
            cases name with
            | none => exact iff_of_true before trivial
            | some workerId =>
                rw [heartbeat_reaches_iff text before stored]
                exact ⟨fun older _ => older, fun older => older reading⟩
        | selfTerminate workerId =>
            rw [self_terminate_reaches_iff text before stored]
            exact ⟨fun own _ => own, fun own => own reading⟩
        | other => exact iff_of_true before trivial
      · rw [if_neg reading]
        apply iff_of_true before
        cases payload with
        | heartbeat name messageId => cases name <;> simp [LeavesCurrent, reading]
        | selfTerminate workerId => simp [LeavesCurrent, reading]
        | other => trivial

end Reached

/-- From a state in which everyone is reached, the next is one exactly if the event
leaves the current entries alone. -/
theorem step_reaches_iff (before : streams.Reaches text) (event : Event) :
    (streams.step text event).Reaches text ↔ streams.Undisturbed text event := by
  cases event with
  | opened => exact iff_of_true (opened_reaches text before) trivial
  | on sender occurrence =>
      unfold step Undisturbed
      dsimp only
      cases stored : streams.connections[sender]? with
      | none =>
          apply iff_of_true before
          intro connection found
          cases found
      | some connection =>
          dsimp only
          rw [proceed_reaches_iff text before stored]
          constructor
          · intro leaves other found
            cases found
            exact leaves
          · intro leaves
            exact leaves connection rfl

end Steps

end Streams

/-- The worker reconnects before its old stream is cleaned up. -/
def lateCleanUp (workerId : String) : List Event :=
  [.opened, .on 0 (.received (.heartbeat (some workerId) 0)), .on 0 .inboundEnded,
    .opened, .on 1 (.received (.heartbeat (some workerId) 1)), .on 0 .cleanedUp]

end HodeiJobs.Interface.WorkerStreams
