import HodeiJobs.Library.Casts
import HodeiJobs.Library.Channel

/-!
# The log stream of a job

`LogStreamService` and `subscribe_logs` for one job and one subscriber, step by step: a call
of `append_log` and the call of `subscribe_logs` go on side by side, with the task that
forwards entries and the client that reads them. A step that waits, for room in a channel or
for a lock on a shard of a map, is one that cannot be made.
-/

namespace HodeiJobs.Interface.LogStream

open HodeiJobs.Library

/-! ## Entries -/

structure Timestamp where
  seconds : Int
  nanos : Int
  deriving DecidableEq

structure LogEntry where
  jobId : String
  line : String
  isStderr : Bool
  timestamp : Option Timestamp
  deriving DecidableEq

structure BufferedLogEntry extends LogEntry where
  sequence : Nat
  deriving DecidableEq

structure JobLogEntry extends LogEntry where
  sequence : Int
  deriving DecidableEq

/-- The message for an entry, with `sequence as i64`. -/
def LogEntry.message (entry : LogEntry) (sequence : Nat) : JobLogEntry :=
  { entry with sequence := asI64 sequence }

structure SubscribeLogsRequest where
  jobId : String
  includeHistory : Bool
  tailLines : Int

def logBufferSize : Nat := 1000

/-- The buffer after a push, for which the first entry may be removed. -/
def pushLog (buffer : List BufferedLogEntry) (entry : BufferedLogEntry) :
    List BufferedLogEntry :=
  (if logBufferSize ≤ buffer.length then buffer.tail else buffer) ++ [entry]

def getLogsWithSequence (buffer : List BufferedLogEntry) (limit sinceSequence : Option Nat) :
    List BufferedLogEntry :=
  let filtered := buffer.filter fun entry => sinceSequence.all (· < entry.sequence)
  (filtered.reverse.take (limit.getD filtered.length)).reverse

/-- What `subscribe_logs` sends before it subscribes. -/
def SubscribeLogsRequest.history (request : SubscribeLogsRequest)
    (buffer : List BufferedLogEntry) : List BufferedLogEntry :=
  if request.includeHistory then
    getLogsWithSequence buffer
      (if 0 < request.tailLines then some request.tailLines.toNat else none) none
  else []

/-! ## States -/

/-- Where the call of `append_log` is. -/
inductive Appending where
  | idle
  | numbered (entry : BufferedLogEntry)
  | buffered (entry : BufferedLogEntry)

/-- Where the call of `subscribe_logs` is. While `subscribe` replays the buffer it holds a
lock on it. -/
inductive Call where
  | notMade
  | sendingHistory (rest : List BufferedLogEntry)
  | subscribing
  | replaying (rest : List BufferedLogEntry)
  | registering
  | returned
  deriving DecidableEq

/-- Where the spawned task is. -/
inductive Forwarding where
  | waiting
  | received (entry : BufferedLogEntry)
  | numbered (entry : BufferedLogEntry) (sequence : Nat)

/-- A message to the client, and the entry it is about. -/
structure Delivery where
  entry : BufferedLogEntry
  message : JobLogEntry
  deriving DecidableEq

/-- The channel of `subscribe` carries a `LogEntry`: no step looks at the number of an entry
in it. What the client has read and what it is owed are recorded for the proofs: the
entries in the buffer when the call was made, and those that were pushed since, until the
subscribers were closed. A removal of subscribers before this one is registered does not
close it. -/
structure Stream where
  sequence : Nat
  logs : List BufferedLogEntry
  appending : Appending
  call : Call
  subscribed : Bool
  closed : Bool
  entries : Channel BufferedLogEntry 100
  forwarding : Forwarding
  output : Channel Delivery 100
  read : List Delivery
  owed : List BufferedLogEntry

def Stream.initial : Stream where
  sequence := 0
  logs := []
  appending := .idle
  call := .notMade
  subscribed := false
  closed := false
  entries := .empty _ _
  forwarding := .waiting
  output := .empty _ _
  read := []
  owed := []

/-! ## Steps -/

/-- The tasks that go on by themselves; the last one is the client's. -/
inductive Task where
  | push
  | notify
  | call
  | receive
  | number
  | forward
  | read

inductive Move where
  | append (entry : LogEntry)
  | subscribe (request : SubscribeLogsRequest)
  | close
  | work (task : Task)

namespace Stream

variable (stream : Stream)

/-- `append_log` up to its first wait. -/
def append (entry : LogEntry) : Option Stream :=
  match stream.appending with
  | .idle =>
      let sequence := stream.sequence + 1
      some { stream with sequence := sequence, appending := .numbered { entry with sequence } }
  | _ => none

def owes (entry : BufferedLogEntry) : List BufferedLogEntry :=
  match stream.call with
  | .notMade => stream.owed
  | _ => if stream.closed then stream.owed else stream.owed ++ [entry]

def push : Option Stream :=
  match stream.appending, stream.call with
  | .numbered _, .replaying _ => none
  | .numbered entry, _ =>
      some { stream with
        logs := pushLog stream.logs entry, appending := .buffered entry, owed := stream.owes entry }
  | _, _ => none

def notify : Option Stream :=
  match stream.appending with
  | .buffered entry =>
      if stream.subscribed then
        (stream.entries.send entry).map fun entries =>
          { stream with entries, appending := .idle }
      else some { stream with appending := .idle }
  | _ => none

/-- The call of `subscribe_logs` up to its first wait. -/
def subscribe (request : SubscribeLogsRequest) : Option Stream :=
  match stream.call with
  | .notMade =>
      some { stream with
        call := .sendingHistory (request.history stream.logs), owed := stream.logs }
  | _ => none

def callStep : Option Stream :=
  match stream.call with
  | .sendingHistory (entry :: rest) =>
      (stream.output.send ⟨entry, entry.message entry.sequence⟩).map fun output =>
        { stream with output, call := .sendingHistory rest }
  | .sendingHistory [] => some { stream with call := .subscribing }
  | .subscribing => some { stream with call := .replaying stream.logs }
  | .replaying (entry :: rest) =>
      (stream.entries.send entry).map fun entries =>
        { stream with entries, call := .replaying rest }
  | .replaying [] => some { stream with call := .registering }
  | .registering => some { stream with call := .returned, subscribed := true }
  | .notMade | .returned => none

/-- The task is spawned when the call returns. -/
def receive : Option Stream :=
  match stream.call, stream.forwarding with
  | .returned, .waiting =>
      stream.entries.receive.map fun (entry, entries) =>
        { stream with entries, forwarding := .received entry }
  | _, _ => none

/-- The number is that of the last entry that `append_log` has numbered. -/
def number : Option Stream :=
  match stream.forwarding with
  | .received entry => some { stream with forwarding := .numbered entry stream.sequence }
  | _ => none

def forward : Option Stream :=
  match stream.forwarding with
  | .numbered entry sequence =>
      (stream.output.send ⟨entry, entry.message sequence⟩).map fun output =>
        { stream with output, forwarding := .waiting }
  | _ => none

/-- The client has the stream once the call has returned. -/
def readNext : Option Stream :=
  match stream.call with
  | .returned =>
      stream.output.receive.map fun (delivery, output) =>
        { stream with output, read := stream.read ++ [delivery] }
  | _ => none

/-- `close_subscribers`. -/
def close : Stream :=
  { stream with subscribed := false, closed := stream.closed || stream.subscribed }

def perform : Move → Option Stream
  | .append entry => stream.append entry
  | .subscribe request => stream.subscribe request
  | .close => some stream.close
  | .work .push => stream.push
  | .work .notify => stream.notify
  | .work .call => stream.callStep
  | .work .receive => stream.receive
  | .work .number => stream.number
  | .work .forward => stream.forward
  | .work .read => stream.readNext

def step (move : Move) : Stream := (stream.perform move).getD stream

/-- Nothing goes on without a new call. -/
def Quiet : Prop := ∀ task, stream.perform (.work task) = none

end Stream

end HodeiJobs.Interface.LogStream
