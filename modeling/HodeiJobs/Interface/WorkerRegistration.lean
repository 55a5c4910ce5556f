import HodeiJobs.Interface.WorkerMessages

/-!
# Registration of workers

`generate_otp`, `register` and `unregister_worker` of `WorkerAgentServiceImpl` without
a token store and outside development mode, with the shard locks of the `DashMap` of
the tokens: an entry holds the lock of its shard until it is dropped, and a call that
needs a lock which is never released does not return.
-/

namespace HodeiJobs.Interface.WorkerRegistration

open HodeiJobs.Library HodeiJobs.Execution
open HodeiJobs.Sagas (Duration Uuid)

/-! ## The service -/

/-- Times are instants in nanoseconds. -/
structure InMemoryOtpState where
  workerId : String
  createdAt : Nat
  used : Bool
  deriving DecidableEq

/-- The session of each worker id, the tokens, and the shards of the tokens that are
locked for good. -/
structure Service where
  workers : String → Option String
  otpTokens : String → Option InMemoryOtpState
  lockedShards : List Nat

/-- What becomes of a call. -/
inductive Ending (Result : Type) where
  | returns (result : Except Status Result)
  | hangs

structure RegisterWorkerResponse where
  workerId : String
  success : Bool
  message : String
  sessionId : String
  deriving DecidableEq

/-- A registration: the request, in which both the worker info and its worker id may be
missing, the ids that are drawn for it, and the answer of `on_worker_registered`. -/
structure Registration where
  workerInfo : Option (Option String)
  authToken : String
  sessionId : String
  drawnWorkerId : Uuid
  drawnSessionId : Uuid
  onWorkerRegistered : String → Except Status Unit

def reconnectedMessage : String := "Worker reconnected successfully"

def registeredMessage : String := "Worker registered successfully"

def otpLifetime : Duration := .fromSecs 300

namespace Registration

variable (text : UuidText) (registration : Registration)

def workerId : String :=
  (registration.workerInfo.getD none).getD ("worker-" ++ text.display registration.drawnWorkerId)

def newSessionId : String := "sess_" ++ text.display registration.drawnSessionId

end Registration

namespace Service

def new : Service := ⟨fun _ => none, fun _ => none, []⟩

def setToken (service : Service) (token : String) (otp : InMemoryOtpState) : Service :=
  { service with otpTokens := Function.update service.otpTokens token (some otp) }

def setWorker (service : Service) (workerId : String) (sessionId : Option String) : Service :=
  { service with workers := Function.update service.workers workerId sessionId }

/-- `generate_otp` with the token that is drawn for it. -/
def generateOtp (text : UuidText) (shard : String → Nat) (service : Service) (now : Nat)
    (workerId : String) (drawn : Uuid) : Ending String × Service :=
  match text.parse workerId with
  | none => (.returns (.error (.invalidArgument "worker_id must be a UUID")), service)
  | some uuid =>
      let token := text.display drawn
      if shard token ∈ service.lockedShards then (.hangs, service)
      else (.returns (.ok token), service.setToken token ⟨text.display uuid, now, false⟩)

/-- `validate_otp`. The removal of an expired token asks for the lock of the shard
that the entry of the token still holds. -/
def validateOtp (text : UuidText) (shard : String → Nat) (service : Service) (now : Nat)
    (token workerId : String) : Ending String × Service :=
  match text.parse workerId with
  | none => (.returns (.error (.invalidArgument "worker_id must be a UUID")), service)
  | some _ =>
      if shard token ∈ service.lockedShards then (.hangs, service)
      else
        let otp := (service.otpTokens token).getD ⟨"", now, true⟩
        let service := service.setToken token otp
        if otpLifetime.nanos < now - otp.createdAt then
          (.hangs, { service with lockedShards := shard token :: service.lockedShards })
        else if otp.used then
          (.returns (.error (.unauthenticated "OTP token already used")), service)
        else (.returns (.ok otp.workerId), service.setToken token { otp with used := true })

/-- A session that is still known is recovered without a token. -/
def recovers (text : UuidText) (service : Service) (registration : Registration) : Bool :=
  decide (registration.sessionId ≠ "" ∧
    service.workers (registration.workerId text) = some registration.sessionId)

/-- The registration after `validate_otp`. -/
def enroll (text : UuidText) (registration : Registration) :
    Ending String × Service → Ending RegisterWorkerResponse × Service
  | (.hangs, service) => (.hangs, service)
  | (.returns (.error status), service) => (.returns (.error status), service)
  | (.returns (.ok validated), service) =>
      match registration.onWorkerRegistered validated with
      | .error status => (.returns (.error status), service)
      | .ok _ =>
          (.returns (.ok ⟨registration.workerId text, true, registeredMessage,
            registration.newSessionId text⟩),
          service.setWorker (registration.workerId text) (some (registration.newSessionId text)))

def register (text : UuidText) (shard : String → Nat) (service : Service) (now : Nat)
    (registration : Registration) : Ending RegisterWorkerResponse × Service :=
  match registration.workerInfo with
  | none => (.returns (.error (.invalidArgument "worker_info is required")), service)
  | some _ =>
      if service.recovers text registration then
        (.returns (.ok ⟨registration.workerId text, true, reconnectedMessage,
          registration.sessionId⟩), service)
      else
        enroll text registration (service.validateOtp text shard now registration.authToken
          (registration.workerId text))

/-- Whether a session was removed. -/
def unregisterWorker (service : Service) (workerId : Option String) : Ending Bool × Service :=
  match workerId with
  | none => (.returns (.error (.invalidArgument "worker_id is required")), service)
  | some workerId =>
      (.returns (.ok (service.workers workerId).isSome), service.setWorker workerId none)

end Service

/-! ## Histories of calls -/

inductive Call where
  | generateOtp (workerId : String) (drawn : Uuid)
  | register (registration : Registration)
  | unregisterWorker (workerId : Option String)

/-- The token that is drawn for the call. -/
def Call.drawn : Call → Option Uuid
  | .generateOtp _ drawn => some drawn
  | _ => none

/-- A call that was made, and how it ended. -/
inductive Ended where
  | generateOtp (workerId : String) (ending : Ending String)
  | register (registration : Registration) (ending : Ending RegisterWorkerResponse)
  | unregisterWorker (workerId : Option String) (ending : Ending Bool)

structure Record where
  time : Nat
  call : Ended

/-- The service and the calls so far, the last one first. -/
structure System where
  service : Service
  log : List Record

def System.new : System := ⟨.new, []⟩

def perform (text : UuidText) (shard : String → Nat) (service : Service) (now : Nat) :
    Call → Ended × Service
  | .generateOtp workerId drawn =>
      let done := service.generateOtp text shard now workerId drawn
      (.generateOtp workerId done.1, done.2)
  | .register registration =>
      let done := service.register text shard now registration
      (.register registration done.1, done.2)
  | .unregisterWorker workerId =>
      let done := service.unregisterWorker workerId
      (.unregisterWorker workerId done.1, done.2)

def step (text : UuidText) (shard : String → Nat) (system : System) (call : Nat × Call) :
    System :=
  let done := perform text shard system.service call.1 call.2
  ⟨done.2, ⟨call.1, done.1⟩ :: system.log⟩

namespace Record

/-- The call generated the token for the worker id. -/
def Issues (token workerId : String) (record : Record) : Prop :=
  record.call = .generateOtp workerId (.returns (.ok token))

/-- The token of a successful registration, unless a session was recovered. -/
def usedToken (record : Record) : Option String :=
  match record.call with
  | .register registration (.returns (.ok response)) =>
      if response.message = registeredMessage then some registration.authToken else none
  | _ => none

/-- The session that a registration gave to the worker id. -/
def sessionFor (workerId : String) (record : Record) : Option String :=
  match record.call with
  | .register _ (.returns (.ok response)) =>
      if response.workerId = workerId then some response.sessionId else none
  | _ => none

end Record

/-- The session id last issued to the worker id. -/
def lastSession (log : List Record) (workerId : String) : Option String :=
  log.findSome? (Record.sessionFor workerId)

/-- The token was generated for this worker at most 300 s ago, and not used since. -/
def OwnFreshToken (text : UuidText) (log : List Record) (now : Nat) (token workerId : String) :
    Prop :=
  (∃ record ∈ log, ∃ named, record.Issues token named ∧ text.parse named = text.parse workerId ∧
    record.time ≤ now ∧ now ≤ record.time + otpLifetime.nanos) ∧
  ∀ record ∈ log, record.usedToken ≠ some token

/-- The token was generated more than 300 s ago. -/
def Expired (log : List Record) (now : Nat) (token : String) : Prop :=
  ∃ record ∈ log, ∃ named, record.Issues token named ∧ record.time + otpLifetime.nanos < now

/-- What a registration is for: it succeeds for the holder of the last session or of an
own fresh token only, and with an expired token it still returns. -/
def MeetsContract (text : UuidText) (shard : String → Nat) (system : System) :
    Nat × Call → Prop
  | (now, .register registration) =>
      let ending := (system.service.register text shard now registration).1
      (∀ response, ending = .returns (.ok response) →
        lastSession system.log (registration.workerId text) = some registration.sessionId ∨
          OwnFreshToken text system.log now registration.authToken (registration.workerId text)) ∧
      (Expired system.log now registration.authToken → ending ≠ .hangs)
  | _ => True

/-- Each token admits at most one registration. -/
def AdmitsOnce (system : System) : Prop :=
  ∀ token, system.log.countP (fun record => decide (record.usedToken = some token)) ≤ 1

/-- No call is made before an earlier one, and no token is drawn again. -/
def Assumed (text : UuidText) (system : System) : Nat × Call → Prop
  | (now, call) =>
      (∀ record ∈ system.log, record.time ≤ now) ∧
      ∀ workerId drawn, call = .generateOtp workerId drawn →
        ∀ record ∈ system.log, ∀ named, ¬record.Issues (text.display drawn) named

/-- A registration that comes to the tokens. -/
def AsksForToken (text : UuidText) (service : Service) (registration : Registration) : Prop :=
  registration.workerInfo.isSome = true ∧ service.recovers text registration = false ∧
    (text.parse (registration.workerId text)).isSome = true

/-- It does not present an expired token, and an unused token with which it would be
registered is of its own worker, or it presents the last session of that worker as well. -/
def Honest (text : UuidText) (shard : String → Nat) (system : System) : Nat × Call → Prop
  | (now, .register registration) =>
      AsksForToken text system.service registration →
        ¬Expired system.log now registration.authToken ∧
        ∀ otp, system.service.otpTokens registration.authToken = some otp → otp.used = false →
          shard registration.authToken ∉ system.service.lockedShards →
          registration.onWorkerRegistered otp.workerId = .ok () →
            text.parse otp.workerId = text.parse (registration.workerId text) ∨
              lastSession system.log (registration.workerId text) = some registration.sessionId
  | _ => True

/-! ## What a registration does -/

/-- Tokens may have been added or marked, always as used, and keep their worker and age. -/
def SpendsTokens (before after : Service) : Prop :=
  ∀ token, after.otpTokens token = before.otpTokens token ∨
    ∃ otp, after.otpTokens token = some otp ∧ otp.used = true ∧
      ∀ known, before.otpTokens token = some known →
        otp.workerId = known.workerId ∧ otp.createdAt = known.createdAt

section Registering

variable (text : UuidText) (shard : String → Nat) (service : Service) (now : Nat)

theorem set_token_spends {token : String} {otp : InMemoryOtpState}
    (spent : service.otpTokens token = some otp ∨ otp.used = true)
    (same : ∀ known, service.otpTokens token = some known →
      otp.workerId = known.workerId ∧ otp.createdAt = known.createdAt) :
    SpendsTokens service (service.setToken token otp) := by
  intro other
  by_cases own : other = token
  · subst own
    have stored : (service.setToken other otp).otpTokens other = some otp :=
      Function.update_self ..
    rcases spent with known | used
    · exact .inl (stored.trans known.symm)
    · exact .inr ⟨otp, stored, used, same⟩
  · exact .inl (Function.update_of_ne own ..)

theorem mark_used_spends {token : String} {otp : InMemoryOtpState}
    (found : service.otpTokens token = some otp) :
    SpendsTokens service (service.setToken token { otp with used := true }) := by
  apply set_token_spends service (.inr rfl)
  intro known same
  rw [found] at same
  cases same
  exact ⟨rfl, rfl⟩

/-- A token is accepted if it is known, unused and not expired; a hung call keeps the
shard of its token. -/
theorem validate_otp_cases (token workerId : String) :
    (∃ otp, service.otpTokens token = some otp ∧ otp.used = false ∧
      now - otp.createdAt ≤ otpLifetime.nanos ∧ shard token ∉ service.lockedShards ∧
      (text.parse workerId).isSome = true ∧
      service.validateOtp text shard now token workerId =
        (.returns (.ok otp.workerId), service.setToken token { otp with used := true })) ∨
    ((∀ named, (service.validateOtp text shard now token workerId).1 ≠ .returns (.ok named)) ∧
      (service.validateOtp text shard now token workerId).2.workers = service.workers ∧
      SpendsTokens service (service.validateOtp text shard now token workerId).2 ∧
      ((service.validateOtp text shard now token workerId).1 = .hangs ↔
        (text.parse workerId).isSome = true ∧ (shard token ∈ service.lockedShards ∨
          ∃ otp, service.otpTokens token = some otp ∧
            otpLifetime.nanos < now - otp.createdAt))) := by
  have unchanged : SpendsTokens service service := fun _ => .inl rfl
  unfold Service.validateOtp
  cases parsed : text.parse workerId with
  | none =>
      right
      simp [unchanged]
  | some uuid =>
      dsimp only
      by_cases locked : shard token ∈ service.lockedShards
      · right
        simp [locked, unchanged]
      · rw [if_neg locked]
        cases found : service.otpTokens token with
        | none =>
            right
            have spends : SpendsTokens service (service.setToken token ⟨"", now, true⟩) := by
              apply set_token_spends service (.inr rfl)
              simp [found]
            simp only [Option.getD_none, Nat.sub_self, Nat.not_lt_zero, if_false, if_true]
            refine ⟨?_, rfl, spends, ?_⟩
            · intro named same
              cases same
            · simp [locked]
        | some otp =>
            have keeps : SpendsTokens service (service.setToken token otp) := by
              apply set_token_spends service (.inl found)
              intro known same
              rw [found] at same
              cases same
              exact ⟨rfl, rfl⟩
            dsimp only [Option.getD_some]
            by_cases expired : otpLifetime.nanos < now - otp.createdAt
            · right
              rw [if_pos expired]
              refine ⟨?_, rfl, keeps, ?_⟩
              · intro named same
                cases same
              · simp [expired]
            · rw [if_neg expired]
              by_cases spent : otp.used = true
              · right
                rw [if_pos spent]
                refine ⟨?_, rfl, keeps, ?_⟩
                · intro named same
                  cases same
                · simp [locked]
                  omega
              · left
                rw [if_neg spent]
                refine ⟨otp, rfl, by simpa using spent, Nat.le_of_not_lt expired, locked, rfl, ?_⟩
                simp [Service.setToken]

theorem validate_otp_accepts {token workerId : String} {otp : InMemoryOtpState}
    (found : service.otpTokens token = some otp) (unused : otp.used = false)
    (young : now - otp.createdAt ≤ otpLifetime.nanos)
    (unlocked : shard token ∉ service.lockedShards)
    (parsed : (text.parse workerId).isSome = true) :
    (service.validateOtp text shard now token workerId).1 = .returns (.ok otp.workerId) := by
  obtain ⟨uuid, valid⟩ := Option.isSome_iff_exists.mp parsed
  unfold Service.validateOtp
  rw [valid]
  dsimp only
  rw [if_neg unlocked, found, Option.getD_some, if_neg (Nat.not_lt_of_le young), unused]
  rfl

/-- What is no valid token does not become a registration. -/
theorem enroll_of_invalid (registration : Registration) {validated : Ending String × Service}
    (invalid : ∀ named, validated.1 ≠ .returns (.ok named)) :
    (∀ response, (Service.enroll text registration validated).1 ≠ .returns (.ok response)) ∧
      (Service.enroll text registration validated).2 = validated.2 ∧
      ((Service.enroll text registration validated).1 = .hangs ↔ validated.1 = .hangs) := by
  obtain ⟨ending, after⟩ := validated
  cases ending with
  | hangs => simp [Service.enroll]
  | returns result =>
      cases result with
      | error status => simp [Service.enroll]
      | ok named => exact absurd rfl (invalid named)

/-- The token of the registration admits it. -/
structure Admissible (registration : Registration) (otp : InMemoryOtpState) : Prop where
  asked : AsksForToken text service registration
  found : service.otpTokens registration.authToken = some otp
  unused : otp.used = false
  young : now - otp.createdAt ≤ otpLifetime.nanos
  unlocked : shard registration.authToken ∉ service.lockedShards
  accepted : registration.onWorkerRegistered otp.workerId = .ok ()

/-- A registration that fails or hangs leaves the sessions and only spends tokens. -/
structure Rejected (registration : Registration) : Prop where
  refused : ∀ response, (service.register text shard now registration).1 ≠
    .returns (.ok response)
  sameWorkers : (service.register text shard now registration).2.workers = service.workers
  spends : SpendsTokens service (service.register text shard now registration).2
  inadmissible : ∀ otp, ¬Admissible text shard service now registration otp
  hangs : (service.register text shard now registration).1 = .hangs ↔
    AsksForToken text service registration ∧
      (shard registration.authToken ∈ service.lockedShards ∨
        ∃ otp, service.otpTokens registration.authToken = some otp ∧
          otpLifetime.nanos < now - otp.createdAt)

section Rejection

variable {text shard service now} {registration : Registration}

theorem missing_info_rejected (info : registration.workerInfo = none) :
    Rejected text shard service now registration := by
  have unasked : ¬AsksForToken text service registration := by
    intro asked
    have present := asked.1
    rw [info] at present
    cases present
  have result : service.register text shard now registration =
      (.returns (.error (.invalidArgument "worker_info is required")), service) := by
    unfold Service.register
    rw [info]
  constructor
  · simp [result]
  · rw [result]
  · rw [result]
    exact fun _ => .inl rfl
  · intro otp admissible
    exact unasked admissible.asked
  · simp [result, unasked]

/-- Without a known session the tokens decide. -/
theorem register_eq_enroll {named : Option String} (info : registration.workerInfo = some named)
    (unknown : ¬service.recovers text registration = true) :
    service.register text shard now registration =
      Service.enroll text registration (service.validateOtp text shard now
        registration.authToken (registration.workerId text)) := by
  unfold Service.register
  rw [info]
  dsimp only
  rw [if_neg unknown]

/-- The token was accepted, and then `on_worker_registered` failed. -/
theorem failed_rejected {otp : InMemoryOtpState} {status : Status}
    (found : service.otpTokens registration.authToken = some otp)
    (young : now - otp.createdAt ≤ otpLifetime.nanos)
    (unlocked : shard registration.authToken ∉ service.lockedShards)
    (answer : registration.onWorkerRegistered otp.workerId = .error status)
    (result : service.register text shard now registration = (.returns (.error status),
      service.setToken registration.authToken { otp with used := true })) :
    Rejected text shard service now registration := by
  constructor
  · simp [result]
  · rw [result]
    rfl
  · rw [result]
    exact mark_used_spends service found
  · intro other admissible
    have stored := admissible.found
    rw [found] at stored
    cases stored
    rw [admissible.accepted] at answer
    cases answer
  · simp [result, unlocked, found]
    omega

theorem invalid_rejected
    (invalid : ∀ named, (service.validateOtp text shard now registration.authToken
      (registration.workerId text)).1 ≠ .returns (.ok named))
    (same : (service.validateOtp text shard now registration.authToken
      (registration.workerId text)).2.workers = service.workers)
    (spends : SpendsTokens service (service.validateOtp text shard now registration.authToken
      (registration.workerId text)).2)
    (hangs : (service.validateOtp text shard now registration.authToken
        (registration.workerId text)).1 = .hangs ↔
      AsksForToken text service registration ∧
        (shard registration.authToken ∈ service.lockedShards ∨
          ∃ otp, service.otpTokens registration.authToken = some otp ∧
            otpLifetime.nanos < now - otp.createdAt))
    (result : service.register text shard now registration =
      Service.enroll text registration (service.validateOtp text shard now
        registration.authToken (registration.workerId text))) :
    Rejected text shard service now registration := by
  obtain ⟨refused, kept, stuck⟩ := enroll_of_invalid text registration invalid
  constructor
  · rw [result]
    exact refused
  · rw [result, kept, same]
  · rw [result, kept]
    exact spends
  · intro otp admissible
    have valid := validate_otp_accepts text shard service now admissible.found
      admissible.unused admissible.young admissible.unlocked admissible.asked.2.2
    exact invalid otp.workerId valid
  · rw [result, stuck, hangs]

end Rejection

theorem register_cases (registration : Registration) :
    Rejected text shard service now registration ∨
    (service.workers (registration.workerId text) = some registration.sessionId ∧
      ¬AsksForToken text service registration ∧
      service.register text shard now registration =
        (.returns (.ok ⟨registration.workerId text, true, reconnectedMessage,
          registration.sessionId⟩), service)) ∨
    ∃ otp, Admissible text shard service now registration otp ∧
      service.register text shard now registration =
        (.returns (.ok ⟨registration.workerId text, true, registeredMessage,
          registration.newSessionId text⟩),
        (service.setToken registration.authToken { otp with used := true }).setWorker
          (registration.workerId text) (some (registration.newSessionId text))) := by
  cases info : registration.workerInfo with
  | none => exact .inl (missing_info_rejected info)
  | some named =>
      by_cases recovered : service.recovers text registration = true
      · right
        left
        refine ⟨(of_decide_eq_true recovered).2, ?_, ?_⟩
        · intro asked
          rw [asked.2.1] at recovered
          cases recovered
        · unfold Service.register
          rw [info]
          dsimp only
          rw [if_pos recovered]
      · have result : service.register text shard now registration = _ :=
          register_eq_enroll info recovered
        have asks : AsksForToken text service registration ↔
            (text.parse (registration.workerId text)).isSome = true := by
          simp [AsksForToken, info, recovered]
        rcases validate_otp_cases text shard service now registration.authToken
          (registration.workerId text) with
          ⟨otp, found, unused, young, unlocked, parsed, valid⟩ | ⟨invalid, same, spends, hangs⟩
        · rw [valid] at result
          cases answer : registration.onWorkerRegistered otp.workerId with
          | ok _ =>
              right
              right
              refine ⟨otp, ⟨asks.mpr parsed, found, unused, young, unlocked, answer⟩, ?_⟩
              rw [result]
              simp [Service.enroll, answer]
          | error status =>
              left
              apply failed_rejected found young unlocked answer
              rw [result]
              simp [Service.enroll, answer]
        · left
          rw [← asks] at hangs
          exact invalid_rejected invalid same spends hangs result

end Registering

/-! ## What the service knows of the history -/

def Generated (log : List Record) (token : String) : Prop :=
  ∃ record ∈ log, ∃ named, record.Issues token named

theorem Generated.later {log : List Record} {token : String} (generated : Generated log token)
    (record : Record) : Generated (record :: log) token := by
  obtain ⟨issue, member, issues⟩ := generated
  exact ⟨issue, List.mem_cons_of_mem record member, issues⟩

/-- The tables agree with the log. -/
structure Consistent (text : UuidText) (system : System) : Prop where
  session : ∀ workerId sessionId, system.service.workers workerId = some sessionId →
    lastSession system.log workerId = some sessionId
  issued : ∀ record ∈ system.log, ∀ token named, record.Issues token named →
    ∃ otp, system.service.otpTokens token = some otp ∧ otp.createdAt = record.time ∧
      text.parse otp.workerId = text.parse named
  unused : ∀ token otp, system.service.otpTokens token = some otp → otp.used = false →
    Generated system.log token ∧ ∀ record ∈ system.log, record.usedToken ≠ some token
  used : ∀ record ∈ system.log, ∀ token, record.usedToken = some token →
    Generated system.log token
  once : AdmitsOnce system

theorem new_consistent (text : UuidText) : Consistent text .new := by
  constructor
  · intro workerId sessionId known
    cases known
  · intro record member
    cases member
  · intro token otp found
    cases found
  · intro record member
    cases member
  · intro token
    exact Nat.zero_le 1

section Consistency

variable (text : UuidText) {system : System} (consistent : Consistent text system)
include consistent

/-- After a call that generates no token: it spends tokens only, and a token that it
uses was unused. -/
theorem consistent_cons {after : Service} {record : Record}
    (spends : SpendsTokens system.service after)
    (noIssue : ∀ token named, ¬record.Issues token named)
    (session : ∀ workerId sessionId, after.workers workerId = some sessionId →
      lastSession (record :: system.log) workerId = some sessionId)
    (use : ∀ token, record.usedToken = some token →
      (∃ otp, system.service.otpTokens token = some otp ∧ otp.used = false) ∧
        ∃ otp, after.otpTokens token = some otp ∧ otp.used = true) :
    Consistent text ⟨after, record :: system.log⟩ := by
  have notUsed : ∀ token, record.usedToken = some token →
      ∀ other ∈ system.log, other.usedToken ≠ some token := by
    intro token uses
    obtain ⟨⟨otp, found, unused⟩, -⟩ := use token uses
    exact (consistent.unused token otp found unused).2
  constructor
  · exact session
  · rw [List.forall_mem_cons]
    constructor
    · intro token named issues
      exact absurd issues (noIssue token named)
    · intro other earlier token named issues
      obtain ⟨otp, found, created, worker⟩ := consistent.issued other earlier token named issues
      rcases spends token with kept | ⟨spent, stored, -, same⟩
      · exact ⟨otp, kept.trans found, created, worker⟩
      · obtain ⟨sameWorker, sameTime⟩ := same otp found
        refine ⟨spent, stored, sameTime.trans created, ?_⟩
        rw [sameWorker]
        exact worker
  · intro token otp found unused
    rcases spends token with kept | ⟨spent, stored, isUsed, -⟩
    · obtain ⟨generated, nobody⟩ := consistent.unused token otp (kept.symm.trans found) unused
      refine ⟨generated.later record, ?_⟩
      rw [List.forall_mem_cons]
      refine ⟨?_, nobody⟩
      intro uses
      obtain ⟨-, marked, stored, isUsed⟩ := use token uses
      rw [found] at stored
      cases stored
      rw [unused] at isUsed
      cases isUsed
    · rw [found] at stored
      cases stored
      rw [unused] at isUsed
      cases isUsed
  · rw [List.forall_mem_cons]
    constructor
    · intro token uses
      obtain ⟨⟨otp, found, unused⟩, -⟩ := use token uses
      exact (consistent.unused token otp found unused).1.later record
    · intro other earlier token uses
      exact (consistent.used other earlier token uses).later record
  · intro token
    have bound := consistent.once token
    show (record :: system.log).countP _ ≤ 1
    by_cases uses : record.usedToken = some token
    · have zero : system.log.countP (fun other => decide (other.usedToken = some token)) = 0 := by
        rw [List.countP_eq_zero]
        intro other member
        simp [notUsed token uses other member]
      rw [List.countP_cons, zero]
      split_ifs <;> omega
    · simpa [List.countP_cons, uses] using bound

/-- After a token that was not drawn before is generated. -/
theorem consistent_generated {token workerId : String} {uuid : Uuid} (now : Nat)
    (parsed : text.parse workerId = some uuid) (fresh : ¬Generated system.log token) :
    Consistent text ⟨system.service.setToken token ⟨text.display uuid, now, false⟩,
      ⟨now, .generateOtp workerId (.returns (.ok token))⟩ :: system.log⟩ := by
  have stored : (system.service.setToken token ⟨text.display uuid, now, false⟩).otpTokens token =
      some ⟨text.display uuid, now, false⟩ := Function.update_self ..
  have others : ∀ other, other ≠ token →
      (system.service.setToken token ⟨text.display uuid, now, false⟩).otpTokens other =
        system.service.otpTokens other := fun other different => Function.update_of_ne different ..
  have silent : ∀ other, Record.usedToken
      ⟨now, .generateOtp workerId (.returns (.ok token))⟩ ≠ some other := by
    intro other uses
    cases uses
  constructor
  · exact consistent.session
  · rw [List.forall_mem_cons]
    constructor
    · intro other named issue
      cases issue
      refine ⟨_, stored, rfl, ?_⟩
      rw [text.parse_display, parsed]
    · intro record earlier other named issue
      have different : other ≠ token := by
        intro same
        rw [same] at issue
        exact fresh ⟨record, earlier, named, issue⟩
      obtain ⟨otp, found, rest⟩ := consistent.issued record earlier other named issue
      exact ⟨otp, (others other different).trans found, rest⟩
  · intro other otp found unused
    rw [List.forall_mem_cons]
    by_cases same : other = token
    · subst same
      refine ⟨⟨_, List.mem_cons_self, workerId, rfl⟩, silent other, ?_⟩
      intro record earlier uses
      exact fresh (consistent.used record earlier other uses)
    · obtain ⟨generated, nobody⟩ :=
        consistent.unused other otp ((others other same).symm.trans found) unused
      exact ⟨generated.later _, silent other, nobody⟩
  · rw [List.forall_mem_cons]
    constructor
    · intro other uses
      exact absurd uses (silent other)
    · intro record earlier other uses
      exact (consistent.used record earlier other uses).later _
  · intro other
    have bound := consistent.once other
    show List.countP _ (_ :: system.log) ≤ 1
    simpa [List.countP_cons, Record.usedToken] using bound

/-- A call that is neither a registration nor generates a token. -/
theorem consistent_unauthenticated {after : Service} {record : Record}
    (sameTokens : after.otpTokens = system.service.otpTokens)
    (noIssue : ∀ token named, ¬record.Issues token named)
    (noUse : record.usedToken = none) (noSession : ∀ workerId, record.sessionFor workerId = none)
    (fewer : ∀ workerId sessionId, after.workers workerId = some sessionId →
      system.service.workers workerId = some sessionId) :
    Consistent text ⟨after, record :: system.log⟩ := by
  apply consistent_cons text consistent
  · intro token
    rw [sameTokens]
    exact .inl rfl
  · exact noIssue
  · intro workerId sessionId known
    unfold lastSession
    rw [List.findSome?_cons, noSession]
    exact consistent.session workerId sessionId (fewer workerId sessionId known)
  · intro token uses
    rw [noUse] at uses
    cases uses

variable (shard : String → Nat)

/-- A registration generates no token, whatever becomes of it. -/
theorem consistent_registration {after : Service} {now : Nat} {registration : Registration}
    {ending : Ending RegisterWorkerResponse} (spends : SpendsTokens system.service after)
    (session : ∀ workerId sessionId, after.workers workerId = some sessionId →
      lastSession (⟨now, .register registration ending⟩ :: system.log) workerId = some sessionId)
    (use : ∀ token, Record.usedToken ⟨now, .register registration ending⟩ = some token →
      (∃ otp, system.service.otpTokens token = some otp ∧ otp.used = false) ∧
        ∃ otp, after.otpTokens token = some otp ∧ otp.used = true) :
    Consistent text ⟨after, ⟨now, .register registration ending⟩ :: system.log⟩ := by
  apply consistent_cons text consistent spends _ session use
  intro token named issues
  cases issues

theorem rejected_consistent {now : Nat} {registration : Registration}
    (rejected : Rejected text shard system.service now registration) :
    Consistent text (step text shard system (now, .register registration)) := by
  show Consistent text ⟨(system.service.register text shard now registration).2,
    ⟨now, .register registration (system.service.register text shard now registration).1⟩ ::
      system.log⟩
  have refused := rejected.refused
  generalize (system.service.register text shard now registration).1 = ending at refused
  have silent : Record.usedToken ⟨now, .register registration ending⟩ = none ∧
      ∀ workerId, Record.sessionFor workerId ⟨now, .register registration ending⟩ = none := by
    cases ending with
    | hangs => exact ⟨rfl, fun _ => rfl⟩
    | returns result =>
        cases result with
        | error status => exact ⟨rfl, fun _ => rfl⟩
        | ok response => exact absurd rfl (refused response)
  apply consistent_registration text consistent rejected.spends
  · intro workerId sessionId known
    rw [rejected.sameWorkers] at known
    unfold lastSession
    rw [List.findSome?_cons, silent.2]
    exact consistent.session workerId sessionId known
  · intro token uses
    rw [silent.1] at uses
    cases uses

theorem recovered_consistent {now : Nat} {registration : Registration}
    (known : system.service.workers (registration.workerId text) = some registration.sessionId)
    (result : system.service.register text shard now registration =
      (.returns (.ok ⟨registration.workerId text, true, reconnectedMessage,
        registration.sessionId⟩), system.service)) :
    Consistent text (step text shard system (now, .register registration)) := by
  unfold step perform
  dsimp only
  rw [result]
  apply consistent_registration text consistent (fun _ => .inl rfl)
  · intro workerId sessionId stored
    unfold lastSession
    rw [List.findSome?_cons]
    by_cases own : registration.workerId text = workerId
    · rw [← own, known] at stored
      cases stored
      simp [Record.sessionFor, own]
    · simp only [Record.sessionFor, if_neg own]
      exact consistent.session workerId sessionId stored
  · intro token uses
    have different : reconnectedMessage ≠ registeredMessage := by decide
    simp [Record.usedToken, different] at uses

theorem registered_consistent {now : Nat} {registration : Registration} {otp : InMemoryOtpState}
    (admissible : Admissible text shard system.service now registration otp)
    (result : system.service.register text shard now registration =
      (.returns (.ok ⟨registration.workerId text, true, registeredMessage,
        registration.newSessionId text⟩),
      (system.service.setToken registration.authToken { otp with used := true }).setWorker
        (registration.workerId text) (some (registration.newSessionId text)))) :
    Consistent text (step text shard system (now, .register registration)) := by
  have spends : SpendsTokens system.service
      ((system.service.setToken registration.authToken { otp with used := true }).setWorker
        (registration.workerId text) (some (registration.newSessionId text))) :=
    mark_used_spends system.service admissible.found
  unfold step perform
  dsimp only
  rw [result]
  apply consistent_registration text consistent spends
  · intro workerId sessionId stored
    unfold lastSession
    rw [List.findSome?_cons]
    by_cases own : registration.workerId text = workerId
    · subst own
      simp [Service.setWorker] at stored
      simp [Record.sessionFor, stored]
    · simp only [Record.sessionFor, if_neg own]
      apply consistent.session workerId sessionId
      rw [← stored]
      exact (Function.update_of_ne (Ne.symm own) ..).symm
  · intro token uses
    simp [Record.usedToken] at uses
    subst uses
    exact ⟨⟨otp, admissible.found, admissible.unused⟩, _, Function.update_self .., rfl⟩

theorem step_consistent (call : Nat × Call) (assumed : Assumed text system call) :
    Consistent text (step text shard system call) := by
  obtain ⟨now, call⟩ := call
  cases call with
  | register registration =>
      rcases register_cases text shard system.service now registration with
        rejected | ⟨known, -, result⟩ | ⟨otp, admissible, result⟩
      · exact rejected_consistent text consistent shard rejected
      · exact recovered_consistent text consistent shard known result
      · exact registered_consistent text consistent shard admissible result
  | unregisterWorker workerId =>
      cases workerId with
      | none =>
          apply consistent_unauthenticated text consistent rfl _ rfl (fun _ => rfl) fun _ _ => id
          intro token named issues
          cases issues
      | some workerId =>
          apply consistent_unauthenticated text consistent
          · rfl
          · intro token named issues
            cases issues
          · rfl
          · exact fun _ => rfl
          · intro other sessionId known
            by_cases own : other = workerId
            · subst own
              have gone : (system.service.setWorker other none).workers other = none :=
                Function.update_self ..
              cases gone.symm.trans known
            · rw [← known]
              exact (Function.update_of_ne own ..).symm
  | generateOtp workerId drawn =>
      show Consistent text ⟨(system.service.generateOtp text shard now workerId drawn).2,
        ⟨now, .generateOtp workerId
          (system.service.generateOtp text shard now workerId drawn).1⟩ :: system.log⟩
      unfold Service.generateOtp
      cases parsed : text.parse workerId with
      | none =>
          apply consistent_unauthenticated text consistent rfl _ rfl (fun _ => rfl) fun _ _ => id
          intro token named issues
          cases issues
      | some uuid =>
          dsimp only
          split_ifs
          · apply consistent_unauthenticated text consistent rfl _ rfl (fun _ => rfl) fun _ _ => id
            intro token named issues
            cases issues
          · apply consistent_generated text consistent now parsed
            rintro ⟨record, member, named, issues⟩
            exact assumed.2 workerId drawn rfl record member named issues

/-- An entry that is unused, or was generated, has the age that the log tells. -/
theorem expired_iff {now : Nat} {token : String} {otp : InMemoryOtpState}
    (found : system.service.otpTokens token = some otp)
    (known : Generated system.log token) :
    Expired system.log now token ↔ otpLifetime.nanos < now - otp.createdAt := by
  constructor
  · rintro ⟨record, member, named, issues, old⟩
    obtain ⟨other, stored, created, -⟩ := consistent.issued record member token named issues
    rw [found] at stored
    cases stored
    omega
  · intro old
    obtain ⟨record, member, named, issues⟩ := known
    obtain ⟨other, stored, created, -⟩ := consistent.issued record member token named issues
    rw [found] at stored
    cases stored
    exact ⟨record, member, named, issues, by omega⟩

/-- An unused token that has not expired is the worker's own if it names the worker. -/
theorem own_fresh_token_iff {now : Nat} {token workerId : String} {otp : InMemoryOtpState}
    (earlier : ∀ record ∈ system.log, record.time ≤ now)
    (found : system.service.otpTokens token = some otp) (unused : otp.used = false)
    (young : now - otp.createdAt ≤ otpLifetime.nanos) :
    OwnFreshToken text system.log now token workerId ↔
      text.parse otp.workerId = text.parse workerId := by
  obtain ⟨generated, nobody⟩ := consistent.unused token otp found unused
  obtain ⟨record, member, named, issues⟩ := generated
  constructor
  · intro ⟨⟨issue, before, other, generated, same, _⟩, _⟩
    obtain ⟨entry, stored, -, worker⟩ := consistent.issued issue before token other generated
    rw [found] at stored
    cases stored
    exact worker.trans same
  · intro same
    obtain ⟨entry, stored, created, worker⟩ := consistent.issued record member token named issues
    rw [found] at stored
    cases stored
    have past := earlier record member
    exact ⟨⟨record, member, named, issues, worker.symm.trans same, past, by omega⟩, nobody⟩

/-- One registration meets the contract exactly if it is honest. -/
theorem register_meets_contract_iff {now : Nat}
    (earlier : ∀ record ∈ system.log, record.time ≤ now) (registration : Registration) :
    MeetsContract text shard system (now, .register registration) ↔
      Honest text shard system (now, .register registration) := by
  unfold MeetsContract Honest
  dsimp only
  rcases register_cases text shard system.service now registration with
    rejected | ⟨known, notAsked, result⟩ | ⟨otp, admissible, result⟩
  · constructor
    · intro ⟨_, returns⟩ asked
      have notExpired : ¬Expired system.log now registration.authToken := by
        intro expired
        have known := expired
        obtain ⟨record, member, named, issues, -⟩ := known
        obtain ⟨otp, found, -⟩ := consistent.issued record member _ named issues
        have old := (expired_iff text consistent found ⟨record, member, named, issues⟩).mp expired
        exact returns expired (rejected.hangs.mpr ⟨asked, .inr ⟨otp, found, old⟩⟩)
      refine ⟨notExpired, ?_⟩
      intro otp found unused unlocked accepted
      have issued := (consistent.unused _ otp found unused).1
      rw [expired_iff text consistent found issued] at notExpired
      exact absurd ⟨asked, found, unused, Nat.le_of_not_lt notExpired, unlocked, accepted⟩
        (rejected.inadmissible otp)
    · intro honest
      constructor
      · intro response succeeds
        exact absurd succeeds (rejected.refused response)
      · intro expired hangs
        exact (honest (rejected.hangs.mp hangs).1).1 expired
  · rw [result]
    apply iff_of_true
    · constructor
      · intro response _
        exact .inl (consistent.session _ _ known)
      · intro _ same
        cases same
    · intro asked
      exact absurd asked notAsked
  · have issued := (consistent.unused _ otp admissible.found admissible.unused).1
    have notExpired : ¬Expired system.log now registration.authToken := by
      rw [expired_iff text consistent admissible.found issued]
      exact Nat.not_lt_of_le admissible.young
    rw [result, own_fresh_token_iff text consistent earlier admissible.found admissible.unused
      admissible.young]
    constructor
    · intro ⟨only, _⟩ _
      refine ⟨notExpired, ?_⟩
      intro other found _ _ _
      rw [admissible.found] at found
      cases found
      exact (only _ rfl).symm
    · intro honest
      constructor
      · intro response _
        exact ((honest admissible.asked).2 otp admissible.found admissible.unused
          admissible.unlocked admissible.accepted).symm
      · intro expired
        exact absurd expired notExpired

theorem meets_contract_iff (call : Nat × Call) (assumed : Assumed text system call) :
    MeetsContract text shard system call ↔ Honest text shard system call := by
  obtain ⟨now, call⟩ := call
  cases call with
  | register registration =>
      exact register_meets_contract_iff text consistent shard assumed.1 registration
  | generateOtp workerId drawn => exact Iff.rfl
  | unregisterWorker workerId => exact Iff.rfl

end Consistency

def drawnTokens (calls : List (Nat × Call)) : List Uuid :=
  calls.filterMap fun call => call.2.drawn

theorem display_injective (text : UuidText) {first second : Uuid}
    (same : text.display first = text.display second) : first = second := by
  have parsed := congrArg text.parse same
  rw [text.parse_display, text.parse_display] at parsed
  exact Option.some.inj parsed

/-- Only the token that was drawn for a call is generated by it. -/
theorem issues_drawn (text : UuidText) (shard : String → Nat) {service : Service} {now : Nat}
    {call : Call} {token named : String}
    (issues : Record.Issues token named ⟨now, (perform text shard service now call).1⟩) :
    ∃ drawn, call.drawn = some drawn ∧ token = text.display drawn := by
  cases call with
  | register registration => cases issues
  | unregisterWorker workerId => cases issues
  | generateOtp workerId drawn =>
      refine ⟨drawn, rfl, ?_⟩
      simp only [Record.Issues, perform, Ended.generateOtp.injEq] at issues
      obtain ⟨-, ending⟩ := issues
      unfold Service.generateOtp at ending
      cases parsed : text.parse workerId with
      | none =>
          rw [parsed] at ending
          cases ending
      | some uuid =>
          rw [parsed] at ending
          dsimp only at ending
          split_ifs at ending
          cases ending
          rfl

theorem assumed_of_calls (text : UuidText) (shard : String → Nat) (calls : List (Nat × Call))
    (system : System) (ordered : calls.Pairwise fun first later => first.1 ≤ later.1)
    (fresh : (drawnTokens calls).Nodup)
    (later : ∀ record ∈ system.log, ∀ call ∈ calls, record.time ≤ call.1)
    (unseen : ∀ record ∈ system.log, ∀ drawn ∈ drawnTokens calls, ∀ named,
      ¬record.Issues (text.display drawn) named) :
    EachMove (step text shard) (Assumed text) system calls := by
  induction calls generalizing system with
  | nil => trivial
  | cons call rest ih =>
      rw [List.pairwise_cons] at ordered
      have restFresh : (drawnTokens rest).Nodup := by
        unfold drawnTokens at fresh
        rw [List.filterMap_cons] at fresh
        split at fresh
        · exact fresh
        · exact (List.nodup_cons.mp fresh).2
      constructor
      · constructor
        · intro record member
          exact later record member call List.mem_cons_self
        · intro workerId drawn generates record member
          apply unseen record member
          unfold drawnTokens
          rw [List.mem_filterMap]
          exact ⟨call, List.mem_cons_self, by rw [generates]; rfl⟩
      · apply ih _ ordered.2 restFresh
        · intro record member other within
          rcases List.mem_cons.mp member with last | earlier
          · rw [last]
            exact ordered.1 other within
          · exact later record earlier other (List.mem_cons_of_mem _ within)
        · intro record member drawn within named issues
          rcases List.mem_cons.mp member with last | earlier
          · rw [last] at issues
            obtain ⟨other, draws, same⟩ := issues_drawn text shard issues
            rw [display_injective text same] at within
            unfold drawnTokens at fresh
            rw [List.filterMap_cons, draws] at fresh
            exact (List.nodup_cons.mp fresh).1 within
          · apply unseen record earlier drawn _ named issues
            unfold drawnTokens at within ⊢
            rw [List.mem_filterMap] at within ⊢
            obtain ⟨other, rests, draws⟩ := within
            exact ⟨other, List.mem_cons_of_mem _ rests, draws⟩

/-- In every history at nondecreasing times in which no token is drawn twice: each token
admits at most one registration and every registration meets the contract, exactly if
every registration is honest. -/
theorem registrations_authentic_iff (text : UuidText) (shard : String → Nat)
    (calls : List (Nat × Call)) (ordered : calls.Pairwise fun first later => first.1 ≤ later.1)
    (fresh : (drawnTokens calls).Nodup) :
    (Always (step text shard) AdmitsOnce .new calls ∧
      EachMove (step text shard) (MeetsContract text shard) .new calls) ↔
      EachMove (step text shard) (Honest text shard) .new calls := by
  have assumed : EachMove (step text shard) (Assumed text) .new calls := by
    apply assumed_of_calls text shard calls .new ordered fresh
    · intro record member
      cases member
    · intro record member
      cases member
  obtain ⟨always, -⟩ := always_within (step text shard) (Consistent text)
    (fun system call consistent assumed => step_consistent text consistent shard call assumed)
    (fun _ _ _ assumed => assumed) calls .new (new_consistent text) assumed
  have once := always_imp (step text shard) (fun system => Consistent.once) calls .new always
  have same := each_move_congr_within (step text shard) (Consistent text)
    (fun system call consistent => and_congr_right fun assumed =>
      meets_contract_iff text consistent shard call assumed)
    (fun system call consistent both => step_consistent text consistent shard call both.1)
    calls .new (new_consistent text)
  rw [each_move_and_iff, each_move_and_iff] at same
  constructor
  · intro ⟨_, meets⟩
    exact (same.mp ⟨assumed, meets⟩).2
  · intro honest
    exact ⟨once, (same.mpr ⟨assumed, honest⟩).2⟩

/-! ## Two workers -/

/-- A request without a session, for which `on_worker_registered` succeeds. -/
def sampleRegistration (workerId token : String) : Registration :=
  ⟨some (some workerId), token, "", 0, 0, fun _ => .ok ()⟩

/-- A worker registers with its own token 300 s after it was generated, and tries again. -/
def ownToken : List (Nat × Call) :=
  [(0, .generateOtp firstUuid 2),
    (300000000000, .register (sampleRegistration firstUuid secondUuid)),
    (300000000000, .register (sampleRegistration firstUuid secondUuid)),
    (300000000000, .unregisterWorker (some firstUuid))]

/-- A worker registers with the token of another. -/
def borrowedToken : List (Nat × Call) :=
  [(0, .generateOtp firstUuid 2), (0, .register (sampleRegistration secondUuid secondUuid))]

/-- A worker registers with its own token after more than 300 s. -/
def expiredToken : List (Nat × Call) :=
  [(0, .generateOtp firstUuid 2),
    (300000000001, .register (sampleRegistration firstUuid secondUuid))]

theorem own_token_registers :
    Always (step sampleText.toUuidText fun _ => 0) AdmitsOnce .new ownToken ∧
      EachMove (step sampleText.toUuidText fun _ => 0)
        (MeetsContract sampleText.toUuidText fun _ => 0) .new ownToken := by
  apply (registrations_authentic_iff sampleText.toUuidText (fun _ => 0) ownToken (by decide)
    (by decide)).mpr
  have young : ∀ (log : List Record) token, ¬Expired log 300000000000 token := by
    rintro log token ⟨record, -, named, -, old⟩
    simp only [otpLifetime, Duration.fromSecs] at old
    omega
  refine ⟨trivial, ?_, ?_, trivial, trivial⟩
  · intro _
    refine ⟨young _ _, ?_⟩
    intro otp found _ _ _
    cases found
    exact .inl rfl
  · intro _
    refine ⟨young _ _, ?_⟩
    intro otp found unused
    cases found
    cases unused

/-- The registration with a token of another worker succeeds, and the one with an
expired token does not return. -/
theorem borrowed_token_registers :
    ¬EachMove (step sampleText.toUuidText fun _ => 0)
      (MeetsContract sampleText.toUuidText fun _ => 0) .new borrowedToken ∧
    ¬EachMove (step sampleText.toUuidText fun _ => 0)
      (MeetsContract sampleText.toUuidText fun _ => 0) .new expiredToken := by
  constructor
  · intro ⟨_, meets, _⟩
    rcases meets.1 _ rfl with session | ⟨⟨record, member, named, issues, same, _⟩, _⟩
    · cases session
    · rw [List.mem_singleton.mp member] at issues
      cases issues
      cases same
  · intro ⟨_, meets, _⟩
    apply meets.2
    · exact ⟨_, List.mem_singleton_self _, firstUuid, rfl, by decide⟩
    · rfl

end HodeiJobs.Interface.WorkerRegistration
