import Mathlib.Data.List.Nodup
import HodeiJobs.Library.Runs
import HodeiJobs.Sagas.Types

/-!
# The cache of saga steps

`CachedSagaRepository` with any number of calls in progress. A call yields at its
inner call; what stands before and after it runs at once. The inner repository is any
store whose steps can be read; writes and transactions change it in any way. What a
find may be given depends on the order in which reads, writes, commits, clears and
inserts happen, so the reads cached since the last clear are kept beside the cache.
-/

namespace HodeiJobs.Sagas

open HodeiJobs.Library

/-! ## The cache -/

structure CacheEntry (Key Value : Type) where
  key : Key
  value : Value
  cachedAt : Nat

/-- Times are nanoseconds. -/
structure TtlCache (Key Value : Type) where
  entries : List (CacheEntry Key Value)
  capacity : Nat
  ttl : Duration

namespace TtlCache

variable {Key Value : Type} [DecidableEq Key]

def new (capacity : Nat) (ttl : Duration) : TtlCache Key Value := ⟨[], capacity, ttl⟩

def get (cache : TtlCache Key Value) (key : Key) (now : Nat) : Option Value :=
  (cache.entries.find? fun entry =>
    entry.key = key ∧ now - entry.cachedAt < cache.ttl.nanos).map CacheEntry.value

/-- The oldest entries are removed while there are too many. -/
def insert (cache : TtlCache Key Value) (key : Key) (value : Value) (now : Nat) :
    TtlCache Key Value :=
  let entries := cache.entries.filter (fun entry => entry.key ≠ key) ++ [⟨key, value, now⟩]
  { cache with entries := entries.drop (entries.length - cache.capacity) }

def clear (cache : TtlCache Key Value) : TtlCache Key Value := { cache with entries := [] }

/-- No key has two entries. -/
def Distinct (cache : TtlCache Key Value) : Prop := (cache.entries.map CacheEntry.key).Nodup

variable {cache : TtlCache Key Value} {key : Key} {value : Value} {now : Nat}

theorem get_iff (distinct : cache.Distinct) :
    cache.get key now = some value ↔
      ∃ entry ∈ cache.entries, entry.key = key ∧ now - entry.cachedAt < cache.ttl.nanos ∧
        entry.value = value := by
  unfold get
  constructor
  · intro hit
    obtain ⟨entry, first, same⟩ := Option.map_eq_some_iff.mp hit
    have alive := List.find?_some first
    simp only [decide_eq_true_eq] at alive
    exact ⟨entry, List.mem_of_find?_eq_some first, alive.1, alive.2, same⟩
  · intro ⟨entry, isEntry, sameKey, alive, sameValue⟩
    cases first : cache.entries.find? fun entry =>
        entry.key = key ∧ now - entry.cachedAt < cache.ttl.nanos with
    | none =>
        have nowhere := List.find?_eq_none.mp first entry isEntry
        simp [sameKey, alive] at nowhere
    | some other =>
        have otherAlive := List.find?_some first
        simp only [decide_eq_true_eq] at otherAlive
        have same := List.inj_on_of_nodup_map distinct (List.mem_of_find?_eq_some first) isEntry
          (otherAlive.1.trans sameKey.symm)
        rw [same, Option.map_some, sameValue]

@[simp] theorem get_clear : cache.clear.get key now = none := rfl

theorem distinct_insert (distinct : cache.Distinct) : (cache.insert key value now).Distinct := by
  unfold Distinct insert at *
  rw [List.map_drop]
  apply List.Nodup.sublist (List.drop_sublist _ _)
  rw [List.map_append, List.nodup_append]
  refine ⟨List.Nodup.sublist (List.filter_sublist.map _) distinct, by simp, ?_⟩
  intro other isOther last isLast
  obtain ⟨entry, kept, sameKey⟩ := List.mem_map.mp isOther
  have different := (List.mem_filter.mp kept).2
  simp only [ne_eq, decide_not, Bool.not_eq_true', decide_eq_false_iff_not] at different
  rw [← sameKey, List.mem_singleton.mp isLast]
  exact different

theorem mem_insert {entry : CacheEntry Key Value}
    (isEntry : entry ∈ (cache.insert key value now).entries) :
    (entry ∈ cache.entries ∧ entry.key ≠ key) ∨ entry = ⟨key, value, now⟩ := by
  have anywhere := List.mem_of_mem_drop isEntry
  simp only [List.mem_append, List.mem_filter, List.mem_singleton] at anywhere
  exact anywhere.imp_left fun kept => ⟨kept.1, of_decide_eq_true kept.2⟩

theorem room_of_mem_insert {entry : CacheEntry Key Value}
    (isEntry : entry ∈ (cache.insert key value now).entries) : 0 < cache.capacity := by
  apply Nat.pos_of_ne_zero
  intro noRoom
  simp [insert, noRoom] at isEntry

end TtlCache

/-! ## Calls in progress -/

section System

variable {Inner Steps : Type}

/-- A call, and how far it is. A version counts the changes of the inner repository;
`begun` is the version that the last finished write had reached when the find began,
`readAt` the version that it read. -/
inductive CacheTask (Steps : Type) where
  | finding (sagaId : SagaId) (begun : Nat)
  | found (sagaId : SagaId) (begun readAt : Nat) (steps : Steps)
  | writing
  | written (version : Nat)
  | writingTx (tx : Nat)
  | writtenTx
  | committing (tx : Nat)
  | committed (version : Nat)
  | done

/-- A find that cached what it had read. -/
structure Insertion where
  sagaId : SagaId
  readAt : Nat
  cachedAt : Nat

/-- `settled` is the version that the last finished write or commit has reached,
`insertions` are those since the last clear, latest first. -/
structure CachedSagaRepository (Inner Steps : Type) where
  inner : Inner
  past : List Inner
  pending : Nat → Inner → Inner
  stepsCache : TtlCache SagaId Steps
  clock : Nat
  tasks : List (CacheTask Steps)
  settled : Nat
  insertions : List Insertion

/-- An inner call may fail; a write may then have been made or not. -/
inductive CacheMove (Inner : Type) where
  | tick (elapsed : Nat)
  | find (sagaId : SagaId)
  | innerFind (task : Nat)
  | finishFind (task : Nat)
  | write
  | innerWrite (task : Nat) (effect : Inner → Inner)
  | finishWrite (task : Nat)
  | writeWithTx (tx : Nat)
  | innerWriteWithTx (task : Nat) (effect : Inner → Inner)
  | finishWriteWithTx (task : Nat)
  | commit (tx : Nat)
  | innerCommit (task : Nat)
  | finishCommit (task : Nat)
  | fail (task : Nat)

namespace CachedSagaRepository

def withConfig (inner : Inner) (cacheCapacity : Nat) (ttl : Duration) :
    CachedSagaRepository Inner Steps where
  inner := inner
  past := []
  pending := fun _ inner => inner
  stepsCache := .new cacheCapacity ttl
  clock := 0
  tasks := []
  settled := 0
  insertions := []

def version (repository : CachedSagaRepository Inner Steps) : Nat := repository.past.length

def begin (repository : CachedSagaRepository Inner Steps) (task : CacheTask Steps) :
    CachedSagaRepository Inner Steps :=
  { repository with tasks := repository.tasks ++ [task] }

def become (repository : CachedSagaRepository Inner Steps) (task : Nat)
    (next : CacheTask Steps) : CachedSagaRepository Inner Steps :=
  { repository with tasks := repository.tasks.set task next }

/-- The inner repository is changed, and what it held is remembered. -/
def changeInner (repository : CachedSagaRepository Inner Steps) (effect : Inner → Inner) :
    CachedSagaRepository Inner Steps :=
  { repository with
    inner := effect repository.inner
    past := repository.past ++ [repository.inner] }

def step (findSteps : Inner → SagaId → Steps) (repository : CachedSagaRepository Inner Steps)
    (move : CacheMove Inner) : CachedSagaRepository Inner Steps :=
  match move with
  | .tick elapsed => { repository with clock := repository.clock + elapsed }
  | .find sagaId =>
      match repository.stepsCache.get sagaId repository.clock with
      | some _ => repository
      | none => repository.begin (.finding sagaId repository.settled)
  | .innerFind task =>
      match repository.tasks[task]? with
      | some (.finding sagaId begun) =>
          repository.become task
            (.found sagaId begun repository.version (findSteps repository.inner sagaId))
      | _ => repository
  | .finishFind task =>
      match repository.tasks[task]? with
      | some (.found sagaId _ readAt steps) =>
          { repository.become task .done with
            stepsCache := repository.stepsCache.insert sagaId steps repository.clock
            insertions := ⟨sagaId, readAt, repository.clock⟩ :: repository.insertions }
      | _ => repository
  | .write => repository.begin .writing
  | .innerWrite task effect =>
      match repository.tasks[task]? with
      | some .writing =>
          (repository.changeInner effect).become task (.written (repository.version + 1))
      | _ => repository
  | .finishWrite task =>
      match repository.tasks[task]? with
      | some (.written version) =>
          { repository.become task .done with
            stepsCache := repository.stepsCache.clear
            insertions := []
            settled := max repository.settled version }
      | _ => repository
  | .writeWithTx tx => repository.begin (.writingTx tx)
  | .innerWriteWithTx task effect =>
      match repository.tasks[task]? with
      | some (.writingTx tx) =>
          { repository.become task .writtenTx with
            pending := Function.update repository.pending tx
              (fun inner => effect (repository.pending tx inner)) }
      | _ => repository
  | .finishWriteWithTx task =>
      match repository.tasks[task]? with
      | some .writtenTx =>
          { repository.become task .done with
            stepsCache := repository.stepsCache.clear
            insertions := [] }
      | _ => repository
  | .commit tx => repository.begin (.committing tx)
  | .innerCommit task =>
      match repository.tasks[task]? with
      | some (.committing tx) =>
          { (repository.changeInner (repository.pending tx)).become task
              (.committed (repository.version + 1)) with
            pending := Function.update repository.pending tx (fun inner => inner) }
      | _ => repository
  | .finishCommit task =>
      match repository.tasks[task]? with
      | some (.committed version) =>
          { repository.become task .done with settled := max repository.settled version }
      | _ => repository
  | .fail task => repository.become task .done

/-! ## Coherence -/

variable (findSteps : Inner → SagaId → Steps) (repository : CachedSagaRepository Inner Steps)

/-- The steps are what the inner repository held when it had the version. -/
def HeldAt (version : Nat) (sagaId : SagaId) (steps : Steps) : Prop :=
  ∃ inner, (repository.past ++ [repository.inner])[version]? = some inner ∧
    steps = findSteps inner sagaId

/-- The steps are what the inner repository has held at some time since it reached the
version. -/
def HeldSince (version : Nat) (sagaId : SagaId) (steps : Steps) : Prop :=
  ∃ later, version ≤ later ∧ repository.HeldAt findSteps later sagaId steps

/-- A find that begins now or later, before any other change, is not given older steps by
the cache. -/
def HitsHeld : Prop :=
  ∀ sagaId now steps, repository.clock ≤ now →
    repository.stepsCache.get sagaId now = some steps →
      repository.HeldSince findSteps repository.settled sagaId steps

/-- A find returns what the inner repository has held since it began. -/
def ReturnsHeld (move : CacheMove Inner) : Prop :=
  (∀ sagaId steps, move = .find sagaId →
    repository.stepsCache.get sagaId repository.clock = some steps →
      repository.HeldSince findSteps repository.settled sagaId steps) ∧
  ∀ task sagaId begun readAt steps, move = .finishFind task →
    repository.tasks[task]? = some (.found sagaId begun readAt steps) →
      repository.HeldSince findSteps begun sagaId steps

/-- The last insertion for the saga since the last clear. -/
def lastInsertion (sagaId : SagaId) : Option Insertion :=
  repository.insertions.find? fun insertion => insertion.sagaId = sagaId

/-- Nothing is inserted whose read came before a write or commit that has returned. And
when a commit returns, there is a clear after every insertion whose read came before the
commit took effect, or a later insertion for the saga, or it has expired. -/
def CachesInOrder (move : CacheMove Inner) : Prop :=
  0 < repository.stepsCache.capacity →
    match move with
    | .finishFind task =>
        0 < repository.stepsCache.ttl.nanos → ∀ sagaId begun readAt steps,
          repository.tasks[task]? = some (.found sagaId begun readAt steps) →
            repository.settled ≤ readAt
    | .finishCommit task =>
        ∀ version, repository.tasks[task]? = some (.committed version) →
          ∀ sagaId insertion, repository.lastInsertion sagaId = some insertion →
            repository.clock - insertion.cachedAt < repository.stepsCache.ttl.nanos →
              version ≤ insertion.readAt
    | _ => True

/-! ## The invariant -/

variable {findSteps : Inner → SagaId → Steps} {repository : CachedSagaRepository Inner Steps}

/-- What a call in progress knows. -/
def TaskTracked (findSteps : Inner → SagaId → Steps)
    (repository : CachedSagaRepository Inner Steps) : CacheTask Steps → Prop
  | .finding _ begun => begun ≤ repository.version
  | .found sagaId begun readAt steps =>
      begun ≤ readAt ∧ repository.HeldAt findSteps readAt sagaId steps
  | .written version | .committed version => version ≤ repository.version
  | .writing | .writingTx _ | .writtenTx | .committing _ | .done => True

structure Tracked (findSteps : Inner → SagaId → Steps)
    (repository : CachedSagaRepository Inner Steps) : Prop where
  distinct : repository.stepsCache.Distinct
  settled : repository.settled ≤ repository.version
  tasks : ∀ task ∈ repository.tasks, repository.TaskTracked findSteps task
  cached : ∀ entry ∈ repository.stepsCache.entries, 0 < repository.stepsCache.capacity ∧
    ∃ readAt, repository.lastInsertion entry.key = some ⟨entry.key, readAt, entry.cachedAt⟩ ∧
      repository.HeldAt findSteps readAt entry.key entry.value

theorem tracked_with_config (inner : Inner) (cacheCapacity : Nat) (ttl : Duration) :
    Tracked findSteps (withConfig inner cacheCapacity ttl) := by
  constructor
  · exact List.nodup_nil
  · exact Nat.le_refl _
  · intro task isTask
    cases isTask
  · intro entry isEntry
    cases isEntry

theorem held_now (sagaId : SagaId) : repository.HeldAt findSteps repository.version sagaId
    (findSteps repository.inner sagaId) := by
  refine ⟨repository.inner, ?_, rfl⟩
  simp [CachedSagaRepository.version]

/-- A change of the inner repository adds a version and keeps the old ones. -/
theorem held_at_change_inner (effect : Inner → Inner) {version : Nat} {sagaId : SagaId}
    {steps : Steps} (held : repository.HeldAt findSteps version sagaId steps) :
    (repository.changeInner effect).HeldAt findSteps version sagaId steps := by
  obtain ⟨inner, there, same⟩ := held
  refine ⟨inner, ?_, same⟩
  unfold changeInner
  rw [List.getElem?_append_left (List.getElem?_eq_some_iff.mp there).1]
  exact there

theorem held_change_inner (effect : Inner → Inner) {version : Nat} {sagaId : SagaId}
    {steps : Steps} (held : repository.HeldSince findSteps version sagaId steps) :
    (repository.changeInner effect).HeldSince findSteps version sagaId steps := by
  obtain ⟨later, reached, heldThen⟩ := held
  exact ⟨later, reached, held_at_change_inner effect heldThen⟩

theorem version_change_inner (repository : CachedSagaRepository Inner Steps)
    (effect : Inner → Inner) :
    (repository.changeInner effect).version = repository.version + 1 := by
  simp [changeInner, version]

theorem task_tracked_change_inner (effect : Inner → Inner) {task : CacheTask Steps}
    (tracked : repository.TaskTracked findSteps task) :
    (repository.changeInner effect).TaskTracked findSteps task := by
  have grows := version_change_inner repository effect
  cases task with
  | finding sagaId begun =>
      unfold TaskTracked at *
      omega
  | found sagaId begun readAt steps => exact ⟨tracked.1, held_at_change_inner effect tracked.2⟩
  | written version | committed version =>
      unfold TaskTracked at *
      omega
  | writing | writingTx | writtenTx | committing | done => trivial

theorem tracked_change_inner (effect : Inner → Inner) (tracked : Tracked findSteps repository) :
    Tracked findSteps (repository.changeInner effect) := by
  have grows := version_change_inner repository effect
  constructor
  · exact tracked.distinct
  · have settled := tracked.settled
    change repository.settled ≤ _
    omega
  · intro task isTask
    exact task_tracked_change_inner effect (tracked.tasks task isTask)
  · intro entry isEntry
    obtain ⟨room, readAt, last, held⟩ := tracked.cached entry isEntry
    exact ⟨room, readAt, last, held_at_change_inner effect held⟩

theorem tracked_begin (tracked : Tracked findSteps repository) {task : CacheTask Steps}
    (new : repository.TaskTracked findSteps task) :
    Tracked findSteps (repository.begin task) := by
  constructor
  · exact tracked.distinct
  · exact tracked.settled
  · intro other isOther
    rcases List.mem_append.mp isOther with old | isNew
    · exact tracked.tasks other old
    · rw [List.mem_singleton.mp isNew]
      exact new
  · exact tracked.cached

theorem tracked_become (tracked : Tracked findSteps repository) (task : Nat)
    {next : CacheTask Steps} (new : repository.TaskTracked findSteps next) :
    Tracked findSteps (repository.become task next) := by
  constructor
  · exact tracked.distinct
  · exact tracked.settled
  · intro other isOther
    rcases List.mem_or_eq_of_mem_set isOther with old | isNew
    · exact tracked.tasks other old
    · rw [isNew]
      exact new
  · exact tracked.cached

theorem tracked_done (tracked : Tracked findSteps repository) (task : Nat) :
    Tracked findSteps (repository.become task .done) :=
  tracked_become tracked task trivial

/-- The inner call of a task changes the inner repository. -/
theorem tracked_change (tracked : Tracked findSteps repository) (effect : Inner → Inner)
    (task : Nat) {next : CacheTask Steps}
    (reached : next = .written (repository.version + 1) ∨
      next = .committed (repository.version + 1)) :
    Tracked findSteps ((repository.changeInner effect).become task next) := by
  apply tracked_become (tracked_change_inner effect tracked)
  rcases reached with same | same
  · rw [same]
    exact Nat.le_of_eq (version_change_inner repository effect).symm
  · rw [same]
    exact Nat.le_of_eq (version_change_inner repository effect).symm

/-- The clock, the transactions and what is settled can change freely. -/
theorem tracked_with (tracked : Tracked findSteps repository) (pending : Nat → Inner → Inner)
    (clock settled : Nat) (reached : settled ≤ repository.version) :
    Tracked findSteps { repository with
      pending := pending, clock := clock, settled := settled } :=
  ⟨tracked.distinct, reached, tracked.tasks, tracked.cached⟩

theorem tracked_cleared (tracked : Tracked findSteps repository) (settled : Nat)
    (reached : settled ≤ repository.version) :
    Tracked findSteps { repository with
      stepsCache := repository.stepsCache.clear, insertions := [], settled := settled } :=
  ⟨List.nodup_nil, reached, tracked.tasks, fun _ isEntry => absurd isEntry List.not_mem_nil⟩

/-- What was read is cached and recorded as the last insertion for its saga. -/
theorem tracked_insert (tracked : Tracked findSteps repository) {sagaId : SagaId} {readAt : Nat}
    {steps : Steps} (held : repository.HeldAt findSteps readAt sagaId steps) :
    Tracked findSteps { repository with
      stepsCache := repository.stepsCache.insert sagaId steps repository.clock
      insertions := ⟨sagaId, readAt, repository.clock⟩ :: repository.insertions } := by
  constructor
  · exact TtlCache.distinct_insert tracked.distinct
  · exact tracked.settled
  · exact tracked.tasks
  · intro entry isEntry
    have room : 0 < repository.stepsCache.capacity := TtlCache.room_of_mem_insert isEntry
    refine ⟨room, ?_⟩
    rcases TtlCache.mem_insert isEntry with ⟨old, different⟩ | new
    · obtain ⟨-, before, last, heldThen⟩ := tracked.cached entry old
      refine ⟨before, ?_, heldThen⟩
      unfold lastInsertion at last ⊢
      rw [List.find?_cons_of_neg (by simpa using Ne.symm different)]
      exact last
    · subst new
      refine ⟨readAt, ?_, held⟩
      unfold lastInsertion
      rw [List.find?_cons_of_pos (by simp)]

theorem tracked_at (tracked : Tracked findSteps repository) {task : Nat}
    {known : CacheTask Steps} (there : repository.tasks[task]? = some known) :
    repository.TaskTracked findSteps known :=
  tracked.tasks known (List.mem_of_getElem? there)

theorem tracked_step (tracked : Tracked findSteps repository) (move : CacheMove Inner) :
    Tracked findSteps (repository.step findSteps move) := by
  cases move with
  | tick elapsed => exact tracked_with tracked _ _ _ tracked.settled
  | find sagaId =>
      simp only [step]
      split
      · exact tracked
      · exact tracked_begin tracked tracked.settled
  | innerFind task =>
      simp only [step]
      split
      · rename_i sagaId begun there
        exact tracked_become tracked task ⟨tracked_at tracked there, held_now sagaId⟩
      · exact tracked
  | finishFind task =>
      simp only [step]
      split
      · rename_i sagaId begun readAt steps there
        exact tracked_insert (tracked_done tracked task) (tracked_at tracked there).2
      · exact tracked
  | write => exact tracked_begin tracked trivial
  | innerWrite task effect =>
      simp only [step]
      split
      · exact tracked_change tracked effect task (Or.inl rfl)
      · exact tracked
  | finishWrite task =>
      simp only [step]
      split
      · rename_i version there
        exact tracked_cleared (tracked_done tracked task) _
          (Nat.max_le.mpr ⟨tracked.settled, tracked_at tracked there⟩)
      · exact tracked
  | writeWithTx tx => exact tracked_begin tracked trivial
  | innerWriteWithTx task effect =>
      simp only [step]
      split
      · have written : repository.TaskTracked findSteps .writtenTx := trivial
        exact tracked_with (tracked_become tracked task written) _ _ _ tracked.settled
      · exact tracked
  | finishWriteWithTx task =>
      simp only [step]
      split
      · exact tracked_cleared (tracked_done tracked task) _ tracked.settled
      · exact tracked
  | commit tx => exact tracked_begin tracked trivial
  | innerCommit task =>
      simp only [step]
      split
      · rename_i tx _
        have changed := tracked_change tracked (repository.pending tx) task (Or.inr rfl)
        exact tracked_with changed _ _ _ changed.settled
      · exact tracked
  | finishCommit task =>
      simp only [step]
      split
      · rename_i version there
        exact tracked_with (tracked_done tracked task) _ _ _
          (Nat.max_le.mpr ⟨tracked.settled, tracked_at tracked there⟩)
      · exact tracked
  | fail task => exact tracked_become tracked task trivial

/-! ## One move -/

/-- Coherence depends on the cache, on what is settled and on what the inner repository
has held. -/
theorem hits_held_of_same {next : CachedSagaRepository Inner Steps}
    (hits : repository.HitsHeld findSteps) (sameCache : next.stepsCache = repository.stepsCache)
    (later : repository.clock ≤ next.clock) (sameSettled : next.settled = repository.settled)
    (held : ∀ sagaId steps, repository.HeldSince findSteps repository.settled sagaId steps →
      next.HeldSince findSteps repository.settled sagaId steps) :
    next.HitsHeld findSteps := by
  intro sagaId now steps reached hit
  rw [sameCache] at hit
  rw [sameSettled]
  exact held sagaId steps (hits sagaId now steps (Nat.le_trans later reached) hit)

theorem hits_held_cleared {next : CachedSagaRepository Inner Steps}
    (cleared : next.stepsCache = repository.stepsCache.clear) : next.HitsHeld findSteps := by
  intro sagaId now steps _ hit
  rw [cleared, TtlCache.get_clear] at hit
  cases hit

/-- Caching what was read since the last finished write keeps the cache coherent. -/
theorem hits_held_insert (tracked : Tracked findSteps repository)
    (hits : repository.HitsHeld findSteps) {task : Nat} {sagaId : SagaId} {begun readAt : Nat}
    {steps : Steps} (there : repository.tasks[task]? = some (.found sagaId begun readAt steps))
    (inOrder : repository.CachesInOrder (.finishFind task)) :
    HitsHeld findSteps { repository.become task .done with
      stepsCache := repository.stepsCache.insert sagaId steps repository.clock
      insertions := ⟨sagaId, readAt, repository.clock⟩ :: repository.insertions } := by
  intro other now value reached hit
  obtain ⟨entry, isEntry, sameKey, alive, sameValue⟩ :=
    (TtlCache.get_iff (TtlCache.distinct_insert tracked.distinct)).mp hit
  rcases TtlCache.mem_insert isEntry with ⟨old, -⟩ | new
  · apply hits other now value reached
    exact (TtlCache.get_iff tracked.distinct).mpr ⟨entry, old, sameKey, alive, sameValue⟩
  · subst new
    subst sameKey sameValue
    exact ⟨readAt, inOrder (TtlCache.room_of_mem_insert isEntry)
      (Nat.lt_of_le_of_lt (Nat.zero_le _) alive) sagaId begun readAt steps there,
      (tracked_at tracked there).2⟩

/-- When a commit returns, nothing that was read before it can be hit. -/
theorem hits_held_commit (tracked : Tracked findSteps repository)
    (hits : repository.HitsHeld findSteps) {task version : Nat}
    (there : repository.tasks[task]? = some (.committed version))
    (inOrder : repository.CachesInOrder (.finishCommit task)) :
    HitsHeld findSteps { repository.become task .done with
        settled := max repository.settled version } := by
  intro sagaId now steps reached hit
  change repository.clock ≤ now at reached
  rcases Nat.le_total repository.settled version with before | before
  · simp only [Nat.max_eq_right before]
    obtain ⟨entry, isEntry, rfl, alive, rfl⟩ := (TtlCache.get_iff tracked.distinct).mp hit
    obtain ⟨room, readAt, last, held⟩ := tracked.cached entry isEntry
    have unexpired : repository.clock - entry.cachedAt < repository.stepsCache.ttl.nanos :=
      Nat.lt_of_le_of_lt (Nat.sub_le_sub_right reached _) alive
    exact ⟨readAt, inOrder room version there entry.key _ last unexpired, held⟩
  · simp only [Nat.max_eq_left before]
    exact hits sagaId now steps reached hit

theorem returns_held (tracked : Tracked findSteps repository)
    (hits : repository.HitsHeld findSteps) (move : CacheMove Inner) :
    repository.ReturnsHeld findSteps move := by
  constructor
  · intro sagaId steps _ hit
    exact hits sagaId repository.clock steps (Nat.le_refl _) hit
  · intro task sagaId begun readAt steps _ there
    obtain ⟨reached, held⟩ := tracked_at tracked there
    exact ⟨readAt, reached, held⟩

theorem hits_held_step (tracked : Tracked findSteps repository)
    (hits : repository.HitsHeld findSteps) (move : CacheMove Inner)
    (inOrder : repository.CachesInOrder move) :
    HitsHeld findSteps (repository.step findSteps move) := by
  cases move with
  | finishFind task =>
      simp only [step]
      split
      · rename_i sagaId begun readAt steps there
        exact hits_held_insert tracked hits there inOrder
      · exact hits
  | finishCommit task =>
      simp only [step]
      split
      · rename_i version there
        exact hits_held_commit tracked hits there inOrder
      · exact hits
  | tick elapsed =>
      exact hits_held_of_same hits rfl (Nat.le_add_right _ _) rfl (fun _ _ held => held)
  | find sagaId =>
      simp only [step]
      split
      · exact hits
      · exact hits_held_of_same hits rfl (Nat.le_refl _) rfl (fun _ _ held => held)
  | innerFind task =>
      simp only [step]
      split
      · exact hits_held_of_same hits rfl (Nat.le_refl _) rfl (fun _ _ held => held)
      · exact hits
  | write | writeWithTx | commit | fail =>
      exact hits_held_of_same hits rfl (Nat.le_refl _) rfl (fun _ _ held => held)
  | innerWrite task effect =>
      simp only [step]
      split
      · exact hits_held_of_same hits rfl (Nat.le_refl _) rfl
          (fun _ _ held => held_change_inner effect held)
      · exact hits
  | finishWrite task =>
      simp only [step]
      split
      · exact hits_held_cleared rfl
      · exact hits
  | innerWriteWithTx task effect =>
      simp only [step]
      split
      · exact hits_held_of_same hits rfl (Nat.le_refl _) rfl (fun _ _ held => held)
      · exact hits
  | finishWriteWithTx task =>
      simp only [step]
      split
      · exact hits_held_cleared rfl
      · exact hits
  | innerCommit task =>
      simp only [step]
      split
      · rename_i tx _
        exact hits_held_of_same hits rfl (Nat.le_refl _) rfl
          (fun _ _ held => held_change_inner (repository.pending tx) held)
      · exact hits

/-- Finds return what the inner repository has held since they began, and no find that
could begin is given anything older, in every run in which no read is cached after a
later write has returned, and none outlives the return of a later commit. -/
theorem coherent_while_caching_in_order (findSteps : Inner → SagaId → Steps) (inner : Inner)
    (cacheCapacity : Nat) (ttl : Duration) (moves : List (CacheMove Inner))
    (inOrder : EachMove (step findSteps) CachesInOrder (withConfig inner cacheCapacity ttl)
      moves) :
    Always (step findSteps) (HitsHeld findSteps) (withConfig inner cacheCapacity ttl) moves ∧
      EachMove (step findSteps) (ReturnsHeld findSteps) (withConfig inner cacheCapacity ttl)
        moves := by
  obtain ⟨always, returns⟩ := always_within (step findSteps)
    (fun repository => Tracked findSteps repository ∧ repository.HitsHeld findSteps)
    (fun _ move invariant inOrder =>
      ⟨tracked_step invariant.1 move, hits_held_step invariant.1 invariant.2 move inOrder⟩)
    (fun _ move invariant _ => returns_held invariant.1 invariant.2 move) moves
    (withConfig inner cacheCapacity ttl)
    ⟨tracked_with_config inner cacheCapacity ttl, fun _ _ _ _ hit => absurd hit nofun⟩ inOrder
  exact ⟨always_imp _ (fun _ invariant => invariant.2) moves _ always, returns⟩

/-- The statement of a transaction clears what was cached before it, so that its commit
leaves nothing older behind. -/
def clearedByTransaction : List (CacheMove Nat) :=
  [.find ⟨7⟩, .innerFind 0, .finishFind 0, .writeWithTx 1, .innerWriteWithTx 1 (fun _ => 1),
    .finishWriteWithTx 1, .commit 1, .innerCommit 2, .finishCommit 2, .find ⟨7⟩, .innerFind 3,
    .finishFind 3]

theorem cleared_by_transaction_coherent :
    Always (step fun inner _ => inner) (HitsHeld fun inner _ => inner)
        (withConfig 0 1000 (.fromSecs 5)) clearedByTransaction ∧
      EachMove (step fun inner _ => inner) (ReturnsHeld fun inner _ => inner)
        (withConfig 0 1000 (.fromSecs 5)) clearedByTransaction := by
  apply coherent_while_caching_in_order
  refine ⟨fun _ => trivial, fun _ => trivial, ?_, fun _ => trivial, fun _ => trivial,
    fun _ => trivial, fun _ => trivial, fun _ => trivial, ?_, fun _ => trivial, fun _ => trivial,
    ?_, trivial⟩
  · intro _ _ sagaId begun readAt steps there
    cases there
    decide
  · intro _ version there sagaId insertion last
    cases last
  · intro _ _ sagaId begun readAt steps there
    cases there
    decide

/-- A find that has read before a write caches what it has read after the write returned. -/
def overtakenFind : List (CacheMove Nat) :=
  [.find ⟨7⟩, .innerFind 0, .write, .innerWrite 1 (fun _ => 1), .finishWrite 1, .finishFind 0]

theorem overtaken_find_is_cached :
    ¬(Always (step fun inner _ => inner) (HitsHeld fun inner _ => inner)
          (withConfig 0 1000 (.fromSecs 5)) overtakenFind ∧
        EachMove (step fun inner _ => inner) (ReturnsHeld fun inner _ => inner)
          (withConfig 0 1000 (.fromSecs 5)) overtakenFind) := by
  intro ⟨always, _⟩
  have hits := always_final _ overtakenFind _ always
  obtain ⟨later, reached, inner, there, same⟩ := hits ⟨7⟩ 0 0 (Nat.le_refl _) (by decide)
  have first : later = 1 := by
    have inside := (List.getElem?_eq_some_iff.mp there).1
    change 1 ≤ later at reached
    change later < 2 at inside
    omega
  subst first same
  cases there

end CachedSagaRepository

end System

end HodeiJobs.Sagas
