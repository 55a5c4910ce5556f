import HodeiJobs.Credentials.DefaultSelection

/-!
# Whom `get_secret` asks

The default provider and then the fallbacks. The default provider is among the fallbacks when it is
marked as one.
-/

namespace HodeiJobs.Credentials

open Library Library.LockProgram

open CredentialProviderRegistry

variable {Provider Secret : Type} {registry : CredentialProviderRegistry Provider}

section Questions

variable (answer : Nat → Except CredentialError Secret)

def fallbacks (registry : CredentialProviderRegistry Provider)
    (iteration : Iteration (RegisteredProvider Provider)) : List (RegisteredProvider Provider) :=
  byPriority ((iteration.order registry.providers.rows).filter
    (isFallbackFor registry.defaultProvider))

theorem alone_get_default_provider (world : World Provider Secret) :
    alone RegistryOp.handle getDefaultProvider world = (world.registry.defaultEntry, world) := by
  unfold getDefaultProvider defaultEntry
  rw [alone_bind, alone_reading, alone_read_default]
  cases isDefault : world.registry.defaultProvider with
  | none => rfl
  | some name => rfl

theorem alone_get_fallback_providers (world : World Provider Secret) :
    alone RegistryOp.handle getFallbackProviders world =
      (fallbacks world.registry (world.outside.providersOrder world.iterations),
        { world with iterations := world.iterations + 1 }) := by
  unfold getFallbackProviders fallbacks
  rw [alone_reading, alone_bind, alone_reading, alone_read_default, alone_bind,
    alone_iter_providers, alone_pure]

/-- Every question is answered by its number. -/
def AnswersBy (world : World Provider Secret) : Prop :=
  ∀ number key entry, world.outside.secrets number key entry = answer number

variable {answer}

theorem alone_ask_secret {world : World Provider Secret} (answers : AnswersBy answer world)
    (entry : RegisteredProvider Provider) (key : String) :
    alone RegistryOp.handle (askSecret entry key) world =
      (answer world.asked.length,
        { world with asked := world.asked ++ [(entry, answer world.asked.length)] }) := by
  rw [← answers world.asked.length key entry]
  rfl

theorem alone_ask_fallbacks (key : String) (entries : List (RegisteredProvider Provider))
    {world : World Provider Secret} (answers : AnswersBy answer world) :
    (alone RegistryOp.handle (askFallbacks key entries) world).1 =
        (askInOrder answer world.asked.length entries).2 ∧
      (alone RegistryOp.handle (askFallbacks key entries) world).2.asked.map Prod.fst =
        world.asked.map Prod.fst ++ (askInOrder answer world.asked.length entries).1 := by
  induction entries generalizing world with
  | nil => exact ⟨rfl, (List.append_nil _).symm⟩
  | cons entry rest ih =>
      unfold askFallbacks askInOrder
      rw [alone_bind, alone_ask_secret answers]
      dsimp only
      cases answered : answer world.asked.length with
      | ok secret => exact ⟨rfl, List.map_append⟩
      | error error =>
          dsimp only
          cases error.isRetryable with
          | false => exact ⟨rfl, List.map_append⟩
          | true =>
              let next : World Provider Secret :=
                { world with asked := world.asked ++ [(entry, .error error)] }
              have asksNext : AnswersBy answer next := answers
              have count : next.asked.length = world.asked.length + 1 := List.length_append
              have later := ih asksNext
              rw [count] at later
              refine ⟨later.1, later.2.trans ?_⟩
              show (world.asked ++ [(entry, _)]).map Prod.fst ++ _ = _ ++ entry :: _
              rw [List.map_append, List.append_assoc]
              rfl

theorem alone_fallbacks_asked (key : String) {world : World Provider Secret}
    (answers : AnswersBy answer world) :
    (alone RegistryOp.handle (getFallbackProviders >>= askFallbacks key) world).1 =
        (askInOrder answer world.asked.length
          (fallbacks world.registry (world.outside.providersOrder world.iterations))).2 ∧
      (alone RegistryOp.handle (getFallbackProviders >>= askFallbacks key)
          world).2.asked.map Prod.fst =
        world.asked.map Prod.fst ++ (askInOrder answer world.asked.length
          (fallbacks world.registry (world.outside.providersOrder world.iterations))).1 := by
  rw [alone_bind, alone_get_fallback_providers]
  let next : World Provider Secret := { world with iterations := world.iterations + 1 }
  have asksNext : AnswersBy answer next := answers
  exact alone_ask_fallbacks key _ asksNext

/-- A `get_secret` asks the default provider and then all fallbacks. -/
theorem alone_get_secret (key : String) {world : World Provider Secret}
    (answers : AnswersBy answer world) :
    (alone RegistryOp.handle (getSecret key) world).1 =
        (askInOrder answer world.asked.length (world.registry.defaultEntry.toList ++
          fallbacks world.registry (world.outside.providersOrder world.iterations))).2 ∧
      (alone RegistryOp.handle (getSecret key) world).2.asked.map Prod.fst =
        world.asked.map Prod.fst ++ (askInOrder answer world.asked.length
          (world.registry.defaultEntry.toList ++
            fallbacks world.registry (world.outside.providersOrder world.iterations))).1 := by
  unfold getSecret
  rw [alone_bind, alone_get_default_provider]
  cases world.registry.defaultEntry with
  | none => exact alone_fallbacks_asked key answers
  | some default =>
      dsimp only [Option.toList_some, List.singleton_append]
      rw [alone_bind, alone_ask_secret answers]
      unfold askInOrder
      dsimp only
      cases answer world.asked.length with
      | ok secret => exact ⟨rfl, List.map_append⟩
      | error error =>
          dsimp only
          cases error.isRetryable with
          | false => exact ⟨rfl, List.map_append⟩
          | true =>
              let next : World Provider Secret :=
                { world with asked := world.asked ++ [(default, .error error)] }
              have asksNext : AnswersBy answer next := answers
              have count : next.asked.length = world.asked.length + 1 := List.length_append
              have later := alone_fallbacks_asked key asksNext
              rw [count] at later
              refine ⟨later.1, later.2.trans ?_⟩
              show (world.asked ++ [(default, _)]).map Prod.fst ++ _ = _ ++ default :: _
              rw [List.map_append, List.append_assoc]
              rfl

theorem asks_and_returns (registry : CredentialProviderRegistry Provider) (key : String)
    (orders : Orders Provider) :
    asksAndReturns registry key answer orders = askInOrder answer 0
      (registry.defaultEntry.toList ++ fallbacks registry (orders.providers 0)) := by
  let world := (Request.getSecret key answer : Request Provider Secret).world orders registry
  have answers : AnswersBy answer world := fun _ _ _ => rfl
  obtain ⟨returns, asks⟩ := alone_get_secret key answers
  exact Prod.ext asks returns

variable (answer) in
/-- Whom one asks are the first ones of the order. -/
theorem asked_prefix (number : Nat) (order : List (RegisteredProvider Provider)) :
    (askInOrder answer number order).1 <+: order := by
  induction order generalizing number with
  | nil => exact List.prefix_refl []
  | cons entry rest ih =>
      have single : [entry] <+: entry :: rest := List.cons_prefix_cons.mpr ⟨rfl, List.nil_prefix⟩
      unfold askInOrder
      cases answer number with
      | ok secret => exact single
      | error error =>
          dsimp only
          cases error.isRetryable with
          | false => exact single
          | true => exact List.cons_prefix_cons.mpr ⟨rfl, ih (number + 1)⟩

variable (answer) in
theorem asked_cons (number : Nat) (entry : RegisteredProvider Provider)
    (rest : List (RegisteredProvider Provider)) :
    ∃ later, (askInOrder answer number (entry :: rest)).1 = entry :: later := by
  unfold askInOrder
  cases answer number with
  | ok secret => exact ⟨[], rfl⟩
  | error error =>
      dsimp only
      cases error.isRetryable with
      | false => exact ⟨[], rfl⟩
      | true => exact ⟨_, rfl⟩

/-- A final answer leaves the rest unasked. -/
theorem ask_in_order_of_final {number : Nat} (entry : RegisteredProvider Provider)
    (final : ∀ error, answer number = .error error → error.isRetryable = false)
    (rest others : List (RegisteredProvider Provider)) :
    askInOrder answer number (entry :: rest) = askInOrder answer number (entry :: others) := by
  unfold askInOrder
  cases answered : answer number with
  | ok secret => rfl
  | error error =>
      dsimp only
      rw [final error answered]
      rfl

theorem ask_in_order_of_retryable {number : Nat} {error : CredentialError}
    (answered : answer number = .error error) (retryable : error.isRetryable = true)
    (entry : RegisteredProvider Provider) (rest : List (RegisteredProvider Provider)) :
    (askInOrder answer number (entry :: rest)).1 =
      entry :: (askInOrder answer (number + 1) rest).1 := by
  rw [askInOrder, answered]
  dsimp only
  rw [if_pos retryable]

theorem by_priority_cons {entry : RegisteredProvider Provider}
    {rest : List (RegisteredProvider Provider)}
    (highest : ∀ other ∈ rest, other.config.priority ≤ entry.config.priority) :
    byPriority (entry :: rest) = entry :: byPriority rest := by
  unfold byPriority
  rw [List.insertionSort_cons]
  cases sorted : rest.insertionSort
      (fun first second => second.config.priority ≤ first.config.priority) with
  | nil => rfl
  | cons first others =>
      have isIn : first ∈ rest :=
        (List.perm_insertionSort _ rest).mem_iff.mp (sorted ▸ List.mem_cons_self)
      exact List.orderedInsert_cons_of_le _ _ (highest first isIn)

theorem mem_by_priority {entries : List (RegisteredProvider Provider)}
    {entry : RegisteredProvider Provider} : entry ∈ byPriority entries ↔ entry ∈ entries :=
  (List.perm_insertionSort _ entries).mem_iff

theorem by_priority_sorted (entries : List (RegisteredProvider Provider)) :
    (byPriority entries).Pairwise fun first second =>
      second.config.priority ≤ first.config.priority :=
  List.pairwise_insertionSort _ entries

/-- The available providers other than the default one, in the order in which they are asked. -/
def others (registry : CredentialProviderRegistry Provider)
    (iteration : Iteration (RegisteredProvider Provider)) : List (RegisteredProvider Provider) :=
  byPriority ((iteration.order registry.providers.rows).filter fun entry =>
    decide (Available entry ∧ registry.defaultProvider ≠ some entry.name))

theorem mem_others {iteration : Iteration (RegisteredProvider Provider)}
    {entry : RegisteredProvider Provider} : entry ∈ others registry iteration ↔
      entry ∈ registry.providers.rows ∧ Available entry ∧
        registry.defaultProvider ≠ some entry.name := by
  unfold others
  rw [mem_by_priority, List.mem_filter, (iteration.perm _).mem_iff, decide_eq_true_iff]

theorem others_once (iteration : Iteration (RegisteredProvider Provider)) :
    ((others registry iteration).map RegisteredProvider.name).Nodup := by
  have sorted := (List.perm_insertionSort (fun first second : RegisteredProvider Provider =>
    second.config.priority ≤ first.config.priority)
      ((iteration.order registry.providers.rows).filter fun entry =>
        decide (Available entry ∧ registry.defaultProvider ≠ some entry.name))).map
          RegisteredProvider.name
  have iterated := (iteration.perm registry.providers.rows).map RegisteredProvider.name
  refine sorted.nodup_iff.mpr (List.Nodup.sublist (List.filter_sublist.map _) ?_)
  exact iterated.nodup_iff.mpr registry.providers.unique

theorem is_order_others (iteration : Iteration (RegisteredProvider Provider)) :
    IsOrder registry (registry.defaultEntry.toList ++ others registry iteration) := by
  refine ⟨?_, others registry iteration, rfl, by_priority_sorted _, fun entry => mem_others⟩
  rw [List.map_append, List.nodup_append]
  refine ⟨?_, others_once iteration, ?_⟩
  · cases registry.defaultEntry with
    | none => exact List.nodup_nil
    | some default => exact List.nodup_singleton _
  · intro first isFirst second isSecond same
    obtain ⟨default, isDefault, rfl⟩ := List.mem_map.mp isFirst
    obtain ⟨entry, isOther, rfl⟩ := List.mem_map.mp isSecond
    obtain ⟨name, defaultIs, found⟩ :=
      Option.bind_eq_some_iff.mp (Option.mem_toList.mp isDefault)
    have key : default.name = name := Table.find_some_key found
    exact (mem_others.mp isOther).2.2 (by rw [defaultIs, ← key, same])

/-- Without a default provider that is a fallback too, nobody is asked twice. -/
theorem fallbacks_eq_others (iteration : Iteration (RegisteredProvider Provider))
    (notFallback : ∀ default, registry.defaultEntry = some default → Available default →
      default.config.isFallback = false) :
    fallbacks registry iteration = others registry iteration := by
  unfold fallbacks others
  congr 1
  apply List.filter_congr
  intro entry isIn
  have stored := (iteration.perm _).mem_iff.mp isIn
  unfold isFallbackFor
  rw [Bool.eq_iff_iff, decide_eq_true_iff, Bool.and_eq_true, Bool.and_eq_true, Bool.or_eq_true,
    decide_eq_true_iff]
  constructor
  · rintro ⟨available, isFallback | different⟩
    · refine ⟨available, fun isDefault => ?_⟩
      have isEntry := (default_entry_of_some isDefault).trans (Table.find_of_mem stored)
      cases isFallback.symm.trans (notFallback entry isEntry available)
    · exact ⟨available, different⟩
  · rintro ⟨available, different⟩
    exact ⟨available, Or.inr different⟩

theorem question_meets_order (key : String) (meets : QuestionMeets registry answer)
    (orders : Orders Provider) :
    AsksInOrder registry ((.getSecret key answer, orders) : RequestMove Provider Secret) := by
  refine ⟨_, is_order_others (orders.providers 0), ?_⟩
  rw [asks_and_returns]
  by_cases twice : ∃ default, registry.defaultEntry = some default ∧ Available default ∧
      default.config.isFallback = true
  · obtain ⟨default, isDefault, available, isFallback⟩ := twice
    rw [isDefault]
    exact ask_in_order_of_final default (meets default isDefault available isFallback) _ _
  · rw [fallbacks_eq_others]
    intro default isDefault available
    exact Bool.eq_false_iff.mpr fun isFallback => twice ⟨default, isDefault, available, isFallback⟩

open Classical in
/-- The providers with the given one in front. -/
noncomputable def inFront (first : RegisteredProvider Provider) :
    Iteration (RegisteredProvider Provider) where
  order entries := entries.filter (fun entry => decide (entry = first)) ++
    entries.filter fun entry => !decide (entry = first)
  perm entries := List.filter_append_perm (fun entry => decide (entry = first)) entries

theorem in_front_cons {first : RegisteredProvider Provider}
    {entries : List (RegisteredProvider Provider)} (isIn : first ∈ entries) :
    ∃ rest, (inFront first).order entries = first :: rest := by
  classical
  have isFirst : first ∈ entries.filter fun entry => decide (entry = first) :=
    List.mem_filter.mpr ⟨isIn, decide_eq_true rfl⟩
  cases same : entries.filter fun entry => decide (entry = first) with
  | nil => exact absurd (same ▸ isFirst) List.not_mem_nil
  | cons head tail =>
      have isHead : head ∈ entries.filter fun entry => decide (entry = first) :=
        same ▸ List.mem_cons_self
      obtain rfl := of_decide_eq_true (List.mem_filter.mp isHead).2
      exact ⟨tail ++ entries.filter fun entry => !decide (entry = head), by
        rw [← List.cons_append, ← same]
        rfl⟩

/-- A default provider that is a fallback can be the first of them. -/
theorem fallbacks_in_front {default : RegisteredProvider Provider}
    (stored : default ∈ registry.providers.rows) (available : Available default)
    (isFallback : default.config.isFallback = true)
    (highest : ∀ entry ∈ registry.providers.rows, Available entry →
      entry.config.priority ≤ default.config.priority) :
    ∃ rest, fallbacks registry (inFront default) = default :: rest := by
  obtain ⟨rest, split⟩ := in_front_cons stored
  have isFallbackOne : isFallbackFor registry.defaultProvider default = true := by
    unfold isFallbackFor
    rw [available.1, available.2, isFallback]
    rfl
  unfold fallbacks
  rw [split, List.filter_cons_of_pos isFallbackOne, by_priority_cons]
  · exact ⟨_, rfl⟩
  · intro other isOther
    obtain ⟨isRest, asks⟩ := List.mem_filter.mp isOther
    unfold isFallbackFor at asks
    rw [Bool.and_eq_true, Bool.and_eq_true] at asks
    have isIn := ((inFront default).perm registry.providers.rows).mem_iff.mp
      (split ▸ List.mem_cons_of_mem _ isRest)
    exact highest other isIn asks.1

theorem meets_of_questions_in_order (best : registry.DefaultIsBest) (key : String)
    (asks : ∀ orders, AsksInOrder registry
      ((.getSecret key answer, orders) : RequestMove Provider Secret)) :
    QuestionMeets registry answer := by
  intro default isDefault available isFallback error answered
  by_contra notFinal
  have retryable : error.isRetryable = true := Bool.eq_true_of_not_eq_false notFinal
  obtain ⟨name, defaultIs, found⟩ := Option.bind_eq_some_iff.mp isDefault
  have stored : default ∈ registry.providers.rows := List.mem_of_find?_eq_some found
  obtain ⟨other, isOther, _, highest⟩ := best.best ⟨default, stored, available⟩
  cases isDefault.symm.trans isOther
  let orders : Orders Provider := ⟨fun _ => inFront default, fun _ => ⟨id, List.Perm.refl⟩⟩
  obtain ⟨order, isOrder, same⟩ := asks orders
  rw [asks_and_returns, isDefault] at same
  obtain ⟨rest, isFront⟩ := fallbacks_in_front stored available isFallback highest
  have asked := congrArg Prod.fst same
  obtain ⟨later, again⟩ := asked_cons answer 1 default rest
  have twice : (askInOrder answer 0 order).1 = default :: default :: later := by
    rw [← asked]
    show (askInOrder answer 0 (default :: fallbacks registry (inFront default))).1 = _
    rw [isFront, ask_in_order_of_retryable answered retryable, again]
  have isPrefix := asked_prefix answer 0 order
  rw [twice] at isPrefix
  have once := isOrder.once.sublist (isPrefix.sublist.map RegisteredProvider.name)
  simp at once

end Questions

end HodeiJobs.Credentials
