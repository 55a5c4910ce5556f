import HodeiJobs.Credentials.HealthChecks
import HodeiJobs.Credentials.SecretQuestions

/-!
# The default provider over whole runs

Three methods keep up the default provider, and none of them looks at all that it depends on.
-/

namespace HodeiJobs.Credentials

open Library Library.LockProgram

open CredentialProviderRegistry

variable {Provider Secret : Type} {registry : CredentialProviderRegistry Provider}

theorem ask_fallbacks_keep (key : String) (entries : List (RegisteredProvider Provider))
    (world : World Provider Secret) :
    (alone RegistryOp.handle (askFallbacks key entries) world).2.registry = world.registry := by
  induction entries generalizing world with
  | nil => rfl
  | cons entry rest ih =>
      rw [askFallbacks, alone_bind]
      cases (alone RegistryOp.handle (askSecret entry key) world).1 with
      | ok secret => rfl
      | error error =>
          dsimp only
          cases error.isRetryable with
          | false => rfl
          | true => exact ih _

theorem fallbacks_asked_keep (key : String) (world : World Provider Secret) :
    (alone RegistryOp.handle (getFallbackProviders >>= askFallbacks key) world).2.registry =
      world.registry := by
  rw [alone_bind, alone_get_fallback_providers]
  exact ask_fallbacks_keep key _ _

theorem get_secret_keeps (key : String) (answer : Nat → Except CredentialError Secret)
    (orders : Orders Provider) :
    registry.after ((.getSecret key answer, orders) : RequestMove Provider Secret) = registry := by
  let world := (Request.getSecret key answer : Request Provider Secret).world orders registry
  have keeps : (alone RegistryOp.handle (getSecret key) world).2.registry = registry := by
    unfold getSecret
    rw [alone_bind, alone_get_default_provider]
    cases world.registry.defaultEntry with
    | none => exact fallbacks_asked_keep key world
    | some default =>
        dsimp only
        rw [alone_bind]
        cases (alone RegistryOp.handle (askSecret default key) world).1 with
        | ok secret => rfl
        | error error =>
            dsimp only
            cases error.isRetryable with
            | false => rfl
            | true => exact fallbacks_asked_keep key _
  unfold after
  show (alone RegistryOp.handle (getSecret key >>= fun _ => pure ()) world).2.registry = _
  rw [alone_bind]
  exact keeps

/-- Whatever the iteration orders, a call keeps the default right and asks in order exactly if it
meets its condition. -/
theorem call_right_iff (best : registry.DefaultIsBest) (request : Request Provider Secret) :
    (∀ orders, (registry.after (request, orders)).DefaultIsBest ∧
        AsksInOrder registry (request, orders)) ↔ Meets registry request := by
  cases request with
  | register provider config =>
      have exact := register_keeps_iff Secret best provider config
      constructor
      · intro right
        exact (exact ⟨fun _ => ⟨id, List.Perm.refl⟩, fun _ => ⟨id, List.Perm.refl⟩⟩).mp (right _).1
      · intro meets orders
        exact ⟨(exact orders).mpr meets, trivial⟩
  | unregister name =>
      exact iff_of_true (fun orders => ⟨unregister_keeps best name orders, trivial⟩) trivial
  | healthCheckAll outcome =>
      constructor
      · exact fun right => meets_of_health_checks_keep fun orders => (right orders).1
      · exact fun meets orders => ⟨health_check_keeps best meets orders, trivial⟩
  | getSecret key answer =>
      constructor
      · exact fun right => meets_of_questions_in_order best key fun orders => (right orders).2
      · intro meets orders
        refine ⟨?_, question_meets_order key meets orders⟩
        rw [get_secret_keeps]
        exact best

theorem new_is_best :
    DefaultIsBest (CredentialProviderRegistry.new : CredentialProviderRegistry Provider) := by
  rw [default_is_best_iff_none rfl]
  exact fun entry isIn => absurd isIn List.not_mem_nil

/-- For a sequence of calls, whatever the iteration orders: the default provider is right all the
time and every `get_secret` asks in order, exactly if each call meets its condition. -/
theorem default_right_iff_each_meets (requests : List (Request Provider Secret)) :
    (∀ moves : List (RequestMove Provider Secret), moves.map Prod.fst = requests →
        Always after DefaultIsBest .new moves ∧ EachMove after AsksInOrder .new moves) ↔
      ∀ moves : List (RequestMove Provider Secret), moves.map Prod.fst = requests →
        EachMove after (fun registry move => Meets registry move.1) .new moves :=
  always_and_each_move_iff_of_choices after DefaultIsBest AsksInOrder Meets
    (fun _ request best => call_right_iff best request) requests .new new_is_best

/-- A provider is registered, and then again as disabled. -/
def disablingRequests : List (Request Unit Unit) :=
  [.register () ⟨"vault", true, 10, false⟩, .register () ⟨"vault", false, 10, false⟩]

theorem disabled_default_stays :
    ¬∀ moves : List (RequestMove Unit Unit), moves.map Prod.fst = disablingRequests →
      Always after DefaultIsBest .new moves ∧ EachMove after AsksInOrder .new moves := by
  intro right
  let orders : Orders Unit := ⟨fun _ => ⟨id, List.Perm.refl⟩, fun _ => ⟨id, List.Perm.refl⟩⟩
  obtain ⟨always, _⟩ := right (disablingRequests.map fun request => (request, orders)) rfl
  obtain ⟨entry, found, enabled⟩ := (always_final _ _ _ always).enabled "vault" (by decide)
  have disabled : ∀ entry ∈ ((disablingRequests.map fun request => (request, orders)).foldl after
      CredentialProviderRegistry.new).providers.rows, entry.config.enabled = false := by
    decide
  cases enabled.symm.trans (disabled entry (List.mem_of_find?_eq_some found))

end HodeiJobs.Credentials
