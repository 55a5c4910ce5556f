import HodeiJobs.Library.Clients
import HodeiJobs.Library.Custody
import HodeiJobs.Providers.HealthMonitor
import HodeiJobs.Providers.IpPool

/-!
# The microVMs of the Firecracker provider

`create_worker` and `destroy_worker`, interleaved call by call on one pool of addresses and one
map of microVMs. Each lock is held for one access only, so a creation looks for the worker, takes
an address and enters the microVM in steps of its own.
-/

namespace HodeiJobs.Providers

open HodeiJobs.Dispatch (ProviderId)
open HodeiJobs.Execution (UuidText WorkerId)
open HodeiJobs.Library HodeiJobs.Library.Program
open HodeiJobs.Shared (WorkerState)

inductive MicroVMState where
  | creating
  | running
  | stopping
  | stopped
  | failed (reason : String)
  deriving DecidableEq

def mapVmState : MicroVMState → WorkerState
  | .creating => .creating
  | .running => .ready
  | .stopping => .creating
  | .stopped => .terminated
  | .failed _ => .terminated

structure MicroVMInstance where
  workerId : WorkerId
  vmId : String
  tapDevice : String
  ipAddress : Ipv4Addr
  state : MicroVMState
  pid : Option UInt32
  deriving DecidableEq

/-- `WorkerHandle` with the metadata that this provider enters. -/
structure VmHandle where
  workerId : WorkerId
  providerResourceId : String
  providerId : ProviderId
  ipAddress : Ipv4Addr
  tapDevice : String
  pid : UInt32
  deriving DecidableEq

structure FirecrackerProvider where
  providerId : ProviderId
  tapPrefix : String
  ipPool : IpPool
  activeVms : Table MicroVMInstance.workerId

namespace FirecrackerProvider

def vmId (uuids : UuidText) (workerId : WorkerId) : String := "fc-" ++ uuids.display workerId.uuid

/-- `get_worker_status`: one read of the map. -/
def getWorkerStatus (provider : FirecrackerProvider) (workerId : WorkerId) : WorkerState :=
  match provider.activeVms.find workerId with
  | some microVm => mapVmState microVm.state
  | none => .terminated

def vmAddresses (provider : FirecrackerProvider) : List Ipv4Addr :=
  provider.activeVms.rows.map MicroVMInstance.ipAddress

end FirecrackerProvider

/-! ## Accesses to the map, the pool and the host -/

inductive VmOp where
  | containsVm (workerId : WorkerId)
  | allocate
  | release (ip : Ipv4Addr)
  | createTapDevice (vmId : String) (ip : Ipv4Addr)
  | prepareVmDirectory (vmId : String)
  | startMicrovm (vmId : String) (ip : Ipv4Addr) (tapDevice : String)
  | insertVm (microVm : MicroVMInstance)
  | removeVm (workerId : WorkerId)
  /-- The attempts to stop the microVM, whose outcome nothing depends on. -/
  | stopMicrovm (microVm : MicroVMInstance)
  | destroyTapDevice (tapDevice : String)
  | removeVmDirectory (vmId : String)
  deriving DecidableEq

abbrev VmOp.Reply : VmOp → Type
  | .containsVm _ => Bool
  | .allocate => Except PoolError Ipv4Addr
  | .release _ => Unit
  | .createTapDevice _ _ => Except String String
  | .prepareVmDirectory _ => Except String Unit
  | .startMicrovm _ _ _ => Except String UInt32
  | .insertVm _ => Option MicroVMInstance
  | .removeVm _ => Option MicroVMInstance
  | .stopMicrovm _ => Unit
  | .destroyTapDevice _ => Unit
  | .removeVmDirectory _ => Unit

/-- What the host answers. A failure stands with the text of its error. -/
structure Host where
  createTapDevice : Except String Unit
  prepareVmDirectory : Except String Unit
  startMicrovm : Except String UInt32

/-- `{tap_prefix}-{vm_id[3..11]}`. -/
def tapName (tapPrefix vmId : String) : String :=
  tapPrefix ++ "-" ++ String.ofList ((vmId.toList.drop 3).take 8)

def handleVm (host : Host) : (op : VmOp) → FirecrackerProvider → op.Reply × FirecrackerProvider
  | .containsVm workerId, provider => ((provider.activeVms.find workerId).isSome, provider)
  | .allocate, provider =>
      (provider.ipPool.allocate.1, { provider with ipPool := provider.ipPool.allocate.2 })
  | .release ip, provider => ((), { provider with ipPool := provider.ipPool.release ip })
  | .createTapDevice vmId _, provider =>
      (host.createTapDevice.map fun _ => tapName provider.tapPrefix vmId, provider)
  | .prepareVmDirectory _, provider => (host.prepareVmDirectory, provider)
  | .startMicrovm _ _ _, provider => (host.startMicrovm, provider)
  | .insertVm microVm, provider =>
      (provider.activeVms.find microVm.workerId,
        { provider with activeVms := provider.activeVms.upsert microVm })
  | .removeVm workerId, provider =>
      (provider.activeVms.find workerId,
        { provider with activeVms := provider.activeVms.delete workerId })
  | .stopMicrovm _, provider => ((), provider)
  | .destroyTapDevice _, provider => ((), provider)
  | .removeVmDirectory _, provider => ((), provider)

/-! ## The calls -/

/-- The branches in which `create_worker` returns an error. -/
inductive CreateFailure where
  | alreadyExists (vmId : String)
  | allocateIp (message : String)
  | createTapDevice (message : String)
  | prepareVmDirectory (message : String)
  | startMicrovm (message : String)
  /-- The arithmetic of the pool panicked. -/
  | panicked
  deriving DecidableEq

def CreateFailure.toProviderError : CreateFailure → Option ProviderError
  | .alreadyExists vmId => some (.provisioningFailed ("VM " ++ vmId ++ " already exists"))
  | .allocateIp message => some (.provisioningFailed ("Failed to allocate IP: " ++ message))
  | .createTapDevice message =>
      some (.provisioningFailed ("Failed to create TAP device: " ++ message))
  | .prepareVmDirectory message =>
      some (.provisioningFailed ("Failed to prepare VM directory: " ++ message))
  | .startMicrovm message => some (.provisioningFailed ("Failed to start microVM: " ++ message))
  | .panicked => none

def PoolError.toCreateFailure : PoolError → CreateFailure
  | .invalidProviderConfig message =>
      .allocateIp ("Invalid provider configuration: " ++ message)
  | .overflow => .panicked

inductive VmResult where
  | created (outcome : Except CreateFailure VmHandle)
  | destroyed
  deriving DecidableEq

abbrev VmProgram := Program VmOp VmOp.Reply

def ask (op : VmOp) : VmProgram op.Reply := request op

def createWorker (uuids : UuidText) (providerId : ProviderId) (workerId : WorkerId) :
    VmProgram VmResult := do
  let vmId := FirecrackerProvider.vmId uuids workerId
  if ← ask (.containsVm workerId) then
    return .created (.error (.alreadyExists vmId))
  match ← ask .allocate with
  | .error problem => return .created (.error problem.toCreateFailure)
  | .ok vmIp =>
    match ← ask (.createTapDevice vmId vmIp) with
    | .error message =>
      ask (.release vmIp)
      return .created (.error (.createTapDevice message))
    | .ok tapDevice =>
      -- from here on a failure drops `NetworkResources`, which deletes the device only
      match ← ask (.prepareVmDirectory vmId) with
      | .error message => return .created (.error (.prepareVmDirectory message))
      | .ok () =>
        match ← ask (.startMicrovm vmId vmIp tapDevice) with
        | .error message => return .created (.error (.startMicrovm message))
        | .ok pid =>
          let _ ← ask (.insertVm ⟨workerId, vmId, tapDevice, vmIp, .running, some pid⟩)
          return .created (.ok ⟨workerId, vmId, providerId, vmIp, tapDevice, pid⟩)

def destroyWorker (handle : VmHandle) : VmProgram VmResult := do
  match ← ask (.removeVm handle.workerId) with
  | none => return .destroyed
  | some microVm =>
    ask (.stopMicrovm microVm)
    ask (.destroyTapDevice microVm.tapDevice)
    ask (.release microVm.ipAddress)
    ask (.removeVmDirectory handle.providerResourceId)
    return .destroyed

inductive VmCall where
  | createWorker (workerId : WorkerId)
  | destroyWorker (handle : VmHandle)

def VmCall.program (uuids : UuidText) (providerId : ProviderId) : VmCall → VmProgram VmResult
  | .createWorker workerId => Providers.createWorker uuids providerId workerId
  | .destroyWorker handle => Providers.destroyWorker handle

/-! ## Who has an address -/

/-- The addresses that one call has to place: the one it allocated or took from a removed microVM,
and the one of a microVM in whose place it put its own. -/
structure CallAddresses where
  fresh : Option Ipv4Addr
  displaced : Option Ipv4Addr
  deriving DecidableEq

def CallAddresses.held (addresses : CallAddresses) : List Ipv4Addr :=
  addresses.fresh.toList ++ addresses.displaced.toList

def addressProtocol : Protocol VmOp VmOp.Reply CallAddresses where
  answers _ _ := True
  allows
    | addresses, .allocate => addresses.fresh = none
    | addresses, .removeVm _ => addresses.fresh = none
    | addresses, .release ip => addresses.fresh = some ip
    | addresses, .insertVm microVm =>
        addresses = ⟨some microVm.ipAddress, none⟩ ∧ microVm.state = .running
    | _, _ => True
  remember
    | addresses, .allocate, Except.ok ip => { addresses with fresh := some ip }
    | addresses, .release _, _ => { addresses with fresh := none }
    | _, .insertVm _, replaced => ⟨none, replaced.map MicroVMInstance.ipAddress⟩
    | addresses, .removeVm _, some microVm => { addresses with fresh := some microVm.ipAddress }
    | addresses, _, _ => addresses

/-- The failures after which nobody releases the address. -/
def CreateFailure.isLate : CreateFailure → Bool
  | .prepareVmDirectory _ | .startMicrovm _ => true
  | _ => false

def VmResult.isLate : VmResult → Bool
  | .created (.error failure) => failure.isLate
  | _ => false

/-- What a call has in hand when it returns. -/
def AddressesAtEnd (addresses : CallAddresses) (result : VmResult) : Prop :=
  addresses.fresh.isSome = result.isLate

theorem create_worker_obeys (uuids : UuidText) (providerId : ProviderId) (workerId : WorkerId) :
    (createWorker uuids providerId workerId).Obeys addressProtocol AddressesAtEnd ⟨none, none⟩ := by
  refine ⟨trivial, ?_⟩
  intro isThere _
  cases isThere with
  | true => rfl
  | false =>
      refine ⟨rfl, ?_⟩
      intro allocated _
      cases allocated with
      | error problem => cases problem <;> rfl
      | ok vmIp =>
          refine ⟨trivial, ?_⟩
          intro device _
          cases device with
          | error message => exact ⟨rfl, fun _ _ => rfl⟩
          | ok tapDevice =>
              refine ⟨trivial, ?_⟩
              intro prepared _
              cases prepared with
              | error message => rfl
              | ok _ =>
                  refine ⟨trivial, ?_⟩
                  intro started _
                  cases started with
                  | error message => rfl
                  | ok pid => exact ⟨⟨rfl, rfl⟩, fun _ _ => rfl⟩

theorem destroy_worker_obeys (handle : VmHandle) :
    (destroyWorker handle).Obeys addressProtocol AddressesAtEnd ⟨none, none⟩ := by
  refine ⟨rfl, ?_⟩
  intro removed _
  cases removed with
  | none => rfl
  | some microVm =>
      refine ⟨trivial, fun _ _ => ⟨trivial, fun _ _ => ⟨rfl, fun _ _ => ⟨trivial, ?_⟩⟩⟩⟩
      intro _ _
      rfl

theorem VmCall.program_obeys (uuids : UuidText) (providerId : ProviderId) (call : VmCall) :
    (call.program uuids providerId).Obeys addressProtocol AddressesAtEnd ⟨none, none⟩ := by
  cases call with
  | createWorker workerId => exact create_worker_obeys uuids providerId workerId
  | destroyWorker handle => exact destroy_worker_obeys handle

/-! ## One access -/

section Access

variable {provider : FirecrackerProvider} {addresses : CallAddresses} {others : List Ipv4Addr}

/-- `others` is what the other calls have in hand. -/
structure Accounted (addresses : CallAddresses) (others : List Ipv4Addr)
    (provider : FirecrackerProvider) : Prop where
  valid : provider.ipPool.Valid
  running : ∀ microVm ∈ provider.activeVms.rows, microVm.state = .running
  custody : InCustody (addresses.held ++ (others ++ provider.vmAddresses)) provider.ipPool.allocated

theorem accounted_allocate (accounted : Accounted addresses others provider)
    (allowed : addresses.fresh = none) (host : Host) :
    Accounted (addressProtocol.remember addresses .allocate (handleVm host .allocate provider).1)
      others (handleVm host .allocate provider).2 := by
  obtain ⟨fresh, displaced⟩ := addresses
  cases allowed
  refine ⟨accounted.valid.step .allocate, accounted.running, ?_⟩
  obtain ⟨ip, next, allocates, _, free, inserts, _⟩ | ⟨fails, _⟩ := accounted.valid.allocate_spec
  · simp only [handleVm, allocates, inserts]
    exact accounted.custody.taken free (List.Perm.refl _)
  · simp only [handleVm, fails]
    exact accounted.custody

theorem accounted_release (accounted : Accounted addresses others provider) {ip : Ipv4Addr}
    (allowed : addresses.fresh = some ip) (host : Host) :
    Accounted (addressProtocol.remember addresses (.release ip) ()) others
      (handleVm host (.release ip) provider).2 := by
  obtain ⟨fresh, displaced⟩ := addresses
  cases allowed
  exact ⟨accounted.valid.step (.release ip), accounted.running,
    accounted.custody.given_back (List.Perm.refl _)⟩

theorem accounted_insert_vm (accounted : Accounted addresses others provider)
    {microVm : MicroVMInstance} (isFresh : addresses = ⟨some microVm.ipAddress, none⟩)
    (isRunning : microVm.state = .running) (host : Host) :
    Accounted
      (addressProtocol.remember addresses (.insertVm microVm)
        (provider.activeVms.find microVm.workerId)) others
      (handleVm host (.insertVm microVm) provider).2 := by
  subst isFresh
  refine ⟨accounted.valid, ?_, accounted.custody.handed_on ?_⟩
  · intro other member
    rcases Table.mem_upsert_iff.mp member with rfl | ⟨_, before⟩
    · exact isRunning
    · exact accounted.running other before
  · have entered := (provider.activeVms.rows_upsert_perm microVm).map MicroVMInstance.ipAddress
    rw [List.perm_iff_count]
    intro ip
    have enteredCount := entered.count_eq ip
    cases replaced : provider.activeVms.find microVm.workerId with
    | none =>
        rw [Table.delete_of_absent replaced] at enteredCount
        simp only [addressProtocol, handleVm, CallAddresses.held, FirecrackerProvider.vmAddresses,
          List.count_append, List.map_cons, List.count_cons, Option.map_none, Option.toList_none,
          Option.toList_some, List.count_nil] at enteredCount ⊢
        omega
    | some old =>
        have removedCount :=
          ((Table.rows_perm_of_find replaced).map MicroVMInstance.ipAddress).count_eq ip
        simp only [addressProtocol, handleVm, CallAddresses.held, FirecrackerProvider.vmAddresses,
          List.count_append, List.map_cons, List.count_cons, Option.map_some, Option.toList_none,
          Option.toList_some, List.count_nil] at enteredCount removedCount ⊢
        omega

theorem accounted_remove_vm (accounted : Accounted addresses others provider)
    (workerId : WorkerId) (allowed : addresses.fresh = none) (host : Host) :
    Accounted
      (addressProtocol.remember addresses (.removeVm workerId)
        (provider.activeVms.find workerId)) others
      (handleVm host (.removeVm workerId) provider).2 := by
  obtain ⟨fresh, displaced⟩ := addresses
  cases allowed
  refine ⟨accounted.valid, ?_, accounted.custody.handed_on ?_⟩
  · intro microVm member
    exact accounted.running microVm (Table.mem_delete_iff.mp member).2
  · cases removed : provider.activeVms.find workerId with
    | none =>
        have same := Table.delete_of_absent removed
        simp only [addressProtocol, handleVm, FirecrackerProvider.vmAddresses, same]
        exact List.Perm.refl _
    | some old =>
        rw [List.perm_iff_count]
        intro ip
        have removedCount :=
          ((Table.rows_perm_of_find removed).map MicroVMInstance.ipAddress).count_eq ip
        simp only [addressProtocol, handleVm, CallAddresses.held, FirecrackerProvider.vmAddresses,
          List.count_append, List.map_cons, List.count_cons, Option.toList_none,
          Option.toList_some, List.count_nil] at removedCount ⊢
        omega

theorem accounted_access (accounted : Accounted addresses others provider) {op : VmOp}
    (allowed : addressProtocol.allows addresses op) (host : Host) :
    Accounted (addressProtocol.remember addresses op (handleVm host op provider).1) others
      (handleVm host op provider).2 := by
  cases op with
  | allocate => exact accounted_allocate accounted allowed host
  | release ip => exact accounted_release accounted allowed host
  | insertVm microVm => exact accounted_insert_vm accounted allowed.1 allowed.2 host
  | removeVm workerId => exact accounted_remove_vm accounted workerId allowed host
  | _ => exact accounted

end Access

/-! ## Any number of calls -/

abbrev VmSystem := Pool VmOp VmOp.Reply CallAddresses VmResult FirecrackerProvider

namespace VmSystem

def start (uuids : UuidText) (provider : FirecrackerProvider) (calls : List VmCall) : VmSystem where
  clients := calls.map fun call => ⟨⟨none, none⟩, call.program uuids provider.providerId⟩
  world := provider

/-- A call makes its next access, and the host answers it. -/
def step (system : VmSystem) (move : Nat × Host) : VmSystem :=
  Pool.step addressProtocol handleVm system move

variable (system : VmSystem)

/-- The addresses that the calls have to place, also those that have returned. -/
def inHand : List Ipv4Addr := system.clients.flatMap fun call => call.memory.held

/-- Every allocated address is the one of exactly one microVM, or in the hands of one call. -/
structure OneOwner : Prop where
  distinct : (system.inHand ++ system.world.vmAddresses).Nodup
  allocated : ∀ ip, system.world.ipPool.isAllocated ip = true ↔
    ip ∈ system.inHand ∨ ip ∈ system.world.vmAddresses
  hosts : ∀ ip ∈ system.world.vmAddresses, system.world.ipPool.IsHost ip
  counted : system.world.ipPool.allocatedCount =
    system.inHand.length + system.world.vmAddresses.length
  status : ∀ workerId, system.world.getWorkerStatus workerId = .ready ∨
    system.world.getWorkerStatus workerId = .terminated

/-- What every access keeps. -/
structure Keeps (pool : IpPool) : Prop where
  obey : Pool.Obey addressProtocol AddressesAtEnd system
  accounted : Accounted ⟨none, none⟩ system.inHand system.world
  sameMask : system.world.ipPool.maskBits = pool.maskBits

variable {system} {pool : IpPool}

theorem same_mask_access {provider : FirecrackerProvider} (valid : provider.ipPool.Valid)
    (host : Host) (op : VmOp) :
    (handleVm host op provider).2.ipPool.maskBits = provider.ipPool.maskBits := by
  cases op with
  | allocate => exact valid.mask_bits_step .allocate
  | _ => rfl

theorem in_hand_step {move : Nat × Host} {addresses : CallAddresses} {op : VmOp}
    (called : system.moveCall move = some (addresses, op)) :
    ∃ others, system.inHand.Perm (addresses.held ++ others) ∧
      (system.step move).inHand.Perm
        ((addressProtocol.remember addresses op (handleVm move.2 op system.world).1).held ++
          others) :=
  Pool.held_step CallAddresses.held called

theorem Keeps.step (keeps : system.Keeps pool) (move : Nat × Host) :
    (system.step move).Keeps pool := by
  have obey : Pool.Obey addressProtocol AddressesAtEnd (system.step move) :=
    Pool.obey_step keeps.obey move fun _ _ _ => trivial
  cases called : system.moveCall move with
  | none =>
      rw [VmSystem.step, Pool.step_of_no_call called]
      exact keeps
  | some call =>
      obtain ⟨addresses, op⟩ := call
      obtain ⟨others, before, after⟩ := in_hand_step called
      have world : (system.step move).world = (handleVm move.2 op system.world).2 := by
        rw [VmSystem.step, Pool.step_world, called]
      have own : Accounted addresses others system.world := by
        refine ⟨keeps.accounted.valid, keeps.accounted.running, ?_⟩
        apply keeps.accounted.custody.handed_on
        rw [← List.append_assoc]
        exact before.symm.append_right _
      have moved := accounted_access own (Pool.allowed_of_obey keeps.obey called) move.2
      refine ⟨obey, ⟨?_, ?_, ?_⟩, ?_⟩
      · rw [world]
        exact moved.valid
      · rw [world]
        exact moved.running
      · rw [world]
        apply moved.custody.handed_on
        have whole := after.append_right (handleVm move.2 op system.world).2.vmAddresses
        rw [List.append_assoc] at whole
        exact whole
      · rw [world, same_mask_access keeps.accounted.valid]
        exact keeps.sameMask

theorem keeps_start (uuids : UuidText) {provider : FirecrackerProvider}
    (valid : provider.ipPool.Valid) (free : provider.ipPool.allocated = ∅)
    (noVms : provider.activeVms.rows = []) (calls : List VmCall) :
    (start uuids provider calls).Keeps provider.ipPool := by
  have noneInHand : (start uuids provider calls).inHand = [] := by
    rw [inHand, start, List.flatMap_map]
    exact List.flatMap_eq_nil_iff.mpr fun _ _ => rfl
  refine ⟨?_, ⟨valid, ?_, ?_⟩, rfl⟩
  · intro client member
    obtain ⟨call, _, rfl⟩ := List.mem_map.mp member
    exact call.program_obeys uuids provider.providerId
  · intro microVm member
    rw [start, noVms] at member
    cases member
  · rw [noneInHand, start, FirecrackerProvider.vmAddresses, noVms, free]
    exact InCustody.none_held

theorem Keeps.one_owner (keeps : system.Keeps pool) : system.OneOwner where
  distinct := keeps.accounted.custody.distinct
  allocated ip := by
    rw [← List.mem_append, IpPool.isAllocated, decide_eq_true_iff]
    exact (keeps.accounted.custody.registered ip).symm
  hosts ip member := by
    apply keeps.accounted.valid.hosts
    apply (keeps.accounted.custody.registered ip).mp
    exact List.mem_append_right _ (List.mem_append_right _ member)
  counted := by
    rw [← List.length_append]
    exact keeps.accounted.custody.card_register
  status workerId := by
    unfold FirecrackerProvider.getWorkerStatus
    cases found : system.world.activeVms.find workerId with
    | none => exact .inr rfl
    | some microVm =>
        have isRunning := keeps.accounted.running microVm (List.mem_of_find?_eq_some found)
        simp only [isRunning]
        exact .inl rfl

/-- The provider as `new` makes it. -/
def initially (providerId : ProviderId) (tapPrefix : String) (pool : IpPool) :
    FirecrackerProvider where
  providerId := providerId
  tapPrefix := tapPrefix
  ipPool := pool
  activeVms := ⟨[], List.nodup_nil⟩

theorem always_keeps {cidr : String} (parsed : IpPool.fromCidr cidr = .ok pool)
    (fits : pool.Fits) (uuids : UuidText) (providerId : ProviderId) (tapPrefix : String)
    (calls : List VmCall) (moves : List (Nat × Host)) :
    Always step (fun system => system.Keeps pool)
      (start uuids (initially providerId tapPrefix pool) calls) moves := by
  apply always_of_preserved step _ (fun _ move keeps => Keeps.step keeps move)
  exact keeps_start uuids (IpPool.from_cidr_valid parsed fits)
    (IpPool.from_cidr_allocated parsed) rfl calls

/-- However creations and destructions interleave, every allocated address has one owner, and a
worker of this provider is either ready or terminated. -/
theorem each_address_has_one_owner {cidr : String} (parsed : IpPool.fromCidr cidr = .ok pool)
    (fits : pool.Fits) (uuids : UuidText) (providerId : ProviderId) (tapPrefix : String)
    (calls : List VmCall) (moves : List (Nat × Host)) :
    Always step OneOwner (start uuids (initially providerId tapPrefix pool) calls) moves :=
  always_imp step (fun _ keeps => Keeps.one_owner keeps) moves _
    (always_keeps parsed fits uuids providerId tapPrefix calls moves)

/-- A subnet of two addresses. -/
def smallPool : IpPool := ⟨⟨167772160, by decide⟩, 30, ∅, 2⟩

theorem small_subnet_parsed : IpPool.fromCidr "10.0.0.0/30" = .ok smallPool := rfl

theorem small_pool_fits : smallPool.Fits :=
  smallPool.fits_of_network (by decide) (by decide)

def onesText : UuidText where
  display id := String.ofList (List.replicate id '1')
  parse text := some text.length
  parse_display id := by rw [String.length_ofList, List.length_replicate]

def twoCreations : List VmCall := [.createWorker ⟨1⟩, .createWorker ⟨2⟩]

def idleHost : Host := ⟨.ok (), .ok (), .ok 7⟩

/-- The calls take turns, up to the directory of the first microVM and the device of the
second. -/
theorem two_creations_one_owner :
    Always step OneOwner (start onesText (initially ⟨0⟩ "fc-tap" smallPool) twoCreations)
      [(0, idleHost), (1, idleHost), (0, idleHost), (1, idleHost), (0, idleHost), (1, idleHost),
        (0, idleHost)] :=
  each_address_has_one_owner small_subnet_parsed small_pool_fits onesText ⟨0⟩ "fc-tap"
    twoCreations _

/-! ## Addresses that stay away -/

def resultOf (call : Client VmOp VmOp.Reply CallAddresses VmResult) : Option VmResult :=
  match call.program with
  | .done result => some result
  | .call _ _ => none

/-- The call has returned with a failure after its device was created. -/
def failedLate (call : Client VmOp VmOp.Reply CallAddresses VmResult) : Bool :=
  ((resultOf call).map VmResult.isLate).getD false

def lateFailures (system : VmSystem) : Nat := system.clients.countP failedLate

/-- The microVMs that another one of their worker was entered over. -/
def displacements (system : VmSystem) : Nat :=
  system.clients.countP fun call => call.memory.displaced.isSome

def finished (system : VmSystem) : Bool :=
  system.clients.all fun call => (resultOf call).isSome

/-- How the allocated addresses come about. -/
structure Accounts (system : VmSystem) : Prop where
  atLeast : system.world.vmAddresses.length + system.lateFailures ≤
    system.world.ipPool.allocatedCount
  atMost : system.world.ipPool.allocatedCount ≤ system.world.ipPool.hostCount
  finished : system.finished = true → system.world.ipPool.allocatedCount =
    system.world.vmAddresses.length + system.lateFailures + system.displacements

theorem fresh_of_result {call : Client VmOp VmOp.Reply CallAddresses VmResult}
    (obeys : call.Obeys addressProtocol AddressesAtEnd) {result : VmResult}
    (returned : resultOf call = some result) : call.memory.fresh.isSome = failedLate call := by
  obtain ⟨memory, program⟩ := call
  cases program with
  | done value => exact obeys
  | call op next => cases returned

theorem length_held (addresses : CallAddresses) :
    addresses.held.length = addresses.fresh.isSome.toNat + addresses.displaced.isSome.toNat := by
  obtain ⟨fresh, displaced⟩ := addresses
  cases fresh <;> cases displaced <;> rfl

theorem late_le_in_hand {calls : List (Client VmOp VmOp.Reply CallAddresses VmResult)}
    (obey : ∀ call ∈ calls, call.Obeys addressProtocol AddressesAtEnd) :
    calls.countP failedLate ≤ (calls.flatMap fun call => call.memory.held).length ∧
      ((calls.all fun call => (resultOf call).isSome) = true →
        (calls.flatMap fun call => call.memory.held).length =
          calls.countP failedLate + calls.countP fun call => call.memory.displaced.isSome) := by
  induction calls with
  | nil => exact ⟨Nat.le_refl 0, fun _ => rfl⟩
  | cons call rest ih =>
      obtain ⟨least, whenFinished⟩ :=
        ih fun other member => obey other (List.mem_cons_of_mem _ member)
      have own := obey call List.mem_cons_self
      rw [List.flatMap_cons, List.length_append, length_held, List.countP_cons, List.countP_cons,
        List.all_cons, Bool.and_eq_true]
      cases returned : resultOf call with
      | none =>
          have early : failedLate call = false := by rw [failedLate, returned]; rfl
          rw [early]
          refine ⟨by simp only [Bool.false_eq_true, if_false]; omega, ?_⟩
          intro ⟨absurdity, _⟩
          cases absurdity
      | some result =>
          rw [fresh_of_result own returned]
          constructor
          · cases failedLate call <;> simp only [Bool.toNat_true, Bool.toNat_false, if_true,
              Bool.false_eq_true, if_false] <;> omega
          · intro ⟨_, others⟩
            rw [whenFinished others]
            cases failedLate call <;> cases call.memory.displaced.isSome <;>
              simp only [Bool.toNat_true, Bool.toNat_false, if_true, Bool.false_eq_true,
                if_false] <;> omega

theorem Keeps.accounts (keeps : system.Keeps pool) : system.Accounts := by
  obtain ⟨least, whenFinished⟩ := late_le_in_hand keeps.obey
  have counted := keeps.one_owner.counted
  have valid := keeps.accounted.valid
  refine ⟨?_, ?_, ?_⟩
  · rw [counted, Nat.add_comm]
    exact Nat.add_le_add_right least _
  · rw [← valid.card_host_set]
    exact Finset.card_le_card valid.allocated_subset
  · intro isFinished
    rw [counted, inHand, whenFinished isFinished, lateFailures, displacements]
    omega

/-- A call that has returned does nothing more. -/
theorem late_failures_step (system : VmSystem) (move : Nat × Host) :
    system.lateFailures ≤ (system.step move).lateFailures := by
  unfold lateFailures VmSystem.step Pool.step
  cases found : system.clients[move.1]? with
  | none => exact Nat.le_refl _
  | some call =>
      obtain ⟨bound, read⟩ := List.getElem?_eq_some_iff.mp found
      cases isLate : failedLate call with
      | false =>
          simp only [List.countP_set bound, read, isLate, Bool.false_eq_true, if_false]
          omega
      | true =>
          have returned : call.nextCall = none := by
            obtain ⟨addresses, program⟩ := call
            cases program with
            | done result => rfl
            | call op next => cases isLate
          simp only [Client.advance_finished addressProtocol (handleVm move.2) system.world
            returned]
          rw [← read, List.set_getElem_self]

/-- No worker runs, and none can be created. -/
def Exhausted (system : VmSystem) : Prop :=
  system.world.vmAddresses = [] ∧
    system.world.ipPool.allocate.1 = .error (.invalidProviderConfig "IP pool exhausted")

theorem Keeps.exhausted (keeps : system.Keeps pool)
    (all : pool.hostCount ≤ system.lateFailures) : system.Exhausted := by
  have valid := keeps.accounted.valid
  have accounts := keeps.accounts
  have sameCount : system.world.ipPool.hostCount = pool.hostCount := by
    rw [IpPool.hostCount, keeps.sameMask, IpPool.hostCount]
  have least := accounts.atLeast
  have most := accounts.atMost
  refine ⟨List.eq_nil_of_length_eq_zero (by omega), ?_⟩
  have well := valid.allocates_well
  unfold IpPool.AllocatesWell at well
  cases allocates : system.world.ipPool.allocate with
  | mk outcome next =>
    rw [allocates] at well
    cases outcome with
    | ok ip =>
        have below : system.world.ipPool.allocatedCount < system.world.ipPool.hostCount :=
          well.2.2.2
        omega
    | error problem => exact congrArg Except.error well.1

/-- A creation that fails after its device was created takes its address away for good: after as
many of these failures as the subnet has addresses, no worker runs and none can be created. -/
theorem late_failures_use_up_the_subnet {cidr : String}
    (parsed : IpPool.fromCidr cidr = .ok pool) (fits : pool.Fits) (uuids : UuidText)
    (providerId : ProviderId) (tapPrefix : String) (calls : List VmCall)
    (moves : List (Nat × Host)) :
    Always step Accounts (start uuids (initially providerId tapPrefix pool) calls) moves ∧
      (pool.hostCount ≤ (moves.foldl step
          (start uuids (initially providerId tapPrefix pool) calls)).lateFailures →
        ∀ more, Always step Exhausted
          (moves.foldl step (start uuids (initially providerId tapPrefix pool) calls)) more) := by
  have always := always_keeps parsed fits uuids providerId tapPrefix calls moves
  refine ⟨always_imp step (fun _ keeps => Keeps.accounts keeps) moves _ always, ?_⟩
  intro all more
  have kept : Always step (fun system => system.Keeps pool ∧ pool.hostCount ≤ system.lateFailures)
      (moves.foldl step (start uuids (initially providerId tapPrefix pool) calls)) more := by
    apply always_of_preserved step
    · intro system move ⟨keeps, before⟩
      exact ⟨keeps.step move, before.trans (late_failures_step system move)⟩
    · exact ⟨always_final step moves _ always, all⟩
  exact always_imp step (fun _ both => Keeps.exhausted both.1 both.2) more _ kept

def fullDisk : Host := ⟨.ok (), .error "No space left on device", .ok 7⟩

def fullDiskMoves : List (Nat × Host) :=
  List.replicate 4 (0, fullDisk) ++ List.replicate 4 (1, fullDisk)

theorem two_late_failures_use_up_the_subnet :
    Always step Exhausted
      (fullDiskMoves.foldl step (start onesText (initially ⟨0⟩ "fc-tap" smallPool) twoCreations))
      [(0, idleHost), (1, idleHost)] :=
  (late_failures_use_up_the_subnet small_subnet_parsed small_pool_fits onesText ⟨0⟩ "fc-tap"
    twoCreations fullDiskMoves).2 (by decide) _

end VmSystem

end HodeiJobs.Providers
