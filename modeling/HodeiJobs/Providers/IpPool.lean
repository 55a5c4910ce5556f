import HodeiJobs.Library.CircularScan
import HodeiJobs.Library.Runs
import Mathlib.Algebra.Group.Nat.Defs
import Mathlib.Data.Finset.Card

/-!
# The addresses of the microVMs

`IpPool` of the Firecracker provider: a subnet in CIDR notation, the addresses that are allocated,
and the index at which the search for the next one starts.
-/

namespace HodeiJobs.Providers

open HodeiJobs.Library

structure Ipv4Addr where
  bits : Nat
  isU32 : bits < 2 ^ 32
  deriving DecidableEq

/-- The error of a refused configuration, and arithmetic on `u32` that panics. -/
inductive PoolError where
  | invalidProviderConfig (message : String)
  | overflow
  deriving DecidableEq, Repr

/-! ## Texts of addresses and masks -/

def digitsValue (digits : List Char) : Nat :=
  digits.foldl (fun value digit => value * 10 + (digit.toNat - '0'.toNat)) 0

/-- The number within `u8` that decimal digits give. -/
def parseDigits (digits : List Char) : Option Nat :=
  if digits ≠ [] ∧ digits.all Char.isDigit ∧ digitsValue digits < 256 then some (digitsValue digits)
  else none

/-- `u8::from_str`: a plus sign may stand before the digits. -/
def parseU8 : List Char → Option Nat
  | '+' :: digits => parseDigits digits
  | digits => parseDigits digits

/-- A part of an address has at most three digits and no zero before others. -/
def parseOctet (digits : List Char) : Option Nat :=
  if digits.length ≤ 3 ∧ (digits.length = 1 ∨ digits.head? ≠ some '0') then parseDigits digits
  else none

def parseIpv4 (text : List Char) : Option Ipv4Addr :=
  match (text.splitOn '.').map parseOctet with
  | [some a, some b, some c, some d] =>
      let bits := ((a * 256 + b) * 256 + c) * 256 + d
      if isU32 : bits < 2 ^ 32 then some ⟨bits, isU32⟩ else none
  | _ => none

/-! ## The pool -/

structure IpPool where
  baseIp : Ipv4Addr
  maskBits : Nat
  allocated : Finset Ipv4Addr
  nextIndex : Nat

namespace IpPool

def fromCidr (cidr : String) : Except PoolError IpPool :=
  match cidr.toList.splitOn '/' with
  | [ip, bits] =>
      match parseIpv4 ip with
      | none => .error (.invalidProviderConfig ("Invalid IP address: " ++ String.ofList ip))
      | some baseIp =>
          match parseU8 bits with
          | none => .error (.invalidProviderConfig ("Invalid mask bits: " ++ String.ofList bits))
          | some maskBits =>
              if 30 < maskBits then
                .error (.invalidProviderConfig "Subnet too small (mask > /30)")
              else .ok ⟨baseIp, maskBits, ∅, 2⟩
  | _ => .error (.invalidProviderConfig ("Invalid CIDR notation: " ++ cidr))

variable (pool : IpPool)

/-- `(1u32 << (32 - mask_bits)) - 2`. A shift by 32 panics. -/
def maxHosts : Except PoolError Nat :=
  if pool.maskBits = 0 then .error .overflow else .ok (2 ^ (32 - pool.maskBits) - 2)

def indexToIp (index : Nat) : Except PoolError Ipv4Addr :=
  if fits : pool.baseIp.bits + index < 2 ^ 32 then .ok ⟨pool.baseIp.bits + index, fits⟩
  else .error .overflow

/-- The indices 0 and 1 are left out. -/
def advance (maxHosts index : Nat) : Nat :=
  let next := (index + 1) % (maxHosts + 2)
  if next < 2 then 2 else next

/-- The loop of `allocate`. -/
def tryHosts (maxHosts : Nat) : Nat → IpPool → Except PoolError Ipv4Addr × IpPool
  | 0, pool => (.error (.invalidProviderConfig "IP pool exhausted"), pool)
  | tries + 1, pool =>
      match pool.indexToIp pool.nextIndex with
      | .error problem => (.error problem, pool)
      | .ok ip =>
          let moved := { pool with nextIndex := advance maxHosts pool.nextIndex }
          if ip ∈ moved.allocated then tryHosts maxHosts tries moved
          else (.ok ip, { moved with allocated := insert ip moved.allocated })

def allocate : Except PoolError Ipv4Addr × IpPool :=
  match pool.maxHosts with
  | .error problem => (.error problem, pool)
  | .ok maxHosts => tryHosts maxHosts maxHosts pool

def release (ip : Ipv4Addr) : IpPool := { pool with allocated := pool.allocated.erase ip }

def isAllocated (ip : Ipv4Addr) : Bool := ip ∈ pool.allocated

def allocatedCount : Nat := pool.allocated.card

/-- The block has a mask, and its last address is one. It is counted from the given address,
which `from_cidr` does not mask. -/
structure Fits : Prop where
  masked : 1 ≤ pool.maskBits
  within : pool.baseIp.bits + 2 ^ (32 - pool.maskBits) ≤ 2 ^ 32

/-- The number of addresses that the pool hands out. -/
def hostCount : Nat := 2 ^ (32 - pool.maskBits) - 2

/-- All addresses of the block but the first two. -/
def IsHost (ip : Ipv4Addr) : Prop :=
  pool.baseIp.bits + 2 ≤ ip.bits ∧ ip.bits < pool.baseIp.bits + 2 ^ (32 - pool.maskBits)

/-- What holds of every pool that is used. -/
structure Valid : Prop where
  fits : pool.Fits
  small : pool.maskBits ≤ 30
  indexed : 2 ≤ pool.nextIndex ∧ pool.nextIndex < pool.hostCount + 2
  hosts : ∀ ip ∈ pool.allocated, pool.IsHost ip

/-- A base that is the network's own address fits. -/
theorem fits_of_network (masked : 1 ≤ pool.maskBits)
    (network : pool.baseIp.bits % 2 ^ (32 - pool.maskBits) = 0) : pool.Fits where
  masked := masked
  within := by
    obtain ⟨quotient, isQuotient⟩ := Nat.dvd_of_mod_eq_zero network
    have split : 2 ^ 32 = 2 ^ (32 - pool.maskBits) * 2 ^ (32 - (32 - pool.maskBits)) := by
      rw [← Nat.pow_add, Nat.add_sub_cancel' (Nat.sub_le 32 pool.maskBits)]
    have below : quotient < 2 ^ (32 - (32 - pool.maskBits)) := by
      apply Nat.lt_of_mul_lt_mul_left (a := 2 ^ (32 - pool.maskBits))
      rw [← split, ← isQuotient]
      exact pool.baseIp.isU32
    rw [isQuotient, split, ← Nat.mul_succ]
    exact Nat.mul_le_mul_left _ below

/-! ## The circle of the indices -/

theorem advance_position {count position : Nat} (below : position < count) :
    advance count (2 + position) = 2 + (position + 1) % count := by
  unfold advance
  by_cases last : position + 1 = count
  · have around : 2 + position + 1 = count + 2 := by omega
    rw [around, Nat.mod_self, last, Nat.mod_self]
    rfl
  · have next : position + 1 < count := by omega
    have inside : 2 + position + 1 < count + 2 := by omega
    rw [Nat.mod_eq_of_lt inside, Nat.mod_eq_of_lt next, if_neg (by omega)]
    exact Nat.add_assoc 2 position 1

theorem iterate_advance {count position : Nat} (below : position < count) (steps : Nat) :
    (advance count)^[steps] (2 + position) = 2 + (position + steps) % count := by
  induction steps with
  | zero => rw [Nat.add_zero, Nat.mod_eq_of_lt below, Function.iterate_zero_apply]
  | succ steps ih =>
      have inside := Nat.mod_lt (position + steps) (Nat.zero_lt_of_lt below)
      rw [Function.iterate_succ_apply', ih, advance_position inside, Nat.mod_add_mod,
        ← Nat.add_assoc]

section Circle

variable {pool : IpPool}

theorem Valid.host_count (valid : pool.Valid) :
    pool.hostCount + 2 = 2 ^ (32 - pool.maskBits) ∧ 0 < pool.hostCount := by
  have four : 2 ^ 2 ≤ 2 ^ (32 - pool.maskBits) :=
    Nat.pow_le_pow_right (by decide) (by have := valid.small; omega)
  unfold hostCount
  omega

theorem Valid.max_hosts (valid : pool.Valid) : pool.maxHosts = .ok pool.hostCount := by
  have masked := valid.fits.masked
  exact if_neg (by omega)

/-- Where a search starts, counted from the first index. -/
theorem Valid.position (valid : pool.Valid) :
    ∃ position < pool.hostCount, pool.nextIndex = 2 + position := by
  obtain ⟨from2, below⟩ := valid.indexed
  exact ⟨pool.nextIndex - 2, by omega, by omega⟩

/-- The search comes by every index, and back to the first after as many steps as there are. -/
theorem Valid.circle (valid : pool.Valid) :
    (∀ steps, ∃ position < pool.hostCount,
        (advance pool.hostCount)^[steps] pool.nextIndex = 2 + position) ∧
      (∀ position < pool.hostCount,
        ∃ steps < pool.hostCount, (advance pool.hostCount)^[steps] pool.nextIndex = 2 + position) ∧
      (advance pool.hostCount)^[pool.hostCount] pool.nextIndex = pool.nextIndex := by
  obtain ⟨start, below, isStart⟩ := valid.position
  have positive := Nat.zero_lt_of_lt below
  rw [isStart]
  refine ⟨?_, ?_, ?_⟩
  · intro steps
    exact ⟨_, Nat.mod_lt _ positive, iterate_advance below steps⟩
  · intro position inside
    refine ⟨(position + pool.hostCount - start) % pool.hostCount, Nat.mod_lt _ positive, ?_⟩
    have whole : start + (position + pool.hostCount - start) = position + pool.hostCount := by
      omega
    rw [iterate_advance below, Nat.add_mod_mod, whole, Nat.add_mod_right,
      Nat.mod_eq_of_lt inside]
  · rw [iterate_advance below, Nat.add_mod_right, Nat.mod_eq_of_lt below]

end Circle

/-! ## One allocation -/

/-- The address of an index is allocated. -/
def taken (index : Nat) : Bool :=
  match pool.indexToIp index with
  | .ok ip => ip ∈ pool.allocated
  | .error _ => false

/-- The loop is a search along the circle. -/
theorem try_hosts_eq (count tries : Nat) (cursor : Nat)
    (inside : ∀ steps, ∃ ip, pool.indexToIp ((advance count)^[steps] cursor) = .ok ip) :
    tryHosts count tries { pool with nextIndex := cursor } =
      match circularScan pool.taken (advance count) tries cursor with
      | (none, last) =>
          (.error (.invalidProviderConfig "IP pool exhausted"), { pool with nextIndex := last })
      | (some index, last) =>
          match pool.indexToIp index with
          | .error problem => (.error problem, { pool with nextIndex := last })
          | .ok ip =>
              (.ok ip, { pool with nextIndex := last, allocated := insert ip pool.allocated }) := by
  induction tries generalizing cursor with
  | zero => rfl
  | succ tries ih =>
      obtain ⟨ip, isIp⟩ := inside 0
      rw [Function.iterate_zero_apply] at isIp
      have sameIp : indexToIp { pool with nextIndex := cursor } cursor = .ok ip := isIp
      have isTaken : pool.taken cursor = decide (ip ∈ pool.allocated) := by
        rw [taken, isIp]
      unfold tryHosts circularScan
      simp only [sameIp]
      rw [isTaken]
      by_cases held : ip ∈ pool.allocated
      · simp only [held, decide_true, if_true]
        exact ih (advance count cursor) fun steps => inside (steps + 1)
      · simp only [held, decide_false, if_false, Bool.false_eq_true, isIp]

section Allocation

variable {pool}

theorem Valid.index_to_ip (valid : pool.Valid) {position : Nat}
    (inside : position < pool.hostCount) :
    ∃ ip, pool.indexToIp (2 + position) = .ok ip ∧ pool.IsHost ip ∧
      ip.bits = pool.baseIp.bits + 2 + position := by
  obtain ⟨whole, _⟩ := valid.host_count
  have within := valid.fits.within
  have fits : pool.baseIp.bits + (2 + position) < 2 ^ 32 := by omega
  refine ⟨⟨_, fits⟩, dif_pos fits, ?_, (Nat.add_assoc _ _ _).symm⟩
  constructor <;> simp only <;> omega

theorem Valid.index_of_host (valid : pool.Valid) {ip : Ipv4Addr} (isHost : pool.IsHost ip) :
    ∃ position < pool.hostCount, pool.indexToIp (2 + position) = .ok ip := by
  obtain ⟨whole, _⟩ := valid.host_count
  obtain ⟨above, below⟩ := isHost
  have inside : ip.bits - pool.baseIp.bits - 2 < pool.hostCount := by omega
  obtain ⟨same, isSame, _, bits⟩ := valid.index_to_ip inside
  refine ⟨_, inside, isSame.trans (congrArg Except.ok ?_)⟩
  cases same
  cases ip
  simp only [Ipv4Addr.mk.injEq]
  simp only at bits above
  omega

/-- The addresses that the pool hands out. -/
def hostSet (pool : IpPool) : Finset Ipv4Addr :=
  (Finset.range pool.hostCount).image fun position =>
    ⟨(pool.baseIp.bits + 2 + position) % 2 ^ 32, Nat.mod_lt _ (by decide)⟩

theorem Valid.mem_host_set_iff (valid : pool.Valid) (ip : Ipv4Addr) :
    ip ∈ pool.hostSet ↔ pool.IsHost ip := by
  obtain ⟨whole, _⟩ := valid.host_count
  have within := valid.fits.within
  obtain ⟨bits, isU32⟩ := ip
  simp only [hostSet, Finset.mem_image, Finset.mem_range, Ipv4Addr.mk.injEq, IsHost]
  constructor
  · intro ⟨position, inside, same⟩
    rw [Nat.mod_eq_of_lt (by omega)] at same
    omega
  · intro ⟨above, below⟩
    refine ⟨bits - pool.baseIp.bits - 2, by omega, ?_⟩
    rw [Nat.mod_eq_of_lt (by omega)]
    omega

theorem Valid.card_host_set (valid : pool.Valid) : pool.hostSet.card = pool.hostCount := by
  obtain ⟨whole, _⟩ := valid.host_count
  have within := valid.fits.within
  unfold hostSet
  rw [Finset.card_image_of_injOn, Finset.card_range]
  intro first firstInside second secondInside same
  have firstBelow := Finset.mem_range.mp firstInside
  have secondBelow := Finset.mem_range.mp secondInside
  simp only [Ipv4Addr.mk.injEq] at same
  rw [Nat.mod_eq_of_lt (by omega), Nat.mod_eq_of_lt (by omega)] at same
  omega

theorem Valid.allocated_subset (valid : pool.Valid) : pool.allocated ⊆ pool.hostSet := by
  intro ip isAllocated
  exact (valid.mem_host_set_iff ip).mpr (valid.hosts ip isAllocated)

theorem Valid.insert_host (valid : pool.Valid) {ip : Ipv4Addr} (isHost : pool.IsHost ip)
    {position : Nat} (inside : position < pool.hostCount) :
    Valid { pool with nextIndex := 2 + position, allocated := insert ip pool.allocated } := by
  refine ⟨⟨valid.fits.masked, valid.fits.within⟩, valid.small, ?_, ?_⟩
  · change 2 ≤ 2 + position ∧ 2 + position < pool.hostCount + 2
    omega
  · intro other isAllocated
    cases Finset.mem_insert.mp isAllocated with
    | inl same => exact same ▸ isHost
    | inr before => exact valid.hosts other before

/-- Where the search comes by no free index, no address of the block is free. -/
theorem Valid.full_of_taken (valid : pool.Valid)
    (all : ∀ steps, pool.taken ((advance pool.hostCount)^[steps] pool.nextIndex) = true) :
    pool.allocated = pool.hostSet := by
  apply valid.allocated_subset.antisymm
  intro ip isHost
  obtain ⟨position, below, isIp⟩ := valid.index_of_host ((valid.mem_host_set_iff ip).mp isHost)
  obtain ⟨steps, _, same⟩ := valid.circle.2.1 position below
  have isTaken := all steps
  rw [same, taken, isIp] at isTaken
  exact of_decide_eq_true isTaken

/-- The loop of `allocate`, as a search. -/
theorem Valid.allocate_eq (valid : pool.Valid) :
    pool.allocate = match circularScan pool.taken (advance pool.hostCount) pool.hostCount
        pool.nextIndex with
      | (none, last) =>
          (.error (.invalidProviderConfig "IP pool exhausted"), { pool with nextIndex := last })
      | (some index, last) =>
          match pool.indexToIp index with
          | .error problem => (.error problem, { pool with nextIndex := last })
          | .ok ip =>
              (.ok ip, { pool with nextIndex := last, allocated := insert ip pool.allocated }) := by
  rw [allocate, valid.max_hosts]
  apply pool.try_hosts_eq pool.hostCount pool.hostCount pool.nextIndex
  intro steps
  obtain ⟨position, below, same⟩ := valid.circle.1 steps
  obtain ⟨ip, isIp, _⟩ := valid.index_to_ip below
  exact ⟨ip, same ▸ isIp⟩

/-- An allocation yields a free address of the block, and it fails exactly if all of them are
allocated; then the pool is as before. -/
theorem Valid.allocate_spec (valid : pool.Valid) :
    (∃ ip next, pool.allocate = (.ok ip, next) ∧ pool.IsHost ip ∧ ip ∉ pool.allocated ∧
        next.allocated = insert ip pool.allocated ∧ next.baseIp = pool.baseIp ∧
        next.maskBits = pool.maskBits ∧ next.Valid) ∨
      (pool.allocate = (.error (.invalidProviderConfig "IP pool exhausted"), pool) ∧
        pool.allocated = pool.hostSet) := by
  obtain ⟨stays, reaches, closes⟩ := valid.circle
  rw [valid.allocate_eq]
  cases search : circularScan pool.taken (advance pool.hostCount) pool.hostCount
      pool.nextIndex with
  | mk found last =>
    cases found with
    | some index =>
        obtain ⟨free, ⟨steps, _, same⟩, behind⟩ := scan_found (congrArg Prod.fst search)
        obtain ⟨position, below, isPosition⟩ := stays steps
        obtain ⟨ip, isIp, isHost, _⟩ := valid.index_to_ip below
        have isIndex : index = 2 + position := same.symm.trans isPosition
        obtain ⟨nextPosition, nextBelow, isNext⟩ := stays (steps + 1)
        rw [Function.iterate_succ_apply', same] at isNext
        rw [search] at behind
        have isLast : last = 2 + nextPosition := behind.trans isNext
        rw [taken, isIndex, isIp] at free
        refine .inl ⟨ip, { pool with nextIndex := last, allocated := insert ip pool.allocated }, ?_,
          isHost, of_decide_eq_false free, rfl, rfl, rfl, ?_⟩
        · simp only [isIndex, isIp]
        · rw [isLast]
          exact valid.insert_host isHost nextBelow
    | none =>
        have around : ∀ slot,
            (∃ steps, (advance pool.hostCount)^[steps] pool.nextIndex = slot) →
              ∃ steps < pool.hostCount,
                (advance pool.hostCount)^[steps] pool.nextIndex = slot := by
          rintro slot ⟨steps, isSlot⟩
          obtain ⟨position, below, same⟩ := stays steps
          rw [← isSlot, same]
          exact reaches position below
        obtain ⟨all, isLast⟩ := scan_around around closes (congrArg Prod.fst search)
        rw [search] at isLast
        simp only at isLast
        subst isLast
        exact .inr ⟨rfl, valid.full_of_taken all⟩

end Allocation

/-! ## Runs -/

inductive PoolMove where
  | allocate
  | release (ip : Ipv4Addr)
  deriving DecidableEq

def step (pool : IpPool) : PoolMove → IpPool
  | .allocate => pool.allocate.2
  | .release ip => pool.release ip

/-- An address that is not allocated is allocated, or all that the pool has are. -/
def AllocatesWell (pool : IpPool) : Prop :=
  match pool.allocate with
  | (.ok ip, next) =>
      pool.IsHost ip ∧ ip ∉ pool.allocated ∧ next.allocated = insert ip pool.allocated ∧
        pool.allocatedCount < pool.hostCount
  | (.error problem, next) =>
      problem = .invalidProviderConfig "IP pool exhausted" ∧ next = pool ∧
        (∀ ip, pool.IsHost ip → ip ∈ pool.allocated) ∧ pool.allocatedCount = pool.hostCount

section Runs

variable {pool : IpPool}

theorem Valid.step (valid : pool.Valid) (move : PoolMove) : (pool.step move).Valid := by
  cases move with
  | allocate =>
      obtain ⟨ip, next, allocates, _, _, _, _, _, later⟩ | ⟨fails, _⟩ := valid.allocate_spec
      · rw [IpPool.step, allocates]
        exact later
      · rw [IpPool.step, fails]
        exact valid
  | release ip =>
      refine ⟨⟨valid.fits.masked, valid.fits.within⟩, valid.small, valid.indexed, ?_⟩
      intro other isAllocated
      exact valid.hosts other (Finset.mem_of_mem_erase isAllocated)

theorem Valid.mask_bits_step (valid : pool.Valid) (move : PoolMove) :
    (pool.step move).maskBits = pool.maskBits := by
  cases move with
  | release ip => rfl
  | allocate =>
      rw [IpPool.step]
      obtain ⟨ip, next, allocates, _, _, _, _, same, _⟩ | ⟨fails, _⟩ := valid.allocate_spec
      · rw [allocates]
        exact same
      · rw [fails]

theorem Valid.allocates_well (valid : pool.Valid) : pool.AllocatesWell := by
  have whole := valid.card_host_set
  unfold AllocatesWell allocatedCount
  obtain ⟨ip, next, allocates, isHost, free, insertsIp, _⟩ | ⟨fails, all⟩ := valid.allocate_spec
  · rw [allocates]
    refine ⟨isHost, free, insertsIp, ?_⟩
    rw [← whole]
    apply Finset.card_lt_card
    refine Finset.ssubset_iff_subset_ne.mpr ⟨valid.allocated_subset, ?_⟩
    intro all
    exact free (all ▸ (valid.mem_host_set_iff ip).mpr isHost)
  · rw [fails]
    refine ⟨rfl, rfl, ?_, all ▸ whole⟩
    intro ip isHost
    rw [all]
    exact (valid.mem_host_set_iff ip).mpr isHost

theorem from_cidr_valid {cidr : String} (parsed : fromCidr cidr = .ok pool) (fits : pool.Fits) :
    pool.Valid := by
  unfold fromCidr at parsed
  split at parsed
  · split at parsed
    · cases parsed
    · split at parsed
      · cases parsed
      · split_ifs at parsed with large
        cases parsed
        have small := Nat.le_of_not_lt large
        refine ⟨fits, small, ⟨Nat.le_refl 2, ?_⟩, by simp⟩
        have four := Nat.pow_le_pow_right (n := 2) (by decide) (Nat.sub_le_sub_left small 32)
        unfold hostCount
        simp only [Nat.reduceSub, Nat.reducePow] at four ⊢
        omega
  · cases parsed

theorem from_cidr_allocated {cidr : String} (parsed : fromCidr cidr = .ok pool) :
    pool.allocated = ∅ := by
  unfold fromCidr at parsed
  split at parsed
  · split at parsed
    · cases parsed
    · split at parsed
      · cases parsed
      · split_ifs at parsed
        cases parsed
        rfl
  · cases parsed

/-- In every state that calls on the pool lead to, an allocation yields an address that is not
allocated, and it fails exactly if all of them are; no arithmetic overflows. -/
theorem always_allocates_well {cidr : String} (parsed : fromCidr cidr = .ok pool)
    (fits : pool.Fits) (moves : List PoolMove) :
    Always IpPool.step AllocatesWell pool moves := by
  apply always_imp IpPool.step (fun _ valid => Valid.allocates_well valid)
  exact always_of_preserved IpPool.step Valid (fun _ move valid => valid.step move) moves _
    (from_cidr_valid parsed fits)

/-- The subnet of the default network configuration. -/
def defaultPool : IpPool := ⟨⟨2886729728, by decide⟩, 24, ∅, 2⟩

theorem default_subnet_parsed : fromCidr "172.16.0.0/24" = .ok defaultPool := rfl

theorem default_pool_fits : defaultPool.Fits :=
  defaultPool.fits_of_network (by decide) (by decide)

theorem default_subnet_allocates_well :
    Always IpPool.step AllocatesWell defaultPool
      [.allocate, .release ⟨2886729730, by decide⟩, .allocate] :=
  always_allocates_well default_subnet_parsed default_pool_fits _

end Runs

end IpPool

end HodeiJobs.Providers
