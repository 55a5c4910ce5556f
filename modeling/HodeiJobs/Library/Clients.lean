import HodeiJobs.Library.Protocol
import HodeiJobs.Library.Runs

/-!
# Clients of one service

A client is a program together with what its replies have told it so far. The
record follows the protocol and never influences the program. A pool of clients
that obey their protocol goes on obeying it under any interleaving.
-/

namespace HodeiJobs.Library

structure Client (Op : Type) (Reply : Op → Type) (Memory Result : Type) where
  memory : Memory
  program : Program Op Reply Result

/-- What a list with distinct keys holds after one entry was replaced. -/
theorem mem_set_of_nodup {Entry Key : Type} {key : Entry → Key} {entries : List Entry}
    (unique : (entries.map key).Nodup) {index : Nat} {old new entry : Entry}
    (found : entries[index]? = some old) (member : entry ∈ entries.set index new) :
    entry = new ∨ entry ∈ entries ∧ key entry ≠ key old := by
  obtain ⟨bound, -⟩ := List.getElem?_eq_some_iff.mp found
  obtain ⟨position, read⟩ := List.mem_iff_getElem?.mp member
  by_cases same : index = position
  · subst same
    rw [List.getElem?_set_self bound] at read
    exact .inl (Option.some.inj read).symm
  · rw [List.getElem?_set_ne same] at read
    refine .inr ⟨List.mem_of_getElem? read, ?_⟩
    intro sameKey
    apply same
    apply (List.getElem?_inj (by rw [List.length_map]; exact bound) unique).mp
    rw [List.getElem?_map, List.getElem?_map, found, read, Option.map_some, Option.map_some,
      sameKey]

theorem map_set_same {Entry Key : Type} (key : Entry → Key) {entries : List Entry} {index : Nat}
    {old new : Entry} (found : entries[index]? = some old) (same : key new = key old) :
    (entries.set index new).map key = entries.map key := by
  apply List.ext_getElem?
  intro position
  rw [List.getElem?_map, List.getElem?_map]
  by_cases own : index = position
  · subst own
    obtain ⟨bound, -⟩ := List.getElem?_eq_some_iff.mp found
    rw [List.getElem?_set_self bound, found, Option.map_some, Option.map_some, same]
  · rw [List.getElem?_set_ne own]

/-- What all entries hold, with one entry taken apart from the others. -/
theorem flat_map_set_perm {Entry Item : Type} (items : Entry → List Item) {entries : List Entry}
    {index : Nat} {old : Entry} (found : entries[index]? = some old) :
    ∃ others, (entries.flatMap items).Perm (items old ++ others) ∧
      ∀ new, ((entries.set index new).flatMap items).Perm (items new ++ others) := by
  induction entries generalizing index with
  | nil => cases found
  | cons first rest ih =>
      cases index with
      | zero =>
          cases found
          exact ⟨rest.flatMap items, List.Perm.refl _, fun new => List.Perm.refl _⟩
      | succ index =>
          obtain ⟨others, before, after⟩ := ih found
          refine ⟨items first ++ others, ?_, ?_⟩
          · exact (before.append_left (items first)).trans (List.perm_append_comm_assoc _ _ _)
          · intro new
            exact ((after new).append_left (items first)).trans (List.perm_append_comm_assoc _ _ _)

namespace Client

variable {Op : Type} {Reply : Op → Type} {Memory Result World Env : Type}

/-- The call the client is about to make. -/
def nextCall (client : Client Op Reply Memory Result) : Option Op := client.program.headCall

/-- One call; a finished client stays as it is. -/
def advance (protocol : Protocol Op Reply Memory) (handle : (op : Op) → World → Reply op × World)
    (client : Client Op Reply Memory Result) (world : World) :
    Client Op Reply Memory Result × World :=
  match client.program with
  | .done _ => (client, world)
  | .call op next =>
      (⟨protocol.remember client.memory op (handle op world).1, next (handle op world).1⟩,
        (handle op world).2)

def Obeys (protocol : Protocol Op Reply Memory) (ends : Memory → Result → Prop)
    (client : Client Op Reply Memory Result) : Prop :=
  Program.Obeys protocol ends client.program client.memory

variable (protocol : Protocol Op Reply Memory) {ends : Memory → Result → Prop}
  (handle : (op : Op) → World → Reply op × World) {client : Client Op Reply Memory Result}
  (world : World)

theorem advance_finished (finished : client.nextCall = none) :
    client.advance protocol handle world = (client, world) := by
  obtain ⟨memory, program⟩ := client
  cases program with
  | done result => rfl
  | call op next => cases finished

theorem advance_world {op : Op} (next : client.nextCall = some op) :
    (client.advance protocol handle world).2 = (handle op world).2 := by
  obtain ⟨memory, program⟩ := client
  cases program with
  | done result => cases next
  | call first rest =>
      cases next
      rfl

theorem advance_memory {op : Op} (next : client.nextCall = some op) :
    (client.advance protocol handle world).1.memory =
      protocol.remember client.memory op (handle op world).1 := by
  obtain ⟨memory, program⟩ := client
  cases program with
  | done result => cases next
  | call first rest =>
      cases next
      rfl

variable {protocol}

theorem allowed_of_obeys {op : Op} (obeys : client.Obeys protocol ends)
    (next : client.nextCall = some op) : protocol.allows client.memory op := by
  obtain ⟨memory, program⟩ := client
  cases program with
  | done result => cases next
  | call first rest =>
      cases next
      exact obeys.1

theorem obeys_advance (obeys : client.Obeys protocol ends)
    (answered : ∀ op, client.nextCall = some op → protocol.answers op (handle op world).1) :
    (client.advance protocol handle world).1.Obeys protocol ends := by
  obtain ⟨memory, program⟩ := client
  cases program with
  | done result => exact obeys
  | call op rest => exact obeys.2 (handle op world).1 (answered op rfl)

end Client

/-! ## Pools -/

section Pool

variable {Op : Type} {Reply : Op → Type} {Memory Result World Env : Type}

structure Pool (Op : Type) (Reply : Op → Type) (Memory Result World : Type) where
  clients : List (Client Op Reply Memory Result)
  world : World

namespace Pool

/-- A move names the client that makes its next call and the environment that
answers it. -/
def step (protocol : Protocol Op Reply Memory)
    (handle : Env → (op : Op) → World → Reply op × World)
    (pool : Pool Op Reply Memory Result World) (move : Nat × Env) :
    Pool Op Reply Memory Result World :=
  match pool.clients[move.1]? with
  | some client =>
      let moved := client.advance protocol (handle move.2) pool.world
      ⟨pool.clients.set move.1 moved.1, moved.2⟩
  | none => pool

/-- The call that a move makes, with what its client knows. -/
def moveCall (pool : Pool Op Reply Memory Result World) (move : Nat × Env) : Option (Memory × Op) :=
  pool.clients[move.1]?.bind fun client => client.nextCall.map fun op => (client.memory, op)

def Obey (protocol : Protocol Op Reply Memory) (ends : Memory → Result → Prop)
    (pool : Pool Op Reply Memory Result World) : Prop :=
  ∀ client ∈ pool.clients, client.Obeys protocol ends

variable {protocol : Protocol Op Reply Memory} {ends : Memory → Result → Prop}
  {handle : Env → (op : Op) → World → Reply op × World} {pool : Pool Op Reply Memory Result World}

theorem step_world (move : Nat × Env) :
    (pool.step protocol handle move).world =
      match pool.moveCall move with
      | some (_, op) => (handle move.2 op pool.world).2
      | none => pool.world := by
  unfold step moveCall
  cases pool.clients[move.1]? with
  | none => rfl
  | some client =>
      cases next : client.nextCall with
      | none => simp only [Client.advance_finished protocol (handle move.2) pool.world next,
          Option.bind_some, next, Option.map_none]
      | some op => simp only [Client.advance_world protocol (handle move.2) pool.world next,
          Option.bind_some, next, Option.map_some]

theorem step_of_no_call {move : Nat × Env} (called : pool.moveCall move = none) :
    pool.step protocol handle move = pool := by
  unfold step
  cases found : pool.clients[move.1]? with
  | none => rfl
  | some client =>
      have finished : client.nextCall = none := by
        rw [moveCall, found, Option.bind_some] at called
        exact Option.map_eq_none_iff.mp called
      obtain ⟨bound, read⟩ := List.getElem?_eq_some_iff.mp found
      simp only [Client.advance_finished protocol (handle move.2) pool.world finished]
      rw [← read, List.set_getElem_self]

/-- What the clients hold, with the part of the one that makes its call apart. -/
theorem held_step {Item : Type} (items : Memory → List Item) {move : Nat × Env} {memory : Memory}
    {op : Op} (called : pool.moveCall move = some (memory, op)) :
    ∃ others, (pool.clients.flatMap fun client => items client.memory).Perm
        (items memory ++ others) ∧
      ((pool.step protocol handle move).clients.flatMap fun client => items client.memory).Perm
        (items (protocol.remember memory op (handle move.2 op pool.world).1) ++ others) := by
  obtain ⟨client, found, next⟩ := Option.bind_eq_some_iff.mp called
  obtain ⟨call, nextCall, same⟩ := Option.map_eq_some_iff.mp next
  cases same
  obtain ⟨others, before, after⟩ := flat_map_set_perm (fun client => items client.memory) found
  refine ⟨others, before, ?_⟩
  have moved := after (client.advance protocol (handle move.2) pool.world).1
  rw [Client.advance_memory protocol (handle move.2) pool.world nextCall] at moved
  unfold step
  simp only [found]
  exact moved

/-- After a move every client is as before, except the one that made its call. -/
theorem mem_step {move : Nat × Env} {client : Client Op Reply Memory Result}
    (member : client ∈ (pool.step protocol handle move).clients) :
    client ∈ pool.clients ∨ ∃ memory op, pool.moveCall move = some (memory, op) ∧
      (∃ before ∈ pool.clients, before.memory = memory) ∧
      client.memory = protocol.remember memory op (handle move.2 op pool.world).1 := by
  unfold step at member
  cases found : pool.clients[move.1]? with
  | none =>
      rw [found] at member
      exact .inl member
  | some before =>
      rw [found] at member
      have held := List.mem_of_getElem? found
      rcases List.mem_or_eq_of_mem_set member with old | rfl
      · exact .inl old
      · cases next : before.nextCall with
        | none =>
            left
            rw [Client.advance_finished protocol (handle move.2) pool.world next]
            exact held
        | some op =>
            right
            refine ⟨before.memory, op, ?_, ⟨before, held, rfl⟩, ?_⟩
            · simp only [moveCall, found, Option.bind_some, next, Option.map_some]
            · exact Client.advance_memory protocol (handle move.2) pool.world next

theorem allowed_of_obey (obey : pool.Obey protocol ends) {move : Nat × Env} {memory : Memory}
    {op : Op} (called : pool.moveCall move = some (memory, op)) : protocol.allows memory op := by
  obtain ⟨client, found, next⟩ := Option.bind_eq_some_iff.mp called
  obtain ⟨call, nextCall, same⟩ := Option.map_eq_some_iff.mp next
  cases same
  exact Client.allowed_of_obeys (obey client (List.mem_of_getElem? found)) nextCall

/-- Clients that obey go on obeying, in any interleaving. -/
theorem obey_step (obey : pool.Obey protocol ends) (move : Nat × Env)
    (answered : ∀ memory op, pool.moveCall move = some (memory, op) →
      protocol.answers op (handle move.2 op pool.world).1) :
    (pool.step protocol handle move).Obey protocol ends := by
  unfold step
  cases found : pool.clients[move.1]? with
  | none => exact obey
  | some client =>
      intro other member
      rcases List.mem_or_eq_of_mem_set member with before | rfl
      · exact obey other before
      · apply Client.obeys_advance _ _ (obey client (List.mem_of_getElem? found))
        intro op next
        apply answered client.memory op
        simp only [moveCall, found, Option.bind_some, next, Option.map_some]

end Pool

end Pool

end HodeiJobs.Library
