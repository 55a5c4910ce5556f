import HodeiJobs.Sagas.Transactions

/-!
# Saving and reading back a context

`save_with_tx` encodes a context into the columns of its insert and
`From<SagaDbRow>` decodes a row. The insert names seven columns, so the others
come back as the table's defaults, and the decoder knows three saga types.
-/

namespace HodeiJobs.Sagas

open HodeiJobs.Library HodeiJobs.Library.Program

/-- The saga types that the decoder of `find_by_id` knows. -/
def KnownType (sagaType : SagaType) : Prop :=
  sagaType = .provisioning ∨ sagaType = .execution ∨ sagaType = .recovery

theorem saga_type_of_column_as_str_iff (sagaType : SagaType) :
    sagaTypeOfColumn sagaType.asStr = sagaType ↔ KnownType sagaType := by
  cases sagaType <;> simp [sagaTypeOfColumn, SagaType.asStr, KnownType]

/-- The row that a first save inserts is the one that is found. -/
theorem find_row_save_absent (store : SagaStore) (now : DateTime) (context : SagaContext)
    (absent : store.findRow context.sagaId = none) :
    (store.save now context).findRow context.sagaId =
      some (SagaDbRow.ofContext store.schema now context) := by
  have unused := (SagaStore.find_row_none_iff store context.sagaId).mp absent
  unfold SagaStore.findRow at absent
  unfold SagaStore.save
  rw [dif_pos unused]
  simp [SagaStore.findRow, SagaStore.insertSaga, List.find?_append, absent, SagaDbRow.ofContext]

theorem find_by_id_save_absent (store : SagaStore) (now : DateTime) (context : SagaContext)
    (absent : store.findRow context.sagaId = none) (found : SagaContext) :
    (store.save now context).findById context.sagaId = .ok (some found) ↔
      ∃ version, store.schema.version = some version ∧
        (SagaDbRow.ofContext store.schema now context).toContext version = found := by
  unfold SagaStore.findById
  rw [find_row_save_absent store now context absent]
  cases stored : store.schema.version with
  | none => simp [SagaDbRow.readVersion, SagaDbRow.ofContext, stored]
  | some version => simp [SagaDbRow.readVersion, SagaDbRow.ofContext, stored]

def saveCalls : List TxCall := [.beginTransaction, .saveWithTx, .commit]

theorem save_guarded (env : Env) (world : World) (context : SagaContext) :
    Guarded (handle env) (Clean env context.sagaId .save saveCalls) (save context) world ()
      { world with store := world.store.save env.now context } :=
  single_statement_guarded .saveWithTx (.saveWithTx context)

/-- The fields that a context is read back with. -/
def SameContext (left right : SagaContext) : Prop :=
  left.sagaType = right.sagaType ∧ left.correlationId = right.correlationId ∧
    left.actor = right.actor ∧ left.state = right.state ∧ left.metadata = right.metadata ∧
    left.errorMessage = right.errorMessage ∧ left.version = right.version ∧
    left.traceParent = right.traceParent

/-- `save(c)` and then `find_by_id(c.saga_id)` returns the context. -/
def ReadsBack (env : Env) (context : SagaContext) (world : World) : Prop :=
  let saved := runSaga env (save context) world
  ∃ found, (runSaga env (findById context.sagaId) saved.2).1 = .ok (some found) ∧
    SameContext found context

/-- A row decoded from its own insert: every field but four is kept. -/
theorem to_context_of_context (schema : Schema) (now : DateTime) (context : SagaContext)
    (version : Int64) :
    SameContext ((SagaDbRow.ofContext schema now context).toContext version) context ↔
      KnownType context.sagaType ∧ schema.errorMessage = context.errorMessage ∧
        version.toUInt64 = context.version ∧ schema.traceParent = context.traceParent := by
  rw [← saga_type_of_column_as_str_iff]
  simp [SameContext, SagaDbRow.toContext, SagaDbRow.ofContext, SagaContext.fromPersistence]

/-- A first save is read back exactly when the type is one the decoder knows
and the three columns that the insert leaves out default to the context's own
values. -/
theorem reads_back_iff (env : Env) (context : SagaContext) (world : World)
    (absent : world.store.findRow context.sagaId = none)
    (saves : Clean env context.sagaId .save saveCalls)
    (reads : env.findByIdFault context.sagaId = none) :
    ReadsBack env context world ↔
      KnownType context.sagaType ∧ world.store.schema.errorMessage = context.errorMessage ∧
        (∃ version, world.store.schema.version = some version ∧
          version.toUInt64 = context.version) ∧
        world.store.schema.traceParent = context.traceParent := by
  have saved := (save_guarded env world context).passes saves
  have answer : ∀ found, (runSaga env (findById context.sagaId)
      { world with store := world.store.save env.now context }).1 = .ok (some found) ↔
      (world.store.save env.now context).findById context.sagaId = .ok (some found) := by
    intro found
    cases read : (world.store.save env.now context).findById context.sagaId <;>
      simp [findById, exec_bind, handle, reads, read]
  unfold ReadsBack runSaga at *
  simp only [saved, answer, find_by_id_save_absent world.store env.now context absent]
  constructor
  · rintro ⟨found, ⟨version, stored, decoded⟩, same⟩
    subst decoded
    obtain ⟨known, message, number, parent⟩ := (to_context_of_context _ _ _ _).mp same
    exact ⟨known, message, ⟨version, stored, number⟩, parent⟩
  · rintro ⟨known, message, ⟨version, stored, number⟩, parent⟩
    exact ⟨_, ⟨version, stored, rfl⟩,
      (to_context_of_context _ _ _ _).mpr ⟨known, message, number, parent⟩⟩

theorem execution_context_reads_back :
    ReadsBack (.quiet .quiet) (.new ⟨7⟩ .execution (some "corr") (some "actor") 0) .empty :=
  (reads_back_iff (.quiet .quiet) (.new ⟨7⟩ .execution (some "corr") (some "actor") 0) .empty rfl
    (by decide) rfl).mpr ⟨.inr (.inl rfl), rfl, ⟨0, rfl, rfl⟩, rfl⟩

/-- A cancellation saga comes back as a provisioning saga. -/
theorem cancellation_context_does_not_read_back :
    ¬ReadsBack (.quiet .quiet) (.new ⟨7⟩ .cancellation none none 0) .empty := by
  intro ⟨found, read, same⟩
  cases read
  cases same.1

end HodeiJobs.Sagas
