import Pathweave.StoreForward

/-!
# The depth of a pending queue

`max_queue_depth` is checked when a payload is enqueued, against the queue alone.
Payloads in the batch of a running drain are not counted and come back without a
check, so the bound is one on the queue and the batches together.
-/

namespace Pathweave

open ByteStrings GuardedRuns Weights

set_option autoImplicit false

variable {config : StoreConfig} {state next : StoreState} {label : StoreLabel} {dest : PeerId}

/-- With a maximal depth, no queue of a reachable state is longer. -/
def QueueWithinDepth (policy : StorePolicy) : Prop :=
  ∀ (config : StoreConfig) (peers : PeerTable) (labels : List StoreLabel) (state : StoreState)
    (max : Nat), config.policy = policy → config.maxQueueDepth = some max →
    Run (storeStep config) anyStep (.start peers) labels state →
    ∀ dest, (state.queue dest).length ≤ max

/-! ## What is stored for a destination -/

def Batch.share (dest : PeerId) (batch : Batch) : Nat :=
  if batch.dest = dest then batch.failures.length + batch.todo.length else 0

def Drain.share (dest : PeerId) (drain : Drain) : Nat :=
  match drain.batch with
  | some batch => batch.share dest
  | none => 0

namespace StoreState

def batchedFor (state : StoreState) (dest : PeerId) : Nat := weigh (Drain.share dest) state.drains

def storedFor (state : StoreState) (dest : PeerId) : Nat :=
  (state.queue dest).length + state.batchedFor dest

end StoreState

/-- A payload is appended to a queue only if the queue and the batches of running
drains together leave room for it. -/
def countsBatches (config : StoreConfig) (state : StoreState) : StoreLabel → Prop
  | .enqueue index =>
      ∀ caller ∈ state.callers[index]?, state.full config caller.dest = false →
        ∀ max ∈ config.maxQueueDepth, state.storedFor caller.dest < max
  | _ => True

instance (state : StoreState) (label : StoreLabel) : Decidable (countsBatches config state label) :=
  match label with
  | .enqueue index =>
      inferInstanceAs (Decidable (∀ caller ∈ state.callers[index]?,
        state.full config caller.dest = false →
          ∀ max ∈ config.maxQueueDepth, state.storedFor caller.dest < max))
  | .accept .. | .lookup _ | .attempt .. | .finish _ | .spawnDrain _ | .take _ | .view ..
  | .process .. | .retire _ | .changePeers _ => .isTrue trivial

/-! ## Only an enqueue adds to it -/

theorem taken_share {taken : PeerId} {rest : List PeerId} :
    Drain.share dest
        { rest := rest, batch := (state.pending.lookup taken).map (state.newBatch taken) } =
      if taken = dest then (state.queue taken).length else 0 := by
  unfold StoreState.queue
  cases state.pending.lookup taken with
  | none => simp [Drain.share]
  | some entries => simp [Drain.share, Batch.share, StoreState.newBatch]

theorem stored_take {index : Nat} {taken : PeerId} {rest : List PeerId}
    (present : state.drains[index]? = some { rest := taken :: rest, batch := none }) :
    (state.take index taken rest).storedFor dest = state.storedFor dest := by
  have gained := @weigh_set _ _ _ (Drain.share dest) _ _ _
    { rest := rest, batch := (state.pending.lookup taken).map (state.newBatch taken) } present
  have idle : Drain.share dest { rest := taken :: rest, batch := none } = 0 := rfl
  rw [taken_share, idle] at gained
  rw [StoreState.storedFor, StoreState.storedFor, StoreState.batchedFor, StoreState.batchedFor,
    queue_take, take_drains]
  by_cases own : dest = taken
  · subst own
    simp only [if_true, List.length_nil] at gained ⊢
    omega
  · simp only [own, Ne.symm own, if_false] at gained ⊢
    omega

theorem stored_process {index now : Nat} {rest : List PeerId} {batch : Batch}
    {targets : List Target} {entry : Entry} {todo : List Entry} {results : List Bool}
    (present : state.drains[index]? = some { rest := rest, batch := some batch })
    (head : batch.todo = entry :: todo) :
    (state.process config index rest batch now targets entry todo results).storedFor dest ≤
      state.storedFor dest := by
  rw [StoreState.storedFor, StoreState.storedFor, StoreState.batchedFor,
    queue_eq_of_pending _ (process_frame ..).pending]
  refine Nat.add_le_add_left ?_ _
  rcases process_drains state index now targets results rest batch entry todo with
    dropped | failed
  · rw [dropped]
    have lost := @weigh_set _ _ _ (Drain.share dest) _ _ _
      { rest := rest, batch := some { batch with todo := todo } } present
    simp only [Drain.share, Batch.share, head, List.length_cons] at lost
    rw [StoreState.batchedFor]
    split_ifs at lost <;> omega
  · rw [failed]
    refine (weigh_set_same _ present ?_).le
    simp only [Drain.share, Batch.share, head, List.length_cons, List.length_append,
      List.length_nil]
    split_ifs <;> omega

theorem stored_finish {index : Nat} {rest : List PeerId} {batch : Batch}
    (present : state.drains[index]? = some { rest := rest, batch := some batch })
    (done : batch.todo = []) :
    (state.finish index rest batch).storedFor dest = state.storedFor dest := by
  have lost := @weigh_set _ _ _ (Drain.share dest) _ _ _ { rest := rest, batch := none } present
  rw [StoreState.storedFor, StoreState.storedFor, StoreState.batchedFor, StoreState.batchedFor,
    queue_finish, finish_drains]
  simp only [Drain.share, Batch.share, done, List.length_nil, add_zero] at lost
  by_cases own : dest = batch.dest
  · simp only [own, if_true, List.length_append] at lost ⊢
    omega
  · simp only [own, Ne.symm own, if_false] at lost ⊢
    omega

theorem stored_enqueue {index : Nat} {caller : Caller} :
    (state.enqueue config index caller).storedFor dest =
      state.storedFor dest +
        if dest = caller.dest ∧ state.full config caller.dest = false then 1 else 0 := by
  rw [StoreState.storedFor, StoreState.storedFor, StoreState.batchedFor, StoreState.batchedFor,
    queue_enqueue, (enqueue_frame ..).drains]
  split_ifs
  · simp only [List.length_append, List.length_singleton]
    omega
  · rfl

theorem stored_step (dest : PeerId) (moved : StoreMove config state label next) :
    next.storedFor dest ≤ state.storedFor dest ∨
      ∃ index caller, label = .enqueue index ∧ state.callers[index]? = some caller ∧
        caller.dest = dest ∧ state.full config dest = false ∧
        next.storedFor dest = state.storedFor dest + 1 := by
  cases moved with
  | attempted present phase =>
      refine .inl (le_of_eq ?_)
      rw [StoreState.storedFor, StoreState.batchedFor, (attempt_frame ..).drains,
        queue_eq_of_pending _ (attempt_frame ..).pending]
      rfl
  | @enqueued index caller present phase =>
      rw [stored_enqueue]
      split_ifs with appended
      · rcases appended with ⟨rfl, room⟩
        exact .inr ⟨index, caller, rfl, present, rfl, room, rfl⟩
      · exact .inl le_rfl
  | spawned =>
      refine .inl (le_of_eq ?_)
      simp [StoreState.storedFor, StoreState.batchedFor, StoreState.queue, Drain.share]
  | took present => exact .inl (stored_take present).le
  | @viewed index now rest batch present unread =>
      have same := @weigh_set_same _ _ _ (Drain.share dest) _ _ _
        { rest := rest
          batch := some { batch with
            view := some (now, config.policy.targets state.peers batch.dest) } } present rfl
      refine .inl (le_of_eq ?_)
      rw [StoreState.storedFor, StoreState.storedFor, StoreState.batchedFor, StoreState.batchedFor,
        ← same]
      rfl
  | processed present head read => exact .inl (stored_process present head)
  | finished present done => exact .inl (stored_finish present done).le
  | retired present =>
      have same := weigh_eraseIdx (Drain.share dest) present
      simp only [Drain.share, add_zero] at same
      refine .inl (le_of_eq ?_)
      rw [StoreState.storedFor, StoreState.storedFor, StoreState.batchedFor, StoreState.batchedFor,
        ← same]
      rfl
  | _ => exact .inl le_rfl

/-! ## Whole runs -/

/-- As long as enqueues count the batches of running drains, no queue grows past the
maximal depth, not even together with those batches. -/
theorem queue_depth_kept (config : StoreConfig) (max : Nat) (depth : config.maxQueueDepth = some max)
    (peers : PeerTable) (labels : List StoreLabel) (state : StoreState)
    (run : Run (storeStep config) (countsBatches config) (.start peers) labels state)
    (dest : PeerId) : (state.queue dest).length ≤ max := by
  have kept : ∀ dest, state.storedFor dest ≤ max := by
    refine run_invariant (fun state => ∀ dest, state.storedFor dest ≤ max) ?_ run ?_
    · intro before label after within allowed taken dest
      rcases stored_step dest (store_step_moves taken) with
        less | ⟨index, caller, rfl, present, rfl, room, more⟩
      · exact less.trans (within dest)
      · rw [more]
        exact allowed caller present room max depth
    · intro dest
      simp [StoreState.storedFor, StoreState.batchedFor, StoreState.start, StoreState.queue]
  exact (Nat.le_add_right _ _).trans (kept dest)

def boundedStore (policy : StorePolicy) (max : Nat) : StoreConfig where
  policy := policy
  maxQueueDepth := some max
  storeTtl := storeTtlDefault

theorem queue_depth_kept_room :
    ∃ state, Run (storeStep (boundedStore directStore 2)) (countsBatches (boundedStore directStore 2))
        (.start knownPeer) enqueueDuringDrain state ∧
      (state.queue (samplePeer 2)).length = 2 ∧
      ∀ dest, (state.queue dest).length ≤ 2 := by
  have finished : ((execute (fun state label =>
      if countsBatches (boundedStore directStore 2) state label then
        storeStep (boundedStore directStore 2) state label else none)
        (.start knownPeer) enqueueDuringDrain).map
          fun state => (state.queue (samplePeer 2)).length) = some 2 := by
    decide +kernel
  obtain ⟨state, reached, queued⟩ := Option.map_eq_some_iff.mp finished
  have run := run_of_execute_guarded reached
  exact ⟨state, run, queued,
    queue_depth_kept (boundedStore directStore 2) 2 rfl knownPeer _ state run⟩

/-- With room for one payload, a second is accepted while a drain holds the first,
and the first comes back. -/
theorem restored_batch_exceeds_depth :
    ¬ QueueWithinDepth directStore ∧ ¬ QueueWithinDepth (routedStore (samplePeer 1)) := by
  have overfull : ∀ policy : StorePolicy,
      ((execute (storeStep (boundedStore policy 1)) (.start knownPeer) enqueueDuringDrain).map
        fun state => (state.queue (samplePeer 2)).length) = some 2 → ¬ QueueWithinDepth policy := by
    intro policy finished within
    obtain ⟨state, reached, queued⟩ := Option.map_eq_some_iff.mp finished
    have short := within (boundedStore policy 1) knownPeer _ state 1 rfl rfl
      (run_of_execute reached) (samplePeer 2)
    omega
  exact ⟨overfull _ (by decide +kernel), overfull _ (by decide +kernel)⟩

end Pathweave
