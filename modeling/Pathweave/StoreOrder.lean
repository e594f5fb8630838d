import Pathweave.StoreConservation

/-!
# The order of a pending queue

A drain puts its failures back in front of whatever the queue holds by then. That
keeps the order of enqueueing as long as everything in the queue was enqueued
after the drain took its batch; with overlapping drains it need not have been.
-/

namespace Pathweave

open ByteStrings GuardedRuns Weights

set_option autoImplicit false

variable {config : StoreConfig} {state next : StoreState} {label : StoreLabel}

def enqueuedFor (dest : PeerId) (log : List Item) : List Entry :=
  (log.filter fun item => item.1 = dest).map Prod.snd

theorem enqueued_for_append (dest : PeerId) (left right : List Item) :
    enqueuedFor dest (left ++ right) = enqueuedFor dest left ++ enqueuedFor dest right := by
  simp [enqueuedFor]

theorem mem_enqueued_for {dest : PeerId} {log : List Item} {entry : Entry} :
    entry ∈ enqueuedFor dest log ↔ (dest, entry) ∈ log := by
  simp [enqueuedFor]

def QueueInOrder : Prop :=
  ∀ (config : StoreConfig) (peers : PeerTable) (labels : List StoreLabel) (state : StoreState),
    config.policy = directStore →
    Run (storeStep config) anyStep (.start peers) labels state →
    ∀ dest, (state.queue dest).Sublist (enqueuedFor dest state.enqueued)

/-- A drain puts failures back only while the queue holds nothing that had been
enqueued before the drain took its batch. -/
def restoresInOrder (state : StoreState) : StoreLabel → Prop
  | .finish index =>
      ∀ drain ∈ state.drains[index]?, ∀ batch ∈ drain.batch, batch.failures ≠ [] →
        ∀ entry ∈ state.queue batch.dest, (batch.dest, entry) ∈ state.enqueued.drop batch.takenAt
  | _ => True

instance (state : StoreState) (label : StoreLabel) : Decidable (restoresInOrder state label) :=
  match label with
  | .finish index =>
      inferInstanceAs (Decidable (∀ drain ∈ state.drains[index]?, ∀ batch ∈ drain.batch,
        batch.failures ≠ [] → ∀ entry ∈ state.queue batch.dest,
          (batch.dest, entry) ∈ state.enqueued.drop batch.takenAt))
  | .accept .. | .lookup _ | .attempt .. | .enqueue _ | .spawnDrain _ | .take _ | .view ..
  | .process .. | .retire _ | .changePeers _ => .isTrue trivial

/-! ## Each payload is enqueued at most once -/

def EnqueuesOnce (state : StoreState) : Prop :=
  (state.enqueued : Multiset Item) + state.attempting ≤ ↑state.accepted

theorem enqueue_log {index : Nat} {caller : Caller} :
    (state.enqueue config index caller).enqueued =
      if state.full config caller.dest then state.enqueued
      else state.enqueued ++ [(caller.dest, caller.entry)] := by
  unfold StoreState.enqueue
  split_ifs <;> rfl

theorem enqueues_once_step (once : EnqueuesOnce state) (moved : StoreMove config state label next) :
    EnqueuesOnce next := by
  unfold EnqueuesOnce at once ⊢
  cases moved with
  | accepted =>
      simp only [StoreState.accept, StoreState.attempting, weigh_append, weigh_cons, weigh_nil,
        add_zero, ← Multiset.coe_add, Multiset.coe_singleton, Caller.item, ← add_assoc]
      exact add_le_add_left once _
  | looked present phase =>
      rw [← attempting_same _ present] at once
      exact once
  | @attempted index caller targets results present phase =>
      rw [(attempt_frame ..).enqueued, (attempt_frame ..).accepted]
      refine (add_le_add_right ?_ _).trans once
      unfold StoreState.attempt
      dsimp only
      split_ifs
      · rw [← attempting_left present]
        exact Multiset.le_add_right _ _
      · exact (attempting_same _ present).le
  | @enqueued index caller present phase =>
      rw [← attempting_left present] at once
      rw [(enqueue_frame ..).accepted, enqueue_log, StoreState.attempting, enqueue_callers]
      split_ifs
      · exact (add_le_add_right (Multiset.le_add_right _ _) _).trans once
      · rw [← Multiset.coe_add, Multiset.coe_singleton, add_right_comm, add_assoc]
        exact once
  | took =>
      rw [(take_frame ..).enqueued, (take_frame ..).accepted, StoreState.attempting,
        (take_frame ..).callers]
      exact once
  | processed =>
      rw [(process_frame ..).enqueued, (process_frame ..).accepted, StoreState.attempting,
        (process_frame ..).callers]
      exact once
  | finished =>
      rw [(finish_frame ..).enqueued, (finish_frame ..).accepted, StoreState.attempting,
        (finish_frame ..).callers]
      exact once
  | _ => exact once

theorem enqueued_nodup (numbered : Numbered state) (once : EnqueuesOnce state) :
    state.enqueued.Nodup := by
  have accepted := Multiset.coe_nodup.mpr (accepted_nodup numbered)
  exact Multiset.coe_nodup.mp
    (Multiset.nodup_of_le ((Multiset.le_add_right _ _).trans once) accepted)

/-! ## Batches and queues follow the log -/

/-- A batch keeps what it took in order, all of it enqueued before it was taken. -/
def BatchInOrder (log : List Item) (batch : Batch) : Prop :=
  batch.takenAt ≤ log.length ∧
    (batch.failures ++ batch.todo).Sublist (enqueuedFor batch.dest (log.take batch.takenAt))

structure InOrder (state : StoreState) : Prop where
  queues : ∀ dest, (state.queue dest).Sublist (enqueuedFor dest state.enqueued)
  batches : ∀ drain ∈ state.drains, ∀ batch, drain.batch = some batch →
    BatchInOrder state.enqueued batch

theorem batch_in_order_append {log : List Item} {batch : Batch} (ordered : BatchInOrder log batch)
    (later : List Item) : BatchInOrder (log ++ later) batch := by
  refine ⟨ordered.1.trans (by simp), ?_⟩
  rw [List.take_append_of_le_length ordered.1]
  exact ordered.2

theorem sublist_of_drop {Value : Type*} {front back items : List Value}
    (nodup : (front ++ back).Nodup) (ordered : items.Sublist (front ++ back))
    (behind : ∀ item ∈ items, item ∈ back) : items.Sublist back := by
  obtain ⟨early, late, rfl, inFront, inBack⟩ := List.sublist_append_iff.mp ordered
  have none : early = [] := by
    apply List.eq_nil_iff_forall_not_mem.mpr
    intro item listed
    exact List.disjoint_of_nodup_append nodup (inFront.subset listed)
      (behind item (List.mem_append_left _ listed))
  simpa [none] using inBack

theorem enqueued_for_nodup {log : List Item} (nodup : log.Nodup) (dest : PeerId) :
    (enqueuedFor dest log).Nodup := by
  apply (nodup.filter _).map_on
  intro given listed found otherListed same
  rcases given with ⟨first, entry⟩
  rcases found with ⟨second, other⟩
  simp only [List.mem_filter, decide_eq_true_eq] at listed otherListed
  simp_all

theorem in_order_finish {index : Nat} {rest : List PeerId} {batch : Batch}
    (nodup : state.enqueued.Nodup) (ordered : InOrder state)
    (present : state.drains[index]? = some { rest := rest, batch := some batch })
    (done : batch.todo = [])
    (allowed : restoresInOrder state (.finish index)) :
    InOrder (state.finish index rest batch) := by
  rcases ordered.batches _ (List.mem_of_getElem? present) batch rfl with ⟨within, held⟩
  constructor
  · intro dest
    rw [queue_finish, (finish_frame ..).enqueued]
    split_ifs with same
    · subst same
      by_cases clean : batch.failures = []
      · simpa [clean] using ordered.queues batch.dest
      · have split : enqueuedFor batch.dest state.enqueued =
            enqueuedFor batch.dest (state.enqueued.take batch.takenAt) ++
              enqueuedFor batch.dest (state.enqueued.drop batch.takenAt) := by
          rw [← enqueued_for_append, List.take_append_drop]
        have unique := enqueued_for_nodup nodup batch.dest
        have queued := ordered.queues batch.dest
        rw [split] at unique queued ⊢
        rw [done, List.append_nil] at held
        refine held.append (sublist_of_drop unique queued fun entry listed => ?_)
        exact mem_enqueued_for.mpr (allowed _ present batch rfl clean entry listed)
    · exact ordered.queues dest
  · rw [finish_drains, (finish_frame ..).enqueued]
    exact drains_set ordered.batches (by simp)

theorem in_order_enqueue {index : Nat} {caller : Caller} (ordered : InOrder state) :
    InOrder (state.enqueue config index caller) := by
  rcases ordered with ⟨queues, batches⟩
  constructor
  · intro dest
    rw [queue_enqueue, enqueue_log]
    cases full : state.full config caller.dest with
    | true => simpa using queues dest
    | false =>
        simp only [and_true, Bool.false_eq_true, if_false, enqueued_for_append]
        split_ifs with same
        · apply (queues dest).append
          simp [enqueuedFor, same]
        · exact (queues dest).trans (List.sublist_append_left _ _)
  · intro drain listed batch held
    rw [(enqueue_frame ..).drains] at listed
    have before := batches drain listed batch held
    rw [enqueue_log]
    split_ifs
    · exact before
    · exact batch_in_order_append before _

theorem in_order_take {index : Nat} {dest : PeerId} {rest : List PeerId} (ordered : InOrder state) :
    InOrder (state.take index dest rest) := by
  constructor
  · intro other
    rw [queue_take, (take_frame ..).enqueued]
    split_ifs
    · exact List.nil_sublist _
    · exact ordered.queues other
  · rw [(take_frame ..).enqueued, take_drains]
    apply drains_set ordered.batches
    intro batch held
    obtain ⟨entries, found, rfl⟩ := Option.map_eq_some_iff.mp held
    have queued := ordered.queues dest
    rw [StoreState.queue, found] at queued
    simpa [BatchInOrder, StoreState.newBatch] using queued

theorem in_order_process {index now : Nat} {rest : List PeerId} {batch : Batch}
    {targets : List Target} {entry : Entry} {todo : List Entry} {results : List Bool}
    (ordered : InOrder state)
    (present : state.drains[index]? = some { rest := rest, batch := some batch })
    (head : batch.todo = entry :: todo) :
    InOrder (state.process config index rest batch now targets entry todo results) := by
  rcases ordered.batches _ (List.mem_of_getElem? present) batch rfl with ⟨within, held⟩
  rw [head] at held
  constructor
  · intro dest
    rw [queue_eq_of_pending _ (process_frame ..).pending, (process_frame ..).enqueued]
    exact ordered.queues dest
  · rw [(process_frame ..).enqueued]
    rcases process_drains state index now targets results rest batch entry todo with
      dropped | failed
    · rw [dropped]
      apply drains_set ordered.batches
      intro kept same
      cases same
      exact ⟨within, ((List.sublist_cons_self entry todo).append_left _).trans held⟩
    · rw [failed]
      apply drains_set ordered.batches
      intro failing same
      cases same
      refine ⟨within, ?_⟩
      simpa using held

theorem in_order_step (nodup : state.enqueued.Nodup) (ordered : InOrder state)
    (allowed : restoresInOrder state label) (moved : StoreMove config state label next) :
    InOrder next := by
  cases moved with
  | attempted present phase =>
      constructor
      · intro dest
        rw [queue_eq_of_pending _ (attempt_frame ..).pending, (attempt_frame ..).enqueued]
        exact ordered.queues dest
      · rw [(attempt_frame ..).drains, (attempt_frame ..).enqueued]
        exact ordered.batches
  | enqueued present phase => exact in_order_enqueue ordered
  | spawned =>
      refine ⟨ordered.queues, fun drain listed batch held => ?_⟩
      rcases List.mem_append.mp listed with old | new
      · exact ordered.batches drain old batch held
      · rw [List.mem_singleton.mp new] at held
        cases held
  | took present => exact in_order_take ordered
  | @viewed index now rest batch present unread =>
      refine ⟨ordered.queues, drains_set ordered.batches fun other same => ?_⟩
      cases same
      exact ordered.batches _ (List.mem_of_getElem? present) batch rfl
  | processed present head read => exact in_order_process ordered present head
  | finished present done => exact in_order_finish nodup ordered present done allowed
  | retired present =>
      exact ⟨ordered.queues, fun drain listed =>
        ordered.batches drain (List.mem_of_mem_eraseIdx listed)⟩
  | _ => exact ⟨ordered.queues, ordered.batches⟩

/-! ## Whole runs -/

/-- As long as no drain puts failures back over older entries, every queue lists its
entries in the order of enqueueing and none twice. -/
theorem queue_order_kept (config : StoreConfig) (peers : PeerTable) (labels : List StoreLabel)
    (state : StoreState)
    (run : Run (storeStep config) restoresInOrder (.start peers) labels state) (dest : PeerId) :
    (state.queue dest).Sublist (enqueuedFor dest state.enqueued) ∧ state.enqueued.Nodup := by
  have kept : (Numbered state ∧ EnqueuesOnce state) ∧ InOrder state := by
    refine run_invariant
      (fun state => (Numbered state ∧ EnqueuesOnce state) ∧ InOrder state) ?_ run ?_
    · intro before label after given allowed taken
      rcases given with ⟨⟨numbered, once⟩, ordered⟩
      have moved := store_step_moves taken
      exact ⟨⟨numbered_step numbered moved, enqueues_once_step once moved⟩,
        in_order_step (enqueued_nodup numbered once) ordered allowed moved⟩
    · refine ⟨⟨rfl, ?_⟩, ?_⟩
      · simp [EnqueuesOnce, StoreState.start, StoreState.attempting]
      · constructor <;> simp [StoreState.start, StoreState.queue]
  exact ⟨kept.2.queues dest, enqueued_nodup kept.1.1 kept.1.2⟩

theorem queue_order_kept_single_drain :
    ∃ state, Run (storeStep openStore) restoresInOrder (.start knownPeer) enqueueDuringDrain state ∧
      (state.queue (samplePeer 2)).map Entry.payload = [[1], [2]] ∧
      (state.queue (samplePeer 2)).Sublist (enqueuedFor (samplePeer 2) state.enqueued) := by
  have finished : ((execute (fun state label =>
      if restoresInOrder state label then storeStep openStore state label else none)
        (.start knownPeer) enqueueDuringDrain).map
          fun state => (state.queue (samplePeer 2)).map Entry.payload) = some [[1], [2]] := by
    decide +kernel
  obtain ⟨state, reached, queued⟩ := Option.map_eq_some_iff.mp finished
  have run := run_of_execute_guarded reached
  exact ⟨state, run, queued, (queue_order_kept openStore knownPeer _ state run _).1⟩

/-- Two drains hold one payload each, and the one that holds the earlier payload
puts it back first. -/
def overlappingDrains : List StoreLabel :=
  callAndEnqueue [1] ++ startDrain 0 ++ callAndEnqueue [2] ++ startDrain 1 ++
    failDrain 0 ++ failDrain 1

theorem overlapping_drains_reorder : ¬ QueueInOrder := by
  intro inOrder
  have finished : ((execute (storeStep openStore) (.start knownPeer) overlappingDrains).map
      fun state => ((state.queue (samplePeer 2)).map Entry.payload,
        (enqueuedFor (samplePeer 2) state.enqueued).map Entry.payload)) =
        some ([[2], [1]], [[1], [2]]) := by
    decide +kernel
  obtain ⟨state, reached, found⟩ := Option.map_eq_some_iff.mp finished
  obtain ⟨queued, enqueued⟩ := Prod.mk.inj found
  have ordered := inOrder openStore knownPeer _ state rfl (run_of_execute reached) (samplePeer 2)
  have payloads := ordered.map Entry.payload
  rw [queued, enqueued] at payloads
  exact absurd payloads (by decide)

end Pathweave
