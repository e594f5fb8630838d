import Pathweave.EventWatcher

/-!
# The drains of the event watcher

The watcher drains send by send, since each send fires events into the channel it reads.
In the store model the sends of one entry are a single step. Both are models of
`drain_direct_for_peer` and `drain_routed_all`: whatever a drain of the watcher does, a
drain of the store does as well. Until the last target of an entry has answered, the store
has that entry still in front of its batch.
-/

namespace Pathweave

open GuardedRuns

set_option autoImplicit false

def DrainBatch.unsettled (batch : DrainBatch) : List Entry :=
  (batch.current.map EntrySend.entry).toList ++ batch.todo

structure BatchPicture (storeTtl : Nat) (batch : DrainBatch) (picture : Batch) : Prop where
  dest : picture.dest = batch.dest
  todo : picture.todo = batch.unsettled
  failures : picture.failures = batch.failures
  view : picture.view = batch.view
  sending : ∀ current, batch.current = some current → ∃ now targets,
    batch.view = some (now, targets) ∧ targets ≠ [] ∧
      ¬ storeTtl < now - current.entry.queuedAt

inductive DrainPicture (storeTtl : Nat) : WatcherDrain → Drain → Prop where
  | idle {rest : List PeerId} :
      DrainPicture storeTtl { rest := rest, batch := none } { rest := rest, batch := none }
  | busy {rest : List PeerId} {batch : DrainBatch} {picture : Batch}
      (same : BatchPicture storeTtl batch picture) :
      DrainPicture storeTtl { rest := rest, batch := some batch }
        { rest := rest, batch := some picture }

/-- The store has these queues, and this drain at the index. -/
structure DrainPictured (storeTtl index : Nat) (pending : PendingStore) (drain : WatcherDrain)
    (store : StoreState) : Prop where
  pending : store.pending = pending
  drain : ∃ picture, store.drains[index]? = some picture ∧ DrainPicture storeTtl drain picture

def NodeEvent.failedPeer : NodeEvent → Option PeerId
  | .storeFailed peer => some peer
  | _ => none

/-- The store comes to picture the outcome and reports the same peers as failed. -/
def Matched (config : StoreConfig) (index : Nat) (store : StoreState)
    (outcome : DrainOutcome) : Prop :=
  ∃ labels after, Run (storeStep config) anyStep store labels after ∧
    DrainPictured config.storeTtl index outcome.pending outcome.drain after ∧
    after.peers = store.peers ∧
    after.storeFailed.map Prod.fst =
      store.storeFailed.map Prod.fst ++ (outcome.event.bind NodeEvent.failedPeer).toList

section Steps

variable {config : StoreConfig} {store : StoreState} {index : Nat} {rest : List PeerId}
  {batch : DrainBatch} {picture : Batch}

theorem matched_one {label : StoreLabel} {after : StoreState} {outcome : DrainOutcome}
    {old new : Drain} (taken : storeStep config store label = some after)
    (present : store.drains[index]? = some old)
    (drains : after.drains = store.drains.set index new)
    (drawn : DrainPicture config.storeTtl outcome.drain new)
    (pending : after.pending = outcome.pending) (peers : after.peers = store.peers)
    (failed : after.storeFailed.map Prod.fst =
      store.storeFailed.map Prod.fst ++ (outcome.event.bind NodeEvent.failedPeer).toList) :
    Matched config index store outcome := by
  have inside := (List.getElem?_eq_some_iff.mp present).1
  have placed : after.drains[index]? = some new := by
    rw [drains, List.getElem?_set_self inside]
  exact ⟨_, after, run_one taken trivial, ⟨pending, new, placed, drawn⟩, peers, failed⟩

theorem matched_still {outcome : DrainOutcome}
    (pictured : DrainPictured config.storeTtl index outcome.pending outcome.drain store)
    (quiet : outcome.event.bind NodeEvent.failedPeer = none) :
    Matched config index store outcome :=
  ⟨[], store, .start, pictured, rfl, by simp [quiet]⟩

theorem matched_take (dest : PeerId)
    (present : store.drains[index]? = some { rest := dest :: rest, batch := none }) :
    Matched config index store (takeQueue store.pending dest rest) := by
  have taken : storeStep config store (.take index) = some (store.take index dest rest) := by
    simp [storeStep, present]
  refine matched_one taken present (take_drains ..) ?_ ?_ (take_frame ..).peers ?_
  · unfold takeQueue
    cases store.pending.lookup dest with
    | none => exact .idle
    | some entries => exact .busy ⟨rfl, rfl, rfl, rfl, by rintro _ ⟨⟩⟩
  · unfold takeQueue StoreState.take
    cases store.pending.lookup dest <;> rfl
  · rw [(take_frame ..).storeFailed]
    unfold takeQueue
    cases store.pending.lookup dest <;> exact (List.append_nil _).symm

theorem matched_view (now : Nat) (same : BatchPicture config.storeTtl batch picture)
    (unviewed : batch.view = none)
    (present : store.drains[index]? = some { rest := rest, batch := some picture }) :
    Matched config index store
      { pending := store.pending
        drain :=
          { rest := rest
            batch := some
              { batch with view := some (now, config.policy.targets store.peers batch.dest) } }
        event := none } := by
  have taken : storeStep config store (.view index now) = some (store.setDrain index
      { rest := rest
        batch := some { picture with
          view := some (now, config.policy.targets store.peers picture.dest) } }) := by
    simp [storeStep, present, same.view, unviewed]
  refine matched_one taken present rfl (.busy ?_) rfl rfl (List.append_nil _).symm
  refine ⟨same.dest, same.todo, same.failures, by rw [same.dest], ?_⟩
  intro current busy
  obtain ⟨_, _, viewed, _⟩ := same.sending current busy
  cases unviewed.symm.trans viewed

section Turn

variable (config) {now : Nat} {targets : List Target} {entry : Entry} {todo : List Entry}

theorem process_taken
    (present : store.drains[index]? = some { rest := rest, batch := some picture })
    (first : picture.todo = entry :: todo) (viewed : picture.view = some (now, targets))
    (answer : Bool) :
    storeStep config store (.process index (List.replicate targets.length answer)) =
      some (store.process config index rest picture now targets entry todo
        (List.replicate targets.length answer)) := by
  simp [storeStep, present, first, viewed]

theorem process_expired (expired : config.storeTtl < now - entry.queuedAt) (results : List Bool) :
    let after := store.process config index rest picture now targets entry todo results
    after.storeFailed = store.storeFailed ++ [(picture.dest, entry)] ∧
      after.drains = store.drains.set index
        { rest := rest, batch := some { picture with todo := todo } } := by
  simp only [StoreState.process, if_pos expired]
  exact ⟨rfl, rfl⟩

theorem process_unsent (unexpired : ¬ config.storeTtl < now - entry.queuedAt)
    (empty : targets.isEmpty = true) (results : List Bool) :
    let after := store.process config index rest picture now targets entry todo results
    after.storeFailed = store.storeFailed ∧
      after.drains = store.drains.set index
        { rest := rest
          batch := some
            { picture with todo := todo, failures := picture.failures ++ [entry] } } := by
  simp only [StoreState.process, if_neg unexpired, if_pos empty]
  exact ⟨rfl, rfl⟩

theorem process_sent (unexpired : ¬ config.storeTtl < now - entry.queuedAt)
    (filled : ¬ targets.isEmpty = true) (answer : Bool) :
    let after := store.process config index rest picture now targets entry todo
      (List.replicate targets.length answer)
    after.storeFailed = store.storeFailed ∧
      after.drains = store.drains.set index
        { rest := rest
          batch := some
            { picture with
              todo := todo
              failures := if answer then picture.failures else picture.failures ++ [entry] } } := by
  have answered : (List.replicate targets.length answer).any id = answer := by
    cases targets with
    | nil => exact absurd rfl filled
    | cons target others => cases answer <;> simp
  simp only [StoreState.process, if_neg unexpired, if_neg filled, answered]
  cases answer with
  | true => exact ⟨rfl, rfl⟩
  | false => exact ⟨rfl, rfl⟩

end Turn

theorem matched_next {readAt : Nat} {targets : List Target} {entry : Entry} {todo : List Entry}
    (same : BatchPicture config.storeTtl batch picture) (resting : batch.current = none)
    (first : batch.todo = entry :: todo) (viewed : batch.view = some (readAt, targets))
    (present : store.drains[index]? = some { rest := rest, batch := some picture }) :
    Matched config index store
      { pending := store.pending
        drain :=
          { rest := rest
            batch := some (nextEntry config.storeTtl batch readAt targets entry todo).1 }
        event := (nextEntry config.storeTtl batch readAt targets entry todo).2 } := by
  have waiting : picture.todo = entry :: todo := by
    rw [same.todo, DrainBatch.unsettled, resting, first]
    rfl
  have taken := process_taken config present waiting (same.view.trans viewed) false
  have idle : ∀ current, batch.current = some current → ∃ now targets,
      batch.view = some (now, targets) ∧ targets ≠ [] ∧
        ¬ config.storeTtl < now - current.entry.queuedAt :=
    fun current busy => by cases resting.symm.trans busy
  have left : (batch.current.map EntrySend.entry).toList ++ todo = todo := by
    rw [resting]
    rfl
  unfold nextEntry
  by_cases expired : config.storeTtl < readAt - entry.queuedAt
  · rw [if_pos expired]
    obtain ⟨failed, drains⟩ := process_expired config expired _
    refine matched_one taken present drains ?_ (process_frame ..).pending
      (process_frame ..).peers ?_
    · exact .busy ⟨same.dest, left.symm, same.failures, same.view, idle⟩
    · rw [failed, List.map_append, same.dest]
      rfl
  · rw [if_neg expired]
    by_cases none : targets.isEmpty
    · rw [if_pos none]
      obtain ⟨failed, drains⟩ := process_unsent config expired none _
      refine matched_one taken present drains ?_ (process_frame ..).pending
        (process_frame ..).peers ?_
      · exact .busy ⟨same.dest, left.symm, by rw [same.failures], same.view, idle⟩
      · rw [failed]
        exact (List.append_nil _).symm
    · rw [if_neg none]
      refine matched_still ⟨rfl, _, present, .busy ⟨same.dest, waiting, same.failures, same.view,
        ?_⟩⟩ rfl
      intro current busy
      cases busy
      exact ⟨readAt, targets, viewed, by simpa using none, expired⟩

theorem matched_advance {current : EntrySend} (result : SendResult)
    (same : BatchPicture config.storeTtl batch picture) (busy : batch.current = some current)
    (present : store.drains[index]? = some { rest := rest, batch := some picture }) :
    Matched config index store
      { pending := store.pending
        drain := { rest := rest, batch := some (advanceEntry batch current result).1 }
        event := (advanceEntry batch current result).2 } := by
  obtain ⟨now, targets, viewed, some, unexpired⟩ := same.sending current busy
  have waiting : picture.todo = current.entry :: batch.todo := by
    rw [same.todo, DrainBatch.unsettled, busy]
    rfl
  unfold advanceEntry
  cases sends : current.sends with
  | nil =>
      -- the last target has answered, and the store settles the entry in one step
      have taken := process_taken config present waiting (same.view.trans viewed) current.anyOk
      obtain ⟨failed, drains⟩ := process_sent config unexpired (by simpa using some) current.anyOk
      refine matched_one taken present drains ?_ (process_frame ..).pending
        (process_frame ..).peers ?_
      · exact .busy ⟨same.dest, rfl, by rw [same.failures], same.view, by rintro _ ⟨⟩⟩
      · rw [failed]
        exact (List.append_nil _).symm
  | cons send others =>
      refine matched_still ⟨rfl, _, present, .busy ⟨same.dest, waiting, same.failures, same.view,
        ?_⟩⟩ ?_
      · rintro _ ⟨⟩
        exact ⟨now, targets, viewed, some, unexpired⟩
      · cases send <;> cases result <;> rfl

theorem matched_return (same : BatchPicture config.storeTtl batch picture)
    (resting : batch.current = none) (done : batch.todo = []) (viewed : batch.view ≠ none)
    (present : store.drains[index]? = some { rest := rest, batch := some picture }) :
    Matched config index store
      { pending := returnFailures store.pending batch
        drain := { rest := rest, batch := none }
        event := none } := by
  have empty : picture.todo = [] := by
    rw [same.todo, DrainBatch.unsettled, resting, done]
    rfl
  have taken : storeStep config store (.finish index) =
      some (store.finish index rest picture) := by
    simp [storeStep, present, empty, same.view, viewed]
  refine matched_one taken present (finish_drains ..) .idle ?_ (finish_frame ..).peers ?_
  · simp only [StoreState.finish, returnFailures, same.failures, same.dest]
    split_ifs
    · rfl
    · rfl
  · rw [(finish_frame ..).storeFailed]
    exact (List.append_nil _).symm

/-- Every step of a drain of the watcher is one step of the store or none. -/
theorem drain_step_matched {drain : WatcherDrain} {now : Nat} {result : SendResult}
    {outcome : DrainOutcome}
    (pictured : DrainPictured config.storeTtl index store.pending drain store)
    (taken : drainStep config.policy config.storeTtl store.pending store.peers drain now result =
      some outcome) : Matched config index store outcome := by
  obtain ⟨-, picture, present, drawn⟩ := pictured
  cases drawn with
  | @idle rest =>
      cases rest with
      | nil => cases taken
      | cons dest rest =>
          cases taken
          exact matched_take dest present
  | @busy rest batch picture same =>
      unfold drainStep at taken
      cases viewed : batch.view with
      | none =>
          simp only [viewed] at taken
          cases taken
          exact matched_view now same viewed present
      | some view =>
          obtain ⟨readAt, targets⟩ := view
          cases busy : batch.current with
          | some current =>
              simp only [viewed, busy] at taken
              cases taken
              exact matched_advance result same busy present
          | none =>
              cases left : batch.todo with
              | nil =>
                  simp only [viewed, busy, left] at taken
                  cases taken
                  exact matched_return same busy left (by simp [viewed]) present
              | cons entry todo =>
                  simp only [viewed, busy, left] at taken
                  cases taken
                  exact matched_next same busy left viewed present

end Steps

/-! ## Whole drains -/

inductive StoreQueue where
  | direct
  | routed
  deriving DecidableEq

namespace StoreQueue

def config (watcher : WatcherConfig) : StoreQueue → StoreConfig
  | .direct => { policy := directStore, maxQueueDepth := none, storeTtl := watcher.storeTtl }
  | .routed =>
      { policy := routedStore watcher.localPeer
        maxQueueDepth := none
        storeTtl := watcher.storeTtl }

def pending (state : WatcherState) : StoreQueue → PendingStore
  | .direct => state.pendingDirect
  | .routed => state.pendingRouted

def draining (drain : WatcherDrain) : StoreQueue → WatcherPhase
  | .direct => .drainingDirect drain
  | .routed => .drainingRouted drain

end StoreQueue

/-- The drain of the queue goes on, and nobody else touches the queue. -/
def drainsAlone (queue : StoreQueue) (_ : WatcherState) : WatcherLabel → Prop
  | .fire _ | .changePeers _ | .drain _ _ => True
  | .changeDirect _ => queue = .routed
  | .changeRouted _ => queue = .direct
  | .recv | .drainRouted _ | .readNeighbors | .flood _ _ | .wait => False

def WatcherPictured (watcher : WatcherConfig) (queue : StoreQueue) (index : Nat)
    (state : WatcherState) (store : StoreState) : Prop :=
  ∃ drain, state.phase = queue.draining drain ∧ store.peers = state.peers ∧
    DrainPictured watcher.storeTtl index (queue.pending state) drain store

section Drains

variable {watcher : WatcherConfig} {queue : StoreQueue} {index : Nat}
  {state next : WatcherState} {label : WatcherLabel} {store : StoreState}

theorem watcher_drain_taken {drain : WatcherDrain} {now : Nat} {result : SendResult}
    (phase : state.phase = queue.draining drain)
    (taken : watcherStep watcher state (.drain now result) = some next) :
    ∃ outcome, drainStep (queue.config watcher).policy watcher.storeTtl (queue.pending state)
        state.peers drain now result = some outcome ∧
      next.phase = queue.draining outcome.drain ∧ next.peers = state.peers ∧
      queue.pending next = outcome.pending := by
  cases queue with
  | direct =>
      simp only [watcherStep, phase, StoreQueue.draining] at taken
      obtain ⟨outcome, stepped, rfl⟩ := Option.map_eq_some_iff.mp taken
      exact ⟨outcome, stepped, rfl, rfl, rfl⟩
  | routed =>
      simp only [watcherStep, phase, StoreQueue.draining] at taken
      obtain ⟨outcome, stepped, rfl⟩ := Option.map_eq_some_iff.mp taken
      exact ⟨outcome, stepped, rfl, rfl, rfl⟩

theorem watcher_step_matched (pictured : WatcherPictured watcher queue index state store)
    (alone : drainsAlone queue state label) (taken : watcherStep watcher state label = some next) :
    ∃ acts after, Run (storeStep (queue.config watcher)) anyStep store acts after ∧
      WatcherPictured watcher queue index next after := by
  obtain ⟨drain, phase, peers, same⟩ := pictured
  cases label with
  | fire event =>
      cases taken
      exact ⟨[], store, .start, drain, phase, peers, by cases queue <;> exact same⟩
  | changePeers changed =>
      cases taken
      have follows : storeStep (queue.config watcher) store (.changePeers changed) =
          some { store with peers := changed } := rfl
      exact ⟨_, _, run_one follows trivial, drain, phase, rfl,
        by cases queue <;> exact ⟨same.pending, same.drain⟩⟩
  | changeDirect pending =>
      cases taken
      cases alone
      exact ⟨[], store, .start, drain, phase, peers, same⟩
  | changeRouted pending =>
      cases taken
      cases alone
      exact ⟨[], store, .start, drain, phase, peers, same⟩
  | drain now result =>
      obtain ⟨outcome, stepped, goes, table, left⟩ := watcher_drain_taken phase taken
      rw [← same.pending, ← peers] at stepped
      have lifetime : (queue.config watcher).storeTtl = watcher.storeTtl := by
        cases queue <;> rfl
      have own : DrainPictured (queue.config watcher).storeTtl index store.pending drain store := by
        rw [lifetime, same.pending]
        exact same
      rw [← lifetime] at stepped
      obtain ⟨acts, after, run, drawn, kept, -⟩ := drain_step_matched own stepped
      refine ⟨acts, after, run, outcome.drain, goes, ?_, ?_⟩
      · rw [kept, peers, table]
      · rw [left, ← lifetime]
        exact drawn
  | _ => exact absurd alone id

/-- A drain of the watcher, from wherever it is, is a drain of the store with the same
queue, as long as nobody else touches that queue. -/
theorem watcher_drains_as_store {labels : List WatcherLabel} {last : WatcherState}
    (run : Run (watcherStep watcher) (drainsAlone queue) state labels last)
    (pictured : WatcherPictured watcher queue index state store) :
    ∃ acts after, Run (storeStep (queue.config watcher)) anyStep store acts after ∧
      WatcherPictured watcher queue index last after :=
  run_simulated (WatcherPictured watcher queue index)
    (fun _ _ _ _ held alone taken => watcher_step_matched held alone taken) run pictured

end Drains

end Pathweave
