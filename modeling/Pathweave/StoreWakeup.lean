import Pathweave.StoreConservation
import Pathweave.TaskLists

/-!
# Discovery, the event watcher and the pending queue

`store_forward` reads the peer table and appends to the queue in two critical
sections. Discovery inserts an announcement and then fires `PeerConnected`; the
watcher handles one event at a time and drains the peer it names. The tasks of
this system are calls, discovery and the watcher, no event is lagged, and sends
succeed once a peer has an announcement.
-/

namespace Pathweave

open ByteStrings GuardedRuns Weights TaskLists

set_option autoImplicit false

/-! ## The system -/

/-- `connecting` lists the peers whose announcement is inserted while the event is
not fired yet. `fired` records each event with the number of calls begun by then. -/
structure WakeState where
  store : StoreState
  connecting : List PeerId
  events : List PeerId
  fired : List (PeerId × Nat)

def WakeState.start (peers : PeerTable) : WakeState where
  store := .start peers
  connecting := []
  events := []
  fired := []

inductive WakeLabel where
  | store (label : StoreLabel)
  | insert (peer : PeerId) (announcement : PeerAnnouncement)
  | exchange (peer : PeerId) (addresses : List PeerAddress)
  | fire (peer : PeerId)
  | wake

/-- Steps of calls and of the watcher's drain, with every send successful. -/
def sendsSucceed : StoreLabel → Bool
  | .attempt _ results => results.all id
  | .process _ results => results.all id
  | .spawnDrain _ => false
  | .changePeers _ => false
  | _ => true

def wakeStep (config : StoreConfig) (state : WakeState) : WakeLabel → Option WakeState
  | .store label =>
      if sendsSucceed label then
        (storeStep config state.store label).map fun store => { state with store := store }
      else none
  | .insert peer announcement =>
      some { state with
        store := { state.store with peers := pushDiscovered state.store.peers peer announcement }
        connecting := state.connecting ++ [peer] }
  | .exchange peer addresses =>
      some { state with
        store := { state.store with
          peers := upsertPeerAddresses state.store.peers peer addresses } }
  | .fire peer =>
      if peer ∈ state.connecting then
        some { state with
          connecting := state.connecting.erase peer
          events := state.events ++ [peer]
          fired := state.fired ++ [(peer, state.store.accepted.length)] }
      else none
  | .wake =>
      match state.events with
      | peer :: events =>
          -- The only drain here is the watcher's own, which it awaits.
          if state.store.drains = [] then
            some { state with
              store := { state.store with
                drains := state.store.drains ++ [{ rest := [peer], batch := none }] }
              events := events }
          else none
      | [] => none

namespace WakeState

def Quiescent (state : WakeState) : Prop :=
  state.store.callers = [] ∧ state.store.drains = [] ∧ state.connecting = [] ∧ state.events = []

def FiredSince (state : WakeState) (dest : PeerId) (entry : Entry) : Prop :=
  ∃ count, (dest, count) ∈ state.fired ∧ entry.call < count

/-- Not left in the queue, and sent unless it was dropped with `StoreFailed`. -/
def Discharged (state : WakeState) (dest : PeerId) (entry : Entry) : Prop :=
  entry ∉ state.store.queue dest ∧
    ((dest, entry) ∉ state.store.storeFailed → (dest, entry) ∈ state.store.sent)

end WakeState

/-- At rest, no payload is left behind whose peer was announced after its call began. -/
def NoStrandedPayload : Prop :=
  ∀ (config : StoreConfig) (peers : PeerTable) (labels : List WakeLabel) (state : WakeState),
    config.policy = directStore →
    Run (wakeStep config) anyStep (.start peers) labels state → state.Quiescent →
    ∀ dest entry, (dest, entry) ∈ state.store.accepted → state.FiredSince dest entry →
      state.Discharged dest entry

/-- The watcher takes a queue while a call is about to append to it only if another
event for that peer is still unread. -/
def takesAfterEnqueue (state : WakeState) : WakeLabel → Prop
  | .store (.take index) =>
      ∀ drain ∈ state.store.drains[index]?, ∀ dest ∈ drain.rest.head?,
        ∀ caller ∈ state.store.callers, caller.dest = dest → caller.phase = .enqueue →
          dest ∈ state.events
  | _ => True

/-! ## Peers that are known -/

def Known (peers : PeerTable) (peer : PeerId) : Prop := (peers.lookup peer).getD [] ≠ []

theorem direct_targets_empty {peers : PeerTable} {peer : PeerId} :
    (directStore.targets peers peer).isEmpty = true ↔ ¬ Known peers peer := by
  unfold Known directStore
  cases found : peers.lookup peer with
  | none => simp [found]
  | some announcements => cases announcements <;> simp [found]

theorem known_insert {peers : PeerTable} {peer other : PeerId}
    {announcements : List PeerAnnouncement} (known : Known peers other)
    (grown : Known peers peer → announcements ≠ []) :
    Known (peers.insert peer announcements) other := by
  unfold Known
  rw [lookup_insert_getD]
  split_ifs with same
  · exact grown (same ▸ known)
  · exact known

theorem push_announcement_nonempty (known : List PeerAnnouncement)
    (announcement : PeerAnnouncement) : pushAnnouncement known announcement ≠ [] := by
  unfold pushAnnouncement
  split_ifs with listed
  · intro same
    subst same
    simp at listed
  · simp

theorem push_all_nonempty {known : List PeerAnnouncement} (nonempty : known ≠ [])
    (addresses : List PeerAddress) :
    addresses.foldl (fun known address => pushAnnouncement known ⟨address, none⟩) known ≠ [] := by
  induction addresses generalizing known with
  | nil => exact nonempty
  | cons address rest ih => exact ih (push_announcement_nonempty _ _)

theorem known_exchange {peers : PeerTable} {other : PeerId} (known : Known peers other)
    (peer : PeerId) (addresses : List PeerAddress) :
    Known (upsertPeerAddresses peers peer addresses) other :=
  known_insert known fun listed => push_all_nonempty listed addresses

theorem known_discovered {peers : PeerTable} {other : PeerId} (known : Known peers other)
    (peer : PeerId) (announcement : PeerAnnouncement) :
    Known (pushDiscovered peers peer announcement) other :=
  known_insert known fun _ => by simp

theorem discovered_known (peers : PeerTable) (peer : PeerId) (announcement : PeerAnnouncement) :
    Known (pushDiscovered peers peer announcement) peer := by
  simp [Known, pushDiscovered]

/-! ## The invariant -/

def Drain.Ready (peers : PeerTable) (drain : Drain) : Prop :=
  (∀ dest ∈ drain.rest, Known peers dest) ∧
    ∀ batch ∈ drain.batch, Known peers batch.dest ∧ batch.failures = [] ∧
      ∀ view ∈ batch.view, view.2 ≠ []

def StoreState.Waiting (state : StoreState) (dest : PeerId) (entry : Entry) : Prop :=
  entry ∈ state.queue dest ∨
    ∃ caller ∈ state.callers, caller.dest = dest ∧ caller.entry = entry ∧ caller.phase = .enqueue

/-- The watcher is still going to take the queue of this peer. -/
def WakeState.Awaited (state : WakeState) (dest : PeerId) : Prop :=
  dest ∈ state.events ∨ ∃ drain ∈ state.store.drains, dest ∈ drain.rest

structure Wakeful (state : WakeState) : Prop where
  fired : ∀ record ∈ state.fired,
    Known state.store.peers record.1 ∧ record.2 ≤ state.store.accepted.length
  events : ∀ peer ∈ state.events, Known state.store.peers peer
  connecting : ∀ peer ∈ state.connecting, Known state.store.peers peer
  attempts : ∀ caller ∈ state.store.callers, ∀ targets, caller.phase = .attempting targets →
    targets ≠ []
  drains : ∀ drain ∈ state.store.drains, drain.Ready state.store.peers
  awaited : ∀ dest entry, state.store.Waiting dest entry → state.FiredSince dest entry →
    state.Awaited dest

/-! ## Steps of the store -/

section StoreSteps

variable {config : StoreConfig} {state : WakeState} {next : StoreState} {label : StoreLabel}

theorem wakeful_store (wakeful : Wakeful state) (peers : next.peers = state.store.peers)
    (begun : state.store.accepted.length ≤ next.accepted.length)
    (attempts : ∀ caller ∈ next.callers, ∀ targets, caller.phase = .attempting targets →
      targets ≠ [])
    (drains : ∀ drain ∈ next.drains, drain.Ready state.store.peers)
    (awaited : ∀ dest entry, next.Waiting dest entry → state.FiredSince dest entry →
      WakeState.Awaited { state with store := next } dest) :
    Wakeful { state with store := next } := by
  refine ⟨fun record listed => ?_, ?_, ?_, attempts, ?_, awaited⟩
  · rcases wakeful.fired record listed with ⟨known, earlier⟩
    exact ⟨peers ▸ known, earlier.trans begun⟩
  · exact peers ▸ wakeful.events
  · exact peers ▸ wakeful.connecting
  · exact peers ▸ drains

theorem wakeful_caller_gone {index : Nat} (wakeful : Wakeful state)
    (peers : next.peers = state.store.peers) (accepted : next.accepted = state.store.accepted)
    (callers : next.callers = state.store.callers.eraseIdx index)
    (drains : next.drains = state.store.drains)
    (queued : ∀ dest entry, entry ∈ next.queue dest → state.store.Waiting dest entry) :
    Wakeful { state with store := next } := by
  refine wakeful_store wakeful peers (by rw [accepted]) ?_ ?_ ?_
  · rw [callers]
    exact fun other listed => wakeful.attempts other (List.mem_of_mem_eraseIdx listed)
  · rw [drains]
    exact wakeful.drains
  · intro dest entry waiting since
    have before : state.store.Waiting dest entry := by
      rcases waiting with listed | ⟨caller, listed, same⟩
      · exact queued dest entry listed
      · rw [callers] at listed
        exact .inr ⟨caller, List.mem_of_mem_eraseIdx listed, same⟩
    simpa [WakeState.Awaited, drains] using wakeful.awaited dest entry before since

theorem wakeful_looked {index : Nat} {caller : Caller} (direct : config.policy = directStore)
    (wakeful : Wakeful state) :
    Wakeful { state with store := state.store.lookupTargets config index caller } := by
  refine wakeful_store wakeful rfl le_rfl ?_ wakeful.drains ?_
  · intro other listed targets phase
    rcases List.mem_or_eq_of_mem_set listed with old | rfl
    · exact wakeful.attempts other old targets phase
    · dsimp only at phase
      split_ifs at phase with empty
      cases phase
      simpa using empty
  · intro dest entry waiting since
    refine wakeful.awaited dest entry ?_ since
    rcases waiting with queued | ⟨other, listed, rfl, rfl, phase⟩
    · exact .inl queued
    · rcases List.mem_or_eq_of_mem_set listed with old | rfl
      · exact .inr ⟨other, old, rfl, rfl, phase⟩
      · -- The lookup found no address although the peer had been announced.
        rcases since with ⟨count, record, -⟩
        have known := (wakeful.fired _ record).1
        dsimp only at phase
        rw [direct] at phase
        split_ifs at phase with empty
        exact absurd known (direct_targets_empty.mp empty)

theorem any_succeeds {results : List Bool} {targets : List Target}
    (all : results.all id = true) (complete : results.length = targets.length)
    (reached : targets ≠ []) : results.any id = true := by
  cases results with
  | nil => exact absurd (List.length_eq_zero_iff.mp complete.symm) reached
  | cons result rest => simp_all

theorem wakeful_attempted {index : Nat} {caller : Caller} {targets : List Target}
    {results : List Bool} (wakeful : Wakeful state)
    (present : state.store.callers[index]? = some caller)
    (phase : caller.phase = .attempting targets) (complete : results.length = targets.length)
    (succeeds : results.all id = true) :
    Wakeful { state with store := state.store.attempt config index caller targets results } := by
  have reached := wakeful.attempts caller (List.mem_of_getElem? present) targets phase
  have any := any_succeeds succeeds complete reached
  have callers : (state.store.attempt config index caller targets results).callers =
      state.store.callers.eraseIdx index := by
    simp [StoreState.attempt, any]
  have frame := @attempt_frame config state.store index caller targets results
  refine wakeful_caller_gone wakeful frame.peers frame.accepted callers frame.drains ?_
  intro dest entry queued
  rw [queue_eq_of_pending _ frame.pending] at queued
  exact .inl queued

theorem wakeful_enqueued {index : Nat} {caller : Caller} (wakeful : Wakeful state)
    (present : state.store.callers[index]? = some caller) (phase : caller.phase = .enqueue) :
    Wakeful { state with store := state.store.enqueue config index caller } := by
  have frame := @enqueue_frame config state.store index caller
  have callers := @enqueue_callers config state.store index caller
  refine wakeful_caller_gone wakeful frame.peers frame.accepted callers frame.drains ?_
  intro dest entry queued
  rw [queue_enqueue] at queued
  split_ifs at queued with appended
  · rcases List.mem_append.mp queued with old | new
    · exact .inl old
    · exact .inr ⟨caller, List.mem_of_getElem? present, appended.1.symm,
        (List.mem_singleton.mp new).symm, phase⟩
  · exact .inl queued

theorem wakeful_drain {index : Nat} {old new : Drain} (wakeful : Wakeful state)
    (present : state.store.drains[index]? = some old)
    (drains : next.drains = state.store.drains.set index new) (rest : new.rest = old.rest)
    (ready : new.Ready state.store.peers) (peers : next.peers = state.store.peers)
    (accepted : next.accepted = state.store.accepted)
    (callers : next.callers = state.store.callers)
    (queues : ∀ dest, next.queue dest = state.store.queue dest) :
    Wakeful { state with store := next } := by
  refine wakeful_store wakeful peers (by rw [accepted]) ?_ ?_ ?_
  · rw [callers]
    exact wakeful.attempts
  · rw [drains]
    exact drains_set wakeful.drains ready
  · intro dest entry waiting since
    unfold StoreState.Waiting at waiting
    rw [callers, queues] at waiting
    rcases wakeful.awaited dest entry waiting since with unread | taking
    · exact .inl unread
    · refine .inr ?_
      rw [drains]
      exact exists_mem_set present taking (fun listed => rest ▸ listed)

theorem wakeful_took {index : Nat} {dest : PeerId} {rest : List PeerId} (wakeful : Wakeful state)
    (present : state.store.drains[index]? = some { rest := dest :: rest, batch := none })
    (allowed : takesAfterEnqueue state (.store (.take index))) :
    Wakeful { state with store := state.store.take index dest rest } := by
  have frame := take_frame state.store index dest rest
  rcases wakeful.drains _ (List.mem_of_getElem? present) with ⟨knownAll, -⟩
  have known := knownAll dest (List.mem_cons_self ..)
  have knownRest : ∀ other ∈ rest, Known state.store.peers other :=
    fun other listed => knownAll other (List.mem_cons_of_mem _ listed)
  have drains := take_drains state.store index dest rest
  refine wakeful_store wakeful frame.peers (by rw [frame.accepted]) ?_ ?_ ?_
  · rw [frame.callers]
    exact wakeful.attempts
  · rw [drains]
    apply drains_set wakeful.drains
    refine ⟨knownRest, fun batch held => ?_⟩
    obtain ⟨entries, -, rfl⟩ := Option.map_eq_some_iff.mp held
    exact ⟨known, rfl, by simp [StoreState.newBatch]⟩
  · intro other entry waiting since
    unfold StoreState.Waiting at waiting
    rw [frame.callers, queue_take] at waiting
    by_cases same : other = dest
    · -- The queue is empty now, so only a call can still be about to append.
      subst same
      rcases waiting with queued | ⟨caller, listed, sameDest, -, phase⟩
      · simp at queued
      · exact .inl (allowed _ present other rfl caller listed sameDest phase)
    · rw [if_neg same] at waiting
      rcases wakeful.awaited other entry waiting since with unread | taking
      · exact .inl unread
      · refine .inr ?_
        rw [drains]
        apply exists_mem_set present taking
        intro listed
        exact (List.mem_cons.mp listed).resolve_left same

theorem wakeful_processed {index now : Nat} {rest : List PeerId} {batch : Batch}
    {targets : List Target} {entry : Entry} {todo : List Entry} {results : List Bool}
    (wakeful : Wakeful state)
    (present : state.store.drains[index]? = some { rest := rest, batch := some batch })
    (read : batch.view = some (now, targets)) (complete : results.length = targets.length)
    (succeeds : results.all id = true) :
    Wakeful { state with
      store := state.store.process config index rest batch now targets entry todo results } := by
  have frame :=
    @process_frame config state.store index now targets results rest batch entry todo
  rcases wakeful.drains _ (List.mem_of_getElem? present) with ⟨knownRest, ready⟩
  rcases ready batch rfl with ⟨known, clean, viewed⟩
  have reached : targets ≠ [] := viewed _ read
  have any := any_succeeds succeeds complete reached
  have drains : (state.store.process config index rest batch now targets entry todo results).drains =
      state.store.drains.set index { rest := rest, batch := some { batch with todo := todo } } := by
    unfold StoreState.process
    simp only [any, List.isEmpty_iff, reached, if_true, if_false]
    split_ifs <;> rfl
  refine wakeful_drain wakeful present drains rfl ⟨knownRest, ?_⟩ frame.peers frame.accepted
    frame.callers (queue_eq_of_pending _ frame.pending)
  intro kept same
  cases same
  exact ⟨known, clean, viewed⟩

theorem wakeful_finished {index : Nat} {rest : List PeerId} {batch : Batch}
    (wakeful : Wakeful state)
    (present : state.store.drains[index]? = some { rest := rest, batch := some batch }) :
    Wakeful { state with store := state.store.finish index rest batch } := by
  have frame := finish_frame state.store index rest batch
  rcases wakeful.drains _ (List.mem_of_getElem? present) with ⟨knownRest, ready⟩
  rcases ready batch rfl with ⟨-, clean, -⟩
  refine wakeful_drain wakeful present (finish_drains ..) rfl ⟨knownRest, by simp⟩ frame.peers
    frame.accepted frame.callers fun dest => ?_
  rw [queue_finish, clean]
  simp

theorem wakeful_retired {index : Nat} (wakeful : Wakeful state)
    (present : state.store.drains[index]? = some { rest := [], batch := none }) :
    Wakeful { state with
      store := { state.store with drains := state.store.drains.eraseIdx index } } := by
  refine wakeful_store wakeful rfl le_rfl wakeful.attempts ?_ ?_
  · exact fun drain listed => wakeful.drains drain (List.mem_of_mem_eraseIdx listed)
  · intro dest entry waiting since
    rcases wakeful.awaited dest entry waiting since with unread | ⟨drain, listed, going⟩
    · exact .inl unread
    · obtain ⟨position, found⟩ := List.getElem?_of_mem listed
      refine .inr ⟨drain, List.mem_eraseIdx_iff_getElem?.mpr ⟨position, ?_, found⟩, going⟩
      intro same
      subst same
      rw [present] at found
      cases found
      simp at going

theorem wakeful_moved (direct : config.policy = directStore) (wakeful : Wakeful state)
    (allowed : takesAfterEnqueue state (.store label)) (succeeds : sendsSucceed label = true)
    (moved : StoreMove config state.store label next) : Wakeful { state with store := next } := by
  cases moved with
  | accepted =>
      refine wakeful_store wakeful rfl (by simp [StoreState.accept]) ?_ wakeful.drains ?_
      · intro caller listed targets phase
        rcases List.mem_append.mp listed with old | new
        · exact wakeful.attempts caller old targets phase
        · rw [List.mem_singleton.mp new] at phase
          cases phase
      · intro dest entry given since
        rcases given with queued | ⟨caller, listed, same, sameEntry, phase⟩
        · exact wakeful.awaited dest entry (.inl queued) since
        · rcases List.mem_append.mp listed with old | new
          · exact wakeful.awaited dest entry (.inr ⟨caller, old, same, sameEntry, phase⟩) since
          · rw [List.mem_singleton.mp new] at phase
            cases phase
  | looked present phase => exact wakeful_looked direct wakeful
  | attempted present phase complete =>
      exact wakeful_attempted wakeful present phase complete succeeds
  | enqueued present phase => exact wakeful_enqueued wakeful present phase
  | spawned => cases succeeds
  | took present => exact wakeful_took wakeful present allowed
  | @viewed index now rest batch present unread =>
      rcases wakeful.drains _ (List.mem_of_getElem? present) with ⟨knownRest, ready⟩
      rcases ready batch rfl with ⟨known, clean, -⟩
      refine wakeful_drain wakeful present rfl rfl ⟨knownRest, ?_⟩ rfl rfl rfl fun _ => rfl
      intro read same
      cases same
      refine ⟨known, clean, ?_⟩
      intro view same empty
      cases same
      refine absurd known (direct_targets_empty.mp ?_)
      rw [direct] at empty
      exact List.isEmpty_iff.mpr empty
  | processed present head read complete =>
      exact wakeful_processed wakeful present read complete succeeds
  | finished present done => exact wakeful_finished wakeful present
  | retired present => exact wakeful_retired wakeful present
  | peersChanged => cases succeeds

end StoreSteps

/-! ## Steps of the system -/

section Steps

variable {config : StoreConfig} {state next : WakeState} {label : WakeLabel}

theorem ready_grown {peers grown : PeerTable} {drain : Drain}
    (grows : ∀ peer, Known peers peer → Known grown peer) (ready : drain.Ready peers) :
    drain.Ready grown := by
  refine ⟨fun dest listed => grows dest (ready.1 dest listed), fun batch held => ?_⟩
  rcases ready.2 batch held with ⟨known, rest⟩
  exact ⟨grows _ known, rest⟩

theorem wakeful_grown {peers : PeerTable}
    (grows : ∀ peer, Known state.store.peers peer → Known peers peer) (wakeful : Wakeful state) :
    Wakeful { state with store := { state.store with peers := peers } } where
  fired record listed := ⟨grows _ (wakeful.fired record listed).1, (wakeful.fired record listed).2⟩
  events peer listed := grows peer (wakeful.events peer listed)
  connecting peer listed := grows peer (wakeful.connecting peer listed)
  attempts := wakeful.attempts
  drains drain listed := ready_grown grows (wakeful.drains drain listed)
  awaited := wakeful.awaited

theorem wakeful_inserted (peer : PeerId) (announcement : PeerAnnouncement)
    (wakeful : Wakeful state) :
    Wakeful { state with
      store := { state.store with peers := pushDiscovered state.store.peers peer announcement }
      connecting := state.connecting ++ [peer] } := by
  have grown := wakeful_grown (fun _ known => known_discovered known peer announcement) wakeful
  refine ⟨grown.fired, grown.events, ?_, grown.attempts, grown.drains, grown.awaited⟩
  intro other listed
  rcases List.mem_append.mp listed with old | new
  · exact grown.connecting other old
  · rw [List.mem_singleton.mp new]
    exact discovered_known _ _ _

theorem wakeful_fired {peer : PeerId} (wakeful : Wakeful state) (listed : peer ∈ state.connecting) :
    Wakeful { state with
      connecting := state.connecting.erase peer
      events := state.events ++ [peer]
      fired := state.fired ++ [(peer, state.store.accepted.length)] } := by
  have known := wakeful.connecting peer listed
  constructor
  · intro record recorded
    rcases List.mem_append.mp recorded with old | new
    · exact wakeful.fired record old
    · rw [List.mem_singleton.mp new]
      exact ⟨known, le_rfl⟩
  · intro other unread
    rcases List.mem_append.mp unread with old | new
    · exact wakeful.events other old
    · rw [List.mem_singleton.mp new]
      exact known
  · exact fun other rest => wakeful.connecting other (List.mem_of_mem_erase rest)
  · exact wakeful.attempts
  · exact wakeful.drains
  · intro dest entry waiting given
    rcases given with ⟨count, recorded, earlier⟩
    rcases List.mem_append.mp recorded with old | new
    · rcases wakeful.awaited dest entry waiting ⟨count, old, earlier⟩ with unread | taking
      · exact .inl (List.mem_append_left _ unread)
      · exact .inr taking
    · cases List.mem_singleton.mp new
      exact .inl (List.mem_append_right _ (List.mem_singleton_self _))

theorem wakeful_woke {peer : PeerId} {events : List PeerId} (wakeful : Wakeful state)
    (unread : state.events = peer :: events) :
    Wakeful { state with
      store := { state.store with
        drains := state.store.drains ++ [{ rest := [peer], batch := none }] }
      events := events } := by
  have known : ∀ other ∈ peer :: events, Known state.store.peers other := unread ▸ wakeful.events
  refine ⟨wakeful.fired, ?_, wakeful.connecting, wakeful.attempts, ?_, ?_⟩
  · exact fun other listed => known other (List.mem_cons_of_mem _ listed)
  · intro drain listed
    rcases List.mem_append.mp listed with old | new
    · exact wakeful.drains drain old
    · rw [List.mem_singleton.mp new]
      simpa [Drain.Ready] using known peer (List.mem_cons_self ..)
  · intro dest entry waiting since
    rcases wakeful.awaited dest entry waiting since with waking | ⟨drain, listed, going⟩
    · rw [unread] at waking
      rcases List.mem_cons.mp waking with rfl | later
      · exact .inr ⟨_, List.mem_append_right _ (List.mem_singleton_self _), by simp⟩
      · exact .inl later
    · exact .inr ⟨drain, List.mem_append_left _ listed, going⟩

theorem wakeful_step (direct : config.policy = directStore) (wakeful : Wakeful state)
    (allowed : takesAfterEnqueue state label) (taken : wakeStep config state label = some next) :
    Wakeful next := by
  cases label with
  | store label =>
      simp only [wakeStep] at taken
      split_ifs at taken with succeeds
      obtain ⟨store, stepped, rfl⟩ := Option.map_eq_some_iff.mp taken
      exact wakeful_moved direct wakeful allowed succeeds (store_step_moves stepped)
  | insert peer announcement =>
      cases taken
      exact wakeful_inserted peer announcement wakeful
  | exchange peer addresses =>
      cases taken
      exact wakeful_grown (fun _ known => known_exchange known peer addresses) wakeful
  | fire peer =>
      simp only [wakeStep] at taken
      split_ifs at taken with listed
      cases taken
      exact wakeful_fired wakeful listed
  | wake =>
      simp only [wakeStep] at taken
      split at taken
      · split_ifs at taken
        cases taken
        exact wakeful_woke wakeful (by assumption)
      · cases taken

/-- Every step of the system is one of the store or leaves the store alone. -/
theorem wake_step_store (taken : wakeStep config state label = some next) :
    next.store = state.store ∨
      ∃ stored, StoreMove config state.store stored next.store := by
  cases label with
  | store label =>
      simp only [wakeStep] at taken
      split_ifs at taken
      obtain ⟨store, stepped, rfl⟩ := Option.map_eq_some_iff.mp taken
      exact .inr ⟨label, store_step_moves stepped⟩
  | insert peer announcement =>
      cases taken
      exact .inr ⟨_, .peersChanged⟩
  | exchange peer addresses =>
      cases taken
      exact .inr ⟨_, .peersChanged⟩
  | fire peer =>
      simp only [wakeStep] at taken
      split_ifs at taken
      cases taken
      exact .inl rfl
  | wake =>
      simp only [wakeStep] at taken
      split at taken
      · split_ifs at taken
        cases taken
        exact .inr ⟨_, .spawned⟩
      · cases taken

end Steps

/-! ## Whole runs -/

theorem run_wakeful {config : StoreConfig} (direct : config.policy = directStore)
    {peers : PeerTable} {labels : List WakeLabel} {state : WakeState}
    (run : Run (wakeStep config) takesAfterEnqueue (.start peers) labels state) :
    Wakeful state ∧ Conserved state.store := by
  refine run_invariant (fun state => Wakeful state ∧ Conserved state.store) ?_ run ?_
  · intro before label after held allowed taken
    rcases held with ⟨wakeful, conserved⟩
    refine ⟨wakeful_step direct wakeful allowed taken, ?_⟩
    rcases wake_step_store taken with same | ⟨stored, moved⟩
    · rwa [same]
    · exact conserved_step conserved moved
  · refine ⟨?_, start_conserved peers⟩
    constructor <;>
      simp [WakeState.start, StoreState.start, StoreState.Waiting, StoreState.queue]

theorem wakeful_quiescent {state : WakeState} {dest : PeerId} {entry : Entry}
    (wakeful : Wakeful state) (quiescent : state.Quiescent)
    (since : state.FiredSince dest entry) : entry ∉ state.store.queue dest := by
  rcases quiescent with ⟨-, noDrains, -, noEvents⟩
  intro queued
  rcases wakeful.awaited dest entry (.inl queued) since with unread | ⟨drain, listed, -⟩
  · simp [noEvents] at unread
  · simp [noDrains] at listed

/-- With no call and no drain running, an accepted payload is queued, sent or failed. -/
theorem conserved_quiescent {state : StoreState} {dest : PeerId} {entry : Entry}
    (conserved : Conserved state) (noCallers : state.callers = []) (noDrains : state.drains = [])
    (accepted : (dest, entry) ∈ state.accepted) :
    entry ∈ state.queue dest ∨ (dest, entry) ∈ state.sent ∨ (dest, entry) ∈ state.storeFailed := by
  have held : (dest, entry) ∈ state.held := by
    rw [conserved]
    exact accepted
  simp only [StoreState.held, StoreState.attempting, StoreState.batched, noCallers, noDrains,
    weigh_nil, zero_add, add_zero, Multiset.mem_add, Multiset.mem_coe] at held
  rcases held with (queued | sent) | failed
  · exact .inl (mem_queued queued)
  · exact .inr (.inl sent)
  · exact .inr (.inr failed)

/-- Unless the watcher takes a queue just before a call appends to it, with no
further event for that peer to come, nothing is stranded: at rest, the payload of a
call that began before `PeerConnected` was fired is not in the queue, and it was
sent unless it was dropped with `StoreFailed`. -/
theorem announced_payload_discharged (config : StoreConfig) (direct : config.policy = directStore)
    (peers : PeerTable) (labels : List WakeLabel) (state : WakeState)
    (run : Run (wakeStep config) takesAfterEnqueue (.start peers) labels state)
    (quiescent : state.Quiescent) (dest : PeerId) (entry : Entry)
    (accepted : (dest, entry) ∈ state.store.accepted) (since : state.FiredSince dest entry) :
    state.Discharged dest entry := by
  rcases run_wakeful direct run with ⟨wakeful, conserved⟩
  have absent := wakeful_quiescent wakeful quiescent since
  refine ⟨absent, fun kept => ?_⟩
  rcases conserved_quiescent conserved quiescent.1 quiescent.2.1 accepted with
    queued | sent | failed
  · exact absurd queued absent
  · exact sent
  · exact absurd failed kept

/-! ## A wake-up that comes too early -/

instance (state : WakeState) (label : WakeLabel) : Decidable (takesAfterEnqueue state label) :=
  match label with
  | .store (.take index) =>
      inferInstanceAs (Decidable (∀ drain ∈ state.store.drains[index]?,
        ∀ dest ∈ drain.rest.head?, ∀ caller ∈ state.store.callers, caller.dest = dest →
          caller.phase = .enqueue → dest ∈ state.events))
  | .store (.accept ..) | .store (.lookup _) | .store (.attempt ..) | .store (.enqueue _)
  | .store (.spawnDrain _) | .store (.view ..) | .store (.process ..) | .store (.finish _)
  | .store (.retire _) | .store (.changePeers _)
  | .insert .. | .exchange .. | .fire _ | .wake => .isTrue trivial

instance (state : WakeState) : Decidable state.Quiescent :=
  inferInstanceAs (Decidable (_ ∧ _ ∧ _ ∧ _))

instance (state : WakeState) (dest : PeerId) (entry : Entry) :
    Decidable (state.FiredSince dest entry) :=
  decidable_of_iff (∃ record ∈ state.fired, record.1 = dest ∧ entry.call < record.2) <| by
    constructor
    · intro given
      rcases given with ⟨⟨peer, count⟩, listed, rfl, earlier⟩
      exact ⟨count, listed, earlier⟩
    · intro given
      rcases given with ⟨count, listed, earlier⟩
      exact ⟨(dest, count), listed, rfl, earlier⟩

/-- A call that finds the peer unknown, which is announced right after. -/
def announcedDuringCall : List WakeLabel :=
  [.store (.accept (samplePeer 2) [42] sampleEntropy 0), .store (.lookup 0),
    .insert (samplePeer 2) ⟨.ble "b", none⟩, .fire (samplePeer 2)]

def appendedThenTaken : List WakeLabel :=
  [.store (.enqueue 0), .wake, .store (.take 0), .store (.view 0 5), .store (.process 0 [true]),
    .store (.finish 0), .store (.retire 0)]

def takenThenAppended : List WakeLabel :=
  [.wake, .store (.take 0), .store (.retire 0), .store (.enqueue 0)]

def announcedEntry : Entry where
  call := 0
  msgId := newMessageId sampleEntropy
  payload := [42]
  queuedAt := 0

theorem announced_payload_discharged_sample :
    ∃ state, Run (wakeStep openStore) takesAfterEnqueue (.start ∅)
        (announcedDuringCall ++ appendedThenTaken) state ∧
      state.store.sent = [(samplePeer 2, announcedEntry)] ∧
      state.Discharged (samplePeer 2) announcedEntry := by
  have finished : ((execute (fun state label =>
      if takesAfterEnqueue state label then wakeStep openStore state label else none) (.start ∅)
        (announcedDuringCall ++ appendedThenTaken)).map fun state => decide
          ((state.Quiescent ∧ (samplePeer 2, announcedEntry) ∈ state.store.accepted) ∧
            state.FiredSince (samplePeer 2) announcedEntry ∧
            state.store.sent = [(samplePeer 2, announcedEntry)])) = some true := by
    decide +kernel
  obtain ⟨state, reached, found⟩ := Option.map_eq_some_iff.mp finished
  rcases of_decide_eq_true found with ⟨⟨quiescent, accepted⟩, since, sent⟩
  have run := run_of_execute_guarded reached
  exact ⟨state, run, sent, announced_payload_discharged openStore rfl ∅ _ state run quiescent _ _
    accepted since⟩

/-- The watcher drains between the lookup and the append, and no event is left to
wake it again. -/
theorem payload_stranded : ¬ NoStrandedPayload := by
  intro discharged
  have finished : ((execute (wakeStep openStore) (.start ∅)
      (announcedDuringCall ++ takenThenAppended)).map fun state => decide
        ((state.Quiescent ∧ (samplePeer 2, announcedEntry) ∈ state.store.accepted) ∧
          state.FiredSince (samplePeer 2) announcedEntry ∧
          announcedEntry ∈ state.store.queue (samplePeer 2))) = some true := by
    decide +kernel
  obtain ⟨state, reached, found⟩ := Option.map_eq_some_iff.mp finished
  rcases of_decide_eq_true found with ⟨⟨quiescent, accepted⟩, since, queued⟩
  have gone := discharged openStore ∅ _ state rfl (run_of_execute reached) quiescent _ _
    accepted since
  exact gone.1 queued

end Pathweave
