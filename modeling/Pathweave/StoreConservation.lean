import Mathlib.Data.Multiset.AddSub
import Mathlib.Tactic.Abel
import Pathweave.StoreForward

/-!
# No payload is lost and none is doubled

Who holds a payload is a multiset; every step hands payloads from one holder to
another and creates none but the one a call accepts. Since calls are numbered,
each accepted payload is in exactly one place at every moment.
-/

namespace Pathweave

open ByteStrings GuardedRuns Weights

set_option autoImplicit false

variable {config : StoreConfig} {state next : StoreState} {label : StoreLabel}

/-! ## The places a payload can be in -/

def itemsFor (dest : PeerId) (entries : List Entry) : Multiset Item :=
  ↑(entries.map (Prod.mk dest))

@[simp] theorem items_for_nil (dest : PeerId) : itemsFor dest [] = 0 := rfl

@[simp] theorem items_for_append (dest : PeerId) (left right : List Entry) :
    itemsFor dest (left ++ right) = itemsFor dest left + itemsFor dest right := by
  simp [itemsFor]

@[simp] theorem items_for_cons (dest : PeerId) (entry : Entry) (entries : List Entry) :
    itemsFor dest (entry :: entries) = {(dest, entry)} + itemsFor dest entries := by
  simp [itemsFor, ← Multiset.cons_coe]

def Caller.item (caller : Caller) : Multiset Item := {(caller.dest, caller.entry)}

def Batch.held (batch : Batch) : Multiset Item := itemsFor batch.dest (batch.failures ++ batch.todo)

def Drain.held (drain : Drain) : Multiset Item :=
  match drain.batch with
  | some batch => batch.held
  | none => 0

namespace StoreState

def attempting (state : StoreState) : Multiset Item := weigh Caller.item state.callers

def queued (state : StoreState) : Multiset Item := weighMap itemsFor state.pending

def batched (state : StoreState) : Multiset Item := weigh Drain.held state.drains

def held (state : StoreState) : Multiset Item :=
  state.attempting + state.queued + state.batched + ↑state.sent + ↑state.storeFailed

end StoreState

/-! ## Every step conserves payloads -/

theorem batched_same {index : Nat} {old drain : Drain} (present : state.drains[index]? = some old)
    (same : drain.held = old.held) :
    weigh Drain.held (state.drains.set index drain) = state.batched :=
  weigh_set_same _ present same

theorem batched_lost {index : Nat} {old drain : Drain} {amount : Multiset Item}
    (present : state.drains[index]? = some old) (lost : old.held = drain.held + amount) :
    weigh Drain.held (state.drains.set index drain) + amount = state.batched :=
  weigh_set_lost _ present lost

theorem queue_weight (dest : PeerId) :
    weighAt itemsFor dest (state.pending.lookup dest) = itemsFor dest (state.queue dest) := by
  unfold StoreState.queue
  cases state.pending.lookup dest <;> rfl

theorem queued_insert {dest : PeerId} {entries : List Entry} {amount : Multiset Item}
    (gained : itemsFor dest entries = itemsFor dest (state.queue dest) + amount) :
    weighMap itemsFor (state.pending.insert dest entries) = state.queued + amount :=
  weigh_map_insert_gained _ (by rw [queue_weight, gained])

theorem queued_erase {dest : PeerId} {entries : List Entry}
    (found : state.pending.lookup dest = some entries) :
    weighMap itemsFor (state.pending.erase dest) + itemsFor dest entries = state.queued := by
  have erased := weigh_map_erase itemsFor state.pending dest
  rwa [found] at erased

theorem attempting_same {index : Nat} {caller : Caller} (phase : CallerPhase)
    (present : state.callers[index]? = some caller) :
    weigh Caller.item (state.callers.set index { caller with phase := phase }) =
      state.attempting :=
  weigh_set_same _ present rfl

theorem attempting_left {index : Nat} {caller : Caller}
    (present : state.callers[index]? = some caller) :
    weigh Caller.item (state.callers.eraseIdx index) + {(caller.dest, caller.entry)} =
      state.attempting :=
  weigh_eraseIdx Caller.item present

theorem conserve_attempt {index : Nat} {caller : Caller} (targets : List Target)
    (results : List Bool) (present : state.callers[index]? = some caller) :
    (state.attempt config index caller targets results).held = state.held := by
  unfold StoreState.attempt
  dsimp only
  split_ifs
  · rw [StoreState.held, StoreState.held, ← attempting_left present]
    simp only [StoreState.attempting, StoreState.queued, StoreState.batched, ← Multiset.coe_add,
      Multiset.coe_singleton]
    abel
  · rw [StoreState.held, StoreState.held, ← attempting_same .enqueue present]
    rfl

theorem conserve_enqueue {index : Nat} {caller : Caller}
    (present : state.callers[index]? = some caller) :
    (state.enqueue config index caller).held = state.held := by
  unfold StoreState.enqueue
  split_ifs
  · have unchanged := @queued_insert state caller.dest (state.queue caller.dest) 0 (by simp)
    rw [StoreState.held, StoreState.held, ← attempting_left present]
    simp only [StoreState.attempting, StoreState.batched, ← Multiset.coe_add,
      Multiset.coe_singleton]
    rw [StoreState.queued, unchanged]
    abel
  · have gained := @queued_insert state caller.dest (state.queue caller.dest ++ [caller.entry])
      {(caller.dest, caller.entry)} (by simp)
    rw [StoreState.held, StoreState.held, ← attempting_left present]
    simp only [StoreState.attempting, StoreState.batched]
    rw [StoreState.queued, gained]
    abel

theorem conserve_take {index : Nat} {dest : PeerId} {rest : List PeerId}
    (present : state.drains[index]? = some { rest := dest :: rest, batch := none }) :
    (state.take index dest rest).held = state.held := by
  unfold StoreState.take
  cases found : state.pending.lookup dest with
  | none =>
      have same := @batched_same state index _ { rest := rest, batch := none } present rfl
      rw [StoreState.held, StoreState.held, ← same]
      rfl
  | some entries =>
      have left := queued_erase found
      have gained := @weigh_set _ _ _ Drain.held _ _ _
        { rest := rest, batch := some (state.newBatch dest entries) } present
      simp only [Drain.held, Batch.held, StoreState.newBatch, List.nil_append, add_zero] at gained
      rw [StoreState.held, StoreState.held, ← left]
      simp only [StoreState.setDrain, StoreState.attempting, StoreState.queued,
        StoreState.batched, StoreState.newBatch]
      rw [gained]
      abel

theorem conserve_process {index now : Nat} {rest : List PeerId} {batch : Batch}
    {targets : List Target} {entry : Entry} {todo : List Entry} {results : List Bool}
    (present : state.drains[index]? = some { rest := rest, batch := some batch })
    (head : batch.todo = entry :: todo) :
    (state.process config index rest batch now targets entry todo results).held = state.held := by
  have left := @batched_lost state index _
    { rest := rest, batch := some { batch with todo := todo } } {(batch.dest, entry)} present (by
      simp only [Drain.held, Batch.held, head, items_for_append, items_for_cons]
      abel)
  have kept := @batched_same state index _
    { rest := rest
      batch := some { batch with todo := todo, failures := batch.failures ++ [entry] } } present (by
        simp [Drain.held, Batch.held, head])
  unfold StoreState.process
  dsimp only
  split_ifs
  all_goals rw [StoreState.held, StoreState.held]
  all_goals first
    | rw [← kept]; rfl
    | rw [← left]
      simp only [StoreState.setDrain, StoreState.attempting, StoreState.queued, StoreState.batched,
        ← Multiset.coe_add, Multiset.coe_singleton]
      abel

theorem conserve_finish {index : Nat} {rest : List PeerId} {batch : Batch}
    (present : state.drains[index]? = some { rest := rest, batch := some batch })
    (done : batch.todo = []) : (state.finish index rest batch).held = state.held := by
  have left := @batched_lost state index _ { rest := rest, batch := none }
    (itemsFor batch.dest batch.failures) present (by simp [Drain.held, Batch.held, done])
  unfold StoreState.finish
  dsimp only
  split_ifs with clean
  · rw [List.isEmpty_iff.mp clean, items_for_nil, add_zero] at left
    rw [StoreState.held, StoreState.held, ← left]
    rfl
  · have gained := @queued_insert state batch.dest (batch.failures ++ state.queue batch.dest)
      (itemsFor batch.dest batch.failures) (by rw [items_for_append, add_comm])
    rw [StoreState.held, StoreState.held, ← left]
    simp only [StoreState.setDrain, StoreState.attempting, StoreState.queued, StoreState.batched,
      StoreState.queue] at gained ⊢
    rw [gained]
    abel

theorem mem_weigh {Holder : Type*} {weight : Holder → Multiset Item} {holders : List Holder}
    {item : Item} : item ∈ weigh weight holders ↔ ∃ holder ∈ holders, item ∈ weight holder := by
  induction holders with
  | nil => simp
  | cons holder rest ih => simp [ih]

theorem mem_queued {state : StoreState} {dest : PeerId} {entry : Entry}
    (held : (dest, entry) ∈ state.queued) : entry ∈ state.queue dest := by
  rcases mem_weigh.mp held with ⟨⟨key, entries⟩, listed, inside⟩
  obtain ⟨other, own, same⟩ := List.mem_map.mp (Multiset.mem_coe.mp inside)
  cases same
  have found : state.pending.lookup key = some entries :=
    AList.mem_lookup_iff.mpr listed
  rw [StoreState.queue, found]
  exact own

/-- Everything accepted is held somewhere, and nothing else is. -/
def Conserved (state : StoreState) : Prop := state.held = ↑state.accepted

theorem conserved_step (conserved : Conserved state) (moved : StoreMove config state label next) :
    Conserved next := by
  unfold Conserved at conserved ⊢
  cases moved with
  | accepted =>
      rw [StoreState.held] at conserved
      simp only [StoreState.accept, StoreState.held, StoreState.attempting, StoreState.queued,
        StoreState.batched, weigh_append, weigh_cons, weigh_nil, ← Multiset.coe_add,
        Multiset.coe_singleton, ← conserved, Caller.item]
      abel
  | looked present phase =>
      rw [StoreState.held, ← attempting_same _ present] at conserved
      exact conserved
  | attempted present phase =>
      rw [conserve_attempt _ _ present, conserved, (attempt_frame ..).accepted]
  | enqueued present phase => rw [conserve_enqueue present, conserved, (enqueue_frame ..).accepted]
  | spawned =>
      simpa [StoreState.held, StoreState.attempting, StoreState.queued, StoreState.batched,
        Drain.held] using conserved
  | took present => rw [conserve_take present, conserved, (take_frame ..).accepted]
  | @viewed index now rest batch present unread =>
      have same := @batched_same state index _
        { rest := rest
          batch := some { batch with
            view := some (now, config.policy.targets state.peers batch.dest) } } present rfl
      rw [StoreState.held, ← same] at conserved
      exact conserved
  | processed present head read =>
      rw [conserve_process present head, conserved, (process_frame ..).accepted]
  | finished present done => rw [conserve_finish present done, conserved, (finish_frame ..).accepted]
  | retired present =>
      have left := weigh_eraseIdx Drain.held present
      simp only [Drain.held, add_zero] at left
      rw [StoreState.held, StoreState.batched, ← left] at conserved
      exact conserved
  | peersChanged => exact conserved

/-! ## Calls and message ids -/

def Numbered (state : StoreState) : Prop :=
  (state.accepted.map fun item => item.2.call) = List.range state.accepted.length

theorem accepted_step (moved : StoreMove config state label next) :
    next.accepted = state.accepted ∨
      ∃ dest entry, next.accepted = state.accepted ++ [(dest, entry)] ∧
        entry.call = state.accepted.length := by
  cases moved with
  | accepted => exact .inr ⟨_, _, rfl, rfl⟩
  | attempted => exact .inl (attempt_frame ..).accepted
  | enqueued => exact .inl (enqueue_frame ..).accepted
  | took => exact .inl (take_frame ..).accepted
  | processed => exact .inl (process_frame ..).accepted
  | finished => exact .inl (finish_frame ..).accepted
  | _ => exact .inl rfl

theorem numbered_step (numbered : Numbered state) (moved : StoreMove config state label next) :
    Numbered next := by
  unfold Numbered at numbered ⊢
  rcases accepted_step moved with same | ⟨dest, entry, appended, call⟩
  · rw [same, numbered]
  · rw [appended, List.map_append, numbered, List.length_append, List.length_singleton,
      List.range_succ, List.map_singleton, call]

theorem accepted_nodup (numbered : Numbered state) : state.accepted.Nodup := by
  apply List.Nodup.of_map (fun item : Item => item.2.call)
  rw [numbered]
  exact List.nodup_range

def SendsKeepIds (state : StoreState) : Prop :=
  ∀ record ∈ state.sends, ∃ dest, (dest, record.1) ∈ state.accepted ∧
    record.2.messageId = record.1.msgId

theorem mem_attempt_sends {dest : PeerId} {entry : Entry} {targets : List Target}
    {record : Entry × RouterSend}
    (listed : record ∈ StoreState.attemptSends config dest entry targets) :
    record.1 = entry ∧ record.2.messageId = entry.msgId ∧
      record.2.payload = config.policy.body dest entry.payload := by
  obtain ⟨target, -, rfl⟩ := List.mem_map.mp listed
  exact ⟨rfl, rfl, rfl⟩

theorem sends_step (moved : StoreMove config state label next) :
    next.sends = state.sends ∨
      ∃ dest entry targets, (dest, entry) ∈ state.held ∧
        next.sends = state.sends ++ StoreState.attemptSends config dest entry targets := by
  cases moved with
  | @attempted index caller targets results present phase =>
      refine .inr ⟨caller.dest, caller.entry, targets, ?_, ?_⟩
      · rw [StoreState.held, ← attempting_left present]
        simp
      · unfold StoreState.attempt
        dsimp only
        split_ifs <;> rfl
  | enqueued => exact .inl (enqueue_frame ..).sends
  | took => exact .inl (take_frame ..).sends
  | @processed index now rest batch targets entry todo results present head read =>
      have holding : (batch.dest, entry) ∈ state.held := by
        have left := @batched_lost state index _
          { rest := rest, batch := some { batch with todo := todo } } {(batch.dest, entry)}
          present (by
            simp only [Drain.held, Batch.held, head, items_for_append, items_for_cons]
            abel)
        rw [StoreState.held, ← left]
        simp
      unfold StoreState.process
      dsimp only
      split_ifs
      · exact .inl rfl
      · exact .inl rfl
      · exact .inr ⟨batch.dest, entry, targets, holding, rfl⟩
      · exact .inr ⟨batch.dest, entry, targets, holding, rfl⟩
  | finished => exact .inl (finish_frame ..).sends
  | _ => exact .inl rfl

theorem accepted_mono (moved : StoreMove config state label next) {item : Item}
    (listed : item ∈ state.accepted) : item ∈ next.accepted := by
  rcases accepted_step moved with same | ⟨dest, entry, appended, -⟩
  · rwa [same]
  · rw [appended]
    exact List.mem_append_left _ listed

theorem sends_keep_ids_step (conserved : Conserved state) (kept : SendsKeepIds state)
    (moved : StoreMove config state label next) : SendsKeepIds next := by
  have old : ∀ record ∈ state.sends, ∃ dest, (dest, record.1) ∈ next.accepted ∧
      record.2.messageId = record.1.msgId := by
    intro record listed
    rcases kept record listed with ⟨dest, accepted, same⟩
    exact ⟨dest, accepted_mono moved accepted, same⟩
  intro record listed
  rcases sends_step moved with same | ⟨dest, entry, targets, holding, appended⟩
  · exact old record (same ▸ listed)
  · rw [appended] at listed
    rcases List.mem_append.mp listed with earlier | now
    · exact old record earlier
    · rcases mem_attempt_sends now with ⟨rfl, sameId, -⟩
      have accepted : (dest, record.1) ∈ state.accepted := by
        rw [Conserved] at conserved
        rwa [conserved, Multiset.mem_coe] at holding
      exact ⟨dest, accepted_mono moved accepted, sameId⟩

/-! ## Whole runs -/

theorem start_conserved (peers : PeerTable) : Conserved (.start peers) := by
  simp [Conserved, StoreState.held, StoreState.attempting, StoreState.queued,
    StoreState.batched, StoreState.start]

theorem run_conserved {guard : StoreState → StoreLabel → Prop} {peers : PeerTable}
    {labels : List StoreLabel}
    (run : Run (storeStep config) guard (.start peers) labels state) :
    Conserved state ∧ Numbered state ∧ SendsKeepIds state := by
  refine run_invariant (fun state => Conserved state ∧ Numbered state ∧ SendsKeepIds state)
    ?_ run ?_
  · intro before label after given _ taken
    rcases given with ⟨conserved, numbered, kept⟩
    have moved := store_step_moves taken
    exact ⟨conserved_step conserved moved, numbered_step numbered moved,
      sends_keep_ids_step conserved kept moved⟩
  · exact ⟨start_conserved peers, rfl, by simp [SendsKeepIds, StoreState.start]⟩

/-- In every interleaving, each accepted payload is in exactly one place: with its
caller, in the pending queue, in the batch of one drain, finished by a successful
send, or finished by a `StoreFailed` event. Nothing else is in any place, and
every send carries the id that the payload was accepted with. -/
theorem payload_in_one_place (config : StoreConfig) (peers : PeerTable)
    (labels : List StoreLabel) (state : StoreState)
    (run : Run (storeStep config) anyStep (.start peers) labels state) :
    (∀ item ∈ state.accepted,
      state.attempting.count item + state.queued.count item + state.batched.count item +
        (state.sent : Multiset Item).count item +
        (state.storeFailed : Multiset Item).count item = 1) ∧
    (∀ item ∈ state.held, item ∈ state.accepted) ∧
    (state.accepted.map fun item => item.2.call).Nodup ∧
    (∀ record ∈ state.sends, ∃ dest, (dest, record.1) ∈ state.accepted ∧
      record.2.messageId = record.1.msgId) := by
  rcases run_conserved run with ⟨conserved, numbered, kept⟩
  refine ⟨fun item listed => ?_, fun item holding => ?_, ?_, kept⟩
  · have once := Multiset.count_eq_one_of_mem (Multiset.coe_nodup.mpr (accepted_nodup numbered))
      (Multiset.mem_coe.mpr listed)
    rw [← conserved] at once
    simpa only [StoreState.held, Multiset.count_add] using once
  · rwa [conserved, Multiset.mem_coe] at holding
  · rw [numbered]
    exact List.nodup_range

/-- A payload for an unknown peer is queued, and a drain that finds the peer
sends it. -/
def queuedThenSent : List StoreLabel :=
  [.accept (samplePeer 2) [42] sampleEntropy 0, .lookup 0, .enqueue 0,
    .changePeers (upsertPeerAddresses ∅ (samplePeer 2) [.ble "b"]),
    .spawnDrain [samplePeer 2], .take 0, .view 0 5, .process 0 [true], .finish 0, .retire 0]

theorem payload_in_one_place_sample :
    ∃ state, execute (storeStep openStore) (.start ∅) queuedThenSent = some state ∧
      state.sent = state.accepted ∧
      ∀ item ∈ state.accepted,
        state.attempting.count item + state.queued.count item + state.batched.count item +
          (state.sent : Multiset Item).count item +
          (state.storeFailed : Multiset Item).count item = 1 := by
  have finished : ((execute (storeStep openStore) (.start ∅) queuedThenSent).map
      fun state => decide (state.sent = state.accepted)) = some true := by
    decide +kernel
  obtain ⟨state, reached, sent⟩ := Option.map_eq_some_iff.mp finished
  exact ⟨state, reached, of_decide_eq_true sent,
    (payload_in_one_place openStore ∅ queuedThenSent state (run_of_execute reached)).1⟩

end Pathweave
