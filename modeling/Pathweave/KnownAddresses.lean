import Pathweave.DepartureOwners

/-!
# Addresses that discovery has seen

An announced address is known from its arrival on and later announcements of it are
skipped. It is forgotten when its handshake fails, or by a departure while some peer
is listed with it. Nothing else forgets it.
-/

namespace Pathweave

open ByteStrings GuardedRuns

set_option autoImplicit false

variable {prims : Primitives}

theorem departure_known_iff {state next : NodeWorld prims} {address : PeerAddress}
    (taken : nodeStep state (.departure address) = some next) :
    address ∈ next.knownAddrs ↔
      address ∈ state.knownAddrs ∧ ∀ peer, ¬ Lists state.node.peers peer address := by
  simp only [nodeStep] at taken
  cases found : ownerOf state.node.peers address with
  | none =>
      simp only [found, Option.some.injEq] at taken
      subst taken
      simp [owner_in_none found]
  | some peer =>
      simp only [found, Option.some.injEq] at taken
      subst taken
      have listed : Lists state.node.peers peer address :=
        owner_in_some_order.mp ⟨_, List.Perm.refl _, found⟩
      simp only [NodeWorld.emit, Finset.mem_erase, ne_eq, not_true_eq_false, false_and, false_iff,
        not_and, not_forall, not_not]
      exact fun _ => ⟨peer, listed⟩

def Task.discovers (address : PeerAddress) : Task prims → Bool
  | .connecting (.discovery announcement) => decide (announcement.address = address)
  | _ => false

/-- The address is known and no discovery of it is running that could still fail. -/
structure HeldKnown (address : PeerAddress) (state : NodeWorld prims) : Prop where
  known : address ∈ state.knownAddrs
  settled : ∀ task ∈ state.tasks, task.discovers address = false

def otherThanDeparture (address : PeerAddress) (_ : NodeWorld prims) (label : NodeLabel) : Prop :=
  label ≠ .departure address

section Steps

variable {address : PeerAddress} {state next : NodeWorld prims} {index : Nat} {task : Task prims}

theorem held_next (held : HeldKnown address state) (known : address ∈ next.knownAddrs)
    (tasks : ∀ task ∈ next.tasks, task ∈ state.tasks ∨ task.discovers address = false) :
    HeldKnown address next where
  known := known
  settled := by
    intro task member
    rcases tasks task member with old | idle
    · exact held.settled task old
    · exact idle

theorem set_cases {tasks : List (Task prims)} {after other : Task prims}
    (idle : after.discovers address = false) (member : other ∈ tasks.set index after) :
    other ∈ tasks ∨ other.discovers address = false := by
  rcases List.mem_or_eq_of_mem_set member with old | rfl
  · exact .inl old
  · exact .inr idle

theorem spawn_cases {tasks : List (Task prims)} {after other : Task prims}
    (idle : after.discovers address = false) (member : other ∈ tasks ++ [after]) :
    other ∈ tasks ∨ other.discovers address = false := by
  rcases List.mem_append.mp member with old | new
  · exact .inl old
  · rw [List.mem_singleton] at new
    exact .inr (new ▸ idle)

theorem end_cases {tasks : List (Task prims)} {other : Task prims}
    (member : other ∈ tasks.eraseIdx index) : other ∈ tasks ∨ other.discovers address = false :=
  .inl (List.mem_of_mem_eraseIdx member)

theorem dial_failed_held {reason : DialReason} (held : HeldKnown address state)
    (present : state.tasks[index]? = some (.connecting reason)) :
    HeldKnown address (dialFailed state index reason) := by
  cases reason with
  | connect announcement => exact held_next held held.known fun _ => end_cases
  | discovery announcement =>
      have apart : announcement.address ≠ address := by
        simpa [Task.discovers] using held.settled _ (List.mem_of_getElem? present)
      exact held_next held (Finset.mem_erase.mpr ⟨apart.symm, held.known⟩) fun _ => end_cases

theorem handshake_held {remote : Remote} (held : HeldKnown address state)
    (present : state.tasks[index]? = some task)
    (taken : handshakeStep state index remote task = some next) : HeldKnown address next := by
  cases task with
  | dialing send remoteKey =>
      simp only [handshakeStep] at taken
      split at taken
      · cases taken
        exact held_next held held.known fun _ => end_cases
      · cases taken
        exact held_next held held.known fun _ => set_cases rfl
  | connecting reason =>
      simp only [handshakeStep] at taken
      split at taken
      · cases taken
        exact dial_failed_held held present
      · cases taken
        exact held_next held held.known fun _ => set_cases rfl
  | _ => cases taken

theorem exchange_held {exchanged : Option (List PeerAddress)} (held : HeldKnown address state)
    (taken : exchangeStep state index exchanged task = some next) : HeldKnown address next := by
  cases task with
  | exchanging _ _ _ | connectExchanging _ _ _ =>
      cases taken
      exact held_next held held.known fun _ => set_cases rfl
  | _ => cases taken

theorem acknowledge_held {link : Option Error} {reply : Received} (held : HeldKnown address state)
    (taken : acknowledgeStep state index link reply task = some next) :
    HeldKnown address next := by
  cases task with
  | delivering send session isNewKey =>
      unfold acknowledgeStep at taken
      dsimp only at taken
      split at taken <;>
      · cases taken
        exact held_next held held.known fun _ => end_cases
  | _ => cases taken

theorem proceed_held (held : HeldKnown address state)
    (taken : proceedStep state index task = some next) : HeldKnown address next := by
  cases task with
  | connected reason session isNewKey =>
      cases reason with
      | connect announcement =>
          cases taken
          exact held_next held held.known fun _ => set_cases rfl
      | discovery announcement =>
          simp only [proceedStep] at taken
          split_ifs at taken
          · cases taken
            exact held_next held held.known fun _ => end_cases
          · cases taken
            exact held_next held held.known fun _ => set_cases rfl
  | recording announcement peer =>
      cases taken
      exact held_next held (Finset.mem_insert_of_mem held.known) fun _ => set_cases rfl
  | sending _ | accepted _ _ =>
      cases taken
      exact held_next held held.known fun _ => set_cases rfl
  | listing _ _ | notifying _ _ =>
      cases taken
      exact held_next held held.known fun _ => end_cases
  | _ => cases taken

theorem dispatch_held {session : Session prims} {payload : Bytes} {now : Nat}
    (held : HeldKnown address state)
    (taken : dispatchStep state index session payload now = some next) :
    HeldKnown address next := by
  unfold dispatchStep at taken
  rw [dispatch_payload_eq] at taken
  split_ifs at taken
  cases taken
  refine held_next held held.known ?_
  intro task member
  rcases List.mem_append.mp member with changed | relay
  · exact set_cases rfl changed
  · obtain ⟨send, _, rfl⟩ := List.mem_map.mp relay
    exact .inr rfl

theorem receive_held {payload : Bytes} {now : Nat} (held : HeldKnown address state)
    (taken : receiveStep state index payload now task = some next) : HeldKnown address next := by
  cases task with
  | awaitingFirst session =>
      simp only [receiveStep] at taken
      split_ifs at taken
      · split at taken
        · cases taken
        · cases taken
          exact held_next held held.known fun _ => set_cases rfl
      · exact dispatch_held held taken
  | serving session => exact dispatch_held held taken
  | _ => cases taken

theorem held_step {label : NodeLabel} (held : HeldKnown address state)
    (allowed : otherThanDeparture address state label)
    (taken : nodeStep state label = some next) : HeldKnown address next := by
  cases label with
  | onMessage =>
      cases taken
      exact held_next held held.known fun _ => .inl
  | call send =>
      cases taken
      exact held_next held held.known fun _ => spawn_cases rfl
  | connect announcement =>
      cases taken
      exact held_next held held.known fun _ => spawn_cases rfl
  | addPeer peer announcement =>
      cases taken
      exact held_next held (Finset.mem_insert_of_mem held.known) fun _ => spawn_cases rfl
  | arrival announcement =>
      simp only [nodeStep] at taken
      split_ifs at taken with skipped
      · cases taken
        exact held
      · cases taken
        have apart : announcement.address ≠ address := by
          rintro rfl
          exact skipped held.known
        exact held_next held (Finset.mem_insert_of_mem held.known) fun _ =>
          spawn_cases (by simpa [Task.discovers] using apart)
  | departure departed =>
      have apart : departed ≠ address := by
        rintro rfl
        exact allowed rfl
      simp only [nodeStep] at taken
      split at taken
      · cases taken
        exact held_next held (Finset.mem_erase.mpr ⟨apart.symm, held.known⟩) fun _ => .inl
      · cases taken
        exact held
  | accept remoteKey =>
      cases taken
      exact held_next held held.known fun _ => spawn_cases rfl
  | unreachable index =>
      obtain ⟨task, present, stepped⟩ := Option.bind_eq_some_iff.mp taken
      cases task with
      | dialing _ _ =>
          cases stepped
          exact held_next held held.known fun _ => end_cases
      | connecting reason =>
          cases stepped
          exact dial_failed_held held present
      | _ => cases stepped
  | handshake index remote =>
      obtain ⟨task, present, stepped⟩ := Option.bind_eq_some_iff.mp taken
      exact handshake_held held present stepped
  | exchange index reply =>
      simp only [nodeStep] at taken
      split at taken
      · cases taken
      · obtain ⟨task, present, stepped⟩ := Option.bind_eq_some_iff.mp taken
        exact exchange_held held stepped
  | delivery index link reply =>
      obtain ⟨task, present, stepped⟩ := Option.bind_eq_some_iff.mp taken
      exact acknowledge_held held stepped
  | proceed index =>
      obtain ⟨task, present, stepped⟩ := Option.bind_eq_some_iff.mp taken
      exact proceed_held held stepped
  | receive index payload now =>
      obtain ⟨task, present, stepped⟩ := Option.bind_eq_some_iff.mp taken
      exact receive_held held stepped
  | close index =>
      obtain ⟨task, present, stepped⟩ := Option.bind_eq_some_iff.mp taken
      cases task with
      | awaitingFirst _ | serving _ =>
          cases stepped
          exact held_next held held.known fun _ => end_cases
      | _ => cases stepped

end Steps

/-- Without its departure an address stays known, and announcements of it are skipped. -/
theorem held_until_departure {address : PeerAddress} {first last : NodeWorld prims}
    {labels : List NodeLabel} (held : HeldKnown address first)
    (run : Run nodeStep (otherThanDeparture address) first labels last) :
    HeldKnown address last ∧
      ∀ shortId, nodeStep last (.arrival ⟨address, shortId⟩) = some last := by
  have kept : HeldKnown address last :=
    run_invariant (HeldKnown address) (fun _ _ _ => held_step) run held
  refine ⟨kept, ?_⟩
  intro shortId
  simp [nodeStep, kept.known]

end Pathweave
