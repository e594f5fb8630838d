import Pathweave.BroadcastRouting
import Pathweave.BundleRoundTrip

/-!
# What a dispatcher forwards

A dispatcher knows a repetition by its source, the hash of its payload and the time
since it was recorded. The bundle layer numbers its bundles from 0 on each connection,
so a peer that connects again sends frames it has sent before. Frames are forwarded
exactly once, whatever the repetitions of the medium, exactly when equal frames are
first seen at least the lifetime of an entry apart.
-/

namespace Pathweave

open ByteStrings GuardedRuns

set_option autoImplicit false

/-! ## The loop -/

structure Sighting where
  seenAt : Nat
  packet : Bytes
  deriving DecidableEq

/-- What `dispatch_loop` remembers after the sightings, and what it has forwarded. -/
def dispatchLoop (hashPayload : Bytes → UInt64) (localShortId : ShortId) :
    RecentPackets → List Sighting → RecentPackets × List (ShortId × Bytes)
  | recent, [] => (recent, [])
  | recent, sighting :: rest =>
      let (recorded, passed) :=
        scanPacket hashPayload localShortId recent sighting.packet sighting.seenAt
      let (final, forwarded) := dispatchLoop hashPayload localShortId recorded rest
      (final, passed.toList ++ forwarded)

def payloadsFrom (peer : ShortId) (forwarded : List (ShortId × Bytes)) : List Bytes :=
  (forwarded.filter fun packet => decide (packet.1 = peer)).map Prod.snd

theorem payloads_from_append (peer : ShortId) (forwarded later : List (ShortId × Bytes)) :
    payloadsFrom peer (forwarded ++ later) =
      payloadsFrom peer forwarded ++ payloadsFrom peer later := by
  simp [payloadsFrom]

variable {hashPayload : Bytes → UInt64} {localShortId peer : ShortId}

theorem dispatch_loop_snoc {recent recorded : RecentPackets} {sightings : List Sighting}
    {sighting : Sighting} {passed : Option (ShortId × Bytes)}
    (scanned : scanPacket hashPayload localShortId
      (dispatchLoop hashPayload localShortId recent sightings).1 sighting.packet
        sighting.seenAt = (recorded, passed)) :
    dispatchLoop hashPayload localShortId recent (sightings ++ [sighting]) =
      (recorded, (dispatchLoop hashPayload localShortId recent sightings).2 ++ passed.toList) := by
  induction sightings generalizing recent with
  | nil =>
      rw [dispatchLoop] at scanned
      simp [dispatchLoop, scanned]
  | cons first rest ih =>
      rw [dispatchLoop] at scanned
      simp only [List.cons_append, dispatchLoop, ih scanned, List.append_assoc]

theorem payloads_from_loop_cons (recent : RecentPackets) (sighting : Sighting)
    (rest : List Sighting) :
    payloadsFrom peer (dispatchLoop hashPayload localShortId recent (sighting :: rest)).2 =
      payloadsFrom peer
          (scanPacket hashPayload localShortId recent sighting.packet sighting.seenAt).2.toList ++
        payloadsFrom peer (dispatchLoop hashPayload localShortId
          (scanPacket hashPayload localShortId recent sighting.packet sighting.seenAt).1 rest).2 :=
  payloads_from_append ..

theorem payloads_from_loop_length (recent : RecentPackets) (medium : List Sighting) :
    (payloadsFrom peer (dispatchLoop hashPayload localShortId recent medium).2).length ≤
      medium.length := by
  induction medium generalizing recent with
  | nil => exact Nat.le_refl 0
  | cons sighting rest ih =>
      have single : ∀ passed : Option (ShortId × Bytes),
          (payloadsFrom peer passed.toList).length ≤ 1 := by
        intro passed
        unfold payloadsFrom
        rw [List.length_map]
        apply Nat.le_trans (List.length_filter_le ..)
        cases passed <;> simp
      rw [payloads_from_loop_cons, List.length_append, List.length_cons, Nat.add_comm]
      exact Nat.add_le_add (ih _) (single _)

/-! ## The medium -/

structure FirstSighting where
  seenAt : Nat
  frame : Bytes
  deriving DecidableEq

def packetFrom (localShortId peer : ShortId) (frame : Bytes) : Bytes :=
  encodeHeader localShortId peer ++ frame

def sourceOf (packet : Bytes) : Option ShortId :=
  (decodeHeader packet).map fun decoded => decoded.2.1

/-- From an instant on, with the last new frame given, the medium shows the pending
frames in order, each followed by repetitions before the next one. Packets of other
sources and packets without a header may come in between. -/
inductive Shows (localShortId peer : ShortId) :
    Option FirstSighting → Nat → List FirstSighting → List Sighting → Prop where
  | silent {current : Option FirstSighting} {now : Nat} :
      Shows localShortId peer current now [] []
  | other {current : Option FirstSighting} {now : Nat} {pending : List FirstSighting}
      {sighting : Sighting} {rest : List Sighting} (later : now ≤ sighting.seenAt)
      (foreign : sourceOf sighting.packet ≠ some peer)
      (following : Shows localShortId peer current sighting.seenAt pending rest) :
      Shows localShortId peer current now pending (sighting :: rest)
  | again {first : FirstSighting} {now seenAt : Nat} {pending : List FirstSighting}
      {rest : List Sighting} (later : now ≤ seenAt) (soon : seenAt < first.seenAt + seconds 2)
      (following : Shows localShortId peer (some first) seenAt pending rest) :
      Shows localShortId peer (some first) now pending
        ({ seenAt := seenAt, packet := packetFrom localShortId peer first.frame } :: rest)
  | next {current : Option FirstSighting} {now : Nat} {first : FirstSighting}
      {pending : List FirstSighting} {rest : List Sighting} (later : now ≤ first.seenAt)
      (following : Shows localShortId peer (some first) first.seenAt pending rest) :
      Shows localShortId peer current now (first :: pending)
        ({ seenAt := first.seenAt, packet := packetFrom localShortId peer first.frame } :: rest)

def Spaced (firsts : List FirstSighting) : Prop :=
  firsts.Pairwise fun early late =>
    early.frame = late.frame → early.seenAt + broadcastDedupTtl ≤ late.seenAt

instance (firsts : List FirstSighting) : Decidable (Spaced firsts) :=
  inferInstanceAs (Decidable (firsts.Pairwise _))

/-! ## One packet -/

def checkFrame (hashPayload : Bytes → UInt64) (peer : ShortId) (recent : RecentPackets)
    (frame : Bytes) (now : Nat) : Bool × RecentPackets :=
  checkAndInsertKey broadcastDedupTtl now (peer, hashPayload frame) recent

theorem scan_frame (foreign : peer ≠ localShortId) (recent : RecentPackets) (frame : Bytes)
    (now : Nat) :
    scanPacket hashPayload localShortId recent (packetFrom localShortId peer frame) now =
      ((checkFrame hashPayload peer recent frame now).2,
        if (checkFrame hashPayload peer recent frame now).1 then none
        else some (peer, frame)) := by
  unfold checkFrame
  simp only [scanPacket, packetFrom, decode_encode_header, if_neg foreign, if_true]
  split_ifs <;> rfl

theorem forwarded_repeated (foreign : peer ≠ localShortId) {recent : RecentPackets}
    {frame : Bytes} {now : Nat} (rest : List Sighting)
    (found : (checkFrame hashPayload peer recent frame now).1 = true) :
    payloadsFrom peer (dispatchLoop hashPayload localShortId recent
        ({ seenAt := now, packet := packetFrom localShortId peer frame } :: rest)).2 =
      payloadsFrom peer (dispatchLoop hashPayload localShortId
        (checkFrame hashPayload peer recent frame now).2 rest).2 := by
  rw [payloads_from_loop_cons, scan_frame foreign, found]
  rfl

theorem forwarded_first (foreign : peer ≠ localShortId) {recent : RecentPackets}
    {frame : Bytes} {now : Nat} (rest : List Sighting)
    (unseen : (checkFrame hashPayload peer recent frame now).1 = false) :
    payloadsFrom peer (dispatchLoop hashPayload localShortId recent
        ({ seenAt := now, packet := packetFrom localShortId peer frame } :: rest)).2 =
      frame :: payloadsFrom peer (dispatchLoop hashPayload localShortId
        (checkFrame hashPayload peer recent frame now).2 rest).2 := by
  rw [payloads_from_loop_cons, scan_frame foreign, unseen]
  simp [payloadsFrom]

theorem scan_other {packet : Bytes} (foreign : sourceOf packet ≠ some peer)
    (recent : RecentPackets) (now : Nat) :
    payloadsFrom peer (scanPacket hashPayload localShortId recent packet now).2.toList = [] ∧
      ∀ hash inserted,
        ((scanPacket hashPayload localShortId recent packet now).1 (peer, hash) = some inserted →
          recent (peer, hash) = some inserted) ∧
        (recent (peer, hash) = some inserted →
          (scanPacket hashPayload localShortId recent packet now).1 (peer, hash) = some inserted ∨
            inserted + broadcastDedupTtl ≤ now) := by
  have kept : ∀ hash inserted,
      (recent (peer, hash) = some inserted → recent (peer, hash) = some inserted) ∧
      (recent (peer, hash) = some inserted → recent (peer, hash) = some inserted ∨
        inserted + broadcastDedupTtl ≤ now) :=
    fun _ _ => ⟨id, Or.inl⟩
  unfold scanPacket
  split
  · exact ⟨rfl, kept⟩
  · rename_i dest source payload decoded
    have different : source ≠ peer := by
      intro same
      apply foreign
      simp [sourceOf, decoded, same]
    have checked : ∀ hash inserted,
        ((checkAndInsertKey broadcastDedupTtl now (source, hashPayload payload) recent).2
            (peer, hash) = some inserted → recent (peer, hash) = some inserted) ∧
        (recent (peer, hash) = some inserted →
          (checkAndInsertKey broadcastDedupTtl now (source, hashPayload payload) recent).2
            (peer, hash) = some inserted ∨ inserted + broadcastDedupTtl ≤ now) := by
      intro hash inserted
      apply And.intro _ check_keeps
      intro entry
      cases check_entry entry with
      | inl old => exact old
      | inr made => exact absurd (Prod.mk.inj made.2.1).1.symm different
    dsimp only
    split_ifs
    · exact ⟨rfl, kept⟩
    · exact ⟨rfl, checked⟩
    · apply And.intro _ checked
      simp [payloadsFrom, different]
    · exact ⟨rfl, checked⟩

/-- A packet with the local source is never forwarded. -/
theorem own_payloads_ignored (recent : RecentPackets) (medium : List Sighting) :
    payloadsFrom localShortId (dispatchLoop hashPayload localShortId recent medium).2 = [] := by
  induction medium generalizing recent with
  | nil => rfl
  | cons sighting rest ih =>
      rw [payloads_from_loop_cons, ih, List.append_nil]
      unfold scanPacket
      split
      · rfl
      · dsimp only
        split_ifs with own
        · rfl
        · rfl
        · simp [payloadsFrom, own]
        · rfl

/-! ## Spaced frames are forwarded once -/

/-- The entries of the peer are first sightings, and the frame shown last is still
there unless it has expired. -/
structure RemembersFirsts (hashPayload : Bytes → UInt64) (peer : ShortId) (recent : RecentPackets)
    (shown : List FirstSighting) (current : Option FirstSighting) (now : Nat) : Prop where
  known : ∀ hash inserted, recent (peer, hash) = some inserted →
    ∃ first ∈ shown, hashPayload first.frame = hash ∧ first.seenAt = inserted
  held : ∀ first, current = some first →
    recent (peer, hashPayload first.frame) = some first.seenAt ∨
      first.seenAt + broadcastDedupTtl ≤ now

theorem remembered_other {recent : RecentPackets} {shown : List FirstSighting}
    {current : Option FirstSighting} {now : Nat} {sighting : Sighting}
    (remembered : RemembersFirsts hashPayload peer recent shown current now)
    (later : now ≤ sighting.seenAt) (foreign : sourceOf sighting.packet ≠ some peer) :
    RemembersFirsts hashPayload peer
      (scanPacket hashPayload localShortId recent sighting.packet sighting.seenAt).1 shown current
      sighting.seenAt where
  known := by
    intro hash inserted entry
    exact remembered.known hash inserted (((scan_other foreign recent _).2 hash inserted).1 entry)
  held := by
    intro first same
    cases remembered.held first same with
    | inl entry => exact ((scan_other foreign recent _).2 _ _).2 entry
    | inr expired => exact .inr (Nat.le_trans expired later)

theorem remembered_again {recent : RecentPackets} {shown : List FirstSighting}
    {first : FirstSighting} {now seenAt : Nat}
    (remembered : RemembersFirsts hashPayload peer recent shown (some first) now)
    (later : now ≤ seenAt) (soon : seenAt < first.seenAt + seconds 2) :
    (checkFrame hashPayload peer recent first.frame seenAt).1 = true ∧
      RemembersFirsts hashPayload peer
        (checkFrame hashPayload peer recent first.frame seenAt).2 shown (some first) seenAt := by
  have entry : recent (peer, hashPayload first.frame) = some first.seenAt := by
    cases remembered.held first rfl with
    | inl entry => exact entry
    | inr expired => exact absurd soon (Nat.not_lt.mpr (Nat.le_trans expired later))
  have found : (checkFrame hashPayload peer recent first.frame seenAt).1 = true :=
    check_duplicate entry soon
  apply And.intro found
  constructor
  · intro hash inserted after
    cases check_entry after with
    | inl old => exact remembered.known hash inserted old
    | inr made => exact absurd (found.symm.trans made.2.2) (by decide)
  · intro other same
    cases same
    exact check_keeps entry

theorem remembered_next {recent : RecentPackets} {shown pending : List FirstSighting}
    {current : Option FirstSighting} {now : Nat} {first : FirstSighting}
    (remembered : RemembersFirsts hashPayload peer recent shown current now)
    (spaced : Spaced (shown ++ first :: pending))
    (injective : ∀ other ∈ shown, hashPayload other.frame = hashPayload first.frame →
      other.frame = first.frame) :
    (checkFrame hashPayload peer recent first.frame first.seenAt).1 = false ∧
      RemembersFirsts hashPayload peer
        (checkFrame hashPayload peer recent first.frame first.seenAt).2 (shown ++ [first])
        (some first) first.seenAt := by
  have unseen : (checkFrame hashPayload peer recent first.frame first.seenAt).1 = false := by
    apply check_first
    intro inserted entry
    obtain ⟨other, listed, sameHash, time⟩ := remembered.known _ _ entry
    have apart := (List.pairwise_append.mp spaced).2.2 other listed first List.mem_cons_self
      (injective other listed sameHash)
    have expired : ¬fresh broadcastDedupTtl first.seenAt inserted = true := by
      rw [fresh_iff]
      omega
    exact Bool.eq_false_iff.mpr expired
  apply And.intro unseen
  constructor
  · intro hash inserted entry
    cases check_entry entry with
    | inl old =>
        obtain ⟨other, listed, facts⟩ := remembered.known hash inserted old
        exact ⟨other, List.mem_append_left _ listed, facts⟩
    | inr made =>
        obtain ⟨time, key, -⟩ := made
        exact ⟨first, by simp, (Prod.mk.inj key).2.symm, time.symm⟩
  · intro other same
    cases same
    exact .inl (check_records unseen)

theorem spaced_forwarded_once (foreign : peer ≠ localShortId) {recent : RecentPackets}
    {shown pending : List FirstSighting} {current : Option FirstSighting} {now : Nat}
    {medium : List Sighting} (shows : Shows localShortId peer current now pending medium)
    (remembered : RemembersFirsts hashPayload peer recent shown current now)
    (spaced : Spaced (shown ++ pending))
    (injective : ∀ one ∈ shown ++ pending, ∀ other ∈ shown ++ pending,
      hashPayload one.frame = hashPayload other.frame → one.frame = other.frame) :
    payloadsFrom peer (dispatchLoop hashPayload localShortId recent medium).2 =
      pending.map FirstSighting.frame := by
  induction shows generalizing recent shown with
  | silent => rfl
  | other later unrelated following ih =>
      rw [payloads_from_loop_cons, (scan_other unrelated recent _).1]
      exact ih (remembered_other remembered later unrelated) spaced injective
  | again later soon following ih =>
      obtain ⟨found, after⟩ := remembered_again remembered later soon
      rw [forwarded_repeated foreign _ found]
      exact ih after spaced injective
  | @next current now first pending rest later following ih =>
      have facts := remembered_next remembered spaced (fun other listed => injective other
        (List.mem_append_left _ listed) first (by simp))
      obtain ⟨unseen, after⟩ := facts
      have shift : shown ++ first :: pending = shown ++ [first] ++ pending := by simp
      rw [shift] at spaced injective
      rw [forwarded_first foreign _ unseen, ih after spaced injective, List.map_cons]

/-! ## Frames forwarded once are spaced -/

def quietMedium (localShortId peer : ShortId) (firsts : List FirstSighting) : List Sighting :=
  firsts.map fun first =>
    { seenAt := first.seenAt, packet := packetFrom localShortId peer first.frame }

def SeenInOrder (firsts : List FirstSighting) : Prop :=
  firsts.Pairwise fun early late => early.seenAt ≤ late.seenAt

instance (firsts : List FirstSighting) : Decidable (SeenInOrder firsts) :=
  inferInstanceAs (Decidable (firsts.Pairwise _))

theorem shows_quiet {current : Option FirstSighting} {now : Nat} {firsts : List FirstSighting}
    (later : ∀ first ∈ firsts, now ≤ first.seenAt) (ordered : SeenInOrder firsts) :
    Shows localShortId peer current now firsts (quietMedium localShortId peer firsts) := by
  induction firsts generalizing current now with
  | nil => exact .silent
  | cons first rest ih =>
      have parts := List.pairwise_cons.mp ordered
      exact .next (later first List.mem_cons_self) (ih parts.1 parts.2)

theorem spaced_of_forwarded (foreign : peer ≠ localShortId) {recent : RecentPackets}
    {firsts : List FirstSighting} (ordered : SeenInOrder firsts)
    (forwarded : payloadsFrom peer (dispatchLoop hashPayload localShortId recent
      (quietMedium localShortId peer firsts)).2 = firsts.map FirstSighting.frame) :
    (∀ first ∈ firsts, ∀ inserted, recent (peer, hashPayload first.frame) = some inserted →
      inserted + broadcastDedupTtl ≤ first.seenAt) ∧ Spaced firsts := by
  induction firsts generalizing recent with
  | nil =>
      constructor
      · intro first listed
        cases listed
      · exact List.Pairwise.nil
  | cons first rest ih =>
      have parts := List.pairwise_cons.mp ordered
      rw [quietMedium, List.map_cons] at forwarded
      cases found : (checkFrame hashPayload peer recent first.frame first.seenAt).1 with
      | true =>
          -- Fewer sightings are left than frames are still to be forwarded.
          rw [forwarded_repeated foreign _ found] at forwarded
          have count : (first :: rest).length ≤ rest.length := by
            calc (first :: rest).length
              _ = ((first :: rest).map FirstSighting.frame).length := (List.length_map ..).symm
              _ = _ := congrArg List.length forwarded.symm
              _ ≤ _ := payloads_from_loop_length ..
              _ = rest.length := List.length_map ..
          exact absurd count (Nat.not_succ_le_self _)
      | false =>
          rw [forwarded_first foreign _ found] at forwarded
          have tail := (List.cons.inj forwarded).2
          obtain ⟨expired, spaced⟩ := ih parts.2 tail
          have recorded := check_records found
          constructor
          · intro later listed inserted entry
            cases List.mem_cons.mp listed with
            | inl same =>
                subst same
                by_contra recently
                have repeated := check_duplicate entry (Nat.lt_of_not_le recently)
                exact absurd (found.symm.trans repeated) (by decide)
            | inr member =>
                cases check_keeps entry with
                | inl kept => exact expired later member inserted kept
                | inr gone => exact Nat.le_trans gone (parts.1 later member)
          · apply List.Pairwise.cons _ spaced
            intro later member same
            apply expired later member
            rw [← same]
            exact recorded

/-! ## Frames of successive connections -/

/-- The frames of successive connections, each with the payloads sent over it. Every
connection has a bundle layer of its own, which starts at sequence number 0. -/
def sentFrames (codec : BundleCodec) (connections : List (List Bytes)) : List Bytes :=
  connections.flatMap fun payloads => framesOf (sendAll codec maxPayloadLen 0 payloads)

/-- However the medium repeats what it shows, the frames are forwarded once and in order. -/
def ForwardsOnce (hashPayload : Bytes → UInt64) (localShortId peer : ShortId)
    (firsts : List FirstSighting) : Prop :=
  ∀ medium, Shows localShortId peer none 0 firsts medium →
    payloadsFrom peer (dispatchLoop hashPayload localShortId (fun _ => none) medium).2 =
      firsts.map FirstSighting.frame

theorem spaced_forwards_once {firsts : List FirstSighting} (foreign : peer ≠ localShortId)
    (injective : ∀ one ∈ firsts, ∀ other ∈ firsts,
      hashPayload one.frame = hashPayload other.frame → one.frame = other.frame)
    (spaced : Spaced firsts) : ForwardsOnce hashPayload localShortId peer firsts := by
  intro medium shows
  have nothing : RemembersFirsts hashPayload peer (fun _ => none) [] none 0 := by
    constructor
    · intro hash inserted entry
      cases entry
    · intro first same
      cases same
  exact spaced_forwarded_once foreign shows nothing spaced injective

theorem broadcast_forwards_once_iff {codec : BundleCodec} {connections : List (List Bytes)}
    {firsts : List FirstSighting}
    (sent : firsts.map FirstSighting.frame = sentFrames codec connections)
    (ordered : SeenInOrder firsts)
    (injective : ∀ one ∈ sentFrames codec connections, ∀ other ∈ sentFrames codec connections,
      hashPayload one = hashPayload other → one = other) :
    ForwardsOnce hashPayload localShortId peer firsts ↔
      Spaced firsts ∧ (peer = localShortId → firsts = []) := by
  by_cases own : peer = localShortId
  · subst own
    constructor
    · intro once
      have forwarded := once _ (shows_quiet (fun _ _ => Nat.zero_le _) ordered)
      rw [own_payloads_ignored] at forwarded
      have none : firsts = [] := List.map_eq_nil_iff.mp forwarded.symm
      rw [none]
      exact ⟨List.Pairwise.nil, fun _ => rfl⟩
    · intro condition medium _
      rw [own_payloads_ignored, condition.2 rfl]
      rfl
  · constructor
    · intro once
      have forwarded := once _ (shows_quiet (fun _ _ => Nat.zero_le _) ordered)
      exact ⟨(spaced_of_forwarded own ordered forwarded).2, fun same => absurd same own⟩
    · intro condition
      apply spaced_forwards_once own _ condition.1
      intro one listed other member
      apply injective
      · rw [← sent]
        exact List.mem_map_of_mem listed
      · rw [← sent]
        exact List.mem_map_of_mem member

/-! ## A second connection -/

def twoHandshakes : List (List Bytes) := [[[0]], [[0]]]

def handshakesApart (delay : Nat) : List FirstSighting :=
  List.zipWith (fun seenAt frame => { seenAt := seenAt, frame := frame }) [0, delay]
    (sentFrames sampleCodec twoHandshakes)

theorem broadcast_forwards_once_two_seconds_apart :
    handshakesApart (seconds 2) ≠ [] ∧
      ForwardsOnce lengthHash (sampleShortId 1) (sampleShortId 2)
        (handshakesApart (seconds 2)) := by
  have sent : (handshakesApart (seconds 2)).map FirstSighting.frame =
      sentFrames sampleCodec twoHandshakes := by
    decide +kernel
  apply And.intro (by decide +kernel)
  apply (broadcast_forwards_once_iff sent (by decide +kernel) (by decide +kernel)).mpr
  decide +kernel

def AlwaysForwardsOnce : Prop :=
  ∀ (codec : BundleCodec) (hashPayload : Bytes → UInt64) (localShortId peer : ShortId)
    (connections : List (List Bytes)) (firsts : List FirstSighting), peer ≠ localShortId →
    firsts.map FirstSighting.frame = sentFrames codec connections → SeenInOrder firsts →
    (∀ one ∈ sentFrames codec connections, ∀ other ∈ sentFrames codec connections,
      hashPayload one = hashPayload other → one = other) →
    ForwardsOnce hashPayload localShortId peer firsts

/-- A peer that retries after one second sends the same first frame, and the medium
repeats nothing: the frame of the second connection is not forwarded. -/
theorem retried_handshake_suppressed : ¬AlwaysForwardsOnce := by
  intro always
  have once := always sampleCodec lengthHash (sampleShortId 1) (sampleShortId 2) twoHandshakes
    (handshakesApart (seconds 1)) (by decide +kernel) (by decide +kernel) (by decide +kernel)
    (by decide +kernel)
  have ordered : SeenInOrder (handshakesApart (seconds 1)) := by decide +kernel
  have forwarded := once _ (shows_quiet (fun _ _ => Nat.zero_le _) ordered)
  revert forwarded
  decide +kernel

/-! ## The dispatcher of the transport -/

def BroadcastLabel.sighting : BroadcastLabel → Option Sighting
  | .scan _ packet now => some { seenAt := now, packet := packet }
  | _ => none

def sightingsOf (labels : List BroadcastLabel) : List Sighting :=
  labels.filterMap BroadcastLabel.sighting

def keepsDispatcher (_ : BroadcastState) (label : BroadcastLabel) : Prop :=
  match label with
  | .start _ => False
  | .stop => False
  | _ => True

/-- The single dispatcher has done what the loop does with the sightings. -/
structure FollowsLoop (hashPayload : Bytes → UInt64) (localShortId : ShortId)
    (sightings : List Sighting) (state : BroadcastState) (dispatcher : BroadcastDispatcher) :
    Prop where
  single : state.dispatchers = [dispatcher]
  shortId : dispatcher.localShortId = localShortId
  recent : dispatcher.recent =
    (dispatchLoop hashPayload localShortId (fun _ => none) sightings).1
  passed : state.passed = (dispatchLoop hashPayload localShortId (fun _ => none) sightings).2
  routed : state.passed = state.routed.map (fun packet => (packet.source, packet.payload)) ++
    dispatcher.phase.inHand

section FollowsLoop

variable {sightings : List Sighting} {state next : BroadcastState} {label : BroadcastLabel}
variable {dispatcher after : BroadcastDispatcher}

theorem follows_only (follows : FollowsLoop hashPayload localShortId sightings state dispatcher)
    {index : Nat} {found : BroadcastDispatcher}
    (present : state.dispatchers[index]? = some found) : index = 0 ∧ found = dispatcher := by
  rw [follows.single] at present
  obtain ⟨inside, same⟩ := List.getElem?_eq_some_iff.mp present
  have zero : index = 0 := Nat.lt_one_iff.mp inside
  subst zero
  exact ⟨rfl, same.symm⟩

theorem follows_unscanned
    (follows : FollowsLoop hashPayload localShortId sightings state dispatcher)
    (dispatchers : next.dispatchers = state.dispatchers) (passed : next.passed = state.passed)
    (routed : next.routed = state.routed) :
    FollowsLoop hashPayload localShortId sightings next dispatcher where
  single := dispatchers.trans follows.single
  shortId := follows.shortId
  recent := follows.recent
  passed := passed.trans follows.passed
  routed := by rw [passed, routed, follows.routed]

theorem follows_scanned
    (follows : FollowsLoop hashPayload localShortId sightings state dispatcher)
    {sighting : Sighting} {packet : Option (ShortId × Bytes)}
    (scanning : dispatcher.phase = .scanning)
    (result : scanPacket hashPayload dispatcher.localShortId dispatcher.recent sighting.packet
      sighting.seenAt = (after.recent, packet))
    (dispatchers : next.dispatchers = state.dispatchers.set 0 after)
    (shortId : after.localShortId = dispatcher.localShortId)
    (passed : next.passed = state.passed ++ packet.toList)
    (routed : next.routed = state.routed) (inHand : after.phase.inHand = packet.toList) :
    FollowsLoop hashPayload localShortId (sightings ++ [sighting]) next after := by
  rw [follows.shortId, follows.recent] at result
  constructor
  · rw [dispatchers, follows.single, List.set_cons_zero]
  · exact shortId.trans follows.shortId
  · rw [dispatch_loop_snoc result]
  · rw [dispatch_loop_snoc result, passed, follows.passed]
  · rw [passed, routed, inHand, follows.routed, scanning]
    simp [DispatcherPhase.inHand]

theorem follows_routed
    (follows : FollowsLoop hashPayload localShortId sightings state dispatcher)
    {packet : RoutedPacket}
    (dispatchers : next.dispatchers =
      state.dispatchers.set 0 { dispatcher with phase := .scanning })
    (passed : next.passed = state.passed) (routed : next.routed = state.routed ++ [packet])
    (inHand : dispatcher.phase.inHand = [(packet.source, packet.payload)]) :
    FollowsLoop hashPayload localShortId sightings next { dispatcher with phase := .scanning } where
  single := by rw [dispatchers, follows.single, List.set_cons_zero]
  shortId := follows.shortId
  recent := follows.recent
  passed := passed.trans follows.passed
  routed := by
    rw [passed, routed, follows.routed, inHand]
    simp [DispatcherPhase.inHand]

theorem follows_loop_step
    (follows : FollowsLoop hashPayload localShortId sightings state dispatcher)
    (allowed : keepsDispatcher state label)
    (moved : BroadcastMove hashPayload state label next) :
    ∃ after, FollowsLoop hashPayload localShortId (sightings ++ label.sighting.toList) next
      after := by
  have unscanned : label.sighting = none → next.dispatchers = state.dispatchers →
      next.passed = state.passed → next.routed = state.routed →
      ∃ after, FollowsLoop hashPayload localShortId (sightings ++ label.sighting.toList) next
        after := by
    intro unseen dispatchers passed routed
    rw [unseen, Option.toList_none, List.append_nil]
    exact ⟨dispatcher, follows_unscanned follows dispatchers passed routed⟩
  cases moved with
  | started => exact absurd allowed id
  | stopped => exact absurd allowed id
  | ignored present scanning result =>
      obtain ⟨zero, same⟩ := follows_only follows present
      subst zero same
      have inHand := congrArg DispatcherPhase.inHand scanning
      exact ⟨_, follows_scanned follows scanning result rfl rfl (List.append_nil _).symm rfl
        (inHand.trans (Option.toList_none _).symm)⟩
  | passed present scanning result =>
      obtain ⟨zero, same⟩ := follows_only follows present
      subst zero same
      exact ⟨_, follows_scanned follows scanning result rfl rfl rfl rfl (in_hand_lookup ..)⟩
  | sent present phase found =>
      obtain ⟨zero, same⟩ := follows_only follows present
      subst zero same
      simp only [BroadcastLabel.sighting, Option.toList_none, List.append_nil]
      exact ⟨_, follows_routed follows rfl rfl rfl (congrArg DispatcherPhase.inHand phase)⟩
  | opened present phase =>
      obtain ⟨zero, same⟩ := follows_only follows present
      subst zero same
      simp only [BroadcastLabel.sighting, Option.toList_none, List.append_nil]
      exact ⟨_, follows_routed follows rfl rfl rfl (congrArg DispatcherPhase.inHand phase)⟩
  | _ => exact unscanned rfl rfl rfl rfl

theorem dispatcher_follows_loop {labels : List BroadcastLabel}
    (run : Run (broadcastStep hashPayload) keepsDispatcher
      (BroadcastState.new.spawn localShortId) labels state) :
    ∃ dispatcher, FollowsLoop hashPayload localShortId (sightingsOf labels) state dispatcher := by
  induction run with
  | start => exact ⟨_, rfl, rfl, rfl, rfl, rfl⟩
  | extend prior allowed taken ih =>
      obtain ⟨dispatcher, follows⟩ := ih
      obtain ⟨after, stepped⟩ := follows_loop_step follows allowed (broadcast_step_moves taken)
      apply Exists.intro after
      rw [sightingsOf, List.filterMap_append]
      exact stepped

/-- Between packets, the transport has put each of the frames on a connection once and
in order, whatever `connect`, `accept` and the holders of connections have done. -/
theorem transport_routes_once {labels : List BroadcastLabel} {firsts : List FirstSighting}
    (foreign : peer ≠ localShortId)
    (injective : ∀ one ∈ firsts, ∀ other ∈ firsts,
      hashPayload one.frame = hashPayload other.frame → one.frame = other.frame)
    (spaced : Spaced firsts)
    (run : Run (broadcastStep hashPayload) keepsDispatcher
      (BroadcastState.new.spawn localShortId) labels state)
    (shows : Shows localShortId peer none 0 firsts (sightingsOf labels))
    (resting : ∀ dispatcher ∈ state.dispatchers, dispatcher.phase = .scanning) :
    payloadsFrom peer (state.routed.map fun packet => (packet.source, packet.payload)) =
      firsts.map FirstSighting.frame := by
  obtain ⟨dispatcher, follows⟩ := dispatcher_follows_loop run
  have idle : dispatcher.phase = .scanning := by
    apply resting
    simp [follows.single]
  have routed := follows.routed
  rw [idle, DispatcherPhase.inHand, List.append_nil, follows.passed] at routed
  rw [← routed]
  exact spaced_forwards_once foreign injective spaced _ shows

end FollowsLoop

end Pathweave
