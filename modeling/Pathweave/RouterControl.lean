import Pathweave.OrderedTries
import Pathweave.RouterCalls
import Mathlib.Data.List.ProdSigma

/-!
# The control flow of a send

Which `try_send` calls a `Router::send` makes, in which order and under which id, what it
returns and what it reports, as a function of the transports read at each pass and of the
results of the calls. The timed call of the router takes these results from its own tries
and follows the same flow.
-/

namespace Pathweave

open ByteStrings OrderedTries

set_option autoImplicit false

variable {prims : Primitives}

/-! ## The candidates of a pass -/

def matchingPairs (transports : List TransportEntry) (announcements : List PeerAnnouncement) :
    List (TransportEntry × PeerAnnouncement) :=
  (transports ×ˢ announcements).filter fun pair =>
    pair.1.available && decide (pair.2.address.kind = pair.1.kind)

/-- The pairs by cost, those of one cost in the order of the two lists. -/
def costSorted (transports : List TransportEntry) (announcements : List PeerAnnouncement) :
    List (TransportEntry × PeerAnnouncement) :=
  let ofCost (cost : TransportCost) :=
    (matchingPairs transports announcements).filter fun pair => pair.1.cost = cost
  ofCost .free ++ ofCost .metered ++ ofCost .unknown

theorem matching_pairs_cons (entry : TransportEntry) (transports : List TransportEntry)
    (announcements : List PeerAnnouncement) :
    matchingPairs (entry :: transports) announcements =
      (if entry.available then
        announcements.filterMap fun announcement =>
          if announcement.address.kind = entry.kind then some (entry, announcement) else none
      else []) ++ matchingPairs transports announcements := by
  rw [matchingPairs, List.product_cons, List.filter_append, List.filter_map, matchingPairs]
  congr 1
  cases available : entry.available with
  | false => simp [Function.comp_def, available]
  | true =>
      induction announcements with
      | nil => rfl
      | cons announcement rest ih =>
          by_cases same : announcement.address.kind = entry.kind
          · simpa [Function.comp_def, available, same] using ih
          · simpa [Function.comp_def, available, same] using ih

theorem matching_pairs_eq (transports : List TransportEntry)
    (announcements : List PeerAnnouncement) :
    ((transports.filter fun entry => entry.available).flatMap fun entry =>
      announcements.filterMap fun announcement =>
        if announcement.address.kind = entry.kind then some (entry, announcement) else none) =
      matchingPairs transports announcements := by
  induction transports with
  | nil => rfl
  | cons entry rest ih =>
      rw [matching_pairs_cons, ← ih]
      cases available : entry.available with
      | false => simp [available]
      | true => simp [available]

theorem candidates_for_sorted (transports : List TransportEntry)
    (announcements : List PeerAnnouncement) :
    candidatesFor transports announcements = costSorted transports announcements := by
  have ofRank : ∀ cost : TransportCost,
      ((matchingPairs transports announcements).filter fun pair => pair.1.cost.rank = cost.rank) =
        (matchingPairs transports announcements).filter fun pair => pair.1.cost = cost := by
    intro cost
    apply List.filter_congr
    intro pair _
    rw [decide_eq_decide]
    cases pair.1.cost <;> cases cost <;> decide
  have below : ∀ pair ∈ matchingPairs transports announcements, pair.1.cost.rank < 3 := by
    intro pair _
    cases pair.1.cost <;> decide
  have sorted := merge_sort_by_key below
  rw [candidatesFor, matching_pairs_eq, costSorted]
  dsimp only
  rw [sorted, ← ofRank .free, ← ofRank .metered, ← ofRank .unknown]
  simp only [byKey, List.range_succ, List.range_zero, List.nil_append, List.flatMap_append,
    List.flatMap_singleton]
  rfl

/-! ## The calls -/

/-- The arguments of a `try_send` that differ between calls, and the id. -/
structure TryCall where
  transport : TransportEntry
  announcement : PeerAnnouncement
  messageId : UInt64

inductive SendEvent where
  | messageDelivered (peer : PeerId) (transport : TransportKind)
  | keyLearned (peer : PeerId) (publicKey : PublicKey)
  deriving DecidableEq

structure SendLog where
  calls : List TryCall
  events : List SendEvent

def SendLog.empty : SendLog where
  calls := []
  events := []

def SendLog.deliveries (log : SendLog) : List (PeerId × TransportKind) :=
  log.events.filterMap fun event =>
    match event with
    | .messageDelivered peer transport => some (peer, transport)
    | .keyLearned _ _ => none

def callFor (messageId : UInt64) (candidate : TransportEntry × PeerAnnouncement) : TryCall where
  transport := candidate.1
  announcement := candidate.2
  messageId := messageId

section Flow

/- The result of each `try_send`, by the number of calls before it. -/
variable (plan : DialPlan) (peerId : PeerId) (messageId : UInt64)
  (results : Nat → Except Error (Option PublicKey))

def deliveryEvents (candidate : TransportEntry × PeerAnnouncement) (learned : Option PublicKey) :
    List SendEvent :=
  .messageDelivered peerId candidate.1.kind :: (learned.map (.keyLearned peerId)).toList

/-- The inner loop: the candidates of one pass, until one of them succeeds. -/
def logCandidates : List (TransportEntry × PeerAnnouncement) → SendLog → SendLog × Bool
  | [], log => (log, false)
  | candidate :: rest, log =>
      let called := { log with calls := log.calls ++ [callFor messageId candidate] }
      match results log.calls.length with
      | .ok learned =>
          ({ called with events := log.events ++ deliveryEvents peerId candidate learned }, true)
      | .error _ => logCandidates rest called

def logPasses : Nat → Nat → SendLog → SendLog × Except Error Unit
  | 0, _, log => (log, .error .deliveryFailed)
  | left + 1, attempt, log =>
      let candidates := plan.candidatesAt attempt
      if candidates.isEmpty then (log, .error .noTransportAvailable)
      else
        match logCandidates peerId messageId results candidates log with
        | (after, true) => (after, .ok ())
        | (after, false) => logPasses left (attempt + 1) after

/-- `Router::send` up to what its tries do. The id is drawn once, if none is given. -/
def logSend (given : Option UInt64) (entropy : Octets 8) : SendLog × Except Error Unit :=
  if plan.initially.any fun entry => entry.available then
    logPasses plan peerId (given.getD (newMessageId entropy)) results maxSendAttempts 0 .empty
  else (.empty, .error .noTransportAvailable)

def DialPlan.sortedAt (attempt : Nat) : List (TransportEntry × PeerAnnouncement) :=
  costSorted (plan.transports attempt) plan.announcements

/-- The passes from one on that are made if no call succeeds. -/
def DialPlan.passes (attempt left : Nat) : List (List (TransportEntry × PeerAnnouncement)) :=
  ((List.range' attempt left).map plan.sortedAt).takeWhile fun pass => !pass.isEmpty

def succeeds (index : Nat) : Bool := (results index).isOk

end Flow

/-! ## One pass -/

section Runs

variable {plan : DialPlan} {peerId : PeerId} {messageId : UInt64}
  {results : Nat → Except Error (Option PublicKey)}

/-- How trying candidates in turn goes on from a log. -/
inductive TriedInTurn (peerId : PeerId) (messageId : UInt64)
    (results : Nat → Except Error (Option PublicKey))
    (candidates : List (TransportEntry × PeerAnnouncement)) (log : SendLog) :
    SendLog → Bool → Prop where
  | delivered {before after : List (TransportEntry × PeerAnnouncement)}
      {candidate : TransportEntry × PeerAnnouncement} {learned : Option PublicKey}
      (split : candidates = before ++ candidate :: after)
      (failed : ∀ index < before.length, succeeds results (log.calls.length + index) = false)
      (success : results (log.calls.length + before.length) = .ok learned) :
      TriedInTurn peerId messageId results candidates log
        { calls := log.calls ++ (before ++ [candidate]).map (callFor messageId)
          events := log.events ++ deliveryEvents peerId candidate learned } true
  | exhausted
      (failed : ∀ index < candidates.length, succeeds results (log.calls.length + index) = false) :
      TriedInTurn peerId messageId results candidates log
        { log with calls := log.calls ++ candidates.map (callFor messageId) } false

theorem tried_none (log : SendLog) : TriedInTurn peerId messageId results [] log log false := by
  have tried : TriedInTurn peerId messageId results [] log _ _ :=
    .exhausted fun index inside => absurd inside (Nat.not_lt_zero index)
  rw [List.map_nil, List.append_nil] at tried
  exact tried

theorem tried_after_failures {first rest : List (TransportEntry × PeerAnnouncement)}
    {log after : SendLog} {success : Bool}
    (failed : ∀ index < first.length, succeeds results (log.calls.length + index) = false)
    (tried : TriedInTurn peerId messageId results rest
      { log with calls := log.calls ++ first.map (callFor messageId) } after success) :
    TriedInTurn peerId messageId results (first ++ rest) log after success := by
  have counted : (log.calls ++ first.map (callFor messageId)).length =
      log.calls.length + first.length := by
    rw [List.length_append, List.length_map]
  have failures : ∀ count,
      (∀ index < count, succeeds results (log.calls.length + first.length + index) = false) →
      ∀ index < first.length + count, succeeds results (log.calls.length + index) = false := by
    intro count later index inside
    by_cases early : index < first.length
    · exact failed index early
    · have next := later (index - first.length) (by omega)
      rw [Nat.add_assoc, Nat.add_sub_cancel' (Nat.not_lt.mp early)] at next
      exact next
  cases tried with
  | @delivered before behind candidate learned split failedLater succeeded =>
      simp only [counted] at failedLater succeeded
      have splitWhole : first ++ rest = (first ++ before) ++ candidate :: behind := by
        rw [split, List.append_assoc]
      have whole : TriedInTurn peerId messageId results (first ++ rest) log _ true :=
        .delivered splitWhole (by rw [List.length_append]; exact failures _ failedLater)
          (by rw [List.length_append, ← Nat.add_assoc]; exact succeeded)
      rw [List.append_assoc, List.map_append, ← List.append_assoc] at whole
      exact whole
  | exhausted failedLater =>
      simp only [counted] at failedLater
      have whole : TriedInTurn peerId messageId results (first ++ rest) log _ false :=
        .exhausted (by rw [List.length_append]; exact failures _ failedLater)
      rw [List.map_append, ← List.append_assoc] at whole
      exact whole

theorem tried_before_others {first : List (TransportEntry × PeerAnnouncement)}
    {log after : SendLog} (rest : List (TransportEntry × PeerAnnouncement))
    (tried : TriedInTurn peerId messageId results first log after true) :
    TriedInTurn peerId messageId results (first ++ rest) log after true := by
  cases tried with
  | @delivered before behind candidate learned split failed succeeded =>
      exact .delivered (by rw [split, List.append_assoc, List.cons_append]) failed succeeded

variable (peerId messageId results) in
theorem log_candidates_tried (candidates : List (TransportEntry × PeerAnnouncement))
    (log : SendLog) :
    TriedInTurn peerId messageId results candidates log
      (logCandidates peerId messageId results candidates log).1
      (logCandidates peerId messageId results candidates log).2 := by
  induction candidates generalizing log with
  | nil => exact tried_none log
  | cons candidate rest ih =>
      cases outcome : results log.calls.length with
      | ok learned =>
          simp only [logCandidates, outcome]
          have split : candidate :: rest = [] ++ candidate :: rest := rfl
          exact .delivered split (fun index inside => absurd inside (Nat.not_lt_zero index)) outcome
      | error error =>
          have failed : ∀ index < [candidate].length,
              succeeds results (log.calls.length + index) = false := by
            intro index inside
            rw [Nat.lt_one_iff.mp inside, Nat.add_zero, succeeds, outcome]
            rfl
          simp only [logCandidates, outcome]
          exact tried_after_failures failed (ih _)

/-! ## All passes -/

theorem candidates_at_sorted (plan : DialPlan) (attempt : Nat) :
    plan.candidatesAt attempt = plan.sortedAt attempt :=
  candidates_for_sorted _ _

theorem passes_stop {attempt left : Nat} (none : plan.sortedAt attempt = []) :
    plan.passes attempt (left + 1) = [] := by
  rw [DialPlan.passes, List.range'_succ, List.map_cons, List.takeWhile_cons, none]
  rfl

theorem passes_next {attempt left : Nat} (some : plan.sortedAt attempt ≠ []) :
    plan.passes attempt (left + 1) = plan.sortedAt attempt :: plan.passes (attempt + 1) left := by
  have goes : (!(plan.sortedAt attempt).isEmpty) = true := by
    rw [Bool.not_eq_true', List.isEmpty_eq_false_iff]
    exact some
  rw [DialPlan.passes, List.range'_succ, List.map_cons, List.takeWhile_cons, goes, if_pos rfl,
    DialPlan.passes]

/-- How the remaining passes end. -/
inductive PassesEnd (plan : DialPlan) (peerId : PeerId) (messageId : UInt64)
    (results : Nat → Except Error (Option PublicKey)) (attempt left : Nat) (log : SendLog)
    (after : SendLog) : Except Error Unit → Prop where
  | delivered
      (tried : TriedInTurn peerId messageId results (plan.passes attempt left).flatten log after
        true) :
      PassesEnd plan peerId messageId results attempt left log after (.ok ())
  | unmatched
      (tried : TriedInTurn peerId messageId results (plan.passes attempt left).flatten log after
        false)
      (none : ∃ pass < left, plan.sortedAt (attempt + pass) = [] ∧
        ∀ earlier < pass, plan.sortedAt (attempt + earlier) ≠ []) :
      PassesEnd plan peerId messageId results attempt left log after (.error .noTransportAvailable)
  | exhausted
      (tried : TriedInTurn peerId messageId results (plan.passes attempt left).flatten log after
        false)
      (every : ∀ pass < left, plan.sortedAt (attempt + pass) ≠ []) :
      PassesEnd plan peerId messageId results attempt left log after (.error .deliveryFailed)

theorem passes_end_later {attempt left : Nat} {log after : SendLog} {result : Except Error Unit}
    (some : plan.sortedAt attempt ≠ [])
    (failed : ∀ index < (plan.sortedAt attempt).length,
      succeeds results (log.calls.length + index) = false)
    (later : PassesEnd plan peerId messageId results (attempt + 1) left
      { log with calls := log.calls ++ (plan.sortedAt attempt).map (callFor messageId) }
      after result) :
    PassesEnd plan peerId messageId results attempt (left + 1) log after result := by
  have planned : (plan.passes attempt (left + 1)).flatten =
      plan.sortedAt attempt ++ (plan.passes (attempt + 1) left).flatten := by
    rw [passes_next some, List.flatten_cons]
  -- The first pass has candidates, so an empty one is among the remaining.
  have shifted : ∀ {pass}, (∀ earlier < pass, plan.sortedAt (attempt + 1 + earlier) ≠ []) →
      ∀ earlier < pass + 1, plan.sortedAt (attempt + earlier) ≠ [] := by
    intro pass others earlier before
    cases earlier with
    | zero => exact some
    | succ earlier =>
        rw [← Nat.add_assoc, Nat.add_right_comm]
        exact others earlier (Nat.lt_of_succ_lt_succ before)
  cases later with
  | delivered tried =>
      apply PassesEnd.delivered
      rw [planned]
      exact tried_after_failures failed tried
  | unmatched tried none =>
      obtain ⟨pass, inside, empty, others⟩ := none
      refine .unmatched ?_ ⟨pass + 1, Nat.succ_lt_succ inside, ?_, shifted others⟩
      · rw [planned]
        exact tried_after_failures failed tried
      · rw [← Nat.add_assoc, Nat.add_right_comm]
        exact empty
  | exhausted tried every =>
      refine .exhausted ?_ (shifted every)
      rw [planned]
      exact tried_after_failures failed tried

variable (plan peerId messageId results) in
theorem log_passes_end (left attempt : Nat) (log : SendLog) :
    PassesEnd plan peerId messageId results attempt left log
      (logPasses plan peerId messageId results left attempt log).1
      (logPasses plan peerId messageId results left attempt log).2 := by
  induction left generalizing attempt log with
  | zero =>
      apply PassesEnd.exhausted (tried_none log)
      intro pass inside
      exact absurd inside (Nat.not_lt_zero pass)
  | succ left ih =>
      simp only [logPasses, candidates_at_sorted, List.isEmpty_iff]
      by_cases none : plan.sortedAt attempt = []
      · rw [if_pos none]
        refine .unmatched ?_ ⟨0, Nat.succ_pos left, none, ?_⟩
        · rw [passes_stop none]
          exact tried_none log
        · intro earlier before
          exact absurd before (Nat.not_lt_zero earlier)
      · rw [if_neg none]
        have tried := log_candidates_tried peerId messageId results (plan.sortedAt attempt) log
        generalize logCandidates peerId messageId results (plan.sortedAt attempt) log = logged
          at tried ⊢
        obtain ⟨after, success⟩ := logged
        cases success with
        | true =>
            apply PassesEnd.delivered
            rw [passes_next none, List.flatten_cons]
            exact tried_before_others _ tried
        | false =>
            cases tried with
            | exhausted failed => exact passes_end_later none failed (ih (attempt + 1) _)

/-! ## How a send ends -/

section Ended

variable {candidates : List (TransportEntry × PeerAnnouncement)} {log after : SendLog}
  {success : Bool} {attempt left : Nat} {result : Except Error Unit}

theorem passes_end_tried
    (ended : PassesEnd plan peerId messageId results attempt left log after result) :
    TriedInTurn peerId messageId results (plan.passes attempt left).flatten log after
      result.isOk := by
  cases ended with
  | delivered tried => exact tried
  | unmatched tried none => exact tried
  | exhausted tried every => exact tried

/-- Without a success the result tells whether some pass had no candidate. -/
theorem passes_end_unmatched_iff
    (ended : PassesEnd plan peerId messageId results attempt left log after result) :
    result = .error .noTransportAvailable ↔
      result.isOk = false ∧ ∃ pass < left, plan.sortedAt (attempt + pass) = [] ∧
        ∀ earlier < pass, plan.sortedAt (attempt + earlier) ≠ [] := by
  cases ended with
  | delivered tried => simp [Except.isOk, Except.toBool]
  | unmatched tried none => exact iff_of_true rfl ⟨rfl, none⟩
  | exhausted tried every =>
      refine iff_of_false (by simp) ?_
      rintro ⟨-, pass, inside, empty, -⟩
      exact every pass inside empty

theorem passes_end_exhausted_iff
    (ended : PassesEnd plan peerId messageId results attempt left log after result) :
    result = .error .deliveryFailed ↔
      result.isOk = false ∧ ∀ pass < left, plan.sortedAt (attempt + pass) ≠ [] := by
  cases ended with
  | delivered tried => simp [Except.isOk, Except.toBool]
  | unmatched tried none =>
      obtain ⟨pass, inside, empty, -⟩ := none
      refine iff_of_false (by simp) ?_
      rintro ⟨-, every⟩
      exact every pass inside empty
  | exhausted tried every => exact iff_of_true rfl ⟨rfl, every⟩

theorem tried_calls (tried : TriedInTurn peerId messageId results candidates .empty after success) :
    after.calls =
      (triedFrom (succeeds results) 0 candidates).map (callFor messageId) := by
  cases tried with
  | @delivered before behind candidate learned split failed succeeded =>
      rw [split, tried_succeeded 0 behind failed]
      · rfl
      · rw [succeeds]
        exact congrArg Except.isOk succeeded
  | exhausted failed =>
      have all := tried_failed 0 [] failed
      rw [List.append_nil, triedFrom, List.append_nil] at all
      rw [all]
      rfl

theorem tried_success_iff
    (tried : TriedInTurn peerId messageId results candidates .empty after success) :
    success = true ↔ ∃ index < after.calls.length, succeeds results index = true := by
  cases tried with
  | @delivered before behind candidate learned split failed succeeded =>
      rw [SendLog.empty, List.length_nil, Nat.zero_add] at succeeded
      refine iff_of_true rfl ⟨before.length, ?_, ?_⟩
      · simp [SendLog.empty]
      · rw [succeeds, succeeded]
        rfl
  | exhausted failed =>
      refine iff_of_false Bool.false_ne_true ?_
      rintro ⟨index, inside, succeeded⟩
      have last := failed index (by simpa [SendLog.empty] using inside)
      rw [SendLog.empty, List.length_nil, Nat.zero_add, succeeded] at last
      exact absurd last.symm Bool.false_ne_true

theorem tried_deliveries
    (tried : TriedInTurn peerId messageId results candidates .empty after success) :
    if success then
      ∃ call, after.calls.getLast? = some call ∧
        succeeds results (after.calls.length - 1) = true ∧
        after.deliveries = [(peerId, call.transport.kind)]
    else after.deliveries = [] := by
  cases tried with
  | @delivered before behind candidate learned split failed succeeded =>
      rw [if_pos rfl]
      rw [SendLog.empty, List.length_nil, Nat.zero_add] at succeeded
      refine ⟨callFor messageId candidate, ?_, ?_, ?_⟩
      · simp
      · simp [SendLog.empty, succeeds, succeeded, Except.isOk, Except.toBool]
      · cases learned <;> rfl
  | exhausted failed => rfl

end Ended

end Runs

theorem is_ok_iff (result : Except Error Unit) : result.isOk = true ↔ result = .ok () := by
  cases result with
  | ok value => exact iff_of_true rfl rfl
  | error error => exact iff_of_false Bool.false_ne_true (by simp)

/-- For every plan and all results of the calls. The calls are those of at most three passes,
each the matching pairs of the moment by cost, cut after the first success and all under one
id. The send returns `Ok` if some call succeeded, `NoTransportAvailable` if no transport was
available at first or if all calls failed before a pass without candidates, and
`DeliveryFailed` if they failed in three passes. Exactly the successful call is reported. -/
theorem router_send_control_flow (plan : DialPlan) (peerId : PeerId) (given : Option UInt64)
    (entropy : Octets 8) (results : Nat → Except Error (Option PublicKey)) :
    let sent := logSend plan peerId results given entropy
    let reachable := plan.initially.any fun entry => entry.available
    let succeeded := ∃ index < sent.1.calls.length, succeeds results index = true
    sent.1.calls =
      (triedFrom (succeeds results) 0
        (if reachable then (plan.passes 0 maxSendAttempts).flatten else [])).map
        (callFor (given.getD (newMessageId entropy))) ∧
    (sent.2 = .ok () ↔ succeeded) ∧
    (sent.2 = .error .noTransportAvailable ↔
      reachable = false ∨
        ¬ succeeded ∧ ∃ pass < maxSendAttempts, plan.sortedAt pass = [] ∧
          ∀ earlier < pass, plan.sortedAt earlier ≠ []) ∧
    (sent.2 = .error .deliveryFailed ↔
      reachable = true ∧ ¬ succeeded ∧ ∀ pass < maxSendAttempts, plan.sortedAt pass ≠ []) ∧
    (sent.2 = .ok () → ∃ call, sent.1.calls.getLast? = some call ∧
      succeeds results (sent.1.calls.length - 1) = true ∧
      sent.1.deliveries = [(peerId, call.transport.kind)]) ∧
    (sent.2 ≠ .ok () → sent.1.deliveries = []) := by
  dsimp only
  cases reachable : plan.initially.any fun entry => entry.available with
  | false =>
      have nothing : logSend plan peerId results given entropy =
          (.empty, .error .noTransportAvailable) := by
        rw [logSend, reachable, if_neg Bool.false_ne_true]
      rw [nothing]
      simp [SendLog.empty, SendLog.deliveries, triedFrom]
  | true =>
      have ended := log_passes_end plan peerId (given.getD (newMessageId entropy)) results
        maxSendAttempts 0 .empty
      have started : logSend plan peerId results given entropy =
          logPasses plan peerId (given.getD (newMessageId entropy)) results maxSendAttempts 0
            .empty := by
        rw [logSend, reachable, if_pos rfl]
      rw [← started] at ended
      generalize logSend plan peerId results given entropy = sent at ended ⊢
      have tried := passes_end_tried ended
      have unmatched := passes_end_unmatched_iff ended
      have exhausted := passes_end_exhausted_iff ended
      have reported := tried_deliveries tried
      simp only [Nat.zero_add] at unmatched exhausted
      rw [← tried_success_iff tried, if_pos rfl, ← is_ok_iff, Bool.not_eq_true]
      refine ⟨tried_calls tried, Iff.rfl, ?_, ?_, ?_, ?_⟩
      · rw [unmatched]
        simp
      · rw [exhausted]
        simp
      · intro ok
        rw [if_pos ok] at reported
        exact reported
      · intro failed
        rw [if_neg (mt (is_ok_iff sent.2).mp failed)] at reported
        exact reported

/-! ## The timed call follows the flow -/

def SendEvent.plain : SendEvent → TransportEvent
  | .messageDelivered peer _ => .messageDelivered peer
  | .keyLearned peer publicKey => .keyLearned peer publicKey

section Timed

variable (call : SendCall) (attempts : Nat → TimedAttempt) (start : CallState prims)

def tablesAfter : Nat → KeyRegistryState × PeerTable
  | 0 => (start.keyRegistry, start.peers)
  | count + 1 =>
      match trySend prims (tablesAfter count).1 (tablesAfter count).2 call.peerId call.payload
          call.messageId (attempts (start.tries + count)).attempt with
      | .ok outcome => (outcome.keyRegistry, outcome.peers)
      | .error _ => tablesAfter count

/-- What the tries of a timed call return. None of them fails to end. -/
def tryResults (count : Nat) : Except Error (Option PublicKey) :=
  match trySend prims (tablesAfter call attempts start count).1
      (tablesAfter call attempts start count).2 call.peerId call.payload call.messageId
      (attempts (start.tries + count)).attempt with
  | .ok outcome => outcome.result
  | .error _ => .error .deliveryFailed

variable {call attempts start}

/-- A state of the timed call and the log of the same calls. -/
structure Follows (call : SendCall) (attempts : Nat → TimedAttempt)
    (start state : CallState prims) (log : SendLog) : Prop where
  tables : (state.keyRegistry, state.peers) = tablesAfter call attempts start log.calls.length
  tries : state.tries = start.tries + log.calls.length
  events : state.events = start.events ++ log.events.map SendEvent.plain

theorem try_once_follows {state : CallState prims} {log : SendLog}
    (follows : Follows call attempts start state log)
    (candidate : TransportEntry × PeerAnnouncement) :
    (tryOnce call attempts state).2 =
        succeeds (tryResults call attempts start) log.calls.length ∧
      Follows call attempts start (tryOnce call attempts state).1
        { calls := log.calls ++ [callFor call.messageId candidate]
          events := log.events ++
            match tryResults call attempts start log.calls.length with
            | .ok learned => deliveryEvents call.peerId candidate learned
            | .error _ => [] } := by
  obtain ⟨outcome, tried, -⟩ := try_send_transmits prims state.keyRegistry state.peers call.peerId
    call.payload call.messageId (attempts state.tries).attempt
  have same : trySend prims (tablesAfter call attempts start log.calls.length).1
      (tablesAfter call attempts start log.calls.length).2 call.peerId call.payload call.messageId
      (attempts (start.tries + log.calls.length)).attempt = .ok outcome := by
    rw [← follows.tables, ← follows.tries]
    exact tried
  have result : tryResults call attempts start log.calls.length = outcome.result := by
    rw [tryResults, same]
  have later : tablesAfter call attempts start (log.calls.length + 1) =
      (outcome.keyRegistry, outcome.peers) := by
    rw [tablesAfter, same]
  have counted : (log.calls ++ [callFor call.messageId candidate]).length =
      log.calls.length + 1 := by
    rw [List.length_append, List.length_singleton]
  simp only [tryOnce, tried]
  constructor
  · rw [succeeds, result]
  · refine ⟨?_, ?_, ?_⟩
    · rw [counted, later]
    · show state.tries + 1 = _
      rw [counted, follows.tries, Nat.add_assoc]
    · rw [result, List.map_append, follows.events, List.append_assoc]
      cases outcome.result with
      | error error => rfl
      | ok learned => cases learned <;> rfl

theorem try_candidates_follows (candidates : List (TransportEntry × PeerAnnouncement))
    {state : CallState prims} {log : SendLog} (follows : Follows call attempts start state log) :
    (tryCandidates call attempts candidates state).2 =
        (logCandidates call.peerId call.messageId (tryResults call attempts start) candidates
          log).2 ∧
      Follows call attempts start (tryCandidates call attempts candidates state).1
        (logCandidates call.peerId call.messageId (tryResults call attempts start) candidates
          log).1 := by
  induction candidates generalizing state log with
  | nil => exact ⟨rfl, follows⟩
  | cons candidate rest ih =>
      obtain ⟨success, next⟩ := try_once_follows follows candidate
      simp only [tryCandidates, logCandidates]
      generalize tryOnce call attempts state = tried at success next ⊢
      obtain ⟨after, ended⟩ := tried
      dsimp only at success next
      cases outcome : tryResults call attempts start log.calls.length with
      | ok learned =>
          rw [succeeds, outcome] at success
          rw [outcome] at next
          subst success
          exact ⟨rfl, next⟩
      | error error =>
          rw [succeeds, outcome] at success
          rw [outcome, List.append_nil] at next
          subst success
          exact ih next

theorem send_passes_follows (plan : DialPlan) (left attempt : Nat) {state : CallState prims}
    {log : SendLog} (follows : Follows call attempts start state log) :
    (sendPasses plan call attempts left attempt state).2 =
        (logPasses plan call.peerId call.messageId (tryResults call attempts start) left attempt
          log).2 ∧
      Follows call attempts start (sendPasses plan call attempts left attempt state).1
        (logPasses plan call.peerId call.messageId (tryResults call attempts start) left attempt
          log).1 := by
  induction left generalizing attempt state log with
  | zero => exact ⟨rfl, follows⟩
  | succ left ih =>
      simp only [sendPasses, logPasses]
      by_cases none : (plan.candidatesAt attempt).isEmpty = true
      · rw [if_pos none, if_pos none]
        exact ⟨rfl, follows⟩
      · rw [if_neg none, if_neg none]
        obtain ⟨success, next⟩ := try_candidates_follows (plan.candidatesAt attempt) follows
        generalize tryCandidates call attempts (plan.candidatesAt attempt) state = tried
          at success next ⊢
        generalize logCandidates call.peerId call.messageId (tryResults call attempts start)
          (plan.candidatesAt attempt) log = logged at success next ⊢
        obtain ⟨after, ended⟩ := tried
        obtain ⟨called, delivered⟩ := logged
        dsimp only at success next
        subst success
        cases ended with
        | true => exact ⟨rfl, next⟩
        | false =>
            apply ih
            -- The backoff changes nothing but the clock.
            split_ifs
            · exact next
            · exact ⟨next.tables, next.tries, next.events⟩

variable (call attempts start) in
/-- The timed call makes the calls of the flow for the results of its own tries: it returns
and reports the same. -/
theorem router_send_follows (plan : DialPlan) (entropy : Octets 8) :
    let sent := logSend plan call.peerId (tryResults call attempts start) (some call.messageId)
      entropy
    (routerSend plan call attempts start).2 = sent.2 ∧
      Follows call attempts start (routerSend plan call attempts start).1 sent.1 := by
  have begun : Follows call attempts start start .empty := by
    refine ⟨rfl, rfl, ?_⟩
    rw [SendLog.empty, List.map_nil, List.append_nil]
  simp only [routerSend, logSend]
  split_ifs
  · exact send_passes_follows plan maxSendAttempts 0 begun
  · exact ⟨rfl, begun⟩

end Timed

end Pathweave
