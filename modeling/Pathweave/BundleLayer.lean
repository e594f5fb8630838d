import Mathlib.Data.List.AList
import Pathweave.CborHeads
import Pathweave.Identities

/-!
# The bundle layer

A payload travels as one bundle if its encoding fits the MTU of the inner connection,
and otherwise as fragments whose size is estimated from an empty one. The receiver
collects the fragments of a sequence number until their lengths add up. The bundle
library itself is a parameter.
-/

namespace Pathweave

open ByteStrings CborHeads

set_option autoImplicit false

/-- What this layer sets or reads of a bundle. Endpoints, timestamp and lifetime are
the same in all of them. -/
structure Bundle where
  isFragment : Bool
  seqno : UInt64
  fragmentationOffset : Nat
  totalDataLength : Nat
  payload : Option Bytes
  deriving DecidableEq

structure BundleCodec where
  toCbor : Bundle → Bytes
  tryFrom : Bytes → Except String Bundle

def wholeBundle (seq : UInt64) (payload : Bytes) : Bundle where
  isFragment := false
  seqno := seq
  fragmentationOffset := 0
  totalDataLength := 0
  payload := some payload

def fragmentBundle (seq : UInt64) (offset totalLen : Nat) (chunk : Bytes) : Bundle where
  isFragment := true
  seqno := seq
  fragmentationOffset := offset
  totalDataLength := totalLen
  payload := some chunk

/-! ## Sending -/

structure SendOutcome where
  frames : List Bytes
  result : Except Error Unit

def sendFrames (inner : Nat → Option Error) : Nat → List Bytes → SendOutcome
  | _, [] => { frames := [], result := .ok () }
  | index, frame :: rest =>
      match inner index with
      | some error => { frames := [frame], result := .error error }
      | none =>
          let outcome := sendFrames inner (index + 1) rest
          { outcome with frames := frame :: outcome.frames }

section Send

variable (codec : BundleCodec) (mtu : Nat) (seq : UInt64) (bytes : Bytes)

/-- The encoding of an empty fragment at the largest possible offset. -/
def fragmentHeaderOverhead (totalLen : Nat) : Nat :=
  (codec.toCbor (fragmentBundle seq totalLen totalLen [])).length

def maxPayload : Nat := mtu - fragmentHeaderOverhead codec seq bytes.length

def chunkAt (size offset : Nat) : Bytes :=
  (bytes.take (min (offset + size) bytes.length)).drop offset

def fragmentsFrom (size : Nat) (positive : 0 < size) (offset : Nat) : List Bytes :=
  if offset < bytes.length then
    codec.toCbor (fragmentBundle seq offset bytes.length (chunkAt bytes size offset)) ::
      fragmentsFrom size positive (min (offset + size) bytes.length)
  else []
termination_by bytes.length - offset

def mtuTooSmall : Error := .bundle "MTU too small for BPv7 bundle framing overhead"

/-- An MTU of 0 stands for no limit. -/
def sendBytes (inner : Nat → Option Error) : SendOutcome :=
  let cbor := codec.toCbor (wholeBundle seq bytes)
  if mtu = 0 ∨ cbor.length ≤ mtu then sendFrames inner 0 [cbor]
  else if positive : 0 < maxPayload codec mtu seq bytes then
    sendFrames inner 0 (fragmentsFrom codec seq bytes (maxPayload codec mtu seq bytes) positive 0)
  else { frames := [], result := .error mtuTooSmall }

variable {codec mtu seq bytes} {inner : Nat → Option Error}

theorem send_bytes_whole
    (fits : mtu = 0 ∨ (codec.toCbor (wholeBundle seq bytes)).length ≤ mtu) :
    sendBytes codec mtu seq bytes inner =
      sendFrames inner 0 [codec.toCbor (wholeBundle seq bytes)] :=
  if_pos fits

theorem send_bytes_fragmented
    (large : ¬ (mtu = 0 ∨ (codec.toCbor (wholeBundle seq bytes)).length ≤ mtu))
    (positive : 0 < maxPayload codec mtu seq bytes) :
    sendBytes codec mtu seq bytes inner =
      sendFrames inner 0
        (fragmentsFrom codec seq bytes (maxPayload codec mtu seq bytes) positive 0) :=
  (if_neg large).trans (dif_pos positive)

theorem send_bytes_refused
    (large : ¬ (mtu = 0 ∨ (codec.toCbor (wholeBundle seq bytes)).length ≤ mtu))
    (nothing : maxPayload codec mtu seq bytes = 0) :
    sendBytes codec mtu seq bytes inner = { frames := [], result := .error mtuTooSmall } :=
  (if_neg large).trans (dif_neg (by omega))

end Send

/-! ## Receiving -/

/-- `BTreeMap::insert` on the entries in key order. -/
def insertFragment (offset : Nat) (chunk : Bytes) : List (Nat × Bytes) → List (Nat × Bytes)
  | [] => [(offset, chunk)]
  | entry :: rest =>
      if offset < entry.1 then (offset, chunk) :: entry :: rest
      else if offset = entry.1 then (offset, chunk) :: rest
      else entry :: insertFragment offset chunk rest

structure PendingBundle where
  totalDataLength : Nat
  fragments : List (Nat × Bytes)

namespace PendingBundle

def receivedLen (pending : PendingBundle) : Nat :=
  (pending.fragments.map fun entry => entry.2.length).sum

def isComplete (pending : PendingBundle) : Bool := pending.totalDataLength ≤ pending.receivedLen

def reassemble (pending : PendingBundle) : Bytes :=
  (pending.fragments.map Prod.snd).flatten

end PendingBundle

abbrev PendingMap := AList (fun _ : UInt64 => PendingBundle)

/-- The result of a receive, if it returns, with the pending map and the frames that
are left on the connection. -/
structure RecvOutcome where
  result : Option (Except Error Bytes)
  pending : PendingMap
  rest : List Bytes

/-- Frames are read until one completes a payload or is bad; without another frame the
call keeps waiting. -/
def recvBytes (codec : BundleCodec) : PendingMap → List Bytes → RecvOutcome
  | pending, [] => { result := none, pending := pending, rest := [] }
  | pending, raw :: rest =>
      match codec.tryFrom raw with
      | .error detail =>
          { result := some (.error (.bundle detail)), pending := pending, rest := rest }
      | .ok bundle =>
          if bundle.isFragment then
            match bundle.payload with
            | none =>
                { result := some (.error (.bundle "fragment missing payload"))
                  pending := pending
                  rest := rest }
            | some chunk =>
                let entry := (pending.lookup bundle.seqno).getD
                  { totalDataLength := bundle.totalDataLength, fragments := [] }
                let entry := { entry with
                  fragments := insertFragment bundle.fragmentationOffset chunk entry.fragments }
                if entry.isComplete then
                  { result := some (.ok entry.reassemble)
                    pending := pending.erase bundle.seqno
                    rest := rest }
                else recvBytes codec (pending.insert bundle.seqno entry) rest
          else
            match bundle.payload with
            | none =>
                { result := some (.error (.bundle "bundle missing payload"))
                  pending := pending
                  rest := rest }
            | some payload => { result := some (.ok payload), pending := pending, rest := rest }

/-! ## An encoding with CBOR heads -/

section SampleCodec

/-- Start of the bundle and of its primary block: version, flags, no checksum. -/
def primaryStart (isFragment : Bool) : Bytes :=
  if isFragment then [0x9f, 0x8a, 0x07, 0x01, 0x00] else [0x9f, 0x88, 0x07, 0x00, 0x00]

def localEndpoint : Bytes :=
  [0x82, 0x01, 0x71] ++ "//pathweave/local".toList.map fun char => UInt8.ofNat char.toNat

/-- Destination, source, no report endpoint, and the time part of the timestamp. -/
def endpoints : Bytes := localEndpoint ++ localEndpoint ++ [0x82, 0x01, 0x00, 0x82, 0x00]

/-- One hour in milliseconds. -/
def lifetime : Bytes := [0x1a, 0x00, 0x36, 0xee, 0x80]

def payloadStart : Bytes := [0x85, 0x01, 0x01, 0x00, 0x00]

@[simp] theorem primary_start_length (isFragment : Bool) :
    (primaryStart isFragment).length = 5 := by
  cases isFragment <;> rfl

@[simp] theorem endpoints_length : endpoints.length = 45 := by decide +kernel

@[simp] theorem lifetime_length : lifetime.length = 5 := rfl

@[simp] theorem payload_start_length : payloadStart.length = 5 := rfl

def encodePayload (payload : Bytes) : Bytes :=
  payloadStart ++ (encodeHead 2 payload.length ++ (payload ++ [0xff]))

def encodeBundle (bundle : Bundle) : Bytes :=
  primaryStart bundle.isFragment ++ (endpoints ++ (encodeHead 0 bundle.seqno.toNat ++ (lifetime ++
    if bundle.isFragment then
      encodeHead 0 bundle.fragmentationOffset ++
        (encodeHead 0 bundle.totalDataLength ++ encodePayload (bundle.payload.getD []))
    else encodePayload (bundle.payload.getD []))))

def decodePayload (bytes : Bytes) : Option Bytes := do
  let (size, data) ← decodeHead 2 (bytes.drop payloadStart.length)
  some (data.take size)

def decodeBundle (raw : Bytes) : Option Bundle := do
  let (seq, afterSeq) ← decodeHead 0 ((raw.drop 5).drop endpoints.length)
  let afterLifetime := afterSeq.drop lifetime.length
  if raw.take 5 = primaryStart true then
    let (offset, afterOffset) ← decodeHead 0 afterLifetime
    let (totalLen, afterTotal) ← decodeHead 0 afterOffset
    let payload ← decodePayload afterTotal
    some (fragmentBundle (UInt64.ofNat seq) offset totalLen payload)
  else
    let payload ← decodePayload afterLifetime
    some (wholeBundle (UInt64.ofNat seq) payload)

def sampleCodec : BundleCodec where
  toCbor := encodeBundle
  tryFrom raw :=
    match decodeBundle raw with
    | some bundle => .ok bundle
    | none => .error "invalid bundle"

end SampleCodec

end Pathweave
