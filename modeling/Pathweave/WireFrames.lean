import Pathweave.Identities

/-!
# Application frames

Every application frame is an eight-byte message id, a route flag and a body.
The producers of the source are transcribed one by one; `parseFrame` is the
reading that `dispatch_payload` makes of a byte string, stated on its own so
that the flooded content can be followed from hop to hop.
-/

namespace Pathweave

open ByteStrings

set_option autoImplicit false

def maxTtl : UInt8 := 7

/-- The high bit of the first byte is forced, which keeps application ids apart
from control frames. The entropy is drawn from the operating system. -/
def newMessageId (entropy : Octets 8) : UInt64 :=
  fromBeBytes (entropy.val.modifyHead (· ||| 0x80))

def directBody (payload : Bytes) : Bytes := 0x00 :: payload

def routedBody (dest : PeerId) (ttl : UInt8) (payload : Bytes) : Bytes :=
  0x01 :: (dest.asBytes ++ ttl :: payload)

def encodeKeyAnnouncement (peer : PeerId) (publicKey : PublicKey) (ttl : UInt8) : Bytes :=
  0x02 :: (peer.asBytes ++ publicKey.val ++ [ttl])

def sealedBody (dest : PeerId) (ttl : UInt8) (envelope : Bytes) : Bytes :=
  0x03 :: (dest.asBytes ++ ttl :: envelope)

def frameMessage (messageId : UInt64) (body : Bytes) : Bytes := toBeBytes messageId ++ body

def decodeKeyAnnouncement (payload : Bytes) : Checked (Option (PeerId × PublicKey × UInt8)) :=
  if payload.length ≠ 32 + 32 + 1 then .ok none
  else do
    let peer ← arrayAt payload 0 32
    let publicKey ← arrayAt payload 32 32
    let ttl ← byteAt payload 64
    .ok (some (⟨peer⟩, publicKey, ttl))

def validateKeyAnnouncement (prims : Primitives) (peer : PeerId) (publicKey : PublicKey) : Bool :=
  peerIdFromPublicKey prims publicKey = peer

/-- The content of a flooded frame: all of it but the message id and the TTL. -/
inductive Routed where
  | message (dest : PeerId) (payload : Bytes)
  | announcement (peer : PeerId) (publicKey : PublicKey)
  | sealedMessage (dest sender : PeerId) (noiseMessage : Bytes)
  deriving DecidableEq, Repr

def Routed.body : Routed → UInt8 → Bytes
  | .message dest payload, ttl => routedBody dest ttl payload
  | .announcement peer publicKey, ttl => encodeKeyAnnouncement peer publicKey ttl
  | .sealedMessage dest sender noiseMessage, ttl =>
      sealedBody dest ttl (sender.asBytes ++ noiseMessage)

/-- `skipped` stands for every byte string that is acknowledged and ignored. -/
inductive Frame where
  | direct (messageId : UInt64) (payload : Bytes)
  | routed (messageId : UInt64) (content : Routed) (ttl : UInt8)
  | skipped
  deriving DecidableEq, Repr

def parseFrame (payload : Bytes) : Frame :=
  if payload.length < 9 then .skipped
  else if payload.getD 8 0 = 0x00 then
    .direct (fromBeBytes (payload.take 8)) (payload.drop 9)
  else if payload.getD 8 0 = 0x01 then
    if long : 9 + 32 + 1 ≤ payload.length then
      .routed (fromBeBytes (payload.take 8))
        (.message ⟨octetsAt payload 9 32 (by omega)⟩ (payload.drop 42)) (payload.getD 41 0)
    else .skipped
  else if payload.getD 8 0 = 0x02 then
    if exact : payload.length = 9 + 65 then
      .routed (fromBeBytes (payload.take 8))
        (.announcement ⟨octetsAt payload 9 32 (by omega)⟩ (octetsAt payload 41 32 (by omega)))
        (payload.getD 73 0)
    else .skipped
  else if payload.getD 8 0 = 0x03 then
    if long : 9 + 32 + 1 + 32 ≤ payload.length then
      .routed (fromBeBytes (payload.take 8))
        (.sealedMessage ⟨octetsAt payload 9 32 (by omega)⟩ ⟨octetsAt payload 42 32 (by omega)⟩
          (payload.drop 74)) (payload.getD 41 0)
    else .skipped
  else .skipped

theorem frame_flag (messageId : UInt64) (flag : UInt8) (rest : Bytes) :
    (frameMessage messageId (flag :: rest)).getD 8 0 = flag := by
  rw [frameMessage, List.getD_append_right _ _ _ _ (by simp)]
  simp

theorem frame_message_id (messageId : UInt64) (body : Bytes) :
    fromBeBytes ((frameMessage messageId body).take 8) = messageId := by
  have front : (frameMessage messageId body).take 8 = toBeBytes messageId := by
    rw [frameMessage, List.take_left' (toBeBytes_length messageId)]
  rw [front, fromBeBytes_toBeBytes]

@[simp] theorem frame_message_length (messageId : UInt64) (body : Bytes) :
    (frameMessage messageId body).length = 8 + body.length := by
  simp [frameMessage]

theorem drop_frame (messageId : UInt64) (flag : UInt8) (before rest : Bytes) (count : Nat)
    (size : count = 9 + before.length) :
    (frameMessage messageId (flag :: (before ++ rest))).drop count = rest := by
  subst size
  have layout : frameMessage messageId (flag :: (before ++ rest)) =
      (toBeBytes messageId ++ flag :: before) ++ rest := by
    simp [frameMessage]
  rw [layout, List.drop_left']
  simp
  omega

theorem octetsAt_frame (messageId : UInt64) (flag : UInt8) (before after : Bytes)
    {size : Nat} (octets : Octets size) (start : Nat) (place : start = 9 + before.length)
    (inside : start + size ≤
      (frameMessage messageId (flag :: (before ++ (octets.val ++ after)))).length) :
    octetsAt (frameMessage messageId (flag :: (before ++ (octets.val ++ after)))) start size inside =
      octets := by
  apply Subtype.ext
  simp only [octetsAt]
  rw [drop_frame messageId flag before _ start place, List.take_left' octets.property]

theorem getD_frame (messageId : UInt64) (flag byte : UInt8) (before after : Bytes) (index : Nat)
    (place : index = 9 + before.length) :
    (frameMessage messageId (flag :: (before ++ byte :: after))).getD index 0 = byte := by
  rw [List.getD_eq_getElem?_getD, ← List.head?_drop, drop_frame messageId flag before _ index place]
  rfl

theorem parse_direct (messageId : UInt64) (payload : Bytes) :
    parseFrame (frameMessage messageId (directBody payload)) = .direct messageId payload := by
  have long : ¬ (frameMessage messageId (directBody payload)).length < 9 := by
    simp [directBody]
    omega
  have rest := drop_frame messageId 0x00 [] payload 9 (by simp)
  rw [List.nil_append] at rest
  rw [parseFrame, if_neg long, if_pos (by rw [directBody, frame_flag]), frame_message_id,
    directBody, rest]

theorem parse_message (messageId : UInt64) (dest : PeerId) (payload : Bytes) (ttl : UInt8) :
    parseFrame (frameMessage messageId (routedBody dest ttl payload)) =
      .routed messageId (.message dest payload) ttl := by
  have size : (frameMessage messageId (routedBody dest ttl payload)).length =
      42 + payload.length := by
    simp [routedBody]
    omega
  have flag := frame_flag messageId 0x01 (dest.asBytes ++ ttl :: payload)
  have body : routedBody dest ttl payload =
      0x01 :: ([] ++ (dest.octets.val ++ ttl :: payload)) := rfl
  have ttlByte := getD_frame messageId 0x01 ttl dest.asBytes payload 41 (by simp)
  have rest : (frameMessage messageId (routedBody dest ttl payload)).drop 42 = payload := by
    have shifted := drop_frame messageId 0x01 (dest.asBytes ++ [ttl]) payload 42 (by simp)
    simpa [routedBody] using shifted
  rw [parseFrame, if_neg (by omega), if_neg (by rw [routedBody, flag]; decide),
    if_pos (by rw [routedBody, flag]), dif_pos (by omega), frame_message_id, rest]
  have destRead : octetsAt (frameMessage messageId (routedBody dest ttl payload)) 9 32 (by omega) =
      dest.octets := by
    simp only [body]
    exact octetsAt_frame messageId 0x01 [] (ttl :: payload) dest.octets 9 (by simp) _
  rw [destRead, routedBody, ttlByte]

theorem parse_announcement (messageId : UInt64) (peer : PeerId) (publicKey : PublicKey)
    (ttl : UInt8) :
    parseFrame (frameMessage messageId (encodeKeyAnnouncement peer publicKey ttl)) =
      .routed messageId (.announcement peer publicKey) ttl := by
  have size : (frameMessage messageId (encodeKeyAnnouncement peer publicKey ttl)).length = 74 := by
    simp [encodeKeyAnnouncement, publicKey.property]
  have flag := frame_flag messageId 0x02 (peer.asBytes ++ publicKey.val ++ [ttl])
  have peerRead :
      octetsAt (frameMessage messageId (encodeKeyAnnouncement peer publicKey ttl)) 9 32
        (by omega) = peer.octets := by
    have body : encodeKeyAnnouncement peer publicKey ttl =
        0x02 :: ([] ++ (peer.octets.val ++ (publicKey.val ++ [ttl]))) := by
      simp [encodeKeyAnnouncement, PeerId.asBytes]
    simp only [body]
    exact octetsAt_frame messageId 0x02 [] (publicKey.val ++ [ttl]) peer.octets 9 (by simp) _
  have keyRead :
      octetsAt (frameMessage messageId (encodeKeyAnnouncement peer publicKey ttl)) 41 32
        (by omega) = publicKey := by
    have body : encodeKeyAnnouncement peer publicKey ttl =
        0x02 :: (peer.asBytes ++ (publicKey.val ++ [ttl])) := by
      simp [encodeKeyAnnouncement]
    simp only [body]
    exact octetsAt_frame messageId 0x02 peer.asBytes [ttl] publicKey 41 (by simp) _
  have ttlByte := getD_frame messageId 0x02 ttl (peer.asBytes ++ publicKey.val) [] 73
    (by simp [publicKey.property])
  rw [parseFrame, if_neg (by omega), if_neg (by rw [encodeKeyAnnouncement, flag]; decide),
    if_neg (by rw [encodeKeyAnnouncement, flag]; decide),
    if_pos (by rw [encodeKeyAnnouncement, flag]), dif_pos size, frame_message_id, peerRead,
    keyRead, encodeKeyAnnouncement, ttlByte]

theorem parse_sealed (messageId : UInt64) (dest sender : PeerId) (noiseMessage : Bytes)
    (ttl : UInt8) :
    parseFrame (frameMessage messageId (sealedBody dest ttl (sender.asBytes ++ noiseMessage))) =
      .routed messageId (.sealedMessage dest sender noiseMessage) ttl := by
  have size : (frameMessage messageId
      (sealedBody dest ttl (sender.asBytes ++ noiseMessage))).length =
      74 + noiseMessage.length := by
    simp [sealedBody]
    omega
  have flag := frame_flag messageId 0x03
    (dest.asBytes ++ ttl :: (sender.asBytes ++ noiseMessage))
  have destRead : octetsAt (frameMessage messageId
      (sealedBody dest ttl (sender.asBytes ++ noiseMessage))) 9 32 (by omega) = dest.octets := by
    have body : sealedBody dest ttl (sender.asBytes ++ noiseMessage) =
        0x03 :: ([] ++ (dest.octets.val ++ ttl :: (sender.asBytes ++ noiseMessage))) := rfl
    simp only [body]
    exact octetsAt_frame messageId 0x03 [] _ dest.octets 9 (by simp) _
  have senderRead : octetsAt (frameMessage messageId
      (sealedBody dest ttl (sender.asBytes ++ noiseMessage))) 42 32 (by omega) =
      sender.octets := by
    have body : sealedBody dest ttl (sender.asBytes ++ noiseMessage) =
        0x03 :: ((dest.asBytes ++ [ttl]) ++ (sender.octets.val ++ noiseMessage)) := by
      simp [sealedBody, PeerId.asBytes]
    simp only [body]
    exact octetsAt_frame messageId 0x03 (dest.asBytes ++ [ttl]) noiseMessage sender.octets 42
      (by simp) _
  have ttlByte := getD_frame messageId 0x03 ttl dest.asBytes (sender.asBytes ++ noiseMessage) 41
    (by simp)
  have rest : (frameMessage messageId
      (sealedBody dest ttl (sender.asBytes ++ noiseMessage))).drop 74 = noiseMessage := by
    have shifted := drop_frame messageId 0x03 (dest.asBytes ++ [ttl] ++ sender.asBytes)
      noiseMessage 74 (by simp)
    simpa [sealedBody] using shifted
  rw [parseFrame, if_neg (by omega), if_neg (by rw [sealedBody, flag]; decide),
    if_neg (by rw [sealedBody, flag]; decide), if_neg (by rw [sealedBody, flag]; decide),
    if_pos (by rw [sealedBody, flag]), dif_pos (by omega), frame_message_id, rest, destRead,
    senderRead, sealedBody, ttlByte]

/-- Whatever producer built the body of a flooded frame, the receiver reads back
the same id, content and TTL byte. -/
@[simp] theorem parse_routed (messageId : UInt64) (content : Routed) (ttl : UInt8) :
    parseFrame (frameMessage messageId (content.body ttl)) = .routed messageId content ttl := by
  cases content with
  | message dest payload => exact parse_message messageId dest payload ttl
  | announcement peer publicKey => exact parse_announcement messageId peer publicKey ttl
  | sealedMessage dest sender noiseMessage =>
      exact parse_sealed messageId dest sender noiseMessage ttl

end Pathweave
