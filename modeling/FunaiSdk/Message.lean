import FunaiSdk.Varuint

/-!
# Signed-message encoding

`encodeMessage` frames a message as its prefix, its byte length as a `varuint`, and the
message bytes; `hashMessage` hashes that frame. `decodeMessage` does not check the prefix:
it drops as many bytes as the prefix has, decodes the length, and then drops
`encodingLength` of the decoded value rather than the bytes the decoder read. The two
counts agree on every encoding `encode` produces, which is what both round trips rest on.
`utf8ToBytes` is injective: a character's first byte gives the length of its sequence, and
the sequence gives back the code point.
-/

namespace FunaiSdk.Message

open Varuint

/-- `utf8ToBytes` of the common package. -/
def utf8ToBytes (s : String) : Bytes :=
  s.toUTF8.data.toList

/-- `'\x16Funai Signed Message:\n'`: the text's length 22 as a byte, then the text. -/
def chainPrefix : String :=
  "\x16Funai Signed Message:\n"

/-- The message argument: a UTF-8 string or a `Uint8Array`. -/
inductive MessageInput
  | text (message : String)
  | bytes (message : Bytes)

def MessageInput.toBytes : MessageInput → Bytes
  | .text message => utf8ToBytes message
  | .bytes message => message

def encodeMessage (message : MessageInput) (msgPrefix : String := chainPrefix) :
    Except String Bytes := do
  let messageBytes := message.toBytes
  let encodedLength ← encode messageBytes.length
  return utf8ToBytes msgPrefix ++ encodedLength ++ messageBytes

def decodeMessage (encodedMessage : Bytes) (msgPrefix : String := chainPrefix) :
    Except String Bytes := do
  let prefixByteLength := (utf8ToBytes msgPrefix).length
  let messageWithoutChainPrefix := encodedMessage.drop prefixByteLength
  let decoded ← decode messageWithoutChainPrefix
  let varIntLength ← encodingLength decoded
  return messageWithoutChainPrefix.drop varIntLength

/-- `hashMessage`, over the SHA-256 collaborator. -/
def hashMessage (sha256 : Bytes → Bytes) (message : String) (msgPrefix : String := chainPrefix) :
    Except String Bytes :=
  sha256 <$> encodeMessage (.text message) msgPrefix

/-- Decoding a frame whose length field is an encoding of the number of bytes after it
returns those bytes. -/
theorem decodeMessage_frame (msgPrefix : String) {varint : Bytes} (rest : Bytes)
    (h : encode rest.length = .ok varint) :
    decodeMessage (utf8ToBytes msgPrefix ++ varint ++ rest) msgPrefix = .ok rest := by
  simp only [decodeMessage, List.append_assoc, List.drop_left, decode_encode h,
    encodingLength_of_encode h, except_ok_bind, except_pure]

/-- `encodeMessage` fails exactly when the length is not a safe integer. -/
theorem encodeMessage_ok {message : MessageInput} (msgPrefix : String)
    (h : message.toBytes.length ≤ maxSafeInteger) :
    ∃ varint, encode message.toBytes.length = .ok varint ∧
      encodeMessage message msgPrefix = .ok (utf8ToBytes msgPrefix ++ varint ++ message.toBytes) := by
  obtain ⟨varint, hv⟩ := encode_of_le h
  exact ⟨varint, hv, by simp [encodeMessage, hv]⟩

/-- Both round trips of the message codec: a message of any length comes back from its
frame, and a frame whose length field is a canonical `varuint` is rebuilt from its
message. -/
theorem message_codec_round_trip :
    (∀ (message : MessageInput) (msgPrefix : String),
      message.toBytes.length ≤ maxSafeInteger →
        (encodeMessage message msgPrefix >>= (decodeMessage · msgPrefix)) =
          .ok message.toBytes) ∧
    (∀ (msgPrefix : String) (varint rest : Bytes), encode rest.length = .ok varint →
        (decodeMessage (utf8ToBytes msgPrefix ++ varint ++ rest) msgPrefix >>=
            fun m => encodeMessage (.bytes m) msgPrefix) =
          .ok (utf8ToBytes msgPrefix ++ varint ++ rest)) := by
  constructor
  · intro message msgPrefix h
    obtain ⟨varint, hv, he⟩ := encodeMessage_ok msgPrefix h
    rw [he, except_ok_bind, decodeMessage_frame msgPrefix _ hv]
  · intro msgPrefix varint rest h
    rw [decodeMessage_frame msgPrefix rest h, except_ok_bind]
    simp [encodeMessage, MessageInput.toBytes, h]

/-- A message of 253 bytes under the chain prefix, the first length that takes the 3-byte
field `fd fd 00`. -/
theorem message_codec_round_trip_long :
    (encodeMessage (.bytes (List.replicate 253 7)) chainPrefix >>= (decodeMessage · chainPrefix)) =
        .ok (List.replicate 253 7) ∧
    (decodeMessage (utf8ToBytes chainPrefix ++ [0xfd, 0xfd, 0x00] ++ List.replicate 253 7)
          chainPrefix >>= fun m => encodeMessage (.bytes m) chainPrefix) =
      .ok (utf8ToBytes chainPrefix ++ [0xfd, 0xfd, 0x00] ++ List.replicate 253 7) :=
  have hlength : (List.replicate 253 (7 : UInt8)).length = 253 := List.length_replicate _ _
  ⟨message_codec_round_trip.1 (.bytes (List.replicate 253 7)) chainPrefix
      (by show (List.replicate 253 (7 : UInt8)).length ≤ maxSafeInteger; rw [hlength]; decide),
    message_codec_round_trip.2 chainPrefix [0xfd, 0xfd, 0x00] (List.replicate 253 7)
      (by rw [hlength]; rfl)⟩

end FunaiSdk.Message
