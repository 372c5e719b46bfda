import Synapse.Library.Bytes
import Synapse.Library.Framing

/-!
# DoIP messages

The header of eight bytes, the three messages which the gateway builds, and the
framing by which both ends cut the byte stream of a connection into messages.
Each message is written into a zeroed buffer of a size computed apart from
the announced payload length, so that both agree is proved for each layout.
-/

namespace Synapse

def clientLogicalAddress : ℕ := 0x0E00

def serverLogicalAddress : ℕ := 0x1000

def routingActivationRequestType : ℕ := 0x0005

def routingActivationResponseType : ℕ := 0x0006

def diagnosticMessageType : ℕ := 0x8001

def diagnosticAckType : ℕ := 0x8002

/-- The packed header structure, with its fields in host byte order. -/
structure DoIPHeader where
  version : UInt8
  inverseVersion : UInt8
  payloadType : ℕ
  payloadLength : ℕ
deriving DecidableEq

namespace DoIPHeader

def size : ℕ := 8

def toBytes (header : DoIPHeader) : List UInt8 :=
  [header.version, header.inverseVersion] ++ Bytes.bigEndian 2 header.payloadType ++
    Bytes.bigEndian 4 header.payloadLength

def ofBytes (bytes : List UInt8) : DoIPHeader where
  version := bytes.getD 0 0
  inverseVersion := bytes.getD 1 0
  payloadType := Bytes.ofBigEndian ((bytes.drop 2).take 2)
  payloadLength := Bytes.ofBigEndian ((bytes.drop 4).take 4)

@[simp]
theorem length_toBytes (header : DoIPHeader) : header.toBytes.length = size := by
  simp [toBytes, size]

/-- A header whose numbers fit their fields is read back unchanged. -/
theorem ofBytes_toBytes {header : DoIPHeader} (typeLt : header.payloadType < 2 ^ 16)
    (lengthLt : header.payloadLength < 2 ^ 32) : ofBytes header.toBytes = header := by
  have typeEq : (header.toBytes.drop 2).take 2 = Bytes.bigEndian 2 header.payloadType := by
    rw [toBytes, List.append_assoc, List.drop_left' (by rfl), List.take_left' (by simp)]
  have lengthEq : (header.toBytes.drop 4).take 4 = Bytes.bigEndian 4 header.payloadLength := by
    rw [toBytes, List.drop_left' (by simp), List.take_of_length_le (by simp)]
  simp only [ofBytes, typeEq, lengthEq, Bytes.ofBigEndian_bigEndian]
  have typeMod : header.payloadType % 256 ^ 2 = header.payloadType := Nat.mod_eq_of_lt typeLt
  have lengthMod : header.payloadLength % 256 ^ 4 = header.payloadLength :=
    Nat.mod_eq_of_lt lengthLt
  rw [typeMod, lengthMod]
  rfl

end DoIPHeader

/-- The cut of a byte stream into DoIP messages: the header announces the payload length. -/
def doipFraming : Framing UInt8 where
  headerSize := DoIPHeader.size
  headerSize_pos := by decide
  payloadLength := fun header => (DoIPHeader.ofBytes header).payloadLength

abbrev DoIPMessage := doipFraming.Frame

namespace DoIPMessage

def payloadType (message : DoIPMessage) : ℕ :=
  (DoIPHeader.ofBytes message.header).payloadType

/-- The payload behind the source and the target address. -/
def udsData (message : DoIPMessage) : List UInt8 :=
  message.payload.drop 4

def ofHeader (header : DoIPHeader) (payload : List UInt8) (typeLt : header.payloadType < 2 ^ 16)
    (lengthLt : payload.length < 2 ^ 32) (lengthEq : header.payloadLength = payload.length) :
    DoIPMessage where
  header := header.toBytes
  payload := payload
  header_length := header.length_toBytes
  payload_length := by
    simp only [doipFraming, DoIPHeader.ofBytes_toBytes typeLt (by omega), lengthEq]

end DoIPMessage

/-- A buffer of zeros whose first bytes have been written. -/
def zeroFilled (size : ℕ) (written : List UInt8) : List UInt8 :=
  written ++ List.replicate (size - written.length) 0

theorem zeroFilled_of_length {size : ℕ} {written : List UInt8} (lengthEq : written.length = size) :
    zeroFilled size written = written := by
  simp [zeroFilled, lengthEq]

def gatewayHeader (payloadType payloadLength : ℕ) : DoIPHeader where
  version := 2
  inverseVersion := ~~~2
  payloadType := payloadType
  payloadLength := payloadLength

def routingActivationResponse : List UInt8 :=
  zeroFilled (DoIPHeader.size + 9)
    ((gatewayHeader routingActivationResponseType 9).toBytes ++
      Bytes.bigEndian 2 clientLogicalAddress ++ Bytes.bigEndian 2 serverLogicalAddress ++ [0x10])

def positiveAck : List UInt8 :=
  zeroFilled (DoIPHeader.size + 5)
    ((gatewayHeader diagnosticAckType 5).toBytes ++
      Bytes.bigEndian 2 serverLogicalAddress ++ Bytes.bigEndian 2 clientLogicalAddress ++ [0x00])

/-- The diagnostic message which carries a payload to the tester. -/
def diagnosticMessage (finalUdsPayload : List UInt8) : List UInt8 :=
  let doipPayloadSize := 4 + finalUdsPayload.length
  zeroFilled (DoIPHeader.size + doipPayloadSize)
    ((gatewayHeader diagnosticMessageType doipPayloadSize).toBytes ++
      Bytes.bigEndian 2 serverLogicalAddress ++ Bytes.bigEndian 2 clientLogicalAddress ++
      finalUdsPayload)

theorem drop_diagnosticMessage (finalUdsPayload : List UInt8) :
    (diagnosticMessage finalUdsPayload).drop (DoIPHeader.size + 4) = finalUdsPayload := by
  rw [diagnosticMessage, zeroFilled_of_length]
  · apply List.drop_left'
    simp [DoIPHeader.size]
  · simp [DoIPHeader.size]
    omega

/-! ## The three layouts are complete messages -/

/-- `bytes` are exactly one complete message. -/
def IsMessage (bytes : List UInt8) : Prop :=
  ∃ message : DoIPMessage, message.bytes = bytes

theorem isMessage_routingActivationResponse : IsMessage routingActivationResponse := by
  refine ⟨DoIPMessage.ofHeader (gatewayHeader routingActivationResponseType 9)
    (Bytes.bigEndian 2 clientLogicalAddress ++ Bytes.bigEndian 2 serverLogicalAddress ++
      [0x10, 0, 0, 0, 0]) (by decide) (by decide) rfl, ?_⟩
  decide

theorem isMessage_positiveAck : IsMessage positiveAck := by
  refine ⟨DoIPMessage.ofHeader (gatewayHeader diagnosticAckType 5)
    (Bytes.bigEndian 2 serverLogicalAddress ++ Bytes.bigEndian 2 clientLogicalAddress ++ [0x00])
    (by decide) (by decide) rfl, ?_⟩
  decide

/-- A forwarded payload is framed by its own length, as long as this fits the length field. -/
theorem exists_diagnosticMessage {finalUdsPayload : List UInt8}
    (fits : 4 + finalUdsPayload.length < 2 ^ 32) :
    ∃ message : DoIPMessage, message.bytes = diagnosticMessage finalUdsPayload ∧
      message.payloadType = diagnosticMessageType ∧ message.udsData = finalUdsPayload := by
  have payloadLength : (Bytes.bigEndian 2 serverLogicalAddress ++
      Bytes.bigEndian 2 clientLogicalAddress ++ finalUdsPayload).length =
        4 + finalUdsPayload.length := by
    simp only [List.length_append, Bytes.length_bigEndian]
  have typeLt : diagnosticMessageType < 2 ^ 16 := by decide
  refine ⟨DoIPMessage.ofHeader (gatewayHeader diagnosticMessageType (4 + finalUdsPayload.length))
    (Bytes.bigEndian 2 serverLogicalAddress ++ Bytes.bigEndian 2 clientLogicalAddress ++
      finalUdsPayload) typeLt (by rw [payloadLength]; exact fits) payloadLength.symm, ?_, ?_, ?_⟩
  · rw [diagnosticMessage, zeroFilled_of_length]
    · simp only [Framing.Frame.bytes, DoIPMessage.ofHeader, List.append_assoc]
    · simp [DoIPHeader.size]
      omega
  · simp only [DoIPMessage.payloadType, DoIPMessage.ofHeader]
    rw [DoIPHeader.ofBytes_toBytes typeLt fits]
    rfl
  · simp only [DoIPMessage.udsData, DoIPMessage.ofHeader]
    rw [List.drop_left' (by simp)]

theorem isMessage_diagnosticMessage {finalUdsPayload : List UInt8}
    (fits : 4 + finalUdsPayload.length < 2 ^ 32) :
    IsMessage (diagnosticMessage finalUdsPayload) := by
  rcases exists_diagnosticMessage fits with ⟨message, bytesEq, _⟩
  exact ⟨message, bytesEq⟩

end Synapse
