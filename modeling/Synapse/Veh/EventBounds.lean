import Synapse.Veh.StatusClients

/-!
# Status events within their bounds

A status event has any length, and each type of it needs its own number of bytes. This
file gives the decoders of the three C++ clients with reads which have no result behind
the end of the payload. It determines for which events all reads stay inside, and which
status frames make the publishers send another one.
-/

namespace Synapse

def readByte (data : List UInt8) (index : ℕ) : Option UInt8 :=
  data[index]?

/-- The bytes from `first` to before `last`, read one by one or copied. -/
def readRange (data : List UInt8) (first last : ℕ) : Option (List UInt8) :=
  if first ≤ last ∧ last ≤ data.length then some ((data.take last).drop first) else none

/-- The line which a client logs for an event. -/
structure EventLog where
  type : UInt8
  val : List UInt8
deriving DecidableEq

/-! ## The decoders -/

def VehStatusSubscriber.decode (data : List UInt8) : Option (Option EventLine) :=
  if data.length < 2 then some none
  else do
    let type ← readByte data 0
    match StatusType.ofByte? type with
    | some .aebState => do
        let state ← readByte data 1
        some (some (.aebState (state != 0)))
    | some .autoparkState => do
        let step ← readByte data 1
        some (some (.autoparkState step))
    | some .tofDistance => do
        let high ← readByte data 1
        let middle ← readByte data 2
        let low ← readByte data 3
        some (some (.tofDistance (bigEndian24 high middle low)))
    | some .authState => do
        let state ← readByte data 1
        some (some (.authState (state != 0)))
    | none => some (some (.unknownType type (data.length - 1)))

def VsClientThread.decode (data : List UInt8) : Option (Option (EventLog × Option Signal)) :=
  if data.length < 2 then some none
  else do
    let type ← readByte data 0
    let val ← readRange data 1 data.length
    let signal ← match StatusType.ofByte? type with
      | some .aebState =>
          if data.length ≥ 2 then do
            let active ← readByte data 1
            some (some (.aebStateChanged (active != 0x00)))
          else some none
      | some .autoparkState =>
          if data.length ≥ 2 then do
            let state ← readByte data 1
            some (some (.autoparkStateChanged state))
          else some none
      | some .tofDistance =>
          if data.length ≥ 4 then do
            let high ← readByte data 1
            let middle ← readByte data 2
            let low ← readByte data 3
            some (some (.tofChanged (bigEndian24 high middle low)))
          else some none
      | some .authState =>
          if data.length ≥ 2 then do
            let ok ← readByte data 1
            some (some (.authStateChanged (ok != 0x00)))
          else some none
      | none => some none
    some (some (⟨type, val⟩, signal))

def VehUnifiedClient.decode (data : List UInt8) : Option (Option EventLog) :=
  if data.length < 2 then some none
  else do
    let type ← readByte data 0
    let val ← readRange data 1 data.length
    some (some ⟨type, val⟩)

/-- No client reads behind the end of the payload. -/
structure DecodedInBounds (data : List UInt8) : Prop where
  subscriber : VehStatusSubscriber.decode data ≠ none
  clientThread : VsClientThread.decode data ≠ none
  unifiedClient : VehUnifiedClient.decode data ≠ none

/-- A distance which is cut off before its third byte, in an event which is not ignored. -/
def IncompleteDistance (data : List UInt8) : Prop :=
  data[0]? = some 3 ∧ 2 ≤ data.length ∧ data.length ≤ 3

/-! ## The checked reads and the decoders -/

theorem readRange_tail (type : UInt8) (val : List UInt8) :
    readRange (type :: val) 1 (type :: val).length = some val := by
  rw [readRange, if_pos ⟨Nat.le_add_left 1 _, Nat.le_refl _⟩, List.take_length]
  rfl

/-- The subscriber reads past the end exactly where its decoder says so. -/
theorem VehStatusSubscriber.decode_eq (data : List UInt8) :
    decode data =
      match onEvent data with
      | .ignored => some none
      | .printed line => some (some line)
      | .outOfBounds => none := by
  match data with
  | [] => rfl
  | [_] => rfl
  | type :: first :: rest =>
      have long := not_length_event_lt type first rest
      rw [decode, onEvent, if_neg long, if_neg long]
      simp only [readByte, List.getElem?_cons_zero, List.getElem?_cons_succ,
        List.getElem!_cons_zero, List.drop_succ_cons, List.drop_zero, Option.bind_eq_bind,
        Option.bind_some]
      cases StatusType.ofByte? type with
      | none => rfl
      | some statusType =>
          cases statusType with
          | aebState => rfl
          | autoparkState => rfl
          | authState => rfl
          | tofDistance =>
              match rest with
              | [] => rfl
              | [_] => rfl
              | second :: third :: rest =>
                  simp [show ¬rest.length + 1 + 1 + 1 < 3 by omega]

/-- The client thread checks the length which each type needs, and reads inside it. -/
theorem VsClientThread.decode_eq (data : List UInt8) :
    decode data =
      if data.length < 2 then some none
      else some (some (⟨data[0]!, data.drop 1⟩, onEvent data)) := by
  match data with
  | [] => rfl
  | [_] => rfl
  | type :: first :: rest =>
      have long := not_length_event_lt type first rest
      rw [decode, onEvent, if_neg long, if_neg long, if_neg long, readRange_tail]
      have two : (type :: first :: rest).length ≥ 2 := by simp
      simp only [readByte, List.getElem?_cons_zero, List.getElem?_cons_succ,
        List.getElem!_cons_zero, Option.bind_eq_bind, Option.bind_some, if_pos two]
      cases StatusType.ofByte? type with
      | none => rfl
      | some statusType =>
          cases statusType with
          | aebState => rfl
          | autoparkState => rfl
          | authState => rfl
          | tofDistance =>
              match rest with
              | [] => rfl
              | [_] => rfl
              | second :: third :: rest =>
                  simp

theorem VehUnifiedClient.decode_eq (data : List UInt8) :
    decode data =
      if data.length < 2 then some none else some (some ⟨data[0]!, data.drop 1⟩) := by
  match data with
  | [] => rfl
  | [_] => rfl
  | type :: first :: rest =>
      have long := not_length_event_lt type first rest
      rw [decode, if_neg long, if_neg long, readRange_tail]
      rfl

/-! ## Events -/

theorem VehStatusSubscriber.onEvent_outOfBounds_iff (data : List UInt8) :
    onEvent data = .outOfBounds ↔ IncompleteDistance data := by
  match data with
  | [] => simp [onEvent, IncompleteDistance]
  | [_] => simp [onEvent, IncompleteDistance]
  | type :: first :: rest =>
      have long := not_length_event_lt type first rest
      rw [onEvent, if_neg long, IncompleteDistance]
      simp only [List.getElem!_cons_zero, List.getElem?_cons_zero, Option.some.injEq,
        List.drop_succ_cons, List.drop_zero, List.length_cons]
      rcases statusType_cases type with ⟨rfl, kind⟩ | ⟨rfl, kind⟩ | ⟨rfl, kind⟩ | ⟨rfl, kind⟩ |
        ⟨⟨_, _, three, _⟩, kind⟩
      · simp [kind]
      · simp [kind]
      · rw [kind]
        by_cases short : rest.length + 1 < 3
        · simp only [if_pos short, true_and, true_iff]
          omega
        · simp only [if_neg short, true_and, reduceCtorEq, false_iff]
          omega
      · simp [kind]
      · simp [kind, three]

theorem decodedInBounds_iff (data : List UInt8) :
    DecodedInBounds data ↔ ¬IncompleteDistance data := by
  have clientThread : VsClientThread.decode data ≠ none := by
    rw [VsClientThread.decode_eq]
    split <;> simp
  have unifiedClient : VehUnifiedClient.decode data ≠ none := by
    rw [VehUnifiedClient.decode_eq]
    split <;> simp
  have subscriber : VehStatusSubscriber.decode data ≠ none ↔ ¬IncompleteDistance data := by
    rw [VehStatusSubscriber.decode_eq, ← VehStatusSubscriber.onEvent_outOfBounds_iff]
    cases VehStatusSubscriber.onEvent data <;> simp
  constructor
  · intro inBounds
    exact subscriber.mp inBounds.subscriber
  · intro complete
    exact ⟨subscriber.mpr complete, clientThread, unifiedClient⟩

/-! ## Published events -/

/-- No status frame with a distance and fewer than four bytes on the bus. -/
def CompleteStatus : CanRead → Prop
  | .failed => True
  | .frame frame =>
      frame.canId = vehStatusCanId → 2 ≤ frame.canDlc.toNat → frame.data[0]! = 3 →
        4 ≤ frame.canDlc.toNat

section Published

variable {frame : ReceivedFrame}

theorem completeStatus_iff (status : frame.canId = vehStatusCanId ∧ 2 ≤ frame.canDlc.toNat) :
    CompleteStatus (.frame frame) ↔
      ¬IncompleteDistance (frame.data[0]! :: frame.dataBytes 1) := by
  have length := frame.length_dataBytes 1
  simp only [CompleteStatus, IncompleteDistance, List.getElem?_cons_zero, Option.some.injEq,
    List.length_cons, length, forall_prop_of_true status.1, forall_prop_of_true status.2]
  constructor
  · rintro complete ⟨distance, _, short⟩
    have long := complete distance
    omega
  · intro complete distance
    by_contra short
    exact complete ⟨distance, by omega, by omega⟩

theorem completeStatus_of_other (other : ¬(frame.canId = vehStatusCanId ∧
    2 ≤ frame.canDlc.toNat)) : CompleteStatus (.frame frame) :=
  fun status carried => absurd ⟨status, carried⟩ other

theorem VehStatusPublisher.publishOnce_inBounds_iff (read : CanRead) :
    (∀ payload, publishOnce read = some payload → DecodedInBounds payload) ↔
      CompleteStatus read := by
  cases read with
  | failed => simp [publishOnce, CompleteStatus]
  | frame frame =>
      have dlcIff : frame.canDlc ≥ 2 ↔ 2 ≤ frame.canDlc.toNat := UInt8.le_iff_toNat_le
      rw [publishOnce]
      by_cases status : frame.canId = vehStatusCanId ∧ 2 ≤ frame.canDlc.toNat
      · rw [if_pos ⟨status.1, dlcIff.mpr status.2⟩, completeStatus_iff status,
          ← decodedInBounds_iff]
        simp [makePayload]
      · rw [if_neg fun cond => status ⟨cond.1, dlcIff.mp cond.2⟩]
        exact iff_of_true (by simp) (completeStatus_of_other status)

theorem VehUnifiedServer.listen_inBounds_iff (read : CanRead) :
    (∀ payload, listen read = some payload → DecodedInBounds payload) ↔
      CompleteStatus read := by
  cases read with
  | failed => simp [listen, CompleteStatus]
  | frame frame =>
      have dlcIff : frame.canDlc ≥ 2 ↔ 2 ≤ frame.canDlc.toNat := UInt8.le_iff_toNat_le
      have longIff : frame.canDlc ≥ 4 ↔ 4 ≤ frame.canDlc.toNat := UInt8.le_iff_toNat_le
      rw [listen]
      by_cases status : frame.canId = vehStatusCanId ∧ 2 ≤ frame.canDlc.toNat
      · have standard : frame.canId &&& canEffFlag = 0 := by
          rw [status.1]
          decide
        rw [if_pos ⟨standard, status.1, dlcIff.mpr status.2⟩]
        by_cases distance : frame.data[0]! = 0x03 ∧ frame.canDlc ≥ 4
        · have cut : DecodedInBounds
              (publishStatus frame.data[0]! ((frame.data.toList.take 4).drop 1)) := by
            rw [decodedInBounds_iff]
            rintro ⟨_, _, short⟩
            simp [publishStatus] at short
          simp only [if_pos distance]
          exact iff_of_true (by simpa using cut) fun _ _ _ => longIff.mp distance.2
        · simp only [if_neg distance]
          rw [completeStatus_iff status, ← decodedInBounds_iff]
          simp [publishStatus]
      · rw [if_neg fun cond => status ⟨cond.2.1, dlcIff.mp cond.2.2⟩]
        exact iff_of_true (by simp) (completeStatus_of_other status)

theorem VehUnifiedServer.completeStatus_received_iff (traffic : List CanRead) :
    (∀ read ∈ statusFilter.received traffic, CompleteStatus read) ↔
      ∀ read ∈ traffic, CompleteStatus read := by
  simp only [CanFilter.received, List.mem_filter]
  constructor
  · intro complete read readMem
    cases read with
    | failed => trivial
    | frame frame =>
        intro status
        have delivered : statusFilter.delivers (.frame frame) = true := by
          change statusFilter.passes frame.canId = true
          rw [status]
          decide
        exact complete (.frame frame) ⟨readMem, delivered⟩ status
  · rintro complete read ⟨readMem, _⟩
    exact complete read readMem

end Published

/-- An event is decoded within its bounds exactly if it is no distance cut short, and the
publishers send no other event exactly if the bus carries no such distance. -/
theorem statusEvents_inBounds_iff (data : List UInt8) (filterInstalled : Bool)
    (traffic : List CanRead) :
    (DecodedInBounds data ↔ ¬IncompleteDistance data) ∧
    ((∀ payload ∈ VehStatusPublisher.publishLoop traffic, DecodedInBounds payload) ↔
      ∀ read ∈ traffic, CompleteStatus read) ∧
    ((∀ payload ∈ VehUnifiedServer.canListenerLoop filterInstalled traffic,
        DecodedInBounds payload) ↔
      ∀ read ∈ traffic, CompleteStatus read) := by
  have published : ∀ (publish : CanRead → Option (List UInt8)) (traffic : List CanRead),
      (∀ read, (∀ payload, publish read = some payload → DecodedInBounds payload) ↔
        CompleteStatus read) →
      ((∀ payload ∈ traffic.filterMap publish, DecodedInBounds payload) ↔
        ∀ read ∈ traffic, CompleteStatus read) := by
    intro publish traffic inBoundsIff
    simp only [List.mem_filterMap, forall_exists_index, and_imp, ← inBoundsIff]
    exact ⟨fun all read readMem payload publishes => all payload read readMem publishes,
      fun all payload read readMem publishes => all read readMem payload publishes⟩
  refine ⟨decodedInBounds_iff data, ?_, ?_⟩
  · exact published _ traffic VehStatusPublisher.publishOnce_inBounds_iff
  · rw [VehUnifiedServer.canListenerLoop, published _ _ VehUnifiedServer.listen_inBounds_iff]
    cases filterInstalled with
    | true => exact VehUnifiedServer.completeStatus_received_iff traffic
    | false => rfl

/-- A status frame of two bytes with a distance. -/
def shortDistance : ReceivedFrame where
  canId := vehStatusCanId
  canDlc := 2
  data := #v[0x03, 0x01, 0, 0, 0, 0, 0, 0]
  canDlc_le := by decide

/-- Both publishers pass the frame on, and the subscriber reads the third and fourth byte of an
event which has two. -/
theorem not_inBounds_shortDistance :
    VehStatusPublisher.publishLoop [.frame shortDistance] = [[0x03, 0x01]] ∧
      VehUnifiedServer.canListenerLoop true [.frame shortDistance] = [[0x03, 0x01]] ∧
      ¬DecodedInBounds [0x03, 0x01] := by
  refine ⟨by decide, by decide, ?_⟩
  intro inBounds
  exact inBounds.subscriber rfl

end Synapse
