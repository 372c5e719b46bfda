import Synapse.Veh.StatusService
import Synapse.Veh.VehicleControlGui

/-!
# The status clients

Three clients read status events: the Qt client, the subscriber on the command line and
the Python client. This file gives the subscriber, reduces what each client shows
to a quantity with its value, and determines on which events the three agree.
-/

namespace Synapse

/-- The lines which the subscriber prints. -/
inductive EventLine where
  | aebState (on : Bool)
  | autoparkState (step : UInt8)
  | tofDistance (mm : UInt32)
  | authState (success : Bool)
  | unknownType (type : UInt8) (len : ℕ)
deriving DecidableEq

inductive SubscriberOutcome where
  | ignored
  | printed (line : EventLine)
  /-- A byte behind the end of the payload was read. -/
  | outOfBounds
deriving DecidableEq

/-- The subscriber on an event payload; it does not check the length of a distance. -/
def VehStatusSubscriber.onEvent (data : List UInt8) : SubscriberOutcome :=
  if data.length < 2 then .ignored
  else
    let type := data[0]!
    let val := data.drop 1
    match StatusType.ofByte? type with
    | some .aebState => .printed (.aebState (val[0]! != 0))
    | some .autoparkState => .printed (.autoparkState val[0]!)
    | some .tofDistance =>
        if val.length < 3 then .outOfBounds
        else .printed (.tofDistance (bigEndian24 val[0]! val[1]! val[2]!))
    | some .authState => .printed (.authState (val[0]! != 0))
    | none => .printed (.unknownType type (data.length - 1))

/-- The quantity to which a client attributes an event, with its value. -/
inductive Reading where
  | aeb (active : Bool)
  | autopark (progress : UInt8)
  | tof (distance : ℕ)
  | auth (ok : Bool)
  | unknown
deriving DecidableEq

def Signal.reading : Signal → Reading
  | .aebStateChanged active => .aeb active
  | .autoparkStateChanged state => .autopark state
  | .tofChanged mm => .tof mm.toNat
  | .authStateChanged ok => .auth ok

def EventLine.reading : EventLine → Reading
  | .aebState on => .aeb on
  | .autoparkState step => .autopark step
  | .tofDistance mm => .tof mm.toNat
  | .authState success => .auth success
  | .unknownType _ _ => .unknown

def VehicleControlGui.StatusUpdate.reading : StatusUpdate → Reading
  | .tof dist => .tof dist
  | .aeb active => .aeb active
  | .autopark prog => .autopark prog

/-- What the Qt client reads; an event without a signal is of no known quantity. -/
def VsClientThread.reading (data : List UInt8) : Reading :=
  (onEvent data).elim .unknown Signal.reading

/-- What the Python client reads; an event which it does not show is of no known quantity. -/
def VehicleControlGui.reading (data : List UInt8) : Reading :=
  (statusUpdate? data).elim .unknown StatusUpdate.reading

/-- All three clients read the event, in the same way. -/
def SameReading (data : List UInt8) : Prop :=
  (∃ line, VehStatusSubscriber.onEvent data = .printed line ∧
      line.reading = VsClientThread.reading data) ∧
    VehicleControlGui.reading data = VsClientThread.reading data

section Readings

variable (type first second third : UInt8) (rest : List UInt8)

/-- An event with a byte behind its type is not too short for the clients. -/
theorem not_length_event_lt : ¬(type :: first :: rest).length < 2 := by
  simp

/-- The subscriber reads every event of four bytes like the Qt client. -/
theorem subscriber_reading :
    ∃ line, VehStatusSubscriber.onEvent (type :: first :: second :: third :: rest) =
        .printed line ∧
      line.reading = VsClientThread.reading (type :: first :: second :: third :: rest) := by
  have long := not_length_event_lt type first (second :: third :: rest)
  have valLong : ¬((type :: first :: second :: third :: rest).drop 1).length < 3 := by simp
  have distanceLong : (type :: first :: second :: third :: rest).length ≥ 4 := by simp
  rw [VehStatusSubscriber.onEvent, VsClientThread.reading, VsClientThread.onEvent, if_neg long,
    if_neg long]
  simp only [List.getElem!_cons_zero]
  cases StatusType.ofByte? type with
  | none => exact ⟨_, rfl, rfl⟩
  | some statusType =>
      cases statusType with
      | aebState => exact ⟨_, rfl, rfl⟩
      | autoparkState => exact ⟨_, rfl, rfl⟩
      | tofDistance =>
          simp only [if_neg valLong, if_pos distanceLong]
          exact ⟨_, rfl, rfl⟩
      | authState => exact ⟨_, rfl, rfl⟩

theorem qt_reading :
    VsClientThread.reading (type :: first :: second :: third :: rest) =
      if type = 1 then .aeb (first != 0)
      else if type = 2 then .autopark first
      else if type = 3 then .tof (bigEndian24 first second third).toNat
      else if type = 4 then .auth (first != 0)
      else .unknown := by
  have long := not_length_event_lt type first (second :: third :: rest)
  have distanceLong : (type :: first :: second :: third :: rest).length ≥ 4 := by simp
  rw [VsClientThread.reading, VsClientThread.onEvent, if_neg long]
  simp only [List.getElem!_cons_zero]
  rcases statusType_cases type with ⟨rfl, kind⟩ | ⟨rfl, kind⟩ | ⟨rfl, kind⟩ | ⟨rfl, kind⟩ |
    ⟨⟨one, two, three, four⟩, kind⟩
  · rw [kind]
    rfl
  · rw [kind]
    rfl
  · rw [kind]
    simp only [if_pos distanceLong]
    rfl
  · rw [kind]
    rfl
  · rw [kind, if_neg one, if_neg two, if_neg three, if_neg four]
    rfl

theorem python_reading :
    VehicleControlGui.reading (type :: first :: second :: third :: rest) =
      if type = 4 then .tof (first.toNat + 256 * second.toNat)
      else if type = 2 then .aeb (first != 0)
      else if type = 3 then .autopark first
      else .unknown := by
  have long := not_length_event_lt type first (second :: third :: rest)
  have distanceLong : (type :: first :: second :: third :: rest).length ≥ 3 := by simp
  rw [VehicleControlGui.reading, VehicleControlGui.statusUpdate?, if_neg long]
  simp only [List.getElem!_cons_zero, if_pos distanceLong]
  by_cases four : type = 4
  · rw [if_pos four, if_pos four]
    rfl
  · rw [if_neg four, if_neg four]
    by_cases two : type = 2
    · rw [if_pos two, if_pos two]
      rfl
    · rw [if_neg two, if_neg two]
      by_cases three : type = 3
      · rw [if_pos three, if_pos three]
        rfl
      · rw [if_neg three, if_neg three]
        rfl

end Readings

/-- The three clients read an event in the same way if and only if its type is none of the
defined ones. -/
theorem sameReading_iff {data : List UInt8} (long : 4 ≤ data.length) :
    SameReading data ↔ data[0]! = 0 ∨ (4 : UInt8) < data[0]! := by
  match data, long with
  | type :: first :: second :: third :: rest, _ =>
      have undefinedIff : (type = 0 ∨ 4 < type) ↔
          ¬(type = 1 ∨ type = 2 ∨ type = 3 ∨ type = 4) := by
        simp only [UInt8.lt_iff_toNat_lt, ← UInt8.toNat_inj, UInt8.reduceToNat]
        omega
      have subscriber := subscriber_reading type first second third rest
      rw [List.getElem!_cons_zero, undefinedIff]
      constructor
      · rintro ⟨_, python⟩ defined
        rw [qt_reading, python_reading] at python
        rcases defined with rfl | rfl | rfl | rfl
        · simp at python
        · simp at python
        · simp at python
        · simp at python
      · intro undefined
        simp only [not_or] at undefined
        rcases undefined with ⟨one, two, three, four⟩
        refine ⟨subscriber, ?_⟩
        rw [qt_reading, python_reading, if_neg one, if_neg two, if_neg three, if_neg four,
          if_neg four, if_neg two, if_neg three]

def unknownEvent : List UInt8 :=
  [0x05, 0x01, 0x00, 0x00]

theorem sameReading_unknownEvent :
    SameReading unknownEvent ↔ unknownEvent[0]! = 0 ∨ (4 : UInt8) < unknownEvent[0]! :=
  sameReading_iff (by decide)

/-- A distance of 552 mm. -/
def distanceEvent : List UInt8 :=
  [0x03, 0x00, 0x02, 0x28]

/-- The Python client shows a distance as a progress of the parking. -/
theorem not_sameReading_distanceEvent :
    VsClientThread.reading distanceEvent = .tof 552 ∧
      VehStatusSubscriber.onEvent distanceEvent = .printed (.tofDistance 552) ∧
      VehicleControlGui.reading distanceEvent = .autopark 0 ∧ ¬SameReading distanceEvent := by
  refine ⟨by decide, by decide, by decide, ?_⟩
  rintro ⟨_, python⟩
  revert python
  decide

end Synapse
