import Synapse.Veh.MainWindow

/-!
# The log of the window

The window appends a line for each request and for each event, with all their bytes in
hexadecimal. This file reads such lines back and shows that the log of a run determines
its traffic: the requests in their order, and the events but for those still on their way.
-/

namespace Synapse

/-! ## Reading a line -/

def hexDigitValue (digit : Char) : ℕ :=
  if digit.isDigit then digit.toNat - '0'.toNat else digit.toNat - 'a'.toNat + 10

def readHex (digits : List Char) : UInt8 :=
  UInt8.ofNat (digits.foldl (fun value digit => 16 * value + hexDigitValue digit) 0)

/-- Two digits and a blank for each byte. -/
def readData : List Char → List UInt8
  | high :: low :: _ :: rest => readHex [high, low] :: readData rest
  | _ => []

/-- The message of a line with the tag, if it is one. -/
def readMessage (tag line : String) : Option (List UInt8) :=
  let start := (tag ++ " TYPE=0x").toList
  if start.isPrefixOf line.toList then
    let behind := line.toList.drop start.length
    let type := behind.takeWhile (· != ' ')
    some (readHex type :: readData (behind.drop (type.length + " DATA=[".length)))
  else none

/-! ## Lines which were written -/

set_option maxRecDepth 10000 in
theorem toDigits_byte : ∀ value < 256,
    (readHex (Nat.toDigits 16 value)).toNat = value ∧ ' ' ∉ Nat.toDigits 16 value ∧
      ((Nat.toDigits 16 value).leftpad 2 '0').length = 2 ∧
      (readHex ((Nat.toDigits 16 value).leftpad 2 '0')).toNat = value := by
  decide

theorem readHex_hexText (byte : UInt8) : readHex (hexText byte) = byte :=
  UInt8.toNat_inj.mp (toDigits_byte byte.toNat byte.toNat_lt).1

theorem blank_notMem_hexText (byte : UInt8) : ' ' ∉ hexText byte :=
  (toDigits_byte byte.toNat byte.toNat_lt).2.1

theorem readHex_paddedHexText (byte : UInt8) :
    ∃ high low, paddedHexText byte = [high, low] ∧ readHex [high, low] = byte := by
  rcases toDigits_byte byte.toNat byte.toNat_lt with ⟨_, _, length, value⟩
  rcases List.length_eq_two.mp length with ⟨high, low, digits⟩
  refine ⟨high, low, digits, ?_⟩
  rw [digits] at value
  exact UInt8.toNat_inj.mp value

theorem readData_dataText (data : List UInt8) : readData (dataText data ++ [']']) = data := by
  induction data with
  | nil => rfl
  | cons byte data ih =>
      rcases readHex_paddedHexText byte with ⟨high, low, digits, value⟩
      rw [dataText] at ih ⊢
      simp only [List.flatMap_cons, digits, List.cons_append, List.nil_append, readData, value, ih]

theorem toList_messageLine (tag : String) (type : UInt8) (data : List UInt8) :
    (VsClientThread.messageLine tag type data).toList =
      (tag ++ " TYPE=0x").toList ++
        (hexText type ++ (" DATA=[".toList ++ (dataText data ++ [']']))) := by
  simp [VsClientThread.messageLine]

theorem readMessage_messageLine (tag : String) (type : UInt8) (data : List UInt8) :
    readMessage tag (VsClientThread.messageLine tag type data) = some (type :: data) := by
  have behind : (hexText type ++ (" DATA=[".toList ++ (dataText data ++ [']']))).takeWhile
      (· != ' ') = hexText type := by
    rw [List.takeWhile_append_of_pos]
    · simp
    · intro digit digitMem
      rw [bne_iff_ne]
      rintro rfl
      exact blank_notMem_hexText type digitMem
  simp only [readMessage, toList_messageLine]
  rw [if_pos (by simp), List.drop_left, behind, readHex_hexText, List.drop_length_add_append,
    ← String.length_toList, List.drop_left, readData_dataText]

theorem readMessage_otherTag (type : UInt8) (data : List UInt8) :
    readMessage "[REQ]" (VsClientThread.eventLine type data) = none ∧
      readMessage "[EVT]" (VsClientThread.requestLine type data) = none := by
  constructor
  · rw [readMessage, VsClientThread.eventLine, toList_messageLine]
    simp
  · rw [readMessage, VsClientThread.requestLine, toList_messageLine]
    simp

theorem readMessage_info (line : VsClientThread.InfoLine) :
    readMessage "[REQ]" line.text = none ∧ readMessage "[EVT]" line.text = none := by
  cases line <;> decide

/-! ## The log of a run -/

/-- The event whose line a call logs, if any. -/
def VsClientThread.Emitted.event? : Emitted → Option (List UInt8)
  | .logLine line => readMessage "[EVT]" line
  | .signal _ => none

/-- The payload of the event which an input delivers, when it is long enough to be looked at. -/
def QtInput.seenEvent? : QtInput → Option (List UInt8)
  | .received data => if data.length < 2 then none else some data
  | .user _ => none
  | .appCreated => none
  | .info _ => none
  | .emit => none
  | .deliver => none

theorem event_emits (data : List UInt8) :
    (VsClientThread.emits data).filterMap VsClientThread.Emitted.event? =
      (QtInput.received data).seenEvent?.toList := by
  rw [VsClientThread.emits, QtInput.seenEvent?]
  split
  next => rfl
  next long =>
    match data, long with
    | type :: rest, _ =>
        have line : (VsClientThread.Emitted.logLine (VsClientThread.eventLine type rest)).event? =
            some (type :: rest) := readMessage_messageLine "[EVT]" type rest
        refine (List.filterMap_cons_some line).trans ?_
        cases VsClientThread.onEvent (type :: rest) <;> rfl

theorem requests_of_logLine {data : List UInt8} {line : String}
    (emitted : .logLine line ∈ VsClientThread.emits data) : readMessage "[REQ]" line = none := by
  rw [VsClientThread.emits] at emitted
  split at emitted
  next => simp at emitted
  next =>
    rcases List.mem_cons.mp emitted with logged | signalled
    · cases logged
      exact (readMessage_otherTag _ _).1
    · cases VsClientThread.onEvent data <;> simp at signalled

namespace QtClient

/-- The events whose line is still to be logged. -/
def pendingEvents (client : QtClient) : List (List UInt8) :=
  (client.posted ++ client.handlers).filterMap VsClientThread.Emitted.event?

/-- What the log says of a run with these requests and events. -/
structure Logs (client : QtClient) (requests events : List (List UInt8)) : Prop where
  requests : client.window.txtLog.filterMap (readMessage "[REQ]") = requests
  events : client.window.txtLog.filterMap (readMessage "[EVT]") ++ client.pendingEvents = events
  noRequest : ∀ line, .logLine line ∈ client.posted ++ client.handlers →
    readMessage "[REQ]" line = none

theorem readMessage_requestText {requests : List (List UInt8)}
    (nonempty : ∀ request ∈ requests, request ≠ []) :
    (requests.map requestText).filterMap (readMessage "[REQ]") = requests ∧
      (requests.map requestText).filterMap (readMessage "[EVT]") = [] := by
  induction requests with
  | nil => exact ⟨rfl, rfl⟩
  | cons request requests ih =>
      rcases List.forall_mem_cons.mp nonempty with ⟨now, later⟩
      rcases ih later with ⟨read, noEvent⟩
      match request, now with
      | cmdType :: val, _ =>
          have line : readMessage "[REQ]" (requestText (cmdType :: val)) = some (cmdType :: val) :=
            readMessage_messageLine "[REQ]" cmdType val
          have other : readMessage "[EVT]" (requestText (cmdType :: val)) = none :=
            (readMessage_otherTag cmdType val).2
          rw [List.map_cons, List.filterMap_cons_some line, List.filterMap_cons_none other, read]
          exact ⟨rfl, noEvent⟩

section Step

variable {client : QtClient} {requests events : List (List UInt8)}

theorem Logs.onUser (logs : Logs client requests events) (event : WindowEvent) :
    Logs (client.onUser event).1 (requests ++ (client.onUser event).2) events := by
  have same := SlotRun.onUser client event
  rcases readMessage_requestText same.nonempty with ⟨read, noEvent⟩
  refine ⟨?_, ?_, ?_⟩
  · rw [same.txtLog, List.filterMap_append, logs.requests, read]
  · rw [same.txtLog, List.filterMap_append, noEvent, List.append_nil, pendingEvents, same.posted,
      same.handlers]
    exact logs.events
  · rw [same.posted, same.handlers]
    exact logs.noRequest

theorem Logs.deliver (logs : Logs client requests events) :
    Logs client.deliver requests events := by
  rw [QtClient.deliver]
  split
  next => exact logs
  next call posted postedEq =>
    rcases logs with ⟨requestsEq, eventsEq, noRequest⟩
    rw [pendingEvents, postedEq, List.cons_append] at eventsEq
    rw [postedEq] at noRequest
    have later : ∀ line, .logLine line ∈ posted ++ client.handlers →
        readMessage "[REQ]" line = none := by
      intro line pending
      exact noRequest line (List.mem_cons_of_mem _ pending)
    cases call with
    | logLine line =>
        have noRequestNow := noRequest line (List.mem_cons_self)
        refine ⟨?_, ?_, later⟩
        · change (client.window.txtLog ++ [line]).filterMap _ = _
          rw [List.filterMap_append, List.filterMap_cons_none noRequestNow, requestsEq]
          exact List.append_nil _
        · change (client.window.txtLog ++ [line]).filterMap _ ++ _ = _
          rw [← eventsEq, List.filterMap_append, List.append_assoc]
          congr 1
          rw [List.filterMap_cons, List.filterMap_cons, VsClientThread.Emitted.event?]
          cases readMessage "[EVT]" line <;> rfl
    | signal emitted =>
        rw [List.filterMap_cons_none rfl] at eventsEq
        refine ⟨?_, ?_, later⟩
        · cases emitted <;> exact requestsEq
        · cases emitted <;> exact eventsEq

theorem Logs.emit (logs : Logs client requests events) : Logs client.emit requests events := by
  rw [QtClient.emit]
  split
  next => exact logs
  next call handlers handlersEq =>
    have same : client.posted ++ [call] ++ handlers = client.posted ++ client.handlers := by
      rw [handlersEq, List.append_assoc]
      rfl
    refine ⟨logs.requests, ?_, ?_⟩
    · rw [← logs.events, pendingEvents, pendingEvents, ← same]
    · intro line pending
      rw [same] at pending
      exact logs.noRequest line pending

theorem Logs.info (logs : Logs client requests events) (line : VsClientThread.InfoLine) :
    Logs { client with posted := client.posted ++ [.logLine line.text] } requests events := by
  have info := readMessage_info line
  refine ⟨logs.requests, ?_, ?_⟩
  · have silent : (VsClientThread.Emitted.logLine line.text).event? = none := info.2
    rw [← logs.events, pendingEvents, pendingEvents]
    simp only [List.filterMap_append, List.filterMap_cons_none silent, List.filterMap_nil,
      List.append_nil]
  · intro other pending
    rw [List.append_assoc, List.mem_append, List.mem_append, List.mem_singleton] at pending
    rcases pending with posted | same | handled
    · exact logs.noRequest other (List.mem_append_left _ posted)
    · cases same
      exact info.1
    · exact logs.noRequest other (List.mem_append_right _ handled)

theorem Logs.received (logs : Logs client requests events) (data : List UInt8) :
    Logs { client with handlers := client.handlers ++ VsClientThread.emits data } requests
      (events ++ (QtInput.received data).seenEvent?.toList) := by
  refine ⟨logs.requests, ?_, ?_⟩
  · rw [← logs.events, ← event_emits, pendingEvents, pendingEvents, List.append_assoc,
      ← List.filterMap_append, List.append_assoc]
  · intro line pending
    rw [← List.append_assoc, List.mem_append] at pending
    rcases pending with earlier | emitted
    · exact logs.noRequest line earlier
    · exact requests_of_logLine emitted

theorem Logs.step (logs : Logs client requests events) (input : QtInput) :
    Logs (machine.step client input).1 (requests ++ (machine.step client input).2)
      (events ++ input.seenEvent?.toList) := by
  have silent : ∀ {next : QtClient}, Logs next requests events →
      Logs next (requests ++ []) (events ++ []) := by
    intro next after
    rw [List.append_nil, List.append_nil]
    exact after
  cases input with
  | user event =>
      rw [QtInput.seenEvent?, Option.toList_none, List.append_nil]
      exact logs.onUser event
  | received data =>
      have after := logs.received data
      rw [← List.append_nil requests] at after
      exact after
  | appCreated => exact silent ⟨logs.requests, logs.events, logs.noRequest⟩
  | info line => exact silent (logs.info line)
  | emit => exact silent logs.emit
  | deliver => exact silent logs.deliver

end Step

theorem logs_initial : Logs initial [] [] where
  requests := rfl
  events := rfl
  noRequest := by simp [initial]

theorem logs_stateAfter (inputs : List QtInput) :
    Logs (machine.stateAfter initial inputs) (machine.output initial inputs)
      (inputs.filterMap QtInput.seenEvent?) :=
  machine.run_invariant QtInput.seenEvent? Logs (fun logs input => logs.step input) logs_initial
    inputs

end QtClient

/-- The log of every run gives back all requests in their order, and all events but for those
whose line is on its way to the window. -/
theorem log_records_traffic (inputs : List QtInput) :
    (QtClient.machine.stateAfter .initial inputs).window.txtLog.filterMap
        (readMessage "[REQ]") = QtClient.machine.output .initial inputs ∧
      (QtClient.machine.stateAfter .initial inputs).window.txtLog.filterMap
          (readMessage "[EVT]") ++
          (QtClient.machine.stateAfter .initial inputs).pendingEvents =
        inputs.filterMap QtInput.seenEvent? :=
  ⟨(QtClient.logs_stateAfter inputs).requests, (QtClient.logs_stateAfter inputs).events⟩

end Synapse
