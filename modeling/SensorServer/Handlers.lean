import SensorServer.Services

/-! The seven message handlers and their dispatch (mqtt_bridge/services.py and the
worker command). A handler call reads the clock once: every `timezone.now()` of
the call is the processing time of the message. -/
namespace SensorServer
open Program

structure Payload where
  size : Nat
  body : Decoded
  deriving DecidableEq

def withObject {α : Type} (payload : Payload) (rejected : α) (body : Fields → Act α) : Act α :=
  if payload.size > maxPayloadSize then pure rejected
  else match payload.body with
    | .malformed => pure rejected
    | .uncaught => fail .decode
    | .value (.obj data) => body data
    | .value _ => pure rejected

def withDevice {α : Type} (deviceId : String) (rejected : α) (body : Device → Act α) : Act α := do
  let found ← read (fun w => w.device? deviceId)
  match found with
  | none => pure rejected
  | some device => body device

def alertFields : List DeviceField := [.alertLevel, .alertMessage, .alertUpdatedAt]

def statusEvent (device : Device) : ChannelEvent :=
  .deviceStatus device.deviceId device.alertLevel device.alertMessage device.effectiveName

def statusRow (env : Env) (device : Device) : DeviceStatusLog :=
  ⟨env.now, device.deviceId, device.alertLevel, device.alertMessage⟩

def getOrCreateDevice (env : Env) (deviceType deviceId : String) : Act (Device × Bool) := do
  let found ← read (fun w => w.device? deviceId)
  match found with
  | some device => pure (device, false)
  | none =>
    let device : Device := { deviceId := deviceId, deviceType := deviceType, createdAt := env.now }
    createDevice device
    pure (device, true)

def reconcileAlert (now : Time) (device : Device) : Device × List DeviceField × Bool :=
  if device.alertMessage = noCapabilitiesAlert then (device.clearAlert, alertFields, true)
  else if device.alertLevel.raised then
    match device.alertUpdatedAt with
    | none => ({ device with alertUpdatedAt := some now }, [.alertUpdatedAt], false)
    | some updated =>
      if now - updated > device.alertReassertWindow then (device.clearAlert, alertFields, true)
      else (device, [], false)
  else (device, [], false)

def announceCleared (env : Env) (device : Device) : Act Unit := do
  addStatusLog (statusRow env device)
  groupSend env (statusEvent device)

def wakeUp (env : Env) (device : Device) : Act Device := do
  flushPendingCommands env device
  let device ← requestCapabilities env device none false
  requestCommands env device
  when device.supportsDiag (requestStatus env device)
  pure device

def capabilitiesTimeout (device : Device) : Nat :=
  max capabilitiesResponseTimeout (3 * device.publishInterval)

def capabilitiesOverdue (device : Device) (now : Time) : Bool :=
  match device.capabilitiesRequestedAt with
  | none => false
  | some requested => now - requested > seconds (capabilitiesTimeout device)

def checkCapabilitiesTimeout (env : Env) (device : Device) : Act Device :=
  if capabilitiesOverdue device env.now then do
    let timeout := capabilitiesTimeout device
    let device := { device with
      alertLevel := .error, alertMessage := noCapabilitiesAlert,
      alertUpdatedAt := some env.now, capabilitiesRequestedAt := none }
    saveDevice device (alertFields ++ [.capabilitiesRequestedAt])
    addStatusLog (statusRow env device)
    resolveCapabilityRequests env device .timeout ("No response within " ++ toString timeout ++ "s")
    pure device
  else pure device

def metricName (raw : String) : Bool :=
  decide (pyLen raw ≤ maxMetricNameLen) && safeIdentifierRe raw

inductive FloatResult where
  | value (f : PyFloat)
  | skipped
  /-- OverflowError of an integer beyond the doubles, which the loop does not catch -/
  | overflow
  deriving DecidableEq

/-- float(value) -/
def pyFloat (env : Env) : Json → FloatResult
  | .bool b => .value (.finite (if b then 1 else 0))
  | .int i => match PyFloat.ofInt i with
    | some f => .value f
    | none => .overflow
  | .float f => .value f
  | .str s => match env.floatOfStr s with
    | some f => .value f
    | none => .skipped
  | .null | .arr _ | .obj _ => .skipped

/-- The loop over the entries: each accepted one is broadcast as it is met, and
the readings are returned in payload order. -/
def collectReadings (env : Env) (device : Device) (deviceType : String) :
    Fields → Act (List SensorReading)
  | [] => pure []
  | (raw, value) :: rest =>
    if !metricName raw then collectReadings env device deviceType rest
    else match pyFloat env value with
      | .skipped => collectReadings env device deviceType rest
      | .overflow => fail .conversion
      | .value f => do
        let reading : SensorReading := ⟨env.now, device.deviceId, resolveAlias raw, f⟩
        groupSend env (.sensorReading device.deviceId deviceType reading.metric f env.now
          device.effectiveName)
        let others ← collectReadings env device deviceType rest
        pure (reading :: others)

/-- `{r.metric: r.value for r in readings}["bat_percent"]`: the last one wins. -/
def storedBattery (readings : List SensorReading) : Option PyFloat :=
  (readings.reverse.find? (fun r => r.metric = "bat_percent")).map SensorReading.value

/-- `stored["bat_percent"] != device.battery_percent` -/
def batteryChanged (stored : PyFloat) (device : Device) : Bool :=
  match device.batteryPercent with
  | none => true
  | some old => !PyFloat.eqv stored old

def lowBatteryResolved (device : Device) : Bool :=
  decide (device.alertLevel = .warning) && decide (device.alertMessage = lowBatteryAlert) &&
  decide (device.batteryStatus = some .ok)

def trackBattery (env : Env) (device : Device) (stored : PyFloat) : Act Unit := do
  let changed := batteryChanged stored device
  let device := if changed then { device with batteryPercent := some stored } else device
  when changed (saveDevice device [.batteryPercent])
  when (lowBatteryResolved device) do
    let device := device.clearAlert
    saveDevice device alertFields
    addStatusLog (statusRow env device)
    groupSend env (statusEvent device)

def storeReadings (env : Env) (device : Device) (deviceType : String) (data : Fields) : Act Unit := do
  let readings ← collectReadings env device deviceType data
  when (!readings.isEmpty) do
    emit (.addReadings readings)
    match storedBattery readings with
    | none => pure ()
    | some stored => trackBattery env device stored

def sensorBody (env : Env) (deviceType : String) (data : Fields) (device : Device) (created : Bool) :
    Act Unit := do
  let wasOnline := device.isOnline env.now
  let (device, fields, cleared) := reconcileAlert env.now { device with lastSeen := some env.now }
  when cleared (announceCleared env device)
  saveDevice device (.lastSeen :: fields)
  checkOtaTimeouts env device
  let device ← (if created || !wasOnline then wakeUp env device else checkCapabilitiesTimeout env device)
  when device.isApproved do
    let device ← maybeRequestDiag env device
    storeReadings env device deviceType data

def handleSensorMessage (env : Env) (deviceType deviceId : String) (payload : Payload) : Act Unit :=
  withObject payload () fun data => do
    let (device, created) ← getOrCreateDevice env deviceType deviceId
    sensorBody env deviceType data device created

/-- The accepted values of `data.get("level", "")`. -/
def statusLevel (data : Fields) : Option AlertLevel :=
  let level := (Dict.get? data "level").getD (.str "")
  if level = .str "" || level = .str "ok" then some .ok
  else if level = .str "warning" then some .warning
  else if level = .str "error" then some .error
  else none

def statusText (data : Fields) (previous : String) : String :=
  match (Dict.get? data "message").getD (.str "") with
  | .str s => pyTake 256 s
  | _ => previous

def applyStatus (now : Time) (level : AlertLevel) (data : Fields) (device : Device) : Device :=
  if level.raised then
    { device with alertLevel := level, alertMessage := statusText data device.alertMessage,
                  alertUpdatedAt := some now, lastSeen := some now }
  else { device.clearAlert with lastSeen := some now }

def handleStatusMessage (env : Env) (deviceId : String) (payload : Payload) : Act Unit :=
  withObject payload () fun data =>
  withDevice deviceId () fun device =>
    match statusLevel data with
    | none => pure ()
    | some level => do
      let device := applyStatus env.now level data device
      saveDevice device (alertFields ++ [.lastSeen])
      addStatusLog (statusRow env device)
      groupSend env (statusEvent device)

def reportedCode (known : String → Bool) (data : Fields) : Option String :=
  match (Dict.get? data "hw").getD (.str "") with
  | .str code => if hwCodeRe code && known code then some code else none
  | _ => none

def reportedRev (data : Fields) : Option Nat :=
  match Dict.get? data "hwrev" with
  | some (.int i) => if 0 ≤ i ∧ i ≤ 65535 then some i.toNat else none
  | _ => none

def reportedFlag (data : Fields) (key : String) : Option Bool :=
  match Dict.get? data key with
  | some (.bool b) => some b
  | some (.int 0) => some false
  | some (.int 1) => some true
  | _ => none

/-- `cal == 0 or cal is False` -/
def storeEmpty (data : Fields) : Bool :=
  match Dict.get? data "cal" with
  | some (.bool b) => !b
  | some (.int i) => i = 0
  | some (.float f) => PyFloat.eqv f (.finite 0)
  | _ => false

def reportedId (data : Fields) : Option String :=
  match (Dict.get? data "id").getD (.str "") with
  | .str s => if pyLen s ≤ 256 then some s else none
  | _ => none

def reportedFw (data : Fields) : Option String :=
  match (Dict.get? data "fw").getD (.str "") with
  | .str s => if pyLen s ≤ 32 && (s = "" || fwVersionRe s) then some s else none
  | _ => none

/-- `isinstance(x, (int, float)) and 0 < x <= 86400`, then int(x); a bool is an int. -/
def reportedInterval (data : Fields) : Option Nat :=
  match Dict.get? data "intrvl" with
  | some (.bool true) => some 1
  | some (.int i) => if 0 < i ∧ i ≤ 86400 then some i.toNat else none
  | some (.float f) =>
    if PyFloat.lt (.finite 0) f && f.le (.finite 86400) then f.trunc.map Int.toNat else none
  | _ => none

def metricNames (metrics : Fields) : List String := (Dict.keys metrics).filter safeIdentifierRe

def metricUnits (metrics : Fields) : List (String × String) :=
  metrics.filterMap fun kv => match kv.2 with
    | .str unit =>
      if safeIdentifierRe kv.1 && decide (pyLen unit ≤ 16) && decide (unit ≠ "") then some (kv.1, unit)
      else none
    | _ => none

def validParam : Json → Option Param
  | .obj p => match Dict.get? p "n", Dict.get? p "t" with
    | some (.str name), some (.str type) =>
      if type = "number" || type = "string" || type = "boolean" then some ⟨name, type⟩ else none
    | _, _ => none
  | _ => none

def decodeParams (table : Fields) : List (String × List Param) :=
  table.filterMap fun kv => match kv.2 with
    | .arr params => if safeIdentifierRe kv.1 then some (kv.1, params.filterMap validParam) else none
    | _ => none

def applyMetrics (data : Fields) (c : Capabilities) : Capabilities :=
  match Dict.get? data "metrics" with
  | some (.obj metrics) => { c with metrics := some (metricNames metrics), units := some (metricUnits metrics) }
  | _ => c

def applyCmds (data : Fields) (c : Capabilities) : Capabilities :=
  match Dict.get? data "cmds" with
  | some (.obj cmds) =>
    { c with commands := some ((Dict.keys cmds).filter safeIdentifierRe),
             commandParams := some (decodeParams cmds) }
  | _ => c

def hadTimeoutAlert (device : Device) : Bool :=
  decide (device.alertLevel = .error) && decide (device.alertMessage = noCapabilitiesAlert)

def applyCapabilities (known : String → Bool) (data : Fields) (device : Device) : Device :=
  let reported : Device := { device with
    hardwareId := (reportedId data).getD device.hardwareId
    hardwareCode := reportedCode known data
    -- unlike the code, an absent or invalid revision keeps the stored one
    hwRev := (reportedRev data).or device.hwRev
    otaCapable := (reportedFlag data "ota").getD device.otaCapable
    diagCapable := (reportedFlag data "diag").getD device.diagCapable
    fwVersion := (reportedFw data).getD device.fwVersion
    publishInterval := (reportedInterval data).getD device.publishInterval
    capabilities := applyCmds data (applyMetrics data device.capabilities)
    capabilitiesRequestedAt := none }
  if hadTimeoutAlert device then reported.clearAlert else reported

def capabilitiesFields : List DeviceField :=
  [.hardwareId, .hardwareCode, .hwRev, .otaCapable, .diagCapable, .fwVersion, .publishInterval,
   .capabilities, .capabilitiesRequestedAt, .alertLevel, .alertMessage, .alertUpdatedAt]

def handleCapabilitiesMessage (env : Env) (deviceId : String) (payload : Payload) : Act Unit :=
  withObject payload () fun data =>
  withDevice deviceId () fun before => do
    let known ← read (fun w => fun code => (w.db.hardwareCodes.get? code).isSome)
    let device := applyCapabilities known data before
    when (hadTimeoutAlert before) (addStatusLog (statusRow env device))
    saveDevice device capabilitiesFields
    resolveCapabilityRequests env device .success ""
    resolveOtaUpdates env device
    when (storeEmpty data && !device.calibration.isEmpty) (repushCalibration env device)

def commandNames (data : Fields) : List String :=
  match Dict.get? data "commands" with
  | some (.arr items) => items.filterMap fun c => match c with
    | .str s => if safeIdentifierRe s then some s else none
    | _ => none
  | _ => []

def commandTable (data : Fields) : List (String × List Param) :=
  match Dict.get? data "command_params" with
  | some (.obj table) => decodeParams table
  | _ => []

def handleCommandsMessage (env : Env) (deviceId : String) (payload : Payload) : Act Unit :=
  withObject payload () fun data =>
  withDevice deviceId () fun device =>
    saveDevice { device with
      capabilities := { device.capabilities with
        commands := some (commandNames data), commandParams := some (commandTable data) }
      lastSeen := some env.now } [.capabilities, .lastSeen]

/-- The mirror of a report; none is the OverflowError of float() of a huge integer. -/
def calibrationMirror : Fields → Option Fields
  | [] => some []
  | (key, value) :: rest =>
    if metricName key && value.isNumber then do
      let f ← value.asFloat
      let others ← calibrationMirror rest
      pure ((key, .float (f.round 4)) :: others)
    else calibrationMirror rest

def handleCalibrationMessage (env : Env) (deviceId : String) (payload : Payload) : Act Unit :=
  withObject payload () fun data =>
  withDevice deviceId () fun device =>
    match calibrationMirror data with
    | none => fail .conversion
    | some mirror =>
      saveDevice { device with calibration := mirror, lastSeen := some env.now } [.calibration, .lastSeen]

def bounded (maximum : Nat) (i : Int) : Option Nat :=
  if 0 ≤ i ∧ i ≤ maximum then some i.toNat else none

/-- int() of a number; none is the exception of a NaN or an infinity. -/
def pyInt : Json → Option Int
  | .int i => some i
  | .float f => f.trunc
  | _ => none

/-- _diag_uint; the outer none is the exception of int(). -/
def diagUint (value : Option Json) (maximum : Nat) : Option (Option Nat) :=
  match value with
  | some v => if v.isNumber then (pyInt v).map (bounded maximum) else some none
  | none => some none

def diagRssi (data : Fields) : Option (Option Int) :=
  match Dict.get? data "rssi" with
  | some v => if v.isNumber then (pyInt v).map some else some none
  | none => some none

def diagLevel (data : Fields) : Option DiagLevel :=
  let level := (Dict.get? data "level").getD (.str "ok")
  if level = .str "ok" then some .ok
  else if level = .str "info" then some .info
  else if level = .str "warning" then some .warning
  else if level = .str "error" then some .error
  else none

def diagText (data : Fields) : String :=
  match (Dict.get? data "message").getD (.str "") with
  | .str s => pyTake 256 s
  | _ => ""

def diagMax : Nat := 2147483647

/-- The row of the snapshot; none is an exception while its fields are converted. -/
def diagSnapshot (now : Time) (deviceId : String) (level : DiagLevel) (data : Fields) :
    Option DeviceDiagLog := do
  let rssi ← diagRssi data
  let resetCause ← diagUint (Dict.get? data "rst") 255
  let boot ← diagUint (Dict.get? data "boot") diagMax
  let miss ← diagUint (Dict.get? data "miss") diagMax
  let wakeMs ← diagUint (Dict.get? data "wake_ms") diagMax
  let seq ← diagUint (Dict.get? data "seq") diagMax
  let pubfail ← diagUint (Dict.get? data "pubfail") diagMax
  let heap ← diagUint (Dict.get? data "heap") diagMax
  let batteryPercent ← diagUint (Dict.get? data "bat") 100
  let txsent ← diagUint (Dict.get? data "txsent") diagMax
  let txok ← diagUint (Dict.get? data "txok") diagMax
  pure ⟨now, deviceId, level, diagText data, resetCause, boot, miss, wakeMs, seq, pubfail, rssi, heap,
    batteryPercent, txsent, txok⟩

def DiagLevel.alert : DiagLevel → AlertLevel
  | .warning => .warning
  | .error => .error
  | .ok | .info => .ok

def applyDiag (now : Time) (level : DiagLevel) (text : String) (device : Device) : Device :=
  let raised := level.alert.raised
  { device with
    alertLevel := level.alert
    alertMessage := if raised then text else ""
    alertUpdatedAt := if raised then some now else none
    lastSeen := some now }

def handleDiagMessage (env : Env) (deviceId : String) (payload : Payload) : Act Unit :=
  withObject payload () fun data =>
  withDevice deviceId () fun before =>
    match diagLevel data with
    | none => pure ()
    | some level =>
      match diagSnapshot env.now before.deviceId level data with
      | none => fail .conversion
      | some row => do
        addDiagLog row
        let device := applyDiag env.now level (diagText data) before
        saveDevice device (alertFields ++ [.lastSeen])
        when (before.alert ≠ device.alert) do
          addStatusLog (statusRow env device)
          groupSend env (statusEvent device)

/-- The offsets of a legacy calibration ack; none is an OverflowError. -/
def legacyOffsets (data : Fields) : List String → Option Fields
  | [] => some []
  | key :: rest =>
    match Dict.get? data key with
    | some value =>
      if value.isNumber then do
        let f ← value.asFloat
        let others ← legacyOffsets data rest
        pure (("cal_" ++ key, .float (f.round 2)) :: others)
      else legacyOffsets data rest
    | none => legacyOffsets data rest

def ackText (data : Fields) : String :=
  match (Dict.get? data "message").getD (.str "") with
  | .str s => s
  | _ => ""

/-- The most recent pending command with the action. -/
def ackTarget (db : Db) (device : String) (action : Json) : Option CommandLog :=
  (pendingNewestFirst db device action).head?

def ackStatus (status : Json) : CommandStatus := if status = .str "ok" then .success else .failed

def legacyCalibration (device : Device) (data : Fields) : Act Unit :=
  match legacyOffsets data ["temp", "humi", "press"] with
  | none => fail .conversion
  | some updates =>
    if updates.isEmpty then pure ()
    else saveDevice { device with calibration := Dict.update device.calibration updates } [.calibration]

/-- `action == "ota_update" and status == "start"`, or a malformed ack. -/
def ackIgnored (action status : Json) : Bool :=
  (decide (action = .str "ota_update") && decide (status = .str "start")) ||
  (!action.truthy || !(decide (status = .str "ok") || decide (status = .str "error")))

structure AckMark where
  row : CommandLog
  status : CommandStatus
  message : String
  deriving DecidableEq

/-- The handler up to and including the query of the pending command. -/
def ackLookup (deviceId : String) (payload : Payload) : Act (Option AckMark) :=
  withObject payload none fun data =>
  withDevice deviceId none fun device => do
    let action := (Dict.get? data "action").getD (.str "")
    let status := (Dict.get? data "status").getD (.str "")
    if !action.truthy && (Dict.get? data "temp").isSome then do
      legacyCalibration device data
      pure none
    else if ackIgnored action status then pure none
    else do
      let target ← read (fun w => ackTarget w.db device.deviceId action)
      pure (target.map (fun row => ⟨row, ackStatus status, ackText data⟩))

def ackUpdate (env : Env) (target : Option AckMark) : Act Unit :=
  match target with
  | some m => markCommand m.row m.status m.message env.now
  | none => pure ()

def handleAckMessage (env : Env) (deviceId : String) (payload : Payload) : Act Unit := do
  let target ← ackLookup deviceId payload
  ackUpdate env target

inductive MessageKind where
  | sensors | status | capabilities | commands | calibration | diag | ack
  deriving DecidableEq, Repr

def MessageKind.ofTopic (msgType : String) : Option MessageKind :=
  [("sensors", .sensors), ("status", .status), ("capabilities", .capabilities),
   ("commands", .commands), ("calibration", .calibration), ("diag", .diag), ("ack", .ack)].lookup msgType

def handleMessage (env : Env) (kind : MessageKind) (deviceType deviceId : String) (payload : Payload) :
    Act Unit :=
  match kind with
  | .sensors => handleSensorMessage env deviceType deviceId payload
  | .status => handleStatusMessage env deviceId payload
  | .capabilities => handleCapabilitiesMessage env deviceId payload
  | .commands => handleCommandsMessage env deviceId payload
  | .calibration => handleCalibrationMessage env deviceId payload
  | .diag => handleDiagMessage env deviceId payload
  | .ack => handleAckMessage env deviceId payload

/-- _on_message of the worker: a bad topic is dropped, an exception is logged. -/
def onMessage (env : Env) (topic : String) (payload : Payload) : Act Unit :=
  match parseTopic topic with
  | none => pure ()
  | some (deviceType, deviceId, msgType) =>
    match MessageKind.ofTopic msgType with
    | none => pure ()
    | some kind => do
      let _ ← attempt (handleMessage env kind deviceType deviceId payload)
      pure ()

structure Delivery where
  env : Env
  kind : MessageKind
  deviceType : String
  deviceId : String
  payload : Payload

def deliver (w : World) (d : Delivery) : World :=
  after (handleMessage d.env d.kind d.deviceType d.deviceId d.payload) w

end SensorServer
