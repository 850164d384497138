import SensorServer.World

/-! What the services publish to a device, and the queries and updates on its
command log (mqtt_bridge/services.py up to the handlers). -/
namespace SensorServer
open Program

def noCapabilitiesAlert : String := "no_capabilities_response"
def lowBatteryAlert : String := "low_battery"

def otaUpdateTimeout : Nat := 600

def commandTopic (d : Device) : String := d.deviceType ++ "/" ++ d.deviceId ++ "/command"

def bareCommand (name : String) : Json := .obj [("action", .str name)]

def createCommandLog (env : Env) (device : Device) (command : Json) (sentBy : Option String) : Act Unit :=
  addCommandLog env device.deviceId command sentBy

def requestCapabilities (env : Env) (device : Device) (sentBy : Option String) (logCommand : Bool) :
    Act Device := do
  let sent ← attempt
    (mqttPublish env (commandTopic device) (bareCommand "request_capabilities") false 1)
  if sent then do
    let device := { device with capabilitiesRequestedAt := some env.now }
    -- still inside the try: an exception here is swallowed with the field already set
    let _ ← attempt (do
      saveDevice device [.capabilitiesRequestedAt]
      when logCommand (createCommandLog env device (bareCommand "request_capabilities") sentBy))
    pure device
  else pure device

def requestBare (env : Env) (device : Device) (name : String) : Act Unit := do
  let _ ← attempt (mqttPublish env (commandTopic device) (bareCommand name) false 1)
  pure ()

def requestCommands (env : Env) (device : Device) : Act Unit := requestBare env device "request_commands"
def requestCalibration (env : Env) (device : Device) : Act Unit :=
  requestBare env device "request_calibration"
def requestStatus (env : Env) (device : Device) : Act Unit := requestBare env device "get_status"
def requestDiag (env : Env) (device : Device) : Act Unit := requestBare env device "get_diag"

/-- _diag_poll_cooldown in tenths of a microsecond: 11/10 of the interval. -/
def diagPollCooldownTenths (d : Device) : Int :=
  if d.publishInterval > 0 then seconds d.publishInterval * 11 else seconds defaultOfflineTimeout * 10

def wantsDiag (d : Device) (now : Time) : Bool :=
  d.alertLevel.raised && d.supportsDiag && d.isOnline now && !d.isBatteryLow &&
  match d.diagRequestedAt with
  | none => true
  | some at_ => !decide ((now - at_) * 10 < diagPollCooldownTenths d)

def maybeRequestDiag (env : Env) (device : Device) : Act Device := do
  if wantsDiag device env.now then do
    requestDiag env device
    let device := { device with diagRequestedAt := some env.now }
    saveDevice device [.diagRequestedAt]
    pure device
  else pure device

def repushCommand (key : String) (value : Json) : Json :=
  if pyStartsWith key "cal_" then
    .obj [("action", .str "set_offset"), ("metric", .str (pyDrop 4 key)), ("value", value)]
  else .obj [("action", .str "set_calibration"), ("key", .str key), ("value", value)]

def repushCalibration (env : Env) (device : Device) : Act Unit :=
  forEach (device.calibration.filter (fun kv => kv.2.isNumber)) (fun kv => do
    let _ ← attempt (mqttPublish env (commandTopic device) (repushCommand kv.1 kv.2) false 1)
    pure ())

/-- filter(device=device, status=pending, command__action=action) -/
def pendingCommands (db : Db) (device : String) (action : Json) : List CommandLog :=
  db.commandLogs.rows.filter
    (fun r => decide (r.device = device) && decide (r.status = .pending) && hasAction action r.command)

def pendingNewestFirst (db : Db) (device : String) (action : Json) : List CommandLog :=
  OrderBy.descending CommandLog.sentAt (pendingCommands db device action)

def commandGet (command : Json) (key : String) : Option Json :=
  match command with
  | .obj fields => Dict.get? fields key
  | _ => none

/-- `target and device.fw_version == target` -/
def runsTarget (device : Device) (command : Json) : Bool :=
  match commandGet command "ver" with
  | some (.str target) => target ≠ "" && device.fwVersion = target
  | _ => false

def resolveOtaUpdates (env : Env) (device : Device) : Act Unit := do
  let pending ← read (fun w => pendingNewestFirst w.db device.deviceId (.str "ota_update"))
  forEach pending (fun cmd =>
    when (runsTarget device cmd.command)
      (markCommand cmd .success ("Running " ++ device.fwVersion) env.now))

def otaTimeout (device : Device) : Nat := max otaUpdateTimeout (3 * device.publishInterval)

def checkOtaTimeouts (env : Env) (device : Device) : Act Unit := do
  let pending ← read (fun w => pendingNewestFirst w.db device.deviceId (.str "ota_update"))
  forEach pending (fun cmd =>
    when (env.now - cmd.sentAt > seconds (otaTimeout device))
      (markCommand cmd .timeout
        ("No confirmation within " ++ toString (otaTimeout device) ++ "s") env.now))

/-- One UPDATE over every pending request; `when or now` is the time of the call. -/
def resolveCapabilityRequests (env : Env) (device : Device) (status : CommandStatus)
    (message : String) : Act Unit :=
  if varchar 256 (pyTake 256 message) then
    emit (.markCommands
      (fun r => decide (r.device = device.deviceId) && decide (r.status = .pending) &&
        hasAction (.str "request_capabilities") r.command)
      status message env.now)
  else fail .dataError

/-- exclude(command__action="ota_update"): for a value without an action key the
condition is NULL, so the row is left out as well. -/
def notOtaUpdate (command : Json) : Bool :=
  match actionOf command with
  | some action => !action.same (.str "ota_update")
  | none => false

/-- The rows the wake-up flush re-sends, in the order it sends them. -/
def flushRows (db : Db) (device : String) : List CommandLog :=
  OrderBy.ascending CommandLog.sentAt
    (db.commandLogs.rows.filter
      (fun r => decide (r.device = device) && !r.acked && notOtaUpdate r.command))

def flushPendingCommands (env : Env) (device : Device) : Act Unit := do
  let pending ← read (fun w => flushRows w.db device.deviceId)
  forEach pending (fun cmd => do
    let _ ← attempt (mqttPublish env (commandTopic device) cmd.command false 1)
    pure ())

end SensorServer
