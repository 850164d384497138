import SensorServer.Ota
import SensorServer.Rollups

/-! The device pages (devices/views.py): commands, calibration, OTA pushes, approval,
deletion, renaming and merging. -/
namespace SensorServer
open Program

/-- `max(low, min(int(x), high))`, or none where int() fails. -/
def clampedInt (env : Env) (text : String) (low high : Int) : Option Int :=
  (env.intOfStr text).map (fun i => max low (min i high))

def deviceEditView (env : Env) (request : Request) (deviceId : String) : Act Response :=
  roleRequired .admin request <|
  getDeviceOr404 deviceId fun device =>
    if !request.isPost then pure (.page "devices/device_edit.html")
    else do
      let interval := match QueryDict.get? request.post "publish_interval" with
        | none => some 0
        | some text => clampedInt env text 0 86400
      let cells := match QueryDict.get? request.post "battery_cell_count" with
        | none => some 1
        | some text => clampedInt env text 1 10
      let device := { device with
        displayName := QueryDict.get request.post "display_name" ""
        location := QueryDict.get request.post "location" ""
        locationType := QueryDict.get request.post "location_type" ""
        guestVisibleMetrics := QueryDict.getlist request.post "guest_visible_metrics"
        publishInterval := (interval.map Int.toNat).getD device.publishInterval
        batteryCellCount := (cells.map Int.toNat).getD device.batteryCellCount }
      saveDevice device [.displayName, .location, .locationType, .guestVisibleMetrics,
        .publishInterval, .batteryCellCount]
      pure (answer request "devices/_device_card.html"
        (.redirect "devices:admin" (some device.deviceId)))

def deviceApproveView (request : Request) (deviceId : String) : Act Response :=
  roleRequired .admin request <|
  getDeviceOr404 deviceId fun device =>
  postOnly request do
    let action := QueryDict.get request.post "action" ""
    when (action = "approve") (saveDevice { device with isApproved := true } [.isApproved])
    when (action = "revoke") (saveDevice { device with isApproved := false } [.isApproved])
    pure (answer request "devices/_device_tables.html" (.redirect "devices:list" none))

def commandData (env : Env) (text : String) : Option Json :=
  match env.jsonLoads text with
  | .value json => some json
  | .malformed => some (.obj [("action", .str text)])
  | .uncaught => none

/-- Publish, then record: the two steps of every user command. -/
def publishAndRecord (env : Env) (device : Device) (command : Json) (user : User)
    (respond : Act Response) : Act Response := do
  let sent ← attempt (mqttPublish env (commandTopic device) command false 1)
  if !sent then pure (.badRequest "MQTT publish error.")
  else do
    createCommandLog env device command (some user.username)
    respond

def deviceCommandView (env : Env) (request : Request) (deviceId : String) : Act Response :=
  roleRequired .resident request <|
  getDeviceOr404 deviceId fun device =>
  postOnly request <|
    let text := pyStrip (QueryDict.get request.post "command" "")
    if text = "" then pure (.badRequest "Empty command.")
    else match commandData env text with
    | none => fail .decode
    | some command => publishAndRecord env device command request.user do
      let _ ← requestCapabilities env device none false
      pure (commandLogAnswer request device)

def deviceSetConfirmUplinkView (env : Env) (request : Request) (deviceId : String) : Act Response :=
  roleRequired .admin request <|
  getDeviceOr404 deviceId fun device =>
  postOnly request <|
    if !device.supportsDiag then pure (.badRequest "Device does not support uplink confirmation.")
    else
      let value := if QueryDict.get? request.post "value" = some "1" then 1 else 0
      publishAndRecord env device
        (.obj [("action", .str "set_confirm_uplink"), ("value", .int value)]) request.user
        (pure (commandLogAnswer request device))

/-- _publish_calibration_command inside its try: a failing insert is a publish error too. -/
def publishCalibrationCommand (env : Env) (device : Device) (command : Json) (user : User) : Act Bool :=
  attempt (do
    mqttPublish env (commandTopic device) command false 1
    createCommandLog env device command (some user.username))

/-- The part the two calibration views share: publish, record, mirror. -/
def pushCalibration (env : Env) (request : Request) (device : Device) (command : Json) (key : String)
    (value : PyFloat) : Act Response := do
  let sent ← publishCalibrationCommand env device command request.user
  if !sent then pure (.badRequest "MQTT publish error.")
  else do
    saveDevice { device with calibration := Dict.set device.calibration key (.float value) } [.calibration]
    pure (answer request "devices/_calibration_status.html"
      (.redirect "devices:admin" (some device.deviceId)))

def calibrationMetrics : List String := ["temp", "humi", "press"]

def deviceCalibrationView (env : Env) (request : Request) (deviceId : String) : Act Response :=
  roleRequired .admin request <|
  getDeviceOr404 deviceId fun device =>
  postOnly request <|
    let metric := pyStrip (QueryDict.get request.post "metric" "")
    if metric ∉ calibrationMetrics then pure (.badRequest "Invalid metric.")
    else match env.floatOfStr (QueryDict.get request.post "value" "0") with
    | none => pure (.badRequest "Invalid value.")
    | some f =>
      let value := f.round 2
      pushCalibration env request device
        (.obj [("action", .str "set_offset"), ("metric", .str metric), ("value", .float value)])
        ("cal_" ++ metric) value

def deviceSetCalibrationView (env : Env) (request : Request) (deviceId : String) : Act Response :=
  roleRequired .admin request <|
  getDeviceOr404 deviceId fun device =>
  postOnly request <|
    let key := pyStrip (QueryDict.get request.post "key" "")
    if !safeIdentifierRe key || decide (pyLen key > 64) then
      pure (.badRequest "Invalid calibration key.")
    else match env.floatOfStr (QueryDict.get request.post "value" "0") with
    | none => pure (.badRequest "Invalid value.")
    | some f =>
      let value := f.round 4
      pushCalibration env request device
        (.obj [("action", .str "set_calibration"), ("key", .str key), ("value", .float value)])
        key value

def bareRequestView (request : Request) (deviceId : String) (refuse : Device → Bool)
    (send : Device → Act Unit) : Act Response :=
  roleRequired .admin request <|
  getDeviceOr404 deviceId fun device =>
  postOnly request <|
    if refuse device then pure (.badRequest "Device does not support diagnostics.")
    else do
      send device
      pure (commandLogAnswer request device)

def deviceRequestCalibrationView (env : Env) (request : Request) (deviceId : String) : Act Response :=
  bareRequestView request deviceId (fun _ => false) (requestCalibration env)

def deviceRequestStatusView (env : Env) (request : Request) (deviceId : String) : Act Response :=
  bareRequestView request deviceId (fun device => !device.supportsDiag) (requestStatus env)

def deviceRequestDiagView (env : Env) (request : Request) (deviceId : String) : Act Response :=
  bareRequestView request deviceId (fun device => !device.supportsDiag) (requestDiag env)

def deviceRequestCapabilitiesView (env : Env) (request : Request) (deviceId : String) : Act Response :=
  bareRequestView request deviceId (fun _ => false) (fun device => do
    let device ← requestCapabilities env device (some request.user.username) true
    requestCommands env device)

/-- The firmware of the form, among the compatible ones; none is a key that is no number. -/
def chosenFirmware (env : Env) (db : Db) (device : Device) (key : Option String) :
    Option (Option Firmware) :=
  match key with
  | none => some none
  | some text => (env.intOfStr text).map
    (fun i => (compatibleFirmwares db device).find? (fun f => (f.id : Int) = i))

def deviceOtaPushView (env : Env) (request : Request) (deviceId : String) : Act Response :=
  roleRequired .admin request <|
  getDeviceOr404 deviceId fun device =>
  postOnly request do
    let chosen ← read (fun w => chosenFirmware env w.db device (QueryDict.get? request.post "firmware_id"))
    match chosen with
    | none => fail .conversion
    | some none => pure (.badRequest "Unknown or incompatible firmware.")
    | some (some firmware) =>
      rescue (do
          sendOtaUpdate env device firmware (some request.user.username)
          pure (commandLogAnswer request device))
        (fun raised => pure (.badRequest (match raised with
          | .otaError detail => detail
          | _ => "MQTT publish error.")))

theorem upholds_deviceOtaPushView {R : World → World → Prop} (closed : Closed R) {env : Env} {request : Request}
    {deviceId : String}
    (publish : ∀ device firmware,
      Upholds R (mqttPublish env (commandTopic device) (otaCommand env firmware) false 1))
    (record : ∀ (device : Device) firmware,
      Upholds R (addCommandLog env device.deviceId (otaCommand env firmware) (some request.user.username))) :
    Upholds R (deviceOtaPushView env request deviceId) := by
  refine upholds_devicePost closed (fun device => Upholds.bind closed (Upholds.read closed _) (fun chosen => ?_))
  split
  · exact Upholds.fail closed _
  · exact Upholds.pure closed _
  · refine Upholds.rescue closed (Upholds.bind closed ?_ (fun _ => Upholds.pure closed _))
      (fun _ => Upholds.pure closed _)
    unfold sendOtaUpdate
    split
    · exact Upholds.fail closed _
    · exact Upholds.bind closed (publish device _) (fun _ => record device _)

def deviceDeleteCommandView (request : Request) (deviceId : String) (commandId : Nat) : Act Response :=
  roleRequired .admin request <|
  getDeviceOr404 deviceId fun device =>
  postOnly request do
    emit (.deleteCommands (fun r => decide (r.id = commandId) && decide (r.device = device.deviceId)))
    pure (commandLogAnswer request device)

def deviceClearCommandsView (request : Request) (deviceId : String) : Act Response :=
  roleRequired .admin request <|
  getDeviceOr404 deviceId fun device =>
  postOnly request do
    emit (.deleteCommands (fun r => decide (r.device = device.deviceId)))
    pure (commandLogAnswer request device)

def deleteDevice (env : Env) (device : Device) : Act Unit :=
  transaction env do
    emit (.deleteReadings (fun r => decide (r.deviceId = device.deviceId)))
    emit (.deleteDevice device.deviceId)

def deviceDeleteView (env : Env) (request : Request) (deviceId : String) : Act Response :=
  roleRequired .admin request <|
  getDeviceOr404 deviceId fun device =>
    if request.isPost then do
      deleteDevice env device
      pure (.redirect "devices:list" none)
    else pure (.page "devices/device_delete_confirm.html")

/-- The instance Device.objects.create builds: a field that is not passed takes its default. -/
def renamedDevice (env : Env) (device : Device) (newId : String) : Device :=
  { deviceId := newId
    deviceType := device.deviceType
    displayName := device.displayName
    location := device.location
    config := device.config
    lastSeen := device.lastSeen
    createdAt := env.now
    isApproved := device.isApproved
    hardwareId := device.hardwareId
    hardwareCode := device.hardwareCode
    hwRev := device.hwRev
    otaCapable := device.otaCapable
    calibration := device.calibration
    fwVersion := device.fwVersion
    batteryPercent := device.batteryPercent
    capabilities := device.capabilities
    publishInterval := device.publishInterval
    alertLevel := device.alertLevel
    alertMessage := device.alertMessage
    alertUpdatedAt := device.alertUpdatedAt
    diagRequestedAt := device.diagRequestedAt
    capabilitiesRequestedAt := device.capabilitiesRequestedAt
    guestVisibleMetrics := device.guestVisibleMetrics
    batteryCellCount := device.batteryCellCount }

def renameRows (env : Env) (device : Device) (newId : String) : Act Unit := do
  emit (.moveReadings (fun r => decide (r.deviceId = device.deviceId)) newId)
  createDevice (renamedDevice env device newId)
  emit (.moveLogs device.deviceId newId)
  emit (.deleteDevice device.deviceId)

def renameDevice (env : Env) (device : Device) (newId : String) : Act Unit := do
  transaction env (renameRows env device newId)
  refreshContinuousAggregates env

def inSeries (deviceId metric : String) (r : SensorReading) : Bool :=
  decide (r.deviceId = deviceId) && decide (r.metric = metric)

def metricsOf (readings : List SensorReading) (deviceId : String) : List String :=
  ((readings.filter (fun r => r.deviceId = deviceId)).map SensorReading.metric).dedup

/-- order_by("-time").first() of a series -/
def latestTime (readings : List SensorReading) (deviceId metric : String) : Option Time :=
  ((readings.filter (inSeries deviceId metric)).map SensorReading.time).max?

/-- `source_latest and target_latest and source_latest > target_latest` -/
def sourceWins (readings : List SensorReading) (source target metric : String) : Bool :=
  match latestTime readings source metric, latestTime readings target metric with
  | some s, some t => decide (t < s)
  | _, _ => false

def mergeMetric (source target metric : String) : Act Unit := do
  let wins ← read (fun w => sourceWins w.db.readings source target metric)
  if wins then do
    emit (.deleteReadings (inSeries target metric))
    emit (.moveReadings (inSeries source metric) target)
  else emit (.deleteReadings (inSeries source metric))

def newerSeen (source target : Device) : Option Time :=
  match source.lastSeen, target.lastSeen with
  | some s, none => some s
  | some s, some t => if t < s then some s else none
  | none, _ => none

def mergeRows (source target : Device) : Act Unit := do
  let shared ← read (fun w => (metricsOf w.db.readings source.deviceId).filter
    (fun m => m ∈ metricsOf w.db.readings target.deviceId))
  forEach shared (mergeMetric source.deviceId target.deviceId)
  emit (.moveReadings (fun r => decide (r.deviceId = source.deviceId)) target.deviceId)
  emit (.moveLogs source.deviceId target.deviceId)
  forEach (newerSeen source target).toList
    (fun seen => saveDevice { target with lastSeen := some seen } [.lastSeen])
  emit (.deleteDevice source.deviceId)

def mergeDevices (env : Env) (source target : Device) : Act Unit := do
  transaction env (mergeRows source target)
  refreshContinuousAggregates env

def deviceRenameView (env : Env) (request : Request) (deviceId : String) : Act Response :=
  roleRequired .admin request <|
  getDeviceOr404 deviceId fun device =>
    if !request.isPost then pure (.page "devices/device_rename.html")
    else
      let newId := pyStrip (QueryDict.get request.post "new_device_id" "")
      if newId = "" then
        pure (.formError "devices/device_rename.html" "Device ID cannot be empty.")
      else if !safeIdentifierRe newId then
        pure (.formError "devices/device_rename.html"
          "Device ID may only contain letters, digits, hyphens, and underscores.")
      else if newId = device.deviceId then
        pure (.redirect "devices:admin" (some device.deviceId))
      else do
        let target ← read (fun w => w.device? newId)
        match target with
        | none => do
          renameDevice env device newId
          pure (.redirect "devices:admin" (some newId))
        | some target =>
          if QueryDict.get? request.post "confirm_merge" = some "yes" then do
            mergeDevices env device target
            pure (.redirect "devices:admin" (some target.deviceId))
          else pure (.page "devices/device_rename_merge_confirm.html")

end SensorServer
