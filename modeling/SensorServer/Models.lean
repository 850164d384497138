import SensorServer.Json
import SensorServer.Text
import SensorServer.Lib.Table

/-! The rows of the database and the values their columns accept. Times are
microseconds since the epoch. -/
namespace SensorServer

abbrev Time := Int

def seconds (n : Nat) : Time := n * 1000000

def defaultOfflineTimeout : Nat := 300
def capabilitiesResponseTimeout : Nat := 60
def lowBatteryThreshold : PyFloat := .finite 20
def criticalBatteryThreshold : PyFloat := .finite 5

/-- ALERT_LEVEL_CHOICES; `ok` is the empty string. -/
inductive AlertLevel where
  | ok | warning | error
  deriving DecidableEq, Repr

def AlertLevel.raised (l : AlertLevel) : Bool := l ≠ .ok

inductive DiagLevel where
  | ok | info | warning | error
  deriving DecidableEq, Repr

inductive BatteryStatus where
  | critical | low | ok
  deriving DecidableEq, Repr

structure Param where
  name : String
  type : String
  deriving DecidableEq, Repr

/-- The keys the handlers write into Device.capabilities; none is an absent key. -/
structure Capabilities where
  metrics : Option (List String) := none
  units : Option (List (String × String)) := none
  commands : Option (List String) := none
  commandParams : Option (List (String × List Param)) := none
  deriving DecidableEq, Repr

structure Device where
  deviceId : String
  deviceType : String := "unknown"
  displayName : String := ""
  location : String := ""
  config : Json := .obj []
  lastSeen : Option Time := none
  createdAt : Time
  isApproved : Bool := false
  hardwareId : String := ""
  hardwareCode : Option String := none
  hwRev : Option Nat := none
  otaCapable : Bool := false
  diagCapable : Bool := false
  calibration : Fields := []
  fwVersion : String := ""
  batteryPercent : Option PyFloat := none
  capabilities : Capabilities := {}
  publishInterval : Nat := 0
  alertLevel : AlertLevel := .ok
  alertMessage : String := ""
  alertUpdatedAt : Option Time := none
  diagRequestedAt : Option Time := none
  capabilitiesRequestedAt : Option Time := none
  guestVisibleMetrics : List String := []
  locationType : String := ""
  batteryCellCount : Nat := 1
  deriving DecidableEq

namespace Device

def effectiveName (d : Device) : String := if d.displayName ≠ "" then d.displayName else d.deviceId

def offlineTimeout (d : Device) : Time :=
  if d.publishInterval > 0 then seconds (d.publishInterval * 3) else seconds defaultOfflineTimeout

def isOnline (d : Device) (now : Time) : Bool :=
  match d.lastSeen with
  | none => false
  | some seen => now - seen < d.offlineTimeout

def hasReportedCapabilities (d : Device) : Bool :=
  match d.capabilities.metrics with
  | none => false
  | some metrics => !metrics.isEmpty

def batteryStatus (d : Device) : Option BatteryStatus :=
  match d.batteryPercent with
  | none => none
  | some percent =>
    if percent.le criticalBatteryThreshold then some .critical
    else if percent.le lowBatteryThreshold then some .low
    else some .ok

def needsFirmwareUpdate (d : Device) : Bool :=
  d.hasReportedCapabilities && (d.hardwareCode.isNone || decide (d.fwVersion = ""))

def isLegacyFirmware (d : Device) : Bool :=
  d.hasReportedCapabilities && (!d.otaCapable && d.hardwareCode.isNone)

def isBatteryLow (d : Device) : Bool :=
  d.batteryStatus = some .low || d.batteryStatus = some .critical

def supportsDiag (d : Device) : Bool := d.diagCapable

/-- _alert_reassert_window -/
def alertReassertWindow (d : Device) : Time :=
  if d.publishInterval > 0 then seconds (d.publishInterval * 3) else seconds defaultOfflineTimeout

def clearAlert (d : Device) : Device :=
  { d with alertLevel := .ok, alertMessage := "", alertUpdatedAt := none }

def alert (d : Device) : AlertLevel × String := (d.alertLevel, d.alertMessage)

end Device

/-- The names that appear in `update_fields`. -/
inductive DeviceField where
  | displayName | location | lastSeen | isApproved | hardwareId | hardwareCode | hwRev | otaCapable
  | diagCapable | calibration | fwVersion | batteryPercent | capabilities | publishInterval
  | alertLevel | alertMessage | alertUpdatedAt | diagRequestedAt | capabilitiesRequestedAt
  | guestVisibleMetrics | locationType | batteryCellCount
  deriving DecidableEq, Repr

namespace Device

def copyField (src : Device) (row : Device) : DeviceField → Device
  | .displayName => { row with displayName := src.displayName }
  | .location => { row with location := src.location }
  | .lastSeen => { row with lastSeen := src.lastSeen }
  | .isApproved => { row with isApproved := src.isApproved }
  | .hardwareId => { row with hardwareId := src.hardwareId }
  | .hardwareCode => { row with hardwareCode := src.hardwareCode }
  | .hwRev => { row with hwRev := src.hwRev }
  | .otaCapable => { row with otaCapable := src.otaCapable }
  | .diagCapable => { row with diagCapable := src.diagCapable }
  | .calibration => { row with calibration := src.calibration }
  | .fwVersion => { row with fwVersion := src.fwVersion }
  | .batteryPercent => { row with batteryPercent := src.batteryPercent }
  | .capabilities => { row with capabilities := src.capabilities }
  | .publishInterval => { row with publishInterval := src.publishInterval }
  | .alertLevel => { row with alertLevel := src.alertLevel }
  | .alertMessage => { row with alertMessage := src.alertMessage }
  | .alertUpdatedAt => { row with alertUpdatedAt := src.alertUpdatedAt }
  | .diagRequestedAt => { row with diagRequestedAt := src.diagRequestedAt }
  | .capabilitiesRequestedAt => { row with capabilitiesRequestedAt := src.capabilitiesRequestedAt }
  | .guestVisibleMetrics => { row with guestVisibleMetrics := src.guestVisibleMetrics }
  | .locationType => { row with locationType := src.locationType }
  | .batteryCellCount => { row with batteryCellCount := src.batteryCellCount }

def copyFields (src : Device) (fields : List DeviceField) (row : Device) : Device :=
  fields.foldl (copyField src) row

@[simp] theorem deviceId_copyField (src row : Device) (f : DeviceField) :
    (src.copyField row f).deviceId = row.deviceId := by cases f <;> rfl

@[simp] theorem deviceId_copyFields (src : Device) (fields : List DeviceField) (row : Device) :
    (src.copyFields fields row).deviceId = row.deviceId := by
  unfold copyFields
  induction fields generalizing row with
  | nil => rfl
  | cons f fs ih => rw [List.foldl_cons, ih, deviceId_copyField]

@[simp] theorem deviceType_copyFields (src : Device) (fields : List DeviceField) (row : Device) :
    (src.copyFields fields row).deviceType = row.deviceType := by
  unfold copyFields
  induction fields generalizing row with
  | nil => rfl
  | cons f fs ih =>
    rw [List.foldl_cons, ih]
    cases f <;> rfl

theorem copyFields_column {β : Type} (column : Device → β) (field : DeviceField) {src : Device}
    (written : ∀ r, column (src.copyField r field) = column src)
    (kept : ∀ f, f ≠ field → ∀ r, column (src.copyField r f) = column r)
    (fields : List DeviceField) (row : Device) :
    column (src.copyFields fields row) = if field ∈ fields then column src else column row := by
  unfold copyFields
  induction fields generalizing row with
  | nil => rfl
  | cons f fs ih =>
    rw [List.foldl_cons, ih]
    by_cases h : f = field
    · subst h
      simp [written]
    · simp [kept f h, Ne.symm h]

section Columns
variable (src : Device) (fields : List DeviceField) (row : Device)

@[simp] theorem lastSeen_copyFields : (src.copyFields fields row).lastSeen =
    if .lastSeen ∈ fields then src.lastSeen else row.lastSeen :=
  copyFields_column lastSeen .lastSeen (fun _ => rfl)
    (fun f h r => by cases f <;> first | rfl | exact absurd rfl h) fields row

@[simp] theorem publishInterval_copyFields : (src.copyFields fields row).publishInterval =
    if .publishInterval ∈ fields then src.publishInterval else row.publishInterval :=
  copyFields_column publishInterval .publishInterval (fun _ => rfl)
    (fun f h r => by cases f <;> first | rfl | exact absurd rfl h) fields row

@[simp] theorem batteryCellCount_copyFields : (src.copyFields fields row).batteryCellCount =
    if .batteryCellCount ∈ fields then src.batteryCellCount else row.batteryCellCount :=
  copyFields_column batteryCellCount .batteryCellCount (fun _ => rfl)
    (fun f h r => by cases f <;> first | rfl | exact absurd rfl h) fields row

@[simp] theorem calibration_copyFields : (src.copyFields fields row).calibration =
    if .calibration ∈ fields then src.calibration else row.calibration :=
  copyFields_column calibration .calibration (fun _ => rfl)
    (fun f h r => by cases f <;> first | rfl | exact absurd rfl h) fields row

@[simp] theorem isApproved_copyFields : (src.copyFields fields row).isApproved =
    if .isApproved ∈ fields then src.isApproved else row.isApproved :=
  copyFields_column isApproved .isApproved (fun _ => rfl)
    (fun f h r => by cases f <;> first | rfl | exact absurd rfl h) fields row

@[simp] theorem capabilities_copyFields : (src.copyFields fields row).capabilities =
    if .capabilities ∈ fields then src.capabilities else row.capabilities :=
  copyFields_column capabilities .capabilities (fun _ => rfl)
    (fun f h r => by cases f <;> first | rfl | exact absurd rfl h) fields row

@[simp] theorem guestVisibleMetrics_copyFields : (src.copyFields fields row).guestVisibleMetrics =
    if .guestVisibleMetrics ∈ fields then src.guestVisibleMetrics else row.guestVisibleMetrics :=
  copyFields_column guestVisibleMetrics .guestVisibleMetrics (fun _ => rfl)
    (fun f h r => by cases f <;> first | rfl | exact absurd rfl h) fields row

@[simp] theorem alertLevel_copyFields : (src.copyFields fields row).alertLevel =
    if .alertLevel ∈ fields then src.alertLevel else row.alertLevel :=
  copyFields_column alertLevel .alertLevel (fun _ => rfl)
    (fun f h r => by cases f <;> first | rfl | exact absurd rfl h) fields row

@[simp] theorem alertMessage_copyFields : (src.copyFields fields row).alertMessage =
    if .alertMessage ∈ fields then src.alertMessage else row.alertMessage :=
  copyFields_column alertMessage .alertMessage (fun _ => rfl)
    (fun f h r => by cases f <;> first | rfl | exact absurd rfl h) fields row

@[simp] theorem alertUpdatedAt_copyFields : (src.copyFields fields row).alertUpdatedAt =
    if .alertUpdatedAt ∈ fields then src.alertUpdatedAt else row.alertUpdatedAt :=
  copyFields_column alertUpdatedAt .alertUpdatedAt (fun _ => rfl)
    (fun f h r => by cases f <;> first | rfl | exact absurd rfl h) fields row

@[simp] theorem diagRequestedAt_copyFields : (src.copyFields fields row).diagRequestedAt =
    if .diagRequestedAt ∈ fields then src.diagRequestedAt else row.diagRequestedAt :=
  copyFields_column diagRequestedAt .diagRequestedAt (fun _ => rfl)
    (fun f h r => by cases f <;> first | rfl | exact absurd rfl h) fields row

@[simp] theorem hardwareCode_copyFields : (src.copyFields fields row).hardwareCode =
    if .hardwareCode ∈ fields then src.hardwareCode else row.hardwareCode :=
  copyFields_column hardwareCode .hardwareCode (fun _ => rfl)
    (fun f h r => by cases f <;> first | rfl | exact absurd rfl h) fields row

@[simp] theorem hwRev_copyFields : (src.copyFields fields row).hwRev =
    if .hwRev ∈ fields then src.hwRev else row.hwRev :=
  copyFields_column hwRev .hwRev (fun _ => rfl)
    (fun f h r => by cases f <;> first | rfl | exact absurd rfl h) fields row

end Columns

def smallintMax : Nat := 32767
def integerMax : Nat := 2147483647

def paramsStorable (params : List Param) : Bool := params.all (fun p => nulFree p.name && nulFree p.type)

def capabilitiesStorable (c : Capabilities) : Bool :=
  c.metrics.all (·.all nulFree) &&
  c.units.all (·.all (fun kv => nulFree kv.1 && nulFree kv.2)) &&
  c.commands.all (·.all nulFree) &&
  c.commandParams.all (·.all (fun kv => nulFree kv.1 && paramsStorable kv.2))

/-- Whether PostgreSQL takes the instance's value for the column. -/
def accepts (d : Device) : DeviceField → Bool
  | .displayName => varchar 128 d.displayName
  | .location => varchar 128 d.location
  | .hardwareId => varchar 256 d.hardwareId
  | .hwRev => d.hwRev.all (fun r => decide (r ≤ smallintMax))
  | .calibration => storableFields d.calibration
  | .fwVersion => varchar 32 d.fwVersion
  | .capabilities => capabilitiesStorable d.capabilities
  | .publishInterval => decide (d.publishInterval ≤ integerMax)
  | .alertMessage => varchar 256 d.alertMessage
  | .guestVisibleMetrics => d.guestVisibleMetrics.all nulFree
  | .locationType => varchar 16 d.locationType
  | .batteryCellCount => decide (d.batteryCellCount ≤ smallintMax)
  | .lastSeen | .isApproved | .hardwareCode | .otaCapable | .diagCapable | .batteryPercent
  | .alertLevel | .alertUpdatedAt | .diagRequestedAt | .capabilitiesRequestedAt => true

def insertable (d : Device) : Bool :=
  varchar 128 d.deviceId && varchar 64 d.deviceType && d.config.storable &&
  [DeviceField.displayName, .location, .hardwareId, .hwRev, .calibration, .fwVersion,
    .capabilities, .publishInterval, .alertMessage, .guestVisibleMetrics, .locationType,
    .batteryCellCount].all d.accepts

end Device

structure DeviceStatusLog where
  time : Time
  device : String
  alertLevel : AlertLevel
  alertMessage : String
  deriving DecidableEq, Repr

/-- The newest row of the status log names the level and message of the alert badge. -/
def statusPair : Option DeviceStatusLog → AlertLevel × String
  | some l => (l.alertLevel, l.alertMessage)
  | none => (.ok, "")

structure DeviceDiagLog where
  time : Time
  device : String
  level : DiagLevel
  message : String
  resetCause : Option Nat
  boot : Option Nat
  miss : Option Nat
  wakeMs : Option Nat
  seq : Option Nat
  pubfail : Option Nat
  rssi : Option Int
  heap : Option Nat
  batteryPercent : Option Nat
  txsent : Option Nat
  txok : Option Nat
  deriving DecidableEq, Repr

def DeviceDiagLog.insertable (l : DeviceDiagLog) : Bool :=
  varchar 256 l.message &&
  [l.resetCause, l.batteryPercent].all (·.all (fun n => decide (n ≤ Device.smallintMax))) &&
  [l.boot, l.miss, l.wakeMs, l.seq, l.pubfail, l.heap, l.txsent, l.txok].all
    (·.all (fun n => decide (n ≤ Device.integerMax))) &&
  l.rssi.all (fun r => decide (-2147483648 ≤ r ∧ r ≤ 2147483647))

inductive CommandStatus where
  | pending | success | failed | timeout
  deriving DecidableEq, Repr

/-- TERMINAL_STATUSES -/
def CommandStatus.terminal (s : CommandStatus) : Bool := s = .success || s = .failed || s = .timeout

structure CommandLog where
  id : Nat
  device : String
  command : Json
  sentAt : Time
  sentBy : Option String
  status : CommandStatus := .pending
  responseMessage : String := ""
  acked : Bool := false
  ackedAt : Option Time := none
  deriving DecidableEq

/-- The SQL value `command -> 'action'`; none is NULL. -/
def actionOf : Json → Option Json
  | .obj fields => Dict.get? fields "action"
  | _ => none

/-- filter(command__action=action) -/
def hasAction (action : Json) (command : Json) : Bool :=
  match actionOf command with
  | some a => a.same action
  | none => false

namespace CommandLog

/-- CommandLog.mark, and the update of _resolve_capability_requests, on one row. -/
def mark (row : CommandLog) (status : CommandStatus) (message : String) (at_ : Time) : CommandLog :=
  { row with status := status, responseMessage := pyTake 256 message,
             acked := status.terminal, ackedAt := some at_ }

@[simp] theorem mark_id (row : CommandLog) (status : CommandStatus) (message : String) (at_ : Time) :
    (row.mark status message at_).id = row.id := rfl
@[simp] theorem mark_device (row : CommandLog) (status : CommandStatus) (message : String) (at_ : Time) :
    (row.mark status message at_).device = row.device := rfl
@[simp] theorem mark_command (row : CommandLog) (status : CommandStatus) (message : String) (at_ : Time) :
    (row.mark status message at_).command = row.command := rfl
@[simp] theorem mark_sentAt (row : CommandLog) (status : CommandStatus) (message : String) (at_ : Time) :
    (row.mark status message at_).sentAt = row.sentAt := rfl
@[simp] theorem mark_status (row : CommandLog) (status : CommandStatus) (message : String) (at_ : Time) :
    (row.mark status message at_).status = status := rfl
@[simp] theorem mark_acked (row : CommandLog) (status : CommandStatus) (message : String) (at_ : Time) :
    (row.mark status message at_).acked = status.terminal := rfl

end CommandLog

structure SensorReading where
  time : Time
  deviceId : String
  metric : String
  value : PyFloat
  deriving DecidableEq, Repr

structure RollupRow where
  bucket : Time
  deviceId : String
  metric : String
  avgValue : PyFloat
  minValue : PyFloat
  maxValue : PyFloat
  sampleCount : Nat
  deriving DecidableEq, Repr

structure HardwareCode where
  hwCode : String
  platform : String := ""
  description : String := ""
  modules : List String := []
  createdAt : Time
  updatedAt : Time
  deriving DecidableEq, Repr

structure HardwareRevision where
  hardwareCode : String
  hwRev : Nat
  description : String := ""
  batDividerNominal : Option PyFloat := none
  notes : String := ""
  createdAt : Time
  updatedAt : Time
  deriving DecidableEq

def HardwareRevision.key (r : HardwareRevision) : String × Nat := (r.hardwareCode, r.hwRev)

structure Firmware where
  id : Nat
  hardwareRevision : String × Nat
  version : String
  file : String
  md5 : String
  size : Nat
  uploadedAt : Time
  notes : String := ""
  deriving DecidableEq, Repr

end SensorServer
