import SensorServer.DeviceViews

/-! Renaming a device: what belongs to the old identifier belongs to the new one
afterwards, as far as _rename_device copies it. -/
namespace SensorServer
open Program

structure Belongings where
  device : Option Device
  readings : List SensorReading
  statusLogs : List DeviceStatusLog
  diagLogs : List DeviceDiagLog
  commandLogs : List CommandLog
  deriving DecidableEq

def Belongings.empty : Belongings := ⟨none, [], [], [], []⟩

def Db.belongings (db : Db) (id : String) : Belongings where
  device := db.devices.get? id
  readings := ownedBy SensorReading.deviceId id db.readings
  statusLogs := ownedBy DeviceStatusLog.device id db.statusLogs
  diagLogs := ownedBy DeviceDiagLog.device id db.diagLogs
  commandLogs := ownedBy CommandLog.device id db.commandLogs.rows

def SensorReading.renamed (newId : String) (r : SensorReading) : SensorReading := { r with deviceId := newId }
def DeviceStatusLog.renamed (newId : String) (l : DeviceStatusLog) : DeviceStatusLog :=
  { l with device := newId }
def DeviceDiagLog.renamed (newId : String) (l : DeviceDiagLog) : DeviceDiagLog := { l with device := newId }
def CommandLog.renamed (newId : String) (l : CommandLog) : CommandLog := { l with device := newId }

theorem SensorReading.deviceId_renamed (newId : String) (r : SensorReading) :
    (r.renamed newId).deviceId = newId := rfl
theorem DeviceStatusLog.device_renamed (newId : String) (l : DeviceStatusLog) :
    (l.renamed newId).device = newId := rfl
theorem CommandLog.device_renamed (newId : String) (l : CommandLog) : (l.renamed newId).device = newId := rfl

def Belongings.renamed (b : Belongings) (newId : String) : Belongings where
  device := b.device.map (fun d => { d with deviceId := newId })
  readings := b.readings.map (SensorReading.renamed newId)
  statusLogs := b.statusLogs.map (DeviceStatusLog.renamed newId)
  diagLogs := b.diagLogs.map (DeviceDiagLog.renamed newId)
  commandLogs := b.commandLogs.map (CommandLog.renamed newId)

/-- The foreign keys of the log tables. -/
structure Db.ForeignKeys (db : Db) : Prop where
  statusLogs : ∀ l ∈ db.statusLogs, (db.devices.get? l.device).isSome = true
  diagLogs : ∀ l ∈ db.diagLogs, (db.devices.get? l.device).isSome = true
  commandLogs : ∀ l ∈ db.commandLogs.rows, (db.devices.get? l.device).isSome = true

theorem ownedBy_unknown {ρ : Type} {owner : ρ → String} {rows : List ρ} {devices : Table Device.deviceId}
    (keys : ∀ r ∈ rows, (devices.get? (owner r)).isSome = true) {id : String}
    (unknown : devices.get? id = none) : ownedBy owner id rows = [] := by
  unfold ownedBy
  rw [List.filter_eq_nil_iff]
  intro r member
  have known := keys r member
  by_contra same
  have owned : owner r = id := by simpa using same
  rw [owned, unknown] at known
  cases known

/-- An isomorphism from the old identifier to the new one. -/
structure Isomorphic (w v : World) (oldId newId : String) : Prop where
  renamed : v.db.belongings newId = (w.db.belongings oldId).renamed newId
  gone : v.db.belongings oldId = Belongings.empty
  others : ∀ id, id ≠ oldId → id ≠ newId → v.db.belongings id = w.db.belongings id
  aggregates : ∀ view, ∀ row ∈ rollupRows v.db view, row.deviceId ≠ oldId

def World.renamed (w : World) (env : Env) (device : Device) (newId : String) : World :=
  (((w.apply (.moveReadings (fun r => decide (r.deviceId = device.deviceId)) newId)).apply
    (.createDevice (renamedDevice env device newId))).apply
    (.moveLogs device.deviceId newId)).apply (.deleteDevice device.deviceId)

theorem outcome_renameRows_ok {env : Env} {device : Device} {newId : String} {w v : World} :
    outcome (renameRows env device newId) w = (.ok (), v) ↔
      w.device? newId = none ∧ (renamedDevice env device newId).insertable = true ∧
      v = w.renamed env device newId := by
  unfold renameRows
  rw [outcome_bind_ok (outcome_emit _ w), outcome_bind_eq_ok]
  constructor
  · rintro ⟨⟨⟩, _, created, rest⟩
    obtain ⟨free, insertable, rfl⟩ := outcome_createDevice_ok.mp created
    obtain ⟨⟨⟩, _, logs, deleted⟩ := outcome_bind_eq_ok.mp rest
    rw [outcome_emit_eq_ok.mp logs] at deleted
    exact ⟨free, insertable, outcome_emit_eq_ok.mp deleted⟩
  · rintro ⟨free, insertable, rfl⟩
    exact ⟨(), _, outcome_createDevice_ok.mpr ⟨free, insertable, rfl⟩, rfl⟩

theorem outcome_renameDevice_ok {env : Env} {device : Device} {newId : String} {w v : World}
    (succeeds : outcome (renameDevice env device newId) w = (.ok (), v)) :
    w.device? newId = none ∧ v = (w.renamed env device newId).refreshed := by
  unfold renameDevice at succeeds
  obtain ⟨⟨⟩, t, block, refresh⟩ := outcome_bind_eq_ok.mp succeeds
  obtain ⟨-, -, rfl⟩ := outcome_refreshContinuousAggregates_ok.mp refresh
  obtain ⟨body, -⟩ := outcome_transaction_ok.mp block
  obtain ⟨free, -, rfl⟩ := outcome_renameRows_ok.mp body
  exact ⟨free, rfl⟩

theorem belongings_refreshed (w : World) (id : String) : w.refreshed.db.belongings id = w.db.belongings id :=
  rfl

section Renamed
variable {w : World} {env : Env} {device : Device} {newId : String}

theorem readings_renamed : (w.renamed env device newId).db.readings =
    transfer SensorReading.deviceId (SensorReading.renamed newId) device.deviceId w.db.readings := by
  simp [World.renamed, World.apply, World.moveLogs, World.cascade, transfer, SensorReading.renamed]

theorem statusLogs_renamed : (w.renamed env device newId).db.statusLogs =
    (transfer DeviceStatusLog.device (DeviceStatusLog.renamed newId) device.deviceId
      w.db.statusLogs).filter (fun l => l.device ≠ device.deviceId) := rfl

theorem diagLogs_renamed : (w.renamed env device newId).db.diagLogs =
    w.db.diagLogs.filter (fun l => l.device ≠ device.deviceId) := rfl

theorem commandLogs_renamed : (w.renamed env device newId).db.commandLogs.rows =
    (transfer CommandLog.device (CommandLog.renamed newId) device.deviceId
      w.db.commandLogs.rows).filter (fun l => l.device ≠ device.deviceId) := by
  simp [World.renamed, World.apply, World.moveLogs, World.cascade, transfer, Serial.rows_filter,
    Serial.rows_update, CommandLog.renamed]

theorem devices_renamed : (w.renamed env device newId).db.devices =
    (w.db.devices.insert (renamedDevice env device newId)).filter (fun d => d.deviceId ≠ device.deviceId) :=
  rfl

theorem device?_renamed_new (free : w.device? newId = none) (other : newId ≠ device.deviceId) :
    (w.renamed env device newId).device? newId = some (renamedDevice env device newId) := by
  have row : (w.db.devices.insert (renamedDevice env device newId)).get? newId =
      some (renamedDevice env device newId) := Table.get?_insert_new free
  have kept : decide ((renamedDevice env device newId).deviceId ≠ device.deviceId) = true :=
    decide_eq_true other
  unfold World.device?
  rw [devices_renamed, Table.get?_filter, row, Option.filter_some, if_pos kept]

theorem belongings_renamed_old (other : newId ≠ device.deviceId) :
    (w.renamed env device newId).db.belongings device.deviceId = Belongings.empty := by
  unfold Db.belongings Belongings.empty
  rw [readings_renamed, statusLogs_renamed, diagLogs_renamed, commandLogs_renamed, devices_renamed,
    ownedBy_transfer_source (SensorReading.deviceId_renamed newId) other, ownedBy_filter_self, ownedBy_filter_self,
    ownedBy_filter_self, Table.get?_filter]
  congr 1
  cases found : (w.db.devices.insert (renamedDevice env device newId)).get? device.deviceId with
  | none => rfl
  | some row => simp [Table.key_get? found]

theorem belongings_renamed_other {id : String} (notOld : id ≠ device.deviceId) (notNew : id ≠ newId) :
    (w.renamed env device newId).db.belongings id = w.db.belongings id := by
  unfold Db.belongings
  have apart : (renamedDevice env device newId).deviceId ≠ id := Ne.symm notNew
  rw [readings_renamed, statusLogs_renamed, diagLogs_renamed, commandLogs_renamed, devices_renamed,
    ownedBy_transfer_other (SensorReading.deviceId_renamed newId) notOld notNew,
    ownedBy_filter_other notOld, ownedBy_filter_other notOld, ownedBy_filter_other notOld,
    ownedBy_transfer_other (DeviceStatusLog.device_renamed newId) notOld notNew,
    ownedBy_transfer_other (CommandLog.device_renamed newId) notOld notNew, Table.get?_filter,
    Table.get?_insert_other apart]
  congr 1
  cases found : w.db.devices.get? id with
  | none => rfl
  | some row => simp [Table.key_get? found, notOld]

theorem belongings_renamed_new (keys : w.db.ForeignKeys) (free : w.device? newId = none)
    (unread : ∀ r ∈ w.db.readings, r.deviceId ≠ newId) (other : newId ≠ device.deviceId) :
    (w.renamed env device newId).db.belongings newId =
      { (w.db.belongings device.deviceId).renamed newId with
        device := some (renamedDevice env device newId), diagLogs := [] } := by
  have noReading : ownedBy SensorReading.deviceId newId w.db.readings = [] := by
    simpa [ownedBy, List.filter_eq_nil_iff] using unread
  have row : (w.renamed env device newId).db.devices.get? newId = some (renamedDevice env device newId) :=
    device?_renamed_new free other
  unfold Db.belongings Belongings.renamed
  rw [row, readings_renamed, statusLogs_renamed, diagLogs_renamed, commandLogs_renamed,
    ownedBy_filter_other other, ownedBy_filter_other other, ownedBy_filter_other other,
    ownedBy_transfer_target (SensorReading.deviceId_renamed newId) noReading,
    ownedBy_transfer_target (DeviceStatusLog.device_renamed newId) (ownedBy_unknown keys.statusLogs free),
    ownedBy_transfer_target (CommandLog.device_renamed newId) (ownedBy_unknown keys.commandLogs free),
    ownedBy_unknown keys.diagLogs free]

theorem renamedDevice_eq_iff :
    renamedDevice env device newId = { device with deviceId := newId } ↔
      device.createdAt = env.now ∧ device.diagCapable = false ∧ device.locationType = "" := by
  unfold renamedDevice
  simp only [Device.mk.injEq, true_and, and_true]
  constructor
  · rintro ⟨created, diag, location⟩
    exact ⟨created.symm, diag.symm, location.symm⟩
  · rintro ⟨created, diag, location⟩
    exact ⟨created.symm, diag.symm, location.symm⟩

end Renamed

theorem mem_materialize {width : Time} {raw : List SensorReading} {row : RollupRow}
    (member : row ∈ materialize width raw) : ∃ r ∈ raw, row.deviceId = r.deviceId := by
  obtain ⟨⟨r, present, same⟩, -⟩ := Aggregate.mem_view.mp member
  exact ⟨r, present, congrArg (fun key : GroupKey => key.2.1) same.symm⟩

theorem rollupRows_refreshed (w : World) (view : Rollup) :
    rollupRows w.refreshed.db view = materialize view.width w.db.readings := by
  cases view <;> rfl

theorem aggregates_renamed {w : World} {env : Env} {device : Device} {newId : String}
    (other : newId ≠ device.deviceId) (view : Rollup) :
    ∀ row ∈ rollupRows (w.renamed env device newId).refreshed.db view, row.deviceId ≠ device.deviceId := by
  intro row member
  rw [rollupRows_refreshed, readings_renamed] at member
  obtain ⟨r, present, same⟩ := mem_materialize member
  obtain ⟨q, -, moved⟩ := List.mem_map.mp present
  rw [same, ← moved]
  split
  · exact other
  · assumption

/-- A successful rename is an isomorphism exactly when the three fields it does not copy
have their defaults and the device has no diagnostics snapshots. -/
theorem rename_isomorphic_iff {env : Env} {device : Device} {newId : String} {w v : World}
    (known : w.device? device.deviceId = some device) (keys : w.db.ForeignKeys)
    (unread : ∀ r ∈ w.db.readings, r.deviceId ≠ newId)
    (succeeds : outcome (renameDevice env device newId) w = (.ok (), v)) :
    Isomorphic w v device.deviceId newId ↔
      (device.createdAt = env.now ∧ device.diagCapable = false ∧ device.locationType = "") ∧
      ∀ l ∈ w.db.diagLogs, l.device ≠ device.deviceId := by
  obtain ⟨free, rfl⟩ := outcome_renameDevice_ok succeeds
  have other : newId ≠ device.deviceId := by
    rintro rfl
    rw [free] at known
    cases known
  have named := @belongings_renamed_new w env device newId keys free unread other
  have row : (w.db.belongings device.deviceId).device = some device := known
  have logs : (w.db.belongings device.deviceId).diagLogs = [] ↔
      ∀ l ∈ w.db.diagLogs, l.device ≠ device.deviceId := by
    simp [Db.belongings, ownedBy, List.filter_eq_nil_iff]
  constructor
  · intro iso
    have same := (belongings_refreshed _ newId).symm.trans iso.renamed
    rw [named] at same
    simp only [Belongings.renamed, Belongings.mk.injEq, true_and, and_true, row, Option.map_some,
      Option.some.injEq] at same
    obtain ⟨copied, snapshots⟩ := same
    refine ⟨renamedDevice_eq_iff.mp copied, logs.mp ?_⟩
    exact List.map_eq_nil_iff.mp snapshots.symm
  · rintro ⟨fields, snapshots⟩
    have copied : renamedDevice env device newId = { device with deviceId := newId } :=
      renamedDevice_eq_iff.mpr fields
    refine ⟨?_, ?_, ?_, aggregates_renamed other⟩
    · rw [belongings_refreshed, named]
      simp [Belongings.renamed, row, logs.mpr snapshots, copied]
    · rw [belongings_refreshed]
      exact belongings_renamed_old other
    · intro id notOld notNew
      rw [belongings_refreshed]
      exact belongings_renamed_other notOld notNew

def movedDevice : Device where
  deviceId := "living01"
  deviceType := "thermo"
  displayName := "Living room"
  location := "1st floor"
  config := .obj [("led", .bool false)]
  lastSeen := some (seconds 9)
  createdAt := seconds 9
  isApproved := true
  hwRev := some 2
  calibration := [("cal_temp", .float (.finite (1 / 2)))]
  fwVersion := "1.0"
  batteryPercent := some (.finite 80)
  alertLevel := .warning
  alertMessage := "dusty"
  guestVisibleMetrics := ["temperature"]
  batteryCellCount := 2

/-- With rows of each kind but diag, and a neighbour. -/
def movedWorld : World :=
  { World.empty with
    db.devices := ((Table.empty _).put movedDevice).put
      { deviceId := "cellar02", createdAt := 0, diagCapable := true }
    db.readings := [⟨seconds 8, "cellar02", "temperature", .finite 12⟩,
      ⟨seconds 9, "living01", "temperature", .finite 20⟩]
    db.statusLogs := [⟨seconds 9, "living01", .warning, "dusty"⟩]
    db.diagLogs :=
      [⟨seconds 5, "cellar02", .ok, "", none, some 3, none, none, none, none, none, none, none, none, none⟩]
    db.commandLogs := (Serial.empty _).append
      (fun id => ⟨id, "living01", bareCommand "reboot", seconds 9, some "ann", .pending, "", false, none⟩)
      (fun _ => rfl) }

theorem movedDevice_renamed :
    Isomorphic movedWorld (after (renameDevice { now := seconds 9 } movedDevice "attic01") movedWorld)
      "living01" "attic01" :=
  (@rename_isomorphic_iff { now := seconds 9 } movedDevice "attic01" movedWorld _ rfl
    ⟨by decide, by decide, by decide⟩ (by decide) (outcome_of_isOk (by decide))).mpr (by decide)

def outdoorDevice : Device :=
  { deviceId := "garden01", createdAt := seconds 1, locationType := "outdoor", diagCapable := true }

def outdoorWorld : World :=
  (World.empty.apply (.createDevice outdoorDevice)).apply (.addDiagLog
    ⟨seconds 5, "garden01", .ok, "", none, some 3, none, none, none, none, none, none, none, none, none⟩)

theorem outdoorDevice_reset :
    (outcome (renameDevice { now := seconds 9 } outdoorDevice "garden02") outdoorWorld).1.isOk = true ∧
    ¬ Isomorphic outdoorWorld (after (renameDevice { now := seconds 9 } outdoorDevice "garden02") outdoorWorld)
      "garden01" "garden02" := by
  refine ⟨by decide, fun iso => ?_⟩
  have differs : (after (renameDevice { now := seconds 9 } outdoorDevice "garden02")
      outdoorWorld).db.belongings "garden02" ≠ (outdoorWorld.db.belongings "garden01").renamed "garden02" := by
    decide
  exact differs iso.renamed

end SensorServer
