import SensorServer.Lifecycle
import SensorServer.Visibility

/-! Whose rows an effect touches: a message works on the rows of its device, a device page
on the rows of the devices it names. -/
namespace SensorServer
open Program

def ChannelEvent.device : ChannelEvent → String
  | .deviceStatus deviceId _ _ _ => deviceId
  | .sensorReading deviceId _ _ _ _ _ => deviceId

def ChannelEvent.isReading : ChannelEvent → Bool
  | .deviceStatus .. => false
  | .sensorReading .. => true

/-- The devices a program works on, the columns it may save, and whether it takes readings. -/
structure Scope where
  own : String → Prop
  saves : List DeviceField → Prop
  stores : Prop

def Scope.of (own : String → Prop) : Scope := ⟨own, fun _ => True, True⟩

/-- Every row, message and broadcast of the effect is of a device in the scope. The aggregates
are tables of all devices, the registry and the files are of none. -/
def Effect.Within (scope : Scope) (w : World) : Effect → Prop
  | .createDevice d => scope.own d.deviceId
  | .saveDevice d fields => scope.own d.deviceId ∧ scope.saves fields
  | .deleteDevice id => scope.own id
  | .addStatusLog row => scope.own row.device
  | .addDiagLog row => scope.own row.device
  | .addCommandLog device _ _ _ => scope.own device
  | .markCommands which _ _ _ | .deleteCommands which =>
    ∀ r ∈ w.db.commandLogs.rows, which r = true → scope.own r.device
  | .addReadings rows => scope.stores ∧ ∀ r ∈ rows, scope.own r.deviceId
  | .deleteReadings which => ∀ r ∈ w.db.readings, which r = true → scope.own r.deviceId
  | .moveReadings which target => scope.own target ∧ ∀ r ∈ w.db.readings, which r = true → scope.own r.deviceId
  | .moveLogs source target => scope.own source ∧ scope.own target
  | .setRollup _ _ => True
  | .publish p => ∃ d : Device, scope.own d.deviceId ∧ p.topic = commandTopic d
  | .broadcast e => scope.own e.device ∧ (e.isReading = true → scope.stores)
  | .putHardwareCode _ | .putRevision _ | .addFirmware .. | .saveFirmware .. | .storeFile ..
  | .deleteFile _ => False

/-- The effects that leave the set of devices as it is and delete nothing. -/
def Effect.told : Effect → Bool
  | .saveDevice _ _ | .addStatusLog _ | .addDiagLog _ | .addCommandLog .. | .markCommands .. | .addReadings _
  | .publish _ | .broadcast _ => true
  | _ => false

def Plain (fields : List DeviceField) : Prop := .isApproved ∉ fields ∧ .hardwareCode ∉ fields

instance (fields : List DeviceField) : Decidable (Plain fields) := inferInstanceAs (Decidable (_ ∧ _))

/-- A relation kept by what a message says of the devices in the scope. -/
structure Tended (scope : Scope) (R : World → World → Prop) : Prop where
  closed : Closed R
  plain : ∀ fields, Plain fields → scope.saves fields
  told : ∀ w e, e.told = true → e.Within scope w → R w (w.apply e)

/-- A relation kept by what a page does to the devices in the scope that takes away commands at most. -/
structure Clearing (scope : Scope) (R : World → World → Prop) : Prop extends Tended scope R where
  clears : ∀ w which, (∀ r ∈ w.db.commandLogs.rows, which r = true → scope.own r.device) →
    R w (w.apply (.deleteCommands which))

/-- The effects that leave the set of devices as it is, and give no row to another device. -/
def Effect.mild : Effect → Bool
  | .deleteCommands _ | .deleteReadings _ | .setRollup _ _ => true
  | e => e.told

/-- A relation kept by what a page does to the devices in the scope without removing one. -/
structure Mild (scope : Scope) (R : World → World → Prop) : Prop extends Tended scope R where
  mild : ∀ w e, e.mild = true → e.Within scope w → R w (w.apply e)

theorem Mild.clearing {scope : Scope} {R : World → World → Prop} (mild : Mild scope R) : Clearing scope R :=
  ⟨mild.toTended, fun w which inside => mild.mild w (.deleteCommands which) rfl inside⟩

/-- A relation kept by everything that touches the devices in the scope, and by a rollback. -/
structure Confined (scope : Scope) (R : World → World → Prop) : Prop extends Mild scope R where
  each : ∀ w e, e.Within scope w → R w (w.apply e)
  undone : ∀ w v, R w v → R w { v with db := w.db }

section Services
variable {scope : Scope} {R : World → World → Prop} (tended : Tended scope R) {env : Env} {device : Device}
include tended

theorem Tended.saveDevice {d : Device} {fields : List DeviceField} (mine : scope.own d.deviceId)
    (plain : Plain fields) : Upholds R (saveDevice d fields) :=
  upholds_saveDevice tended.closed (fun w => tended.told w (.saveDevice d fields) rfl
    ⟨mine, tended.plain fields plain⟩)

theorem Tended.addStatusLog {row : DeviceStatusLog} (mine : scope.own row.device) : Upholds R (addStatusLog row) :=
  upholds_addStatusLog tended.closed (fun w => tended.told w (.addStatusLog row) rfl mine)

theorem Tended.addDiagLog {row : DeviceDiagLog} (mine : scope.own row.device) : Upholds R (addDiagLog row) :=
  upholds_addDiagLog tended.closed (fun w => tended.told w (.addDiagLog row) rfl mine)

theorem Tended.addCommandLog {id : String} {command : Json} {sentBy : Option String} (mine : scope.own id) :
    Upholds R (addCommandLog env id command sentBy) :=
  upholds_addCommandLog tended.closed (fun w => tended.told w (.addCommandLog id command env.now sentBy) rfl mine)

theorem Tended.groupSend {e : ChannelEvent} (mine : scope.own e.device) (reads : e.isReading = true → scope.stores) :
    Upholds R (groupSend env e) :=
  upholds_groupSend tended.closed (fun w => tended.told w (.broadcast e) rfl ⟨mine, reads⟩)

theorem Tended.mqttPublish (mine : scope.own device.deviceId) {payload : Json} {retain : Bool} {qos : Nat} :
    Upholds R (mqttPublish env (commandTopic device) payload retain qos) :=
  upholds_mqttPublish tended.closed (fun w _ => tended.told w (.publish _) rfl ⟨device, mine, rfl⟩)

theorem Tended.issued : Issued R (fun d fields => scope.own d.deviceId ∧ Plain fields)
    (fun topic _ => ∃ d : Device, scope.own d.deviceId ∧ topic = commandTopic d) where
  closed := tended.closed
  save := fun w d fields ok => tended.told w (.saveDevice d fields) rfl ⟨ok.1, tended.plain fields ok.2⟩
  publish := fun w p mine => tended.told w (.publish p) rfl mine

theorem Tended.markPending {action : Json} {due : CommandLog → Bool} {status : CommandStatus}
    {message : String} {at_ : Time} (mine : scope.own device.deviceId) :
    Upholds R (do
      let pending ← read (fun w => pendingNewestFirst w.db device.deviceId action)
      forEach pending (fun cmd => when (due cmd) (markCommand cmd status message at_)) : Act Unit) := by
  intro w
  rw [after_markPending]
  split
  · refine tended.told w (.markCommands _ status message at_) rfl (fun r _ hit => ?_)
    simp only [pendingOf, Bool.and_eq_true, decide_eq_true_eq] at hit
    rw [hit.1.1.1]
    exact mine
  · exact tended.closed.refl w

theorem Tended.resolveCapabilityRequests {status : CommandStatus} {message : String}
    (mine : scope.own device.deviceId) : Upholds R (resolveCapabilityRequests env device status message) := by
  unfold SensorServer.resolveCapabilityRequests
  split
  · refine upholds_emit (fun w => tended.told w _ rfl (fun r _ hit => ?_))
    simp only [Bool.and_eq_true, decide_eq_true_eq] at hit
    rw [hit.1.1]
    exact mine
  · exact Upholds.fail tended.closed _

theorem Tended.requestCapabilities {sentBy : Option String} {logCommand : Bool} (mine : scope.own device.deviceId) :
    Upholds R (requestCapabilities env device sentBy logCommand) :=
  upholds_requestCapabilities tended.issued ⟨device, mine, rfl⟩ ⟨mine, by decide⟩ (fun _ => tended.addCommandLog mine)

theorem Tended.requestBare {name : String} (mine : scope.own device.deviceId) :
    Upholds R (requestBare env device name) :=
  upholds_requestBare tended.issued ⟨device, mine, rfl⟩

theorem Tended.announceCleared (mine : scope.own device.deviceId) : Upholds R (announceCleared env device) :=
  Upholds.bind tended.closed (tended.addStatusLog mine) (fun _ => tended.groupSend mine (fun reads => nomatch reads))

theorem Tended.wakeUp (mine : scope.own device.deviceId) : Upholds R (wakeUp env device) :=
  upholds_wakeUp tended.issued ⟨mine, by decide⟩ ⟨fun _ _ => ⟨device, mine, rfl⟩, ⟨device, mine, rfl⟩,
    ⟨device, mine, rfl⟩, ⟨device, mine, rfl⟩⟩

theorem Tended.checkCapabilitiesTimeout (mine : scope.own device.deviceId) :
    Upholds R (checkCapabilitiesTimeout env device) := by
  have closed := tended.closed
  unfold SensorServer.checkCapabilitiesTimeout
  split
  · refine Upholds.bind closed (tended.saveDevice ?_ (by decide))
      (fun _ => Upholds.bind closed (tended.addStatusLog ?_)
      (fun _ => Upholds.bind closed (tended.resolveCapabilityRequests ?_) (fun _ => Upholds.pure closed _)))
    all_goals exact mine
  · exact Upholds.pure closed _

theorem Tended.collectReadings (mine : scope.own device.deviceId) (stores : scope.stores) {deviceType : String}
    (data : Fields) :
    Upholds R (collectReadings env device deviceType data) := by
  have closed := tended.closed
  induction data with
  | nil => exact Upholds.pure closed _
  | cons entry rest ih =>
    obtain ⟨raw, value⟩ := entry
    unfold SensorServer.collectReadings
    split
    · exact ih
    · split
      · exact ih
      · exact Upholds.fail closed _
      · exact Upholds.bind closed (tended.groupSend mine (fun _ => stores))
          (fun _ => Upholds.bind closed ih (fun _ => Upholds.pure closed _))

omit tended in
theorem returns_ownReadings {deviceType : String} (data : Fields) :
    Returns (fun readings => ∀ r ∈ readings, r.deviceId = device.deviceId)
      (collectReadings env device deviceType data) := by
  induction data with
  | nil => exact Returns.pure (by simp)
  | cons entry rest ih =>
    obtain ⟨raw, value⟩ := entry
    unfold SensorServer.collectReadings
    split
    · exact ih
    · split
      · exact ih
      · exact fun _ _ _ run => by cases run
      · refine Returns.bind (fun _ => Returns.bind_returning ih (fun others each => Returns.pure ?_))
        simpa using each

theorem Tended.trackBattery (mine : scope.own device.deviceId) (stored : PyFloat) :
    Upholds R (trackBattery env device stored) := by
  have closed := tended.closed
  have tracked : ∀ d : Device, scope.own d.deviceId → Upholds R (do
      when (batteryChanged stored device) (SensorServer.saveDevice d [.batteryPercent])
      when (lowBatteryResolved d) (do
        SensorServer.saveDevice d.clearAlert alertFields
        SensorServer.announceCleared env d.clearAlert)) := by
    intro d mine'
    refine Upholds.bind closed (Upholds.when closed (fun _ => tended.saveDevice mine' (by decide))) (fun _ =>
      Upholds.when closed (fun _ => Upholds.bind closed (tended.saveDevice ?_ (by decide))
        (fun _ => tended.announceCleared ?_)))
    all_goals exact mine'
  refine tracked _ ?_
  split <;> exact mine

theorem Tended.storeReadings (mine : scope.own device.deviceId) (stores : scope.stores) {deviceType : String}
    {data : Fields} : Upholds R (storeReadings env device deviceType data) := by
  have closed := tended.closed
  refine Upholds.bind_returning closed (tended.collectReadings mine stores data) (returns_ownReadings data)
    (fun readings each => Upholds.when closed (fun _ => Upholds.bind closed
      (upholds_emit (fun w => tended.told w (.addReadings readings) rfl ⟨stores, ?_⟩)) (fun _ => ?_)))
  · intro r member
    rw [each r member]
    exact mine
  · cases storedBattery readings with
    | none => exact Upholds.pure closed _
    | some stored => exact tended.trackBattery mine stored

theorem Tended.maybeRequestDiag (mine : scope.own device.deviceId) : Upholds R (maybeRequestDiag env device) :=
  upholds_maybeRequestDiag tended.issued ⟨device, mine, rfl⟩ ⟨mine, by decide⟩

theorem Tended.savedRest (mine : scope.own device.deviceId) (stores : device.isApproved = true → scope.stores)
    {deviceType : String} {data : Fields} {woken : Bool} :
    Upholds R (savedRest env deviceType data woken device) := by
  have closed := tended.closed
  refine Upholds.bind closed (tended.markPending mine) (fun _ => @Upholds.bind_returning _ _ _ _
    (fun d => SameUnit device d ∧ d.isApproved = device.isApproved) R closed _ _ ?_ ?_ (fun d same => ?_))
  · split
    · exact tended.wakeUp mine
    · exact tended.checkCapabilitiesTimeout mine
  · intro w d v run
    refine ⟨?_, returns_approval woken w d v run⟩
    split at run
    · obtain ⟨at_, rfl⟩ := returns_wakeUp w d v run
      exact ⟨rfl, rfl⟩
    · exact returns_checkCapabilitiesTimeout ⟨rfl, rfl⟩ w d v run
  · have known : scope.own d.deviceId := same.1.1 ▸ mine
    refine Upholds.when closed (fun approved => Upholds.bind_returning closed (tended.maybeRequestDiag known)
      returns_maybeRequestDiag ?_)
    rintro _ ⟨at_, rfl⟩
    refine tended.storeReadings ?_ (stores (same.2 ▸ approved))
    exact known

theorem Tended.sensorBody (mine : scope.own device.deviceId) (stores : device.isApproved = true → scope.stores)
    {deviceType : String} {data : Fields} {created : Bool} :
    Upholds R (sensorBody env deviceType data device created) := by
  have closed := tended.closed
  have spec := reconcileAlert_spec env.now
    (show SameUnit device { device with lastSeen := some env.now } from ⟨rfl, rfl⟩)
  have approval := isApproved_reconcileAlert env.now { device with lastSeen := some env.now }
  rw [sensorBody_halves]
  dsimp only at approval ⊢
  generalize reconcileAlert env.now { device with lastSeen := some env.now } = reconciled at spec approval ⊢
  have mine' : scope.own reconciled.1.deviceId := spec.1.1 ▸ mine
  have plain : Plain (.lastSeen :: reconciled.2.1) :=
    ⟨fun listed => absurd (spec.2 _ listed) (by decide), fun listed => absurd (spec.2 _ listed) (by decide)⟩
  exact Upholds.bind closed (Upholds.when closed (fun _ => tended.announceCleared mine')) (fun _ =>
    Upholds.bind closed (tended.saveDevice mine' plain) (fun _ =>
      tended.savedRest mine' (fun approved => stores (approval ▸ approved))))

end Services

section Messages
variable {scope : Scope} {R : World → World → Prop} (tended : Tended scope R) {env : Env}
  {deviceType deviceId : String} {payload : Payload} (mine : scope.own deviceId)
include tended mine

theorem Tended.handleSensorMessage (stores : scope.stores)
    (create : ∀ w, R w (w.apply (.createDevice { deviceId, deviceType, createdAt := env.now }))) :
    Upholds R (handleSensorMessage env deviceType deviceId payload) := by
  refine upholds_handleSensorMessage_body tended.closed create (fun data device created id => ?_)
  refine tended.sensorBody ?_ (fun _ => stores)
  rw [id]
  exact mine

theorem Tended.handleStatusMessage : Upholds R (handleStatusMessage env deviceId payload) := by
  have closed := tended.closed
  refine upholds_withObject closed (fun data => upholds_withDevice closed (fun device named => ?_))
  split
  · exact Upholds.pure closed _
  · next level _ =>
    have mine' : scope.own (applyStatus env.now level data device).deviceId := by
      rw [deviceId_applyStatus, named]
      exact mine
    exact Upholds.bind closed (tended.saveDevice mine' (by decide)) (fun _ => tended.announceCleared mine')

theorem Tended.handleCapabilitiesMessage (may : scope.saves capabilitiesFields) :
    Upholds R (handleCapabilitiesMessage env deviceId payload) := by
  have closed := tended.closed
  refine upholds_withObject closed (fun data => upholds_withDevice closed (fun before named =>
    Upholds.bind closed (Upholds.read closed _) (fun known => ?_)))
  have mine' : scope.own (applyCapabilities known data before).deviceId := by
    rw [deviceId_applyCapabilities, named]
    exact mine
  exact Upholds.bind closed (Upholds.when closed (fun _ => tended.addStatusLog mine')) (fun _ =>
    Upholds.bind closed (upholds_saveDevice closed (fun w => tended.told w (.saveDevice _ _) rfl
      ⟨mine', may⟩)) (fun _ =>
    Upholds.bind closed (tended.resolveCapabilityRequests mine') (fun _ =>
    Upholds.bind closed (tended.markPending mine') (fun _ =>
    Upholds.when closed (fun _ => upholds_repushCalibration tended.issued (fun _ _ => ⟨_, mine', rfl⟩))))))

theorem Tended.handleDiagMessage : Upholds R (handleDiagMessage env deviceId payload) := by
  have closed := tended.closed
  refine upholds_withObject closed (fun data => upholds_withDevice closed (fun before named => ?_))
  have mine' : scope.own before.deviceId := by rwa [named]
  split
  · exact Upholds.pure closed _
  · split
    · exact Upholds.fail closed _
    · next row taken =>
      have device : row.device = before.deviceId := (diagSnapshot_converted taken).2.2.1
      refine Upholds.bind closed (tended.addDiagLog ?_)
        (fun _ => Upholds.bind closed (tended.saveDevice ?_ (by decide))
        (fun _ => Upholds.when closed (fun _ => tended.announceCleared ?_)))
      · rwa [device]
      · exact mine'
      · exact mine'

theorem Tended.handleAckMessage : Upholds R (handleAckMessage env deviceId payload) := by
  refine upholds_handleAckMessage (upholds_ackLookup tended.issued (fun d named => ⟨?_, by decide⟩))
    (fun w m data answers => tended.told w (.markCommands _ m.status m.message env.now) rfl (fun r listed hit => ?_))
  · rwa [named]
  · have found := List.mem_of_mem_head? answers.target
    have pending := List.mem_filter.mp (OrderBy.mem_descending.mp found)
    have same : r = m.row := w.db.commandLogs.eq_of_id listed pending.1 (by simpa using hit)
    have device : m.row.device = deviceId := by
      have selected := pending.2
      simp only [Bool.and_eq_true, decide_eq_true_eq] at selected
      exact selected.1.1
    rw [same, device]
    exact mine

theorem Tended.handleMessage (create : ∀ w,
    R w (w.apply (.createDevice { deviceId, deviceType, createdAt := env.now })))
    {kind : MessageKind} (may : kind = .capabilities → scope.saves capabilitiesFields)
    (stores : kind = .sensors → scope.stores) :
    Upholds R (handleMessage env kind deviceType deviceId payload) := by
  have closed := tended.closed
  have within := tended.issued
  cases kind with
  | sensors => exact tended.handleSensorMessage mine (stores rfl) create
  | status => exact tended.handleStatusMessage mine
  | capabilities => exact tended.handleCapabilitiesMessage mine (may rfl)
  | commands => exact upholds_handleCommandsMessage within (fun d named => ⟨by rwa [named], by decide⟩)
  | calibration => exact upholds_handleCalibrationMessage within (fun d named => ⟨by rwa [named], by decide⟩)
  | diag => exact tended.handleDiagMessage mine
  | ack => exact tended.handleAckMessage mine

end Messages
section Pages
variable {scope : Scope} {R : World → World → Prop} {env : Env} {request : Request} {deviceId : String}

theorem upholds_ownDevice (closed : Closed R) {view : Device → Act Response}
    (inside : ∀ device : Device, device.deviceId = deviceId → Upholds R (view device)) :
    Upholds R (getDeviceOr404 deviceId view) := by
  intro w
  unfold getDeviceOr404
  rw [after_read_bind]
  cases known : w.device? deviceId with
  | none => exact closed.refl w
  | some device => exact inside device (Table.key_get? known) w

section
variable (clearing : Clearing scope R) (mine : scope.own deviceId)
include clearing mine

theorem Clearing.ownPost {minimum : Role} {view : Device → Act Response}
    (inside : ∀ device : Device, scope.own device.deviceId → Upholds R (view device)) :
    Upholds R (roleRequired minimum request (getDeviceOr404 deviceId fun device =>
      postOnly request (view device))) :=
  upholds_roleRequired clearing.closed (fun _ => upholds_ownDevice clearing.closed (fun device named =>
    upholds_postOnly clearing.closed (inside device (by rwa [named]))))

omit mine in
theorem Clearing.publishAndRecord {device : Device} (mine : scope.own device.deviceId) {command : Json} {user : User}
    {respond : Act Response} (rest : Upholds R respond) :
    Upholds R (publishAndRecord env device command user respond) := by
  have closed := clearing.closed
  refine Upholds.bind closed (Upholds.attempt (clearing.mqttPublish mine)) (fun sent => ?_)
  split
  · exact Upholds.pure closed _
  · exact Upholds.bind closed (clearing.addCommandLog mine) (fun _ => rest)

omit mine in
theorem Clearing.pushCalibration {device : Device} (mine : scope.own device.deviceId) {command : Json} {key : String}
    {value : PyFloat} : Upholds R (pushCalibration env request device command key value) := by
  have closed := clearing.closed
  refine Upholds.bind closed (Upholds.attempt (Upholds.bind closed (clearing.mqttPublish mine)
    (fun _ => clearing.addCommandLog mine))) (fun sent => ?_)
  split
  · exact Upholds.pure closed _
  · refine Upholds.bind closed (clearing.saveDevice ?_ (by decide)) (fun _ => Upholds.pure closed _)
    exact mine

theorem Clearing.bareRequestView {refuse : Device → Bool} {send : Device → Act Unit}
    (inside : ∀ device : Device, scope.own device.deviceId → Upholds R (send device)) :
    Upholds R (bareRequestView request deviceId refuse send) := by
  refine clearing.ownPost mine (fun device known => ?_)
  split
  · exact Upholds.pure clearing.closed _
  · exact Upholds.bind clearing.closed (inside device known) (fun _ => Upholds.pure clearing.closed _)

theorem Clearing.view {view : DeviceView} (stays : view ≠ .delete) (keeps : view ≠ .rename)
    (spares : view ≠ .deleteReadings) (may : view = .approve → scope.saves [.isApproved]) :
    Upholds R (view.run env request deviceId) := by
  have closed := clearing.closed
  cases view with
  | edit =>
    refine upholds_roleRequired closed (fun _ => upholds_ownDevice closed (fun device named => ?_))
    split
    · exact Upholds.pure closed _
    · refine Upholds.bind closed (clearing.saveDevice ?_ (by decide)) (fun _ => Upholds.pure closed _)
      rwa [named]
  | approve =>
    have approval : ∀ d : Device, scope.own d.deviceId → Upholds R (SensorServer.saveDevice d [.isApproved]) :=
      fun d known => upholds_saveDevice closed (fun w => clearing.told w (.saveDevice d _) rfl ⟨known, may rfl⟩)
    refine clearing.ownPost mine (fun device known => Upholds.bind closed (Upholds.when closed (fun _ =>
      approval _ ?_)) (fun _ => Upholds.bind closed (Upholds.when closed (fun _ =>
      approval _ ?_)) (fun _ => Upholds.pure closed _)))
    · exact known
    · exact known
  | command =>
    refine clearing.ownPost mine (fun device known => ?_)
    dsimp only
    split
    · exact Upholds.pure closed _
    · split
      · exact Upholds.fail closed _
      · exact clearing.publishAndRecord known (Upholds.bind closed (clearing.requestCapabilities known)
          (fun _ => Upholds.pure closed _))
  | setConfirmUplink =>
    refine clearing.ownPost mine (fun device known => ?_)
    split
    · exact Upholds.pure closed _
    · exact clearing.publishAndRecord known (Upholds.pure closed _)
  | calibration =>
    refine clearing.ownPost mine (fun device known => ?_)
    dsimp only
    split
    · exact Upholds.pure closed _
    · split
      · exact Upholds.pure closed _
      · exact clearing.pushCalibration known
  | setCalibration =>
    refine clearing.ownPost mine (fun device known => ?_)
    dsimp only
    split
    · exact Upholds.pure closed _
    · split
      · exact Upholds.pure closed _
      · exact clearing.pushCalibration known
  | requestCalibration => exact clearing.bareRequestView mine (fun _ known => clearing.requestBare known)
  | requestStatus => exact clearing.bareRequestView mine (fun _ known => clearing.requestBare known)
  | requestDiag => exact clearing.bareRequestView mine (fun _ known => clearing.requestBare known)
  | requestCapabilities =>
    refine clearing.bareRequestView mine (fun device known =>
      Upholds.bind_returning closed (clearing.requestCapabilities known) returns_requestCapabilities ?_)
    rintro _ ⟨at_, rfl⟩
    refine clearing.requestBare ?_
    exact known
  | otaPush =>
    refine clearing.ownPost mine (fun device known => Upholds.bind closed (Upholds.read closed _) (fun chosen => ?_))
    split
    · exact Upholds.fail closed _
    · exact Upholds.pure closed _
    · refine Upholds.rescue closed (Upholds.bind closed ?_ (fun _ => Upholds.pure closed _))
        (fun _ => Upholds.pure closed _)
      unfold sendOtaUpdate
      split
      · exact Upholds.fail closed _
      · exact Upholds.bind closed (clearing.mqttPublish known) (fun _ => clearing.addCommandLog known)
  | clearCommands =>
    refine clearing.ownPost mine (fun device known => Upholds.bind closed
      (upholds_emit (fun w => clearing.clears w _ (fun r _ hit => ?_)))
      (fun _ => Upholds.pure closed _))
    rwa [of_decide_eq_true hit]
  | deleteCommand id =>
    refine clearing.ownPost mine (fun device known => Upholds.bind closed
      (upholds_emit (fun w => clearing.clears w _ (fun r _ hit => ?_)))
      (fun _ => Upholds.pure closed _))
    simp only [Bool.and_eq_true, decide_eq_true_eq] at hit
    rwa [hit.2]
  | delete => exact absurd rfl stays
  | rename => exact absurd rfl keeps
  | deleteReadings => exact absurd rfl spares

end

section
variable (mild : Mild scope R) (mine : scope.own deviceId)
include mild

theorem Mild.emit {e : Effect} (kind : e.mild = true) (inside : ∀ w, e.Within scope w) : Upholds R (emit e) :=
  upholds_emit (fun w => mild.mild w e kind (inside w))

include mine

theorem Mild.deleteSelected {d : Deletion} (named : d.deviceId = deviceId) :
    Upholds R (deleteSelected env d) := by
  have closed := mild.closed
  have refresh : ∀ view, Upholds R (refreshWindow env view d.start.sqlInstant d.stop.sqlInstant) :=
    fun view => upholds_refreshWindow closed
      (fun w view rows => mild.mild w (.setRollup view rows) rfl trivial) view _ _
  refine Upholds.bind closed (Upholds.read closed _) (fun count => ?_)
  split
  · exact Upholds.pure closed _
  · refine Upholds.bind closed (mild.emit rfl (fun w r _ hit => ?_)) (fun _ =>
      Upholds.bind closed (refresh .hourly) (fun _ => Upholds.bind closed (refresh .daily)
        (fun _ => Upholds.pure closed _)))
    simp only [Deletion.selects, Bool.and_eq_true, decide_eq_true_eq] at hit
    rwa [hit.1.1.1, named]

theorem Mild.deleteReadingsView : Upholds R (deleteReadingsView env request deviceId) := by
  have closed := mild.closed
  refine upholds_roleRequired closed (fun _ => upholds_getDeviceOr404 closed (fun device => ?_))
  split
  · exact Upholds.pure closed _
  · dsimp only
    split
    · exact Upholds.fail closed _
    · exact Upholds.fail closed _
    · split
      · exact Upholds.fail closed _
      · split
        · exact Upholds.pure closed _
        · exact mild.deleteSelected mine rfl
    · exact Upholds.pure closed _

theorem Mild.view {view : DeviceView} (stays : view ≠ .delete) (keeps : view ≠ .rename)
    (may : view = .approve → scope.saves [.isApproved]) : Upholds R (view.run env request deviceId) := by
  by_cases spares : view = .deleteReadings
  · subst spares
    exact mild.deleteReadingsView mine
  · exact mild.clearing.view mine stays keeps spares may

end

end Pages

section ConfinedPages
variable {scope : Scope} {R : World → World → Prop} (confined : Confined scope R) {env : Env}
  {request : Request} {deviceId : String} (mine : scope.own deviceId)
include confined

theorem Confined.emit {e : Effect} (inside : ∀ w, e.Within scope w) : Upholds R (emit e) :=
  upholds_emit (fun w => confined.each w e (inside w))

theorem Confined.deleteOwn {target : String} (mine : scope.own target) :
    Upholds R (SensorServer.emit (.deleteReadings (fun r => decide (r.deviceId = target)))) := by
  refine confined.emit (fun w r _ hit => ?_)
  rwa [of_decide_eq_true hit]

theorem Confined.refreshContinuousAggregates : Upholds R (refreshContinuousAggregates env) :=
  upholds_refreshContinuousAggregates confined.closed
    (fun w view rows => confined.each w (.setRollup view rows) trivial)

theorem Confined.deleteDevice {device : Device} (mine : scope.own device.deviceId) :
    Upholds R (deleteDevice env device) :=
  upholds_transaction confined.closed confined.undone (Upholds.bind confined.closed (confined.deleteOwn mine)
    (fun _ => confined.emit (fun _ => mine)))

theorem Confined.moveOwn {source target : String} {which : SensorReading → Bool} (mine : scope.own source)
    (theirs : scope.own target) (ours : ∀ r, which r = true → r.deviceId = source) :
    Upholds R (SensorServer.emit (.moveReadings which target)) := by
  refine confined.emit (fun w => ⟨theirs, fun r _ hit => ?_⟩)
  rwa [ours r hit]

theorem Confined.renameDevice {device : Device} {newId : String} (mine : scope.own device.deviceId)
    (theirs : scope.own newId) : Upholds R (renameDevice env device newId) := by
  have closed := confined.closed
  refine Upholds.bind closed (upholds_transaction closed confined.undone ?_)
    (fun _ => confined.refreshContinuousAggregates)
  refine Upholds.bind closed (confined.moveOwn mine theirs (fun r hit => of_decide_eq_true hit)) (fun _ =>
    Upholds.bind closed (upholds_createDevice closed (fun w => confined.each w (.createDevice _) theirs)) (fun _ =>
    Upholds.bind closed (confined.emit (fun _ => ⟨mine, theirs⟩)) (fun _ => confined.emit (fun _ => mine))))

theorem Confined.mergeMetric {source target metric : String} (mine : scope.own source) (theirs : scope.own target) :
    Upholds R (mergeMetric source target metric) := by
  have closed := confined.closed
  have series : ∀ (id : String) (r : SensorReading), inSeries id metric r = true → r.deviceId = id := by
    intro id r hit
    simp only [inSeries, Bool.and_eq_true, decide_eq_true_eq] at hit
    exact hit.1
  have cut : ∀ id, scope.own id → Upholds R (SensorServer.emit (.deleteReadings (inSeries id metric))) := by
    intro id known
    refine confined.emit (fun w r _ hit => ?_)
    rwa [series id r hit]
  refine Upholds.bind closed (Upholds.read closed _) (fun wins => ?_)
  split
  · exact Upholds.bind closed (cut target theirs) (fun _ => confined.moveOwn mine theirs (series source))
  · exact cut source mine

theorem Confined.mergeDevices {source target : Device} (mine : scope.own source.deviceId)
    (theirs : scope.own target.deviceId) : Upholds R (mergeDevices env source target) := by
  have closed := confined.closed
  refine Upholds.bind closed (upholds_transaction closed confined.undone ?_)
    (fun _ => confined.refreshContinuousAggregates)
  refine Upholds.bind closed (Upholds.read closed _) (fun shared =>
    Upholds.bind closed (Upholds.forEach closed (fun _ _ => confined.mergeMetric mine theirs)) (fun _ =>
    Upholds.bind closed (confined.moveOwn mine theirs (fun r hit => of_decide_eq_true hit)) (fun _ =>
    Upholds.bind closed (confined.emit (fun _ => ⟨mine, theirs⟩)) (fun _ =>
    Upholds.bind closed (Upholds.forEach closed (fun _ _ => confined.saveDevice ?_ (by decide))) (fun _ =>
    confined.emit (fun _ => mine))))))
  exact theirs

include mine

theorem Confined.deviceRenameView
    (theirs : scope.own (pyStrip (QueryDict.get request.post "new_device_id" ""))) :
    Upholds R (deviceRenameView env request deviceId) := by
  have closed := confined.closed
  refine upholds_roleRequired closed (fun _ => upholds_ownDevice closed (fun device named => ?_))
  have known : scope.own device.deviceId := by rwa [named]
  split
  · exact Upholds.pure closed _
  · dsimp only
    generalize pyStrip (QueryDict.get request.post "new_device_id" "") = newId at theirs ⊢
    split
    · exact Upholds.pure closed _
    · split
      · exact Upholds.pure closed _
      · split
        · exact Upholds.pure closed _
        · intro w
          rw [after_read_bind]
          cases found : w.device? newId with
          | none =>
            exact Upholds.bind closed (confined.renameDevice known theirs) (fun _ => Upholds.pure closed _) w
          | some target =>
            have taken : scope.own target.deviceId := Table.key_get? found ▸ theirs
            dsimp only
            split
            · exact Upholds.bind closed (confined.mergeDevices known taken) (fun _ => Upholds.pure closed _) w
            · exact Upholds.pure closed _ w

theorem Confined.view (view : DeviceView) (may : view = .approve → scope.saves [.isApproved])
    (theirs : view = .rename → scope.own (pyStrip (QueryDict.get request.post "new_device_id" ""))) :
    Upholds R (view.run env request deviceId) := by
  have closed := confined.closed
  by_cases deletes : view = .delete
  · subst deletes
    refine upholds_roleRequired closed (fun _ => upholds_ownDevice closed (fun device named => ?_))
    split
    · refine Upholds.bind closed (confined.deleteDevice ?_) (fun _ => Upholds.pure closed _)
      rwa [named]
    · exact Upholds.pure closed _
  · by_cases renames : view = .rename
    · subst renames
      exact confined.deviceRenameView mine (theirs rfl)
    · exact confined.toMild.view mine deletes renames may

end ConfinedPages
end SensorServer
