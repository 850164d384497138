import SensorServer.DeviceViews
import SensorServer.ReadingViews
import SensorServer.Footprint
import SensorServer.Lib.Run

/-! The worker and the web process over one state: every message and every request is
one step, and a relation kept by the single effects is kept by the whole step. -/
namespace SensorServer
open Program

def otaUpdate (payload : Json) : Bool := hasAction (.str "ota_update") payload

theorem otaUpdate_of_flushed {command : Json} (flushed : notOtaUpdate command = true) :
    otaUpdate command = false := by
  unfold notOtaUpdate at flushed
  unfold otaUpdate hasAction
  cases action : actionOf command with
  | none => rfl
  | some a => simpa [action] using flushed

theorem hasAction_named {fields : Fields} {name action : String}
    (named : Dict.get? fields "action" = some (.str name)) (other : name ≠ action) :
    hasAction (.str action) (.obj fields) = false := by
  unfold hasAction actionOf
  dsimp only
  rw [named]
  have differs : ¬ Json.same (.str name) (.str action) = true := by
    rw [Json.same_str]
    rintro ⟨⟩
    exact other rfl
  simpa using differs

theorem otaUpdate_named {fields : Fields} {name : String}
    (named : Dict.get? fields "action" = some (.str name)) (other : name ≠ "ota_update") :
    otaUpdate (.obj fields) = false := hasAction_named named other

theorem otaUpdate_bare {name : String} (other : name ≠ "ota_update") : otaUpdate (bareCommand name) = false :=
  otaUpdate_named rfl other

theorem repushCommand_notOta (key : String) (value : Json) : otaUpdate (repushCommand key value) = false := by
  unfold repushCommand
  split
  · exact otaUpdate_named rfl (by decide)
  · exact otaUpdate_named rfl (by decide)

inductive DeviceView where
  | edit | approve | command | setConfirmUplink | calibration | setCalibration | requestCalibration
  | requestStatus | requestDiag | requestCapabilities | otaPush | clearCommands | delete | rename
  | deleteReadings | deleteCommand (id : Nat)
  deriving DecidableEq

def DeviceView.run (env : Env) (request : Request) (deviceId : String) : DeviceView → Act Response
  | .edit => deviceEditView env request deviceId
  | .approve => deviceApproveView request deviceId
  | .command => deviceCommandView env request deviceId
  | .setConfirmUplink => deviceSetConfirmUplinkView env request deviceId
  | .calibration => deviceCalibrationView env request deviceId
  | .setCalibration => deviceSetCalibrationView env request deviceId
  | .requestCalibration => deviceRequestCalibrationView env request deviceId
  | .requestStatus => deviceRequestStatusView env request deviceId
  | .requestDiag => deviceRequestDiagView env request deviceId
  | .requestCapabilities => deviceRequestCapabilitiesView env request deviceId
  | .otaPush => deviceOtaPushView env request deviceId
  | .clearCommands => deviceClearCommandsView request deviceId
  | .delete => deviceDeleteView env request deviceId
  | .rename => deviceRenameView env request deviceId
  | .deleteReadings => deleteReadingsView env request deviceId
  | .deleteCommand id => deviceDeleteCommandView request deviceId id

inductive ApiView where
  | hwCode (code : String)
  | hwRevision (code : String) (rev : Nat)
  | firmwares

def ApiView.run (env : Env) (request : ApiRequest) : ApiView → Act Reply
  | .hwCode code => hwCodeView env request code
  | .hwRevision code rev => hwRevisionView env request code rev
  | .firmwares => firmwaresView env request

inductive Event where
  | message (d : Delivery)
  | web (env : Env) (view : DeviceView) (request : Request) (deviceId : String)
  | api (env : Env) (view : ApiView) (request : ApiRequest)

def serve (w : World) : Event → World
  | .message d => deliver w d
  | .web env view request deviceId => after (view.run env request deviceId) w
  | .api env view request => after (view.run env request) w

def Effect.plain : Effect → Bool
  | .publish _ | .markCommands _ _ _ _ => false
  | _ => true

/-- A relation kept by every statement, by a rollback, and by the updates of the
command log as the services make them. -/
structure Served (R : World → World → Prop) (sends : String → Json → Prop) : Prop
    extends Respected R (fun _ _ => True) sends (fun _ => True) where
  plain : ∀ w e, e.plain = true → R w (w.apply e)
  undone : ∀ w v, R w v → R w { v with db := w.db }
  ack : ∀ env deviceId payload, Upholds R (handleAckMessage env deviceId payload)
  quiet : ∀ topic payload, otaUpdate payload = false → sends topic payload

section Served
variable {R : World → World → Prop} {sends : String → Json → Prop} (served : Served R sends) {env : Env}
include served

theorem Served.bare {topic name : String} (other : name ≠ "ota_update") : sends topic (bareCommand name) :=
  served.quiet _ _ (otaUpdate_bare other)

theorem Served.wakeUpSends (topic : String) : WakeUpSends sends topic :=
  ⟨fun _ flushed => served.quiet _ _ (otaUpdate_of_flushed flushed), served.bare (by decide),
    served.bare (by decide), served.bare (by decide)⟩

theorem Served.deliver (w : World) (d : Delivery) : R w (deliver w d) := by
  have within := served.toRespected
  unfold SensorServer.deliver handleMessage
  cases d.kind with
  | sensors =>
    exact upholds_handleSensorMessage within (fun w => served.plain w _ rfl) (fun _ _ _ _ => trivial)
      (fun _ _ => trivial) (fun _ _ => served.wakeUpSends _) (fun _ _ => served.bare (by decide)) w
  | status => exact upholds_handleStatusMessage within.toRecounted (fun _ _ => trivial) (fun _ _ => trivial) w
  | capabilities =>
    exact upholds_handleCapabilitiesMessage within (fun _ _ => trivial) (fun _ _ => trivial)
      (fun _ key value => served.quiet _ _ (repushCommand_notOta key value)) w
  | commands => exact upholds_handleCommandsMessage within.toIssued (fun _ _ => trivial) w
  | calibration => exact upholds_handleCalibrationMessage within.toIssued (fun _ _ => trivial) w
  | diag => exact upholds_handleDiagMessage within.toRecounted (fun _ _ => trivial) (fun _ _ => trivial) w
  | ack => exact served.ack _ _ _ w

theorem Served.emit {e : Effect} (plain : e.plain = true) : Upholds R (emit e) :=
  upholds_emit (fun w => served.plain w e plain)

theorem Served.saveDevice (d : Device) (fields : List DeviceField) : Upholds R (saveDevice d fields) :=
  served.toRespected.saveDevice trivial

theorem Served.addCommandLog (device : String) (command : Json) (sentBy : Option String) :
    Upholds R (addCommandLog env device command sentBy) :=
  upholds_addCommandLog served.closed (fun w => served.plain w _ rfl)

theorem Served.requestCapabilities (device : Device) (sentBy : Option String) (logCommand : Bool) :
    Upholds R (requestCapabilities env device sentBy logCommand) :=
  upholds_requestCapabilities served.toIssued (served.bare (by decide)) trivial
    (fun _ => served.addCommandLog _ _ _)

theorem Served.requestBare (device : Device) {name : String} (other : name ≠ "ota_update") :
    Upholds R (requestBare env device name) :=
  upholds_requestBare served.toIssued (served.bare other)

theorem Served.refreshContinuousAggregates : Upholds R (refreshContinuousAggregates env) :=
  upholds_refreshContinuousAggregates served.closed (fun w _ _ => served.plain w _ rfl)

theorem Served.deleteDevice (device : Device) : Upholds R (deleteDevice env device) :=
  upholds_transaction served.closed served.undone
    (Upholds.bind served.closed (served.emit rfl) (fun _ => served.emit rfl))

theorem Served.renameDevice (device : Device) (newId : String) :
    Upholds R (renameDevice env device newId) := by
  have closed := served.closed
  refine Upholds.bind closed (upholds_transaction closed served.undone ?_)
    (fun _ => served.refreshContinuousAggregates)
  exact Upholds.bind closed (served.emit rfl) (fun _ =>
    Upholds.bind closed (upholds_createDevice closed (fun w => served.plain w _ rfl)) (fun _ =>
    Upholds.bind closed (served.emit rfl) (fun _ => served.emit rfl)))

theorem Served.mergeMetric (source target metric : String) :
    Upholds R (mergeMetric source target metric) := by
  refine Upholds.bind served.closed (Upholds.read served.closed _) (fun wins => ?_)
  split
  · exact Upholds.bind served.closed (served.emit rfl) (fun _ => served.emit rfl)
  · exact served.emit rfl

theorem Served.mergeDevices (source target : Device) : Upholds R (mergeDevices env source target) := by
  have closed := served.closed
  refine Upholds.bind closed (upholds_transaction closed served.undone ?_)
    (fun _ => served.refreshContinuousAggregates)
  exact Upholds.bind closed (Upholds.read closed _) (fun shared =>
    Upholds.bind closed (Upholds.forEach closed (fun _ _ => served.mergeMetric _ _ _)) (fun _ =>
    Upholds.bind closed (served.emit rfl) (fun _ =>
    Upholds.bind closed (served.emit rfl) (fun _ =>
    Upholds.bind closed (Upholds.forEach closed (fun _ _ => served.saveDevice _ _)) (fun _ =>
    served.emit rfl)))))

end Served

section Views
variable {R : World → World → Prop} {sends : String → Json → Prop} (served : Served R sends) {env : Env}
  {request : Request} {deviceId : String}
include served

theorem Served.publishAndRecord {device : Device} {command : Json} {user : User} {respond : Act Response}
    (ok : sends (commandTopic device) command) (rest : Upholds R respond) :
    Upholds R (publishAndRecord env device command user respond) := by
  have closed := served.closed
  refine Upholds.bind closed (Upholds.attempt (served.toRespected.mqttPublish ok)) (fun sent => ?_)
  split
  · exact Upholds.pure closed _
  · exact Upholds.bind closed (served.addCommandLog _ _ _) (fun _ => rest)

theorem Served.pushCalibration {device : Device} {command : Json} {key : String} {value : PyFloat}
    (ok : sends (commandTopic device) command) :
    Upholds R (pushCalibration env request device command key value) := by
  have closed := served.closed
  refine Upholds.bind closed (Upholds.attempt (Upholds.bind closed (served.toRespected.mqttPublish ok)
    (fun _ => served.addCommandLog _ _ _))) (fun sent => ?_)
  split
  · exact Upholds.pure closed _
  · exact Upholds.bind closed (served.saveDevice _ _) (fun _ => Upholds.pure closed _)

theorem Served.bareRequestView {refuse : Device → Bool} {send : Device → Act Unit}
    (inside : ∀ device, Upholds R (send device)) :
    Upholds R (bareRequestView request deviceId refuse send) := by
  refine upholds_devicePost served.closed (fun device => ?_)
  split
  · exact Upholds.pure served.closed _
  · exact Upholds.bind served.closed (inside device) (fun _ => Upholds.pure served.closed _)

theorem Served.deviceCalibrationView : Upholds R (deviceCalibrationView env request deviceId) := by
  refine upholds_devicePost served.closed (fun device => ?_)
  dsimp only
  split
  · exact Upholds.pure served.closed _
  · split
    · exact Upholds.pure served.closed _
    · exact served.pushCalibration (served.quiet _ _ (otaUpdate_named rfl (by decide)))

theorem Served.deviceSetCalibrationView : Upholds R (deviceSetCalibrationView env request deviceId) := by
  refine upholds_devicePost served.closed (fun device => ?_)
  dsimp only
  split
  · exact Upholds.pure served.closed _
  · split
    · exact Upholds.pure served.closed _
    · exact served.pushCalibration (served.quiet _ _ (otaUpdate_named rfl (by decide)))

theorem Served.deviceRenameView : Upholds R (deviceRenameView env request deviceId) := by
  have closed := served.closed
  refine upholds_roleRequired closed (fun _ => upholds_getDeviceOr404 closed (fun device => ?_))
  split
  · exact Upholds.pure closed _
  · dsimp only
    split
    · exact Upholds.pure closed _
    · split
      · exact Upholds.pure closed _
      · split
        · exact Upholds.pure closed _
        · refine Upholds.bind closed (Upholds.read closed _) (fun target => ?_)
          cases target with
          | none => exact Upholds.bind closed (served.renameDevice _ _) (fun _ => Upholds.pure closed _)
          | some target =>
            dsimp only
            split
            · exact Upholds.bind closed (served.mergeDevices _ _) (fun _ => Upholds.pure closed _)
            · exact Upholds.pure closed _

theorem Served.view {view : DeviceView} (notCommand : view ≠ .command) (notPush : view ≠ .otaPush) :
    Upholds R (view.run env request deviceId) := by
  have closed := served.closed
  cases view with
  | command => exact absurd rfl notCommand
  | otaPush => exact absurd rfl notPush
  | edit =>
    refine upholds_roleRequired closed (fun _ => upholds_getDeviceOr404 closed (fun device => ?_))
    split
    · exact Upholds.pure closed _
    · exact Upholds.bind closed (served.saveDevice _ _) (fun _ => Upholds.pure closed _)
  | approve =>
    exact upholds_devicePost closed (fun device =>
      Upholds.bind closed (Upholds.when closed (fun _ => served.saveDevice _ _)) (fun _ =>
      Upholds.bind closed (Upholds.when closed (fun _ => served.saveDevice _ _)) (fun _ =>
      Upholds.pure closed _)))
  | setConfirmUplink =>
    refine upholds_devicePost closed (fun device => ?_)
    split
    · exact Upholds.pure closed _
    · exact served.publishAndRecord (served.quiet _ _ (otaUpdate_named rfl (by decide)))
        (Upholds.pure closed _)
  | calibration => exact served.deviceCalibrationView
  | setCalibration => exact served.deviceSetCalibrationView
  | requestCalibration => exact served.bareRequestView (fun d => served.requestBare d (by decide))
  | requestStatus => exact served.bareRequestView (fun d => served.requestBare d (by decide))
  | requestDiag => exact served.bareRequestView (fun d => served.requestBare d (by decide))
  | requestCapabilities =>
    exact served.bareRequestView (fun d => Upholds.bind closed (served.requestCapabilities d _ _)
      (fun d' => served.requestBare d' (by decide)))
  | clearCommands =>
    exact upholds_devicePost closed (fun _ => Upholds.bind closed (served.emit rfl)
      (fun _ => Upholds.pure closed _))
  | deleteCommand id =>
    exact upholds_devicePost closed (fun _ => Upholds.bind closed (served.emit rfl)
      (fun _ => Upholds.pure closed _))
  | delete =>
    refine upholds_roleRequired closed (fun _ => upholds_getDeviceOr404 closed (fun device => ?_))
    split
    · exact Upholds.bind closed (served.deleteDevice device) (fun _ => Upholds.pure closed _)
    · exact Upholds.pure closed _
  | rename => exact served.deviceRenameView
  | deleteReadings =>
    exact upholds_deleteReadingsView closed (fun w _ _ => served.plain w _ rfl) (fun w _ => served.plain w _ rfl)

end Views

section Api
variable {R : World → World → Prop} {sends : String → Json → Prop} (served : Served R sends) {env : Env}
  {request : ApiRequest}

theorem upholds_publishTokenRequired (closed : Closed R) {view : Act Reply} (inside : Upholds R view) :
    Upholds R (publishTokenRequired env request view) := by
  unfold publishTokenRequired
  split
  · exact Upholds.pure closed _
  · split
    · exact Upholds.pure closed _
    · exact inside

theorem upholds_parseJsonBody (closed : Closed R) {view : Fields → Act Reply}
    (inside : ∀ data, Upholds R (view data)) : Upholds R (parseJsonBody request view) := by
  unfold parseJsonBody
  split
  · exact inside _
  · exact Upholds.fail closed _
  · exact Upholds.pure closed _
  · exact Upholds.pure closed _

include served

theorem Served.hwCodeView (code : String) : Upholds R (hwCodeView env request code) := by
  have closed := served.closed
  refine upholds_publishTokenRequired closed ?_
  split
  · exact Upholds.pure closed _
  · split
    · exact Upholds.pure closed _
    · refine upholds_parseJsonBody closed (fun data => ?_)
      split
      · split
        · split
          · refine Upholds.bind closed (Upholds.read closed _) (fun existing =>
              Upholds.bind closed ?_ (fun _ => Upholds.pure closed _))
            split
            · exact served.emit rfl
            · exact Upholds.fail closed _
          · exact Upholds.pure closed _
        · exact Upholds.pure closed _
      · exact Upholds.pure closed _

theorem Served.hwRevisionView (code : String) (rev : Nat) :
    Upholds R (hwRevisionView env request code rev) := by
  have closed := served.closed
  refine upholds_publishTokenRequired closed ?_
  split
  · exact Upholds.pure closed _
  · split
    · exact Upholds.pure closed _
    · refine Upholds.bind closed (Upholds.read closed _) (fun known => ?_)
      cases known with
      | none => exact Upholds.pure closed _
      | some row =>
        refine upholds_parseJsonBody closed (fun data => ?_)
        split
        · split
          · exact Upholds.pure closed _
          · exact Upholds.fail closed _
          · refine Upholds.bind closed (Upholds.read closed _) (fun existing =>
              Upholds.bind closed ?_ (fun _ => Upholds.pure closed _))
            split
            · exact served.emit rfl
            · exact Upholds.fail closed _
        · exact Upholds.pure closed _

theorem Served.saveFile (revision : String × Nat) (version : String) (content : List UInt8) :
    Upholds R (saveFile env revision version content) := by
  have closed := served.closed
  refine Upholds.bind closed (Upholds.read closed _) (fun media => ?_)
  split
  · exact Upholds.fail closed _
  · split
    · exact Upholds.bind closed (served.emit rfl) (fun _ => Upholds.pure closed _)
    · exact Upholds.fail closed _
    · exact Upholds.bind closed (served.emit rfl) (fun _ => Upholds.fail closed _)

theorem Served.replaceImage {revision : String × Nat} {version md5 notes : String} {upload : List UInt8}
    {existing : Option Firmware} :
    Upholds R (replaceImage env revision version md5 notes upload existing) := by
  have closed := served.closed
  refine upholds_atomic served.undone ?_
  refine Upholds.bind closed (Upholds.forEach closed (fun _ _ =>
    Upholds.when closed (fun _ => served.emit rfl))) (fun _ =>
    Upholds.bind closed (served.saveFile _ _ _) (fun file => ?_))
  split
  · exact Upholds.fail closed _
  · refine Upholds.bind closed ?_ (fun _ => ?_)
    · cases existing with
      | none => exact served.emit rfl
      | some old => exact served.emit rfl
    · split
      · exact Upholds.pure closed _
      · exact Upholds.fail closed _

theorem Served.publishFirmware : Upholds R (publishFirmware env request) := by
  have closed := served.closed
  unfold SensorServer.publishFirmware
  dsimp only
  split
  · exact Upholds.pure closed _
  split
  · exact Upholds.pure closed _
  split
  · exact Upholds.pure closed _
  split
  · exact Upholds.pure closed _
  split
  · exact Upholds.pure closed _
  split
  · exact Upholds.pure closed _
  refine Upholds.bind closed (Upholds.read closed _) (fun rev => ?_)
  cases rev with
  | none => exact Upholds.pure closed _
  | some rev =>
    dsimp only
    split
    · exact Upholds.pure closed _
    · refine Upholds.bind closed (Upholds.read closed _) (fun existing => ?_)
      split
      · exact Upholds.pure closed _
      · exact Upholds.bind closed served.replaceImage (fun _ => Upholds.pure closed _)

theorem Served.api {view : ApiView} : Upholds R (view.run env request) := by
  cases view with
  | hwCode code => exact served.hwCodeView code
  | hwRevision code rev => exact served.hwRevisionView code rev
  | firmwares =>
    refine upholds_publishTokenRequired served.closed ?_
    split
    · exact served.publishFirmware
    · exact Upholds.pure served.closed _

end Api

section Serve
variable {R : World → World → Prop} (served : Served R (fun _ _ => True)) {env : Env} {request : Request}
  {deviceId : String}
include served

theorem Served.deviceCommandView : Upholds R (deviceCommandView env request deviceId) := by
  have closed := served.closed
  refine upholds_devicePost closed (fun device => ?_)
  dsimp only
  split
  · exact Upholds.pure closed _
  · split
    · exact Upholds.fail closed _
    · exact served.publishAndRecord trivial (Upholds.bind closed (served.requestCapabilities _ _ _)
        (fun _ => Upholds.pure closed _))

theorem Served.deviceOtaPushView : Upholds R (deviceOtaPushView env request deviceId) :=
  upholds_deviceOtaPushView served.closed (fun _ _ => served.toRespected.mqttPublish trivial)
    (fun _ _ => served.addCommandLog _ _ _)

theorem Served.serve (w : World) (e : Event) : R w (serve w e) := by
  cases e with
  | message d => exact served.deliver w d
  | api env view request => exact served.api w
  | web env view request deviceId =>
    by_cases command : view = .command
    · subst command
      exact served.deviceCommandView w
    · by_cases push : view = .otaPush
      · subst push
        exact served.deviceOtaPushView w
      · exact served.view command push w

end Serve

end SensorServer
