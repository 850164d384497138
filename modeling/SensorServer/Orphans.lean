import SensorServer.Commands
import SensorServer.Lifecycle
import SensorServer.Merge
import SensorServer.RequestRace
import SensorServer.RowViews
import SensorServer.Story

/-! A capabilities request is kept twice, as a pending row of the command log and as a
mark of the device: every operation has to move the two together. -/
namespace SensorServer
open Program

def CommandLog.unanswered (row : CommandLog) : Bool :=
  decide (row.status = .pending) && hasAction (.str "request_capabilities") row.command

def World.marked (w : World) (id : String) : Prop :=
  ∃ d, w.device? id = some d ∧ d.capabilitiesRequestedAt.isSome = true

/-- The device of every pending request is marked, so that the timeout still ends it. -/
def NoOrphans (w : World) : Prop :=
  ∀ row ∈ w.db.commandLogs.rows, row.unanswered = true → w.marked row.device

instance (w : World) (id : String) : Decidable (w.marked id) :=
  decidable_of_iff ((w.device? id).any (fun d => d.capabilitiesRequestedAt.isSome) = true) (by
    unfold World.marked
    cases w.device? id <;> simp)

instance (w : World) : Decidable (NoOrphans w) :=
  inferInstanceAs (Decidable (∀ row ∈ w.db.commandLogs.rows, row.unanswered = true → w.marked row.device))

def KeepsRequests (w v : World) : Prop := NoOrphans w → NoOrphans v

theorem keepsRequests_closed : Closed KeepsRequests := ⟨fun _ h => h, fun h k w => k (h w)⟩

theorem keepsRequests_of_rows {w v : World}
    (each : ∀ row ∈ v.db.commandLogs.rows, row.unanswered = true → ∃ old ∈ w.db.commandLogs.rows,
      old.unanswered = true ∧ (w.marked old.device → v.marked row.device)) : KeepsRequests w v := by
  intro sound row member pending
  obtain ⟨old, before, waiting, moved⟩ := each row member pending
  exact moved (sound old before waiting)

theorem keepsRequests_of_marks {w v : World} (rows : ∀ row ∈ v.db.commandLogs.rows, row ∈ w.db.commandLogs.rows)
    (marks : ∀ id, w.marked id → v.marked id) : KeepsRequests w v :=
  keepsRequests_of_rows (fun row member pending => ⟨row, rows row member, pending, marks _⟩)

theorem marked_of_devices {w v : World} (same : v.db.devices = w.db.devices) (id : String) :
    v.marked id ↔ w.marked id := by
  unfold World.marked World.device?
  rw [same]

theorem keepsRequests_of_same {w v : World} (devices : v.db.devices = w.db.devices)
    (rows : v.db.commandLogs = w.db.commandLogs) : KeepsRequests w v :=
  keepsRequests_of_marks (fun _ member => rows ▸ member) (fun id => (marked_of_devices devices id).mpr)

abbrev SparesMark (d : Device) (fields : List DeviceField) : Prop :=
  .capabilitiesRequestedAt ∈ fields → d.capabilitiesRequestedAt.isSome = true

theorem marked_saveDevice {w : World} {d : Device} {fields : List DeviceField} {id : String}
    (spares : d.deviceId = id → SparesMark d fields) (marked : w.marked id) :
    (w.apply (.saveDevice d fields)).marked id := by
  obtain ⟨row, known, asked⟩ := marked
  refine ⟨_, by rw [device?_saveDevice, known]; rfl, ?_⟩
  have column := @Device.copyFields_column _ Device.capabilitiesRequestedAt .capabilitiesRequestedAt d
    (fun _ => rfl) (fun f h r => by cases f <;> first | rfl | exact absurd rfl h) fields row
  dsimp only
  split
  · next own =>
    rw [column]
    split
    · next named => exact spares (own.symm.trans (Table.key_get? known)) named
    · exact asked
  · exact asked

theorem keepsRequests_saveDevice {d : Device} {fields : List DeviceField}
    (spares : SparesMark d fields) (w : World) :
    KeepsRequests w (w.apply (.saveDevice d fields)) :=
  keepsRequests_of_marks (fun _ member => member) (fun _ => marked_saveDevice (fun _ => spares))

theorem keepsRequests_createDevice (d : Device) (w : World) : KeepsRequests w (w.apply (.createDevice d)) := by
  refine keepsRequests_of_marks (fun _ member => member) ?_
  rintro id ⟨row, known, asked⟩
  obtain ⟨new, found, same⟩ := @keepsColumn_createDevice _ Device.capabilitiesRequestedAt id d w row known
  exact ⟨new, found, same ▸ asked⟩

theorem keepsRequests_deleteDevice (id : String) (w : World) : KeepsRequests w (w.apply (.deleteDevice id)) := by
  refine keepsRequests_of_rows (fun row member pending => ?_)
  obtain ⟨before, other⟩ := List.mem_filter.mp member
  refine ⟨row, before, pending, ?_⟩
  rintro ⟨d, known, asked⟩
  exact ⟨d, by rw [device?_deleteDevice, if_neg (by simpa using other)]; exact known, asked⟩

theorem unanswered_mark {row : CommandLog} {which : CommandLog → Bool} {status : CommandStatus} {message : String}
    {at_ : Time} (ends : status.terminal = true)
    (pending : (if which row then row.mark status message at_ else row).unanswered = true) :
    row.unanswered = true ∧ which row = false := by
  split at pending
  · have ended := (CommandLog.terminal_iff status).mp ends
    simp [CommandLog.unanswered, ended] at pending
  · next spared => exact ⟨pending, by simpa using spared⟩

theorem keepsRequests_markCommands {which : CommandLog → Bool} {status : CommandStatus} {message : String}
    {at_ : Time} (ends : status.terminal = true) (w : World) :
    KeepsRequests w (w.apply (.markCommands which status message at_)) := by
  refine keepsRequests_of_rows (fun row member pending => ?_)
  obtain ⟨old, before, rfl⟩ := List.mem_map.mp member
  obtain ⟨waiting, spared⟩ := unanswered_mark ends pending
  refine ⟨old, before, waiting, ?_⟩
  rw [spared]
  exact fun marked => marked

theorem keepsRequests_deleteCommands (which : CommandLog → Bool) (w : World) :
    KeepsRequests w (w.apply (.deleteCommands which)) :=
  keepsRequests_of_marks (fun _ member => List.mem_of_mem_filter member) (fun _ marked => marked)

theorem noOrphans_addCommandLog_iff {w : World} {device : String} {command : Json} {sentAt : Time}
    {sentBy : Option String} (sound : NoOrphans w) :
    NoOrphans (w.apply (.addCommandLog device command sentAt sentBy)) ↔
      (hasAction (.str "request_capabilities") command = true → w.marked device) := by
  constructor
  · intro later asks
    have added := later _ (List.mem_append_right _ (List.mem_singleton_self _))
    exact added (by simpa [CommandLog.unanswered] using asks)
  · intro asked row member pending
    rcases List.mem_append.mp member with before | new
    · exact sound row before pending
    · rw [List.mem_singleton] at new
      subst new
      exact asked (by simpa [CommandLog.unanswered] using pending)

theorem keepsRequests_resolved {w v : World} {d : Device} {fields : List DeviceField} {which : CommandLog → Bool}
    {status : CommandStatus} {message : String} {at_ : Time} (ends : status.terminal = true)
    (covers : ∀ row : CommandLog, row.device = d.deviceId → row.unanswered = true → which row = true)
    (devices : v.db.devices = (w.apply (.saveDevice d fields)).db.devices)
    (rows : v.db.commandLogs = (w.apply (.markCommands which status message at_)).db.commandLogs) :
    KeepsRequests w v := by
  refine keepsRequests_of_rows (fun row member pending => ?_)
  rw [rows] at member
  obtain ⟨old, before, rfl⟩ := List.mem_map.mp member
  obtain ⟨waiting, spared⟩ := unanswered_mark ends pending
  refine ⟨old, before, waiting, ?_⟩
  rw [spared, marked_of_devices devices]
  refine marked_saveDevice (fun own => ?_)
  rw [covers old own.symm waiting] at spared
  cases spared

/-- Everything but the two places that take a mark away. -/
theorem respected_keepsRequests : Respected KeepsRequests SparesMark (fun _ _ => True) (fun _ => True) where
  toServiced := Serviced.of_marks keepsRequests_closed (fun w _ _ spares => keepsRequests_saveDevice spares w)
    (fun _ _ _ => keepsRequests_of_same rfl rfl) (fun w _ _ _ _ ends => keepsRequests_markCommands ends w)
  history := fun _ e history _ => by
    cases e <;> first | exact keepsRequests_of_same rfl rfl | cases history

theorem sparesMark_of_names {d : Device} {fields : List DeviceField} (other : .capabilitiesRequestedAt ∉ fields) :
    SparesMark d fields := fun named => absurd named other

theorem covers_requests {id : String} (row : CommandLog) (own : row.device = id)
    (waiting : row.unanswered = true) :
    (decide (row.device = id) && decide (row.status = .pending) &&
      hasAction (.str "request_capabilities") row.command) = true := by
  rw [decide_eq_true own, Bool.true_and]
  exact waiting

section Handlers
variable {env : Env} {device : Device}

theorem keepsRequests_checkCapabilitiesTimeout : Upholds KeepsRequests (checkCapabilitiesTimeout env device) := by
  intro w
  have alert : varchar 256 noCapabilitiesAlert = true := by decide
  have text :
      nulFree (pyTake 256 ("No response within " ++ toString (capabilitiesTimeout device) ++ "s")) = true :=
    nulFree_pyTake (nulFree_append (nulFree_append (by decide) (nulFree_toString _)) (by decide))
  unfold checkCapabilitiesTimeout
  split
  swap
  · exact keepsRequests_closed.refl w
  dsimp only
  generalize late_ : ({ device with
    alertLevel := .error, alertMessage := noCapabilitiesAlert, alertUpdatedAt := some env.now,
    capabilitiesRequestedAt := none } : Device) = late
  have said : late.alertMessage = noCapabilitiesAlert := by rw [← late_]
  have saved : outcome (saveDevice late (alertFields ++ [.capabilitiesRequestedAt])) w =
      (.ok (), w.apply (.saveDevice late (alertFields ++ [.capabilitiesRequestedAt]))) := by
    rw [outcome_saveDevice, if_pos (by simp [alertFields, Device.accepts, said, alert])]
  have short : varchar 256 late.alertMessage = true := said ▸ alert
  rw [after_bind_ok saved, after_bind_ok (@outcome_addStatusLog (statusRow env late) short _), after_bind_pure]
  unfold resolveCapabilityRequests
  rw [varchar_pyTake, text]
  exact keepsRequests_resolved rfl covers_requests rfl rfl

theorem keepsRequests_handleSensorMessage {deviceType deviceId : String} {payload : Payload} :
    Upholds KeepsRequests (handleSensorMessage env deviceType deviceId payload) := by
  have spares : ∀ fields : List DeviceField, (∀ f ∈ fields, f ∈ .lastSeen :: approvedFields) →
      .capabilitiesRequestedAt ∉ fields := fun fields names named => absurd (names _ named) (by decide)
  exact upholds_handleSensorMessage_body keepsRequests_closed (keepsRequests_createDevice _)
    (fun _ device _ _ => upholds_sensorBody_apart respected_keepsRequests (fun _ _ _ => rfl)
      (fun _ _ => keepsRequests_checkCapabilitiesTimeout) (fun _ _ _ => trivial)
      (fun _ fields _ names => sparesMark_of_names (spares fields names))
      (fun _ => ⟨fun _ _ => trivial, trivial, trivial, trivial⟩) trivial)

theorem keepsRequests_handleCapabilitiesMessage {deviceId : String} {payload : Payload} :
    Upholds KeepsRequests (handleCapabilitiesMessage env deviceId payload) := by
  have closed := keepsRequests_closed
  have within := respected_keepsRequests
  refine upholds_withObject closed (fun data => upholds_withDevice closed (fun before own =>
    Upholds.bind closed (Upholds.read closed _) (fun known =>
    Upholds.bind closed (Upholds.when closed (fun _ => within.addStatusLog trivial)) (fun _ w => ?_))))
  generalize applyCapabilities known data before = saved
  by_cases accepted : capabilitiesFields.all saved.accepts = true
  swap
  · have refused : outcome (saveDevice saved capabilitiesFields) w = (.error .dataError, w) := by
      rw [outcome_saveDevice, if_neg accepted]
    rw [after_bind_error refused]
    exact closed.refl w
  have kept : outcome (saveDevice saved capabilitiesFields) w =
      (.ok (), w.apply (.saveDevice saved capabilitiesFields)) := by rw [outcome_saveDevice, if_pos accepted]
  rw [after_bind_ok kept]
  have resolved : outcome (resolveCapabilityRequests env saved .success "")
        (w.apply (.saveDevice saved capabilitiesFields)) =
      (.ok (), (w.apply (.saveDevice saved capabilitiesFields)).apply (.markCommands
        (fun r => decide (r.device = saved.deviceId) && decide (r.status = .pending) &&
          hasAction (.str "request_capabilities") r.command) .success "" env.now)) := rfl
  rw [after_bind_ok resolved]
  refine closed.trans ?_ (Upholds.bind closed (within.resolveOtaUpdates _ _) (fun _ =>
    Upholds.when closed (fun _ => upholds_repushCalibration within.toIssued (fun _ _ => trivial))) _)
  exact keepsRequests_resolved rfl covers_requests rfl rfl

theorem keepsRequests_handleAckMessage {deviceId : String} {payload : Payload} :
    Upholds KeepsRequests (handleAckMessage env deviceId payload) :=
  upholds_handleAckMessage
    (upholds_ackLookup respected_keepsRequests.toIssued (fun _ _ => sparesMark_of_names (by decide)))
    (fun w _ _ answers => keepsRequests_markCommands answers.terminal w)

theorem keepsRequests_deliver (w : World) (d : Delivery) : KeepsRequests w (deliver w d) := by
  have within := respected_keepsRequests
  unfold deliver handleMessage
  cases d.kind with
  | sensors => exact keepsRequests_handleSensorMessage w
  | status =>
    exact upholds_handleStatusMessage within.toRecounted (fun _ _ => sparesMark_of_names (by decide))
      (fun _ _ => trivial) w
  | capabilities => exact keepsRequests_handleCapabilitiesMessage w
  | commands => exact upholds_handleCommandsMessage within.toIssued (fun _ _ => sparesMark_of_names (by decide)) w
  | calibration =>
    exact upholds_handleCalibrationMessage within.toIssued (fun _ _ => sparesMark_of_names (by decide)) w
  | diag =>
    exact upholds_handleDiagMessage within.toRecounted (fun _ _ => sparesMark_of_names (by decide))
      (fun _ _ => trivial) w
  | ack => exact keepsRequests_handleAckMessage w

end Handlers

section Pages
variable {env : Env} {request : Request} {deviceId : String} {device : Device} {w : World}

theorem noOrphans_addCommandLog (sound : NoOrphans w) {id : String} {command : Json} {sentBy : Option String}
    {sentAt : Time} (other : hasAction (.str "request_capabilities") command = false) :
    NoOrphans (w.apply (.addCommandLog id command sentAt sentBy)) :=
  (noOrphans_addCommandLog_iff sound).mpr (fun asks => by rw [other] at asks; cases asks)

theorem keepsRequests_addCommandLog {id : String} {command : Json} {sentBy : Option String}
    (other : hasAction (.str "request_capabilities") command = false) :
    Upholds KeepsRequests (addCommandLog env id command sentBy) :=
  upholds_addCommandLog keepsRequests_closed (fun _ sound => noOrphans_addCommandLog sound other)

theorem keepsRequests_publish {topic : String} {payload : Json} {retain : Bool} {qos : Nat} :
    Upholds KeepsRequests (mqttPublish env topic payload retain qos) :=
  respected_keepsRequests.mqttPublish trivial

theorem keepsRequests_publishAndRecord {command : Json} {user : User} {respond : Act Response}
    (other : hasAction (.str "request_capabilities") command = false) (rest : Upholds KeepsRequests respond) :
    Upholds KeepsRequests (publishAndRecord env device command user respond) := by
  refine Upholds.bind keepsRequests_closed (Upholds.attempt keepsRequests_publish) (fun sent => ?_)
  split
  · exact Upholds.pure keepsRequests_closed _
  · exact Upholds.bind keepsRequests_closed (keepsRequests_addCommandLog other) (fun _ => rest)

theorem keepsRequests_pushCalibration {command : Json} {key : String} {value : PyFloat}
    (other : hasAction (.str "request_capabilities") command = false) :
    Upholds KeepsRequests (pushCalibration env request device command key value) := by
  have closed := keepsRequests_closed
  refine Upholds.bind closed (Upholds.attempt (Upholds.bind closed keepsRequests_publish
    (fun _ => keepsRequests_addCommandLog other))) (fun sent => ?_)
  split
  · exact Upholds.pure closed _
  · exact Upholds.bind closed (respected_keepsRequests.saveDevice (sparesMark_of_names (by decide)))
      (fun _ => Upholds.pure closed _)

theorem keepsRequests_bareRequest {refuse : Device → Bool} {name : String} :
    Upholds KeepsRequests (bareRequestView request deviceId refuse
      (fun device => requestBare env device name)) := by
  have closed := keepsRequests_closed
  refine upholds_devicePost closed (fun device => ?_)
  split
  · exact Upholds.pure closed _
  · exact Upholds.bind closed (upholds_requestBare respected_keepsRequests.toIssued trivial)
      (fun _ => Upholds.pure closed _)

theorem marked_saved {at_ : Time} (known : w.device? device.deviceId = some device) :
    (w.apply (.saveDevice { device with capabilitiesRequestedAt := some at_ } [.capabilitiesRequestedAt])).marked
      device.deviceId := by
  refine ⟨{ device with capabilitiesRequestedAt := some at_ }.copyFields
    [.capabilitiesRequestedAt] device, ?_, rfl⟩
  rw [device?_saveDevice, known, Option.map_some]
  exact congrArg some (if_pos rfl)

theorem keepsRequests_requestCapabilities {sentBy : Option String} {logCommand : Bool}
    (known : w.device? device.deviceId = some device) :
    KeepsRequests w (after (requestCapabilities env device sentBy logCommand) w) := by
  intro sound
  have sent : NoOrphans (w.apply (.publish ⟨commandTopic device, bareCommand "request_capabilities", false, 1,
      env.broker w.published.length⟩)) := keepsRequests_of_same rfl rfl sound
  rw [after_requestCapabilities]
  dsimp only
  split
  swap
  · exact sent
  have marked := @marked_saved device _ env.now (show (w.apply (.publish ⟨commandTopic device,
    bareCommand "request_capabilities", false, 1, env.broker w.published.length⟩)).device?
      device.deviceId = _ from known)
  have saved := @keepsRequests_saveDevice
    { device with capabilitiesRequestedAt := some env.now } [.capabilitiesRequestedAt]
    (fun _ => rfl) _ sent
  cases logCommand with
  | false => exact saved
  | true =>
    change NoOrphans (after (addCommandLog env device.deviceId (bareCommand "request_capabilities") sentBy) _)
    rw [after, outcome_addCommandLog]
    split
    · exact saved
    · split
      · exact (noOrphans_addCommandLog_iff saved).mpr (fun _ => marked)
      · exact saved

theorem keepsRequests_view {view : DeviceView} (notCommand : view ≠ .command) (notRename : view ≠ .rename) :
    KeepsRequests w (after (view.run env request deviceId) w) := by
  have closed := keepsRequests_closed
  have within := respected_keepsRequests
  cases view with
  | command => exact absurd rfl notCommand
  | rename => exact absurd rfl notRename
  | edit =>
    refine upholds_roleRequired closed (fun _ => upholds_getDeviceOr404 closed (fun device => ?_)) w
    split
    · exact Upholds.pure closed _
    · exact Upholds.bind closed (within.saveDevice (sparesMark_of_names (by decide)))
        (fun _ => Upholds.pure closed _)
  | approve =>
    exact upholds_devicePost closed (fun device =>
      Upholds.bind closed (Upholds.when closed
        (fun _ => within.saveDevice (sparesMark_of_names (by decide)))) (fun _ =>
      Upholds.bind closed (Upholds.when closed
        (fun _ => within.saveDevice (sparesMark_of_names (by decide)))) (fun _ =>
      Upholds.pure closed _))) w
  | setConfirmUplink =>
    refine upholds_devicePost closed (fun device => ?_) w
    split
    · exact Upholds.pure closed _
    · exact keepsRequests_publishAndRecord (hasAction_named rfl (by decide)) (Upholds.pure closed _)
  | calibration =>
    refine upholds_devicePost closed (fun device => ?_) w
    dsimp only
    split
    · exact Upholds.pure closed _
    · split
      · exact Upholds.pure closed _
      · exact keepsRequests_pushCalibration (hasAction_named rfl (by decide))
  | setCalibration =>
    refine upholds_devicePost closed (fun device => ?_) w
    dsimp only
    split
    · exact Upholds.pure closed _
    · split
      · exact Upholds.pure closed _
      · exact keepsRequests_pushCalibration (hasAction_named rfl (by decide))
  | requestCalibration => exact keepsRequests_bareRequest w
  | requestStatus => exact keepsRequests_bareRequest w
  | requestDiag => exact keepsRequests_bareRequest w
  | requestCapabilities =>
    refine page_at (closed.refl w) (fun row known => ?_)
    cases Table.key_get? known
    unfold postOnly
    split
    · exact closed.refl w
    · have first := @keepsRequests_requestCapabilities env row w (some request.user.username) true known
      have rest : ∀ d, Upholds KeepsRequests (requestCommands env d) :=
        fun d => upholds_requestBare within.toIssued trivial
      simp only [Bool.false_eq_true, if_false]
      rw [after_bind_pure]
      exact closed.trans first (Upholds.rest closed rest w)
  | otaPush =>
    exact upholds_deviceOtaPushView closed (fun _ _ => keepsRequests_publish)
      (fun _ _ => keepsRequests_addCommandLog (hasAction_named rfl (by decide))) w
  | clearCommands =>
    exact upholds_devicePost closed (fun _ => Upholds.bind closed
      (upholds_emit (keepsRequests_deleteCommands _)) (fun _ => Upholds.pure closed _)) w
  | deleteCommand id =>
    exact upholds_devicePost closed (fun _ => Upholds.bind closed
      (upholds_emit (keepsRequests_deleteCommands _)) (fun _ => Upholds.pure closed _)) w
  | delete =>
    refine upholds_roleRequired closed (fun _ => upholds_getDeviceOr404 closed (fun device => ?_)) w
    split
    · refine Upholds.bind closed (upholds_transaction closed (fun _ _ _ => keepsRequests_of_same rfl rfl)
        (Upholds.bind closed (upholds_emit (fun _ => keepsRequests_of_same rfl rfl)) (fun _ => upholds_emit
          (keepsRequests_deleteDevice _)))) (fun _ => Upholds.pure closed _)
    · exact Upholds.pure closed _
  | deleteReadings =>
    exact upholds_deleteReadingsView closed (fun _ view _ => by cases view <;> exact keepsRequests_of_same rfl rfl)
      (fun _ _ => keepsRequests_of_same rfl rfl) w

end Pages

section Moves
variable {w : World} {env : Env} {request : Request} {deviceId : String} {device source target : Device}

theorem mem_transfer_rows {rows : List CommandLog} {source target : String} {row : CommandLog}
    (member : row ∈ (transfer CommandLog.device (CommandLog.renamed target) source rows).filter
      (fun l => l.device ≠ source)) :
    ∃ old ∈ rows, old.unanswered = row.unanswered ∧
      (old.device = source ∧ row.device = target ∨ old.device ≠ source ∧ row.device = old.device) := by
  obtain ⟨old, before, rfl⟩ := List.mem_map.mp (List.mem_of_mem_filter member)
  refine ⟨old, before, ?_⟩
  split
  · next own => exact ⟨rfl, .inl ⟨own, rfl⟩⟩
  · next other => exact ⟨rfl, .inr ⟨other, rfl⟩⟩

theorem keepsRequests_renamed {newId : String} (known : w.device? device.deviceId = some device)
    (free : w.device? newId = none) : KeepsRequests w (w.renamed env device newId) := by
  have apart : newId ≠ device.deviceId := by
    rintro rfl
    rw [free] at known
    cases known
  have kept : ∀ id, id ≠ device.deviceId → (w.renamed env device newId).device? id =
      (w.db.devices.insert (renamedDevice env device newId)).get? id := by
    intro id other
    unfold World.device?
    rw [devices_renamed, Table.get?_filter]
    cases found : (w.db.devices.insert (renamedDevice env device newId)).get? id with
    | none => rfl
    | some row => simp [Option.filter, Table.key_get? found, other]
  refine keepsRequests_of_rows (fun row member pending => ?_)
  rw [commandLogs_renamed] at member
  obtain ⟨old, before, same, ⟨own, moved⟩ | ⟨other, stays⟩⟩ := mem_transfer_rows member
  · refine ⟨old, before, same.trans pending, ?_⟩
    rw [own, moved]
    rintro ⟨d, found, asked⟩
    cases known.symm.trans found
    exact ⟨renamedDevice env device newId, (kept newId apart).trans (Table.get?_insert_new free), asked⟩
  · refine ⟨old, before, same.trans pending, ?_⟩
    rw [stays]
    rintro ⟨d, found, asked⟩
    refine ⟨d, (kept _ other).trans ((Table.get?_insert_other ?_).trans found), asked⟩
    rintro equal
    rw [← equal] at found
    rw [show (renamedDevice env device newId).deviceId = newId from rfl, free] at found
    cases found

theorem keepsRequests_refresh : Upholds KeepsRequests (refreshContinuousAggregates env) :=
  upholds_refreshContinuousAggregates keepsRequests_closed
    (fun _ view _ => by cases view <;> exact keepsRequests_of_same rfl rfl)

theorem keepsRequests_rename {newId : String} : KeepsRequests w (rename w env deviceId newId) := by
  unfold rename
  cases known : w.device? deviceId with
  | none => exact keepsRequests_closed.refl w
  | some device =>
    cases free : w.device? newId with
    | some _ => exact keepsRequests_closed.refl w
    | none =>
      cases Table.key_get? known
      dsimp only
      unfold renameDevice
      rcases block : outcome (transaction env (renameRows env device newId)) w with ⟨e | ⟨⟩, v⟩
      · rw [after_bind_error block]
        have same := db_of_transaction_error block
        exact keepsRequests_of_same (by rw [same]) (by rw [same])
      · rw [after_bind_ok block]
        obtain ⟨-, -, rfl⟩ := outcome_renameRows_ok.mp (outcome_transaction_ok.mp block).1
        exact keepsRequests_closed.trans (keepsRequests_renamed known free) (keepsRequests_refresh _)

theorem commandLogs_mergeDevices (other : target.deviceId ≠ source.deviceId)
    (known : w.device? target.deviceId = some target) (committed : env.commit = true) :
    (after (mergeDevices env source target) w).db.commandLogs.rows =
      (transfer CommandLog.device (CommandLog.renamed target.deviceId) source.deviceId
        w.db.commandLogs.rows).filter (fun l => l.device ≠ source.deviceId) := by
  obtain ⟨_, u, -, -, -, ran⟩ := mergeRows_ran source target w
  have block := outcome_transaction_ok.mpr ⟨ran, committed⟩
  have closed : Closed (fun w v : World => v.db.commandLogs = w.db.commandLogs) :=
    ⟨fun _ => rfl, fun h k => k.trans h⟩
  have refreshed := @upholds_refreshContinuousAggregates _ closed env (fun _ view _ => by cases view <;> rfl)
    (u.apply (.deleteDevice source.deviceId))
  unfold mergeDevices
  rw [after_bind_ok block, refreshed]
  exact (logs_mergeRows other known ran).commandLogs

theorem db_mergeDevices_undone (undone : env.commit = false) :
    (after (mergeDevices env source target) w).db = w.db := by
  unfold mergeDevices
  rcases block : outcome (transaction env (mergeRows source target)) w with ⟨e | ⟨⟩, v⟩
  · rw [after_bind_error block]
    exact db_of_transaction_error block
  · obtain ⟨-, committed⟩ := outcome_transaction_ok.mp block
    rw [undone] at committed
    cases committed

def SameMark (a b : Row) : Prop := b.map Device.capabilitiesRequestedAt = a.map Device.capabilitiesRequestedAt

theorem sameMark_law : RowLaw SameMark (fun _ fields => .capabilitiesRequestedAt ∉ fields) where
  refl _ := rfl
  trans h k := k.trans h
  save := by
    rintro d fields other (_ | row)
    · rfl
    · exact congrArg some (capabilitiesRequestedAt_copyFields other)

theorem SameMark.marked {v : World} {id : String} (same : SameMark (w.device? id) (v.device? id)) :
    v.marked id ↔ w.marked id := by
  have each : ∀ u : World, u.marked id ↔
      ∃ at_ ∈ (u.device? id).map Device.capabilitiesRequestedAt, at_.isSome = true := by
    intro u
    unfold World.marked
    cases u.device? id <;> simp
  rw [each, each, same]

theorem marked_mergeDevices {id : String} (other : id ≠ source.deviceId) :
    (after (mergeDevices env source target) w).marked id ↔ w.marked id := by
  refine SameMark.marked (sameMark_law.mergeDevices (fun _ _ => by decide) (fun u => ?_) w)
  unfold RowStep
  rw [device?_deleteDevice, if_neg other]
  exact sameMark_law.refl _

theorem mem_pendingRequests {db : Db} {id : String} {row : CommandLog} :
    row ∈ pendingCommands db id (.str "request_capabilities") ↔
      row ∈ db.commandLogs.rows ∧ row.device = id ∧ row.unanswered = true := by
  unfold pendingCommands CommandLog.unanswered
  rw [List.mem_filter]
  simp [and_assoc]

theorem noOrphans_merge_iff (sound : NoOrphans w) (other : target.deviceId ≠ source.deviceId)
    (known : w.device? target.deviceId = some target) :
    NoOrphans (after (mergeDevices env source target) w) ↔
      (env.commit && !(pendingCommands w.db source.deviceId (.str "request_capabilities")).isEmpty &&
        target.capabilitiesRequestedAt.isNone) = false := by
  cases committed : env.commit with
  | false =>
    have same := @db_mergeDevices_undone w env source target committed
    have kept : NoOrphans (after (mergeDevices env source target) w) :=
      keepsRequests_of_same (by rw [same]) (by rw [same]) sound
    simpa using kept
  | true =>
    have rows := @commandLogs_mergeDevices w env source target other known committed
    have targetMarked : w.marked target.deviceId ↔ target.capabilitiesRequestedAt.isNone = false := by
      unfold World.marked
      rw [known]
      simp
    rw [Bool.true_and]
    constructor
    · intro later
      cases waiting : pendingCommands w.db source.deviceId (.str "request_capabilities") with
      | nil => rfl
      | cons row rest =>
        obtain ⟨before, own, pending⟩ :=
          mem_pendingRequests.mp (waiting ▸ List.mem_cons_self (a := row) (l := rest))
        have moved : row.renamed target.deviceId ∈
            (after (mergeDevices env source target) w).db.commandLogs.rows := by
          rw [rows]
          refine List.mem_filter.mpr ⟨List.mem_map.mpr ⟨row, before, if_pos own⟩, ?_⟩
          exact decide_eq_true other
        have marked := later _ moved pending
        rw [CommandLog.device_renamed, marked_mergeDevices other, targetMarked] at marked
        rw [marked, Bool.and_false]
    · intro safe row member pending
      rw [rows] at member
      obtain ⟨old, before, same, ⟨own, moved⟩ | ⟨away, stays⟩⟩ := mem_transfer_rows member
      · rw [moved, marked_mergeDevices other, targetMarked]
        have waiting := mem_pendingRequests.mpr ⟨before, own, same.trans pending⟩
        cases requests : pendingCommands w.db source.deviceId (.str "request_capabilities") with
        | nil =>
          rw [requests] at waiting
          cases waiting
        | cons _ _ =>
          rw [requests] at safe
          exact safe
      · rw [stays, marked_mergeDevices away]
        exact sound old before (same.trans pending)

end Moves

inductive Errand where
  | message (d : Delivery)
  | ask (env : Env) (deviceId : String) (sentBy : Option String) (logCommand : Bool)
  | page (env : Env) (view : DeviceView) (request : Request) (deviceId : String)

def perform (w : World) : Errand → World
  | .message d => deliver w d
  | .ask env deviceId sentBy logCommand =>
    match w.device? deviceId with
    | some device => after (requestCapabilities env device sentBy logCommand) w
    | none => w
  | .page env view request deviceId => after (view.run env request deviceId) w

/-- A request typed as a free-form command, of a device without the mark, goes out and is
recorded, and the message that would set the mark is refused. -/
def typedOrphan (w : World) (env : Env) (request : Request) (deviceId : String) : Bool :=
  match userCommand env request, w.device? deviceId with
  | some command, some device =>
    hasAction (.str "request_capabilities") command && command.storable && env.broker w.published.length &&
      !env.broker (w.published.length + 1) && device.capabilitiesRequestedAt.isNone
  | _, _ => false

def mergedOrphan (w : World) (env : Env) (request : Request) (deviceId : String) : Bool :=
  match confirmedMerge w request deviceId with
  | some (source, target) =>
    env.commit && !(pendingCommands w.db source.deviceId (.str "request_capabilities")).isEmpty &&
      target.capabilitiesRequestedAt.isNone
  | none => false

def orphans (w : World) : Errand → Bool
  | .page env .command request deviceId => typedOrphan w env request deviceId
  | .page env .rename request deviceId => mergedOrphan w env request deviceId
  | _ => false

section Perform
variable {w : World} {env : Env} {request : Request} {deviceId : String}

theorem noOrphans_rename_iff (sound : NoOrphans w) :
    NoOrphans (after (deviceRenameView env request deviceId) w) ↔ mergedOrphan w env request deviceId = false := by
  unfold mergedOrphan
  cases confirmed : confirmedMerge w request deviceId with
  | none =>
    refine iff_of_true ?_ rfl
    rcases after_deviceRenameView w env request deviceId with same | renamed | ⟨source, target, merged, -⟩
    · rw [same]
      exact sound
    · rw [renamed]
      exact keepsRequests_rename sound
    · rw [confirmed] at merged
      cases merged
  | some pair =>
    obtain ⟨source, target⟩ := pair
    obtain ⟨⟨-, -, -, -, other, -⟩, known, taken⟩ := confirmedMerge_eq_some.mp confirmed
    have own : source.deviceId = deviceId := Table.key_get? known
    have named : target.deviceId = _ := Table.key_get? taken
    rw [after_confirmedMerge confirmed]
    rw [← named, ← own] at other
    exact noOrphans_merge_iff sound other (named ▸ taken)

theorem recordable_of_request {command : Json} (asks : hasAction (.str "request_capabilities") command = true)
    (storable : command.storable = true) : recordable command := by
  refine ⟨?_, storable⟩
  rintro rfl
  cases asks

theorem noOrphans_typed_iff {device : Device} {command : Json} {user : User} {response : Response}
    (sound : NoOrphans w) (known : w.device? device.deviceId = some device) :
    NoOrphans (after (publishAndRecord env device command user (do
      let _ ← requestCapabilities env device none false
      pure response)) w) ↔
    (hasAction (.str "request_capabilities") command && command.storable && env.broker w.published.length &&
      !env.broker (w.published.length + 1) && device.capabilitiesRequestedAt.isNone) = false := by
  have silent : NoOrphans (sentWorld env w device command) := keepsRequests_of_same rfl rfl sound
  cases taken : env.broker w.published.length with
  | false =>
    have refused := @publishAndRecord_refused env { user := user } device w command (do
      let _ ← requestCapabilities env device none false
      pure response) taken
    rw [refused]
    simpa using silent
  | true =>
    obtain ⟨recorded, dropped⟩ := @publishAndRecord_taken env { user := user } device w command (do
      let _ ← requestCapabilities env device none false
      pure response) taken
    by_cases valid : recordable command
    swap
    · rw [dropped valid]
      refine iff_of_true silent ?_
      by_contra typed
      simp only [Bool.not_eq_false, Bool.and_eq_true] at typed
      exact valid (recordable_of_request typed.1.1.1.1 typed.1.1.1.2)
    · rw [recorded valid, after_bind_pure, after_requestCapabilities]
      have count : (loggedWorld env w device command user).published.length = w.published.length + 1 := by
        simp [loggedWorld, sentWorld, World.apply]
      dsimp only
      rw [count, valid.2]
      cases env.broker (w.published.length + 1) with
      | true =>
        have marked := @marked_saved device w env.now known
        have saved : NoOrphans (w.apply (.saveDevice { device with capabilitiesRequestedAt := some env.now }
          [.capabilitiesRequestedAt])) := keepsRequests_saveDevice (fun _ => rfl) w sound
        have logged := (@noOrphans_addCommandLog_iff _ device.deviceId command env.now
          (some user.username) saved).mpr
          (fun _ => marked)
        have final := @keepsRequests_of_same _ (((loggedWorld env w device command user).apply (.publish
          ⟨commandTopic device, bareCommand "request_capabilities", false, 1, true⟩)).apply (.saveDevice
          { device with capabilitiesRequestedAt := some env.now } [.capabilitiesRequestedAt])) rfl rfl logged
        exact iff_of_true final (by rw [Bool.not_true, Bool.and_false, Bool.false_and])
      | false =>
        have unmarked : (sentWorld env w device command).marked device.deviceId ↔
            device.capabilitiesRequestedAt.isNone = false := by
          change w.marked device.deviceId ↔ _
          unfold World.marked
          rw [known]
          simp
        have logged := @noOrphans_addCommandLog_iff _ device.deviceId command env.now (some user.username) silent
        rw [unmarked] at logged
        have same : NoOrphans ((loggedWorld env w device command user).apply (.publish ⟨commandTopic device,
            bareCommand "request_capabilities", false, 1, false⟩)) ↔
              NoOrphans (loggedWorld env w device command user) :=
          Iff.rfl
        rw [if_neg (by decide), same]
        refine logged.trans ?_
        cases hasAction (.str "request_capabilities") command <;> simp

theorem noOrphans_command_iff (sound : NoOrphans w) :
    NoOrphans (after (deviceCommandView env request deviceId) w) ↔ typedOrphan w env request deviceId = false := by
  rw [after_deviceCommandView]
  unfold typedOrphan
  cases sent : userCommand env request with
  | none => exact iff_of_true sound rfl
  | some command =>
    cases known : w.device? deviceId with
    | none => exact iff_of_true sound rfl
    | some device =>
      have own : device.deviceId = deviceId := Table.key_get? known
      subst own
      exact noOrphans_typed_iff sound known

theorem noOrphans_perform_iff (sound : NoOrphans w) (e : Errand) :
    NoOrphans (perform w e) ↔ orphans w e = false := by
  cases e with
  | message d => exact iff_of_true (keepsRequests_deliver w d sound) rfl
  | ask env deviceId sentBy logCommand =>
    refine iff_of_true ?_ rfl
    dsimp only [perform]
    cases known : w.device? deviceId with
    | none => exact sound
    | some device =>
      cases Table.key_get? known
      exact keepsRequests_requestCapabilities known sound
  | page env view request deviceId =>
    by_cases command : view = .command
    · subst command
      exact noOrphans_command_iff sound
    · by_cases rename : view = .rename
      · subst rename
        exact noOrphans_rename_iff sound
      · have quiet : orphans w (.page env view request deviceId) = false := by
          cases view <;> first | rfl | exact absurd rfl command | exact absurd rfl rename
        exact iff_of_true (keepsRequests_view command rename sound) quiet

end Perform

/-- Every pending request stays with a mark, in every state of a run, as long as none is
typed by hand past a failing broker or merged into an unmarked device. -/
theorem no_orphans_iff {w : World} (sound : NoOrphans w) (es : List Errand) :
    Run.Along perform (fun w e => NoOrphans (perform w e)) w es ↔
      Run.Along perform (fun w e => orphans w e = false) w es :=
  Run.along_iff (fun _ e sound => noOrphans_perform_iff sound e)
    (fun _ e sound safe => (noOrphans_perform_iff sound e).mpr safe) sound

def twinMessage (kind : MessageKind) (deviceId : String) (at_ : Time) : Errand :=
  .message ⟨{ now := at_ }, kind, "thermo", deviceId, ⟨60, .value (.obj [])⟩⟩

def twinPage (view : DeviceView) (at_ : Time) (post : QueryDict) : Errand :=
  .page { now := at_ } view { user := { username := "ann", role := some .admin }, post := post } "twin01"

/-- Two devices are heard, the second one answers, and the first one is asked by an administrator. -/
def twinsAsked : List Errand :=
  [twinMessage .sensors "twin01" (seconds 1), twinMessage .sensors "twin02" (seconds 2),
   twinMessage .capabilities "twin02" (seconds 3), twinPage .requestCapabilities (seconds 4) []]

theorem twinsAsked_kept : Run.Along perform (fun w e => NoOrphans (perform w e)) World.empty twinsAsked :=
  (no_orphans_iff (fun _ member => absurd member List.not_mem_nil) twinsAsked).mpr (by decide +kernel)

/-- The first one is then merged into the second. -/
theorem twinsMerged_orphaned :
    NoOrphans World.empty ∧
    ¬ NoOrphans (Run.run perform World.empty (twinsAsked ++
      [twinPage .rename (seconds 5) [("new_device_id", "twin02"), ("confirm_merge", "yes")]])) ∧
    (Run.run perform World.empty (twinsAsked ++
      [twinPage .rename (seconds 5) [("new_device_id", "twin02"), ("confirm_merge", "yes")]])).db.commandLogs.rows.map
        (fun r => (r.device, r.status, r.command)) =
      [("twin02", .pending, bareCommand "request_capabilities")] := by
  decide +kernel

end SensorServer
