import SensorServer.Push
import SensorServer.Wipe

/-! What the command and calibration forms publish, record and mirror: three effects one
after the other, over every value a user can send. -/
namespace SensorServer
open Program

/-- The value an accepted form sends, and the entry of the mirror it sets. -/
structure Submission where
  command : Json
  entry : Option (String × PyFloat) := none
  deriving DecidableEq

def submission (env : Env) (request : Request) (device : Device) : DeviceView → Option Submission
  | .command => (userCommand env request).map (fun command => { command := command })
  | .setConfirmUplink =>
    if request.user.may .admin && request.isPost && device.supportsDiag then
      let value := if QueryDict.get? request.post "value" = some "1" then 1 else 0
      some { command := .obj [("action", .str "set_confirm_uplink"), ("value", .int value)] }
    else none
  | .calibration =>
    let metric := pyStrip (QueryDict.get request.post "metric" "")
    if request.user.may .admin && request.isPost && decide (metric ∈ calibrationMetrics) then
      (env.floatOfStr (QueryDict.get request.post "value" "0")).map (fun f =>
        { command := .obj [("action", .str "set_offset"), ("metric", .str metric), ("value", .float (f.round 2))]
          entry := some ("cal_" ++ metric, f.round 2) })
    else none
  | .setCalibration =>
    let key := pyStrip (QueryDict.get request.post "key" "")
    if request.user.may .admin && request.isPost && (safeIdentifierRe key && decide (pyLen key ≤ 64)) then
      (env.floatOfStr (QueryDict.get request.post "value" "0")).map (fun f =>
        { command := .obj [("action", .str "set_calibration"), ("key", .str key), ("value", .float (f.round 4))]
          entry := some (key, f.round 4) })
    else none
  | _ => none

/-- A JSON object with a non-empty string action, as the ack and flush queries need it. -/
def namesAction (command : Json) : Bool :=
  match actionOf command with
  | some (.str action) => decide (action ≠ "")
  | _ => false

def Delivered (w v : World) (device : Device) (command : Json) : Prop :=
  ∃ p ∈ v.published.drop w.published.length,
    p.topic = commandTopic device ∧ p.payload = command ∧ p.delivered = true

def RecordedOnce (w v : World) (device : Device) (command : Json) : Prop :=
  ∃ row, v.db.commandLogs.rows = w.db.commandLogs.rows ++ [row] ∧ row.device = device.deviceId ∧
    row.command = command ∧ row.status = .pending

structure Agrees (w v : World) (device : Device) (s : Submission) : Prop where
  recorded : Delivered w v device s.command ↔ RecordedOnce w v device s.command
  named : Delivered w v device s.command → namesAction s.command = true
  mirrored : ∀ key value, s.entry = some (key, value) →
    (Delivered w v device s.command →
      mirror v device.deviceId = some (Dict.set device.calibration key (.float value))) ∧
    (¬ Delivered w v device s.command → mirror v device.deviceId = some device.calibration)

section Accepted
variable {env : Env} {request : Request} {device : Device} {deviceId : String} {w : World}

theorem after_getDeviceOr404 (known : w.device? deviceId = some device) (view : Device → Act Response) :
    after (getDeviceOr404 deviceId view) w = after (view device) w := by
  unfold getDeviceOr404
  rw [after_read_bind, known]

theorem after_adminPost {minimum : Role} (admitted : request.user.may minimum = true)
    (post : request.isPost = true)
    (known : w.device? deviceId = some device) (view : Device → Act Response) :
    after (roleRequired minimum request (getDeviceOr404 deviceId fun device =>
      postOnly request (view device))) w = after (view device) w := by
  rw [roleRequired_eq, if_pos admitted, after_getDeviceOr404 known]
  simp [postOnly, post]

/-- What comes after the row of a command: the command log and the mirror stay. -/
structure Follows (id : String) (w v : World) : Prop where
  commandLogs : v.db.commandLogs = w.db.commandLogs
  published : w.published <+: v.published
  mirror : KeepsColumn Device.calibration id w v

theorem follows_closed (id : String) : Closed (Follows id) where
  refl w := ⟨rfl, List.prefix_refl _, keepsColumn_closed.refl w⟩
  trans h k := ⟨k.1.trans h.1, h.2.trans k.2, keepsColumn_closed.trans h.3 k.3⟩

theorem follows_requestCapabilities (id : String) :
    Upholds (Follows id) (requestCapabilities env device none false) := by
  have closed := follows_closed id
  refine Upholds.bind closed (Upholds.attempt (upholds_mqttPublish closed (fun w taken =>
    ⟨rfl, List.prefix_append _ _, .of_devices rfl⟩))) (fun sent => ?_)
  split
  · refine Upholds.bind closed (Upholds.attempt (Upholds.bind closed (upholds_saveDevice closed (fun w => ?_))
      (fun _ => Upholds.pure closed ()))) (fun _ => Upholds.pure closed _)
    exact ⟨rfl, List.prefix_refl _, keepsColumn_saveDevice (fun _ row => by simp) w⟩
  · exact Upholds.pure closed _

theorem after_accepted {view : DeviceView} {s : Submission} (known : w.device? deviceId = some device)
    (accepted : submission env request device view = some s) :
    (s.entry = none → ∃ respond, Upholds (Follows device.deviceId) respond ∧
      after (view.run env request deviceId) w =
        after (publishAndRecord env device s.command request.user respond) w) ∧
    ∀ key value, s.entry = some (key, value) → after (view.run env request deviceId) w =
      after (pushCalibration env request device s.command key value) w := by
  have closed := follows_closed device.deviceId
  cases view with
  | command =>
    obtain ⟨command, sent, rfl⟩ := Option.map_eq_some_iff.mp accepted
    refine ⟨fun _ => ⟨do
      let _ ← requestCapabilities env device none false
      pure (commandLogAnswer request device), ?_, ?_⟩, fun _ _ entry => by cases entry⟩
    · exact Upholds.bind closed (follows_requestCapabilities _) (fun _ => Upholds.pure closed _)
    · change after (deviceCommandView env request deviceId) w = _
      rw [after_deviceCommandView, sent, known]
  | setConfirmUplink =>
    rw [submission] at accepted
    split at accepted
    swap
    · cases accepted
    next allowed =>
    simp only [Bool.and_eq_true] at allowed
    cases accepted
    refine ⟨fun _ => ⟨pure (commandLogAnswer request device), Upholds.pure closed _, ?_⟩,
      fun _ _ entry => by cases entry⟩
    change after (deviceSetConfirmUplinkView env request deviceId) w = _
    unfold deviceSetConfirmUplinkView
    rw [after_adminPost allowed.1.1 allowed.1.2 known, allowed.2]
    rfl
  | calibration =>
    rw [submission] at accepted
    split at accepted
    swap
    · cases accepted
    next allowed =>
    simp only [Bool.and_eq_true, decide_eq_true_eq] at allowed
    obtain ⟨f, parsed, rfl⟩ := Option.map_eq_some_iff.mp accepted
    refine ⟨(fun entry => by cases entry), ?_⟩
    rintro _ _ ⟨⟩
    change after (deviceCalibrationView env request deviceId) w = _
    unfold deviceCalibrationView
    rw [after_adminPost allowed.1.1 allowed.1.2 known]
    simp only [allowed.2, not_true_eq_false, if_false, parsed]
  | setCalibration =>
    rw [submission] at accepted
    split at accepted
    swap
    · cases accepted
    next allowed =>
    simp only [Bool.and_eq_true, decide_eq_true_eq] at allowed
    obtain ⟨f, parsed, rfl⟩ := Option.map_eq_some_iff.mp accepted
    refine ⟨(fun entry => by cases entry), ?_⟩
    rintro _ _ ⟨⟩
    change after (deviceSetCalibrationView env request deviceId) w = _
    unfold deviceSetCalibrationView
    rw [after_adminPost allowed.1.1 allowed.1.2 known]
    simp only [allowed.2.1, Nat.not_lt.mpr allowed.2.2, Bool.not_true, decide_false, Bool.or_self,
      Bool.false_eq_true, if_false, parsed]
  | _ => cases accepted

end Accepted

section Effects
variable {env : Env} {request : Request} {device : Device} {w v : World} {s : Submission}

def formMessage (env : Env) (w : World) (device : Device) (command : Json) : Publication :=
  ⟨commandTopic device, command, false, 1, env.broker w.published.length⟩

def sentWorld (env : Env) (w : World) (device : Device) (command : Json) : World :=
  w.apply (.publish (formMessage env w device command))

def loggedWorld (env : Env) (w : World) (device : Device) (command : Json) (user : User) : World :=
  (sentWorld env w device command).apply (.addCommandLog device.deviceId command env.now (some user.username))

def recordable (command : Json) : Prop := command ≠ .null ∧ command.storable = true

theorem outcome_addCommandLog {deviceId : String} {command : Json} {sentBy : Option String} :
    outcome (addCommandLog env deviceId command sentBy) w =
      if command = .null then (.error .integrity, w)
      else if command.storable then (.ok (), w.apply (.addCommandLog deviceId command env.now sentBy))
      else (.error .dataError, w) := by
  unfold addCommandLog
  split
  · rfl
  · split <;> rfl

theorem outcome_createCommandLog_recorded {command : Json} {user : User} (valid : recordable command) (u : World) :
    outcome (createCommandLog env device command (some user.username)) u =
      (.ok (), u.apply (.addCommandLog device.deviceId command env.now (some user.username))) := by
  rw [createCommandLog, outcome_addCommandLog, if_neg valid.1, if_pos valid.2]

theorem outcome_createCommandLog_refused {command : Json} {user : User}
    (invalid : ¬ recordable command) (u : World) :
    ∃ e, outcome (createCommandLog env device command (some user.username)) u = (.error e, u) := by
  rw [createCommandLog, outcome_addCommandLog]
  split
  · exact ⟨_, rfl⟩
  · next some_ =>
    have unstorable : ¬ command.storable = true := fun storable => invalid ⟨some_, storable⟩
    rw [if_neg unstorable]
    exact ⟨_, rfl⟩

theorem publishAndRecord_refused {command : Json} {respond : Act Response}
    (refused : env.broker w.published.length = false) :
    after (publishAndRecord env device command request.user respond) w = sentWorld env w device command := by
  have published := outcome_attempt_publish env (commandTopic device) command false 1 w
  rw [refused] at published
  unfold publishAndRecord
  rw [after_bind_ok published]
  rw [sentWorld, formMessage, refused]
  rfl

theorem publishAndRecord_taken {command : Json} {respond : Act Response}
    (taken : env.broker w.published.length = true) :
    (recordable command → after (publishAndRecord env device command request.user respond) w =
      after respond (loggedWorld env w device command request.user)) ∧
    (¬ recordable command →
      after (publishAndRecord env device command request.user respond) w = sentWorld env w device command) := by
  have published := outcome_attempt_publish env (commandTopic device) command false 1 w
  have state : sentWorld env w device command =
      w.apply (.publish ⟨commandTopic device, command, false, 1, true⟩) := by
    rw [sentWorld, formMessage, taken]
  rw [taken, ← state] at published
  unfold publishAndRecord
  rw [after_bind_ok published]
  refine ⟨fun valid => ?_, fun invalid => ?_⟩
  · exact after_bind_ok (outcome_createCommandLog_recorded valid _)
  · obtain ⟨e, failed⟩ := @outcome_createCommandLog_refused env device command request.user invalid
      (sentWorld env w device command)
    exact after_bind_error failed

def entered (device : Device) (key : String) (value : PyFloat) : Device :=
  { device with calibration := Dict.set device.calibration key (.float value) }

theorem outcome_mqttPublish_sent (command : Json) :
    outcome (mqttPublish env (commandTopic device) command false 1) w =
      (if env.broker w.published.length then .ok () else .error .broker, sentWorld env w device command) :=
  outcome_mqttPublish env (commandTopic device) command false 1 w

theorem outcome_publishCalibrationCommand {command : Json} {user : User} :
    (env.broker w.published.length = true → recordable command →
      outcome (publishCalibrationCommand env device command user) w =
        (.ok true, loggedWorld env w device command user)) ∧
    (¬ (env.broker w.published.length = true ∧ recordable command) →
      outcome (publishCalibrationCommand env device command user) w =
        (.ok false, sentWorld env w device command)) := by
  have published := @outcome_mqttPublish_sent env device w command
  unfold publishCalibrationCommand
  cases taken : env.broker w.published.length with
  | false =>
    refine ⟨(fun goes => by cases goes), fun _ => ?_⟩
    rw [taken] at published
    rw [outcome_attempt, outcome_bind_error published]
  | true =>
    rw [taken, if_pos rfl] at published
    refine ⟨fun _ valid => ?_, fun invalid => ?_⟩
    · rw [outcome_attempt, outcome_bind_ok published, outcome_createCommandLog_recorded valid]
      rfl
    · obtain ⟨e, failed⟩ := @outcome_createCommandLog_refused env device command user
        (fun valid => invalid ⟨rfl, valid⟩) (sentWorld env w device command)
      rw [outcome_attempt, outcome_bind_ok published, failed]

theorem pushCalibration_recorded {command : Json} {key : String} {value : PyFloat}
    (taken : env.broker w.published.length = true) (valid : recordable command) :
    after (pushCalibration env request device command key value) w =
      saveReport (loggedWorld env w device command request.user)
        (some (entered device key value, [.calibration])) := by
  have ran := (@outcome_publishCalibrationCommand env device w command request.user).1 taken valid
  have saved := outcome_saveDevice (entered device key value) [.calibration]
    (loggedWorld env w device command request.user)
  unfold pushCalibration
  rw [after_bind_ok ran, saveReport_some]
  by_cases accepted : [DeviceField.calibration].all (entered device key value).accepts = true
  · rw [if_pos accepted] at saved ⊢
    exact after_bind_ok saved
  · rw [if_neg accepted] at saved ⊢
    exact after_bind_error saved

theorem pushCalibration_sent {command : Json} {key : String} {value : PyFloat}
    (invalid : ¬ (env.broker w.published.length = true ∧ recordable command)) :
    after (pushCalibration env request device command key value) w = sentWorld env w device command := by
  have ran := (@outcome_publishCalibrationCommand env device w command request.user).2 invalid
  unfold pushCalibration
  rw [after_bind_ok ran]
  rfl

end Effects

section Agree
variable {env : Env} {request : Request} {device : Device} {w v : World} {s : Submission}

theorem delivered_of_published (taken : env.broker w.published.length = true)
    (first : (sentWorld env w device s.command).published <+: v.published) : Delivered w v device s.command := by
  obtain ⟨more, published⟩ := first
  refine ⟨formMessage env w device s.command, ?_, rfl, rfl, taken⟩
  rw [← published, show (sentWorld env w device s.command).published =
    w.published ++ [formMessage env w device s.command] from rfl, List.append_assoc, List.drop_left]
  exact List.mem_cons_self

theorem not_recordedOnce_sent : ¬ RecordedOnce w (sentWorld env w device s.command) device s.command := by
  rintro ⟨row, rows, -⟩
  exact absurd (List.append_right_eq_self.mp rows.symm) (List.cons_ne_nil _ _)

theorem agrees_refused (known : w.device? device.deviceId = some device)
    (refused : env.broker w.published.length = false) : Agrees w (sentWorld env w device s.command) device s := by
  have silent : ¬ Delivered w (sentWorld env w device s.command) device s.command := by
    rintro ⟨p, member, -, -, delivered⟩
    rw [show (sentWorld env w device s.command).published = w.published ++
      [formMessage env w device s.command] from rfl,
      List.drop_left, List.mem_singleton] at member
    rw [member, formMessage, refused] at delivered
    cases delivered
  refine ⟨iff_of_false silent not_recordedOnce_sent, fun done => absurd done silent, fun key value _ =>
    ⟨fun done => absurd done silent, fun _ => ?_⟩⟩
  exact congrArg (Option.map Device.calibration) known

theorem not_agrees_sent (taken : env.broker w.published.length = true) :
    ¬ Agrees w (sentWorld env w device s.command) device s := fun agrees =>
  not_recordedOnce_sent (agrees.recorded.mp (delivered_of_published taken (List.prefix_refl _)))

theorem agrees_logged_iff (taken : env.broker w.published.length = true)
    (rows : v.db.commandLogs = (loggedWorld env w device s.command request.user).db.commandLogs)
    (published : (sentWorld env w device s.command).published <+: v.published)
    (entry : ∀ key value, s.entry = some (key, value) →
      mirror v device.deviceId = some (Dict.set device.calibration key (.float value))) :
    Agrees w v device s ↔ namesAction s.command = true := by
  have done : Delivered w v device s.command := delivered_of_published taken published
  have once : RecordedOnce w v device s.command := ⟨_, by rw [rows]; rfl, rfl, rfl, rfl⟩
  constructor
  · exact fun agrees => agrees.named done
  · exact fun named => ⟨iff_of_true done once, fun _ => named, fun key value same =>
      ⟨fun _ => entry key value same, fun silent => absurd done silent⟩⟩

theorem storableFields_set {fields : Fields} {key : String} {value : Json} (kept : storableFields fields = true)
    (name : nulFree key = true) (valid : value.storable = true) :
    storableFields (Dict.set fields key value) = true := by
  induction fields with
  | nil => simp [Dict.set, storableFields, name, valid]
  | cons kv rest ih =>
    obtain ⟨k, x⟩ := kv
    simp only [storableFields, Bool.and_eq_true] at kept
    unfold Dict.set
    split
    · simp [storableFields, kept.1.1, valid, kept.2]
    · simp [storableFields, kept.1, ih kept.2]

theorem submission_entry {view : DeviceView} (accepted : submission env request device view = some s)
    {key : String} {value : PyFloat} (entry : s.entry = some (key, value)) (valid : s.command.storable = true) :
    nulFree key = true ∧ (Json.float value).storable = true := by
  cases view with
  | command =>
    obtain ⟨command, -, rfl⟩ := Option.map_eq_some_iff.mp accepted
    cases entry
  | setConfirmUplink =>
    rw [submission] at accepted
    split at accepted <;> cases accepted
    cases entry
  | calibration =>
    rw [submission] at accepted
    split at accepted
    · obtain ⟨f, -, rfl⟩ := Option.map_eq_some_iff.mp accepted
      cases entry
      simp only [Json.storable, storableFields, Bool.and_eq_true] at valid
      exact ⟨nulFree_append (by decide) valid.2.1.2, valid.2.2.1.2⟩
    · cases accepted
  | setCalibration =>
    rw [submission] at accepted
    split at accepted
    · obtain ⟨f, -, rfl⟩ := Option.map_eq_some_iff.mp accepted
      cases entry
      simp only [Json.storable, storableFields, Bool.and_eq_true] at valid
      exact ⟨valid.2.1.2, valid.2.2.1.2⟩
    · cases accepted
  | _ => cases accepted

theorem mirror_entered {key : String} {value : PyFloat} (known : w.device? device.deviceId = some device)
    (kept : storableFields device.calibration = true) (name : nulFree key = true)
    (valid : (Json.float value).storable = true) (command : Json) :
    mirror (saveReport (loggedWorld env w device command request.user)
        (some (entered device key value, [.calibration]))) device.deviceId =
      some (Dict.set device.calibration key (.float value)) := by
  have accepted : [DeviceField.calibration].all (entered device key value).accepts = true := by
    simp only [List.all_cons, List.all_nil, Bool.and_true]
    exact storableFields_set kept name valid
  have still : (loggedWorld env w device command request.user).device? device.deviceId = some device := known
  have own : (entered device key value).deviceId = device.deviceId := rfl
  rw [saveReport_some, if_pos accepted, mirror, device?_saved still own]
  simp [entered]

end Agree

/-- An accepted form publishes, records and mirrors together exactly when what the broker
takes is an object that names an action and that the database can store. -/
theorem agrees_iff {env : Env} {request : Request} {device : Device} {deviceId : String} {w : World}
    {view : DeviceView} {s : Submission} (known : w.device? deviceId = some device)
    (kept : storableFields device.calibration = true)
    (accepted : submission env request device view = some s) :
    Agrees w (after (view.run env request deviceId) w) device s ↔
      (env.broker w.published.length = true → s.command.storable = true ∧ namesAction s.command = true) := by
  obtain ⟨records, pushes⟩ := after_accepted known accepted
  have own : w.device? device.deviceId = some device := by rw [Table.key_get? known]; exact known
  by_cases taken : env.broker w.published.length = true
  swap
  · have refused : env.broker w.published.length = false := by simpa using taken
    refine iff_of_true ?_ (fun goes => absurd goes taken)
    cases entry : s.entry with
    | none =>
      obtain ⟨respond, -, ran⟩ := records entry
      rw [ran, publishAndRecord_refused refused]
      exact agrees_refused own refused
    | some kv =>
      rw [pushes kv.1 kv.2 entry, pushCalibration_sent (fun both => taken both.1)]
      exact agrees_refused own refused
  simp only [taken, forall_const]
  by_cases valid : recordable s.command
  swap
  · refine iff_of_false ?_ (fun both => valid ⟨?_, both.1⟩)
    · cases entry : s.entry with
      | none =>
        obtain ⟨respond, -, ran⟩ := records entry
        rw [ran, (publishAndRecord_taken taken).2 valid]
        exact not_agrees_sent taken
      | some kv =>
        rw [pushes kv.1 kv.2 entry, pushCalibration_sent (fun both => valid both.2)]
        exact not_agrees_sent taken
    · intro null
      have unnamed := both.2
      rw [null] at unnamed
      cases unnamed
  simp only [valid.2, true_and]
  cases entry : s.entry with
  | none =>
    obtain ⟨respond, follows, ran⟩ := records entry
    have after_ := follows (loggedWorld env w device s.command request.user)
    rw [ran, (publishAndRecord_taken taken).1 valid]
    exact @agrees_logged_iff env request _ _ _ _ taken after_.commandLogs after_.published
      (fun key value same => by rw [entry] at same; cases same)
  | some kv =>
    obtain ⟨name, finite⟩ := submission_entry accepted entry valid.2
    rw [pushes kv.1 kv.2 entry, pushCalibration_recorded taken valid]
    refine @agrees_logged_iff env request _ _ _ _ taken ?_ ?_ ?_
    · rw [saveReport_some]
      split <;> rfl
    · rw [saveReport_some]
      split <;> exact List.prefix_refl _
    · intro key value same
      rw [entry] at same
      cases same
      exact mirror_entered own kept name finite s.command

/-- A resident types null into the command form. -/
def nullRequest : Request :=
  { user := { username := "bob", role := some .resident }, post := [("command", "null")] }

def nullEnv : Env := { now := seconds 9, jsonLoads := fun _ => .value .null }

def rebootEnv : Env := { now := seconds 9, jsonLoads := fun _ => .malformed }

def rebootRequest : Request := { nullRequest with post := [("command", "reboot")] }

theorem reboot_agrees :
    Agrees oneDevice (after (DeviceView.command.run rebootEnv rebootRequest "living01") oneDevice)
      { deviceId := "living01", createdAt := 0 } { command := bareCommand "reboot" } :=
  (agrees_iff rfl (by decide) (by decide)).mpr (by decide)

theorem null_disagrees :
    submission nullEnv nullRequest { deviceId := "living01", createdAt := 0 } .command = some { command := .null } ∧
    ¬ Agrees oneDevice (after (DeviceView.command.run nullEnv nullRequest "living01") oneDevice)
      { deviceId := "living01", createdAt := 0 } { command := .null } := by
  refine ⟨by decide, fun agrees => ?_⟩
  let v := after (DeviceView.command.run nullEnv nullRequest "living01") oneDevice
  have rows : v.db.commandLogs.rows = [] := by
    decide
  have done : Delivered oneDevice (after (DeviceView.command.run nullEnv nullRequest "living01") oneDevice)
      { deviceId := "living01", createdAt := 0 } .null :=
    ⟨⟨"unknown/living01/command", .null, false, 1, true⟩, by decide, rfl, rfl, rfl⟩
  obtain ⟨row, recorded, -⟩ := agrees.recorded.mp done
  rw [rows] at recorded
  cases recorded

end SensorServer
