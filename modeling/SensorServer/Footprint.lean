import SensorServer.Handlers

/-! What the services and the handlers can commit and publish, function by function,
for any notion of an allowed effect. -/
namespace SensorServer
open Program

def Effect.isHistory : Effect → Bool
  | .addStatusLog _ | .addDiagLog _ | .addReadings _ | .broadcast _ => true
  | _ => false

/-- The saves, the messages and the updates of the command log that are allowed,
next to all history. -/
structure Permits (allowed : World → Effect → Prop) (saves : Device → List DeviceField → Prop)
    (sends : String → Json → Prop) : Prop where
  save : ∀ w d fields, saves d fields → allowed w (.saveDevice d fields)
  publish : ∀ w p, sends p.topic p.payload → allowed w (.publish p)
  mark : ∀ w which status message at_, allowed w (.markCommands which status message at_)
  history : ∀ w e, e.isHistory = true → allowed w e

def Sends (sends : String → Json → Prop) (w v : World) : Prop :=
  ∃ new, v.published = w.published ++ new ∧ ∀ p ∈ new, sends p.topic p.payload

theorem sends_closed (sends : String → Json → Prop) : Closed (Sends sends) where
  refl w := ⟨[], by simp, by simp⟩
  trans := by
    rintro a b c ⟨new, first, each⟩ ⟨more, rest, others⟩
    refine ⟨new ++ more, by rw [rest, first, List.append_assoc], ?_⟩
    intro p member
    rcases List.mem_append.mp member with h | h
    · exact each p h
    · exact others p h

def sendsOnly (sends : String → Json → Prop) (_ : World) : Effect → Prop
  | .publish p => sends p.topic p.payload
  | _ => True

theorem sends_of_emits {sends : String → Json → Prop} {α : Type} {m : Act α}
    (valid : Emits (sendsOnly sends) m) : Upholds (Sends sends) m := by
  refine Emits.upholds (sends_closed sends) (fun w e ok => ?_) valid
  cases e with
  | publish p => exact ⟨[p], rfl, fun q member => List.mem_singleton.mp member ▸ ok⟩
  | _ => exact ⟨[], by simp [World.apply], by simp⟩

theorem permits_sends (sends : String → Json → Prop) :
    Permits (sendsOnly sends) (fun _ _ => True) sends :=
  ⟨fun _ _ _ _ => trivial, fun _ _ ok => ok, fun _ _ _ _ _ => trivial,
    fun _ e history => by cases e <;> trivial⟩

structure Issued (R : World → World → Prop) (saves : Device → List DeviceField → Prop)
    (sends : String → Json → Prop) : Prop where
  closed : Closed R
  save : ∀ w d fields, saves d fields → R w (w.apply (.saveDevice d fields))
  publish : ∀ w p, sends p.topic p.payload → R w (w.apply (.publish p))

/-- Next to these the updates of the command log as the services make them. -/
structure Serviced (R : World → World → Prop) (saves : Device → List DeviceField → Prop)
    (sends : String → Json → Prop) : Prop extends Issued R saves sends where
  checkOtaTimeouts : ∀ env device, Upholds R (checkOtaTimeouts env device)
  resolveOtaUpdates : ∀ env device, Upholds R (resolveOtaUpdates env device)
  resolveRequests : ∀ env device status message, status.terminal = true →
    Upholds R (resolveCapabilityRequests env device status message)

/-- The saves and messages, and the history with the allowed status rows. -/
structure Recounted (R : World → World → Prop) (saves : Device → List DeviceField → Prop)
    (sends : String → Json → Prop) (logs : DeviceStatusLog → Prop) : Prop extends Issued R saves sends where
  history : ∀ w e, e.isHistory = true → (∀ row, e = .addStatusLog row → logs row) → R w (w.apply e)

structure Respected (R : World → World → Prop) (saves : Device → List DeviceField → Prop)
    (sends : String → Json → Prop) (logs : DeviceStatusLog → Prop) : Prop
    extends Serviced R saves sends, Recounted R saves sends logs

theorem Serviced.of_marks {R : World → World → Prop} {saves : Device → List DeviceField → Prop}
    {sends : String → Json → Prop} (closed : Closed R)
    (save : ∀ w d fields, saves d fields → R w (w.apply (.saveDevice d fields)))
    (publish : ∀ w p, sends p.topic p.payload → R w (w.apply (.publish p)))
    (mark : ∀ w which status message at_, status.terminal = true →
      R w (w.apply (.markCommands which status message at_))) :
    Serviced R saves sends where
  closed := closed
  save := save
  publish := publish
  checkOtaTimeouts := fun _ _ => Upholds.bind closed (Upholds.read closed _) (fun _ =>
    Upholds.forEach closed (fun _ _ => Upholds.when closed
      (fun _ => upholds_markCommand closed (fun w => mark w _ _ _ _ rfl))))
  resolveOtaUpdates := fun _ _ => Upholds.bind closed (Upholds.read closed _) (fun _ =>
    Upholds.forEach closed (fun _ _ => Upholds.when closed
      (fun _ => upholds_markCommand closed (fun w => mark w _ _ _ _ rfl))))
  resolveRequests := by
    intro env device status message ended
    unfold resolveCapabilityRequests
    split
    · exact upholds_emit (fun w => mark w _ _ _ _ ended)
    · exact Upholds.fail closed _

theorem Permits.respected {allowed : World → Effect → Prop} {saves : Device → List DeviceField → Prop}
    {sends : String → Json → Prop} (permits : Permits allowed saves sends) :
    Respected (Journal World.apply allowed) saves sends (fun _ => True) where
  toServiced := Serviced.of_marks (journal_closed _ _)
    (fun w d fields ok => journal_single _ (permits.save w d fields ok))
    (fun w p ok => journal_single _ (permits.publish w p ok))
    (fun w _ _ _ _ _ => journal_single _ (permits.mark w _ _ _ _))
  history := fun w e ok _ => journal_single _ (permits.history w e ok)

section Services
variable {R : World → World → Prop} {saves : Device → List DeviceField → Prop}
  {sends : String → Json → Prop} (within : Issued R saves sends) {env : Env} {device : Device}
include within

theorem Issued.saveDevice {d : Device} {fields : List DeviceField} (ok : saves d fields) :
    Upholds R (saveDevice d fields) :=
  upholds_saveDevice within.closed (fun w => within.save w _ _ ok)

theorem Issued.mqttPublish {topic : String} {payload : Json} {retain : Bool} {qos : Nat}
    (ok : sends topic payload) : Upholds R (mqttPublish env topic payload retain qos) :=
  upholds_mqttPublish within.closed (fun w _ => within.publish w _ ok)

theorem upholds_requestCapabilities {sentBy : Option String} {logCommand : Bool}
    (send : sends (commandTopic device) (bareCommand "request_capabilities"))
    (save : saves { device with capabilitiesRequestedAt := some env.now } [.capabilitiesRequestedAt])
    (log : logCommand = true →
      Upholds R (createCommandLog env device (bareCommand "request_capabilities") sentBy)) :
    Upholds R (requestCapabilities env device sentBy logCommand) := by
  have closed := within.closed
  refine Upholds.bind closed (Upholds.attempt (within.mqttPublish send)) (fun sent => ?_)
  split
  · exact Upholds.bind closed (Upholds.attempt (Upholds.bind closed (within.saveDevice save)
      (fun _ => Upholds.when closed log))) (fun _ => Upholds.pure closed _)
  · exact Upholds.pure closed _

theorem upholds_requestBare {name : String} (send : sends (commandTopic device) (bareCommand name)) :
    Upholds R (requestBare env device name) :=
  Upholds.bind within.closed (Upholds.attempt (within.mqttPublish send))
    (fun _ => Upholds.pure within.closed _)

theorem upholds_maybeRequestDiag (send : sends (commandTopic device) (bareCommand "get_diag"))
    (save : saves { device with diagRequestedAt := some env.now } [.diagRequestedAt]) :
    Upholds R (maybeRequestDiag env device) := by
  have closed := within.closed
  unfold maybeRequestDiag
  split
  · exact Upholds.bind closed (upholds_requestBare within send)
      (fun _ => Upholds.bind closed (within.saveDevice save) (fun _ => Upholds.pure closed _))
  · exact Upholds.pure closed _

theorem upholds_repushCalibration
    (send : ∀ key value, sends (commandTopic device) (repushCommand key value)) :
    Upholds R (repushCalibration env device) :=
  Upholds.forEach within.closed (fun _ _ => Upholds.bind within.closed
    (Upholds.attempt (within.mqttPublish (send _ _))) (fun _ => Upholds.pure within.closed _))

theorem upholds_flushPendingCommands
    (send : ∀ command, notOtaUpdate command = true → sends (commandTopic device) command) :
    Upholds R (flushPendingCommands env device) := by
  have closed := within.closed
  have fact : ∀ w : World, ∀ cmd ∈ flushRows w.db device.deviceId, notOtaUpdate cmd.command = true := by
    intro w cmd member
    have selected := List.of_mem_filter (OrderBy.mem_ascending.mp member)
    simp only [Bool.and_eq_true] at selected
    exact selected.2
  have loop : ∀ rows : List CommandLog, (∀ cmd ∈ rows, notOtaUpdate cmd.command = true) →
      Upholds R (forEach rows (fun cmd => do
        let _ ← attempt (SensorServer.mqttPublish env (commandTopic device) cmd.command false 1)
        pure ())) :=
    fun _ others => Upholds.forEach closed (fun cmd member => Upholds.bind closed
      (Upholds.attempt (within.mqttPublish (send _ (others cmd member)))) (fun _ => Upholds.pure closed _))
  exact Upholds.query fact loop

omit within in
theorem returns_requestCapabilities {sentBy : Option String} {logCommand : Bool} :
    Returns (fun d => ∃ at_, d = { device with capabilitiesRequestedAt := at_ })
      (requestCapabilities env device sentBy logCommand) := by
  refine Returns.bind (fun sent => ?_)
  split
  · exact Returns.bind (fun _ => Returns.pure ⟨_, rfl⟩)
  · exact Returns.pure ⟨device.capabilitiesRequestedAt, rfl⟩

end Services

section History
variable {R : World → World → Prop} {saves : Device → List DeviceField → Prop}
  {sends : String → Json → Prop} {logs : DeviceStatusLog → Prop} (within : Recounted R saves sends logs)
  {env : Env} {device : Device}
include within

theorem Recounted.addStatusLog {row : DeviceStatusLog} (ok : logs row) : Upholds R (addStatusLog row) := by
  refine upholds_addStatusLog within.closed (fun w => within.history w _ rfl ?_)
  rintro _ ⟨⟩
  exact ok

theorem Recounted.aside {e : Effect} (history : e.isHistory = true)
    (other : ∀ row, e ≠ .addStatusLog row) (w : World) : R w (w.apply e) :=
  within.history w e history (fun row same => absurd same (other row))

theorem Recounted.addDiagLog (row : DeviceDiagLog) : Upholds R (addDiagLog row) :=
  upholds_addDiagLog within.closed (within.aside rfl (fun _ => Effect.noConfusion))

theorem Recounted.groupSend (e : ChannelEvent) : Upholds R (groupSend env e) :=
  upholds_groupSend within.closed (within.aside rfl (fun _ => Effect.noConfusion))

theorem upholds_announceCleared (log : logs (statusRow env device)) :
    Upholds R (announceCleared env device) :=
  Upholds.bind within.closed (within.addStatusLog log) (fun _ => within.groupSend _)

theorem upholds_collectReadings {deviceType : String} (data : Fields) :
    Upholds R (collectReadings env device deviceType data) := by
  have closed := within.closed
  induction data with
  | nil => exact Upholds.pure closed _
  | cons entry rest ih =>
    obtain ⟨raw, value⟩ := entry
    unfold collectReadings
    split
    · exact ih
    · cases pyFloat env value with
      | skipped => exact ih
      | overflow => exact Upholds.fail closed _
      | value f =>
        exact Upholds.bind closed (within.groupSend _)
          (fun _ => Upholds.bind closed ih (fun _ => Upholds.pure closed _))

end History

def sensorFields : List DeviceField :=
  [.lastSeen, .alertLevel, .alertMessage, .alertUpdatedAt, .capabilitiesRequestedAt,
   .diagRequestedAt, .batteryPercent]

def approvedFields : List DeviceField :=
  [.alertLevel, .alertMessage, .alertUpdatedAt, .diagRequestedAt, .batteryPercent]

def heardFields : List DeviceField :=
  [.alertLevel, .alertMessage, .alertUpdatedAt, .capabilitiesRequestedAt, .diagRequestedAt, .batteryPercent]

theorem approvedFields_subset : ∀ f ∈ approvedFields, f ∈ heardFields := by decide

theorem heardFields_subset : ∀ f ∈ heardFields, f ∈ sensorFields := by decide

def SameUnit (device d : Device) : Prop :=
  d.deviceId = device.deviceId ∧ d.deviceType = device.deviceType

theorem SameUnit.topic {device d : Device} (same : SameUnit device d) :
    commandTopic d = commandTopic device := by
  rw [commandTopic, same.1, same.2]
  rfl

structure WakeUpSends (sends : String → Json → Prop) (topic : String) : Prop where
  flush : ∀ command, notOtaUpdate command = true → sends topic command
  capabilities : sends topic (bareCommand "request_capabilities")
  commands : sends topic (bareCommand "request_commands")
  status : sends topic (bareCommand "get_status")

section WakeUp
variable {R : World → World → Prop} {saves : Device → List DeviceField → Prop}
  {sends : String → Json → Prop} {env : Env} {device : Device}

theorem upholds_wakeUp (within : Issued R saves sends)
    (save : saves { device with capabilitiesRequestedAt := some env.now } [.capabilitiesRequestedAt])
    (send : WakeUpSends sends (commandTopic device)) : Upholds R (wakeUp env device) := by
  have closed := within.closed
  refine Upholds.bind closed (upholds_flushPendingCommands within send.flush) (fun _ => ?_)
  refine Upholds.bind_returning closed (upholds_requestCapabilities within send.capabilities save
    (fun logged => nomatch logged)) returns_requestCapabilities ?_
  rintro _ ⟨at_, rfl⟩
  exact Upholds.bind closed (upholds_requestBare within send.commands) (fun _ =>
    Upholds.bind closed (Upholds.when closed (fun _ => upholds_requestBare within send.status))
      (fun _ => Upholds.pure closed _))

theorem returns_wakeUp :
    Returns (fun d => ∃ at_, d = { device with capabilitiesRequestedAt := at_ }) (wakeUp env device) := by
  refine Returns.bind (fun _ => Returns.bind_returning returns_requestCapabilities ?_)
  rintro _ ⟨at_, rfl⟩
  exact Returns.bind (fun _ => Returns.bind (fun _ => Returns.pure ⟨at_, rfl⟩))

theorem returns_maybeRequestDiag :
    Returns (fun d => ∃ at_, d = { device with diagRequestedAt := at_ }) (maybeRequestDiag env device) := by
  unfold maybeRequestDiag
  split
  · exact Returns.bind (fun _ => Returns.bind (fun _ => Returns.pure ⟨_, rfl⟩))
  · exact Returns.pure ⟨device.diagRequestedAt, rfl⟩

end WakeUp

theorem reconcileAlert_cases (now : Time) (d : Device) :
    reconcileAlert now d = (d.clearAlert, alertFields, true) ∨
      reconcileAlert now d = ({ d with alertUpdatedAt := some now }, [.alertUpdatedAt], false) ∨
      reconcileAlert now d = (d, [], false) := by
  unfold reconcileAlert
  split
  · exact .inl rfl
  · split
    · split
      · exact .inr (.inl rfl)
      · split
        · exact .inl rfl
        · exact .inr (.inr rfl)
    · exact .inr (.inr rfl)

theorem capabilitiesOverdue_reconcileAlert (now : Time) (row : Device) :
    capabilitiesOverdue (reconcileAlert now { row with lastSeen := some now }).1 now =
      capabilitiesOverdue row now := by
  rcases reconcileAlert_cases now { row with lastSeen := some now } with h | h | h <;> rw [h] <;> rfl

theorem reconcileAlert_cleared {now : Time} {device : Device} (cleared : (reconcileAlert now device).2.2 = true) :
    reconcileAlert now device = (device.clearAlert, alertFields, true) := by
  rcases reconcileAlert_cases now device with h | h | h
  · exact h
  · rw [h] at cleared
    cases cleared
  · rw [h] at cleared
    cases cleared

theorem reconcileAlert_level {now : Time} {d : Device} (cleared : (reconcileAlert now d).2.2 = true) :
    (reconcileAlert now d).1.alertLevel = .ok := by
  rw [reconcileAlert_cleared cleared]
  rfl

/-! The sensors handler in three parts: a cleared alert is announced, the row is saved,
the rest works on the saved instance. -/

def approvedRest (env : Env) (deviceType : String) (data : Fields) (device : Device) : Act Unit :=
  when device.isApproved do
    let device ← maybeRequestDiag env device
    storeReadings env device deviceType data

def savedRest (env : Env) (deviceType : String) (data : Fields) (woken : Bool) (device : Device) :
    Act Unit := do
  checkOtaTimeouts env device
  let device ← (if woken then wakeUp env device else checkCapabilitiesTimeout env device)
  approvedRest env deviceType data device

theorem sensorBody_halves (env : Env) (deviceType : String) (data : Fields) (device : Device) (created : Bool) :
    sensorBody env deviceType data device created = (do
      let reconciled := reconcileAlert env.now { device with lastSeen := some env.now }
      when reconciled.2.2 (announceCleared env reconciled.1)
      saveDevice reconciled.1 (.lastSeen :: reconciled.2.1)
      savedRest env deviceType data (created || !device.isOnline env.now) reconciled.1) := rfl

section Approved
variable {R : World → World → Prop} {saves : Device → List DeviceField → Prop}
  {sends : String → Json → Prop} {logs : DeviceStatusLog → Prop} (within : Recounted R saves sends logs)
  {env : Env} {device : Device}
  (save : ∀ d fields, SameUnit device d → (∀ f ∈ fields, f ∈ approvedFields) → saves d fields)
  (log : ∀ row : DeviceStatusLog, row.device = device.deviceId → row.alertLevel = .ok → logs row)
include within save log

theorem upholds_trackBattery {d : Device} (same : SameUnit device d) (stored : PyFloat) :
    Upholds R (trackBattery env d stored) := by
  have closed := within.closed
  have save' : ∀ d' fields, SameUnit device d' → (∀ f ∈ fields, f ∈ approvedFields) →
      Upholds R (saveDevice d' fields) := fun d' fields h k => within.saveDevice (save d' fields h k)
  refine Upholds.bind closed (Upholds.when closed (fun _ => save' _ _ (by split <;> exact same) (by decide)))
    (fun _ => Upholds.when closed (fun _ => Upholds.bind closed (save' _ _ ?_ (by decide))
      (fun _ => upholds_announceCleared within (log _ ?_ rfl))))
  · dsimp only [Device.clearAlert]
    split <;> exact same
  · dsimp only [statusRow, Device.clearAlert]
    split <;> exact same.1

theorem upholds_storeReadings {d : Device} (same : SameUnit device d) {deviceType : String}
    {data : Fields} : Upholds R (storeReadings env d deviceType data) := by
  have closed := within.closed
  refine Upholds.bind closed (upholds_collectReadings within data) (fun readings =>
    Upholds.when closed (fun _ => Upholds.bind closed (upholds_emit (within.aside rfl
      (fun _ => Effect.noConfusion))) (fun _ => ?_)))
  cases storedBattery readings with
  | none => exact Upholds.pure closed _
  | some stored => exact upholds_trackBattery within save log same stored

theorem upholds_approvedRest {d : Device} (same : SameUnit device d) {deviceType : String} {data : Fields}
    (diag : sends (commandTopic device) (bareCommand "get_diag")) :
    Upholds R (approvedRest env deviceType data d) := by
  have requested : SameUnit device { d with diagRequestedAt := some env.now } := same
  refine Upholds.when within.closed (fun _ => Upholds.bind_returning within.closed
    (upholds_maybeRequestDiag within.toIssued (same.topic ▸ diag) (save _ _ requested (by decide)))
    returns_maybeRequestDiag ?_)
  rintro _ ⟨at_, rfl⟩
  have unit : SameUnit device { d with diagRequestedAt := at_ } := same
  exact upholds_storeReadings within save log unit

end Approved

section Sensors
variable {R : World → World → Prop} {saves : Device → List DeviceField → Prop}
  {sends : String → Json → Prop} {logs : DeviceStatusLog → Prop} (within : Respected R saves sends logs)
  {env : Env} {device : Device}
  (save : ∀ d fields, SameUnit device d → (∀ f ∈ fields, f ∈ heardFields) → saves d fields)
  (log : ∀ row : DeviceStatusLog, row.device = device.deviceId → logs row)
include within save log

theorem upholds_checkCapabilitiesTimeout {d : Device} (same : SameUnit device d) :
    Upholds R (checkCapabilitiesTimeout env d) := by
  have closed := within.closed
  unfold checkCapabilitiesTimeout
  split
  · exact Upholds.bind closed (within.saveDevice (save _ _ same (by decide)))
      (fun _ => Upholds.bind closed (within.addStatusLog (log _ same.1))
        (fun _ => Upholds.bind closed (within.resolveRequests _ _ _ _ rfl) (fun _ => Upholds.pure closed _)))
  · exact Upholds.pure closed _

omit within save log in
theorem returns_checkCapabilitiesTimeout {d : Device} (same : SameUnit device d) :
    Returns (SameUnit device) (checkCapabilitiesTimeout env d) := by
  unfold checkCapabilitiesTimeout
  split
  · exact Returns.bind (fun _ => Returns.bind (fun _ => Returns.bind (fun _ => Returns.pure same)))
  · exact Returns.pure same

omit within save log in
theorem reconcileAlert_spec (now : Time) {d : Device} (same : SameUnit device d) :
    SameUnit device (reconcileAlert now d).1 ∧
      ∀ f ∈ DeviceField.lastSeen :: (reconcileAlert now d).2.1, f ∈ .lastSeen :: approvedFields := by
  have names : ∀ f ∈ DeviceField.lastSeen :: alertFields, f ∈ .lastSeen :: approvedFields := by decide
  rcases reconcileAlert_cases now d with h | h | h <;> rw [h]
  · exact ⟨same, names⟩
  · exact ⟨same, by simp [approvedFields]⟩
  · exact ⟨same, by simp [approvedFields]⟩

end Sensors

/-! The mark of a request is saved in two places only, the wake-up and the timeout check. -/

section Asked
variable {R : World → World → Prop} {saves : Device → List DeviceField → Prop}
  {sends : String → Json → Prop} {logs : DeviceStatusLog → Prop} (within : Respected R saves sends logs)
  {env : Env} {device : Device}
  (asked : ∀ d : Device, SameUnit device d →
    saves { d with capabilitiesRequestedAt := some env.now } [.capabilitiesRequestedAt])
  (timeout : ∀ d, SameUnit device d → Upholds R (checkCapabilitiesTimeout env d))
  (log : ∀ row : DeviceStatusLog, row.device = device.deviceId → row.alertLevel = .ok → logs row)
include within asked timeout log

theorem upholds_savedRest_apart {d : Device} (same : SameUnit device d) {deviceType : String} {data : Fields}
    {woken : Bool} (save : ∀ d fields, SameUnit device d → (∀ f ∈ fields, f ∈ approvedFields) → saves d fields)
    (wake : woken = true → WakeUpSends sends (commandTopic device))
    (diag : sends (commandTopic device) (bareCommand "get_diag")) :
    Upholds R (savedRest env deviceType data woken d) := by
  have closed := within.closed
  refine Upholds.bind closed (within.checkOtaTimeouts _ _) (fun _ =>
    @Upholds.bind_returning _ _ _ _ (SameUnit device) R closed _ _ ?_ ?_
      (fun d' same' => upholds_approvedRest within.toRecounted save log same' diag))
  · split
    · have send : WakeUpSends sends (commandTopic d) := by
        rw [same.topic]
        exact wake ‹_›
      exact upholds_wakeUp within.toIssued (asked d same) send
    · exact timeout d same
  · split
    · exact Returns.mono (by rintro _ ⟨at_, rfl⟩; exact same) returns_wakeUp
    · exact returns_checkCapabilitiesTimeout same

theorem upholds_sensorBody_apart {deviceType : String} {data : Fields} {created : Bool}
    (save : ∀ d fields, SameUnit device d → (∀ f ∈ fields, f ∈ .lastSeen :: approvedFields) → saves d fields)
    (wake : (created || !device.isOnline env.now) = true → WakeUpSends sends (commandTopic device))
    (diag : sends (commandTopic device) (bareCommand "get_diag")) :
    Upholds R (sensorBody env deviceType data device created) := by
  have closed := within.closed
  have rest : ∀ d fields, SameUnit device d → (∀ f ∈ fields, f ∈ approvedFields) → saves d fields :=
    fun d fields same names => save d fields same (fun f member => List.mem_cons_of_mem _ (names f member))
  have seen : SameUnit device { device with lastSeen := some env.now } := ⟨rfl, rfl⟩
  obtain ⟨same, fields⟩ := reconcileAlert_spec env.now seen
  have level := @reconcileAlert_level env.now { device with lastSeen := some env.now }
  rw [sensorBody_halves]
  dsimp only
  generalize reconcileAlert env.now { device with lastSeen := some env.now } = reconciled at same fields level ⊢
  obtain ⟨d, names, cleared⟩ := reconciled
  exact Upholds.bind closed (Upholds.when closed (fun clears =>
    upholds_announceCleared within.toRecounted (log _ same.1 (level clears)))) (fun _ =>
    Upholds.bind closed (within.saveDevice (save _ _ same fields)) (fun _ =>
    upholds_savedRest_apart within asked timeout log same rest wake diag))

end Asked

section Sensors
variable {R : World → World → Prop} {saves : Device → List DeviceField → Prop}
  {sends : String → Json → Prop} {logs : DeviceStatusLog → Prop} (within : Respected R saves sends logs)
  {env : Env} {device : Device}
  (log : ∀ row : DeviceStatusLog, row.device = device.deviceId → logs row)
include within log

theorem upholds_savedRest
    (save : ∀ d fields, SameUnit device d → (∀ f ∈ fields, f ∈ heardFields) → saves d fields)
    {d : Device} (same : SameUnit device d) {deviceType : String} {data : Fields}
    {woken : Bool} (wake : woken = true → WakeUpSends sends (commandTopic device))
    (diag : sends (commandTopic device) (bareCommand "get_diag")) :
    Upholds R (savedRest env deviceType data woken d) := by
  refine upholds_savedRest_apart within (fun d' same' => ?_)
    (fun _ same' => upholds_checkCapabilitiesTimeout within save log same') (fun row own _ => log row own) same
    (fun d fields same names => save d fields same (fun f member => approvedFields_subset f (names f member)))
    wake diag
  have requested : SameUnit device { d' with capabilitiesRequestedAt := some env.now } := same'
  exact save _ _ requested (by decide)

theorem upholds_sensorBody {deviceType : String} {data : Fields} {created : Bool}
    (save : ∀ d fields, SameUnit device d → (∀ f ∈ fields, f ∈ sensorFields) → saves d fields)
    (wake : (created || !device.isOnline env.now) = true → WakeUpSends sends (commandTopic device))
    (diag : sends (commandTopic device) (bareCommand "get_diag")) :
    Upholds R (sensorBody env deviceType data device created) := by
  have rest : ∀ d fields, SameUnit device d → (∀ f ∈ fields, f ∈ heardFields) → saves d fields :=
    fun d fields same names => save d fields same (fun f member => heardFields_subset f (names f member))
  have early : ∀ f ∈ DeviceField.lastSeen :: approvedFields, f ∈ sensorFields := by decide
  refine upholds_sensorBody_apart within (fun d' same' => ?_)
    (fun _ same' => upholds_checkCapabilitiesTimeout within rest log same') (fun row own _ => log row own)
    (fun d fields same names => save d fields same (fun f member => early f (names f member))) wake diag
  have requested : SameUnit device { d' with capabilitiesRequestedAt := some env.now } := same'
  exact rest _ _ requested (by decide)

end Sensors

theorem returns_getOrCreateDevice {env : Env} {deviceType deviceId : String} :
    Returns (fun r => r.1.deviceId = deviceId) (getOrCreateDevice env deviceType deviceId) := by
  intro w r v h
  unfold getOrCreateDevice at h
  rw [outcome_bind, outcome_read] at h
  cases known : w.device? deviceId with
  | some device =>
    rw [known] at h
    cases h
    exact Table.key_get? known
  | none =>
    rw [known] at h
    have named : Returns (fun r : Device × Bool => r.1.deviceId = deviceId) (do
        createDevice { deviceId := deviceId, deviceType := deviceType, createdAt := env.now }
        pure (({ deviceId := deviceId, deviceType := deviceType, createdAt := env.now } : Device), true) :
          Act (Device × Bool)) := Returns.bind (fun _ => Returns.pure rfl)
    exact named w r v h

theorem upholds_withObject {R : World → World → Prop} (closed : Closed R) {α : Type} {payload : Payload}
    {rejected : α} {body : Fields → Act α} (inside : ∀ data, Upholds R (body data)) :
    Upholds R (withObject payload rejected body) := by
  unfold withObject
  split
  · exact Upholds.pure closed _
  · cases payload.body with
    | malformed => exact Upholds.pure closed _
    | uncaught => exact Upholds.fail closed _
    | value json =>
      cases json with
      | obj data => exact inside data
      | _ => exact Upholds.pure closed _

theorem upholds_withDevice {R : World → World → Prop} (closed : Closed R) {α : Type} {deviceId : String}
    {rejected : α} {body : Device → Act α}
    (inside : ∀ device : Device, device.deviceId = deviceId → Upholds R (body device)) :
    Upholds R (withDevice deviceId rejected body) := by
  intro w
  unfold withDevice
  rw [after_read_bind]
  cases known : w.device? deviceId with
  | none => exact closed.refl w
  | some device => exact inside device (Table.key_get? known) w

theorem deviceId_applyStatus (now : Time) (level : AlertLevel) (data : Fields) (device : Device) :
    (applyStatus now level data device).deviceId = device.deviceId := by
  unfold applyStatus
  split <;> rfl

theorem deviceType_applyCapabilities {known : String → Bool} {data : Fields} {device : Device} :
    (applyCapabilities known data device).deviceType = device.deviceType := by
  unfold applyCapabilities
  cases hadTimeoutAlert device <;> rfl

theorem calibration_applyCapabilities {known : String → Bool} {data : Fields} {device : Device} :
    (applyCapabilities known data device).calibration = device.calibration := by
  unfold applyCapabilities
  cases hadTimeoutAlert device <;> rfl

theorem publishInterval_applyCapabilities (known : String → Bool) (data : Fields) (d : Device) :
    (applyCapabilities known data d).publishInterval = (reportedInterval data).getD d.publishInterval := by
  unfold applyCapabilities
  dsimp only
  split <;> rfl

theorem deviceId_applyCapabilities {known : String → Bool} {data : Fields} {device : Device} :
    (applyCapabilities known data device).deviceId = device.deviceId := by
  unfold applyCapabilities
  cases hadTimeoutAlert device <;> rfl

section Handlers
variable {R : World → World → Prop} {saves : Device → List DeviceField → Prop}
  {sends : String → Json → Prop} {logs : DeviceStatusLog → Prop} (within : Respected R saves sends logs)
  {env : Env}
  {deviceType deviceId : String} {payload : Payload}
include within

omit within in
theorem upholds_handleSensorMessage_body (closed : Closed R)
    (create : ∀ w, R w (w.apply
      (.createDevice { deviceId := deviceId, deviceType := deviceType, createdAt := env.now })))
    (body : ∀ data (device : Device) created, device.deviceId = deviceId →
      Upholds R (sensorBody env deviceType data device created)) :
    Upholds R (handleSensorMessage env deviceType deviceId payload) := by
  refine upholds_withObject closed (fun data =>
    Upholds.bind_returning closed ?_ returns_getOrCreateDevice ?_)
  · refine Upholds.bind closed (Upholds.read closed _) (fun found => ?_)
    cases found with
    | some device => exact Upholds.pure closed _
    | none => exact Upholds.bind closed (upholds_createDevice closed create) (fun _ => Upholds.pure closed _)
  · rintro ⟨device, created⟩ id
    exact body data device created id

theorem upholds_handleSensorMessage
    (create : ∀ w, R w (w.apply
      (.createDevice { deviceId := deviceId, deviceType := deviceType, createdAt := env.now })))
    (save : ∀ d fields, d.deviceId = deviceId → (∀ f ∈ fields, f ∈ sensorFields) → saves d fields)
    (log : ∀ row : DeviceStatusLog, row.device = deviceId → logs row)
    (wake : ∀ d : Device, d.deviceId = deviceId → WakeUpSends sends (commandTopic d))
    (diag : ∀ d : Device, d.deviceId = deviceId → sends (commandTopic d) (bareCommand "get_diag")) :
    Upholds R (handleSensorMessage env deviceType deviceId payload) :=
  upholds_handleSensorMessage_body within.closed create (fun _ device _ id =>
    upholds_sensorBody within (fun row same => log row (same.trans id))
      (fun d fields same names => save d fields (same.1.trans id) names) (fun _ => wake device id)
        (diag device id))

theorem upholds_handleCapabilitiesMessage
    (save : ∀ d : Device, d.deviceId = deviceId → saves d capabilitiesFields)
    (log : ∀ row : DeviceStatusLog, row.device = deviceId → logs row)
    (send : ∀ (d : Device) key value, sends (commandTopic d) (repushCommand key value)) :
    Upholds R (handleCapabilitiesMessage env deviceId payload) := by
  have closed := within.closed
  refine upholds_withObject closed (fun data => upholds_withDevice closed (fun before own =>
    Upholds.bind closed (Upholds.read closed _) (fun known => ?_)))
  have still : (applyCapabilities known data before).deviceId = deviceId :=
    deviceId_applyCapabilities.trans own
  exact Upholds.bind closed (Upholds.when closed (fun _ => within.addStatusLog (log _ still))) (fun _ =>
    Upholds.bind closed (within.saveDevice (save _ still)) (fun _ =>
    Upholds.bind closed (within.resolveRequests _ _ _ _ rfl) (fun _ =>
    Upholds.bind closed (within.resolveOtaUpdates _ _) (fun _ =>
    Upholds.when closed (fun _ => upholds_repushCalibration within.toIssued (send _))))))

end Handlers

/-! The handlers that only save the row, and the search for the command of an ack. -/

section Saves
variable {R : World → World → Prop} {saves : Device → List DeviceField → Prop}
  {sends : String → Json → Prop} (within : Issued R saves sends) {env : Env} {deviceId : String}
  {payload : Payload}
include within

theorem upholds_legacyCalibration {device : Device} {data : Fields}
    (save : ∀ d : Device, d.deviceId = device.deviceId → saves d [.calibration]) :
    Upholds R (legacyCalibration device data) := by
  have closed := within.closed
  unfold legacyCalibration
  cases legacyOffsets data ["temp", "humi", "press"] with
  | none => exact Upholds.fail closed _
  | some updates =>
    dsimp only
    split
    · exact Upholds.pure closed _
    · exact within.saveDevice (save _ rfl)

theorem upholds_ackLookup (save : ∀ d : Device, d.deviceId = deviceId → saves d [.calibration]) :
    Upholds R (ackLookup deviceId payload) := by
  have closed := within.closed
  refine upholds_withObject closed (fun data => upholds_withDevice closed (fun device own => ?_))
  dsimp only
  split
  · exact Upholds.bind closed (upholds_legacyCalibration within (fun d same => save d (same.trans own)))
      (fun _ => Upholds.pure closed _)
  · split
    · exact Upholds.pure closed _
    · exact Upholds.bind closed (Upholds.read closed _) (fun _ => Upholds.pure closed _)

theorem upholds_handleCommandsMessage
    (save : ∀ d : Device, d.deviceId = deviceId → saves d [.capabilities, .lastSeen]) :
    Upholds R (handleCommandsMessage env deviceId payload) :=
  upholds_withObject within.closed (fun _ => upholds_withDevice within.closed (fun _ own =>
    within.saveDevice (save _ own)))

theorem upholds_handleCalibrationMessage
    (save : ∀ d : Device, d.deviceId = deviceId → saves d [.calibration, .lastSeen]) :
    Upholds R (handleCalibrationMessage env deviceId payload) := by
  have closed := within.closed
  refine upholds_withObject closed (fun data => upholds_withDevice closed (fun device own => ?_))
  split
  · exact Upholds.fail closed _
  · exact within.saveDevice (save _ own)

end Saves

section Reports
variable {R : World → World → Prop} {saves : Device → List DeviceField → Prop}
  {sends : String → Json → Prop} {logs : DeviceStatusLog → Prop} (within : Recounted R saves sends logs)
  {env : Env} {deviceId : String} {payload : Payload}
include within

theorem upholds_handleStatusMessage
    (save : ∀ d : Device, d.deviceId = deviceId → saves d (alertFields ++ [.lastSeen]))
    (log : ∀ row : DeviceStatusLog, row.device = deviceId → logs row) :
    Upholds R (handleStatusMessage env deviceId payload) := by
  have closed := within.closed
  refine upholds_withObject closed (fun data => upholds_withDevice closed (fun device own => ?_))
  split
  · exact Upholds.pure closed _
  · have still : ∀ level, (applyStatus env.now level data device).deviceId = deviceId :=
      fun level => (deviceId_applyStatus _ level _ _).trans own
    exact Upholds.bind closed (within.saveDevice (save _ (still _)))
      (fun _ => upholds_announceCleared within (log _ (still _)))

theorem upholds_handleDiagMessage
    (save : ∀ d : Device, d.deviceId = deviceId → saves d (alertFields ++ [.lastSeen]))
    (log : ∀ row : DeviceStatusLog, row.device = deviceId → logs row) :
    Upholds R (handleDiagMessage env deviceId payload) := by
  have closed := within.closed
  refine upholds_withObject closed (fun data => upholds_withDevice closed (fun before own => ?_))
  split
  · exact Upholds.pure closed _
  · split
    · exact Upholds.fail closed _
    · exact Upholds.bind closed (within.addDiagLog _) (fun _ =>
        Upholds.bind closed (within.saveDevice (save _ own)) (fun _ =>
        Upholds.when closed (fun _ => upholds_announceCleared within (log _ own))))

end Reports

theorem emits_handleAckMessage {allowed : World → Effect → Prop} {saves : Device → List DeviceField → Prop}
    {sends : String → Json → Prop} (permits : Permits allowed saves sends) {env : Env} {deviceId : String}
    {payload : Payload} (save : ∀ d : Device, d.deviceId = deviceId → saves d [.calibration]) :
    Emits allowed (handleAckMessage env deviceId payload) := by
  refine Emits.bind (upholds_ackLookup permits.respected.toIssued save) (fun target => ?_)
  cases target with
  | none => exact Emits.pure _
  | some m => exact emits_markCommand (fun w => permits.mark w _ _ _ _)

section Marks
variable {status : CommandStatus} {message : String} {at_ : Time} {due : CommandLog → Bool}

theorem markCommands_congr {w : World} {p q : CommandLog → Bool} (same : ∀ r ∈ w.db.commandLogs.rows, p r = q r) :
    w.apply (.markCommands p status message at_) = w.apply (.markCommands q status message at_) :=
  congrArg (fun t => ({ w with db.commandLogs := t } : World)) (Serial.update_congr same)

theorem markCommands_none {w : World} {p : CommandLog → Bool} (missed : ∀ r ∈ w.db.commandLogs.rows, p r = false) :
    w.apply (.markCommands p status message at_) = w :=
  congrArg (fun t => ({ w with db.commandLogs := t } : World)) (Serial.update_none missed)

theorem markCommands_twice (w : World) {p q : CommandLog → Bool}
    (steady : ∀ r, q (r.mark status message at_) = q r) :
    (w.apply (.markCommands p status message at_)).apply (.markCommands q status message at_) =
      w.apply (.markCommands (fun r => p r || q r) status message at_) :=
  congrArg (fun t => ({ w with db.commandLogs := t } : World))
    (Serial.update_update w.db.commandLogs (fun _ => rfl) steady)

theorem outcome_markEach {rows : List CommandLog} (text : nulFree (pyTake 256 message) = true) (w : World) :
    outcome (forEach rows (fun cmd => when (due cmd) (markCommand cmd status message at_)) : Act Unit) w =
      (.ok (), w.apply (.markCommands (fun r => rows.any (fun c => due c && decide (r.id = c.id)))
        status message at_)) := by
  induction rows generalizing w with
  | nil => exact congrArg (Prod.mk _) (markCommands_none (fun _ _ => rfl)).symm
  | cons cmd rest ih =>
    have first : outcome (when (due cmd) (markCommand cmd status message at_)) w =
        (.ok (), w.apply (.markCommands (fun r => due cmd && decide (r.id = cmd.id)) status message at_)) := by
      cases due cmd with
      | false => exact congrArg (Prod.mk _) (markCommands_none (fun _ _ => rfl)).symm
      | true =>
        have marked := outcome_markCommand cmd status message at_ w
        rw [if_pos text] at marked
        exact marked
    unfold forEach
    rw [outcome_bind_ok first, ih, markCommands_twice _ (fun _ => rfl)]
    rfl

theorem after_markEach_refused {rows : List CommandLog} (text : nulFree (pyTake 256 message) ≠ true) (w : World) :
    after (forEach rows (fun cmd => when (due cmd) (markCommand cmd status message at_)) : Act Unit) w = w := by
  induction rows with
  | nil => rfl
  | cons cmd rest ih =>
    unfold forEach
    dsimp only
    cases due cmd with
    | false => exact ih
    | true =>
      have refused := outcome_markCommand cmd status message at_ w
      rw [if_neg text] at refused
      exact after_bind_error refused

/-- filter(device=device, status=pending, command__action=action), on one row -/
def pendingOf (deviceId : String) (action : Json) (r : CommandLog) : Bool :=
  decide (r.device = deviceId) && decide (r.status = .pending) && hasAction action r.command

theorem any_pendingNewestFirst {db : Db} {deviceId : String} {action : Json} {r : CommandLog}
    (member : r ∈ db.commandLogs.rows) :
    (pendingNewestFirst db deviceId action).any (fun c => due c && decide (r.id = c.id)) =
      (pendingOf deviceId action r && due r) := by
  have listed : ∀ c, c ∈ pendingNewestFirst db deviceId action ↔
      c ∈ db.commandLogs.rows ∧ pendingOf deviceId action c = true :=
    fun c => OrderBy.mem_descending.trans List.mem_filter
  rw [Bool.eq_iff_iff, List.any_eq_true, Bool.and_eq_true]
  constructor
  · rintro ⟨c, pending, chosen⟩
    obtain ⟨inside, selected⟩ := (listed c).mp pending
    rw [Bool.and_eq_true, decide_eq_true_eq] at chosen
    cases db.commandLogs.eq_of_id member inside chosen.2
    exact ⟨selected, chosen.1⟩
  · rintro ⟨selected, chosen⟩
    exact ⟨r, (listed r).mpr ⟨member, selected⟩, by simp [chosen]⟩

theorem outcome_markPending {deviceId : String} {action : Json} (text : nulFree (pyTake 256 message) = true)
    (w : World) :
    outcome (do
      let pending ← read (fun w => pendingNewestFirst w.db deviceId action)
      forEach pending (fun cmd => when (due cmd) (markCommand cmd status message at_)) : Act Unit) w =
      (.ok (), w.apply (.markCommands (fun r => pendingOf deviceId action r && due r) status message at_)) := by
  rw [outcome_bind_ok (outcome_read _ w), outcome_markEach text]
  exact congrArg (Prod.mk _) (markCommands_congr (fun _ => any_pendingNewestFirst))

theorem after_markPending {deviceId : String} {action : Json} (w : World) :
    after (do
      let pending ← read (fun w => pendingNewestFirst w.db deviceId action)
      forEach pending (fun cmd => when (due cmd) (markCommand cmd status message at_)) : Act Unit) w =
      if nulFree (pyTake 256 message) then
        w.apply (.markCommands (fun r => pendingOf deviceId action r && due r) status message at_)
      else w := by
  split
  · next text => exact congrArg Prod.snd (outcome_markPending text w)
  · next text => exact (after_read_bind _ _ w).trans (after_markEach_refused text w)

/-- The updates of an OTA that are overdue. -/
def overdueUpdate (env : Env) (device : Device) (r : CommandLog) : Bool :=
  pendingOf device.deviceId (.str "ota_update") r && decide (env.now - r.sentAt > seconds (otaTimeout device))

theorem outcome_checkOtaTimeouts (env : Env) (device : Device) (w : World) :
    outcome (checkOtaTimeouts env device) w = (.ok (), w.apply (.markCommands (overdueUpdate env device) .timeout
      ("No confirmation within " ++ toString (otaTimeout device) ++ "s") env.now)) :=
  outcome_markPending (nulFree_pyTake
    (nulFree_append (nulFree_append (by decide) (nulFree_toString _)) (by decide))) w

def confirmedUpdate (device : Device) (r : CommandLog) : Bool :=
  pendingOf device.deviceId (.str "ota_update") r && runsTarget device r.command

theorem outcome_resolveOtaUpdates {env : Env} {device : Device}
    (text : nulFree device.fwVersion = true) (w : World) :
    outcome (resolveOtaUpdates env device) w = (.ok (), w.apply (.markCommands (confirmedUpdate device) .success
      ("Running " ++ device.fwVersion) env.now)) :=
  outcome_markPending (nulFree_pyTake (nulFree_append (by decide) text)) w

end Marks

end SensorServer
