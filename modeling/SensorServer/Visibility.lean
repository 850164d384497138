import SensorServer.Reports
import SensorServer.Rollups
import SensorServer.Lib.Twin

/-! Two states that differ only in readings no guest may see, and the sensors
handler run on both: it never reads a reading, so it cannot tell them apart. -/
namespace SensorServer
open Program

def World.shows (w : World) (deviceId metric : String) : Bool :=
  (w.device? deviceId).any (fun d => d.isApproved && d.guestVisibleMetrics.contains metric)

def World.forget (w : World) : World :=
  { w with db.readings := [], db.hourly := [], db.daily := [] }

def World.shownReadings (w : World) : List SensorReading :=
  w.db.readings.filter (fun r => w.shows r.deviceId r.metric)

def World.shownRows (w : World) (view : Rollup) : List RollupRow :=
  (rollupRows w.db view).filter (fun r => w.shows r.deviceId r.metric)

/-- The states differ only in readings of devices not approved or of metrics not listed. -/
structure SameToGuest (w v : World) : Prop where
  rest : w.forget = v.forget
  readings : w.shownReadings = v.shownReadings
  rollups : ∀ view, w.shownRows view = v.shownRows view

namespace SameToGuest
variable {w v : World}

theorem devices (alike : SameToGuest w v) : w.db.devices = v.db.devices :=
  (congrArg (fun u : World => u.db.devices) alike.rest :)

theorem device? (alike : SameToGuest w v) (id : String) : w.device? id = v.device? id :=
  congrArg (Table.get? · id) alike.devices

theorem shows (alike : SameToGuest w v) (deviceId metric : String) :
    w.shows deviceId metric = v.shows deviceId metric :=
  congrArg (Option.any _) (alike.device? deviceId)

theorem commandLogs (alike : SameToGuest w v) : w.db.commandLogs = v.db.commandLogs :=
  (congrArg (fun u : World => u.db.commandLogs) alike.rest :)

theorem published (alike : SameToGuest w v) : w.published = v.published :=
  (congrArg (fun u : World => u.published) alike.rest :)

theorem broadcasts (alike : SameToGuest w v) : w.broadcasts = v.broadcasts :=
  (congrArg (fun u : World => u.broadcasts) alike.rest :)

end SameToGuest

/-- The changes of a sensors message: none decides what a guest may see or rewrites readings. -/
def Effect.Plain : Effect → Prop
  | .createDevice d => d.isApproved = false
  | .saveDevice _ fields => .isApproved ∉ fields ∧ .guestVisibleMetrics ∉ fields
  | .addStatusLog _ | .addCommandLog .. | .markCommands .. | .addReadings _ | .publish _
  | .broadcast _ => True
  | _ => False

theorem shows_apply {e : Effect} (plain : e.Plain) (w : World) (deviceId metric : String) :
    (w.apply e).shows deviceId metric = w.shows deviceId metric := by
  cases e with
  | createDevice d =>
    have pending : d.isApproved = false := plain
    by_cases same : d.deviceId = deviceId
    · subst same
      cases free : w.device? d.deviceId with
      | none =>
        have added : (w.apply (.createDevice d)).device? d.deviceId = some d := Table.get?_insert_new free
        simp [World.shows, added, free, pending]
      | some row =>
        have kept : w.apply (.createDevice d) = w := by simp [World.apply, Table.insert_taken free]
        rw [kept]
    · have kept : (w.apply (.createDevice d)).device? deviceId = w.device? deviceId :=
        Table.get?_insert_other same
      rw [World.shows, kept, World.shows]
  | saveDevice d fields =>
    obtain ⟨approval, listing⟩ := plain
    rw [World.shows, device?_saveDevice, World.shows]
    cases w.device? deviceId with
    | none => rfl
    | some row =>
      by_cases same : row.deviceId = d.deviceId
      · simp [same, approval, listing]
      · simp [same]
  | addStatusLog | addCommandLog | markCommands | addReadings | publish | broadcast => rfl
  | _ => exact plain.elim

theorem forget_apply {w v : World} (e : Effect) (rest : w.forget = v.forget) :
    (w.apply e).forget = (v.apply e).forget := by
  have step : ∀ u : World, (u.apply e).forget = (u.forget.apply e).forget := by
    intro u
    cases e <;> first | rfl | (rename_i view _; cases view <;> rfl)
  rw [step w, step v, rest]

theorem alike_apply {w v : World} {e : Effect} (plain : e.Plain) (alike : SameToGuest w v) :
    SameToGuest (w.apply e) (v.apply e) := by
  have shown : ∀ (u : World) (rows : List SensorReading),
      rows.filter (fun r => (u.apply e).shows r.deviceId r.metric) =
        rows.filter (fun r => u.shows r.deviceId r.metric) :=
    fun u rows => List.filter_congr (fun r _ => shows_apply plain u r.deviceId r.metric)
  refine ⟨forget_apply e alike.rest, ?_, fun view => ?_⟩
  · have readings := alike.readings
    unfold World.shownReadings at readings ⊢
    rw [shown w, shown v]
    cases e with
    | addReadings rows =>
      have same : rows.filter (fun r => w.shows r.deviceId r.metric) =
          rows.filter (fun r => v.shows r.deviceId r.metric) :=
        List.filter_congr (fun r _ => alike.shows r.deviceId r.metric)
      simp only [World.apply, List.filter_append, readings, same]
    | createDevice | saveDevice | addStatusLog | addCommandLog | markCommands | publish | broadcast =>
      exact readings
    | _ => exact plain.elim
  · have rollups := alike.rollups view
    unfold World.shownRows at rollups ⊢
    simp only [shows_apply plain]
    cases e with
    | createDevice | saveDevice | addStatusLog | addCommandLog | markCommands | addReadings | publish
    | broadcast => cases view <;> exact rollups
    | _ => exact plain.elim

abbrev Blind {α : Type} (m : Act α) : Prop := Twin SameToGuest m

section Blind
variable {env : Env} {device : Device}

theorem blind_emit {e : Effect} (plain : e.Plain) : Blind (emit e) :=
  Twin.write (fun _ _ => alike_apply plain)

theorem blind_saveDevice {fields : List DeviceField}
    (columns : .isApproved ∉ fields ∧ .guestVisibleMetrics ∉ fields) : Blind (saveDevice device fields) := by
  unfold saveDevice
  split
  · exact blind_emit columns
  · exact Twin.fail _

theorem blind_createDevice (pending : device.isApproved = false) : Blind (createDevice device) := by
  refine Twin.bind (Twin.read (fun _ _ alike => alike.device? _)) (fun existing => ?_)
  cases existing with
  | some _ => exact Twin.fail _
  | none =>
    dsimp only
    split
    · exact blind_emit pending
    · exact Twin.fail _

theorem blind_addStatusLog (row : DeviceStatusLog) : Blind (addStatusLog row) := by
  unfold addStatusLog
  split
  · exact blind_emit trivial
  · exact Twin.fail _

theorem blind_addCommandLog {id : String} {command : Json} {sentBy : Option String} :
    Blind (addCommandLog env id command sentBy) := by
  unfold addCommandLog
  split
  · exact Twin.fail _
  · split
    · exact blind_emit trivial
    · exact Twin.fail _

theorem blind_markCommand {row : CommandLog} {status : CommandStatus} {message : String} {at_ : Time} :
    Blind (markCommand row status message at_) := by
  unfold markCommand
  split
  · exact blind_emit trivial
  · exact Twin.fail _

theorem blind_mqttPublish {topic : String} {payload : Json} {retain : Bool} {qos : Nat} :
    Blind (mqttPublish env topic payload retain qos) := by
  refine Twin.bind (Twin.read (fun _ _ alike => by rw [alike.published])) (fun taken =>
    Twin.bind (blind_emit trivial) (fun _ => ?_))
  split
  · exact Twin.pure _
  · exact Twin.fail _

theorem blind_groupSend (e : ChannelEvent) : Blind (groupSend env e) := by
  refine Twin.bind (Twin.read (fun _ _ alike => by rw [alike.broadcasts])) (fun taken => ?_)
  split
  · exact blind_emit trivial
  · exact Twin.fail _

theorem blind_requestCapabilities {sentBy : Option String} {logCommand : Bool} :
    Blind (requestCapabilities env device sentBy logCommand) := by
  refine Twin.bind (Twin.attempt blind_mqttPublish) (fun sent => ?_)
  split
  · exact Twin.bind (Twin.attempt (Twin.bind (blind_saveDevice (by decide))
      (fun _ => Twin.when (fun _ => blind_addCommandLog)))) (fun _ => Twin.pure _)
  · exact Twin.pure _

theorem blind_requestBare (name : String) : Blind (requestBare env device name) :=
  Twin.bind (Twin.attempt blind_mqttPublish) (fun _ => Twin.pure _)

theorem blind_maybeRequestDiag : Blind (maybeRequestDiag env device) := by
  unfold maybeRequestDiag
  split
  · exact Twin.bind (blind_requestBare _) (fun _ =>
      Twin.bind (blind_saveDevice (by decide)) (fun _ => Twin.pure _))
  · exact Twin.pure _

theorem blind_checkOtaTimeouts : Blind (checkOtaTimeouts env device) :=
  Twin.bind (Twin.read (fun _ _ alike => by
      simp only [pendingNewestFirst, pendingCommands, alike.commandLogs]))
    (fun _ => Twin.forEach (fun _ _ => Twin.when (fun _ => blind_markCommand)))

theorem blind_resolveCapabilityRequests {status : CommandStatus} {message : String} :
    Blind (resolveCapabilityRequests env device status message) := by
  unfold resolveCapabilityRequests
  split
  · exact blind_emit trivial
  · exact Twin.fail _

theorem blind_flushPendingCommands : Blind (flushPendingCommands env device) :=
  Twin.bind (Twin.read (fun _ _ alike => by simp only [flushRows, alike.commandLogs]))
    (fun _ => Twin.forEach (fun _ _ => Twin.bind (Twin.attempt blind_mqttPublish) (fun _ => Twin.pure _)))

theorem blind_announceCleared : Blind (announceCleared env device) :=
  Twin.bind (blind_addStatusLog _) (fun _ => blind_groupSend _)

theorem blind_wakeUp : Blind (wakeUp env device) :=
  Twin.bind blind_flushPendingCommands (fun _ => Twin.bind blind_requestCapabilities (fun _ =>
    Twin.bind (blind_requestBare _) (fun _ =>
      Twin.bind (Twin.when (fun _ => blind_requestBare _)) (fun _ => Twin.pure _))))

theorem blind_checkCapabilitiesTimeout : Blind (checkCapabilitiesTimeout env device) := by
  unfold checkCapabilitiesTimeout
  split
  · exact Twin.bind (blind_saveDevice (by decide)) (fun _ => Twin.bind (blind_addStatusLog _) (fun _ =>
      Twin.bind blind_resolveCapabilityRequests (fun _ => Twin.pure _)))
  · exact Twin.pure _

theorem blind_collectReadings {deviceType : String} (data : Fields) :
    Blind (collectReadings env device deviceType data) := by
  induction data with
  | nil => exact Twin.pure _
  | cons entry rest ih =>
    obtain ⟨raw, value⟩ := entry
    unfold collectReadings
    split
    · exact ih
    · split
      · exact ih
      · exact Twin.fail _
      · exact Twin.bind (blind_groupSend _) (fun _ => Twin.bind ih (fun _ => Twin.pure _))

theorem blind_trackBattery (stored : PyFloat) : Blind (trackBattery env device stored) :=
  Twin.bind (Twin.when (fun _ => blind_saveDevice (by decide))) (fun _ => Twin.when (fun _ =>
    Twin.bind (blind_saveDevice (by decide)) (fun _ => blind_announceCleared)))

theorem blind_storeReadings {deviceType : String} {data : Fields} :
    Blind (storeReadings env device deviceType data) := by
  refine Twin.bind (blind_collectReadings data) (fun readings => Twin.when (fun _ =>
    Twin.bind (blind_emit trivial) (fun _ => ?_)))
  cases storedBattery readings with
  | none => exact Twin.pure _
  | some stored => exact blind_trackBattery stored

theorem blind_sensorBody {deviceType : String} {data : Fields} {created : Bool} :
    Blind (sensorBody env deviceType data device created) := by
  unfold sensorBody
  have columns : .isApproved ∉ DeviceField.lastSeen :: approvedFields ∧
    .guestVisibleMetrics ∉ DeviceField.lastSeen :: approvedFields := by decide
  have names := (reconcileAlert_spec env.now
    (show SameUnit device { device with lastSeen := some env.now } from ⟨rfl, rfl⟩)).2
  refine Twin.bind (Twin.when (fun _ => blind_announceCleared)) (fun _ => Twin.bind
    (blind_saveDevice ⟨fun h => columns.1 (names _ h), fun h => columns.2 (names _ h)⟩) (fun _ =>
    Twin.bind blind_checkOtaTimeouts (fun _ => Twin.bind ?_ (fun _ => Twin.when (fun _ =>
      Twin.bind blind_maybeRequestDiag (fun _ => blind_storeReadings))))))
  split
  · exact blind_wakeUp
  · exact blind_checkCapabilitiesTimeout

theorem blind_getOrCreateDevice {deviceType deviceId : String} :
    Blind (getOrCreateDevice env deviceType deviceId) := by
  refine Twin.bind (Twin.read (fun _ _ alike => alike.device? _)) (fun found => ?_)
  cases found with
  | some device => exact Twin.pure _
  | none => exact Twin.bind (blind_createDevice rfl) (fun _ => Twin.pure _)

theorem blind_handleSensorMessage {deviceType deviceId : String} {payload : Payload} :
    Blind (handleSensorMessage env deviceType deviceId payload) := by
  unfold handleSensorMessage withObject
  split
  · exact Twin.pure _
  · split
    · exact Twin.pure _
    · exact Twin.fail _
    · exact Twin.bind blind_getOrCreateDevice (fun _ => blind_sensorBody)
    · exact Twin.pure _

end Blind

def takesEntry (env : Env) (entry : String × Json) : Bool :=
  metricName entry.1 && pyFloat env entry.2 ≠ .skipped

theorem collectReadings_filter {env : Env} {device : Device} {deviceType : String}
    {keep : String × Json → Bool} {data : Fields}
    (skips : ∀ entry ∈ data, keep entry = false → takesEntry env entry = false) :
    collectReadings env device deviceType (data.filter keep) = collectReadings env device deviceType data := by
  induction data with
  | nil => rfl
  | cons entry rest ih =>
    have ih := ih (fun e member => skips e (List.mem_cons_of_mem _ member))
    obtain ⟨raw, value⟩ := entry
    cases kept : keep (raw, value) with
    | false =>
      have skipped := skips (raw, value) List.mem_cons_self kept
      rw [List.filter_cons_of_neg (by simp [kept]), ih]
      rw [collectReadings]
      cases named : metricName raw with
      | false => rfl
      | true =>
        have none : pyFloat env value = .skipped := by simpa [takesEntry, named] using skipped
        rw [none]
        rfl
    | true =>
      rw [List.filter_cons_of_pos kept, collectReadings, collectReadings, ih]

theorem sensorBody_congr {env : Env} {device : Device} {deviceType : String} {created : Bool}
    {data other : Fields}
    (same : ∀ d, collectReadings env d deviceType data = collectReadings env d deviceType other) :
    sensorBody env deviceType data device created = sensorBody env deviceType other device created := by
  unfold sensorBody storeReadings
  simp only [same]

theorem isApproved_reconcileAlert (now : Time) (device : Device) :
    (reconcileAlert now device).1.isApproved = device.isApproved := by
  rcases reconcileAlert_cases now device with h | h | h <;> simp [h, Device.clearAlert]

theorem returns_approval {env : Env} {device : Device} (wakes : Bool) :
    Returns (fun d => d.isApproved = device.isApproved)
      (if wakes then wakeUp env device else checkCapabilitiesTimeout env device) := by
  split
  · exact Returns.mono (by rintro _ ⟨at_, rfl⟩; rfl) returns_wakeUp
  · unfold checkCapabilitiesTimeout
    split
    · exact Returns.bind (fun _ => Returns.bind (fun _ => Returns.bind (fun _ => Returns.pure rfl)))
    · exact Returns.pure rfl

theorem sensorBody_pending {env : Env} {device : Device} {deviceType : String} {created : Bool}
    {data other : Fields} (pending : device.isApproved = false) (w : World) :
    outcome (sensorBody env deviceType data device created) w =
      outcome (sensorBody env deviceType other device created) w := by
  unfold sensorBody
  have approval := isApproved_reconcileAlert env.now { device with lastSeen := some env.now }
  dsimp only
  generalize reconcileAlert env.now { device with lastSeen := some env.now } = reconciled at approval ⊢
  refine outcome_bind_congr (fun _ _ _ => outcome_bind_congr (fun _ _ _ => outcome_bind_congr
    (fun _ _ _ => outcome_bind_congr (fun d t run => ?_))))
  have kept : d.isApproved = false := (returns_approval _ _ d t run).trans (approval.trans pending)
  rw [kept]
  rfl

theorem device?_of_getOrCreateDevice {env : Env} {deviceType deviceId : String} {w v : World}
    {result : Device × Bool} (run : outcome (getOrCreateDevice env deviceType deviceId) w = (.ok result, v)) :
    w.device? deviceId = some result.1 ∨ result.1.isApproved = false := by
  unfold getOrCreateDevice at run
  rw [outcome_bind_ok (outcome_read _ w)] at run
  cases known : w.device? deviceId with
  | some device =>
    rw [known] at run
    cases run
    exact Or.inl rfl
  | none =>
    rw [known] at run
    obtain ⟨⟨⟩, t, -, last⟩ := outcome_bind_eq_ok.mp run
    cases last
    exact Or.inr rfl

def AgreeOnShown (w : World) (deviceId : String) (data other : Fields) : Prop :=
  data.filter (fun entry => w.shows deviceId (resolveAlias entry.1)) =
    other.filter (fun entry => w.shows deviceId (resolveAlias entry.1))

/-- The handler takes no entry that a guest may not see; it takes none at all from a
device that is not approved. -/
def NothingHidden (env : Env) (w : World) (deviceId : String) (data : Fields) : Prop :=
  ∀ device, w.device? deviceId = some device → device.isApproved = true →
    ∀ entry ∈ data, takesEntry env entry = true → w.shows deviceId (resolveAlias entry.1) = true

theorem handleSensorMessage_congr {env : Env} {deviceType deviceId : String} {payload twin : Payload}
    {data other : Fields} {w : World} (left : payload.object? = some data) (right : twin.object? = some other)
    (agree : AgreeOnShown w deviceId data other) (clean : NothingHidden env w deviceId data)
    (clean' : NothingHidden env w deviceId other) :
    outcome (handleSensorMessage env deviceType deviceId payload) w =
      outcome (handleSensorMessage env deviceType deviceId twin) w := by
  unfold handleSensorMessage
  rw [withObject_object () _ left, withObject_object () _ right]
  refine outcome_bind_congr (fun result v run => ?_)
  obtain ⟨device, created⟩ := result
  by_cases approved : device.isApproved = true
  · have known : w.device? deviceId = some device :=
      (device?_of_getOrCreateDevice run).resolve_right (by simp [approved])
    have taken : ∀ {fields : Fields}, NothingHidden env w deviceId fields → ∀ entry ∈ fields,
        w.shows deviceId (resolveAlias entry.1) = false → takesEntry env entry = false := by
      intro fields hidden entry member unseen
      by_contra takes
      rw [hidden device known approved entry member (by simpa using takes)] at unseen
      cases unseen
    have same : ∀ d, collectReadings env d deviceType data = collectReadings env d deviceType other := by
      intro d
      rw [← collectReadings_filter (taken clean), ← collectReadings_filter (taken clean')]
      exact congrArg _ agree
    dsimp only
    rw [sensorBody_congr same]
  · exact sensorBody_pending (by simpa using approved) v

end SensorServer
