import SensorServer.Columns
import SensorServer.WakeUp

/-! The latch of a device alert. Status and diag messages set it; the sensors and the
capabilities handlers write the same three columns for the server's own alert. -/
namespace SensorServer
open Program

def acceptedReadings (env : Env) (deviceId : String) : Fields → List SensorReading
  | [] => []
  | (raw, value) :: rest =>
    match metricName raw, pyFloat env value with
    | true, .value f => ⟨env.now, deviceId, resolveAlias raw, f⟩ :: acceptedReadings env deviceId rest
    | _, _ => acceptedReadings env deviceId rest

theorem returns_collectReadings {env : Env} {device : Device} {deviceType : String} (data : Fields) :
    Returns (fun readings => readings = acceptedReadings env device.deviceId data)
      (collectReadings env device deviceType data) := by
  induction data with
  | nil => exact Returns.pure rfl
  | cons entry rest ih =>
    obtain ⟨raw, value⟩ := entry
    unfold collectReadings acceptedReadings
    cases metricName raw with
    | false => exact ih
    | true =>
      cases pyFloat env value with
      | skipped => exact ih
      | overflow =>
        rintro s a t ⟨⟩
      | value f =>
        refine Returns.bind (fun _ => Returns.bind_returning ih ?_)
        rintro _ rfl
        exact Returns.pure rfl

def sentBattery (env : Env) (deviceId : String) (data : Fields) : Option PyFloat :=
  storedBattery (acceptedReadings env deviceId data)

def endsLowBattery (device : Device) (stored : PyFloat) : Bool :=
  lowBatteryResolved { device with batteryPercent := some stored }

def Device.alertColumns (d : Device) : AlertLevel × String × Option Time :=
  (d.alertLevel, d.alertMessage, d.alertUpdatedAt)

def KeepsAlert (id : String) (w v : World) : Prop :=
  (v.device? id).map Device.alertColumns = (w.device? id).map Device.alertColumns

theorem keepsAlert_closed (id : String) : Closed (KeepsAlert id) :=
  ⟨fun _ => rfl, fun h k => k.trans h⟩

def SparesAlert (id : String) (d : Device) (fields : List DeviceField) : Prop :=
  d.deviceId = id → ∀ f ∈ fields, f ∉ alertFields

theorem alertColumns_copyFields {src row : Device} {fields : List DeviceField}
    (spares : ∀ f ∈ fields, f ∉ alertFields) :
    (src.copyFields fields row).alertColumns = row.alertColumns := by
  have level : DeviceField.alertLevel ∉ fields := fun h => spares _ h (by decide)
  have text : DeviceField.alertMessage ∉ fields := fun h => spares _ h (by decide)
  have time : DeviceField.alertUpdatedAt ∉ fields := fun h => spares _ h (by decide)
  simp [Device.alertColumns, level, text, time]

theorem alertColumns_copyFields_same {src row : Device} {fields : List DeviceField}
    (same : src.alertColumns = row.alertColumns) :
    (src.copyFields fields row).alertColumns = row.alertColumns := by
  simp only [Device.alertColumns, Prod.mk.injEq] at same
  simp [Device.alertColumns, same]

theorem keepsAlert_saveDevice {id : String} {d : Device} {fields : List DeviceField}
    (spares : SparesAlert id d fields) (w : World) : KeepsAlert id w (w.apply (.saveDevice d fields)) := by
  unfold KeepsAlert
  rw [device?_saveDevice]
  cases found : w.device? id with
  | none => rfl
  | some row =>
    have key : row.deviceId = id := Table.key_get? found
    simp only [Option.map_some]
    split
    · next same =>
      rw [alertColumns_copyFields (spares (same.symm.trans key))]
    · rfl

theorem permits_keepsAlert (id : String) :
    Permits (fun w e => KeepsAlert id w (w.apply e)) (SparesAlert id) (fun _ _ => True) where
  save := fun w _ _ spares => keepsAlert_saveDevice spares w
  publish := fun _ _ _ => rfl
  mark := fun _ _ _ _ _ => rfl
  history := fun _ e history => by cases e <;> first | rfl | cases history

section Latched
variable {env : Env} {device : Device} {id : String}

theorem reconcileAlert_latched {now t : Time} (raised : device.alertLevel.raised = true)
    (text : device.alertMessage ≠ noCapabilitiesAlert) (since : device.alertUpdatedAt = some t)
    (fresh : now - t ≤ device.alertReassertWindow) :
    reconcileAlert now device = (device, [], false) := by
  unfold reconcileAlert
  rw [if_neg text, if_pos raised, since]
  have within : ¬ now - t > device.alertReassertWindow := not_lt.mpr fresh
  exact if_neg within

theorem tracked_battery (device : Device) (stored : PyFloat) :
    (if batteryChanged stored device then { device with batteryPercent := some stored } else device) =
      { device with batteryPercent := some stored } := by
  cases changed : batteryChanged stored device with
  | true => rfl
  | false =>
    unfold batteryChanged at changed
    cases old : device.batteryPercent with
    | none => simp [old] at changed
    | some percent =>
      rw [old] at changed
      have equal : stored = percent := PyFloat.eq_of_eqv (by simpa using changed)
      simp [equal, ← old]

theorem emits_trackBattery_latched {stored : PyFloat}
    (unresolved : endsLowBattery device stored = false) :
    Emits (fun w e => KeepsAlert id w (w.apply e)) (trackBattery env device stored) := by
  have battery : SparesAlert id { device with batteryPercent := some stored } [.batteryPercent] :=
    fun _ => by decide
  unfold trackBattery
  dsimp only
  unfold endsLowBattery at unresolved
  rw [tracked_battery, unresolved]
  exact Emits.bind (Emits.when (fun _ => (permits_keepsAlert id).respected.saveDevice battery))
    (fun _ => Emits.pure _)

theorem emits_storeReadings_latched {deviceType : String} {data : Fields}
    (unresolved : ∀ stored, sentBattery env device.deviceId data = some stored →
      endsLowBattery device stored = false) :
    Emits (fun w e => KeepsAlert id w (w.apply e)) (storeReadings env device deviceType data) := by
  unfold storeReadings
  refine Emits.bind_returning (upholds_collectReadings (permits_keepsAlert id).respected.toRecounted data)
    (returns_collectReadings data) ?_
  rintro _ rfl
  refine Emits.when (fun _ => Emits.bind (emits_emit (fun w => rfl)) (fun _ => ?_))
  cases sent : storedBattery (acceptedReadings env device.deviceId data) with
  | none => exact Emits.pure _
  | some stored => exact emits_trackBattery_latched (unresolved stored sent)

/-- The instances a sensors message works with while it leaves the alert alone. -/
structure Alike (device d : Device) : Prop where
  id : d.deviceId = device.deviceId
  approved : d.isApproved = device.isApproved
  level : d.alertLevel = device.alertLevel
  text : d.alertMessage = device.alertMessage

theorem Alike.endsLowBattery {d : Device} (alike : Alike device d) (stored : PyFloat) :
    SensorServer.endsLowBattery d stored = SensorServer.endsLowBattery device stored := by
  unfold SensorServer.endsLowBattery lowBatteryResolved Device.batteryStatus
  rw [show ({ d with batteryPercent := some stored } : Device).alertLevel = device.alertLevel from alike.level,
    show ({ d with batteryPercent := some stored } : Device).alertMessage = device.alertMessage from alike.text]

theorem checkCapabilitiesTimeout_answered (answered : capabilitiesOverdue device env.now = false) :
    checkCapabilitiesTimeout env { device with lastSeen := some env.now } =
      pure { device with lastSeen := some env.now } := by
  have overdue : capabilitiesOverdue { device with lastSeen := some env.now } env.now = false := answered
  unfold checkCapabilitiesTimeout
  rw [overdue]
  rfl

theorem emits_sensorBody_latched {deviceType : String} {data : Fields}
    (latched : reconcileAlert env.now { device with lastSeen := some env.now } =
      ({ device with lastSeen := some env.now }, [], false))
    (answered : device.isOnline env.now = true → capabilitiesOverdue device env.now = false)
    (unresolved : device.isApproved = true → ∀ stored,
      sentBattery env device.deviceId data = some stored → endsLowBattery device stored = false) :
    Emits (fun w e => KeepsAlert id w (w.apply e)) (sensorBody env deviceType data device false) := by
  have permits := permits_keepsAlert id
  unfold sensorBody
  dsimp only
  rw [latched]
  have seen : SparesAlert id { device with lastSeen := some env.now } [.lastSeen] := fun _ => by decide
  refine Emits.bind (Emits.pure _) (fun _ => Emits.bind (permits.respected.saveDevice seen) (fun _ =>
    Emits.bind (permits.respected.checkOtaTimeouts _ _) (fun _ => ?_)))
  refine @Emits.bind_returning _ _ _ _ _ (Alike device) ?_ ?_ ?_
  · split
    · exact upholds_wakeUp permits.respected.toIssued (fun _ => by decide)
        ⟨fun _ _ => trivial, trivial, trivial, trivial⟩
    · next awake =>
      rw [checkCapabilitiesTimeout_answered (answered (by simpa using awake))]
      exact Emits.pure _
  · split
    · refine Returns.mono ?_ returns_wakeUp
      rintro _ ⟨at_, rfl⟩
      exact ⟨rfl, rfl, rfl, rfl⟩
    · next awake =>
      rw [checkCapabilitiesTimeout_answered (answered (by simpa using awake))]
      exact Returns.pure ⟨rfl, rfl, rfl, rfl⟩
  · intro d alike
    refine Emits.when (fun approved => ?_)
    refine Emits.bind_returning (upholds_maybeRequestDiag permits.respected.toIssued trivial (fun _ => by decide))
      returns_maybeRequestDiag ?_
    rintro _ ⟨asked, rfl⟩
    refine emits_storeReadings_latched (fun stored sent => ?_)
    have still : endsLowBattery d stored = endsLowBattery device stored := alike.endsLowBattery stored
    rw [alike.approved] at approved
    dsimp only at sent
    rw [alike.id] at sent
    exact still.trans (unresolved approved stored sent)

end Latched

theorem keepsAlert_other {id : String} {d : Device} {fields : List DeviceField} (other : d.deviceId ≠ id) :
    SparesAlert id d fields :=
  fun same => absurd same other

theorem keepsAlert_saveReport {id : String} {w : World} {saves : Option (Device × List DeviceField)}
    (spares : ∀ d fields, saves = some (d, fields) → SparesAlert id d fields) :
    KeepsAlert id w (saveReport w saves) := by
  cases saves with
  | none => rfl
  | some pair =>
    obtain ⟨d, fields⟩ := pair
    rw [saveReport_some]
    split
    · exact keepsAlert_saveDevice (spares d fields rfl) w
    · rfl

theorem KeepsAlert.of_devices {id : String} {u v w : World} (keeps : KeepsAlert id u v)
    (same : w.db.devices = v.db.devices) : KeepsAlert id u w := by
  unfold KeepsAlert World.device? at *
  rw [same]
  exact keeps

theorem respected_keepsAlert (id : String) :
    Respected (KeepsAlert id) (SparesAlert id) (fun _ _ => True) (fun _ => True) where
  toServiced := Serviced.of_marks (keepsAlert_closed id) (fun w _ _ spares => keepsAlert_saveDevice spares w)
    (fun _ _ _ => rfl) (fun _ _ _ _ _ _ => rfl)
  history := fun _ e history _ => by cases e <;> first | rfl | cases history

theorem deliver_other {id : String} {d : Delivery} (other : d.deviceId ≠ id) (w : World) :
    KeepsAlert id w (deliver w d) := by
  have created : ∀ v, KeepsAlert id v (v.apply (.createDevice
      { deviceId := d.deviceId, deviceType := d.deviceType, createdAt := d.env.now })) := by
    intro v
    unfold KeepsAlert World.device? World.apply
    exact congrArg _ (Table.get?_insert_other other)
  exact deliver_within (respected_keepsAlert id) created (fun _ _ _ _ _ => rfl)
    (fun saved _ own _ => keepsAlert_other (own ▸ other)) (fun _ _ => trivial) w

structure Alert where
  level : AlertLevel
  text : String
  since : Time
  deriving DecidableEq

def reportedAlert (w : World) (d : Delivery) : Option (Option Alert) :=
  if (d.kind = .status ∨ d.kind = .diag) ∧ accepted w d = true then
    (report w d).map (fun saves =>
      if saves.1.alertLevel.raised then some ⟨saves.1.alertLevel, saves.1.alertMessage, d.env.now⟩ else none)
  else none

/-- A sensors message releases an alert that was not re-asserted within the window,
and a low battery warning when its battery level is fine. -/
def Alert.released (a : Alert) (env : Env) (row : Device) (data : Fields) : Bool :=
  decide (env.now - a.since > row.alertReassertWindow) ||
  (row.isApproved && (sentBattery env row.deviceId data).any (endsLowBattery row))

structure Watch where
  world : World
  latched : Option Alert

def Watch.deliver (id : String) (s : Watch) (d : Delivery) : Watch where
  world := SensorServer.deliver s.world d
  latched :=
    if d.deviceId ≠ id then s.latched
    else match reportedAlert s.world d with
      | some reported => reported
      | none =>
        match d.kind, d.payload.object?, s.world.device? id with
        | .sensors, some data, some row =>
          if s.latched.any (fun a => a.released d.env row data) then none else s.latched
        | _, _, _ => s.latched

def Watch.Holds (id : String) (s : Watch) : Prop :=
  ∀ a, s.latched = some a → ∃ row, s.world.device? id = some row ∧ row.alert = (a.level, a.text)

def Watch.Tracks (id : String) (s : Watch) : Prop :=
  ∀ a, s.latched = some a → a.level.raised = true ∧
    (s.world.device? id).map Device.alertColumns = some (a.level, a.text, some a.since)

/-- The messages that make the server's own alert write over a latched one. -/
def Watch.disturbed (id : String) (s : Watch) (d : Delivery) : Bool :=
  match s.latched, d.payload.object?, s.world.device? id with
  | some a, some data, some row =>
    decide (d.deviceId = id) && match d.kind with
      | .sensors => !a.released d.env row data &&
        (decide (a.text = noCapabilitiesAlert) ||
          (row.isOnline d.env.now && capabilitiesOverdue row d.env.now))
      | .capabilities => decide (a.level = .error) && decide (a.text = noCapabilitiesAlert)
      | _ => false
  | _, _, _ => false

theorem Watch.Tracks.holds {id : String} {s : Watch} (tracks : s.Tracks id) : s.Holds id := by
  intro a latched
  obtain ⟨-, columns⟩ := tracks a latched
  obtain ⟨row, found, same⟩ := Option.map_eq_some_iff.mp columns
  refine ⟨row, found, ?_⟩
  simp only [Device.alertColumns, Prod.mk.injEq] at same
  simp [Device.alert, same.1, same.2.1]

theorem Watch.Tracks.kept {id : String} {s t : Watch} (tracks : s.Tracks id)
    (latch : ∀ a, t.latched = some a → s.latched = some a)
    (keeps : ∀ a, t.latched = some a → KeepsAlert id s.world t.world) : t.Tracks id := by
  intro a latched
  obtain ⟨raised, columns⟩ := tracks a (latch a latched)
  exact ⟨raised, (keeps a latched).trans columns⟩

theorem heard_alert {d : Delivery} {data : Fields} {device saved : Device} {fields : List DeviceField}
    (kind : d.kind = .status ∨ d.kind = .diag) (h : heard d data device = some (saved, fields)) :
    fields = alertFields ++ [.lastSeen] ∧
      (saved.alertLevel.raised = true → saved.alertUpdatedAt = some d.env.now) := by
  unfold heard at h
  rcases kind with kind | kind
  · rw [kind] at h
    obtain ⟨level, -, same⟩ := Option.map_eq_some_iff.mp h
    cases same
    refine ⟨rfl, ?_⟩
    unfold applyStatus
    split
    · exact fun _ => rfl
    · intro raised
      cases raised
  · rw [kind] at h
    dsimp only at h
    split at h
    · cases h
    · split at h
      · cases h
      · split at h
        · cases h
          refine ⟨rfl, fun raised => ?_⟩
          unfold applyDiag at raised ⊢
          dsimp only at raised ⊢
          rw [if_pos raised]
        · cases h

theorem heard_spares {d : Delivery} {data : Fields} {device saved : Device} {fields : List DeviceField}
    (kind : d.kind = .commands ∨ d.kind = .calibration) (h : heard d data device = some (saved, fields))
    (id : String) : SparesAlert id saved fields := by
  unfold heard at h
  rcases kind with kind | kind
  · rw [kind] at h
    cases h
    exact fun _ => by decide
  · rw [kind] at h
    obtain ⟨mirror, -, same⟩ := Option.map_eq_some_iff.mp h
    cases same
    exact fun _ => by decide

section Step
variable {id : String} {s : Watch} {d : Delivery}

theorem tracks_reported (own : d.deviceId = id) {reported : Option Alert}
    (told : reportedAlert s.world d = some reported) : (s.deliver id d).Tracks id := by
  intro a latched
  have new : reported = some a := by
    simpa [Watch.deliver, own, told] using latched
  unfold reportedAlert at told
  split at told
  swap
  · cases told
  next conditions =>
  obtain ⟨kind, valid⟩ := conditions
  obtain ⟨⟨saved, fields⟩, saves, value⟩ := Option.map_eq_some_iff.mp told
  obtain ⟨-, data, device, -, found, heard_⟩ := report_saves saves
  obtain ⟨same, since⟩ := heard_alert kind heard_
  rw [new] at value
  dsimp only at value
  split at value
  swap
  · cases value
  next raised =>
  cases value
  have isReport : d.kind.isReport = true := by rcases kind with k | k <;> rw [k] <;> rfl
  have taken : fields.all saved.accepts = true := by simpa [accepted, saves] using valid
  have after_ : (s.deliver id d).world.db.devices = (s.world.apply (.saveDevice saved fields)).db.devices := by
    have spec := (deliver_report (w := s.world) isReport).devices
    rw [saves, saveReport_some, if_pos taken] at spec
    exact spec
  have row : (s.deliver id d).world.device? id = some (saved.copyFields fields device) := by
    unfold World.device?
    rw [after_]
    have written := device?_saveDevice s.world saved fields id
    have key : device.deviceId = saved.deviceId := (heard_saves heard_).1.symm
    rw [own] at found
    rw [found, Option.map_some, if_pos key] at written
    exact written
  refine ⟨raised, ?_⟩
  rw [row, same]
  simp [Device.alertColumns, alertFields, since raised]

theorem keepsAlert_unaccepted (kind : d.kind = .status ∨ d.kind = .diag)
    (silent : reportedAlert s.world d = none) : KeepsAlert id s.world (s.deliver id d).world := by
  have isReport : d.kind.isReport = true := by rcases kind with k | k <;> rw [k] <;> rfl
  refine KeepsAlert.of_devices ?_ (deliver_report isReport).devices
  cases saves : report s.world d with
  | none => rfl
  | some pair =>
    obtain ⟨saved, fields⟩ := pair
    have refused : ¬ fields.all saved.accepts = true := by
      intro taken
      have valid : accepted s.world d = true := by simpa [accepted, saves] using taken
      simp [reportedAlert, kind, valid, saves] at silent
    rw [saveReport_some, if_neg refused]
    rfl

theorem keepsAlert_mirrors (kind : d.kind = .commands ∨ d.kind = .calibration) :
    KeepsAlert id s.world (s.deliver id d).world := by
  have isReport : d.kind.isReport = true := by rcases kind with k | k <;> rw [k] <;> rfl
  refine KeepsAlert.of_devices (keepsAlert_saveReport ?_) (deliver_report isReport).devices
  intro saved fields saves
  obtain ⟨-, data, device, -, -, heard_⟩ := report_saves saves
  exact heard_spares kind heard_ id

theorem keepsAlert_capabilities (kind : d.kind = .capabilities) (own : d.deviceId = id)
    (other : ∀ data device, d.payload.object? = some data → s.world.device? id = some device →
      hadTimeoutAlert device = false) :
    KeepsAlert id s.world (s.deliver id d).world := by
  refine KeepsAlert.of_devices ?_ (deliver_capabilities kind)
  cases saves : reported s.world d with
  | none => rfl
  | some pair =>
    obtain ⟨saved, fields⟩ := pair
    rw [saveReport_some]
    split
    swap
    · rfl
    have key := reported_saves saves
    unfold reported at saves
    split at saves
    swap
    · cases saves
    next data device object found =>
    rw [own] at found key
    cases saves
    have same : (applyCapabilities (fun code => (s.world.db.hardwareCodes.get? code).isSome) data
        device).alertColumns = device.alertColumns := by
      unfold applyCapabilities
      simp [other data device object found, Device.alertColumns]
    unfold KeepsAlert
    rw [device?_saveDevice, found]
    simp only [Option.map_some]
    split
    · exact congrArg some (alertColumns_copyFields_same same)
    · rfl

theorem keepsAlert_sensors (tracks : s.Tracks id) (own : d.deviceId = id) (kind : d.kind = .sensors)
    (undisturbed : s.disturbed id d = false) {a : Alert} (latched : s.latched = some a)
    (held : ∀ data row, d.payload.object? = some data → s.world.device? id = some row →
      a.released d.env row data = false) : KeepsAlert id s.world (s.deliver id d).world := by
  obtain ⟨raised, columns⟩ := tracks a latched
  obtain ⟨row, found, same⟩ := Option.map_eq_some_iff.mp columns
  simp only [Device.alertColumns, Prod.mk.injEq] at same
  obtain ⟨level, text, since⟩ := same
  cases object : d.payload.object? with
  | none =>
    have still : deliver s.world d = s.world := by
      unfold deliver handleMessage
      rw [kind]
      exact after_withObject_none _ _ object s.world
    unfold KeepsAlert Watch.deliver
    rw [still]
  | some data =>
    have open_ := held data row object found
    unfold Watch.disturbed at undisturbed
    rw [latched, object, found, kind] at undisturbed
    simp only [own, open_] at undisturbed
    unfold Alert.released at open_
    have known : s.world.device? d.deviceId = some row := own ▸ found
    have body : (s.deliver id d).world =
        after (sensorBody d.env d.deviceType data row false) s.world := deliver_sensors kind object known
    rw [body]
    refine Emits.upholds (keepsAlert_closed id) (fun _ _ ok => ok)
      (emits_sensorBody_latched ?_ ?_ ?_) s.world
    · refine reconcileAlert_latched (t := a.since) ?_ ?_ since ?_
      · exact level ▸ raised
      · rw [show ({ row with lastSeen := some d.env.now } : Device).alertMessage = a.text from text]
        simp_all
      · exact (by simp_all : d.env.now - a.since ≤ row.alertReassertWindow)
    · intro online
      simp_all
    · intro approved stored sent
      simp_all

theorem latched_before (own : d.deviceId = id) (silent : reportedAlert s.world d = none) {a : Alert}
    (latched : (s.deliver id d).latched = some a) :
    s.latched = some a ∧ (d.kind = .sensors → ∀ data row, d.payload.object? = some data →
      s.world.device? id = some row → a.released d.env row data = false) := by
  unfold Watch.deliver at latched
  simp only [own, ne_eq, not_true_eq_false, if_false, silent] at latched
  split at latched
  · next data row kind object found =>
    split at latched
    · cases latched
    · next held =>
      refine ⟨latched, fun _ data' row' object' found' => ?_⟩
      cases object.symm.trans object'
      cases found.symm.trans found'
      simpa [latched] using held
  · next none_ =>
    exact ⟨latched, fun kind data row object found => absurd found (none_ data row kind object)⟩

theorem keepsAlert_unreported (tracks : s.Tracks id) (own : d.deviceId = id)
    (silent : reportedAlert s.world d = none) (undisturbed : s.disturbed id d = false) {a : Alert}
    (latched : s.latched = some a)
    (held : d.kind = .sensors → ∀ data row, d.payload.object? = some data →
      s.world.device? id = some row → a.released d.env row data = false) :
    KeepsAlert id s.world (s.deliver id d).world := by
  cases kind : d.kind with
  | status => exact keepsAlert_unaccepted (.inl kind) silent
  | diag => exact keepsAlert_unaccepted (.inr kind) silent
  | commands => exact keepsAlert_mirrors (.inl kind)
  | calibration => exact keepsAlert_mirrors (.inr kind)
  | sensors => exact keepsAlert_sensors tracks own kind undisturbed latched (held kind)
  | ack =>
    have body : (s.deliver id d).world = after (handleAckMessage d.env d.deviceId d.payload) s.world := by
      unfold Watch.deliver deliver handleMessage
      rw [kind]
    rw [body]
    exact Emits.upholds (keepsAlert_closed id) (fun _ _ ok => ok)
      (emits_handleAckMessage (permits_keepsAlert id) (fun _ _ _ => by decide)) s.world
  | capabilities =>
    refine keepsAlert_capabilities kind own (fun data device object found => ?_)
    obtain ⟨-, columns⟩ := tracks a latched
    rw [found] at columns
    simp only [Option.map_some, Device.alertColumns, Option.some.injEq, Prod.mk.injEq] at columns
    unfold Watch.disturbed at undisturbed
    rw [latched, object, found, kind] at undisturbed
    unfold hadTimeoutAlert
    simpa [own, columns.1, columns.2.1] using undisturbed

theorem tracks_deliver (tracks : s.Tracks id) (undisturbed : s.disturbed id d = false) :
    (s.deliver id d).Tracks id := by
  by_cases own : d.deviceId = id
  · cases told : reportedAlert s.world d with
    | some reported => exact tracks_reported own told
    | none =>
      refine tracks.kept (fun a latched => (latched_before own told latched).1) (fun a latched => ?_)
      obtain ⟨before, held⟩ := latched_before own told latched
      exact keepsAlert_unreported tracks own told undisturbed before held
  · refine tracks.kept (fun a latched => ?_) (fun _ _ => deliver_other own s.world)
    simpa [Watch.deliver, own] using latched

end Step

/-- In every run without a disturbing message, a reported alert stays on the device until
it is replaced or released. -/
theorem alert_latched {id : String} {s : Watch} {ds : List Delivery} (tracks : s.Tracks id)
    (undisturbed : Run.Along (Watch.deliver id) (fun s d => s.disturbed id d = false) s ds) :
    Run.Along (Watch.deliver id) (fun s d => (s.deliver id d).Holds id) s ds :=
  Run.along_of_invariant (fun _ _ => tracks_deliver)
    (fun _ _ tracks calm => (tracks_deliver tracks calm).holds) tracks undisturbed

def unanswered : Watch where
  world := World.empty.apply (.createDevice
    { deviceId := "living01", createdAt := 0, lastSeen := some (seconds 60),
      capabilitiesRequestedAt := some (seconds 10) })
  latched := none

def fanFailure : Delivery where
  env := { now := seconds 65 }
  kind := .status
  deviceType := "thermo"
  deviceId := "living01"
  payload := ⟨40, .value (.obj [("level", .str "error"), ("message", .str "fan failure")])⟩

def emptyReading (at_ : Time) : Delivery where
  env := { now := at_ }
  kind := .sensors
  deviceType := "thermo"
  deviceId := "living01"
  payload := ⟨2, .value (.obj [])⟩

theorem unanswered_latched :
    Run.Along (Watch.deliver "living01") (fun s d => (s.deliver "living01" d).Holds "living01")
      unanswered [fanFailure, emptyReading (seconds 68)] :=
  alert_latched (fun _ latched => nomatch latched) (by decide)

/-- The timeout of the request replaces the device's alert. -/
theorem unanswered_replaced :
    (Run.run (Watch.deliver "living01") unanswered [fanFailure, emptyReading (seconds 100)]).latched =
      some ⟨.error, "fan failure", seconds 65⟩ ∧
    ((Run.run (Watch.deliver "living01") unanswered [fanFailure, emptyReading (seconds 100)]).world.device?
      "living01").map Device.alert = some (.error, noCapabilitiesAlert) := by
  decide

end SensorServer
