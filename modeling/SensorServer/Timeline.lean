import SensorServer.Alerts

/-! The alert of a device beside the time it was last asserted and the status log:
what one message leaves of the three, whatever way its handler ends. -/
namespace SensorServer
open Program

def reportedDevice (w : World) (data : Fields) (row : Device) : Device :=
  applyCapabilities (fun code => (w.db.hardwareCodes.get? code).isSome) data row

/-- The message logs the end of an alert, and then fails before the row is saved. -/
def strands (w : World) (d : Delivery) : Bool :=
  match d.payload.object?, w.device? d.deviceId with
  | some data, some row => match d.kind with
    | .sensors => clearsAlert d.env.now row && !d.env.channel w.broadcasts.length
    | .capabilities => hadTimeoutAlert row && !capabilitiesFields.all (reportedDevice w data row).accepts
    | _ => false
  | _, _ => false

/-- The sensors message raises the capabilities timeout. -/
def timesOut (w : World) (d : Delivery) : Bool :=
  match d.kind, d.payload.object?, w.device? d.deviceId with
  | .sensors, some _, some row =>
    !strands w d && row.isOnline d.env.now && capabilitiesOverdue row d.env.now
  | _, _, _ => false

/-- A stored warning or error of a status or diag message, or the capabilities timeout. -/
def asserts (w : World) (d : Delivery) : Bool :=
  (reportedAlert w d).any Option.isSome || timesOut w d

namespace Device

/-- The three columns together, for an alert last asserted at the given time. -/
structure AlertSound (d : Device) (asserted : Option Time) : Prop where
  clear : d.alertLevel = .ok → d.alertMessage = "" ∧ d.alertUpdatedAt = none
  since : d.alertLevel ≠ .ok → ∃ t, asserted = some t ∧ d.alertUpdatedAt = some t

theorem AlertSound.congr {d e : Device} {asserted : Option Time} (sound : d.AlertSound asserted)
    (same : e.alertColumns = d.alertColumns) : e.AlertSound asserted := by
  simp only [alertColumns, Prod.mk.injEq] at same
  obtain ⟨level, text, time⟩ := same
  exact ⟨by rw [level, text, time]; exact sound.clear, by rw [level, time]; exact sound.since⟩

theorem alert_congr {d e : Device} (same : e.alertColumns = d.alertColumns) : e.alert = d.alert := by
  simp only [alertColumns, Prod.mk.injEq] at same
  simp [alert, same.1, same.2.1]

theorem alertSound_clearAlert (d : Device) (asserted : Option Time) : d.clearAlert.AlertSound asserted :=
  ⟨fun _ => ⟨rfl, rfl⟩, fun raised => absurd rfl raised⟩

end Device

/-- A view of the status log in which a new row of the device decides. -/
structure Recorded (id : String) (logged : List DeviceStatusLog → AlertLevel × String → Prop) : Prop where
  added : ∀ logs row, row.device = id → logged (logs ++ [row]) (row.alertLevel, row.alertMessage)

section Holding
variable (logged : List DeviceStatusLog → AlertLevel × String → Prop) (asserted : Option Time)

/-- The row of the device agrees with the time its alert was asserted and with the log. -/
def Settled (id : String) (w : World) : Prop :=
  ∃ row, w.device? id = some row ∧ row.AlertSound asserted ∧ logged w.db.statusLogs row.alert

structure Holding (device : Device) (w : World) : Prop where
  row : (w.device? device.deviceId).map Device.alertColumns = some device.alertColumns
  sound : device.AlertSound asserted
  log : logged w.db.statusLogs device.alert

end Holding

section Frame
variable {logged : List DeviceStatusLog → AlertLevel × String → Prop} {asserted : Option Time}
  {device : Device} {w v : World}

theorem Holding.settled (h : Holding logged asserted device w) :
    Settled logged asserted device.deviceId w := by
  obtain ⟨row, found, same⟩ := Option.map_eq_some_iff.mp h.row
  refine ⟨row, found, h.sound.congr same, ?_⟩
  rw [Device.alert_congr same]
  exact h.log

theorem Settled.holding {id : String} (h : Settled logged asserted id w)
    (known : w.device? id = some device) : Holding logged asserted device w := by
  obtain ⟨row, found, sound, log⟩ := h
  cases known.symm.trans found
  have own : device.deviceId = id := Table.key_get? known
  exact ⟨by rw [own, known]; rfl, sound, log⟩

theorem Holding.known (h : Holding logged asserted device w) :
    (w.device? device.deviceId).isSome = true := by
  obtain ⟨row, found, -⟩ := Option.map_eq_some_iff.mp h.row
  rw [found]
  rfl

structure Unmoved (id : String) (w v : World) : Prop where
  alert : KeepsAlert id w v
  logs : v.db.statusLogs = w.db.statusLogs

theorem unmoved_closed (id : String) : Closed (Unmoved id) :=
  ⟨fun _ => ⟨rfl, rfl⟩, fun h k => ⟨k.alert.trans h.alert, k.logs.trans h.logs⟩⟩

theorem unmoved_markCommands (id : String) (w : World) (which : CommandLog → Bool) (status : CommandStatus)
    (message : String) (at_ : Time) : Unmoved id w (w.apply (.markCommands which status message at_)) :=
  ⟨rfl, rfl⟩

theorem respected_unmoved (id : String) :
    Respected (Unmoved id) (SparesAlert id) (fun _ _ => True) (fun _ => False) where
  toServiced := Serviced.of_marks (unmoved_closed id)
    (fun w _ _ spares => ⟨keepsAlert_saveDevice spares w, rfl⟩) (fun _ _ _ => ⟨rfl, rfl⟩)
    (fun w which status message at_ _ => unmoved_markCommands id w which status message at_)
  history := by
    intro w e history log
    cases e with
    | addStatusLog row => exact (log row rfl).elim
    | addDiagLog _ | addReadings _ | broadcast _ => exact ⟨rfl, rfl⟩
    | _ => cases history

theorem Settled.unmoved {id : String} (h : Settled logged asserted id w) (still : Unmoved id w v) :
    Settled logged asserted id v := by
  obtain ⟨row, found, sound, log⟩ := h
  have columns := still.alert
  unfold KeepsAlert at columns
  rw [found] at columns
  obtain ⟨row', found', same⟩ := Option.map_eq_some_iff.mp columns
  refine ⟨row', found', sound.congr same, ?_⟩
  rw [still.logs, Device.alert_congr same]
  exact log

theorem Holding.unmoved {other : Device} (h : Holding logged asserted device w)
    (still : Unmoved device.deviceId w v) (own : other.deviceId = device.deviceId)
    (columns : other.alertColumns = device.alertColumns) : Holding logged asserted other v := by
  refine ⟨?_, h.sound.congr columns, ?_⟩
  · rw [own, columns]
    exact still.alert.trans h.row
  · rw [still.logs, Device.alert_congr columns]
    exact h.log

theorem Holding.aside {α : Type} {m : Act α} {result : α → Prop}
    (still : Upholds (Unmoved device.deviceId) m) (returns : Returns result m) :
    Triple (Holding logged asserted device) m
      (fun a v => result a ∧ Holding logged asserted device v)
      (Settled logged asserted device.deviceId) := by
  intro w hold
  have unmoved := still w
  unfold after at unmoved
  rcases run : outcome m w with ⟨e | a, v⟩
  · rw [run] at unmoved
    exact hold.settled.unmoved unmoved
  · rw [run] at unmoved
    exact ⟨returns w a v run, hold.unmoved unmoved rfl rfl⟩

theorem Holding.last {α : Type} {m : Act α} (still : Upholds (Unmoved device.deviceId) m) :
    Triple (Holding logged asserted device) m (fun _ => Settled logged asserted device.deviceId)
      (Settled logged asserted device.deviceId) := by
  intro w hold
  have unmoved := still w
  unfold after at unmoved
  rcases run : outcome m w with ⟨e | a, v⟩ <;>
  · rw [run] at unmoved
    exact hold.settled.unmoved unmoved

end Frame

theorem columns_saved {w : World} {device : Device} {fields : List DeviceField}
    (known : (w.device? device.deviceId).isSome = true) (all : ∀ f ∈ alertFields, f ∈ fields) :
    ((w.apply (.saveDevice device fields)).device? device.deviceId).map Device.alertColumns =
      some device.alertColumns := by
  obtain ⟨row, found⟩ := Option.isSome_iff_exists.mp known
  have own : device.deviceId = row.deviceId := (Table.key_get? found).symm
  rw [device?_saved found own, Option.map_some]
  simp [Device.alertColumns, all .alertLevel (by decide), all .alertMessage (by decide),
    all .alertUpdatedAt (by decide)]

section Record
variable {logged : List DeviceStatusLog → AlertLevel × String → Prop} {asserted : Option Time} {env : Env}
  {device : Device}

theorem accepts_alertMessage {fields : List DeviceField} (all : ∀ f ∈ alertFields, f ∈ fields)
    (taken : fields.all device.accepts = true) : varchar 256 device.alertMessage = true :=
  List.all_eq_true.mp taken .alertMessage (all _ (by decide))

/-- Saved and logged, in this order: from there on the handler holds the new alert. -/
theorem Holding.record {α : Type} {fields : List DeviceField} {rest : Act α}
    {post : α → World → Prop} {raised : World → Prop} (recorded : Recorded device.deviceId logged)
    (all : ∀ f ∈ alertFields, f ∈ fields) (taken : fields.all device.accepts = true)
    (sound : device.AlertSound asserted)
    (continued : Triple (Holding logged asserted device) rest post raised) :
    Triple (fun w => (w.device? device.deviceId).isSome = true)
      (do saveDevice device fields
          addStatusLog (statusRow env device)
          rest) post raised := by
  intro w known
  have saved : outcome (saveDevice device fields) w = (.ok (), w.apply (.saveDevice device fields)) := by
    rw [outcome_saveDevice, if_pos taken]
  have said := @outcome_addStatusLog (statusRow env device) (accepts_alertMessage all taken)
    (w.apply (.saveDevice device fields))
  rw [outcome_bind_ok saved, outcome_bind_ok said]
  exact continued _ ⟨columns_saved known all, sound, recorded.added w.db.statusLogs (statusRow env device) rfl⟩

theorem Holding.announced {e : ChannelEvent} :
    Triple (Holding logged asserted device) (groupSend env e)
      (fun _ => Settled logged asserted device.deviceId) (Settled logged asserted device.deviceId) :=
  Holding.last ((respected_unmoved _).groupSend e)

end Record

section Sensors
variable {logged : List DeviceStatusLog → AlertLevel × String → Prop} {asserted : Option Time} {env : Env}
  {device : Device}

theorem triple_trackBattery (recorded : Recorded device.deviceId logged) (stored : PyFloat) :
    Triple (Holding logged asserted device) (trackBattery env device stored)
      (fun _ => Settled logged asserted device.deviceId) (Settled logged asserted device.deviceId) := by
  unfold trackBattery
  dsimp only
  rw [tracked_battery]
  have spares : SparesAlert device.deviceId { device with batteryPercent := some stored } [.batteryPercent] :=
    fun _ => by decide
  refine Triple.bind (Holding.aside (Upholds.when (unmoved_closed _)
    (fun _ => (respected_unmoved _).saveDevice spares)) (fun _ _ _ _ => trivial)) (fun _ => ?_)
  unfold Program.when
  split
  · rintro w ⟨-, hold⟩
    have taken : alertFields.all (Device.clearAlert { device with batteryPercent := some stored }).accepts =
        true := by
      simp [alertFields, Device.accepts, Device.clearAlert, show varchar 256 "" = true by decide]
    have run := @Holding.record logged asserted env
      (Device.clearAlert { device with batteryPercent := some stored }) Unit alertFields
      (groupSend env (statusEvent (Device.clearAlert { device with batteryPercent := some stored })))
      (fun _ => Settled logged asserted device.deviceId) (Settled logged asserted device.deviceId)
      recorded (fun _ h => h) taken (Device.alertSound_clearAlert _ _) Holding.announced
    exact run w hold.known
  · exact Triple.pure (fun w h => h.2.settled)

theorem triple_storeReadings (recorded : Recorded device.deviceId logged) {deviceType : String} {data : Fields} :
    Triple (Holding logged asserted device) (storeReadings env device deviceType data)
      (fun _ => Settled logged asserted device.deviceId) (Settled logged asserted device.deviceId) := by
  have within := respected_unmoved device.deviceId
  refine Triple.bind (Holding.aside (upholds_collectReadings within.toRecounted data) (fun _ _ _ _ => trivial))
    (fun readings => ?_)
  unfold Program.when
  split
  · refine @Triple.bind _ _ _ _ _ (fun _ => Holding logged asserted device) _ _ _ _ ?_ (fun _ => ?_)
    · exact Triple.write (fun w h => h.2.unmoved ⟨rfl, rfl⟩ rfl rfl)
    · cases storedBattery readings with
      | none => exact Triple.pure (fun w h => h.settled)
      | some stored => exact triple_trackBattery recorded stored
  · exact Triple.pure (fun w h => h.2.settled)

theorem triple_approvedRest (recorded : Recorded device.deviceId logged) {deviceType : String} {data : Fields} :
    Triple (Holding logged asserted device) (approvedRest env deviceType data device)
      (fun _ => Settled logged asserted device.deviceId) (Settled logged asserted device.deviceId) := by
  unfold approvedRest Program.when
  split
  swap
  · exact Triple.pure (fun w h => h.settled)
  refine Triple.bind (Holding.aside (upholds_maybeRequestDiag (respected_unmoved _).toIssued trivial
    (fun _ => by decide)) returns_maybeRequestDiag) (fun d => ?_)
  rintro w ⟨⟨at_, rfl⟩, hold⟩
  have next : Holding logged asserted { device with diagRequestedAt := at_ } w :=
    hold.unmoved ((unmoved_closed _).refl w) rfl rfl
  have own : ({ device with diagRequestedAt := at_ } : Device).deviceId = device.deviceId := rfl
  rw [← own] at recorded ⊢
  exact triple_storeReadings recorded w next

def assertedAfter (env : Env) (asserted : Option Time) (device : Device) : Option Time :=
  if capabilitiesOverdue device env.now then some env.now else asserted

theorem triple_checkCapabilitiesTimeout (recorded : Recorded device.deviceId logged) :
    Triple (Holding logged asserted device) (checkCapabilitiesTimeout env device)
      (fun d v => d.deviceId = device.deviceId ∧ Holding logged (assertedAfter env asserted device) d v)
      (Settled logged (assertedAfter env asserted device) device.deviceId) := by
  unfold checkCapabilitiesTimeout assertedAfter
  split
  swap
  · exact Triple.pure (fun w h => ⟨rfl, h⟩)
  dsimp only
  generalize timedOut : ({ device with
    alertLevel := .error, alertMessage := noCapabilitiesAlert, alertUpdatedAt := some env.now,
    capabilitiesRequestedAt := none } : Device) = late
  have own : late.deviceId = device.deviceId := by rw [← timedOut]
  have sound : late.AlertSound (some env.now) := by
    rw [← timedOut]
    exact ⟨fun ok => (AlertLevel.noConfusion ok), fun _ => ⟨_, rfl, rfl⟩⟩
  have taken : (alertFields ++ [DeviceField.capabilitiesRequestedAt]).all late.accepts = true := by
    rw [← timedOut]
    simp [alertFields, Device.accepts, show varchar 256 noCapabilitiesAlert = true by decide]
  have all : ∀ f ∈ alertFields, f ∈ alertFields ++ [DeviceField.capabilitiesRequestedAt] :=
    fun f member => List.mem_append_left _ member
  rw [← own] at recorded ⊢
  have resolved : ∀ text, Triple (Holding logged (some env.now) late)
      (do resolveCapabilityRequests env late .timeout text
          pure late)
      (fun d v => d.deviceId = late.deviceId ∧ Holding logged (some env.now) d v)
      (Settled logged (some env.now) late.deviceId) := by
    intro text
    have resolves := (respected_unmoved late.deviceId).resolveRequests env late .timeout text rfl
    have returns : Returns (fun _ => True) (resolveCapabilityRequests env late .timeout text) :=
      fun _ _ _ _ => trivial
    exact Triple.bind (Holding.aside resolves returns) (fun _ => Triple.pure (fun v h => ⟨rfl, h.2⟩))
  intro w hold
  exact Holding.record recorded all taken sound (resolved _) w (own ▸ hold.known)

theorem triple_wakeUp : Triple (Holding logged asserted device) (wakeUp env device)
    (fun d v => d.deviceId = device.deviceId ∧ Holding logged asserted d v)
    (Settled logged asserted device.deviceId) := by
  intro w hold
  have run := @Holding.aside logged asserted device Device (wakeUp env device) _
    (upholds_wakeUp (respected_unmoved device.deviceId).toIssued (fun _ => by decide)
      ⟨fun _ _ => trivial, trivial, trivial, trivial⟩) returns_wakeUp w hold
  split at run
  · next d v _ =>
    obtain ⟨⟨at_, rfl⟩, still⟩ := run
    exact ⟨rfl, still.unmoved ((unmoved_closed _).refl v) rfl rfl⟩
  · exact run

theorem triple_savedRest (recorded : Recorded device.deviceId logged) (woken : Bool) {deviceType : String}
    {data : Fields} :
    Triple (Holding logged asserted device) (savedRest env deviceType data woken device)
      (fun _ => Settled logged (if woken then asserted else assertedAfter env asserted device) device.deviceId)
      (Settled logged (if woken then asserted else assertedAfter env asserted device) device.deviceId) := by
  intro w hold
  obtain ⟨v, run, -⟩ := checkOtaTimeouts_ok env device w
  have still := (respected_unmoved device.deviceId).checkOtaTimeouts env device w
  rw [after, run] at still
  unfold savedRest
  rw [outcome_bind_ok run]
  have holds : Holding logged asserted device v := hold.unmoved still rfl rfl
  refine @Triple.bind _ _ _ _ _ (fun d v => d.deviceId = device.deviceId ∧
    Holding logged (if woken then asserted else assertedAfter env asserted device) d v) _ _ _ _ ?_
      (fun d => ?_) v holds
  · cases woken with
    | true => exact triple_wakeUp
    | false => exact triple_checkCapabilitiesTimeout recorded
  · rintro u ⟨own, next⟩
    rw [← own] at recorded ⊢
    exact triple_approvedRest recorded u next

theorem reconcileAlert_sound {now : Time} (sound : device.AlertSound asserted) :
    reconcileAlert now device =
      if (reconcileAlert now device).2.2 then (device.clearAlert, alertFields, true) else (device, [], false) := by
  unfold reconcileAlert
  split
  · rfl
  · split
    · next raised =>
      obtain ⟨t, -, since⟩ := sound.since (by simpa [AlertLevel.raised] using raised)
      rw [since]
      dsimp only
      split <;> rfl
    · rfl

theorem outcome_announced {d : Device} (text : d.alertMessage = "") {w : World}
    (up : env.channel w.broadcasts.length = true) :
    outcome (announceCleared env d) w =
      (.ok (), (w.apply (.addStatusLog (statusRow env d))).apply (.broadcast (statusEvent d))) := by
  have short : varchar 256 (statusRow env d).alertMessage = true := by
    rw [show (statusRow env d).alertMessage = d.alertMessage from rfl, text]
    decide
  have count : (w.apply (.addStatusLog (statusRow env d))).broadcasts = w.broadcasts := rfl
  unfold announceCleared
  rw [outcome_bind_ok (outcome_addStatusLog short w), outcome_groupSend, count, if_pos up]

theorem settled_sensorBody {w : World} (recorded : Recorded device.deviceId logged)
    (hold : Holding logged asserted device w)
    (announced : clearsAlert env.now device = true → env.channel w.broadcasts.length = true)
    {deviceType : String} {data : Fields} {created : Bool} :
    Settled logged (if created || !device.isOnline env.now then asserted
      else assertedAfter env asserted device) device.deviceId
      (after (sensorBody env deviceType data device created) w) := by
  have seen : ({ device with lastSeen := some env.now } : Device).AlertSound asserted := hold.sound.congr rfl
  have cases_ := @reconcileAlert_sound asserted _ env.now seen
  unfold clearsAlert at announced
  rw [sensorBody_halves]
  generalize reconcileAlert env.now { device with lastSeen := some env.now } = reconciled at cases_ announced ⊢
  obtain ⟨d, names, cleared⟩ := reconciled
  dsimp only at cases_ announced ⊢
  cases cleared with
  | false =>
    obtain ⟨rfl, rfl, -⟩ := cases_
    generalize heard : ({ device with lastSeen := some env.now } : Device) = d
    have own : d.deviceId = device.deviceId := by rw [← heard]
    have columns : d.alertColumns = device.alertColumns := by rw [← heard]; rfl
    have overdue : assertedAfter env asserted d = assertedAfter env asserted device := by rw [← heard]; rfl
    have still : Unmoved device.deviceId w (w.apply (.saveDevice d [.lastSeen])) :=
      (respected_unmoved _).save w _ _ (fun _ => by decide)
    have saved : outcome (saveDevice d [.lastSeen]) w = (.ok (), w.apply (.saveDevice d [.lastSeen])) :=
      outcome_saveDevice _ _ _
    have skipped : outcome (when false (announceCleared env d)) w = (.ok (), w) := rfl
    rw [after_bind_ok skipped, after_bind_ok saved, ← own, ← overdue]
    rw [← own] at recorded
    exact Triple.after (triple_savedRest recorded _) _ (hold.unmoved still own columns)
  | true =>
    obtain ⟨rfl, rfl, -⟩ := cases_
    generalize clear : ({ device with lastSeen := some env.now } : Device).clearAlert = cleared
    have own : cleared.deviceId = device.deviceId := by rw [← clear]; rfl
    have text : cleared.alertMessage = "" := by rw [← clear]; rfl
    have sound : cleared.AlertSound asserted := clear ▸ Device.alertSound_clearAlert _ _
    have overdue : assertedAfter env asserted cleared = assertedAfter env asserted device := by
      rw [← clear]
      rfl
    have taken : (DeviceField.lastSeen :: alertFields).all cleared.accepts = true := by
      simp [alertFields, Device.accepts, text, show varchar 256 "" = true by decide]
    have announced := @outcome_announced env cleared text w (announced rfl)
    have saved := (outcome_saveDevice cleared (.lastSeen :: alertFields)
      ((w.apply (.addStatusLog (statusRow env cleared))).apply (.broadcast (statusEvent cleared)))).trans
        (if_pos taken)
    have said : outcome (when true (announceCleared env cleared)) w = (.ok (),
        (w.apply (.addStatusLog (statusRow env cleared))).apply (.broadcast (statusEvent cleared))) := announced
    rw [after_bind_ok said, after_bind_ok saved, ← own, ← overdue]
    rw [← own] at recorded
    refine Triple.after (triple_savedRest recorded _) _ ⟨columns_saved ?_ ?_, sound, ?_⟩
    · exact own ▸ hold.known
    · exact fun f member => List.mem_cons_of_mem _ member
    · exact recorded.added w.db.statusLogs (statusRow env cleared) rfl

end Sensors

def lastAsserted (w : World) (d : Delivery) (asserted : Option Time) : Option Time :=
  if asserts w d then some d.env.now else asserted

theorem alertSound_applyStatus {now : Time} {level : AlertLevel} {data : Fields} {row : Device}
    {asserted : Option Time} :
    (applyStatus now level data row).AlertSound
      (if (applyStatus now level data row).alertLevel.raised then some now else asserted) := by
  unfold applyStatus
  split
  · next raised =>
    exact ⟨fun ok => absurd ok (by simpa [AlertLevel.raised] using raised), fun _ => ⟨_, rfl, rfl⟩⟩
  · exact (Device.alertSound_clearAlert row _).congr rfl

theorem settled_saved {logged : List DeviceStatusLog → AlertLevel × String → Prop} {asserted : Option Time}
    {w : World} {env : Env} {id : String} {saved : Device} {fields : List DeviceField} {rest : Act Unit}
    (named : saved.deviceId = id) (recorded : Recorded id logged) (settled : Settled logged asserted id w)
    (all : ∀ f ∈ alertFields, f ∈ fields)
    (sound : saved.AlertSound (if saved.alertLevel.raised then some env.now else asserted))
    (continued : Triple (Holding logged (if saved.alertLevel.raised then some env.now else asserted) saved)
      rest (fun _ => Settled logged (if saved.alertLevel.raised then some env.now else asserted) saved.deviceId)
      (Settled logged (if saved.alertLevel.raised then some env.now else asserted) saved.deviceId)) :
    Settled logged (if fields.all saved.accepts && saved.alertLevel.raised then some env.now else asserted) id
      (after (do
        saveDevice saved fields
        addStatusLog (statusRow env saved)
        rest) w) := by
  cases taken : fields.all saved.accepts with
  | false =>
    have refused : outcome (saveDevice saved fields) w = (.error .dataError, w) := by
      rw [outcome_saveDevice, if_neg (by simp [taken])]
    rw [after_bind_error refused]
    simpa using settled
  | true =>
    rw [Bool.true_and, ← named]
    rw [← named] at recorded
    obtain ⟨row, found, -⟩ := settled
    refine Triple.after (Holding.record recorded all taken sound continued) w ?_
    rw [named, found]
    rfl

theorem alertSound_applyDiag {now : Time} {level : DiagLevel} {text : String} {row : Device}
    {asserted : Option Time} :
    (applyDiag now level text row).AlertSound
      (if (applyDiag now level text row).alertLevel.raised then some now else asserted) := by
  cases level <;> simp [applyDiag, DiagLevel.alert, AlertLevel.raised] <;>
    exact ⟨by simp, by simp⟩

theorem settled_diagAlert {logged : List DeviceStatusLog → AlertLevel × String → Prop}
    {asserted : Option Time} {w : World} {env : Env} {id : String} {before : Device} {level : DiagLevel}
    {text : String} (own : before.deviceId = id) (known : w.device? id = some before)
    (recorded : Recorded id logged) (settled : Settled logged asserted id w) :
    Settled logged
      (if (alertFields ++ [DeviceField.lastSeen]).all (applyDiag env.now level text before).accepts &&
          (applyDiag env.now level text before).alertLevel.raised then some env.now else asserted) id
      (after (do
        saveDevice (applyDiag env.now level text before) (alertFields ++ [.lastSeen])
        when (before.alert ≠ (applyDiag env.now level text before).alert) do
          addStatusLog (statusRow env (applyDiag env.now level text before))
          groupSend env (statusEvent (applyDiag env.now level text before))) w) := by
  have sound : (applyDiag env.now level text before).AlertSound
      (if (applyDiag env.now level text before).alertLevel.raised then some env.now else asserted) :=
    alertSound_applyDiag
  have named : (applyDiag env.now level text before).deviceId = id := own
  generalize applyDiag env.now level text before = saved at sound named ⊢
  have all : ∀ f ∈ alertFields, f ∈ alertFields ++ [DeviceField.lastSeen] :=
    fun f member => List.mem_append_left _ member
  by_cases changed : before.alert ≠ saved.alert
  · rw [decide_eq_true changed]
    exact settled_saved named recorded settled all sound Holding.announced
  · rw [decide_eq_false changed]
    have same : before.alert = saved.alert := not_not.mp changed
    cases taken : (alertFields ++ [DeviceField.lastSeen]).all saved.accepts with
    | false =>
      have refused : outcome (saveDevice saved (alertFields ++ [.lastSeen])) w = (.error .dataError, w) := by
        rw [outcome_saveDevice, if_neg (by simp [taken])]
      rw [after_bind_error refused]
      simpa using settled
    | true =>
      have kept : outcome (saveDevice saved (alertFields ++ [.lastSeen])) w =
          (.ok (), w.apply (.saveDevice saved (alertFields ++ [.lastSeen]))) := by
        rw [outcome_saveDevice, if_pos taken]
      rw [after_bind_ok kept, Bool.true_and]
      have log := (settled.holding known).log
      rw [same] at log
      have holds : Holding logged (if saved.alertLevel.raised then some env.now else asserted) saved
          (w.apply (.saveDevice saved (alertFields ++ [.lastSeen]))) :=
        ⟨columns_saved (by rw [named, known]; rfl) all, sound, log⟩
      exact named ▸ holds.settled

theorem alertColumns_answered {known : String → Bool} {data : Fields} {row : Device}
    (timeout : hadTimeoutAlert row = true) :
    (applyCapabilities known data row).alertColumns = (.ok, "", none) := by
  unfold applyCapabilities
  rw [if_pos timeout]
  rfl

theorem alertColumns_reported {known : String → Bool} {data : Fields} {row : Device}
    (other : hadTimeoutAlert row = false) :
    (applyCapabilities known data row).alertColumns = row.alertColumns := by
  unfold applyCapabilities
  rw [if_neg (by simp [other])]
  rfl

def capabilitiesRest (env : Env) (device : Device) (repush : Bool) : Act Unit := do
  resolveCapabilityRequests env device .success ""
  resolveOtaUpdates env device
  when repush (repushCalibration env device)

theorem unmoved_capabilitiesRest (id : String) (env : Env) (device : Device) (repush : Bool) :
    Upholds (Unmoved id) (capabilitiesRest env device repush) :=
  have within := respected_unmoved id
  Upholds.bind within.closed (within.resolveRequests _ _ _ _ rfl) (fun _ =>
    Upholds.bind within.closed (within.resolveOtaUpdates _ _) (fun _ =>
    Upholds.when within.closed (fun _ => upholds_repushCalibration within.toIssued (fun _ _ => trivial))))

section Capabilities
variable {logged : List DeviceStatusLog → AlertLevel × String → Prop} {asserted : Option Time} {w : World}
  {env : Env} {id : String} {saved row : Device} {repush : Bool}

theorem settled_cleared (named : saved.deviceId = id) (recorded : Recorded id logged)
    (settled : Settled logged asserted id w) (clear : saved.alertColumns = (.ok, "", none))
    (taken : capabilitiesFields.all saved.accepts = true) :
    Settled logged asserted id (after (do
      when true (addStatusLog (statusRow env saved))
      saveDevice saved capabilitiesFields
      capabilitiesRest env saved repush) w) := by
  have all : ∀ f ∈ alertFields, f ∈ capabilitiesFields := by decide
  have said : outcome (when true (addStatusLog (statusRow env saved))) w =
      (.ok (), w.apply (.addStatusLog (statusRow env saved))) :=
    @outcome_addStatusLog (statusRow env saved) (accepts_alertMessage all taken) w
  have kept := (outcome_saveDevice saved capabilitiesFields (w.apply (.addStatusLog (statusRow env saved)))).trans
    (if_pos taken)
  rw [after_bind_ok said, after_bind_ok kept]
  obtain ⟨before, found, -⟩ := settled
  have cleared : saved.alertLevel = .ok ∧ saved.alertMessage = "" ∧ saved.alertUpdatedAt = none := by
    simpa [Device.alertColumns] using clear
  have holds : Holding logged asserted saved
      ((w.apply (.addStatusLog (statusRow env saved))).apply (.saveDevice saved capabilitiesFields)) := by
    refine ⟨columns_saved ?_ all, ⟨fun _ => cleared.2, fun raised => absurd cleared.1 raised⟩,
      recorded.added w.db.statusLogs (statusRow env saved) named⟩
    change (w.device? saved.deviceId).isSome = true
    rw [named, found]
    rfl
  exact named ▸ holds.settled.unmoved (unmoved_capabilitiesRest _ _ _ _ _)

theorem settled_refreshed (named : saved.deviceId = id) (known : w.device? id = some row)
    (settled : Settled logged asserted id w) (columns : saved.alertColumns = row.alertColumns) :
    Settled logged asserted id (after (do
      when false (addStatusLog (statusRow env saved))
      saveDevice saved capabilitiesFields
      capabilitiesRest env saved repush) w) := by
  have skipped : outcome (when false (addStatusLog (statusRow env saved))) w = (.ok (), w) := rfl
  rw [after_bind_ok skipped]
  by_cases taken : capabilitiesFields.all saved.accepts = true
  · have kept := (outcome_saveDevice saved capabilitiesFields w).trans (if_pos taken)
    rw [after_bind_ok kept]
    have still : Unmoved id w (w.apply (.saveDevice saved capabilitiesFields)) := by
      refine ⟨?_, rfl⟩
      have own : saved.deviceId = row.deviceId := named.trans (Table.key_get? known).symm
      unfold KeepsAlert
      rw [device?_saved known own, known]
      exact congrArg some (alertColumns_copyFields_same columns)
    exact (settled.unmoved still).unmoved (unmoved_capabilitiesRest _ _ _ _ _)
  · have refused := (outcome_saveDevice saved capabilitiesFields w).trans (if_neg taken)
    rw [after_bind_error refused]
    exact settled

end Capabilities

section Messages
variable {logged : List DeviceStatusLog → AlertLevel × String → Prop} {asserted : Option Time} {w : World}
  {d : Delivery} {data : Fields} {row : Device}

theorem timesOut_other (notSensors : d.kind ≠ .sensors) : timesOut w d = false := by
  unfold timesOut
  split
  · next kind _ _ => exact absurd kind notSensors
  · rfl

theorem lastAsserted_silent (silent : reportedAlert w d = none) (notSensors : d.kind ≠ .sensors) :
    lastAsserted w d asserted = asserted := by
  simp [lastAsserted, asserts, silent, timesOut_other notSensors]

theorem lastAsserted_report {saved : Device} {fields : List DeviceField}
    (kind : d.kind = .status ∨ d.kind = .diag) (reports : report w d = some (saved, fields)) :
    lastAsserted w d asserted =
      if fields.all saved.accepts && saved.alertLevel.raised then some d.env.now else asserted := by
  have quiet : timesOut w d = false := timesOut_other (by rcases kind with k | k <;> rw [k] <;> decide)
  have valid : accepted w d = fields.all saved.accepts := by simp only [accepted, reports, Option.any_some]
  unfold lastAsserted asserts reportedAlert
  rw [reports, quiet, valid]
  cases fields.all saved.accepts <;> cases raised : saved.alertLevel.raised <;> simp [kind, raised]

section Known
variable (object : d.payload.object? = some data) (known : w.device? d.deviceId = some row)
  (recorded : Recorded d.deviceId logged) (settled : Settled logged asserted d.deviceId w)
include object known recorded settled

theorem settled_sensors (kind : d.kind = .sensors) (kept : strands w d = false) :
    Settled logged (lastAsserted w d asserted) d.deviceId (deliver w d) := by
  have own : row.deviceId = d.deviceId := Table.key_get? known
  have told : lastAsserted w d asserted =
      (if false || !row.isOnline d.env.now then asserted else assertedAfter d.env asserted row) := by
    simp only [lastAsserted, asserts, reportedAlert, timesOut, kind, object, known, kept, assertedAfter]
    cases row.isOnline d.env.now <;> simp
  have announced : clearsAlert d.env.now row = true → d.env.channel w.broadcasts.length = true := by
    intro clears
    simpa [strands, object, known, kind, clears] using kept
  rw [deliver_sensors kind object known, told, ← own]
  rw [← own] at recorded
  exact settled_sensorBody recorded (settled.holding known) announced

theorem settled_status (kind : d.kind = .status) :
    Settled logged (lastAsserted w d asserted) d.deviceId (deliver w d) := by
  have own : row.deviceId = d.deviceId := Table.key_get? known
  have reports : report w d = (statusLevel data).map (fun level =>
      (applyStatus d.env.now level data row, alertFields ++ [.lastSeen])) := by
    simp [report, object, known, heard, kind]
  have handled : deliver w d = after (handleStatusMessage d.env d.deviceId d.payload) w := by
    unfold deliver handleMessage
    rw [kind]
  rw [handled, handleStatusMessage, after_handler object known]
  cases told : statusLevel data with
  | none =>
    rw [told] at reports
    rw [lastAsserted_silent (by simp [reportedAlert, reports]) (by rw [kind]; decide)]
    exact settled
  | some level =>
    rw [told] at reports
    rw [lastAsserted_report (.inl kind) reports]
    dsimp only
    have named : (applyStatus d.env.now level data row).deviceId = d.deviceId :=
      (deviceId_applyStatus _ _ _ _).trans own
    have sound : (applyStatus d.env.now level data row).AlertSound
        (if (applyStatus d.env.now level data row).alertLevel.raised then some d.env.now else asserted) :=
      alertSound_applyStatus
    generalize applyStatus d.env.now level data row = saved at named sound ⊢
    exact settled_saved named recorded settled (fun f h => List.mem_append_left _ h) sound Holding.announced

theorem settled_diag (kind : d.kind = .diag) :
    Settled logged (lastAsserted w d asserted) d.deviceId (deliver w d) := by
  have own : row.deviceId = d.deviceId := Table.key_get? known
  have handled : deliver w d = after (handleDiagMessage d.env d.deviceId d.payload) w := by
    unfold deliver handleMessage
    rw [kind]
  have reports : report w d = heard d data row := by simp [report, object, known]
  have silent : heard d data row = none → lastAsserted w d asserted = asserted := by
    intro dropped
    exact lastAsserted_silent (by simp [reportedAlert, reports, dropped]) (by rw [kind]; decide)
  unfold heard at reports silent
  rw [kind] at reports silent
  rw [handled, handleDiagMessage, after_handler object known]
  cases told : diagLevel data with
  | none =>
    simp only [told] at silent
    rw [silent trivial]
    exact settled
  | some level =>
    simp only [told] at reports silent
    dsimp only
    cases snapshot : diagSnapshot d.env.now row.deviceId level data with
    | none =>
      simp only [snapshot] at silent
      rw [silent trivial]
      exact settled
    | some diagRow =>
      simp only [snapshot] at reports silent
      dsimp only
      by_cases insertable : diagRow.insertable = true
      swap
      · rw [silent (if_neg insertable),
          after_bind_error ((outcome_addDiagLog diagRow w).trans (if_neg insertable))]
        exact settled
      rw [if_pos insertable] at reports
      rw [lastAsserted_report (.inr kind) reports,
        after_bind_ok ((outcome_addDiagLog diagRow w).trans (if_pos insertable))]
      have still : Settled logged asserted d.deviceId (w.apply (.addDiagLog diagRow)) :=
        settled.unmoved ⟨rfl, rfl⟩
      have known' : (w.apply (.addDiagLog diagRow)).device? d.deviceId = some row := known
      generalize w.apply (.addDiagLog diagRow) = v at still known' ⊢
      exact settled_diagAlert own known' recorded still

theorem settled_capabilities (kind : d.kind = .capabilities) (kept : strands w d = false) :
    Settled logged (lastAsserted w d asserted) d.deviceId (deliver w d) := by
  have own : row.deviceId = d.deviceId := Table.key_get? known
  have silent : reportedAlert w d = none := by simp [reportedAlert, kind]
  have handled : deliver w d = after (handleCapabilitiesMessage d.env d.deviceId d.payload) w := by
    unfold deliver handleMessage
    rw [kind]
  have named : (reportedDevice w data row).deviceId = d.deviceId := deviceId_applyCapabilities.trans own
  have stored : hadTimeoutAlert row = true →
      capabilitiesFields.all (reportedDevice w data row).accepts = true := by
    intro timeout
    simpa [strands, object, known, kind, timeout] using kept
  rw [lastAsserted_silent silent (by rw [kind]; decide), handled, handleCapabilitiesMessage,
    after_handler object known, after_read_bind]
  change Settled logged asserted d.deviceId (after (do
    when (hadTimeoutAlert row) (addStatusLog (statusRow d.env (reportedDevice w data row)))
    saveDevice (reportedDevice w data row) capabilitiesFields
    capabilitiesRest d.env (reportedDevice w data row)
      (storeEmpty data && !(reportedDevice w data row).calibration.isEmpty)) w)
  cases timeout : hadTimeoutAlert row with
  | true =>
    have clear : (reportedDevice w data row).alertColumns = (.ok, "", none) :=
      alertColumns_answered timeout
    exact settled_cleared named recorded settled clear (stored timeout)
  | false =>
    have columns : (reportedDevice w data row).alertColumns = row.alertColumns :=
      alertColumns_reported timeout
    exact settled_refreshed named known settled columns

end Known

theorem unmoved_mirrors (kind : d.kind = .commands ∨ d.kind = .calibration ∨ d.kind = .ack) (id : String) :
    Unmoved id w (deliver w d) := by
  have within := respected_unmoved id
  unfold deliver handleMessage
  rcases kind with kind | kind | kind <;> rw [kind]
  · exact upholds_handleCommandsMessage within.toIssued (fun _ _ _ => by decide) w
  · exact upholds_handleCalibrationMessage within.toIssued (fun _ _ _ => by decide) w
  · refine Upholds.bind within.closed (upholds_ackLookup within.toIssued (fun _ _ _ => by decide))
      (fun target => ?_) w
    cases target with
    | none => exact Upholds.pure within.closed _
    | some m => exact upholds_markCommand within.closed (fun w => unmoved_markCommands id w _ _ _ _)

theorem lastAsserted_unread (object : d.payload.object? = none) : lastAsserted w d asserted = asserted := by
  simp [lastAsserted, asserts, reportedAlert, report, timesOut, object]

/-- Unless the message strands its row, whatever it does leaves the three in step. -/
theorem settled_deliver (known : w.device? d.deviceId = some row) (recorded : Recorded d.deviceId logged)
    (settled : Settled logged asserted d.deviceId w) (kept : strands w d = false) :
    Settled logged (lastAsserted w d asserted) d.deviceId (deliver w d) := by
  have mirrors : d.kind = .commands ∨ d.kind = .calibration ∨ d.kind = .ack →
      Settled logged (lastAsserted w d asserted) d.deviceId (deliver w d) := by
    intro kind
    have silent : reportedAlert w d = none := by rcases kind with k | k | k <;> simp [reportedAlert, k]
    rw [lastAsserted_silent silent (by rcases kind with k | k | k <;> rw [k] <;> decide)]
    exact settled.unmoved (unmoved_mirrors kind _)
  cases object : d.payload.object? with
  | none =>
    rw [lastAsserted_unread object, deliver_unread object]
    exact settled
  | some data =>
    cases kind : d.kind with
    | sensors => exact settled_sensors object known recorded settled kind kept
    | status => exact settled_status object known recorded settled kind
    | capabilities => exact settled_capabilities object known recorded settled kind kept
    | diag => exact settled_diag object known recorded settled kind
    | commands => exact mirrors (.inl kind)
    | calibration => exact mirrors (.inr (.inl kind))
    | ack => exact mirrors (.inr (.inr kind))

end Messages

section Stranded
variable {w : World} {d : Delivery} {row : Device}

theorem capabilities_stranded {env : Env} {saved : Device} {repush : Bool}
    (clear : saved.alertColumns = (.ok, "", none)) (refused : capabilitiesFields.all saved.accepts = false) :
    after (do
      when true (addStatusLog (statusRow env saved))
      saveDevice saved capabilitiesFields
      capabilitiesRest env saved repush) w =
        w.apply (.addStatusLog ⟨env.now, saved.deviceId, .ok, ""⟩) := by
  obtain ⟨level, text, -⟩ : saved.alertLevel = .ok ∧ saved.alertMessage = "" ∧ saved.alertUpdatedAt = none := by
    simpa [Device.alertColumns] using clear
  have log : statusRow env saved = ⟨env.now, saved.deviceId, .ok, ""⟩ := by rw [statusRow, level, text]
  have said : outcome (when true (addStatusLog (statusRow env saved))) w =
      (.ok (), w.apply (.addStatusLog (statusRow env saved))) := by
    refine outcome_addStatusLog ?_ w
    rw [log]
    exact (by decide : varchar 256 "" = true)
  have lost := (outcome_saveDevice saved capabilitiesFields (w.apply (.addStatusLog (statusRow env saved)))).trans
    (if_neg (by simp [refused]))
  rw [after_bind_ok said, after_bind_error lost, log]

theorem deliver_stranded (known : w.device? d.deviceId = some row) (stranded : strands w d = true) :
    deliver w d = w.apply (.addStatusLog ⟨d.env.now, d.deviceId, .ok, ""⟩) := by
  have own : row.deviceId = d.deviceId := Table.key_get? known
  unfold strands at stranded
  rw [known] at stranded
  cases object : d.payload.object? with
  | none =>
    rw [object] at stranded
    cases stranded
  | some data =>
    rw [object] at stranded
    cases kind : d.kind <;> rw [kind] at stranded <;> dsimp only at stranded <;> try cases stranded
    · obtain ⟨cleared, refused⟩ : clearsAlert d.env.now row = true ∧
          d.env.channel w.broadcasts.length = false := by simpa using stranded
      rw [deliver_sensors kind object known, sensorBody_stranded cleared refused, own]
    · obtain ⟨timeout, refused⟩ : hadTimeoutAlert row = true ∧
          capabilitiesFields.all (reportedDevice w data row).accepts = false := by
        rw [Bool.and_eq_true, Bool.not_eq_true'] at stranded
        exact stranded
      unfold deliver handleMessage
      rw [kind]
      dsimp only [handleCapabilitiesMessage]
      rw [after_handler object known, after_read_bind, timeout]
      have named : (reportedDevice w data row).deviceId = d.deviceId := deviceId_applyCapabilities.trans own
      rw [← named]
      exact capabilities_stranded (alertColumns_answered timeout) refused

theorem stranded_raised {asserted : Option Time} (sound : row.AlertSound asserted)
    (known : w.device? d.deviceId = some row) (stranded : strands w d = true) : row.alertLevel ≠ .ok := by
  intro ok
  obtain ⟨text, -⟩ := sound.clear ok
  have calm : clearsAlert d.env.now row = false := by
    have other : row.alertMessage ≠ noCapabilitiesAlert := by rw [text]; decide
    simp [clearsAlert, reconcileAlert, other, ok, AlertLevel.raised]
  have quiet : hadTimeoutAlert row = false := by simp [hadTimeoutAlert, ok]
  unfold strands at stranded
  rw [known] at stranded
  cases object : d.payload.object? <;> rw [object] at stranded
  · cases stranded
  · cases kind : d.kind <;> simp [kind, calm, quiet] at stranded

end Stranded

end SensorServer
