import Mathlib.Data.List.Induction
import SensorServer.Columns
import SensorServer.Course

/-! Dashboards: pages opened on the stored alerts that apply the status events of the live
group, against the alerts the handlers store. -/
namespace SensorServer
open Program

def statusOf (id : String) : ChannelEvent → Option (AlertLevel × String)
  | .deviceStatus deviceId level message _ => if deviceId = id then some (level, message) else none
  | .sensorReading .. => none

def showing (id : String) (shown : AlertLevel × String) (events : List ChannelEvent) : AlertLevel × String :=
  events.foldl (fun shown e => (statusOf id e).getD shown) shown

def World.alertOf (w : World) (id : String) : AlertLevel × String :=
  ((w.device? id).map Device.alert).getD (.ok, "")

/-- A page that was opened on a state of the store and has been fed since. -/
structure Dashboard where
  world : World
  shown : String → AlertLevel × String

namespace Dashboard

def fed (s : Dashboard) (d : Delivery) : List ChannelEvent :=
  (SensorServer.deliver s.world d).broadcasts.drop s.world.broadcasts.length

def deliver (s : Dashboard) (d : Delivery) : Dashboard where
  world := SensorServer.deliver s.world d
  shown id := showing id (s.shown id) (s.fed d)

def Current (s : Dashboard) : Prop := ∀ id, s.shown id = s.world.alertOf id

/-- After the message the page shows the stored pairs, and the last event for each device
whose pair is another one carries the new pair. -/
structure Follows (s : Dashboard) (d : Delivery) : Prop where
  current : (s.deliver d).Current
  last : ∀ id, (s.deliver d).world.alertOf id ≠ s.world.alertOf id →
    ((s.fed d).filterMap (statusOf id)).getLast? = some ((s.deliver d).world.alertOf id)

end Dashboard

def endsAlert (w : World) (d : Delivery) (data : Fields) (row : Device) : Bool :=
  storesReadings w d.env row data && (sentBattery d.env row.deviceId data).any
    (endsLowBattery (alerted d.env.now (!row.isOnline d.env.now) row))

def changesAlert (w : World) (d : Delivery) (row : Device) : Bool :=
  (report w d).any (fun saves => saves.2.all saves.1.accepts && decide (saves.1.alert ≠ row.alert))

/-- A sensors message does not raise the capabilities timeout, a capabilities message does not
clear it, and the channel takes what the others announce of a new pair. -/
def tells (w : World) (d : Delivery) : Bool :=
  match d.payload.object?, w.device? d.deviceId with
  | some data, some row => match d.kind with
    | .sensors => !proceeds w d.env row ||
      !(row.isOnline d.env.now && capabilitiesOverdue row d.env.now) &&
        (!endsAlert w d data row || d.env.channel
          (w.broadcasts.length + (clearings d.env.now row).length + (acceptedReadings d.env row.deviceId data).length))
    | .status | .diag => !changesAlert w d row || d.env.channel w.broadcasts.length
    | .capabilities => !(hadTimeoutAlert row && capabilitiesFields.all (reportedDevice w data row).accepts)
    | .commands | .calibration | .ack => true
  | _, _ => true

theorem showing_append (id : String) (shown : AlertLevel × String) (first rest : List ChannelEvent) :
    showing id shown (first ++ rest) = showing id (showing id shown first) rest :=
  List.foldl_append

theorem showing_silent {id : String} {events : List ChannelEvent} (silent : ∀ e ∈ events, statusOf id e = none)
    (shown : AlertLevel × String) : showing id shown events = shown := by
  induction events with
  | nil => rfl
  | cons e events ih =>
    unfold showing
    rw [List.foldl_cons, silent e List.mem_cons_self]
    exact ih (fun f member => silent f (List.mem_cons_of_mem _ member))

theorem last_of_showing {id : String} {shown : AlertLevel × String} (events : List ChannelEvent)
    (changed : showing id shown events ≠ shown) :
    (events.filterMap (statusOf id)).getLast? = some (showing id shown events) := by
  induction events using List.reverseRecOn with
  | nil => exact absurd rfl changed
  | append_singleton events e ih =>
    rw [showing_append] at changed ⊢
    rw [List.filterMap_append]
    cases told : statusOf id e with
    | none =>
      rw [showing_silent (by simpa using told)] at changed ⊢
      simpa [told] using ih changed
    | some pair => simp [told, showing]

structure Feeds (w : World) (d : Delivery) (events : List ChannelEvent) : Prop where
  broadcasts : (deliver w d).broadcasts = w.broadcasts ++ events
  own : ∀ id, id ≠ d.deviceId → ∀ e ∈ events, statusOf id e = none

theorem Feeds.none {w : World} {d : Delivery} (same : (deliver w d).broadcasts = w.broadcasts) : Feeds w d [] :=
  ⟨same.trans (List.append_nil _).symm, fun _ _ _ member => by cases member⟩

theorem alert_reconciled (now : Time) (row : Device) :
    (reconcileAlert now { row with lastSeen := some now }).1.alert =
      showing row.deviceId row.alert (clearings now row) := by
  unfold clearings clearsAlert reconcileAlert
  dsimp only
  split
  · simp [showing, statusOf, Device.clearAlert, Device.alert]
  · split
    · split
      · rfl
      · split
        · simp [showing, statusOf, Device.clearAlert, Device.alert]
        · rfl
    · rfl

theorem text_reconciled (now : Time) (row : Device) :
    (reconcileAlert now { row with lastSeen := some now }).1.alertMessage ≠ noCapabilitiesAlert := by
  have empty : "" ≠ noCapabilitiesAlert := by decide
  unfold reconcileAlert
  dsimp only
  split
  · exact empty
  · next other =>
    split
    · split
      · exact other
      · split
        · exact empty
        · exact other
    · exact other

theorem alert_alerted (now : Time) (woken : Bool) (row : Device) :
    (alerted now woken row).alert =
      if !woken && capabilitiesOverdue row now then (.error, noCapabilitiesAlert)
      else showing row.deviceId row.alert (clearings now row) := by
  rw [← alert_reconciled, ← capabilitiesOverdue_reconcileAlert now row]
  unfold alerted timedOut
  cases woken with
  | true => rfl
  | false =>
    dsimp only
    cases capabilitiesOverdue (reconcileAlert now { row with lastSeen := some now }).1 now <;> rfl

theorem alert_ended (env : Env) (woken stored : Bool) (data : Fields) (row : Device) :
    (ended env woken stored data row).alert =
      if stored && (sentBattery env row.deviceId data).any
        (endsLowBattery (alerted env.now woken row)) then (.ok, "")
      else (alerted env.now woken row).alert := by
  have asked : ∀ device : Device, (nudged env.now device).alert = device.alert ∧
      ∀ battery, endsLowBattery (nudged env.now device) battery = endsLowBattery device battery := by
    intro device
    refine ⟨?_, fun battery => endsLowBattery_nudged battery⟩
    unfold nudged
    split <;> rfl
  have followed : ∀ device : Device, (tracked device (sentBattery env row.deviceId data)).alert =
      if (sentBattery env row.deviceId data).any (endsLowBattery device) then (.ok, "") else device.alert := by
    intro device
    unfold tracked
    cases sentBattery env row.deviceId data with
    | none => rfl
    | some battery =>
      dsimp only [Option.any_some]
      split <;> rfl
  unfold ended
  dsimp only
  generalize alerted env.now woken row = device
  have ends : endsLowBattery (nudged env.now device) = endsLowBattery device := funext (asked device).2
  cases stored with
  | false =>
    cases row.isApproved with
    | false => rfl
    | true => exact (asked device).1
  | true =>
    rw [if_pos rfl, Bool.true_and]
    cases row.isApproved with
    | false => exact followed device
    | true => rw [if_pos rfl, followed, (asked device).1, ends]

theorem deviceId_alerted (now : Time) (woken : Bool) (row : Device) :
    (alerted now woken row).deviceId = row.deviceId := by
  have seen : (reconcileAlert now { row with lastSeen := some now }).1.deviceId = row.deviceId := by
    unfold reconcileAlert
    dsimp only
    repeat' split
    all_goals rfl
  unfold alerted
  dsimp only
  generalize (reconcileAlert now { row with lastSeen := some now }).1 = device at seen
  unfold timedOut
  cases woken with
  | true => exact seen
  | false => cases capabilitiesOverdue device now <;> exact seen

theorem alert_of_endsLowBattery {device : Device} {battery : PyFloat}
    (ends : endsLowBattery device battery = true) : device.alert = (.warning, lowBatteryAlert) := by
  simp only [endsLowBattery, lowBatteryResolved, Bool.and_eq_true, decide_eq_true_eq] at ends
  exact Prod.ext ends.1.1 ends.1.2

theorem alertOf_known {w : World} {id : String} {row : Device} (known : w.device? id = some row) :
    w.alertOf id = row.alert := by
  rw [World.alertOf, known]
  rfl

theorem statusOf_reading {id : String} {device : Device} {deviceType : String} {told : List ChannelEvent}
    {readings : List SensorReading} (among : told <+: readings.map (readingEvent device deviceType)) :
    ∀ e ∈ told, statusOf id e = none := by
  intro e member
  obtain ⟨r, -, rfl⟩ := List.mem_map.mp (among.subset member)
  rfl

theorem statusOf_other {id owner name text : String} {level : AlertLevel} (other : id ≠ owner) :
    statusOf id (.deviceStatus owner level text name) = none :=
  if_neg (Ne.symm other)

theorem own_clearings {now : Time} {row : Device} {id : String} (other : id ≠ row.deviceId) :
    ∀ e ∈ clearings now row, statusOf id e = none := by
  unfold clearings
  split
  · simpa using statusOf_other other
  · simp

theorem own_resolutions {env : Env} {device : Device} {battery : Option PyFloat} {sent : Nat} {id : String}
    (other : id ≠ device.deviceId) : ∀ e ∈ resolutions env device battery sent, statusOf id e = none := by
  unfold resolutions
  split
  · simpa using statusOf_other other
  · simp

theorem showing_resolutions (env : Env) (device : Device) (battery : Option PyFloat) (sent : Nat)
    (shown : AlertLevel × String) :
    showing device.deviceId shown (resolutions env device battery sent) =
      if battery.any (endsLowBattery device) && env.channel sent then (.ok, "") else shown := by
  unfold resolutions
  split
  · simp [showing, statusOf]
  · rfl

section Message
variable {w : World} {d : Delivery} {data : Fields} {row : Device}

theorem Ended.feeds {woken stored : Bool} {u : World} (own : row.deviceId = d.deviceId)
    (start : u.broadcasts = w.broadcasts) (ends : Ended d.env d.deviceType data row woken stored u (deliver w d)) :
    ∃ events, Feeds w d events ∧ (showing d.deviceId row.alert events = (deliver w d).alertOf d.deviceId ↔
      (!(!woken && capabilitiesOverdue row d.env.now) &&
        (!(stored && (sentBattery d.env row.deviceId data).any (endsLowBattery (alerted d.env.now woken row))) ||
          d.env.channel (w.broadcasts.length + (clearings d.env.now row).length +
            (acceptedReadings d.env row.deviceId data).length))) = true) := by
  obtain ⟨told, among, -, whole, broadcasts⟩ := ends.broadcasts
  obtain ⟨at_, found⟩ := ends.device
  have named : (alerted d.env.now woken row).deviceId = d.deviceId := (deviceId_alerted _ _ _).trans own
  have after_ : (deliver w d).alertOf d.deviceId = (ended d.env woken stored data row).alert := by
    rw [← own, alertOf_known found]
    rfl
  rw [start, List.append_assoc, List.append_assoc] at broadcasts
  refine ⟨_, ⟨broadcasts, fun id other e member => ?_⟩, ?_⟩
  · simp only [List.mem_append] at member
    rcases member with cleared | read | resolved
    · exact own_clearings (own ▸ other) e cleared
    · exact statusOf_reading among e read
    · split at resolved
      · exact own_resolutions (named ▸ other) e resolved
      · cases resolved
  · have left := alert_alerted d.env.now woken row
    have text : (showing row.deviceId row.alert (clearings d.env.now row)).2 ≠ noCapabilitiesAlert := by
      rw [← alert_reconciled]
      exact text_reconciled _ _
    have resolved : showing d.deviceId (showing row.deviceId row.alert (clearings d.env.now row))
        (if stored then resolutions d.env (alerted d.env.now woken row) (sentBattery d.env row.deviceId data)
          (w.broadcasts ++ clearings d.env.now row ++ told).length else []) =
        if stored && (sentBattery d.env row.deviceId data).any (endsLowBattery (alerted d.env.now woken row)) &&
            d.env.channel (w.broadcasts.length + (clearings d.env.now row).length +
              (acceptedReadings d.env row.deviceId data).length) then (.ok, "")
        else showing row.deviceId row.alert (clearings d.env.now row) := by
      cases stored with
      | false => rfl
      | true =>
        rw [whole rfl, if_pos rfl, ← named, showing_resolutions]
        simp [Nat.add_assoc]
    rw [after_, alert_ended, showing_append, showing_append, showing_silent (statusOf_reading among), ← own]
    rw [← own] at resolved
    rw [resolved]
    generalize showing row.deviceId row.alert (clearings d.env.now row) = shown at left text
    cases ending : stored &&
        (sentBattery d.env row.deviceId data).any (endsLowBattery (alerted d.env.now woken row)) with
    | true =>
      rw [Bool.and_eq_true, Option.any_eq_true] at ending
      obtain ⟨-, battery, -, low⟩ := ending
      rw [alert_of_endsLowBattery low] at left
      cases timed : !woken && capabilitiesOverdue row d.env.now with
      | true =>
        rw [timed, if_pos rfl] at left
        cases left
      | false =>
        rw [timed, if_neg Bool.false_ne_true] at left
        rw [← left]
        cases d.env.channel _ <;> simp
    | false =>
      rw [left]
      cases timed : !woken && capabilitiesOverdue row d.env.now with
      | true => simpa using fun same => text (congrArg Prod.snd same)
      | false => simp

theorem unheard_capabilities (kind : d.kind = .capabilities) (object : d.payload.object? = some data)
    (known : w.device? d.deviceId = some row) : Unheard w (deliver w d) := by
  have run : deliver w d = after (handleCapabilitiesMessage d.env d.deviceId d.payload) w := by
    unfold deliver handleMessage
    rw [kind]
  rw [run, after, outcome_capabilities object known]
  exact Upholds.bind unheard_closed
    (Upholds.when unheard_closed (fun _ => upholds_addStatusLog unheard_closed (fun _ => ⟨rfl, rfl⟩))) (fun _ =>
    Upholds.bind unheard_closed (serviced_unheard.saveDevice trivial) (fun _ =>
    Upholds.bind unheard_closed (serviced_unheard.resolveRequests _ _ _ _ rfl) (fun _ =>
    Upholds.bind unheard_closed (serviced_unheard.resolveOtaUpdates _ _) (fun _ =>
    Upholds.when unheard_closed
      (fun _ => upholds_repushCalibration serviced_unheard.toIssued (fun _ _ => trivial)))))) w

theorem silent_deliver (kind : d.kind = .commands ∨ d.kind = .calibration ∨ d.kind = .ack)
    (known : w.device? d.deviceId = some row) :
    (deliver w d).broadcasts = w.broadcasts ∧ (deliver w d).alertOf d.deviceId = w.alertOf d.deviceId := by
  have unheard : Unheard w (deliver w d) := by
    unfold deliver handleMessage
    rcases kind with kind | kind | kind <;> rw [kind]
    · exact upholds_handleCommandsMessage serviced_unheard.toIssued (fun _ _ => trivial) w
    · exact upholds_handleCalibrationMessage serviced_unheard.toIssued (fun _ _ => trivial) w
    · refine Upholds.bind unheard_closed (upholds_ackLookup serviced_unheard.toIssued (fun _ _ => trivial))
        (fun target => ?_) w
      cases target with
      | none => exact Upholds.pure unheard_closed _
      | some m => exact upholds_markCommand unheard_closed (fun _ => ⟨rfl, rfl⟩)
  have spared : ∀ (saved : Device) fields, (∀ f ∈ fields, f ∈ d.kind.fields) →
      ∀ old : Device, (saved.copyFields fields old).alert = old.alert := by
    intro saved fields among old
    have apart : ∀ f ∈ d.kind.fields, f ∉ alertFields := by
      rcases kind with kind | kind | kind <;> rw [kind] <;> decide
    have same := @alertColumns_copyFields saved old _ (fun f member => apart f (among f member))
    exact congrArg (fun columns : AlertLevel × String × Option Time => (columns.1, columns.2.1)) same
  obtain ⟨new, found, same⟩ := @keepsColumn_deliver _ Device.alert _ _ (fun _ => spared) w row known
  exact ⟨unheard.2, by rw [alertOf_known found, alertOf_known known, same]⟩

theorem broadcasts_saved {env : Env} {saved : Device} {fields : List DeviceField} {asks : Bool}
    (all : ∀ f ∈ alertFields, f ∈ fields) (w : World) :
    (after (do
      saveDevice saved fields
      when asks (announceCleared env saved)) w).broadcasts =
      w.broadcasts ++
        if fields.all saved.accepts && asks &&
          env.channel w.broadcasts.length then [statusEvent saved] else [] := by
  cases taken : fields.all saved.accepts with
  | false =>
    have refused := (outcome_saveDevice saved fields w).trans (if_neg (Bool.eq_false_iff.mp taken))
    rw [after_bind_error refused]
    exact (List.append_nil _).symm
  | true =>
    have kept := (outcome_saveDevice saved fields w).trans (if_pos taken)
    rw [after_bind_ok kept]
    cases asks with
    | false => exact (List.append_nil _).symm
    | true =>
      have logged := @outcome_addStatusLog (statusRow env saved) (accepts_alertMessage all taken)
        (w.apply (.saveDevice saved fields))
      change (after (announceCleared env saved) _).broadcasts = _
      unfold announceCleared
      rw [after_bind_ok logged, after, outcome_groupSend]
      change (if env.channel w.broadcasts.length then _ else _ : Except Raised Unit × World).2.broadcasts = _
      cases env.channel w.broadcasts.length with
      | true => rfl
      | false => exact (List.append_nil _).symm

theorem alertOf_reported (kind : d.kind = .status ∨ d.kind = .diag) (known : w.device? d.deviceId = some row) :
    (deliver w d).alertOf d.deviceId = match report w d with
      | some (saved, fields) => if fields.all saved.accepts then saved.alert else row.alert
      | none => row.alert := by
  have left := deliver_report (w := w) (d := d) (by rcases kind with k | k <;> rw [k] <;> rfl)
  have same : (deliver w d).alertOf d.deviceId = (saveReport w (report w d)).alertOf d.deviceId := by
    unfold World.alertOf World.device?
    rw [left.devices]
  rw [same]
  cases told : report w d with
  | none => exact alertOf_known known
  | some saves =>
    obtain ⟨saved, fields⟩ := saves
    obtain ⟨own, data, device, object, found, heard_⟩ := report_saves told
    rw [saveReport_some]
    dsimp only
    split
    · obtain ⟨rfl, -⟩ := heard_alert kind heard_
      have named : row.deviceId = d.deviceId := Table.key_get? known
      rw [alertOf_known (device?_saved known (own.trans named.symm) _)]
      simp [Device.alert, alertFields]
    · exact alertOf_known known

theorem broadcasts_status (kind : d.kind = .status) (object : d.payload.object? = some data)
    (known : w.device? d.deviceId = some row) :
    (deliver w d).broadcasts = w.broadcasts ++ match report w d with
      | some (saved, fields) =>
        if fields.all saved.accepts && d.env.channel w.broadcasts.length then [statusEvent saved] else []
      | none => [] := by
  have run : deliver w d = after (handleStatusMessage d.env d.deviceId d.payload) w := by
    unfold deliver handleMessage
    rw [kind]
  have told : report w d = (statusLevel data).map (fun level =>
      (applyStatus d.env.now level data row, alertFields ++ [.lastSeen])) := by
    simp only [report, object, known, heard, kind]
  rw [run, handleStatusMessage, after_handler object known, told]
  dsimp only
  cases statusLevel data with
  | none => exact (List.append_nil _).symm
  | some level =>
    have saved := @broadcasts_saved d.env (applyStatus d.env.now level data row) (alertFields ++ [.lastSeen]) true
      (fun f member => List.mem_append_left _ member) w
    rw [Bool.and_true] at saved
    exact saved

theorem broadcasts_diag (kind : d.kind = .diag) (object : d.payload.object? = some data)
    (known : w.device? d.deviceId = some row) :
    (deliver w d).broadcasts = w.broadcasts ++ match report w d with
      | some (saved, fields) =>
        if fields.all saved.accepts && decide (row.alert ≠ saved.alert) && d.env.channel w.broadcasts.length then
          [statusEvent saved] else []
      | none => [] := by
  have run : deliver w d = after (handleDiagMessage d.env d.deviceId d.payload) w := by
    unfold deliver handleMessage
    rw [kind]
  rw [run, handleDiagMessage, after_handler object known]
  simp only [report, object, known, heard, kind]
  cases diagLevel data with
  | none => exact (List.append_nil _).symm
  | some level =>
    dsimp only
    cases diagSnapshot d.env.now row.deviceId level data with
    | none => exact (List.append_nil _).symm
    | some snapshot =>
      dsimp only
      generalize applyDiag d.env.now level (diagText data) row = saved
      by_cases insertable : snapshot.insertable = true
      · have inserted := (outcome_addDiagLog snapshot w).trans (if_pos insertable)
        rw [if_pos insertable, after_bind_ok inserted]
        have announced := @broadcasts_saved d.env saved (alertFields ++ [.lastSeen])
          (decide (row.alert ≠ saved.alert)) (fun f member => List.mem_append_left _ member)
          (w.apply (.addDiagLog snapshot))
        exact announced
      · have refused := (outcome_addDiagLog snapshot w).trans (if_neg insertable)
        rw [if_neg insertable, after_bind_error refused]
        exact (List.append_nil _).symm

theorem feeds_reported (kind : d.kind = .status ∨ d.kind = .diag) (object : d.payload.object? = some data)
    (known : w.device? d.deviceId = some row) :
    ∃ events, Feeds w d events ∧ (showing d.deviceId row.alert events = (deliver w d).alertOf d.deviceId ↔
      (!changesAlert w d row || d.env.channel w.broadcasts.length) = true) := by
  have broadcasts : ∃ asks : Device → Bool, (∀ saved, asks saved = false → saved.alert = row.alert) ∧
      (deliver w d).broadcasts = w.broadcasts ++ match report w d with
        | some (saved, fields) =>
          if fields.all saved.accepts && asks saved && d.env.channel w.broadcasts.length then [statusEvent saved]
          else []
        | none => [] := by
    rcases kind with kind | kind
    · refine ⟨fun _ => true, ?_, ?_⟩
      · intro saved same
        cases same
      · simpa using broadcasts_status kind object known
    · refine ⟨fun saved => decide (row.alert ≠ saved.alert), ?_, broadcasts_diag kind object known⟩
      intro saved same
      exact (not_not.mp (of_decide_eq_false same)).symm
  obtain ⟨asks, unasked, broadcasts⟩ := broadcasts
  refine ⟨_, ⟨broadcasts, ?_⟩, ?_⟩
  · intro id other e member
    cases told : report w d with
    | none =>
      rw [told] at member
      cases member
    | some saves =>
      rw [told] at member
      dsimp only at member
      split at member
      · rw [List.mem_singleton.mp member]
        exact statusOf_other ((report_saves told).1 ▸ other)
      · cases member
  · rw [alertOf_reported kind known]
    unfold changesAlert
    cases told : report w d with
    | none => exact iff_of_true rfl rfl
    | some saves =>
      obtain ⟨saved, fields⟩ := saves
      dsimp only [Option.any_some]
      have shown : showing d.deviceId row.alert [statusEvent saved] = saved.alert := by
        simp [showing, statusOf, statusEvent, (report_saves told).1, Device.alert]
      have quiet : asks saved = false → saved.alert = row.alert := unasked saved
      have still : showing d.deviceId row.alert [] = row.alert := rfl
      cases fields.all saved.accepts with
      | false => exact iff_of_true still rfl
      | true =>
        cases d.env.channel w.broadcasts.length with
        | true =>
          cases ask : asks saved with
          | true => exact iff_of_true shown (Bool.or_true _)
          | false => exact iff_of_true (quiet ask).symm (Bool.or_true _)
        | false =>
          rw [Bool.and_false, if_neg Bool.false_ne_true, still, if_pos rfl, Bool.true_and, Bool.or_false,
            Bool.not_eq_true', decide_eq_false_iff_not, not_not]
          exact eq_comm

theorem alertOf_capabilities (kind : d.kind = .capabilities) (object : d.payload.object? = some data)
    (known : w.device? d.deviceId = some row) :
    (deliver w d).alertOf d.deviceId =
      if hadTimeoutAlert row && capabilitiesFields.all (reportedDevice w data row).accepts then (.ok, "")
      else row.alert := by
  have left := deliver_capabilities (w := w) kind
  have told : reported w d = some (reportedDevice w data row, capabilitiesFields) := by
    simp only [reported, object, known, reportedDevice]
  have same : (deliver w d).alertOf d.deviceId = (saveReport w (reported w d)).alertOf d.deviceId := by
    unfold World.alertOf World.device?
    rw [left]
  have own : (reportedDevice w data row).deviceId = row.deviceId := deviceId_applyCapabilities
  have alert : (reportedDevice w data row).alert = if hadTimeoutAlert row then (.ok, "") else row.alert := by
    unfold reportedDevice applyCapabilities
    cases hadTimeoutAlert row <;> rfl
  rw [same, told, saveReport_some]
  generalize reportedDevice w data row = saved at own alert
  cases capabilitiesFields.all saved.accepts with
  | false => rw [if_neg Bool.false_ne_true, Bool.and_false, if_neg Bool.false_ne_true, alertOf_known known]
  | true =>
    rw [if_pos rfl, Bool.and_true, alertOf_known (device?_saved known own _), ← alert]
    simp [Device.alert, capabilitiesFields]

theorem feeds_known (object : d.payload.object? = some data) (known : w.device? d.deviceId = some row) :
    ∃ events, Feeds w d events ∧
      (showing d.deviceId row.alert events = (deliver w d).alertOf d.deviceId ↔ tells w d = true) := by
  have own : row.deviceId = d.deviceId := Table.key_get? known
  simp only [tells, object, known]
  cases kind : d.kind with
  | sensors =>
    dsimp only
    cases goes : proceeds w d.env row with
    | true =>
      rw [Bool.not_true, Bool.false_or]
      have ends := (sensors_ends kind object known goes).feeds own rfl
      rw [Bool.not_not] at ends
      exact ends
    | false =>
      have same := sensors_stopped kind object known goes
      refine ⟨[], Feeds.none (by rw [same]; rfl), iff_of_true ?_ rfl⟩
      rw [same]
      exact (alertOf_known known).symm
  | status => exact feeds_reported (.inl kind) object known
  | diag => exact feeds_reported (.inr kind) object known
  | capabilities =>
    refine ⟨[], Feeds.none (unheard_capabilities kind object known).2, ?_⟩
    rw [alertOf_capabilities kind object known]
    dsimp only
    cases timeout : hadTimeoutAlert row with
    | false => exact iff_of_true rfl rfl
    | true =>
      have error : row.alert ≠ (.ok, "") := by
        intro same
        simp only [hadTimeoutAlert, Bool.and_eq_true, decide_eq_true_eq] at timeout
        rw [Device.alert, timeout.1] at same
        cases same
      cases capabilitiesFields.all (reportedDevice w data row).accepts with
      | false => exact iff_of_true rfl rfl
      | true => exact iff_of_false error Bool.false_ne_true
  | commands | calibration | ack =>
    have silent := silent_deliver (by simp [kind]) known
    refine ⟨[], Feeds.none silent.1, iff_of_true ?_ rfl⟩
    exact (alertOf_known known).symm.trans silent.2.symm

end Message

theorem feeds_deliver (w : World) (d : Delivery) :
    ∃ events, Feeds w d events ∧
      (showing d.deviceId (w.alertOf d.deviceId) events = (deliver w d).alertOf d.deviceId ↔
        tells w d = true) := by
  cases object : d.payload.object? with
  | none =>
    have same := @deliver_unread w d object
    refine ⟨[], Feeds.none (by rw [same]), iff_of_true (by rw [same]; rfl) (by simp [tells, object])⟩
  | some data =>
    cases known : w.device? d.deviceId with
    | some row =>
      rw [alertOf_known known]
      exact feeds_known object known
    | none =>
      have tells_ : tells w d = true := by simp [tells, object, known]
      have before : w.alertOf d.deviceId = (.ok, "") := by rw [World.alertOf, known]; rfl
      by_cases kind : d.kind = .sensors
      · rcases sensors_created kind object known with same | ⟨fresh, -, own, ok, -, ends⟩
        · exact ⟨[], Feeds.none (by rw [same]), iff_of_true (by rw [same]; rfl) tells_⟩
        · obtain ⟨events, feeds, follows⟩ := ends.feeds (w := w) (u := w.apply (.createDevice fresh)) own rfl
          rw [ok] at follows
          rw [before, tells_]
          exact ⟨events, feeds, follows.trans (iff_of_true rfl rfl)⟩
      · have same := deliver_unknown known kind
        exact ⟨[], Feeds.none (by rw [same]), iff_of_true (by rw [same]; rfl) tells_⟩

theorem alertOf_other {w : World} {d : Delivery} {id : String} (other : id ≠ d.deviceId) :
    (deliver w d).alertOf id = w.alertOf id := by
  have keeps := deliver_other (Ne.symm other) w
  have alerts := congrArg (Option.map (fun c : AlertLevel × String × Option Time => (c.1, c.2.1))) keeps
  rw [Option.map_map, Option.map_map] at alerts
  exact congrArg (fun alert => Option.getD alert (.ok, "")) alerts

namespace Dashboard

theorem follows_iff {s : Dashboard} (current : s.Current) (d : Delivery) :
    s.Follows d ↔ tells s.world d = true := by
  obtain ⟨events, feeds, own⟩ := feeds_deliver s.world d
  have fed : s.fed d = events := by
    rw [Dashboard.fed, feeds.broadcasts, List.drop_left]
  have shown : ∀ id, (s.deliver d).shown id = showing id (s.world.alertOf id) events := by
    intro id
    change showing id (s.shown id) (s.fed d) = _
    rw [fed, current id]
  rw [← own]
  constructor
  · intro follows
    rw [← shown]
    exact follows.current d.deviceId
  · intro told
    have now : (s.deliver d).Current := by
      intro id
      rw [shown]
      by_cases same : id = d.deviceId
      · rw [same]
        exact told
      · rw [showing_silent (feeds.own id same)]
        exact (alertOf_other same).symm
    refine ⟨now, fun id changed => ?_⟩
    rw [fed, ← now id, shown]
    rw [← now id, shown] at changed
    exact last_of_showing events changed

/-- Along a run a page always shows the stored pairs exactly if every message tells it. -/
theorem follows_run_iff {s : Dashboard} (current : s.Current) (ds : List Delivery) :
    Run.Along Dashboard.deliver Dashboard.Follows s ds ↔
      Run.Along SensorServer.deliver (fun w d => tells w d = true) s.world ds := by
  have commutes : ∀ s d, (Dashboard.deliver s d).world = SensorServer.deliver s.world d := fun _ _ => rfl
  refine Iff.trans ?_ (Run.along_part commutes s ds)
  exact Run.along_iff (fun _ d now => follows_iff now d)
    (fun s d now told => ((follows_iff now d).mpr told).current)
    current

/-- The page when it is loaded. -/
def opened (w : World) : Dashboard := ⟨w, w.alertOf⟩

theorem opened_current (w : World) : (opened w).Current := fun _ => rfl

theorem unanswered_followed :
    Run.Along Dashboard.deliver Dashboard.Follows (opened unanswered.world) [fanFailure, emptyReading (seconds 68)] :=
  (follows_run_iff (opened_current _) _).mpr (by decide)

/-- The capabilities timeout is stored, the page goes on to show a device without an alert. -/
theorem unanswered_unseen :
    let s := (opened unanswered.world).deliver (emptyReading (seconds 100))
    (opened unanswered.world).Current ∧
    s.world.alertOf "living01" = (.error, noCapabilitiesAlert) ∧ s.shown "living01" = (.ok, "") ∧
    ¬ Run.Along Dashboard.deliver Dashboard.Follows (opened unanswered.world) [emptyReading (seconds 100)] := by
  refine ⟨opened_current _, by decide, by decide, fun along => ?_⟩
  exact absurd (along.1.current "living01") (by decide)

end Dashboard

end SensorServer
