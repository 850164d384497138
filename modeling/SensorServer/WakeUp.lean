import SensorServer.Acks
import SensorServer.Footprint
import SensorServer.Reports
import SensorServer.Lib.Run

/-! The wake-up of a device: an offline device that sends a sensors message gets its
pending commands and a capabilities request. Offline is read off last_seen, which
the reports refresh as well. -/
namespace SensorServer
open Program

def Grows (w v : World) : Prop := w.published <+: v.published

theorem grows_closed : Closed Grows := ⟨fun _ => List.prefix_refl _, fun h k => h.trans k⟩

theorem grows_apply (w : World) (e : Effect) : Grows w (w.apply e) := by
  cases e <;> first | exact List.prefix_append _ _ | exact List.prefix_refl _

theorem permits_all : Permits (fun _ _ => True) (fun _ _ => True) (fun _ _ => True) :=
  ⟨fun _ _ _ _ => trivial, fun _ _ _ => trivial, fun _ _ _ _ _ => trivial, fun _ _ _ => trivial⟩

theorem grows_of_emits {α : Type} {m : Act α} (valid : Emits (fun _ _ => True) m) : Upholds Grows m :=
  Emits.upholds grows_closed (fun w e _ => grows_apply w e) valid

def Publication.content (p : Publication) : String × Json := (p.topic, p.payload)

theorem outcome_sendEach {α : Type} (env : Env) (topic : String) (message : α → Json) (items : List α)
    (w : World) :
    ∃ v sent, outcome (forEach items (fun item => do
        let _ ← attempt (mqttPublish env topic (message item) false 1)
        pure ())) w = (.ok (), v) ∧
      v.db = w.db ∧ v.published = w.published ++ sent ∧
      sent.map Publication.content = items.map (fun item => (topic, message item)) := by
  induction items generalizing w with
  | nil => exact ⟨w, [], rfl, rfl, by simp, rfl⟩
  | cons item items ih =>
    obtain ⟨v, sent, run, db, published, contents⟩ := ih (w.apply
      (.publish ⟨topic, message item, false, 1, env.broker w.published.length⟩))
    refine ⟨v, ⟨topic, message item, false, 1, env.broker w.published.length⟩ :: sent, ?_, db, ?_, ?_⟩
    · refine (outcome_bind_ok (a := ()) ?_).trans run
      exact outcome_bind_ok (outcome_attempt_publish _ _ _ _ _ w)
    · rw [published]
      simp [World.apply]
    · simp [contents, Publication.content]

theorem outcome_flush (env : Env) (device : Device) (w : World) :
    ∃ v sent, outcome (flushPendingCommands env device) w = (.ok (), v) ∧ v.db = w.db ∧
      v.published = w.published ++ sent ∧
      sent.map Publication.content =
        (flushRows w.db device.deviceId).map (fun cmd => (commandTopic device, cmd.command)) :=
  outcome_sendEach env (commandTopic device) CommandLog.command (flushRows w.db device.deviceId) w

def repushes (device : Device) : List (String × Json) :=
  (device.calibration.filter (fun kv => kv.2.isNumber)).map
    (fun kv => (commandTopic device, repushCommand kv.1 kv.2))

theorem outcome_repush (env : Env) (device : Device) (w : World) :
    ∃ v sent, outcome (repushCalibration env device) w = (.ok (), v) ∧ v.db = w.db ∧
      v.published = w.published ++ sent ∧
      sent.map Publication.content = repushes device :=
  outcome_sendEach env (commandTopic device) (fun kv : String × Json => repushCommand kv.1 kv.2)
    (device.calibration.filter (fun kv => kv.2.isNumber)) w

theorem requestCapabilities_sends (env : Env) (device : Device) (sentBy : Option String)
    (logCommand : Bool) (w : World) :
    ∃ request : Publication,
      request.content = (commandTopic device, bareCommand "request_capabilities") ∧
      w.published ++ [request] <+: (after (requestCapabilities env device sentBy logCommand) w).published := by
  refine ⟨⟨commandTopic device, bareCommand "request_capabilities", false, 1,
    env.broker w.published.length⟩, rfl, ?_⟩
  have rest : Grows (after (attempt (mqttPublish env (commandTopic device)
      (bareCommand "request_capabilities") false 1)) w)
      (after (requestCapabilities env device sentBy logCommand) w) := by
    refine Upholds.rest grows_closed (fun sent => grows_of_emits ?_) w
    split
    · exact Emits.bind (Emits.attempt (Emits.bind (permits_all.respected.saveDevice trivial) (fun _ =>
        Emits.when (fun _ => emits_addCommandLog (fun _ => trivial))))) (fun _ => Emits.pure _)
    · exact Emits.pure _
  rw [after_attempt, after_mqttPublish] at rest
  exact rest

theorem wakeUp_sends (env : Env) (device : Device) (w : World) :
    ∃ sent request, sent.map Publication.content =
        (flushRows w.db device.deviceId).map (fun cmd => (commandTopic device, cmd.command)) ∧
      Publication.content request = (commandTopic device, bareCommand "request_capabilities") ∧
      w.published ++ sent ++ [request] <+: (after (wakeUp env device) w).published := by
  obtain ⟨v, sent, flushed, -, published, contents⟩ := outcome_flush env device w
  obtain ⟨request, content, sends⟩ := requestCapabilities_sends env device none false v
  refine ⟨sent, request, contents, content, ?_⟩
  unfold wakeUp
  rw [after_bind_ok flushed, ← published]
  refine sends.trans (Upholds.rest grows_closed (fun d => grows_of_emits ?_) v)
  exact Emits.bind (upholds_requestBare permits_all.respected.toIssued trivial) (fun _ =>
    Emits.bind (Emits.when (fun _ => upholds_requestBare permits_all.respected.toIssued trivial))
      (fun _ => Emits.pure _))

/-- Every selection that leaves out the ota_update rows finds the same rows. -/
structure OtaOnly (w v : World) : Prop where
  published : v.published = w.published
  selection : ∀ p : CommandLog → Bool,
    (∀ r, hasAction (.str "ota_update") r.command = true → p r = false) →
    v.db.commandLogs.rows.filter p = w.db.commandLogs.rows.filter p

theorem otaOnly_closed : Closed OtaOnly :=
  ⟨fun _ => ⟨rfl, fun _ _ => rfl⟩, fun h k => ⟨k.published.trans h.published,
    fun p leavesOut => (k.selection p leavesOut).trans (h.selection p leavesOut)⟩⟩

theorem otaOnly_marks (w : World) {which : CommandLog → Bool}
    (ota : ∀ r, which r = true → hasAction (.str "ota_update") r.command = true)
    (status : CommandStatus) (message : String) (at_ : Time) :
    OtaOnly w (w.apply (.markCommands which status message at_)) := by
  refine ⟨rfl, fun p leavesOut => ?_⟩
  refine (@Table.filter_map_of_dropped _ _ _ p which (fun r _ hit => ?_) (fun r _ miss => by simp [miss])).trans ?_
  · simp only [hit, if_true]
    exact leavesOut _ (ota r hit)
  · rw [List.filter_eq_self]
    intro r selected
    obtain ⟨-, chosen⟩ := List.mem_filter.mp selected
    cases hit : which r with
    | false => rfl
    | true =>
      rw [leavesOut r (ota r hit)] at chosen
      cases chosen

theorem otaOnly_pending (deviceId : String) (due : CommandLog → Bool) (status : CommandStatus)
    (message : String) (at_ : Time) :
    Upholds OtaOnly (do
      let pending ← read (fun w => pendingNewestFirst w.db deviceId (.str "ota_update"))
      forEach pending (fun cmd => when (due cmd) (markCommand cmd status message at_))) := by
  intro w
  rw [after_markPending]
  split
  · refine otaOnly_marks w (fun r hit => ?_) status message at_
    simp only [pendingOf, Bool.and_eq_true] at hit
    exact hit.1.2
  · exact otaOnly_closed.refl w

theorem otaOnly_checkOtaTimeouts (env : Env) (device : Device) : Upholds OtaOnly (checkOtaTimeouts env device) :=
  otaOnly_pending _ _ _ _ _

theorem otaOnly_resolveOtaUpdates (env : Env) (device : Device) :
    Upholds OtaOnly (resolveOtaUpdates env device) :=
  otaOnly_pending _ _ _ _ _

theorem total_checkOtaTimeouts (env : Env) (device : Device) : Total (checkOtaTimeouts env device) :=
  fun w => ⟨(), _, outcome_checkOtaTimeouts env device w⟩

theorem total_resolveOtaUpdates {env : Env} {device : Device} (text : nulFree device.fwVersion = true) :
    Total (resolveOtaUpdates env device) := fun w => ⟨(), _, outcome_resolveOtaUpdates text w⟩

theorem checkOtaTimeouts_ok (env : Env) (device : Device) (w : World) :
    ∃ v, outcome (checkOtaTimeouts env device) w = (.ok (), v) ∧ OtaOnly w v := by
  have only := otaOnly_checkOtaTimeouts env device w
  have ran := outcome_checkOtaTimeouts env device w
  rw [after, ran] at only
  exact ⟨_, ran, only⟩

/-- Whether the message clears a stale alert and has to announce it first. -/
def clearsAlert (now : Time) (device : Device) : Bool :=
  (reconcileAlert now { device with lastSeen := some now }).2.2

theorem reconcileAlert_accepts (now : Time) (device : Device) :
    ((DeviceField.lastSeen :: (reconcileAlert now device).2.1).all (reconcileAlert now device).1.accepts) = true ∧
      ((reconcileAlert now device).2.2 = true → (reconcileAlert now device).1.alertMessage = "") := by
  have empty : varchar 256 "" = true := by decide
  rcases reconcileAlert_cases now device with h | h | h <;> rw [h]
  · simp [alertFields, Device.accepts, Device.clearAlert, empty]
  · simp [Device.accepts]
  · simp [Device.accepts]

theorem lastSeen_reconcileAlert (now : Time) (device : Device) :
    (reconcileAlert now device).1.lastSeen = device.lastSeen := by
  rcases reconcileAlert_cases now device with h | h | h <;> simp [h, Device.clearAlert]

theorem outcome_announceCleared (env : Env) (device : Device) (cleared : device.alertMessage = "") (w : World) :
    ∃ v, Aside w v ∧ outcome (announceCleared env device) w =
      (if env.channel w.broadcasts.length then .ok () else .error .channel, v) := by
  have taken : varchar 256 (statusRow env device).alertMessage = true := by
    rw [show (statusRow env device).alertMessage = device.alertMessage from rfl, cleared]
    decide
  have logged := outcome_addStatusLog taken w
  have count : (w.apply (.addStatusLog (statusRow env device))).broadcasts = w.broadcasts := rfl
  unfold announceCleared
  rw [outcome_bind_ok logged, outcome_groupSend, count]
  by_cases up : env.channel w.broadcasts.length = true
  · rw [if_pos up, if_pos up]
    refine ⟨_, ?_, rfl⟩
    exact ⟨rfl, rfl, rfl⟩
  · rw [if_neg up, if_neg up]
    refine ⟨_, ?_, rfl⟩
    exact ⟨rfl, rfl, rfl⟩

theorem OtaOnly.flushRows {w v : World} (h : OtaOnly w v) (deviceId : String) :
    flushRows v.db deviceId = flushRows w.db deviceId := by
  unfold SensorServer.flushRows
  rw [h.selection _ (fun r ota => ?_)]
  have left : notOtaUpdate r.command = false := by
    unfold notOtaUpdate
    unfold hasAction at ota
    cases action : actionOf r.command with
    | none => rfl
    | some a =>
      rw [action] at ota
      simpa using ota
  simp [left]

/-- What is left of the handler once the row is saved and the OTA updates are checked. -/
def heardRest (env : Env) (deviceType : String) (data : Fields) (woken : Bool) (device : Device) : Act Unit := do
  let device ← (if woken then wakeUp env device else checkCapabilitiesTimeout env device)
  approvedRest env deviceType data device

theorem sensorBody_opens_within {R : World → World → Prop} (closed : Closed R) {env : Env} {deviceType : String}
    {data : Fields} {device : Device} {created : Bool} {w : World}
    (announced : clearsAlert env.now device = true → env.channel w.broadcasts.length = true)
    (announce : ∀ d, SameUnit device d → d.alertLevel = .ok → Upholds R (announceCleared env d))
    (save : ∀ d fields, SameUnit device d → (∀ f ∈ fields, f ∈ .lastSeen :: approvedFields) →
      Upholds R (saveDevice d fields))
    (check : ∀ d, SameUnit device d → Upholds R (checkOtaTimeouts env d)) :
    ∃ v, R w v ∧ OtaOnly w v ∧ after (sensorBody env deviceType data device created) w =
      after (heardRest env deviceType data (created || !device.isOnline env.now)
        (reconcileAlert env.now { device with lastSeen := some env.now }).1) v := by
  have seen : SameUnit device { device with lastSeen := some env.now } := ⟨rfl, rfl⟩
  obtain ⟨same, names_⟩ := reconcileAlert_spec env.now seen
  obtain ⟨accepts, empty⟩ := reconcileAlert_accepts env.now { device with lastSeen := some env.now }
  have level := @reconcileAlert_level env.now { device with lastSeen := some env.now }
  unfold clearsAlert at announced
  rw [sensorBody_halves]
  dsimp only
  generalize reconcileAlert env.now { device with lastSeen := some env.now } = reconciled at *
  obtain ⟨d, names, cleared⟩ := reconciled
  dsimp only at accepts empty announced same names_ level ⊢
  have first : ∃ v, outcome (when cleared (announceCleared env d)) w = (.ok (), v) ∧ Aside w v ∧ R w v := by
    cases cleared with
    | false => exact ⟨w, rfl, aside_closed.refl w, closed.refl w⟩
    | true =>
      have within := announce d same (level rfl) w
      obtain ⟨v, aside, run⟩ := outcome_announceCleared env d (empty rfl) w
      rw [announced rfl] at run
      rw [after, run] at within
      exact ⟨v, run, aside, within⟩
  obtain ⟨v₁, ran₁, aside₁, within₁⟩ := first
  have ran₂ : outcome (saveDevice d (.lastSeen :: names)) v₁ =
      (.ok (), v₁.apply (.saveDevice d (.lastSeen :: names))) := by
    rw [outcome_saveDevice, if_pos accepts]
  have within₂ := save d _ same names_ v₁
  obtain ⟨v₃, ran₃, same₃⟩ := checkOtaTimeouts_ok env d (v₁.apply (.saveDevice d (.lastSeen :: names)))
  have within₃ := check d same (v₁.apply (.saveDevice d (.lastSeen :: names)))
  rw [after, ran₂] at within₂
  rw [after, ran₃] at within₃
  have same₀ : OtaOnly w (v₁.apply (.saveDevice d (.lastSeen :: names))) :=
    ⟨aside₁.published, fun _ _ => congrArg (List.filter _) (congrArg (fun t => t.rows) aside₁.commandLogs)⟩
  refine ⟨v₃, closed.trans within₁ (closed.trans within₂ within₃), otaOnly_closed.trans same₀ same₃, ?_⟩
  rw [after_bind_ok ran₁, after_bind_ok ran₂]
  unfold savedRest
  rw [after_bind_ok ran₃]
  rfl

theorem sensorBody_opens {env : Env} {deviceType : String} {data : Fields} {device : Device} {created : Bool}
    {w : World} (announced : clearsAlert env.now device = true → env.channel w.broadcasts.length = true) :
    ∃ v, OtaOnly w v ∧ after (sensorBody env deviceType data device created) w =
      after (heardRest env deviceType data (created || !device.isOnline env.now)
        (reconcileAlert env.now { device with lastSeen := some env.now }).1) v := by
  have any : Closed (fun _ _ : World => True) := ⟨fun _ => trivial, fun _ _ => trivial⟩
  obtain ⟨v, -, opened⟩ := sensorBody_opens_within any announced (fun _ _ _ _ => trivial)
    (fun _ _ _ _ _ => trivial) (fun _ _ _ => trivial)
  exact ⟨v, opened⟩

theorem grows_approvedRest {env : Env} {deviceType : String} {data : Fields} {device : Device} :
    Upholds Grows (approvedRest env deviceType data device) :=
  grows_of_emits (upholds_approvedRest permits_all.respected.toRecounted (fun _ _ _ _ => trivial)
    (fun _ _ _ => trivial)
    (⟨rfl, rfl⟩ : SameUnit device device) trivial)

theorem sensorBody_wakes {env : Env} {deviceType : String} {data : Fields} {device : Device} {w : World}
    (offline : device.isOnline env.now = false)
    (announced : clearsAlert env.now device = true → env.channel w.broadcasts.length = true) :
    ∃ sent request, sent.map Publication.content =
        (flushRows w.db device.deviceId).map (fun cmd => (commandTopic device, cmd.command)) ∧
      Publication.content request = (commandTopic device, bareCommand "request_capabilities") ∧
      w.published ++ sent ++ [request] <+:
        (after (sensorBody env deviceType data device false) w).published := by
  have seen : SameUnit device { device with lastSeen := some env.now } := ⟨rfl, rfl⟩
  obtain ⟨same, -⟩ := reconcileAlert_spec env.now seen
  obtain ⟨v, opened, rest⟩ := @sensorBody_opens env deviceType data device false w announced
  rw [rest, offline]
  generalize (reconcileAlert env.now { device with lastSeen := some env.now }).1 = d at same ⊢
  have rows : flushRows v.db d.deviceId = flushRows w.db device.deviceId := by rw [opened.flushRows, same.1]
  obtain ⟨sent, request, contents, content, sends⟩ := wakeUp_sends env d v
  refine ⟨sent, request, ?_, ?_, ?_⟩
  · rw [contents, rows, same.topic]
  · rw [content, same.topic]
  · rw [opened.published] at sends
    exact sends.trans (Upholds.rest grows_closed (fun _ => grows_approvedRest) v)

theorem sensorBody_online {env : Env} {deviceType : String} {data : Fields} {device : Device}
    (online : device.isOnline env.now = true) (w : World) :
    Sends (fun _ payload => payload = bareCommand "get_diag") w
      (after (sensorBody env deviceType data device false) w) :=
  sends_of_emits (upholds_sensorBody (permits_sends _).respected (fun _ _ => trivial) (fun _ _ _ _ => trivial)
    (fun asleep => by simp [online] at asleep) rfl) w

theorem sensorBody_named {env : Env} {deviceType : String} {data : Fields} {device : Device} {created : Bool}
    (w : World) :
    Sends (fun _ payload => (actionOf payload).isSome = true) w
      (after (sensorBody env deviceType data device created) w) := by
  have flush : ∀ command, notOtaUpdate command = true → (actionOf command).isSome = true := by
    intro command named
    unfold notOtaUpdate at named
    cases action : actionOf command with
    | none => simp [action] at named
    | some _ => rfl
  exact sends_of_emits (upholds_sensorBody (permits_sends _).respected (fun _ _ => trivial)
    (fun _ _ _ _ => trivial)
    (fun _ => ⟨flush, rfl, rfl, rfl⟩) rfl) w

theorem sensorBody_stranded {env : Env} {deviceType : String} {data : Fields} {created : Bool}
    {w : World} {row : Device}
    (cleared : clearsAlert env.now row = true) (refused : env.channel w.broadcasts.length = false) :
    after (sensorBody env deviceType data row created) w =
      w.apply (.addStatusLog ⟨env.now, row.deviceId, .ok, ""⟩) := by
  have split_ := reconcileAlert_cleared cleared
  rw [sensorBody_halves, split_]
  dsimp only
  generalize clear : ({ row with lastSeen := some env.now } : Device).clearAlert = gone
  have log : statusRow env gone = ⟨env.now, row.deviceId, .ok, ""⟩ := by
    rw [← clear]
    rfl
  have said : outcome (addStatusLog (statusRow env gone)) w =
      (.ok (), w.apply (.addStatusLog (statusRow env gone))) := by
    refine outcome_addStatusLog ?_ w
    rw [log]
    exact (by decide : varchar 256 "" = true)
  have count : (w.apply (.addStatusLog (statusRow env gone))).broadcasts = w.broadcasts := rfl
  have unsent : outcome (announceCleared env gone) w =
      (.error .channel, w.apply (.addStatusLog (statusRow env gone))) := by
    unfold announceCleared
    rw [outcome_bind_ok said, outcome_groupSend, count, refused]
    rfl
  have announced : outcome (when true (announceCleared env gone)) w =
      (.error .channel, w.apply (.addStatusLog (statusRow env gone))) := unsent
  rw [after_bind_error announced, log]

theorem sensorBody_refused {env : Env} {deviceType : String} {data : Fields} {device : Device}
    {created : Bool} {w : World} (cleared : clearsAlert env.now device = true)
    (refused : env.channel w.broadcasts.length = false) :
    (after (sensorBody env deviceType data device created) w).published = w.published := by
  rw [sensorBody_stranded cleared refused]
  rfl

theorem deliver_sensors {w : World} {s : Delivery} {data : Fields} {device : Device}
    (sensors : s.kind = .sensors) (object : s.payload.object? = some data)
    (known : w.device? s.deviceId = some device) :
    deliver w s = after (sensorBody s.env s.deviceType data device false) w := by
  have found : outcome (getOrCreateDevice s.env s.deviceType s.deviceId) w = (.ok (device, false), w) := by
    unfold getOrCreateDevice
    rw [outcome_bind, outcome_read, known]
    rfl
  unfold deliver handleMessage
  rw [sensors]
  dsimp only [handleSensorMessage]
  rw [withObject_object _ _ object, after_bind_ok found]

/-- The message is an accepted report of the device. -/
def ReportOf (deviceId : String) (w : World) (d : Delivery) : Prop :=
  d.deviceId = deviceId ∧ d.kind.isReport = true ∧ accepted w d = true

instance (deviceId : String) (w : World) (d : Delivery) : Decidable (ReportOf deviceId w d) :=
  inferInstanceAs (Decidable (_ ∧ _))

theorem reports_run {deviceId : String} {w : World} {device : Device} {before : List Delivery}
    (known : w.device? deviceId = some device)
    (reports : Run.Along deliver (ReportOf deviceId) w before) :
    ∃ row, (Run.run deliver w before).device? deviceId = some row ∧
      row.publishInterval = device.publishInterval ∧ row.deviceType = device.deviceType ∧
      row.lastSeen = (before.getLast?.map (fun d => d.env.now)).or device.lastSeen ∧
      (Run.run deliver w before).db.commandLogs = w.db.commandLogs := by
  induction before generalizing w device with
  | nil => exact ⟨device, known, rfl, rfl, by simp, rfl⟩
  | cons d before ih =>
    obtain ⟨⟨id, kind, valid⟩, rest⟩ := reports
    rw [← id] at known
    obtain ⟨row, found, seen, interval, type, logs⟩ := deliver_accepted kind known valid
    rw [id] at found
    obtain ⟨last, found', interval', type', seen', logs'⟩ := ih found rest
    refine ⟨last, found', interval'.trans interval, type'.trans type, ?_, logs'.trans logs⟩
    rw [seen', seen, List.getLast?_cons]
    cases before.getLast? <;> rfl

/-- The first sensors message of a return flushes and then asks for capabilities. -/
def WakesUp (w : World) (s : Delivery) (device : Device) : Prop :=
  ∃ sent request rest, (deliver w s).published = w.published ++ sent ++ [request] ++ rest ∧
    Publication.content request = (commandTopic device, bareCommand "request_capabilities") ∧
    ∀ row ∈ w.db.commandLogs.rows, row.device = device.deviceId → row.status = .pending →
      hasAction (.str "ota_update") row.command = false →
      (commandTopic device, row.command) ∈ sent.map Publication.content

theorem wakesUp_step {w : World} {s : Delivery} {data : Fields} {row : Device}
    (sensors : s.kind = .sensors) (object : s.payload.object? = some data)
    (known : w.device? s.deviceId = some row)
    (tracked : ∀ r ∈ w.db.commandLogs.rows, r.acked = r.status.terminal) :
    WakesUp w s row ↔ row.isOnline s.env.now = false ∧
      (clearsAlert s.env.now row = true → s.env.channel w.broadcasts.length = true) ∧
      ∀ r ∈ w.db.commandLogs.rows, r.device = row.deviceId → r.status = .pending →
        hasAction (.str "ota_update") r.command = false → (actionOf r.command).isSome = true := by
  have handled := deliver_sensors sensors object known
  unfold WakesUp
  rw [handled]
  constructor
  · rintro ⟨sent, request, rest, published, content, each⟩
    have new : ∀ {sends}, Sends sends w (after (sensorBody s.env s.deviceType data row false) w) →
        ∀ p ∈ sent ++ [request] ++ rest, sends p.topic p.payload := by
      rintro sends ⟨more, same, ok⟩
      rw [published, List.append_assoc, List.append_assoc] at same
      rw [List.append_assoc, List.append_cancel_left same]
      exact ok
    refine ⟨?_, ?_, ?_⟩
    · by_contra online
      have asked := new (sensorBody_online (by simpa using online) w) request (by simp)
      have payload : request.payload = bareCommand "request_capabilities" := congrArg Prod.snd content
      rw [payload] at asked
      exact absurd asked (by decide)
    · intro cleared
      by_contra refused
      have silent : (after (sensorBody s.env s.deviceType data row false) w).published = w.published :=
        sensorBody_refused cleared (by simpa using refused)
      rw [published] at silent
      simpa using congrArg List.length silent
    · intro r member mine pending other
      obtain ⟨p, sent_, same⟩ := List.mem_map.mp (each r member mine pending other)
      have named := new (sensorBody_named w) p (by simp [sent_])
      have payload : p.payload = r.command := congrArg Prod.snd same
      rwa [payload] at named
  · rintro ⟨offline, announced, named⟩
    obtain ⟨sent, request, contents, content, rest, published⟩ :=
      @sensorBody_wakes s.env s.deviceType data row w offline announced
    refine ⟨sent, request, rest, published.symm, content, ?_⟩
    intro r member mine pending other
    rw [contents]
    refine List.mem_map.mpr ⟨r, ?_, rfl⟩
    refine OrderBy.mem_ascending.mpr (List.mem_filter.mpr ⟨member, ?_⟩)
    have open_ : r.acked = false := by rw [tracked r member, pending]; rfl
    obtain ⟨action, has⟩ := Option.isSome_iff_exists.mp (named r member mine pending other)
    simp [mine, open_, notOtaUpdate, hasAction, has] at other ⊢
    exact other

theorem offline_iff {device : Device} {now : Time} :
    device.isOnline now = false ↔ ∀ seen, device.lastSeen = some seen → seen + device.offlineTimeout ≤ now := by
  unfold Device.isOnline
  cases device.lastSeen with
  | none => simp
  | some seen =>
    simp only [decide_eq_false_iff_not, not_lt, Option.some.injEq, forall_eq']
    exact ⟨fun h => by linarith, fun h => by linarith⟩

theorem offline_after_reports {device row : Device} {before : List Delivery} {s : Delivery}
    (offline : ∀ d ∈ (before ++ [s]).head?, device.isOnline d.env.now = false)
    (ordered : (before ++ [s]).Pairwise (fun a b => a.env.now ≤ b.env.now))
    (interval : row.publishInterval = device.publishInterval)
    (seen : row.lastSeen = (before.getLast?.map (fun d => d.env.now)).or device.lastSeen) :
    row.isOnline s.env.now = false ↔ ∀ d ∈ before, d.env.now + device.offlineTimeout ≤ s.env.now := by
  have timeout : row.offlineTimeout = device.offlineTimeout := by simp [Device.offlineTimeout, interval]
  rw [offline_iff, seen, timeout]
  cases last : before.getLast? with
  | none =>
    rw [List.getLast?_eq_none_iff.mp last] at offline ⊢
    have asleep := offline_iff.mp (offline s (by simp))
    simpa using asleep
  | some z =>
    have member : z ∈ before := List.mem_of_getLast? last
    simp only [Option.map_some, Option.some_or, Option.some.injEq, forall_eq']
    refine ⟨fun h d hd => ?_, fun h => h z member⟩
    -- the last report is the latest
    have latest : d.env.now ≤ z.env.now := by
      obtain ⟨front, rfl⟩ := List.getLast?_eq_some_iff.mp last
      rcases List.mem_append.mp hd with hd | hd
      · have pairs := (List.pairwise_append.mp ordered).1
        exact (List.pairwise_append.mp pairs).2.2 d hd z (by simp)
      · rw [List.mem_singleton.mp hd]
    linarith

/-- A device comes back: accepted reports, then its first sensors message. That message
flushes and asks for capabilities exactly when no report is younger than the offline
timeout, every pending command other than an ota_update has an action, and the
announcement of a stale alert is not refused. -/
theorem wakes_up_iff {deviceId : String} {w : World} {device : Device} {before : List Delivery}
    {s : Delivery} (known : w.device? deviceId = some device)
    (tracked : ∀ r ∈ w.db.commandLogs.rows, r.acked = r.status.terminal)
    (offline : ∀ d ∈ (before ++ [s]).head?, device.isOnline d.env.now = false)
    (ordered : (before ++ [s]).Pairwise (fun a b => a.env.now ≤ b.env.now))
    (reports : Run.Along deliver (ReportOf deviceId) w before)
    (sensors : s.kind = .sensors) (mine : s.deviceId = deviceId) (object : s.payload.object?.isSome) :
    WakesUp (Run.run deliver w before) s device ↔
      (∀ d ∈ before, d.env.now + device.offlineTimeout ≤ s.env.now) ∧
      (∀ row, (Run.run deliver w before).device? deviceId = some row → clearsAlert s.env.now row = true →
        s.env.channel (Run.run deliver w before).broadcasts.length = true) ∧
      ∀ r ∈ w.db.commandLogs.rows, r.device = deviceId → r.status = .pending →
        hasAction (.str "ota_update") r.command = false → (actionOf r.command).isSome = true := by
  obtain ⟨data, object⟩ := Option.isSome_iff_exists.mp object
  obtain ⟨row, found, interval, type, seen, logs⟩ := reports_run known reports
  have id : device.deviceId = deviceId := Table.key_get? known
  have id' : row.deviceId = deviceId := Table.key_get? found
  have same : ∀ v t, WakesUp v t device ↔ WakesUp v t row := by
    intro v t
    unfold WakesUp commandTopic
    rw [id, id', type]
  rw [same, wakesUp_step sensors object (mine ▸ found) (by rw [logs]; exact tracked),
    offline_after_reports offline ordered interval seen, logs, id', found]
  simp

def sleeper : Device :=
  { deviceId := "living01", deviceType := "thermo", createdAt := 0, lastSeen := some 0 }

def sleeping : World :=
  (World.empty.apply (.createDevice sleeper)).apply
    (.addCommandLog "living01" (bareCommand "reboot") (seconds 1) none)

def wakeMessage (kind : MessageKind) (at_ : Time) : Delivery :=
  { env := { now := at_ }, kind := kind, deviceType := "thermo", deviceId := "living01"
    payload := ⟨2, .value (.obj [])⟩ }

theorem sleeping_wakes : WakesUp (Run.run deliver sleeping [wakeMessage .diag (seconds 400)])
    (wakeMessage .sensors (seconds 2000)) sleeper :=
  (@wakes_up_iff "living01" sleeping sleeper [wakeMessage .diag (seconds 400)] (wakeMessage .sensors (seconds 2000))
    (by decide) (by decide) (by decide) (by decide) (by decide) rfl rfl rfl).mpr
    ⟨by decide, fun _ _ _ => rfl, by decide⟩

/-- A diag message right before the sensors message hides the wake-up. -/
theorem sleeping_diag_first :
    Run.Along deliver (ReportOf "living01") sleeping [wakeMessage .diag (seconds 400)] ∧
    sleeper.isOnline (seconds 400) = false ∧
    ¬ WakesUp (Run.run deliver sleeping [wakeMessage .diag (seconds 400)])
      (wakeMessage .sensors (seconds 401)) sleeper := by
  refine ⟨by decide, by decide, ?_⟩
  have silent : ∀ p ∈ (deliver (Run.run deliver sleeping [wakeMessage .diag (seconds 400)])
      (wakeMessage .sensors (seconds 401))).published,
      p.content ≠ (commandTopic sleeper, bareCommand "request_capabilities") := by decide
  rintro ⟨sent, request, rest, published, content, -⟩
  exact silent request (by rw [published]; simp) content

end SensorServer
