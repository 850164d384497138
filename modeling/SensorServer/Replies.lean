import SensorServer.Failure
import SensorServer.Lib.Run

/-! Where the answers to a message go: a handler is told the device type of the topic,
the services build theirs from the type the row was created with. -/
namespace SensorServer
open Program

structure Mail where
  env : Env
  topic : String
  payload : Payload

def receive (w : World) (m : Mail) : World := after (onMessage m.env m.topic m.payload) w

def replyTopic (deviceType deviceId : String) : String := deviceType ++ "/" ++ deviceId ++ "/command"

def RepliesHome (w : World) (m : Mail) : Prop :=
  ∀ deviceType deviceId msgType, parseTopic m.topic = some (deviceType, deviceId, msgType) →
    Sends (fun topic _ => topic = replyTopic deviceType deviceId) w (receive w m)

theorem replyTopic_inj {first second deviceId : String} :
    replyTopic first deviceId = replyTopic second deviceId ↔ first = second := by
  constructor
  · intro same
    have chars : (replyTopic first deviceId).toList = (replyTopic second deviceId).toList := by rw [same]
    simp only [replyTopic, String.toList_append, List.append_assoc] at chars
    exact String.toList_inj.mp (List.append_cancel_right chars)
  · exact fun same => by rw [same]

def timedOut (now : Time) (device : Device) : Device :=
  if capabilitiesOverdue device now then
    { device with alertLevel := .error, alertMessage := noCapabilitiesAlert, alertUpdatedAt := some now,
                  capabilitiesRequestedAt := none }
  else device

def polled (now : Time) (device : Device) : Bool :=
  let device := timedOut now (reconcileAlert now { device with lastSeen := some now }).1
  device.isApproved && wantsDiag device now

def answersSensors (w : World) (env : Env) (device : Device) : Bool :=
  (!clearsAlert env.now device || env.channel w.broadcasts.length) &&
    (!device.isOnline env.now || polled env.now device)

def answersCapabilities (w : World) (data : Fields) (device : Device) : Bool :=
  let saved := reportedDevice w data device
  capabilitiesFields.all saved.accepts && (storeEmpty data && saved.calibration.any (fun kv => kv.2.isNumber))

/-- Whether handling a message of a known device publishes anything. -/
def answered (w : World) (d : Delivery) (device : Device) : Bool :=
  match d.payload.object? with
  | none => false
  | some data =>
    match d.kind with
    | .sensors => answersSensors w d.env device
    | .capabilities => answersCapabilities w data device
    | .status | .commands | .calibration | .diag | .ack => false

theorem published_of_sends_none {w v : World} (h : Sends (fun _ _ => False) w v) :
    v.published = w.published := by
  obtain ⟨new, published, each⟩ := h
  have none_ : new = [] := List.eq_nil_iff_forall_not_mem.mpr (fun p member => each p member)
  rw [published, none_, List.append_nil]

theorem published_of_grows {w v : World} {new : List Publication} (some_ : new ≠ [])
    (more : w.published ++ new <+: v.published) : v.published ≠ w.published := by
  intro same
  have longer := more.length_le
  rw [same, List.length_append] at longer
  exact some_ (List.length_eq_zero_iff.mp (by omega))

section Sensors
variable {env : Env} {device : Device}

theorem returns_timedOut :
    Returns (fun d => d = timedOut env.now device) (checkCapabilitiesTimeout env device) := by
  unfold checkCapabilitiesTimeout timedOut
  split
  · exact Returns.bind (fun _ => Returns.bind (fun _ => Returns.bind (fun _ => Returns.pure rfl)))
  · exact Returns.pure rfl

theorem total_checkCapabilitiesTimeout : Total (checkCapabilitiesTimeout env device) := by
  have alert : varchar 256 noCapabilitiesAlert = true := by decide
  have text : nulFree ("No response within " ++ toString (capabilitiesTimeout device) ++ "s") = true :=
    nulFree_append (nulFree_append (by decide) (nulFree_toString _)) (by decide)
  unfold checkCapabilitiesTimeout
  split
  · dsimp only
    generalize late_ : ({ device with
      alertLevel := .error, alertMessage := noCapabilitiesAlert, alertUpdatedAt := some env.now,
      capabilitiesRequestedAt := none } : Device) = late
    have said : late.alertMessage = noCapabilitiesAlert := by rw [← late_]
    refine Total.bind (total_saveDevice ?_) (fun _ => Total.bind ?_ (fun _ =>
      Total.bind (total_resolveCapabilityRequests text) (fun _ => Total.pure _)))
    · simp [alertFields, Device.accepts, said, alert]
    · exact fun w => ⟨(), _, @outcome_addStatusLog (statusRow env late)
        (show varchar 256 late.alertMessage = true from said ▸ alert) w⟩
  · exact Total.pure _

theorem unsent_checkCapabilitiesTimeout (w : World) :
    (after (checkCapabilitiesTimeout env device) w).published = w.published :=
  published_of_sends_none (sends_of_emits (upholds_checkCapabilitiesTimeout (permits_sends _).respected
    (fun _ _ _ _ => trivial) (fun _ _ => trivial) (⟨rfl, rfl⟩ : SameUnit device device)) w)

theorem unsent_storeReadings {deviceType : String} {data : Fields} (w : World) :
    (after (storeReadings env device deviceType data) w).published = w.published :=
  published_of_sends_none (sends_of_emits (upholds_storeReadings (permits_sends _).respected.toRecounted
    (fun _ _ _ _ => trivial) (fun _ _ _ => trivial) (⟨rfl, rfl⟩ : SameUnit device device)) w)

theorem maybeRequestDiag_asks (asks : wantsDiag device env.now = true) (w : World) :
    w.published ++ [⟨commandTopic device, bareCommand "get_diag", false, 1, env.broker w.published.length⟩] <+:
      (after (maybeRequestDiag env device) w).published := by
  have sent : outcome (requestDiag env device) w = (.ok (), w.apply (.publish
      ⟨commandTopic device, bareCommand "get_diag", false, 1, env.broker w.published.length⟩)) :=
    outcome_bind_ok (outcome_attempt_publish _ _ _ _ _ w)
  unfold maybeRequestDiag
  rw [if_pos asks, after_bind_ok sent]
  refine grows_of_emits ?_ (w.apply (.publish
    ⟨commandTopic device, bareCommand "get_diag", false, 1, env.broker w.published.length⟩))
  exact Emits.bind (permits_all.respected.saveDevice trivial) (fun _ => Emits.pure _)

theorem approvedRest_unsent_iff {deviceType : String} {data : Fields} (w : World) :
    (after (approvedRest env deviceType data device) w).published = w.published ↔
      (device.isApproved && wantsDiag device env.now) = false := by
  unfold approvedRest
  cases device.isApproved with
  | false => exact iff_of_true rfl rfl
  | true =>
    rw [when, if_pos rfl]
    cases asks : wantsDiag device env.now with
    | false =>
      unfold maybeRequestDiag
      rw [asks]
      exact iff_of_true (unsent_storeReadings w) rfl
    | true =>
      have rest : Grows (after (maybeRequestDiag env device) w) (after (do
          let d ← maybeRequestDiag env device
          storeReadings env d deviceType data) w) :=
        Upholds.rest grows_closed (fun d => grows_of_emits (upholds_storeReadings permits_all.respected.toRecounted
          (fun _ _ _ _ => trivial) (fun _ _ _ => trivial) (⟨rfl, rfl⟩ : SameUnit d d))) w
      exact iff_of_false (published_of_grows (List.cons_ne_nil _ _)
        ((maybeRequestDiag_asks asks w).trans rest)) (by simp)

theorem sensorBody_unsent_iff {deviceType : String} {data : Fields} {w : World} :
    (after (sensorBody env deviceType data device false) w).published = w.published ↔
      answersSensors w env device = false := by
  unfold answersSensors
  by_cases announced : clearsAlert env.now device = true → env.channel w.broadcasts.length = true
  swap
  · obtain ⟨cleared, refused⟩ := Classical.not_imp.mp announced
    refine iff_of_true (sensorBody_refused cleared (by simpa using refused)) ?_
    simp [cleared, refused]
  have goes : (!clearsAlert env.now device || env.channel w.broadcasts.length) = true := by
    cases cleared : clearsAlert env.now device with
    | false => rfl
    | true => simpa using announced cleared
  rw [goes, Bool.true_and]
  cases online : device.isOnline env.now with
  | false =>
    obtain ⟨sent, request, -, -, more⟩ := @sensorBody_wakes env deviceType data device w online announced
    rw [List.append_assoc] at more
    exact iff_of_false (published_of_grows (by simp) more) (by simp)
  | true =>
    obtain ⟨v, opened, rest⟩ := @sensorBody_opens env deviceType data device false w announced
    rw [rest, online]
    unfold heardRest polled
    dsimp only
    generalize (reconcileAlert env.now { device with lastSeen := some env.now }).1 = d
    obtain ⟨d', t, run⟩ := @total_checkCapabilitiesTimeout env d v
    have same : d' = timedOut env.now d := returns_timedOut v d' t run
    have unsent := @unsent_checkCapabilitiesTimeout env d v
    rw [after, run] at unsent
    have asked := @approvedRest_unsent_iff env d' deviceType data t
    rw [same] at run asked
    simp only [Bool.not_true, Bool.or_false, Bool.false_eq_true, if_false, Bool.false_or]
    rw [after_bind_ok run, ← opened.published, ← unsent]
    exact asked

end Sensors

section Capabilities
variable {w : World} {d : Delivery} {data : Fields} {device : Device}

theorem unsent_resolveUpdates {env : Env} {saved : Device} (text : nulFree saved.fwVersion = true) (v : World) :
    ∃ t, t.published = v.published ∧ ∀ rest : Act Unit,
      after (do
        resolveCapabilityRequests env saved .success ""
        resolveOtaUpdates env saved
        rest) v = after rest t := by
  have within := (permits_sends (fun _ _ => False)).respected
  obtain ⟨_, u, first⟩ :=
    @total_resolveCapabilityRequests env saved .success "" (by decide) v
  obtain ⟨_, t, second⟩ := @total_resolveOtaUpdates env saved text u
  have left := published_of_sends_none (sends_of_emits (within.resolveRequests env saved .success "" rfl) v)
  have right := published_of_sends_none (sends_of_emits (within.resolveOtaUpdates env saved) u)
  rw [after, first] at left
  rw [after, second] at right
  refine ⟨t, right.trans left, fun rest => ?_⟩
  rw [after_bind_ok first, after_bind_ok second]

theorem outcome_capabilitiesRest {env : Env} {saved : Device} {repush : Bool}
    (text : nulFree saved.fwVersion = true) (v : World) :
    ∃ sent, (after (capabilitiesRest env saved repush) v).published = v.published ++ sent ∧
      sent.map Publication.content = if repush then repushes saved else [] := by
  obtain ⟨t, published, rest⟩ := @unsent_resolveUpdates env saved text v
  have runs := rest (when repush (repushCalibration env saved))
  change after (capabilitiesRest env saved repush) v = _ at runs
  rw [runs, ← published]
  cases repush with
  | false => exact ⟨[], (List.append_nil _).symm, rfl⟩
  | true =>
    obtain ⟨u, sent, run, -, more, contents⟩ := outcome_repush env saved t
    have ended : after (when true (repushCalibration env saved)) t = u := congrArg Prod.snd run
    exact ⟨sent, by rw [ended, more], contents⟩

theorem deliver_capabilities_sends (kind : d.kind = .capabilities) (object : d.payload.object? = some data)
    (known : w.device? d.deviceId = some device) :
    ∃ sent, (deliver w d).published = w.published ++ sent ∧ sent.map Publication.content =
      if capabilitiesFields.all (reportedDevice w data device).accepts && storeEmpty data then
        repushes (reportedDevice w data device) else [] := by
  unfold deliver handleMessage
  rw [kind]
  dsimp only [handleCapabilitiesMessage]
  rw [after_handler object known, after_read_bind]
  change ∃ sent, (after (do
    when (hadTimeoutAlert device) (addStatusLog (statusRow d.env (reportedDevice w data device)))
    saveDevice (reportedDevice w data device) capabilitiesFields
    capabilitiesRest d.env (reportedDevice w data device)
      (storeEmpty data && !(reportedDevice w data device).calibration.isEmpty)) w).published = _ ∧ _
  obtain ⟨v, aside, logged⟩ := @outcome_logCleared d.env
    (fun code => (w.db.hardwareCodes.get? code).isSome) data device w
  change outcome (when (hadTimeoutAlert device)
    (addStatusLog (statusRow d.env (reportedDevice w data device)))) w = (.ok (), v) at logged
  rw [after_bind_ok logged, ← aside.published]
  have saved := outcome_saveDevice (reportedDevice w data device) capabilitiesFields v
  by_cases taken : capabilitiesFields.all (reportedDevice w data device).accepts = true
  · have text : varchar 32 (reportedDevice w data device).fwVersion = true :=
      List.all_eq_true.mp taken .fwVersion (by decide)
    rw [varchar, Bool.and_eq_true] at text
    rw [if_pos taken] at saved
    rw [after_bind_ok saved, taken, Bool.true_and]
    obtain ⟨sent, published, contents⟩ := @outcome_capabilitiesRest d.env (reportedDevice w data device)
      (storeEmpty data && !(reportedDevice w data device).calibration.isEmpty) text.1
      (v.apply (.saveDevice (reportedDevice w data device) capabilitiesFields))
    refine ⟨sent, published, contents.trans ?_⟩
    cases storeEmpty data with
    | false => rfl
    | true =>
      cases mirror : (reportedDevice w data device).calibration with
      | nil => simp [repushes, mirror]
      | cons _ _ => rfl
  · rw [if_neg taken] at saved
    rw [after_bind_error saved]
    have refused : capabilitiesFields.all (reportedDevice w data device).accepts = false := by simpa using taken
    exact ⟨[], (List.append_nil _).symm, by rw [refused]; rfl⟩

theorem capabilities_unsent_iff (kind : d.kind = .capabilities) (object : d.payload.object? = some data)
    (known : w.device? d.deviceId = some device) :
    (deliver w d).published = w.published ↔ answersCapabilities w data device = false := by
  obtain ⟨sent, published, contents⟩ := deliver_capabilities_sends kind object known
  have none_ : (deliver w d).published = w.published ↔ sent.map Publication.content = [] := by
    rw [published, List.map_eq_nil_iff]
    exact List.append_right_eq_self
  rw [none_, contents]
  unfold answersCapabilities repushes
  dsimp only
  generalize capabilitiesFields.all (reportedDevice w data device).accepts = taken
  cases taken with
  | false => simp
  | true => cases storeEmpty data <;> simp

end Capabilities

section Known
variable {w : World} {d : Delivery} {device : Device}

theorem unsent_other (kind : d.kind ≠ .sensors) (quiet : d.kind ≠ .capabilities) :
    (deliver w d).published = w.published := by
  have permits := permits_sends (fun _ _ => False)
  refine published_of_sends_none (?_ : Sends _ w (deliver w d))
  unfold deliver handleMessage
  cases case : d.kind with
  | sensors => exact absurd case kind
  | capabilities => exact absurd case quiet
  | status => exact sends_of_emits (upholds_handleStatusMessage permits.respected.toRecounted (fun _ _ => trivial)
      (fun _ _ => trivial)) w
  | commands =>
    exact sends_of_emits (upholds_handleCommandsMessage permits.respected.toIssued (fun _ _ => trivial)) w
  | calibration =>
    exact sends_of_emits (upholds_handleCalibrationMessage permits.respected.toIssued (fun _ _ => trivial)) w
  | diag => exact sends_of_emits (upholds_handleDiagMessage permits.respected.toRecounted (fun _ _ => trivial)
      (fun _ _ => trivial)) w
  | ack => exact sends_of_emits (emits_handleAckMessage permits (fun _ _ => trivial)) w

/-- Nothing is published exactly for a message that is not answered. -/
theorem unsent_iff (known : w.device? d.deviceId = some device) :
    (deliver w d).published = w.published ↔ answered w d device = false := by
  unfold answered
  by_cases kind : d.kind = .sensors ∨ d.kind = .capabilities
  swap
  · obtain ⟨notSensors, notCapabilities⟩ := not_or.mp kind
    refine iff_of_true (unsent_other notSensors notCapabilities) ?_
    cases d.payload.object? with
    | none => rfl
    | some data => cases case : d.kind <;> simp_all
  cases object : d.payload.object? with
  | none =>
    exact iff_of_true (by rw [deliver_unread object]) rfl
  | some data =>
    rcases kind with kind | kind
    · rw [deliver_sensors kind object known, kind]
      exact sensorBody_unsent_iff
    · rw [kind]
      exact capabilities_unsent_iff kind object known

end Known

theorem receive_of_topic {w : World} {m : Mail} {deviceType deviceId msgType : String} {kind : MessageKind}
    (topic : parseTopic m.topic = some (deviceType, deviceId, msgType))
    (known : MessageKind.ofTopic msgType = some kind) :
    receive w m = deliver w ⟨m.env, kind, deviceType, deviceId, m.payload⟩ := by
  unfold receive onMessage
  rw [topic]
  dsimp only
  rw [known]
  dsimp only
  rw [after_bind_pure, after_attempt]
  rfl

theorem receive_unknown {w : World} {m : Mail} {deviceType deviceId msgType : String}
    (topic : parseTopic m.topic = some (deviceType, deviceId, msgType))
    (unknown : MessageKind.ofTopic msgType = none) : receive w m = w := by
  unfold receive onMessage
  rw [topic]
  dsimp only
  rw [unknown]
  rfl

/-- The message is answered and its device is known under another type. -/
def strays (w : World) (m : Mail) : Bool :=
  match parseTopic m.topic with
  | none => false
  | some (deviceType, deviceId, msgType) =>
    match MessageKind.ofTopic msgType, w.device? deviceId with
    | some kind, some device =>
      decide (device.deviceType ≠ deviceType) && answered w ⟨m.env, kind, deviceType, deviceId, m.payload⟩ device
    | _, _ => false

section Topics
variable {w : World} {d : Delivery}

theorem sends_unchanged {sends : String → Json → Prop} {w v : World} (same : v.published = w.published) :
    Sends sends w v :=
  ⟨[], by rw [same, List.append_nil], fun _ member => absurd member List.not_mem_nil⟩

theorem sends_sensorBody {env : Env} {deviceType : String} {data : Fields} {device : Device} {created : Bool} :
    Upholds (Sends (fun topic _ => topic = commandTopic device)) (sensorBody env deviceType data device created) :=
  sends_of_emits (upholds_sensorBody (permits_sends _).respected (fun _ _ => trivial) (fun _ _ _ _ => trivial)
    (fun _ => ⟨fun _ _ => rfl, rfl, rfl, rfl⟩) rfl)

theorem sends_known {device : Device} (known : w.device? d.deviceId = some device) :
    Sends (fun topic _ => topic = replyTopic device.deviceType d.deviceId) w (deliver w d) := by
  have own : commandTopic device = replyTopic device.deviceType d.deviceId :=
    congrArg (replyTopic device.deviceType) (Table.key_get? known)
  by_cases kind : d.kind = .sensors ∨ d.kind = .capabilities
  swap
  · obtain ⟨notSensors, notCapabilities⟩ := not_or.mp kind
    exact sends_unchanged (unsent_other notSensors notCapabilities)
  cases object : d.payload.object? with
  | none => exact sends_unchanged (by rw [deliver_unread object])
  | some data =>
    rcases kind with kind | kind
    · rw [deliver_sensors kind object known, ← own]
      exact sends_sensorBody w
    · obtain ⟨sent, published, contents⟩ := deliver_capabilities_sends kind object known
      refine ⟨sent, published, fun p member => ?_⟩
      have listed : p.content ∈ sent.map Publication.content := List.mem_map_of_mem member
      rw [contents] at listed
      split at listed
      · obtain ⟨kv, -, same⟩ := List.mem_map.mp listed
        have topic : p.topic = commandTopic (reportedDevice w data device) := (congrArg Prod.fst same).symm
        have same : commandTopic (reportedDevice w data device) = commandTopic device :=
          congrArg₂ replyTopic deviceType_applyCapabilities deviceId_applyCapabilities
        exact topic.trans (same.trans own)
      · exact absurd listed List.not_mem_nil

theorem sends_unknown (unknown : w.device? d.deviceId = none) :
    Sends (fun topic _ => topic = replyTopic d.deviceType d.deviceId) w (deliver w d) := by
  by_cases kind : d.kind = .sensors
  swap
  · rw [deliver_unknown unknown kind]
    exact (sends_closed _).refl w
  cases object : d.payload.object? with
  | none => exact sends_unchanged (by rw [deliver_unread object])
  | some data =>
    have closed := sends_closed (fun topic _ => topic = replyTopic d.deviceType d.deviceId)
    generalize new : ({ deviceId := d.deviceId, deviceType := d.deviceType, createdAt := d.env.now } : Device) =
      fresh
    have own : commandTopic fresh = replyTopic d.deviceType d.deviceId := by rw [← new]; rfl
    rw [deliver_new unknown kind object new.symm]
    exact Upholds.bind closed (upholds_createDevice closed (fun _ => sends_unchanged rfl))
      (fun _ => own ▸ sends_sensorBody) w

end Topics

theorem sends_home_iff {w : World} {d : Delivery} {device : Device} (known : w.device? d.deviceId = some device) :
    Sends (fun topic _ => topic = replyTopic d.deviceType d.deviceId) w (deliver w d) ↔
      (decide (device.deviceType ≠ d.deviceType) && answered w d device) = false := by
  have sent := sends_known known
  by_cases same : device.deviceType = d.deviceType
  · rw [same] at sent
    exact iff_of_true sent (by simp [same])
  simp only [ne_eq, same, not_false_eq_true, decide_true, Bool.true_and]
  rw [← unsent_iff known]
  constructor
  · rintro ⟨new, published, home⟩
    obtain ⟨new', published', stored⟩ := sent
    have equal : new' = new := List.append_cancel_left (published'.symm.trans published)
    subst equal
    have none_ : new' = [] := List.eq_nil_iff_forall_not_mem.mpr (fun p member =>
      same (replyTopic_inj.mp ((stored p member).symm.trans (home p member))))
    rw [published, none_, List.append_nil]
  · exact sends_unchanged

theorem repliesHome_iff (w : World) (m : Mail) : RepliesHome w m ↔ strays w m = false := by
  unfold RepliesHome strays
  cases topic : parseTopic m.topic with
  | none => simp
  | some parts =>
    obtain ⟨deviceType, deviceId, msgType⟩ := parts
    have once : (∀ type id msg, some (deviceType, deviceId, msgType) = some (type, id, msg) →
        Sends (fun topic _ => topic = replyTopic type id) w (receive w m)) ↔
        Sends (fun topic _ => topic = replyTopic deviceType deviceId) w (receive w m) := by
      constructor
      · exact fun all => all _ _ _ rfl
      · rintro home _ _ _ ⟨⟩
        exact home
    rw [once]
    dsimp only
    cases kind : MessageKind.ofTopic msgType with
    | none => exact iff_of_true (sends_unchanged (by rw [receive_unknown topic kind])) rfl
    | some kind_ =>
      rw [receive_of_topic topic kind]
      cases known : w.device? deviceId with
      | none => exact iff_of_true (@sends_unknown w ⟨m.env, kind_, deviceType, deviceId, m.payload⟩ known) rfl
      | some device => exact @sends_home_iff w ⟨m.env, kind_, deviceType, deviceId, m.payload⟩ device known

/-- In a run every reply goes where the sender listens exactly when no answered message
comes from a device the server knows under another type. -/
theorem replies_go_home_iff (w : World) (ms : List Mail) :
    Run.Along receive RepliesHome w ms ↔ Run.Along receive (fun w m => strays w m = false) w ms :=
  @Run.along_iff _ _ _ _ _ (fun _ => True) (fun w m _ => repliesHome_iff w m) (fun _ _ _ _ => trivial) w ms trivial

/-- A unit reports as thermo, and after a re-flash under the same id as esp. -/
def reflashed : List Mail :=
  [⟨{ now := seconds 1 }, "thermo/living01/sensors", ⟨2, .value (.obj [])⟩⟩,
   ⟨{ now := seconds 900 }, "esp/living01/sensors", ⟨2, .value (.obj [])⟩⟩]

theorem reflashed_astray :
    ¬ Run.Along receive RepliesHome World.empty reflashed ∧
    ((Run.run receive World.empty reflashed).published.map Publication.topic).getLast? =
      some "thermo/living01/command" := by
  refine ⟨?_, by decide +kernel⟩
  rintro ⟨-, astray, -⟩
  have stays := (repliesHome_iff _ _).mp astray
  have leaves : strays (receive World.empty
      ⟨{ now := seconds 1 }, "thermo/living01/sensors", ⟨2, .value (.obj [])⟩⟩)
      ⟨{ now := seconds 900 }, "esp/living01/sensors", ⟨2, .value (.obj [])⟩⟩ = true := by decide +kernel
  rw [leaves] at stays
  cases stays

end SensorServer
