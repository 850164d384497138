import SensorServer.Commands
import SensorServer.Replies
import SensorServer.RequestRace
import SensorServer.RowViews

/-! Whether a device that never answers request_capabilities is flagged for it: the deadline is
kept in one column, and only a message that finds the device online is checked against it. -/
namespace SensorServer
open Program

def isRequest (p : Publication) : Bool := decide (p.payload = bareCommand "request_capabilities")

def newPublications (w v : World) : List Publication := v.published.drop w.published.length

def requestSent (w v : World) : Bool := (newPublications w v).any (fun p => isRequest p && p.delivered)

def lastSent (w v : World) : Bool := ((newPublications w v).filter isRequest).getLast?.any Publication.delivered

def flagsSilence (id : String) (row : DeviceStatusLog) : Bool :=
  decide (row.device = id) && decide (row.alertLevel = .error) && decide (row.alertMessage = noCapabilitiesAlert)

def raisesAlert (id : String) (w v : World) : Bool :=
  (v.db.statusLogs.drop w.db.statusLogs.length).any (flagsSilence id)

def requestMark (id : String) (w : World) : Option Time := ((w.device? id).map Device.capabilitiesRequestedAt).join

structure Hushed (id : String) (w v : World) : Prop extends MarkKept id w v where
  rows : ∃ new, v.db.statusLogs = w.db.statusLogs ++ new ∧ ∀ row ∈ new, flagsSilence id row = false

/-- Nothing is flagged, and the mark is the time of the last request that is sent. -/
structure Followed (id : String) (now : Time) (w v : World) : Prop where
  quiet : raisesAlert id w v = false
  mark : requestMark id v = if lastSent w v then some now else requestMark id w

structure Asks (id : String) (now : Time) (w v : World) : Prop where
  rows : v.db.statusLogs = w.db.statusLogs
  sent : ∃ p, v.published = w.published ++ [p] ∧ isRequest p = true ∧
    requestMark id v = if p.delivered then some now else requestMark id w

def Unasked (_ : String) (payload : Json) : Prop := payload ≠ bareCommand "request_capabilities"

section Steps
variable {id : String} {w v : World} {now : Time}

theorem hushed_of_rows (kept : MarkKept id w v) (rows : v.db.statusLogs = w.db.statusLogs) : Hushed id w v :=
  { toMarkKept := kept, rows := ⟨[], by rw [rows, List.append_nil], fun _ member => by cases member⟩ }

theorem hushed_closed (id : String) : Closed (Hushed id) where
  refl w := hushed_of_rows ((markKept_closed id).refl w) rfl
  trans := by
    intro a b c first second
    obtain ⟨early, former, calm⟩ := first.rows
    obtain ⟨late, latter, calm'⟩ := second.rows
    refine {
      toMarkKept := (markKept_closed id).trans first.toMarkKept second.toMarkKept
      rows := ⟨early ++ late, ?_, ?_⟩ }
    · rw [latter, former, List.append_assoc]
    · intro row member
      rcases List.mem_append.mp member with h | h
      · exact calm row h
      · exact calm' row h

theorem respected_hushed (id : String) :
    Respected (Hushed id) (fun d fields => d.deviceId = id → .capabilitiesRequestedAt ∉ fields)
      (fun _ _ => True) (fun row => flagsSilence id row = false) where
  toServiced := Serviced.of_marks (hushed_closed id)
    (fun w _ _ spares => hushed_of_rows (markKept_saveDevice spares w) rfl)
    (fun w p _ => hushed_of_rows ((respected_mark id).publish w p trivial) rfl)
    (fun _ _ _ _ _ _ => hushed_of_rows ⟨rfl, grows_apply _ _⟩ rfl)
  history := by
    intro w e history log
    have kept := (respected_mark id).history w e history (fun _ _ => trivial)
    cases e with
    | addStatusLog row =>
      refine { toMarkKept := kept, rows := ⟨[row], rfl, fun r member => ?_⟩ }
      rw [List.mem_singleton.mp member]
      exact log row rfl
    | addDiagLog row => exact hushed_of_rows kept rfl
    | addReadings rows => exact hushed_of_rows kept rfl
    | broadcast e => exact hushed_of_rows kept rfl
    | _ => cases history

theorem Hushed.requestMark (hushed : Hushed id w v) : requestMark id v = requestMark id w :=
  congrArg Option.join hushed.mark

theorem Hushed.quiet (hushed : Hushed id w v) : raisesAlert id w v = false := by
  obtain ⟨new, rows, calm⟩ := hushed.rows
  rw [raisesAlert, rows, List.drop_left, List.any_eq_false]
  exact fun row member => Bool.eq_false_iff.mp (calm row member)

theorem newPublications_of_append {new : List Publication} (published : v.published = w.published ++ new) :
    newPublications w v = new := by
  rw [newPublications, published, List.drop_left]

theorem requests_of_unasked {new : List Publication} (each : ∀ p ∈ new, Unasked p.topic p.payload) :
    new.filter isRequest = [] := by
  rw [List.filter_eq_nil_iff]
  exact fun p member request => each p member (of_decide_eq_true request)

theorem Hushed.followed (hushed : Hushed id w v) (sends : Sends Unasked w v) : Followed id now w v := by
  obtain ⟨new, published, each⟩ := sends
  refine ⟨hushed.quiet, ?_⟩
  rw [lastSent, newPublications_of_append published, requests_of_unasked each]
  exact hushed.requestMark

theorem Asks.followed {a b : World} (before : Hushed id w a) (asks : Asks id now a b)
    (hushed : Hushed id b v) (sends : Sends Unasked b v) : Followed id now w v := by
  obtain ⟨early, first⟩ := before.grows
  obtain ⟨p, asked, request, mark⟩ := asks.sent
  obtain ⟨late, rest, each⟩ := sends
  obtain ⟨old, former, calm⟩ := before.rows
  obtain ⟨new, latter, calm'⟩ := hushed.rows
  have published : v.published = w.published ++ (early ++ p :: late) := by
    rw [rest, asked, ← first]
    simp
  have rows : v.db.statusLogs = w.db.statusLogs ++ (old ++ new) := by
    rw [latter, asks.rows, former, List.append_assoc]
  have last : lastSent w v = p.delivered := by
    rw [lastSent, newPublications_of_append published, List.filter_append, List.filter_cons_of_pos request,
      requests_of_unasked each, List.getLast?_append]
    rfl
  constructor
  · rw [raisesAlert, rows, List.drop_left, List.any_eq_false]
    intro row member
    rcases List.mem_append.mp member with h | h
    · exact Bool.eq_false_iff.mp (calm row h)
    · exact Bool.eq_false_iff.mp (calm' row h)
  · rw [last, hushed.requestMark, mark, before.requestMark]

theorem asks_requestCapabilities {env : Env} {device row : Device} {sentBy : Option String} {logCommand : Bool}
    (known : w.device? id = some row) (own : device.deviceId = id) :
    Asks id env.now w (after (requestCapabilities env device sentBy logCommand) w) := by
  rw [after_requestCapabilities]
  dsimp only
  generalize asked : (⟨commandTopic device, bareCommand "request_capabilities", false, 1,
    env.broker w.published.length⟩ : Publication) = p
  have request : isRequest p = true := by rw [← asked]; exact decide_eq_true rfl
  have taken : p.delivered = env.broker w.published.length := by rw [← asked]
  rw [← taken]
  have logged : ∀ u : World,
      let t := after (when logCommand (createCommandLog env device (bareCommand "request_capabilities") sentBy)) u
      t.db.devices = u.db.devices ∧ t.db.statusLogs = u.db.statusLogs ∧ t.published = u.published := by
    intro u
    cases logCommand with
    | false => exact ⟨rfl, rfl, rfl⟩
    | true =>
      intro t
      rw [show t = _ from after_addCommandLog env device.deviceId (bareCommand "request_capabilities") sentBy u]
      split <;> exact ⟨rfl, rfl, rfl⟩
  split
  · next delivered =>
    obtain ⟨devices, rows, published⟩ := logged ((w.apply (.publish p)).apply
      (.saveDevice { device with capabilitiesRequestedAt := some env.now } [.capabilitiesRequestedAt]))
    refine ⟨rows, p, published, request, ?_⟩
    rw [if_pos delivered, requestMark, World.device?, devices]
    change ((World.device? _ id).map _).join = _
    have found : (w.apply (.publish p)).device? id = some row := known
    have own_ : ({ device with capabilitiesRequestedAt := some env.now } : Device).deviceId = row.deviceId :=
      own.trans (Table.key_get? known).symm
    rw [device?_saved found own_]
    rfl
  · next refused => exact ⟨rfl, p, rfl, request, by rw [if_neg refused]; rfl⟩

end Steps

section Sensors
variable {env : Env} {deviceType : String} {data : Fields} {device : Device} {w : World}

theorem hushed_approvedRest {id : String} {d : Device} :
    Upholds (Hushed id) (approvedRest env deviceType data d) := by
  refine upholds_approvedRest (respected_hushed id).toRecounted
    (fun _ _ _ names _ member => absurd (names _ member) (by decide))
    (fun row own level => ?_) (⟨rfl, rfl⟩ : SameUnit d d) trivial
  rw [flagsSilence, level]
  simp

theorem unasked_approvedRest {d : Device} : Upholds (Sends Unasked) (approvedRest env deviceType data d) :=
  upholds_approvedRest (respected_sends Unasked).toRecounted (fun _ _ _ _ => trivial) (fun _ _ _ => trivial)
    (⟨rfl, rfl⟩ : SameUnit d d) (by unfold Unasked bareCommand; decide)

def wakeUpRest (env : Env) (device : Device) : Act Device := do
  requestCommands env device
  when device.supportsDiag (requestStatus env device)
  pure device

theorem followed_woken {u : World} {row : Device} (before : Hushed device.deviceId u w)
    (known : w.device? device.deviceId = some row) :
    Followed device.deviceId env.now u (after (heardRest env deviceType data true device) w) := by
  obtain ⟨a, sent, flushed, db, published, -⟩ := outcome_flush env device w
  have flush : Hushed device.deviceId w a :=
    hushed_of_rows ⟨by unfold World.device?; rw [db], ⟨sent, published.symm⟩⟩ (by rw [db])
  have still : a.device? device.deviceId = some row := by unfold World.device?; rw [db]; exact known
  have asks := @asks_requestCapabilities device.deviceId a env device row none false still rfl
  obtain ⟨d, b, asked⟩ := @total_requestCapabilities env device none false a
  obtain ⟨d', v, woke⟩ := @total_wakeUp env device w
  obtain ⟨_, rfl⟩ := returns_wakeUp w d' v woke
  rw [after, asked] at asks
  have rest : outcome (wakeUp env device) w = outcome (wakeUpRest env d) b := by
    unfold wakeUp
    rw [outcome_bind_ok flushed, outcome_bind_ok asked]
    rfl
  have within : ∀ {R : World → World → Prop}, Closed R → (∀ name, Unasked "" (bareCommand name) →
      Upholds R (requestBare env d name)) → R b v := by
    intro R closed bare
    have kept : R b (after (wakeUpRest env d) b) :=
      Upholds.bind closed (bare "request_commands" (by unfold Unasked bareCommand; decide)) (fun _ =>
        Upholds.bind closed (Upholds.when closed
          (fun _ => bare "get_status" (by unfold Unasked bareCommand; decide)))
          (fun _ => Upholds.pure closed d)) b
    rwa [after, ← rest, woke] at kept
  have hushed := within (hushed_closed device.deviceId)
    (fun _ _ => upholds_requestBare (respected_hushed device.deviceId).toIssued trivial)
  have unasked := within (sends_closed Unasked)
    (fun _ other => upholds_requestBare (respected_sends Unasked).toIssued other)
  unfold heardRest
  rw [if_pos rfl, after_bind_ok woke]
  exact asks.followed ((hushed_closed _).trans before flush)
    ((hushed_closed _).trans hushed (hushed_approvedRest v))
    ((sends_closed _).trans unasked (unasked_approvedRest v))

theorem followed_online {u : World} (before : Hushed device.deviceId u w) (unsent : w.published = u.published)
    (early : capabilitiesOverdue device env.now = false) :
    Followed device.deviceId env.now u (after (heardRest env deviceType data false device) w) := by
  have checked : outcome (checkCapabilitiesTimeout env device) w = (.ok device, w) := by
    unfold checkCapabilitiesTimeout
    rw [early]
    rfl
  have quiet : Sends Unasked u w := ⟨[], by rw [unsent, List.append_nil], fun _ member => by cases member⟩
  unfold heardRest
  rw [if_neg (by decide), after_bind_ok checked]
  exact ((hushed_closed _).trans before (hushed_approvedRest w)).followed
    ((sends_closed _).trans quiet (unasked_approvedRest w))

theorem statusLogs_timeout {d : Device} {v : World} (overdue : capabilitiesOverdue device env.now = true)
    (checked : outcome (checkCapabilitiesTimeout env device) w = (.ok d, v)) :
    v.db.statusLogs = w.db.statusLogs ++ [⟨env.now, device.deviceId, .error, noCapabilitiesAlert⟩] := by
  unfold checkCapabilitiesTimeout at checked
  rw [if_pos overdue] at checked
  obtain ⟨_, a, saved, rest⟩ := outcome_bind_eq_ok.mp checked
  obtain ⟨_, b, logged, marks⟩ := outcome_bind_eq_ok.mp rest
  obtain ⟨_, c, resolved, last⟩ := outcome_bind_eq_ok.mp marks
  have first : a.db.statusLogs = w.db.statusLogs := by
    rw [outcome_saveDevice] at saved
    split at saved <;> cases saved
    rfl
  have third : c.db.statusLogs = b.db.statusLogs := by
    unfold resolveCapabilityRequests at resolved
    split at resolved <;> cases resolved
    rfl
  rw [outcome_addStatusLog (show varchar 256 noCapabilitiesAlert = true by decide)] at logged
  cases logged
  cases last
  rw [third, ← first]
  rfl

theorem raised_online {u : World} (before : Hushed device.deviceId u w)
    (overdue : capabilitiesOverdue device env.now = true) :
    raisesAlert device.deviceId u (after (heardRest env deviceType data false device) w) = true := by
  obtain ⟨old, former, -⟩ := before.rows
  obtain ⟨d, v, checked⟩ := @total_checkCapabilitiesTimeout env device w
  have flagged := statusLogs_timeout overdue checked
  unfold heardRest
  rw [if_neg (by decide), after_bind_ok checked]
  obtain ⟨new, latter, -⟩ := (@hushed_approvedRest env deviceType data device.deviceId d v).rows
  rw [raisesAlert, latter, flagged, former, List.append_assoc, List.append_assoc, List.drop_left]
  simp [flagsSilence]

def announces (w : World) (env : Env) (device : Device) : Bool :=
  !clearsAlert env.now device || env.channel w.broadcasts.length

section Known
variable {created : Bool} (known : w.device? device.deviceId = some device)
include known

theorem sensorBody_heard (announced : announces w env device = true) :
    ∃ v d, Hushed device.deviceId w v ∧ v.published = w.published ∧ d.deviceId = device.deviceId ∧
      capabilitiesOverdue d env.now = capabilitiesOverdue device env.now ∧
      (v.device? device.deviceId).isSome ∧
      after (sensorBody env deviceType data device created) w =
        after (heardRest env deviceType data (created || !device.isOnline env.now) d) v := by
  have within := respected_hushed device.deviceId
  have goes : clearsAlert env.now device = true → env.channel w.broadcasts.length = true := by
    intro clears
    rw [announces, clears] at announced
    exact announced
  obtain ⟨v, hushed, same, opened⟩ := @sensorBody_opens_within _ (hushed_closed device.deviceId) env deviceType
    data device created w goes
    (fun d unit level => upholds_announceCleared within.toRecounted (by
      rw [flagsSilence, show (statusRow env d).alertLevel = .ok from level]
      simp))
    (fun d fields unit names => within.saveDevice (fun _ member => absurd (names _ member) (by decide)))
    (fun d _ => within.checkOtaTimeouts env d)
  have seen : SameUnit device { device with lastSeen := some env.now } := ⟨rfl, rfl⟩
  refine ⟨v, _, hushed, same.published, (reconcileAlert_spec env.now seen).1.1,
    capabilitiesOverdue_reconcileAlert _ _, ?_, opened⟩
  have mark := hushed.mark
  rw [known] at mark
  cases found : v.device? device.deviceId with
  | none =>
    rw [found] at mark
    cases mark
  | some _ => rfl

theorem raised_sensorBody (announced : announces w env device = true) (online : device.isOnline env.now = true)
    (overdue : capabilitiesOverdue device env.now = true) :
    raisesAlert device.deviceId w (after (sensorBody env deviceType data device false) w) = true := by
  obtain ⟨v, d, hushed, -, own, same, -, opened⟩ := sensorBody_heard known announced
  rw [opened, online, ← own]
  exact raised_online (own ▸ hushed) (same.trans overdue)

theorem followed_sensorBody
    (other : ¬(announces w env device = true ∧ created = false ∧ device.isOnline env.now = true ∧
      capabilitiesOverdue device env.now = true)) :
    Followed device.deviceId env.now w (after (sensorBody env deviceType data device created) w) := by
  by_cases announced : announces w env device = true
  · obtain ⟨v, d, hushed, unsent, own, same, found, opened⟩ := sensorBody_heard known announced
    obtain ⟨row, still⟩ := Option.isSome_iff_exists.mp found
    rw [opened, ← own]
    cases woken : created || !device.isOnline env.now with
    | true => exact followed_woken (own ▸ hushed) (own ▸ still)
    | false =>
      obtain ⟨old, online⟩ := Bool.or_eq_false_iff.mp woken
      refine followed_online (own ▸ hushed) unsent (same.trans (Bool.eq_false_iff.mpr (fun overdue => ?_)))
      exact other ⟨announced, old, by simpa using online, overdue⟩
  · rw [announces, Bool.not_eq_true, Bool.or_eq_false_iff, Bool.not_eq_false'] at announced
    rw [sensorBody_stranded announced.1 announced.2]
    have hushed := (respected_hushed device.deviceId).history w
      (.addStatusLog ⟨env.now, device.deviceId, .ok, ""⟩) rfl
      (by rintro _ ⟨⟩; simp [flagsSilence])
    exact hushed.followed ⟨[], (List.append_nil _).symm, fun _ member => by cases member⟩

end Known

end Sensors

section Knocks
variable {id : String} {w : World} {env : Env}

def checks (id : String) (w : World) (env : Env) : Bool :=
  (w.device? id).any (fun device =>
    device.isOnline env.now && capabilitiesOverdue device env.now && announces w env device)

theorem Followed.of_alike {now : Time} {u v : World} (followed : Followed id now w v)
    (published : w.published = u.published)
    (rows : w.db.statusLogs = u.db.statusLogs) (mark : requestMark id w = requestMark id u) :
      Followed id now u v := by
  obtain ⟨quiet, follows⟩ := followed
  unfold raisesAlert at quiet
  unfold lastSent newPublications at follows
  rw [published, mark] at follows
  rw [rows] at quiet
  exact ⟨quiet, follows⟩

theorem followed_same : Followed id env.now w w :=
  ((hushed_closed id).refl w).followed ((sends_closed Unasked).refl w)

section Sensors
variable {deviceType : String} {payload : Payload}

def sensorsMessage (env : Env) (id deviceType : String) (payload : Payload) : Delivery :=
  { env := env, kind := .sensors, deviceType := deviceType, deviceId := id, payload := payload }

theorem raised_message {data : Fields} (object : payload.object? = some data) (checked : checks id w env = true) :
    raisesAlert id w (deliver w (sensorsMessage env id deviceType payload)) = true := by
  obtain ⟨device, known, all⟩ := Option.any_eq_true _ _ |>.mp checked
  simp only [Bool.and_eq_true] at all
  have own : device.deviceId = id := Table.key_get? known
  rw [@deliver_sensors w (sensorsMessage env id deviceType payload) _ _ rfl object known]
  have raised := @raised_sensorBody env deviceType data device w (own.symm ▸ known) all.2 all.1.1 all.1.2
  rwa [own] at raised

theorem followed_message (object : payload.object? = none ∨ checks id w env = false) :
    Followed id env.now w (deliver w (sensorsMessage env id deviceType payload)) := by
  cases readable : payload.object? with
  | none =>
    rw [@deliver_unread w (sensorsMessage env id deviceType payload) readable]
    exact followed_same
  | some data =>
    have unchecked : checks id w env = false := by
      rcases object with unread | unchecked
      · rw [unread] at readable
        cases readable
      · exact unchecked
    cases known : w.device? id with
    | some device =>
      have own : device.deviceId = id := Table.key_get? known
      rw [@deliver_sensors w (sensorsMessage env id deviceType payload) _ _ rfl readable known]
      have followed := @followed_sensorBody env deviceType data device w false (own.symm ▸ known) ?_
      · rwa [own] at followed
      · rintro ⟨announced, -, online, overdue⟩
        rw [checks, known, Option.any_some, online, overdue, announced] at unchecked
        cases unchecked
    | none =>
      generalize fresh_ : ({ deviceId := id, deviceType := deviceType, createdAt := env.now } : Device) = fresh
      rw [@deliver_new w (sensorsMessage env id deviceType payload) data known rfl readable fresh fresh_.symm]
      have own : fresh.deviceId = id := by rw [← fresh_]
      rcases run : outcome (createDevice fresh) w with ⟨e | ⟨⟩, v⟩
      · rw [after_bind_error run, outcome_createDevice_error run]
        exact followed_same
      · rw [after_bind_ok run]
        obtain ⟨free, -, rfl⟩ := outcome_createDevice_ok.mp run
        have added : (w.apply (.createDevice fresh)).device? fresh.deviceId = some fresh :=
          Table.get?_insert_new free
        have followed := @followed_sensorBody env deviceType data fresh _ true added (by rintro ⟨-, ⟨⟩, -⟩)
        rw [own] at followed added
        refine followed.of_alike rfl rfl ?_
        rw [requestMark, requestMark, added, known, ← fresh_]
        rfl

end Sensors

section Pages
variable {request : Request}

theorem isRequest_recordable {p : Publication} (asks : isRequest p = true) : recordable p.payload := by
  rw [of_decide_eq_true asks]
  exact ⟨by unfold bareCommand; exact Json.noConfusion, by decide⟩

theorem followed_requestPage :
    Followed id env.now w (after (deviceRequestCapabilitiesView env request id) w) := by
  refine @page_at (Followed id env.now) w id _ _ _ followed_same (fun row known => ?_)
  unfold postOnly
  split
  · exact followed_same
  have own : row.deviceId = id := Table.key_get? known
  have asks := @asks_requestCapabilities id w env row row (some request.user.username) true known own
  obtain ⟨d, v, asked⟩ := @total_requestCapabilities env row (some request.user.username) true w
  rw [after, asked] at asks
  dsimp only
  rw [if_neg Bool.false_ne_true, after_bind_pure, after_bind_ok asked]
  exact asks.followed ((hushed_closed id).refl w)
    (upholds_requestBare (respected_hushed id).toIssued trivial v)
    (upholds_requestBare (respected_sends Unasked).toIssued (by unfold Unasked bareCommand; decide) v)

theorem followed_commandPage : Followed id env.now w (after (deviceCommandView env request id) w) := by
  rw [after_deviceCommandView]
  split
  · next command device typed known =>
    have own : device.deviceId = id := Table.key_get? known
    have published : (sentWorld env w device command).published = w.published ++
      [formMessage env w device command] := rfl
    have sent : Hushed id w (sentWorld env w device command) :=
      (respected_hushed id).publish w (formMessage env w device command) trivial
    cases taken : env.broker w.published.length with
    | false =>
      rw [publishAndRecord_refused taken]
      refine ⟨sent.quiet, ?_⟩
      have lost : (formMessage env w device command).delivered = false := taken
      rw [lastSent, newPublications_of_append published, sent.requestMark]
      cases form : isRequest (formMessage env w device command) <;> simp [form, lost]
    | true =>
      by_cases valid : recordable command
      · rw [(publishAndRecord_taken taken).1 valid]
        have logged : Hushed id w (loggedWorld env w device command request.user) :=
          hushed_of_rows ⟨rfl, ⟨_, published.symm⟩⟩ rfl
        rw [after_bind_pure]
        exact (@asks_requestCapabilities id (loggedWorld env w device command request.user) env device device none
          false known own).followed logged ((hushed_closed id).refl _) ((sends_closed Unasked).refl _)
      · rw [(publishAndRecord_taken taken).2 valid]
        refine sent.followed ⟨[_], published, fun p member asks => ?_⟩
        rw [List.mem_singleton.mp member] at asks
        exact valid (isRequest_recordable (p := formMessage env w device command) (decide_eq_true asks))
  · exact followed_same

end Pages

end Knocks

inductive Knock where
  | request (env : Env) (request : Request)
  | command (env : Env) (request : Request)
  | sensors (env : Env) (deviceType : String) (payload : Payload)

def Knock.env : Knock → Env
  | .request env _ | .command env _ | .sensors env _ _ => env

def knock (id : String) (w : World) : Knock → World
  | .request env request => after (deviceRequestCapabilitiesView env request id) w
  | .command env request => after (deviceCommandView env request id) w
  | .sensors env deviceType payload => deliver w (sensorsMessage env id deviceType payload)

/-- A state of the run, with the times of the earliest and of the latest request, and whether
the alert has been raised. -/
structure Vigil where
  world : World
  since : Option Time
  latest : Option Time
  flagged : Bool

def Vigil.start (id : String) (w : World) : Vigil := ⟨w, requestMark id w, requestMark id w, false⟩

def Vigil.step (id : String) (s : Vigil) (e : Knock) : Vigil :=
  let v := knock id s.world e
  { world := v
    since := s.since <|> (if requestSent s.world v then some e.env.now else none)
    latest := if lastSent s.world v then some e.env.now else s.latest
    flagged := s.flagged || raisesAlert id s.world v }

/-- max(60, 3 x publish_interval) seconds. -/
def silenceLimit (id : String) (w : World) : Time :=
  seconds (max capabilitiesResponseTimeout (3 * ((w.device? id).map Device.publishInterval).getD 0))

def Vigil.due (id : String) (s : Vigil) : Knock → Bool
  | .sensors env _ payload =>
    payload.object?.isSome && s.since.any (fun asked => decide (env.now - asked > silenceLimit id s.world))
  | _ => false

def Heeded (id : String) (s : Vigil) (e : Knock) : Prop := s.due id e = true → (s.step id e).flagged = true

/-- A message past the deadline, with nothing flagged yet, that finds the device offline, or the
latest request less than the deadline ago, or has to announce a cleared alert and cannot. -/
def Vigil.postponed (id : String) (s : Vigil) (e : Knock) : Bool :=
  s.due id e && !s.flagged &&
    !(s.latest.any (fun asked => decide (e.env.now - asked > silenceLimit id s.world)) &&
      (s.world.device? id).any (fun device => device.isOnline e.env.now && announces s.world e.env device))

def Vigil.Marked (id : String) (s : Vigil) : Prop := s.flagged = true ∨ requestMark id s.world = s.latest

section Vigils
variable {id : String} {s : Vigil} {e : Knock}

theorem checks_iff {env : Env} : checks id s.world env = true ↔
    (requestMark id s.world).any (fun asked => decide (env.now - asked > silenceLimit id s.world)) = true ∧
      (s.world.device? id).any (fun device => device.isOnline env.now && announces s.world env device) = true := by
  unfold checks requestMark silenceLimit
  cases s.world.device? id with
  | none => simp
  | some device =>
    simp only [Option.any_some, Option.map_some, Option.join_some, Option.getD_some, capabilitiesOverdue,
      capabilitiesTimeout, Bool.and_eq_true]
    cases device.capabilitiesRequestedAt with
    | none => simp
    | some asked => exact ⟨fun all => ⟨all.1.2, all.1.1, all.2⟩, fun all => ⟨⟨all.2.1, all.1⟩, all.2.2⟩⟩

theorem raised_iff {env : Env} {deviceType : String} {payload : Payload} (read : payload.object?.isSome = true) :
    raisesAlert id s.world (knock id s.world (.sensors env deviceType payload)) = true ↔
      checks id s.world env = true := by
  obtain ⟨data, object⟩ := Option.isSome_iff_exists.mp read
  constructor
  · intro raised
    by_contra unchecked
    rw [Bool.not_eq_true] at unchecked
    have quiet := (@followed_message id s.world env deviceType payload (.inr unchecked)).quiet
    exact Bool.false_ne_true (quiet.symm.trans raised)
  · exact raised_message object

theorem followed_or_raised : Followed id e.env.now s.world (knock id s.world e) ∨
    raisesAlert id s.world (knock id s.world e) = true := by
  cases e with
  | request env request => exact .inl followed_requestPage
  | command env request => exact .inl followed_commandPage
  | sensors env deviceType payload =>
    cases raised : raisesAlert id s.world (knock id s.world (.sensors env deviceType payload)) with
    | true => exact .inr rfl
    | false =>
      refine .inl (followed_message ?_)
      cases object : payload.object? with
      | none => exact .inl rfl
      | some data =>
        right
        by_contra checked
        rw [Bool.not_eq_false] at checked
        have flags := (@raised_iff id s env deviceType payload (by rw [object]; rfl)).mpr checked
        exact Bool.false_ne_true (raised.symm.trans flags)

theorem Vigil.Marked.step (marked : s.Marked id) (e : Knock) : (s.step id e).Marked id := by
  rcases marked with flagged | same
  · exact .inl (by rw [Vigil.step, flagged, Bool.true_or])
  · rcases @followed_or_raised id s e with followed | raised
    · right
      dsimp only [Vigil.step]
      rw [followed.mark, same]
    · left
      dsimp only [Vigil.step]
      rw [raised, Bool.or_true]

theorem heeded_iff (marked : s.Marked id) : Heeded id s e ↔ s.postponed id e = false := by
  unfold Heeded Vigil.postponed
  cases due : s.due id e with
  | false => exact iff_of_true (fun h => by cases h) rfl
  | true =>
    rcases marked with flagged | same
    · refine iff_of_true (fun _ => ?_) (by rw [flagged]; rfl)
      rw [Vigil.step, flagged, Bool.true_or]
    · cases e with
      | request env request => cases due
      | command env request => cases due
      | sensors env deviceType payload =>
        have read := (Bool.and_eq_true_iff.mp due).1
        cases flagged : s.flagged with
        | true => exact iff_of_true (fun _ => by rw [Vigil.step, flagged, Bool.true_or]) rfl
        | false =>
          have checked := @checks_iff id s env
          rw [same, ← Bool.and_eq_true_iff] at checked
          rw [Vigil.step, flagged, Bool.false_or, Bool.true_and, Bool.not_false, Bool.true_and, Bool.not_eq_false']
          exact ⟨fun h => checked.mp ((raised_iff read).mp (h rfl)),
            fun h _ => (raised_iff read).mpr (checked.mpr h)⟩

end Vigils

/-- In every run a device that never answers is flagged by the first message past the deadline
exactly if no message past it is postponed. -/
theorem silent_flagged_iff (id : String) (w : World) (es : List Knock) :
    Run.Along (Vigil.step id) (Heeded id) (Vigil.start id w) es ↔
      Run.Along (Vigil.step id) (fun s e => s.postponed id e = false) (Vigil.start id w) es :=
  @Run.along_iff _ _ _ _ _ (Vigil.Marked id) (fun _ _ marked => heeded_iff marked)
    (fun _ e marked _ => marked.step e)
    (Vigil.start id w) es (.inr rfl)

def atticReport (at_ : Nat) : Knock := .sensors { now := seconds at_ } "thermo" ⟨2, .value (.obj [])⟩

theorem atticReports_silent :
    ((Run.run (Vigil.step "attic01") (Vigil.start "attic01" World.empty) [atticReport 0, atticReport 400]).since,
      (Run.run (Vigil.step "attic01") (Vigil.start "attic01" World.empty) [atticReport 0, atticReport 400]).flagged) =
        (some 0, false) ∧
      ¬ Run.Along (Vigil.step "attic01") (Heeded "attic01") (Vigil.start "attic01" World.empty)
        [atticReport 0, atticReport 400] := by
  refine ⟨by decide +kernel, ?_⟩
  rintro ⟨-, heeded, -⟩
  have flagged := heeded (by decide +kernel)
  revert flagged
  decide +kernel

end SensorServer
