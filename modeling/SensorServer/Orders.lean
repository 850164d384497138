import SensorServer.Privileges
import SensorServer.Push
import SensorServer.Replies

/-! What the server sends to a device of itself: requests for a report, the calibration that the
device has lost, and once more the commands that wait for an answer. Orders come from residents. -/
namespace SensorServer
open Program

/-- The reports that the worker asks for. -/
def reportRequests : List Json :=
  [bareCommand "request_capabilities", bareCommand "request_commands", bareCommand "get_status",
    bareCommand "get_diag"]

def Delivery.calibrates (d : Delivery) : Fields :=
  match d.payload.object?, d.kind with
  | some data, .calibration => (calibrationMirror data).getD []
  | some data, .ack => (legacyOffsets data ["temp", "humi", "press"]).getD []
  | _, _ => []

/-- The command that sets one of the entries, sent to the device that has it. -/
def Restores (own : String → String × Json → Prop) (topic : String) (payload : Json) : Prop :=
  ∃ deviceType deviceId entry, own deviceId entry ∧ entry.2.isNumber = true ∧
    topic = replyTopic deviceType deviceId ∧ payload = repushCommand entry.1 entry.2

def Housekeeping (own : String → String × Json → Prop) (topic : String) (payload : Json) : Prop :=
  payload ∈ reportRequests ∨ Restores own topic payload

/-- A command of the log that waits for its answer, sent again to the device of its row. -/
def Repeats (db : Db) (topic : String) (payload : Json) : Prop :=
  notOtaUpdate payload = true ∧
    ∃ r ∈ db.commandLogs.rows, r.acked = false ∧ r.command = payload ∧
      ∃ deviceType, topic = replyTopic deviceType r.device

/-- No command waits that did not wait before, and what is sent is one of them or of a kind. -/
structure Obeys (house : String → Json → Prop) (w v : World) : Prop where
  orders : ∀ r ∈ v.db.commandLogs.rows, r.acked = false →
    ∃ q ∈ w.db.commandLogs.rows, q.acked = false ∧ q.device = r.device ∧ q.command = r.command
  sends : Sends (fun topic payload => house topic payload ∨ Repeats w.db topic payload) w v

section Obeys
variable {house : String → Json → Prop} {w v : World} {env : Env} {device : Device}

theorem Obeys.repeats (obeys : Obeys house w v) {topic : String} {payload : Json}
    (again : Repeats v.db topic payload) : Repeats w.db topic payload := by
  obtain ⟨other, r, listed, waits, command, deviceType, sent⟩ := again
  obtain ⟨q, before, waited, device, same⟩ := obeys.orders r listed waits
  exact ⟨other, q, before, waited, same.trans command, deviceType, device ▸ sent⟩

theorem obeys_closed (house : String → Json → Prop) : Closed (Obeys house) := by
  refine ⟨fun w => ⟨fun r listed waits => ⟨r, listed, waits, rfl, rfl⟩, (sends_closed _).refl w⟩,
    fun {w v u} first rest => ⟨?_, ?_⟩⟩
  · intro r listed waits
    obtain ⟨q, middle, waited, device, command⟩ := rest.orders r listed waits
    obtain ⟨p, before, waited', device', command'⟩ := first.orders q middle waited
    exact ⟨p, before, waited', device'.trans device, command'.trans command⟩
  · exact (sends_closed _).trans first.sends
      (rest.sends.mono (fun _ _ allowed => allowed.imp_right first.repeats))

theorem obeys_of_same (rows : v.db.commandLogs.rows = w.db.commandLogs.rows)
    (published : v.published = w.published) : Obeys house w v :=
  ⟨fun r listed waits => ⟨r, rows ▸ listed, waits, rfl, rfl⟩, sends_unchanged published⟩

theorem obeys_mark {which : CommandLog → Bool} {status : CommandStatus} {message : String} {at_ : Time}
    (terminal : status.terminal = true) : Obeys house w (w.apply (.markCommands which status message at_)) := by
  refine ⟨fun r listed waits => ?_, sends_unchanged rfl⟩
  obtain ⟨q, before, rfl⟩ := List.mem_map.mp listed
  split at waits
  · exact absurd (terminal.symm.trans waits) (by decide)
  · next other =>
    rw [if_neg other]
    exact ⟨q, before, waits, rfl, rfl⟩

theorem respected_obeys (house : String → Json → Prop) :
    Respected (Obeys house) (fun _ _ => True) house (fun _ => True) where
  toServiced := Serviced.of_marks (obeys_closed house) (fun _ _ _ _ => obeys_of_same rfl rfl)
    (fun w p sent => ⟨fun r listed waits => ⟨r, listed, waits, rfl, rfl⟩, [p], rfl, fun q member =>
      .inl (List.mem_singleton.mp member ▸ sent)⟩)
    (fun _ _ _ _ _ => obeys_mark)
  history := fun w e history _ => by
    cases e <;> first | exact obeys_of_same rfl rfl | cases history

theorem obeys_flush : Upholds (Obeys house) (flushPendingCommands env device) := by
  intro w
  obtain ⟨v, sent, ran, db, published, contents⟩ := outcome_flush env device w
  rw [after, ran]
  refine ⟨fun r listed waits => ⟨r, db ▸ listed, waits, rfl, rfl⟩, sent, published, fun p member => .inr ?_⟩
  have listed : p.content ∈ sent.map Publication.content := List.mem_map_of_mem member
  rw [contents] at listed
  obtain ⟨r, flushed, same⟩ := List.mem_map.mp listed
  obtain ⟨row, selected⟩ := List.mem_filter.mp (OrderBy.mem_ascending.mp flushed)
  simp only [Bool.and_eq_true, decide_eq_true_eq, Bool.not_eq_true'] at selected
  have topic : commandTopic device = p.topic := congrArg Prod.fst same
  have payload : r.command = p.payload := congrArg Prod.snd same
  exact ⟨payload ▸ selected.2, r, row, selected.1.2, payload, device.deviceType, topic ▸ selected.1.1 ▸ rfl⟩

variable (asks : ∀ topic, ∀ payload ∈ reportRequests, house topic payload)
include asks

theorem obeys_wakeUp : Upholds (Obeys house) (wakeUp env device) := by
  have closed := obeys_closed house
  have within := (respected_obeys house).toIssued
  exact Upholds.bind closed obeys_flush (fun _ =>
    Upholds.bind closed (upholds_requestCapabilities within (asks _ _ (by simp [reportRequests])) trivial
      (fun logged => nomatch logged)) (fun _ =>
    Upholds.bind closed (upholds_requestBare within (asks _ _ (by simp [reportRequests]))) (fun _ =>
    Upholds.bind closed (Upholds.when closed (fun _ =>
      upholds_requestBare within (asks _ _ (by simp [reportRequests])))) (fun _ => Upholds.pure closed _))))

theorem obeys_sensorBody {deviceType : String} {data : Fields} {created : Bool} :
    Upholds (Obeys house) (sensorBody env deviceType data device created) := by
  have closed := obeys_closed house
  have within := respected_obeys house
  have diag : ∀ d : Device, house (commandTopic d) (bareCommand "get_diag") :=
    fun _ => asks _ _ (by simp [reportRequests])
  rw [sensorBody_halves]
  dsimp only
  refine Upholds.bind closed (Upholds.when closed (fun _ => upholds_announceCleared within.toRecounted trivial))
    (fun _ => Upholds.bind closed (within.saveDevice trivial) (fun _ =>
      Upholds.bind closed (within.checkOtaTimeouts _ _) (fun _ => Upholds.bind closed ?_ (fun d =>
        upholds_approvedRest within.toRecounted (fun _ _ _ _ => trivial) (fun _ _ _ => trivial)
          (⟨rfl, rfl⟩ : SameUnit d d) (diag d)))))
  split
  · exact obeys_wakeUp asks
  · exact upholds_checkCapabilitiesTimeout within (fun _ _ _ _ => trivial) (fun _ _ => trivial)
      (⟨rfl, rfl⟩ : SameUnit _ _)

end Obeys

def OwnMirror (own : String → String × Json → Prop) (row : Device) : Prop :=
  ∀ entry ∈ row.calibration, own row.deviceId entry

section Messages
variable {own : String → String × Json → Prop} {w : World} {d : Delivery}

theorem mem_set {dict : Fields} {key : String} {value : Json} {entry : String × Json}
    (listed : entry ∈ Dict.set dict key value) : entry ∈ dict ∨ entry = (key, value) := by
  induction dict with
  | nil => exact .inr (List.mem_singleton.mp listed)
  | cons kv rest ih =>
    obtain ⟨k, v⟩ := kv
    unfold Dict.set at listed
    split at listed
    · next same =>
      rcases List.mem_cons.mp listed with new | old
      · exact .inr (same ▸ new)
      · exact .inl (List.mem_cons_of_mem _ old)
    · rcases List.mem_cons.mp listed with first | later
      · exact .inl (first ▸ List.mem_cons_self)
      · exact (ih later).imp_left (List.mem_cons_of_mem _)

theorem mem_update {dict updates : Fields} {entry : String × Json} (listed : entry ∈ Dict.update dict updates) :
    entry ∈ dict ∨ entry ∈ updates := by
  induction updates generalizing dict with
  | nil => exact .inl listed
  | cons kv rest ih =>
    rcases ih listed with first | later
    · refine (mem_set first).imp_right (fun new => ?_)
      rw [new]
      exact List.mem_cons_self
    · exact .inr (List.mem_cons_of_mem _ later)

/-- An entry of a mirror was there before, or the message reports it of its device. -/
theorem calibration_message {id : String} {row : Device} {entry : String × Json}
    (listed : (deliver w d).device? id = some row) (entered : entry ∈ row.calibration) :
    (∃ old, w.device? id = some old ∧ entry ∈ old.calibration) ∨ d.deviceId = id ∧ entry ∈ d.calibrates := by
  by_cases reports : d.kind = .calibration ∨ d.kind = .ack
  swap
  · have stems := @stemsFrom_deliver _ Device.calibration d [] (fun _ _ _ => rfl) (fun saved fields among r => by
      have absent : DeviceField.calibration ∉ fields := by
        intro named
        have inside := among _ named
        cases kind : d.kind <;> rw [kind] at inside reports <;> revert inside reports <;> decide
      rw [Device.calibration_copyFields, if_neg absent]) w
    rcases stems id row listed with ⟨old, found, same⟩ | fresh
    · exact .inl ⟨old, found, same ▸ entered⟩
    · rw [fresh] at entered
      cases entered
  by_cases own : d.deviceId = id
  swap
  · have unseen : Unseen id w (deliver w d) :=
      unseen_serve (e := .message d) (decide_eq_false own) (fun renames => renames) w
    exact .inl ⟨row, unseen.rows.row.trans listed, entered⟩
  subst own
  cases known : w.device? d.deviceId with
  | none =>
    have sensors : d.kind ≠ .sensors := by
      intro same
      rw [same] at reports
      exact reports.elim nofun nofun
    rw [deliver_unknown known sensors, known] at listed
    cases listed
  | some old =>
    obtain ⟨x, op, ran⟩ := deliver_rowOp known
    rw [ran] at listed
    cases op with
    | idle =>
      cases listed
      exact .inl ⟨row, rfl, entered⟩
    | capabilities kind =>
      rw [kind] at reports
      exact reports.elim nofun nofun
    | quiet kind =>
      rcases reports with same | same <;> rw [same] at kind <;> simp at kind
    | report kind object read =>
      cases listed
      refine .inr ⟨rfl, ?_⟩
      simpa [Delivery.calibrates, object, kind, read] using entered
    | legacyAck kind object read =>
      cases listed
      refine (mem_update entered).imp (fun before => ⟨old, rfl, before⟩) (fun new => ⟨rfl, ?_⟩)
      simpa [Delivery.calibrates, object, kind, read] using new

theorem ownMirror_deliver (reports : ∀ entry ∈ d.calibrates, own d.deviceId entry)
    (mirrored : Every (OwnMirror own) w) : Every (OwnMirror own) (deliver w d) := by
  intro id row listed entry entered
  have named : row.deviceId = id := Table.key_get? listed
  rcases calibration_message listed entered with ⟨old, found, before⟩ | ⟨rfl, reported⟩
  · have same : old.deviceId = id := Table.key_get? found
    exact (same.trans named.symm) ▸ mirrored id old found entry before
  · exact named ▸ reports entry reported

theorem obeys_capabilities (kind : d.kind = .capabilities) (mirrored : Every (OwnMirror own) w) :
    Obeys (Housekeeping own) w (deliver w d) := by
  have within := respected_obeys (fun _ _ => True)
  have orders : Obeys (fun _ _ => True) w (deliver w d) := by
    unfold deliver handleMessage
    rw [kind]
    exact upholds_handleCapabilitiesMessage within (fun _ _ => trivial) (fun _ _ => trivial) (fun _ _ _ => trivial) w
  refine ⟨orders.orders, ?_⟩
  cases object : d.payload.object? with
  | none => exact sends_unchanged (by rw [deliver_unread object])
  | some data =>
    cases known : w.device? d.deviceId with
    | none => exact sends_unchanged (by rw [deliver_unknown known (by rw [kind]; decide)])
    | some device =>
      obtain ⟨sent, published, contents⟩ := deliver_capabilities_sends kind object known
      refine ⟨sent, published, fun p member => .inl (.inr ?_)⟩
      have listed : p.content ∈ sent.map Publication.content := List.mem_map_of_mem member
      rw [contents] at listed
      split at listed
      · obtain ⟨kv, stored, same⟩ := List.mem_map.mp listed
        obtain ⟨entered, number⟩ := List.mem_filter.mp stored
        have unchanged : (reportedDevice w data device).calibration = device.calibration :=
          calibration_applyCapabilities
        have named : (reportedDevice w data device).deviceId = device.deviceId := deviceId_applyCapabilities
        refine ⟨(reportedDevice w data device).deviceType, device.deviceId, kv,
          mirrored _ device known kv (unchanged ▸ entered), number, ?_,
          (congrArg Prod.snd same).symm⟩
        exact (congrArg Prod.fst same).symm.trans (congrArg (replyTopic _) named)
      · exact absurd listed List.not_mem_nil

theorem obeys_deliver (mirrored : Every (OwnMirror own) w) : Obeys (Housekeeping own) w (deliver w d) := by
  have closed := obeys_closed (Housekeeping own)
  have within := respected_obeys (Housekeeping own)
  by_cases kind : d.kind = .capabilities
  · exact obeys_capabilities kind mirrored
  unfold deliver handleMessage
  cases other : d.kind with
  | sensors =>
    exact upholds_handleSensorMessage_body closed (fun _ => obeys_of_same rfl rfl)
      (fun _ _ _ _ => obeys_sensorBody (fun _ _ asked => .inl asked)) w
  | status => exact upholds_handleStatusMessage within.toRecounted (fun _ _ => trivial) (fun _ _ => trivial) w
  | capabilities => exact absurd other kind
  | commands => exact upholds_handleCommandsMessage within.toIssued (fun _ _ => trivial) w
  | calibration => exact upholds_handleCalibrationMessage within.toIssued (fun _ _ => trivial) w
  | diag => exact upholds_handleDiagMessage within.toRecounted (fun _ _ => trivial) (fun _ _ => trivial) w
  | ack =>
    exact upholds_handleAckMessage (upholds_ackLookup within.toIssued (fun _ _ => trivial))
      (fun _ _ _ answers => obeys_mark answers.terminal) w

theorem obeys_outside {e : SiteEvent} (reports : ∀ d, e = .message d → ∀ entry ∈ d.calibrates, own d.deviceId entry)
    (mirrored : Every (OwnMirror own) w) : Obeys (Housekeeping own) w (e.outside.elim w (serve w)) ∧
      Every (OwnMirror own) (e.outside.elim w (serve w)) := by
  cases e with
  | message d => exact ⟨obeys_deliver mirrored, ownMirror_deliver (reports d rfl) mirrored⟩
  | api env view request =>
    have step := @registers_api w env request view
    have rows := congrArg (fun u : World => u.db.commandLogs.rows) step.aside
    have published := congrArg World.published step.aside
    refine ⟨obeys_of_same rows published, fun id row listed => mirrored id row ?_⟩
    exact (step.device? id).symm.trans listed
  | login | pending | setRole | setSuperadmin | page => exact ⟨(obeys_closed _).refl w, mirrored⟩

end Messages

/-- The entries of the stored calibration of a device, and those that its messages report. -/
def Known (w : World) (es : List SiteEvent) (deviceId : String) (entry : String × Json) : Prop :=
  (∃ row, w.device? deviceId = some row ∧ entry ∈ row.calibration) ∨
    ∃ d, .message d ∈ es ∧ d.deviceId = deviceId ∧ entry ∈ d.calibrates

/-- Without a resident, the server sends a device nothing but requests for its reports, its own
calibration, and the commands that wait for its answer. -/
theorem only_residents_order {env : AuthEnv} {s : Site} {es : List SiteEvent} (linked : s.accounts.Linked)
    (below : ∀ e ∈ es, e.Below .resident s.accounts) :
    ∃ new, (Run.run (Site.step env) s es).world.published = s.world.published ++ new ∧
      ∀ p ∈ new, p.payload ∈ reportRequests ∨ Restores (Known s.world es) p.topic p.payload ∨
        Repeats s.world.db p.topic p.payload := by
  have kept : ∀ (t : Site) (e : SiteEvent),
      NoGain s.accounts t.accounts ∧ Obeys (Housekeeping (Known s.world es)) s.world t.world ∧
        Every (OwnMirror (Known s.world es)) t.world → e ∈ es →
      NoGain s.accounts (t.step env e).accounts ∧
        Obeys (Housekeeping (Known s.world es)) s.world (t.step env e).world ∧
        Every (OwnMirror (Known s.world es)) (t.step env e).world := by
    rintro t e ⟨less, obeys, mirrored⟩ listed
    have now := below_later linked less (below e listed)
    have step := @obeys_outside (Known s.world es) t.world e
      (fun d message entry reported => .inr ⟨d, message ▸ listed, rfl, reported⟩) mirrored
    refine ⟨noGain_closed.trans less (noGain_step (less.linked linked) (below_admin now)), ?_⟩
    rw [world_step (less.linked linked) now]
    exact ⟨(obeys_closed _).trans obeys step.1, step.2⟩
  have start : Every (OwnMirror (Known s.world es)) s.world := by
    intro id row found entry entered
    have named : row.deviceId = id := Table.key_get? found
    exact .inl ⟨row, named ▸ found, entered⟩
  obtain ⟨-, ⟨-, new, published, each⟩, -⟩ := @Run.invariant _ _ (Site.step env) (fun _ e => e ∈ es)
    (fun t => NoGain s.accounts t.accounts ∧ Obeys (Housekeeping (Known s.world es)) s.world t.world ∧
      Every (OwnMirror (Known s.world es)) t.world) kept s es
    ⟨noGain_closed.refl _, (obeys_closed _).refl _, start⟩ (Run.along_of_all s es (fun _ listed _ => listed))
  exact ⟨new, published, fun p sent => or_assoc.mp (each p sent)⟩

/-- A stranger's device reports its calibration, and later that its store is empty. -/
def wipedStore : List SiteEvent :=
  stranger ++
    [.message ⟨{ now := 2 }, .calibration, "thermo", "living01", ⟨9, .value (.obj [("cal_temp", .int 1)])⟩⟩,
     .message ⟨{ now := 3 }, .capabilities, "thermo", "living01", ⟨9, .value (.obj [("cal", .int 0)])⟩⟩]

theorem stranger_orders_nothing :
    ∃ new, (Run.run (Site.step (siteEnv "admin")) openSite wipedStore).world.published =
      openSite.world.published ++ new ∧
      ∀ p ∈ new, p.payload ∈ reportRequests ∨ Restores (Known openSite.world wipedStore) p.topic p.payload ∨
        Repeats openSite.world.db p.topic p.payload := by
  refine only_residents_order openSite_linked ?_
  intro e _ session _
  cases session <;> rfl

/-- The restored calibration is among what is sent. -/
example : ("thermo/living01/command", repushCommand "cal_temp" (.float (.finite 1))) ∈
    (Run.run (Site.step (siteEnv "admin")) openSite wipedStore).world.published.map Publication.content := by
  decide +kernel

end SensorServer
