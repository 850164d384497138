import SensorServer.Failure
import SensorServer.Identity
import SensorServer.DeviceViews

/-! A capabilities request is published before it is recorded, so the reply can be handled
in between: the race of request_capabilities with the worker, statement by statement, and
the sensors messages after it. -/
namespace SensorServer
open Program

theorem after_requestCapabilities (env : Env) (device : Device) (sentBy : Option String) (logCommand : Bool)
    (w : World) :
    after (requestCapabilities env device sentBy logCommand) w =
      let sent := w.apply (.publish ⟨commandTopic device, bareCommand "request_capabilities", false, 1,
        env.broker w.published.length⟩)
      if env.broker w.published.length then
        after (when logCommand (createCommandLog env device (bareCommand "request_capabilities") sentBy))
          (sent.apply (.saveDevice { device with capabilitiesRequestedAt := some env.now }
            [.capabilitiesRequestedAt]))
      else sent := by
  dsimp only
  unfold requestCapabilities
  rw [after_bind_ok (outcome_attempt_publish _ _ _ _ _ w)]
  cases env.broker w.published.length with
  | false => rfl
  | true =>
    rw [if_pos rfl, if_pos rfl, after_bind_pure, after_attempt]
    exact after_bind_ok rfl

inductive Stage where
  | publish | record | insert | lookup | announce | store | resolve | finish
  deriving DecidableEq, Repr

/-- A web request for the capabilities of a device, and the reply to it. -/
structure Enquiry where
  env : Env
  device : Device
  sentBy : Option String
  logged : Bool
  reply : Delivery

/-- What the worker keeps between the statements of the handler. -/
structure Answer where
  saved : Device
  timeout : Bool
  repush : Bool

/-- The shared state and the worker's part; none once its handler has ended. -/
structure Inquest where
  world : World
  answer : Option Answer

namespace Enquiry

def advance (q : Inquest) (part : Answer → Act Unit) : Inquest :=
  match q.answer with
  | none => q
  | some a => match outcome (part a) q.world with
    | (.ok _, w) => ⟨w, some a⟩
    | (.error _, w) => ⟨w, none⟩

def read (x : Enquiry) (w : World) : Option Answer :=
  match x.reply.payload.object?, w.device? x.reply.deviceId with
  | some data, some row =>
    let saved := reportedDevice w data row
    some ⟨saved, hadTimeoutAlert row, storeEmpty data && !saved.calibration.isEmpty⟩
  | _, _ => none

def requested (x : Enquiry) : Device := { x.device with capabilitiesRequestedAt := some x.env.now }

def step (x : Enquiry) (q : Inquest) : Stage → Inquest
  | .publish =>
    { q with world := after (mqttPublish x.env (commandTopic x.device)
        (bareCommand "request_capabilities") false 1) q.world }
  | .record => { q with world := after (saveDevice x.requested [.capabilitiesRequestedAt]) q.world }
  | .insert =>
    { q with world := after (createCommandLog x.env x.requested (bareCommand "request_capabilities")
        x.sentBy) q.world }
  | .lookup => { q with answer := x.read q.world }
  | .announce => advance q (fun a => when a.timeout (addStatusLog (statusRow x.reply.env a.saved)))
  | .store => advance q (fun a => saveDevice a.saved capabilitiesFields)
  | .resolve => advance q (fun a => resolveCapabilityRequests x.reply.env a.saved .success "")
  | .finish =>
    ⟨(advance q (fun a => do
      resolveOtaUpdates x.reply.env a.saved
      when a.repush (repushCalibration x.reply.env a.saved))).world, none⟩

def web (x : Enquiry) : List Stage := .publish :: .record :: if x.logged then [.insert] else []

def worker : List Stage := [.lookup, .announce, .store, .resolve, .finish]

def final (x : Enquiry) (w : World) (schedule : List Stage) : World :=
  (Run.run x.step ⟨w, none⟩ schedule).world

/-- The function of the service is the web part, run alone. -/
theorem requestCapabilities_eq_final (x : Enquiry) (w : World)
    (taken : x.env.broker w.published.length = true) :
    after (requestCapabilities x.env x.device x.sentBy x.logged) w = x.final w x.web := by
  have published := after_mqttPublish x.env (commandTopic x.device) (bareCommand "request_capabilities") false 1 w
  rw [taken] at published
  rw [after_requestCapabilities]
  dsimp only
  rw [if_pos taken, taken, ← published]
  unfold final web
  cases x.logged <;> rfl

theorem advance_advance (q : Inquest) (first rest : Answer → Act Unit) :
    advance (advance q first) rest = advance q (fun a => do first a; rest a) := by
  obtain ⟨w, answer⟩ := q
  cases answer with
  | none => rfl
  | some a =>
    unfold advance
    dsimp only
    rw [outcome_bind]
    rcases outcome (first a) w with ⟨e | _, v⟩ <;> rfl

theorem world_advance (w : World) (a : Answer) (part : Answer → Act Unit) :
    (advance ⟨w, some a⟩ part).world = after (part a) w := by
  unfold advance after
  dsimp only
  rcases outcome (part a) w with ⟨e | _, v⟩ <;> rfl

theorem advance_ok {q : Inquest} {part : Answer → Act Unit} {a : Answer} {v : World} (there : q.answer = some a)
    (run : outcome (part a) q.world = (.ok (), v)) : advance q part = ⟨v, q.answer⟩ := by
  unfold advance
  rw [there]
  dsimp only
  rw [run]

theorem advance_ended {q : Inquest} {part : Answer → Act Unit} (ended : q.answer = none) : advance q part = q := by
  unfold advance
  rw [ended]

theorem advance_failed {q : Inquest} {part : Answer → Act Unit} {a : Answer} {v : World} {e : Raised}
    (there : q.answer = some a) (run : outcome (part a) q.world = (.error e, v)) :
    advance q part = ⟨v, none⟩ := by
  unfold advance
  rw [there]
  dsimp only
  rw [run]

/-- The handler is the worker's part, run alone. -/
theorem deliver_eq_final (x : Enquiry) (w : World) (kind : x.reply.kind = .capabilities) :
    deliver w x.reply = x.final w worker := by
  unfold deliver handleMessage final worker
  rw [kind]
  dsimp only
  simp only [Run.run_cons, Run.run_nil, step, read]
  cases object : x.reply.payload.object? with
  | none =>
    rw [handleCapabilitiesMessage, after_withObject_none _ _ object]
    rfl
  | some data =>
    cases known : w.device? x.reply.deviceId with
    | none =>
      rw [handleCapabilitiesMessage, withObject_object _ _ object, after_withDevice_unknown _ _ known]
      rfl
    | some row =>
      rw [handleCapabilitiesMessage, after_handler object known, after_read_bind]
      dsimp only
      rw [advance_advance, advance_advance, advance_advance, world_advance]
      rfl

end Enquiry

structure Tally where
  asked : Bool
  pending : Bool
  lookups : Nat
  alive : Bool
  deriving DecidableEq

/-- Readable and accepted say of the reply that it is taken up, and that its save goes through. -/
def Tally.step (readable accepted : Bool) (t : Tally) : Stage → Tally
  | .publish | .announce => t
  | .record => { t with asked := true }
  | .insert => { t with pending := true }
  | .lookup => { t with lookups := t.lookups + 1, alive := readable }
  | .store =>
    if t.alive then if accepted then { t with asked := false } else { t with alive := false }
    else t
  | .resolve => if t.alive then { t with pending := false } else t
  | .finish => { t with alive := false }

/-- The order in which the reply settles the request. -/
def InTime (logged : Bool) (schedule : List Stage) : Prop :=
  schedule.idxOf .record < schedule.idxOf .store ∧
    (logged = true → schedule.idxOf .insert < schedule.idxOf .resolve)

instance (logged : Bool) (schedule : List Stage) : Decidable (InTime logged schedule) :=
  inferInstanceAs (Decidable (_ ∧ _))

theorem tally_final : ∀ readable accepted logged asked pending : Bool,
    ∀ rest ∈ Interleaved.merges (.record :: if logged then [.insert] else []) Enquiry.worker,
      let t := Run.run (Tally.step readable accepted) ⟨asked, pending, 0, false⟩ (.publish :: rest)
      t.lookups = 1 ∧ (t.asked = false ∧ t.pending = false ↔
        (readable && accepted) = true ∧ InTime logged (.publish :: rest)) := by
  decide

/-- The rows the race looks at stay, but for those a statement is about. -/
structure Beside (w v : World) : Prop where
  devices : v.db.devices = w.db.devices
  codes : v.db.hardwareCodes = w.db.hardwareCodes
  pending : ∀ id, pendingCommands v.db id (.str "request_capabilities") =
    pendingCommands w.db id (.str "request_capabilities")

theorem beside_closed : Closed Beside :=
  ⟨fun _ => ⟨rfl, rfl, fun _ => rfl⟩, fun h k => ⟨k.devices.trans h.devices, k.codes.trans h.codes,
    fun id => (k.pending id).trans (h.pending id)⟩⟩

theorem Beside.of_same {w v : World} (devices : v.db.devices = w.db.devices)
    (codes : v.db.hardwareCodes = w.db.hardwareCodes) (logs : v.db.commandLogs = w.db.commandLogs) :
    Beside w v :=
  ⟨devices, codes, fun id => by unfold pendingCommands; rw [logs]⟩

def SameRows (w v : World) : Prop :=
  v.db.devices = w.db.devices ∧ v.db.hardwareCodes = w.db.hardwareCodes

theorem serviced_sameRows : Serviced SameRows (fun _ _ => False) (fun _ _ => True) :=
  Serviced.of_marks ⟨fun _ => ⟨rfl, rfl⟩, fun h k => ⟨k.1.trans h.1, k.2.trans h.2⟩⟩
    (fun _ _ _ refused => refused.elim) (fun _ _ _ => ⟨rfl, rfl⟩) (fun _ _ _ _ _ _ => ⟨rfl, rfl⟩)

theorem request_not_ota (r : CommandLog) (ota : hasAction (.str "ota_update") r.command = true) :
    hasAction (.str "request_capabilities") r.command = false := by
  unfold hasAction at *
  cases action : actionOf r.command with
  | none => rfl
  | some a =>
    rw [action] at ota
    have norm : a.norm = (Json.str "ota_update").norm := by simpa [Json.same] using ota
    simp [Json.same, norm, Json.norm]

theorem OtaOnly.requests {w v : World} (only : OtaOnly w v) (id : String) :
    pendingCommands v.db id (.str "request_capabilities") =
      pendingCommands w.db id (.str "request_capabilities") := by
  refine only.selection _ (fun r ota => ?_)
  rw [request_not_ota r ota, Bool.and_false]

theorem beside_finish (env : Env) (saved : Device) (repush : Bool) : Upholds Beside (do
    resolveOtaUpdates env saved
    when repush (repushCalibration env saved)) := by
  refine Upholds.bind beside_closed (fun w => ?_) (fun _ => Upholds.when beside_closed (fun _ => ?_))
  · have rows := serviced_sameRows.resolveOtaUpdates env saved w
    exact ⟨rows.1, rows.2, (otaOnly_resolveOtaUpdates env saved w).requests⟩
  · exact Upholds.forEach beside_closed (fun _ _ => Upholds.bind beside_closed
      (Upholds.attempt (upholds_mqttPublish beside_closed (fun _ _ => .of_same rfl rfl rfl)))
      (fun _ => Upholds.pure beside_closed _))

namespace Enquiry

/-- The state of the race, for a device whose row was the given one at its start. -/
structure Tallied (x : Enquiry) (w₀ : World) (row₀ : Device) (q : Inquest) (t : Tally) : Prop where
  row : ∃ row, q.world.device? row₀.deviceId = some row ∧ row.capabilitiesRequestedAt.isSome = t.asked ∧
    (t.lookups = 0 → ∃ at_, row = { row₀ with capabilitiesRequestedAt := at_ })
  codes : q.world.db.hardwareCodes = w₀.db.hardwareCodes
  pending : (pendingCommands q.world.db row₀.deviceId (.str "request_capabilities")).isEmpty = !t.pending
  answer : q.answer = if t.alive then x.read w₀ else none
  live : t.alive = true → (x.read w₀).isSome = true
  unread : t.lookups = 0 → t.alive = false

theorem read_eq_some (x : Enquiry) {w₀ : World} {a : Answer} (read : x.read w₀ = some a) :
    ∃ data row, w₀.device? x.reply.deviceId = some row ∧ a.saved = reportedDevice w₀ data row ∧
      a.timeout = hadTimeoutAlert row := by
  unfold Enquiry.read at read
  cases object : x.reply.payload.object? with
  | none => simp [object] at read
  | some data =>
    cases known : w₀.device? x.reply.deviceId with
    | none => simp [object, known] at read
    | some row =>
      simp only [object, known, Option.some.injEq] at read
      exact ⟨data, row, rfl, by rw [← read], by rw [← read]⟩

theorem saved_of_read (x : Enquiry) {w₀ : World} {a : Answer} (read : x.read w₀ = some a) :
    a.saved.deviceId = x.reply.deviceId ∧ a.saved.capabilitiesRequestedAt = none := by
  obtain ⟨data, row, known, saved, -⟩ := x.read_eq_some read
  rw [saved]
  refine ⟨deviceId_applyCapabilities.trans (Table.key_get? known), ?_⟩
  unfold reportedDevice applyCapabilities
  cases hadTimeoutAlert row <;> rfl

theorem short_of_timeout (x : Enquiry) {w₀ : World} {alive : Bool} {answer : Option Answer} {a : Answer}
    (read : answer = if alive then x.read w₀ else none) (there : answer = some a) (timeout : a.timeout = true) :
    varchar 256 (statusRow x.reply.env a.saved).alertMessage = true := by
  rw [there] at read
  cases alive with
  | false => cases read
  | true =>
    obtain ⟨data, row, -, saved, late⟩ := x.read_eq_some read.symm
    have clear : a.saved.alertColumns = (.ok, "", none) := by
      rw [saved]
      exact alertColumns_answered (late.symm.trans timeout)
    simp only [Device.alertColumns, Prod.mk.injEq] at clear
    rw [show (statusRow x.reply.env a.saved).alertMessage = a.saved.alertMessage from rfl, clear.2.1]
    decide

section Tallied
variable {x : Enquiry} {w₀ : World} {row₀ : Device} {q : Inquest} {t : Tally}
  (h : x.Tallied w₀ row₀ q t)
include h

theorem Tallied.beside {v : World} {answer : Option Answer} (beside : Beside q.world v)
    (same : answer = if t.alive then x.read w₀ else none) : x.Tallied w₀ row₀ ⟨v, answer⟩ t where
  row := by
    unfold World.device?
    rw [beside.devices]
    exact h.row
  codes := beside.codes.trans h.codes
  pending := by rw [beside.pending]; exact h.pending
  answer := same
  live := h.live
  unread := h.unread

theorem tallied_record (own : x.device.deviceId = row₀.deviceId) :
    x.Tallied w₀ row₀ (x.step q .record) { t with asked := true } := by
  obtain ⟨row, found, -, before⟩ := h.row
  have id : row.deviceId = row₀.deviceId := Table.key_get? found
  refine ⟨⟨x.requested.copyFields [.capabilitiesRequestedAt] row, ?_, rfl, fun first => ?_⟩, h.codes,
    h.pending, h.answer, h.live, h.unread⟩
  · have saved := device?_saveDevice q.world x.requested [.capabilitiesRequestedAt] row₀.deviceId
    rw [found, Option.map_some, if_pos (show row.deviceId = x.requested.deviceId from id.trans own.symm)] at saved
    exact saved
  · obtain ⟨at_, rfl⟩ := before first
    exact ⟨some x.env.now, rfl⟩

theorem tallied_insert (own : x.device.deviceId = row₀.deviceId) :
    x.Tallied w₀ row₀ (x.step q .insert) { t with pending := true } := by
  have added : (x.step q .insert).world =
      q.world.apply (.addCommandLog x.device.deviceId
        (bareCommand "request_capabilities") x.env.now x.sentBy) := by
    refine (after_addCommandLog _ _ _ _ _).trans (if_pos ?_)
    decide
  refine ⟨?_, ?_, ?_, h.answer, h.live, h.unread⟩
  · rw [added]
    exact h.row
  · rw [added]
    exact h.codes
  · rw [added, Bool.not_true, List.isEmpty_eq_false_iff]
    refine List.ne_nil_of_mem (List.mem_filter.mpr ⟨List.mem_append_right _ (List.mem_singleton.mpr rfl), ?_⟩)
    rw [own]
    simp [hasAction, actionOf, bareCommand]
    decide

theorem tallied_lookup (own : x.reply.deviceId = row₀.deviceId) (known : w₀.device? row₀.deviceId = some row₀)
    (once : t.lookups = 0) :
    x.Tallied w₀ row₀ (x.step q .lookup)
      { t with lookups := t.lookups + 1, alive := (x.read w₀).isSome } := by
  obtain ⟨row, found, asked, before⟩ := h.row
  obtain ⟨at_, same⟩ := before once
  have read : x.read q.world = x.read w₀ := by
    unfold Enquiry.read
    rw [own, found, known, same]
    cases x.reply.payload.object? with
    | none => rfl
    | some data =>
      unfold reportedDevice
      rw [h.codes]
      rfl
  refine ⟨⟨row, found, asked, fun first => by cases first⟩, h.codes, h.pending, ?_, id,
    fun first => by cases first⟩
  change x.read q.world = _
  rw [read]
  cases x.read w₀ <;> rfl

theorem tallied_announce : x.Tallied w₀ row₀ (x.step q .announce) t := by
  cases there : q.answer with
  | none =>
    rw [step, advance_ended there]
    exact h
  | some a =>
    have quiet : ∃ v, outcome (when a.timeout (addStatusLog (statusRow x.reply.env a.saved))) q.world =
        (.ok (), v) ∧ Beside q.world v := by
      cases timeout : a.timeout with
      | false => exact ⟨q.world, rfl, beside_closed.refl _⟩
      | true =>
        have short := x.short_of_timeout h.answer there timeout
        exact ⟨_, outcome_addStatusLog short q.world, .of_same rfl rfl rfl⟩
    obtain ⟨v, run, beside⟩ := quiet
    rw [step, advance_ok there run]
    exact h.beside beside h.answer

theorem Tallied.ended (silent : t.alive = false) : q.answer = none := by
  rw [h.answer, silent]
  rfl

theorem Tallied.goes_on (alive : t.alive = true) : ∃ a, x.read w₀ = some a ∧ q.answer = some a := by
  obtain ⟨a, read⟩ := Option.isSome_iff_exists.mp (h.live alive)
  exact ⟨a, read, by rw [h.answer, alive, if_pos rfl, read]⟩

theorem tallied_store (own : x.reply.deviceId = row₀.deviceId) :
    x.Tallied w₀ row₀ (x.step q .store)
      (t.step (x.read w₀).isSome ((x.read w₀).all (fun a => capabilitiesFields.all a.saved.accepts)) .store) := by
  cases alive : t.alive with
  | false =>
    rw [step, advance_ended (h.ended alive), Tally.step, alive]
    exact h
  | true =>
    obtain ⟨a, read, there⟩ := h.goes_on alive
    obtain ⟨named, empty⟩ := x.saved_of_read read
    have looked : t.lookups ≠ 0 := fun first => by simp [h.unread first] at alive
    rw [step, read, Option.all_some]
    by_cases taken : capabilitiesFields.all a.saved.accepts = true
    · have kept := (outcome_saveDevice a.saved capabilitiesFields q.world).trans (if_pos taken)
      have cleared : t.step (some a).isSome true .store = { t with asked := false } := by
        simp [Tally.step, alive]
      rw [advance_ok there kept, taken, cleared]
      obtain ⟨row, found, -⟩ := h.row
      have id : row.deviceId = a.saved.deviceId := (Table.key_get? found).trans (own.symm.trans named.symm)
      refine ⟨⟨a.saved.copyFields capabilitiesFields row, ?_, ?_, fun first => absurd first looked⟩, h.codes,
        h.pending, h.answer, h.live, h.unread⟩
      · have saved := device?_saveDevice q.world a.saved capabilitiesFields row₀.deviceId
        rw [found, Option.map_some, if_pos id] at saved
        exact saved
      · rw [show (a.saved.copyFields capabilitiesFields row).capabilitiesRequestedAt =
          a.saved.capabilitiesRequestedAt from rfl, empty]
        rfl
    · have refused := (outcome_saveDevice a.saved capabilitiesFields q.world).trans (if_neg taken)
      have ended : t.step (some a).isSome false .store = { t with alive := false } := by
        simp [Tally.step, alive]
      rw [advance_failed there refused, eq_false_of_ne_true taken, ended]
      exact ⟨h.row, h.codes, h.pending, rfl, fun still => (by cases still), fun _ => rfl⟩

theorem tallied_resolve (own : x.reply.deviceId = row₀.deviceId) (accepted : Bool) :
    x.Tallied w₀ row₀ (x.step q .resolve) (t.step (x.read w₀).isSome accepted .resolve) := by
  cases alive : t.alive with
  | false =>
    rw [step, advance_ended (h.ended alive), Tally.step, alive]
    exact h
  | true =>
    obtain ⟨a, read, there⟩ := h.goes_on alive
    obtain ⟨named, -⟩ := x.saved_of_read read
    have run := outcome_emit (.markCommands
      (fun r => decide (r.device = a.saved.deviceId) && decide (r.status = .pending) &&
        hasAction (.str "request_capabilities") r.command) .success "" x.reply.env.now) q.world
    have resolves : resolveCapabilityRequests x.reply.env a.saved .success "" = emit (.markCommands
      (fun r => decide (r.device = a.saved.deviceId) && decide (r.status = .pending) &&
        hasAction (.str "request_capabilities") r.command) .success "" x.reply.env.now) := if_pos (by decide)
    have settled : t.step (x.read w₀).isSome accepted .resolve = { t with pending := false } := by
      simp [Tally.step, alive]
    rw [step, settled, advance_ok there (resolves ▸ run)]
    refine ⟨h.row, h.codes, ?_, h.answer, h.live, h.unread⟩
    rw [Bool.not_false, List.isEmpty_iff, pendingCommands, List.filter_eq_nil_iff]
    intro r member
    obtain ⟨before, -, marked⟩ := List.mem_map.mp member
    by_cases hit : (decide (before.device = a.saved.deviceId) && decide (before.status = .pending) &&
        hasAction (.str "request_capabilities") before.command) = true
    · rw [if_pos hit] at marked
      rw [← marked]
      simp
    · rw [if_neg hit] at marked
      rw [← marked, ← own, ← named]
      exact hit

theorem tallied_finish : x.Tallied w₀ row₀ (x.step q .finish) { t with alive := false } := by
  have beside : Beside q.world (x.step q .finish).world := by
    cases there : q.answer with
    | none =>
      rw [step, advance_ended there]
      exact beside_closed.refl _
    | some a =>
      have run := world_advance q.world a (fun a => do
        resolveOtaUpdates x.reply.env a.saved
        when a.repush (repushCalibration x.reply.env a.saved))
      rw [← there] at run
      dsimp only [step]
      rw [run]
      exact beside_finish _ _ _ _
  have still := h.beside beside h.answer
  exact ⟨still.row, still.codes, still.pending, rfl, fun alive => (by cases alive), fun _ => rfl⟩

end Tallied

/-- While the row is read at most once, the race is what its flags say. -/
theorem tallied_step {x : Enquiry} {w₀ : World} {row₀ : Device} (known : w₀.device? row₀.deviceId = some row₀)
    (asking : x.device.deviceId = row₀.deviceId) (replying : x.reply.deviceId = row₀.deviceId)
    (q : Inquest) (t : Tally) (stage : Stage) (h : t.lookups ≤ 1 → x.Tallied w₀ row₀ q t)
    (once : (t.step (x.read w₀).isSome
      ((x.read w₀).all (fun a => capabilitiesFields.all a.saved.accepts)) stage).lookups ≤ 1) :
    x.Tallied w₀ row₀ (x.step q stage) (t.step (x.read w₀).isSome
      ((x.read w₀).all (fun a => capabilitiesFields.all a.saved.accepts)) stage) := by
  have before : t.lookups ≤ 1 := by
    refine le_trans ?_ once
    cases stage <;> simp only [Tally.step] <;> (try split) <;> (try split) <;> simp
  replace h := h before
  cases stage with
  | publish =>
    refine h.beside ?_ h.answer
    rw [after_mqttPublish]
    exact .of_same rfl rfl rfl
  | record => exact tallied_record h asking
  | insert => exact tallied_insert h asking
  | lookup => exact tallied_lookup h replying known (by simpa [Tally.step] using once)
  | announce => exact tallied_announce h
  | store => exact tallied_store h replying
  | resolve => exact tallied_resolve h replying _
  | finish => exact tallied_finish h

section Final
variable {x : Enquiry} {w : World} {row : Device} {schedule : List Stage}

/-- After the race the mark is gone and nothing is pending exactly when the reply was
stored, and in time. -/
theorem settled_iff (known : w.device? x.device.deviceId = some row)
    (replying : x.reply.deviceId = x.device.deviceId)
    (merged : Interleaved x.web worker schedule) (causal : schedule.head? = some .publish) :
    ((x.final w schedule).device? x.device.deviceId).map Device.capabilitiesRequestedAt = some none ∧
      pendingCommands (x.final w schedule).db x.device.deviceId (.str "request_capabilities") = [] ↔
    stores w x.reply = true ∧ InTime x.logged schedule := by
  have own : row.deviceId = x.device.deviceId := Table.key_get? known
  have start : x.Tallied w row ⟨w, none⟩
      ⟨row.capabilitiesRequestedAt.isSome,
        !(pendingCommands w.db row.deviceId (.str "request_capabilities")).isEmpty, 0, false⟩ :=
    ⟨⟨row, own ▸ known, rfl, fun _ => ⟨row.capabilitiesRequestedAt, rfl⟩⟩, rfl, (Bool.not_not _).symm, rfl,
      fun alive => (by cases alive), fun _ => rfl⟩
  have stored : stores w x.reply = ((x.read w).isSome &&
      (x.read w).all (fun a => capabilitiesFields.all a.saved.accepts)) := by
    unfold stores reported Enquiry.read
    cases x.reply.payload.object? <;> cases w.device? x.reply.deviceId <;> rfl
  obtain ⟨rest, rfl, member⟩ : ∃ rest, schedule = .publish :: rest ∧
      rest ∈ Interleaved.merges (.record :: if x.logged then [.insert] else []) worker := by
    cases merged with
    | left rest => exact ⟨_, rfl, Interleaved.mem_merges rest⟩
    | right _ => cases causal
  have flags := tally_final (x.read w).isSome
    ((x.read w).all (fun a => capabilitiesFields.all a.saved.accepts)) x.logged
    row.capabilitiesRequestedAt.isSome
    (!(pendingCommands w.db row.deviceId (.str "request_capabilities")).isEmpty) rest member
  have ran := Run.related_run (R := fun q t => t.lookups ≤ 1 → x.Tallied w row q t)
    (fun q t stage h once => tallied_step (own ▸ known) own.symm (replying.trans own.symm) q t stage h once)
    (fun _ => start) (.publish :: rest)
  dsimp only at flags
  generalize Run.run (Tally.step _ _) _ (Stage.publish :: rest) = t at flags ran
  obtain ⟨once, settled⟩ := flags
  have last := ran (le_of_eq once)
  obtain ⟨now, found, asked, -⟩ := last.row
  rw [stored, ← settled, ← own]
  unfold final
  rw [found, Option.map_some, Option.some.injEq, ← List.isEmpty_iff, last.pending, ← asked]
  simp

end Final

end Enquiry

def AskedSince (id : String) (w v : World) : Prop :=
  ∃ new, v.published = w.published ++ new ∧ ∃ p ∈ new, p.payload = bareCommand "request_capabilities" ∧
    ∃ device : Device, device.deviceId = id ∧ p.topic = commandTopic device

def requestRows (db : Db) (id : String) : List CommandLog :=
  db.commandLogs.rows.filter
    (fun r => decide (r.device = id) && hasAction (.str "request_capabilities") r.command)

/-- No sensors message changes a request row, and one raises the capabilities timeout of the
device only on account of a later request. -/
def Unblamed (id : String) (w : World) : Prop :=
  ∀ ds : List Delivery, (∀ d ∈ ds, d.kind = .sensors) →
    requestRows (Run.run deliver w ds).db id = requestRows w.db id ∧
    Run.Along deliver (fun s d => d.deviceId = id → timesOut s d = true → AskedSince id w s) w ds

theorem AskedSince.grown {id : String} {w u v : World} (asked : AskedSince id w u) (grows : Grows u v) :
    AskedSince id w v := by
  obtain ⟨new, published, p, member, rest⟩ := asked
  obtain ⟨more, grown⟩ := grows
  exact ⟨new ++ more, by rw [← grown, published, List.append_assoc], p, List.mem_append_left _ member, rest⟩

theorem AskedSince.after {id : String} {w u v : World} (grows : Grows w u) (asked : AskedSince id u v) :
    AskedSince id w v := by
  obtain ⟨more, grown⟩ := grows
  obtain ⟨new, published, p, member, rest⟩ := asked
  exact ⟨more ++ new, by rw [published, ← grown, List.append_assoc], p, List.mem_append_right _ member, rest⟩

structure MarkKept (id : String) (w v : World) : Prop where
  mark : (v.device? id).map Device.capabilitiesRequestedAt = (w.device? id).map Device.capabilitiesRequestedAt
  grows : Grows w v

theorem markKept_closed (id : String) : Closed (MarkKept id) :=
  ⟨fun w => ⟨rfl, grows_closed.refl w⟩, fun h k => ⟨k.mark.trans h.mark, grows_closed.trans h.grows k.grows⟩⟩

theorem capabilitiesRequestedAt_copyFields {src row : Device} {fields : List DeviceField}
    (other : .capabilitiesRequestedAt ∉ fields) :
    (src.copyFields fields row).capabilitiesRequestedAt = row.capabilitiesRequestedAt := by
  have column := @Device.copyFields_column _ Device.capabilitiesRequestedAt .capabilitiesRequestedAt src
    (fun _ => rfl) (fun f h r => by cases f <;> first | rfl | exact absurd rfl h) fields row
  rw [column, if_neg other]

theorem markKept_saveDevice {id : String} {d : Device} {fields : List DeviceField}
    (spares : d.deviceId = id → .capabilitiesRequestedAt ∉ fields) (w : World) :
    MarkKept id w (w.apply (.saveDevice d fields)) := by
  refine ⟨?_, grows_apply _ _⟩
  rw [device?_saveDevice]
  cases found : w.device? id with
  | none => rfl
  | some row =>
    have own : row.deviceId = id := Table.key_get? found
    rw [Option.map_some, Option.map_some, Option.map_some]
    split
    · next same => rw [capabilitiesRequestedAt_copyFields (spares (same.symm.trans own))]
    · rfl

theorem respected_mark (id : String) :
    Respected (MarkKept id) (fun d fields => d.deviceId = id → .capabilitiesRequestedAt ∉ fields)
      (fun _ _ => True) (fun _ => True) where
  toServiced := Serviced.of_marks (markKept_closed id) (fun w _ _ spares => markKept_saveDevice spares w)
    (fun _ _ _ => ⟨rfl, grows_apply _ _⟩) (fun _ _ _ _ _ _ => ⟨rfl, grows_apply _ _⟩)
  history := fun _ e history _ => by
    cases e <;> first | exact ⟨rfl, grows_apply _ _⟩ | cases history

def MarkedOrAsked (id : String) (w v : World) : Prop := MarkKept id w v ∨ AskedSince id w v

theorem MarkedOrAsked.after_kept {id : String} {α : Type} {m : Act α} {f : α → Act Unit}
    (first : Upholds (MarkKept id) m) (rest : ∀ a, Upholds (MarkedOrAsked id) (f a)) :
    Upholds (MarkedOrAsked id) (m >>= f) := by
  refine Upholds.bind_within (fun kept => .inl kept) (fun kept last => ?_) first rest
  rcases last with more | asked
  · exact .inl ((markKept_closed id).trans kept more)
  · exact .inr (asked.after kept.grows)

theorem reconcileAlert_asked (now : Time) (device : Device) :
    (reconcileAlert now device).1.capabilitiesRequestedAt = device.capabilitiesRequestedAt ∧
      DeviceField.capabilitiesRequestedAt ∉ DeviceField.lastSeen :: (reconcileAlert now device).2.1 := by
  rcases reconcileAlert_cases now device with h | h | h <;> rw [h]
  · exact ⟨rfl, by simp [alertFields]⟩
  · exact ⟨rfl, by simp⟩
  · exact ⟨rfl, by simp⟩

section Sensors
variable {env : Env} {deviceType : String} {data : Fields} {device : Device}

theorem markKept_approvedRest : Upholds (MarkKept device.deviceId) (approvedRest env deviceType data device) :=
  upholds_approvedRest (respected_mark _).toRecounted
    (fun _ _ _ names _ member => absurd (names _ member) (by decide))
    (fun _ _ _ => trivial) ⟨rfl, rfl⟩ trivial

theorem markedOrAsked_savedRest (woken : Bool) (unmarked : device.capabilitiesRequestedAt = none) :
    Upholds (MarkedOrAsked device.deviceId) (savedRest env deviceType data woken device) := by
  refine MarkedOrAsked.after_kept ((respected_mark _).checkOtaTimeouts _ _) (fun _ => ?_)
  cases woken with
  | false =>
    have answered : checkCapabilitiesTimeout env device = pure device := by
      unfold checkCapabilitiesTimeout capabilitiesOverdue
      rw [unmarked]
      rfl
    rw [if_neg (by decide), answered]
    exact fun w => .inl (markKept_approvedRest w)
  | true =>
    intro w
    obtain ⟨sent, request, -, content, asked⟩ := wakeUp_sends env device w
    rw [if_pos rfl]
    have grows : Grows (after (wakeUp env device) w)
        (after (wakeUp env device >>= fun d => approvedRest env deviceType data d) w) := by
      refine Upholds.rest grows_closed (fun d => grows_of_emits ?_) w
      exact upholds_approvedRest permits_all.respected.toRecounted (fun _ _ _ _ => trivial) (fun _ _ _ => trivial)
        ⟨rfl, rfl⟩ trivial
    obtain ⟨more, published⟩ := asked.trans grows
    refine .inr ⟨sent ++ [request] ++ more, by rw [← published]; simp, request, by simp, ?_, device, rfl, ?_⟩
    · exact congrArg Prod.snd content
    · exact congrArg Prod.fst content

theorem markedOrAsked_sensorBody {created : Bool} (unmarked : device.capabilitiesRequestedAt = none) :
    Upholds (MarkedOrAsked device.deviceId) (sensorBody env deviceType data device created) := by
  have seen : SameUnit device { device with lastSeen := some env.now } := ⟨rfl, rfl⟩
  obtain ⟨same, -⟩ := reconcileAlert_spec env.now seen
  obtain ⟨still, fields⟩ := reconcileAlert_asked env.now { device with lastSeen := some env.now }
  replace still := still.trans unmarked
  rw [sensorBody_halves]
  generalize reconcileAlert env.now { device with lastSeen := some env.now } = reconciled at same still fields ⊢
  obtain ⟨d, names, cleared⟩ := reconciled
  have within := respected_mark device.deviceId
  refine MarkedOrAsked.after_kept (Upholds.when within.closed
    (fun _ => upholds_announceCleared within.toRecounted trivial)) (fun _ => ?_)
  refine MarkedOrAsked.after_kept (within.saveDevice (fun _ => fields)) (fun _ => ?_)
  have rest := @markedOrAsked_savedRest env deviceType data d (created || !device.isOnline env.now) still
  rwa [same.1] at rest

end Sensors

theorem markKept_others {w : World} {d : Delivery} {id : String} (kind : d.kind = .sensors)
    (other : d.deviceId ≠ id) : MarkKept id w (deliver w d) := by
  unfold deliver handleMessage
  rw [kind]
  refine upholds_handleSensorMessage (respected_mark id) (fun v => ⟨?_, grows_apply _ _⟩)
    (fun e _ named _ same => absurd (named.symm.trans same) other) (fun _ _ => trivial)
    (fun _ _ => ⟨fun _ _ => trivial, trivial, trivial, trivial⟩) (fun _ _ => trivial) w
  have apart : (v.apply (.createDevice
      { deviceId := d.deviceId, deviceType := d.deviceType, createdAt := d.env.now })).device? id = v.device? id :=
    Table.get?_insert_other other
  rw [apart]

theorem grows_sensors {w : World} {d : Delivery} (kind : d.kind = .sensors) : Grows w (deliver w d) := by
  unfold deliver handleMessage
  rw [kind]
  exact grows_of_emits (upholds_handleSensorMessage permits_all.respected (fun _ => journal_single _ trivial)
    (fun _ _ _ _ => trivial) (fun _ _ => trivial) (fun _ _ => ⟨fun _ _ => trivial, trivial, trivial, trivial⟩)
    (fun _ _ => trivial)) w

theorem unmarked_sensors {w : World} {d : Delivery} {id : String} (kind : d.kind = .sensors)
    (unmarked : (w.device? id).map Device.capabilitiesRequestedAt = some none) :
    (d.deviceId = id → timesOut w d = false) ∧
      (((deliver w d).device? id).map Device.capabilitiesRequestedAt = some none ∨
        AskedSince id w (deliver w d)) := by
  obtain ⟨row, known, none_⟩ := Option.map_eq_some_iff.mp unmarked
  by_cases mine : d.deviceId = id
  swap
  · exact ⟨fun same => absurd same mine, .inl ((markKept_others kind mine).mark.trans unmarked)⟩
  have own : row.deviceId = id := Table.key_get? known
  cases object : d.payload.object? with
  | none =>
    have silent : timesOut w d = false := by simp [timesOut, kind, object]
    rw [deliver_unread object]
    exact ⟨fun _ => silent, .inl unmarked⟩
  | some data =>
    have silent : timesOut w d = false := by
      simp [timesOut, kind, object, mine, known, capabilitiesOverdue, none_]
    refine ⟨fun _ => silent, ?_⟩
    rw [deliver_sensors kind object (mine ▸ known)]
    have rest := @markedOrAsked_sensorBody d.env d.deviceType data row false none_ w
    rw [own] at rest
    rcases rest with kept | asked
    · exact .inl (kept.mark.trans unmarked)
    · exact .inr asked

def RequestsKept (id : String) (w v : World) : Prop :=
  pendingCommands w.db id (.str "request_capabilities") = [] → requestRows v.db id = requestRows w.db id

theorem pendingCommands_requestRows (db : Db) (id : String) :
    pendingCommands db id (.str "request_capabilities") =
      (requestRows db id).filter (fun r => decide (r.status = .pending)) := by
  unfold pendingCommands requestRows
  rw [List.filter_filter]
  refine List.filter_congr (fun r _ => ?_)
  cases decide (r.device = id) <;> cases decide (r.status = .pending) <;>
    cases hasAction (.str "request_capabilities") r.command <;> rfl

theorem pendingCommands_kept {id : String} {w v : World} (kept : requestRows v.db id = requestRows w.db id) :
    pendingCommands v.db id (.str "request_capabilities") =
      pendingCommands w.db id (.str "request_capabilities") := by
  rw [pendingCommands_requestRows, pendingCommands_requestRows, kept]

theorem requestsKept_closed (id : String) : Closed (RequestsKept id) where
  refl _ := fun _ => rfl
  trans h k := fun none_ => (k ((pendingCommands_kept (h none_)).trans none_)).trans (h none_)

theorem RequestsKept.of_same {id : String} {w v : World} (logs : v.db.commandLogs = w.db.commandLogs) :
    RequestsKept id w v := fun _ => by
  unfold requestRows
  rw [logs]

theorem OtaOnly.requestsKept {id : String} {w v : World} (only : OtaOnly w v) : RequestsKept id w v :=
  fun _ => only.selection _ (fun r ota => by rw [request_not_ota r ota, Bool.and_false])

theorem requestsKept_resolve {id : String} (env : Env) (device : Device) (status : CommandStatus)
    (message : String) : Upholds (RequestsKept id) (resolveCapabilityRequests env device status message) := by
  unfold resolveCapabilityRequests
  split
  swap
  · exact Upholds.fail (requestsKept_closed id) _
  intro w none_
  -- a row the update marks belongs to another device
  have elsewhere : ∀ r ∈ w.db.commandLogs.rows, (decide (r.device = device.deviceId) &&
      decide (r.status = .pending) && hasAction (.str "request_capabilities") r.command) = true →
      decide (r.device = id) = false := by
    intro r member hit
    by_contra mine
    have same : r.device = id := by simpa using mine
    simp only [Bool.and_eq_true, decide_eq_true_eq] at hit
    have present : r ∈ pendingCommands w.db id (.str "request_capabilities") :=
      List.mem_filter.mpr ⟨member, by simp [same, hit.1.2, hit.2]⟩
    rw [none_] at present
    cases present
  refine (@Table.filter_map_of_dropped _ _ _
    (fun r : CommandLog => decide (r.device = id) && hasAction (.str "request_capabilities") r.command)
    (fun r : CommandLog => decide (r.device = device.deviceId) && decide (r.status = .pending) &&
      hasAction (.str "request_capabilities") r.command) ?_ ?_).trans ?_
  · intro r member hit
    rw [if_pos hit, CommandLog.mark_device, elsewhere r member hit, Bool.false_and]
  · intro r _ miss
    rw [if_neg (by simp [miss])]
  · refine List.filter_eq_self.mpr (fun r selected => ?_)
    obtain ⟨present, mine⟩ := List.mem_filter.mp selected
    by_contra hit
    rw [elsewhere r present (by simpa using hit), Bool.false_and] at mine
    cases mine

theorem respected_requests (id : String) :
    Respected (RequestsKept id) (fun _ _ => True) (fun _ _ => True) (fun _ => True) where
  closed := requestsKept_closed id
  save := fun _ _ _ _ => .of_same rfl
  publish := fun _ _ _ => .of_same rfl
  checkOtaTimeouts := fun env device w => (otaOnly_checkOtaTimeouts env device w).requestsKept
  resolveOtaUpdates := fun env device w => (otaOnly_resolveOtaUpdates env device w).requestsKept
  resolveRequests := fun env device status message _ => requestsKept_resolve env device status message
  history := fun _ e history _ => by cases e <;> first | exact .of_same rfl | cases history

theorem requestsKept_sensors {w : World} {d : Delivery} (id : String) (kind : d.kind = .sensors) :
    RequestsKept id w (deliver w d) := by
  unfold deliver handleMessage
  rw [kind]
  exact upholds_handleSensorMessage (respected_requests id) (fun _ => .of_same rfl) (fun _ _ _ _ => trivial)
    (fun _ _ => trivial) (fun _ _ => ⟨fun _ _ => trivial, trivial, trivial, trivial⟩) (fun _ _ => trivial) w

theorem unblamed {w : World} {id : String}
    (unmarked : (w.device? id).map Device.capabilitiesRequestedAt = some none)
    (none_ : pendingCommands w.db id (.str "request_capabilities") = []) : Unblamed id w := by
  intro ds sensors
  have allowed : Run.Along deliver (fun _ d => d.kind = .sensors) w ds :=
    Run.along_of_all w ds (fun d member _ => sensors d member)
  constructor
  · have kept : RequestsKept id w (Run.run deliver w ds) :=
      Run.invariant (fun s d kept kind => (requestsKept_closed id).trans kept (requestsKept_sensors id kind))
        ((requestsKept_closed id).refl w) allowed
    exact kept none_
  · refine @Run.along_of_invariant _ _ deliver (fun _ d => d.kind = .sensors) _
      (fun s => Grows w s ∧ ((s.device? id).map Device.capabilitiesRequestedAt = some none ∨ AskedSince id w s))
      ?_ ?_ w ds ⟨grows_closed.refl w, .inl unmarked⟩ allowed
    · rintro s d ⟨grows, still | asked⟩ kind
      · refine ⟨grows_closed.trans grows (grows_sensors kind), ?_⟩
        exact (unmarked_sensors kind still).2.imp_right (fun more => more.after grows)
      · exact ⟨grows_closed.trans grows (grows_sensors kind), .inr (asked.grown (grows_sensors kind))⟩
    · rintro s d ⟨-, still | asked⟩ kind mine late
      · rw [(unmarked_sensors kind still).1 mine] at late
        cases late
      · exact asked

/-- The request is settled, now and for the messages to come. -/
structure Answered (id : String) (w : World) : Prop where
  mark : (w.device? id).map Device.capabilitiesRequestedAt = some none
  pending : pendingCommands w.db id (.str "request_capabilities") = []
  unblamed : Unblamed id w

/-- Once both are done, a device whose reply came after the publish counts as having answered
exactly when its reply was stored, after the time of the request, and the rows were resolved
after the row of the request was there. -/
theorem Enquiry.answered_iff (x : Enquiry) {w : World} {schedule : List Stage}
    (known : (w.device? x.device.deviceId).isSome = true) (replying : x.reply.deviceId = x.device.deviceId)
    (merged : Interleaved x.web worker schedule) (causal : schedule.head? = some .publish) :
    Answered x.device.deviceId (x.final w schedule) ↔ stores w x.reply = true ∧ InTime x.logged schedule := by
  obtain ⟨row, known⟩ := Option.isSome_iff_exists.mp known
  rw [← settled_iff known replying merged causal]
  exact ⟨fun answered => ⟨answered.mark, answered.pending⟩,
    fun settled => ⟨settled.1, settled.2, SensorServer.unblamed settled.1 settled.2⟩⟩

def porchDevice : Device :=
  { deviceId := "porch01", deviceType := "thermo", createdAt := 0, lastSeen := some 0, isApproved := true }

def porch : World := World.empty.apply (.createDevice porchDevice)

def porchEnquiry : Enquiry where
  env := { now := seconds 10 }
  device := porchDevice
  sentBy := some "admin"
  logged := true
  reply :=
    { env := { now := seconds 11 }, kind := .capabilities, deviceType := "thermo", deviceId := "porch01"
      payload := ⟨30, .value (.obj [("fw", .str "1.0.0")])⟩ }

def slowReply : List Stage := [.publish, .record, .insert, .lookup, .announce, .store, .resolve, .finish]

/-- The worker is done before the web process has recorded its request. -/
def quickReply : List Stage := [.publish, .lookup, .announce, .store, .resolve, .finish, .record, .insert]

theorem porch_answered : Answered "porch01" (porchEnquiry.final porch slowReply) :=
  (@Enquiry.answered_iff porchEnquiry porch slowReply (by decide) rfl
    (.left (.left (.left (.right (.right (.right (.right (.right .nil)))))))) rfl).mpr
    ⟨by decide, by decide⟩

def porchReading : Delivery :=
  { env := { now := seconds 80 }, kind := .sensors, deviceType := "thermo", deviceId := "porch01"
    payload := ⟨2, .value (.obj [])⟩ }

/-- The answered request stays marked and pending, and the next reading after the timeout
raises the alert and marks it as timed out. -/
theorem porch_blamed :
    Interleaved porchEnquiry.web Enquiry.worker quickReply ∧ stores porch porchEnquiry.reply = true ∧
    ¬ Answered "porch01" (porchEnquiry.final porch quickReply) ∧
    timesOut (porchEnquiry.final porch quickReply) porchReading = true ∧
    ((deliver (porchEnquiry.final porch quickReply) porchReading).device? "porch01").map Device.alert =
      some (.error, noCapabilitiesAlert) ∧
    (deliver (porchEnquiry.final porch quickReply) porchReading).db.commandLogs.rows.map CommandLog.status =
      [.timeout] := by
  refine ⟨.left (.right (.right (.right (.right (.right (.left (.left .nil))))))), by decide, ?_, by decide,
    by decide, by decide⟩
  intro answered
  exact absurd answered.mark (by decide)

end SensorServer
