import SensorServer.Lifecycle
import SensorServer.WakeUp

/-! The flush of a wake-up against the rows the command log calls pending. -/
namespace SensorServer
open Program

theorem forall_of_filter_perm {α : Type} {p q : α → Bool} {l : List α}
    (stricter : ∀ a ∈ l, p a = true → q a = true)
    (same : (l.filter p).length = (l.filter q).length) : ∀ a ∈ l, q a = true → p a = true := by
  have chosen : l.filter p = (l.filter q).filter p := by
    rw [List.filter_filter]
    refine List.filter_congr fun a member => ?_
    cases picked : p a with
    | false => rfl
    | true => rw [stricter a member picked, Bool.and_true]
  have equal : l.filter p = l.filter q :=
    List.Sublist.eq_of_length (chosen ▸ List.filter_sublist) same
  intro a member picked
  have listed : a ∈ l.filter p := equal ▸ List.mem_filter.mpr ⟨member, picked⟩
  exact (List.mem_filter.mp listed).2

/-- The pending rows of a device whose action is not ota_update. -/
def dueRows (db : Db) (device : String) : List CommandLog :=
  db.commandLogs.rows.filter
    (fun r => decide (r.device = device) && decide (r.status = .pending) && !otaUpdate r.command)

def resent (device : Device) (row : CommandLog) : Publication :=
  ⟨commandTopic device, row.command, false, 1, true⟩

/-- The messages are the commands due, each once, the oldest first. -/
def FlushesPending (env : Env) (w : World) (device : Device) : Prop :=
  ∃ rows : List CommandLog, rows.Perm (dueRows w.db device.deviceId) ∧ rows.Pairwise (fun a b => a.sentAt ≤ b.sentAt) ∧
    (after (flushPendingCommands env device) w).published = w.published ++ rows.map (resent device)

theorem published_flush {env : Env} (taken : ∀ n, env.broker n = true) (device : Device) (w : World) :
    (after (flushPendingCommands env device) w).published =
      w.published ++ (flushRows w.db device.deviceId).map (resent device) := by
  unfold flushPendingCommands
  rw [after_bind_ok (outcome_read _ w)]
  generalize flushRows w.db device.deviceId = rows
  induction rows generalizing w with
  | nil => exact (List.append_nil _).symm
  | cons row rows ih =>
    have sent : outcome (do
        let _ ← attempt (mqttPublish env (commandTopic device) row.command false 1)
        pure ()) w = (.ok (), w.apply (.publish (resent device row))) := by
      refine outcome_bind_ok (outcome_attempt_publish _ _ _ _ _ w) |>.trans ?_
      rw [taken]
      rfl
    refine (congrArg World.published (after_bind_ok sent)).trans ?_
    rw [ih]
    simp [World.apply]

theorem notOtaUpdate_eq (command : Json) :
    notOtaUpdate command = ((actionOf command).isSome && !otaUpdate command) := by
  unfold notOtaUpdate otaUpdate hasAction
  cases actionOf command <;> rfl

theorem flushes_pending_iff {env : Env} (taken : ∀ n, env.broker n = true) {w : World}
    (valid : ∀ row ∈ w.db.commandLogs.rows, row.Lifecycle) (device : Device) :
    FlushesPending env w device ↔ ∀ row ∈ w.db.commandLogs.rows, row.device = device.deviceId →
      row.status = .pending → (actionOf row.command).isSome = true := by
  have published := published_flush taken device w
  rw [flushRows_eq_pendingRows valid] at published
  have sorted : (pendingRows w.db device.deviceId).Perm (w.db.commandLogs.rows.filter
      (fun r => decide (r.device = device.deviceId) && decide (r.status = .pending) && notOtaUpdate r.command)) :=
    List.perm_insertionSort _ _
  constructor
  · rintro ⟨rows, due, -, same⟩ row member own pending
    rw [published, List.append_cancel_left_eq] at same
    have lengths : (w.db.commandLogs.rows.filter (fun r => decide (r.device = device.deviceId) &&
        decide (r.status = .pending) && notOtaUpdate r.command)).length =
          (dueRows w.db device.deviceId).length := by
      rw [← sorted.length_eq, ← due.length_eq]
      simpa using congrArg List.length same
    cases told : actionOf row.command with
    | some action => rfl
    | none =>
      have picked := forall_of_filter_perm (fun r _ kept => ?_) lengths row member (by
        simp [own, pending, otaUpdate, hasAction, told])
      · simp [notOtaUpdate, told] at picked
      · rw [notOtaUpdate_eq] at kept
        simp only [Bool.and_eq_true] at kept ⊢
        exact ⟨kept.1, kept.2.2⟩
  · intro named
    refine ⟨_, ?_, OrderBy.pairwise_ascending CommandLog.sentAt _, published⟩
    refine sorted.trans (List.Perm.of_eq (List.filter_congr fun row member => ?_))
    rw [notOtaUpdate_eq]
    cases own : decide (row.device = device.deviceId) with
    | false => rfl
    | true =>
      cases pending : decide (row.status = .pending) with
      | false => rfl
      | true =>
        rw [named row member (of_decide_eq_true own) (of_decide_eq_true pending)]
        rfl

/-- After any run the flush sends the commands due exactly if each pending row has an action. -/
theorem run_flushes_pending_iff {w : World} (start : ∀ row ∈ w.db.commandLogs.rows, row.Lifecycle)
    (es : List Event) {env : Env} (taken : ∀ n, env.broker n = true) (device : Device) :
    let u := Run.run serve w es
    FlushesPending env u device ↔ ∀ row ∈ u.db.commandLogs.rows, row.device = device.deviceId →
      row.status = .pending → (actionOf row.command).isSome = true := by
  intro u
  exact flushes_pending_iff taken ((evolves_run w es).lifecycle start) device

def livingRoom : Device := { deviceId := "living01", deviceType := "thermo", createdAt := seconds 1 }

theorem rebooting_flushed :
    FlushesPending { now := seconds 600 } (Run.run serve World.empty rebooting) livingRoom :=
  (@run_flushes_pending_iff World.empty (fun _ member => by cases member) rebooting { now := seconds 600 }
    (fun _ => rfl) livingRoom).mpr
    (by decide)

/-- A command that is an object without an action. -/
def lighting : List Event :=
  [heard01 .sensors (seconds 1) [],
   .web { now := seconds 2, jsonLoads := fun _ => .value (.obj [("led", .str "on")]) } .command
    { user := { username := "bob", role := some .resident }, post := [("command", "\x7b\"led\": \"on\"\x7d")] }
    "living01"]

theorem lighting_unflushed :
    let u := Run.run serve World.empty lighting
    u.db.commandLogs.rows.map (fun r => (r.device, r.command, r.status)) =
      [("living01", .obj [("led", .str "on")], .pending)] ∧
    (after (flushPendingCommands { now := seconds 600 } livingRoom) u).published = u.published ∧
    ¬ FlushesPending { now := seconds 600 } u livingRoom := by
  intro u
  have silent : (after (flushPendingCommands { now := seconds 600 } livingRoom) u).published = u.published := by
    decide
  refine ⟨by decide, silent, ?_⟩
  rintro ⟨rows, due, -, same⟩
  rw [silent] at same
  have none_ : rows = [] := by simpa using same
  have lengths := due.length_eq
  rw [none_] at lengths
  exact absurd lengths (by decide)

end SensorServer
