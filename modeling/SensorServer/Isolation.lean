import SensorServer.Alone

/-! Devices do not interfere: what a device gets, and what becomes of its rows, depends on
its own messages and pages and on the registry only. -/
namespace SensorServer
open Program

/-- The broker takes all messages of one event or none, and so does the channel layer. -/
structure Env.Steady (env : Env) : Prop where
  broker : ∀ m n, env.broker m = env.broker n
  channel : ∀ m n, env.channel m = env.channel n

theorem Env.Steady.answers {env : Env} (steady : env.Steady) (w v : World) : env.Answers w v :=
  ⟨fun _ => steady.broker _ _, fun _ => steady.channel _ _⟩

def Event.Steady : Event → Prop
  | .message d => d.env.Steady
  | .web env _ _ _ => env.Steady
  | .api _ _ _ => True

/-- The messages and pages of the device, and the requests to the registry. -/
def Event.concerns (id : String) : Event → Bool
  | .message d => decide (d.deviceId = id)
  | .web _ _ _ deviceId => decide (deviceId = id)
  | .api _ _ _ => true

def Event.renames (id : String) : Event → Prop
  | .web _ .rename request deviceId =>
    deviceId = id ∨ pyStrip (QueryDict.get request.post "new_device_id" "") = id
  | _ => False

/-- The same event, but that a command deleted by its number has its own number in each state. -/
inductive Counterpart : Event → Event → Prop where
  | same (e : Event) : Counterpart e e
  | numbered (env : Env) (request : Request) (deviceId : String) (m n : Nat) :
    Counterpart (.web env (.deleteCommand m) request deviceId) (.web env (.deleteCommand n) request deviceId)

/-- From the starts on, the device has got the same messages, the same events were about it, and
its rows are the same. -/
structure Isolated (id : String) (w₀ v₀ w v : World) : Prop where
  rows : ∃ ρ, SameDevice id ρ w v
  sent : ∃ new, w.sentTo id = w₀.sentTo id ++ new ∧ v.sentTo id = v₀.sentTo id ++ new
  heard : ∃ new, w.heardOf id = w₀.heardOf id ++ new ∧ v.heardOf id = v₀.heardOf id ++ new

section Steps
variable {id : String} {w₀ v₀ w v : World} {e : Event}

theorem Isolated.start {ρ : Equiv.Perm ℕ} (same : SameDevice id ρ w v) : Isolated id w v w v :=
  ⟨⟨ρ, same⟩, ⟨[], by simp, by simp⟩, ⟨[], by simp, by simp⟩⟩

theorem Isolated.abreast {w' v' : World} (isolated : Isolated id w₀ v₀ w v) (abreast : Abreast id w v w' v') :
    Isolated id w₀ v₀ w' v' := by
  obtain ⟨-, ⟨before, first, second⟩, ⟨told, third, fourth⟩⟩ := isolated
  obtain ⟨rows, ⟨new, sends, sends'⟩, ⟨more, hears, hears'⟩⟩ := abreast
  refine ⟨rows, ⟨before ++ new.filter (fun p => (parseTopic p.topic).any (fun t => decide (t.2.1 = id))), ?_, ?_⟩,
    ⟨told ++ more.filter (fun e => decide (e.device = id)), ?_, ?_⟩⟩
  · rw [World.sentTo, sends, List.filter_append, ← List.append_assoc, ← first]
    rfl
  · rw [World.sentTo, sends', List.filter_append, ← List.append_assoc, ← second]
    rfl
  · rw [World.heardOf, hears, List.filter_append, ← List.append_assoc, ← third]
    rfl
  · rw [World.heardOf, hears', List.filter_append, ← List.append_assoc, ← fourth]
    rfl

theorem Isolated.unseen {w' : World} (isolated : Isolated id w₀ v₀ w v) (unseen : Unseen id w w') :
    Isolated id w₀ v₀ w' v := by
  obtain ⟨⟨ρ, same⟩, sent, heard⟩ := isolated
  refine ⟨⟨_, unseen.rows.symm.trans same⟩, ?_, ?_⟩
  · rwa [unseen.sent]
  · rwa [unseen.heard]

/-- A step of another device is unseen. -/
theorem unseen_serve (other : e.concerns id = false) (stays : ¬ e.renames id) (w : World) :
    Unseen id w (serve w e) := by
  have confined := confined_unseen id
  cases e with
  | message d =>
    exact confined.handleMessage (of_decide_eq_false other)
      (fun w => confined.each w (.createDevice _) (of_decide_eq_false other)) (fun _ => trivial) (fun _ => trivial) w
  | web env view request deviceId =>
    refine confined.view (of_decide_eq_false other) view (fun _ => trivial) ?_ w
    rintro rfl same
    exact stays (.inr same)
  | api env view request => cases other

theorem after_deleteCommandView (request : Request) (deviceId : String) (n : Nat) (w : World) :
    after (deviceDeleteCommandView request deviceId n) w =
      if request.user.may .admin = true ∧ (w.device? deviceId).isSome = true ∧ request.isPost = true then
        w.apply (.deleteCommands (fun r => decide (r.id = n) && decide (r.device = deviceId)))
      else w := by
  unfold deviceDeleteCommandView getDeviceOr404 postOnly
  rw [roleRequired_eq]
  by_cases admitted : request.user.may .admin = true
  · rw [if_pos admitted, after_read_bind]
    cases known : w.device? deviceId with
    | none => simp
    | some device =>
      have named : device.deviceId = deviceId := Table.key_get? known
      cases request.isPost with
      | false => simp
      | true =>
        simp only [admitted, named, Option.isSome_some, and_self, if_true]
        rfl
  · simp [admitted]

/-- A step of the device has a counterpart in any state that agrees on the device. -/
theorem abreast_serve (mine : e.concerns id = true) (steady : e.Steady) (stays : ¬ e.renames id)
    {ρ : Equiv.Perm ℕ} (same : SameDevice id ρ w v) :
    ∃ f, Counterpart e f ∧ Abreast id w v (serve w e) (serve v f) := by
  have start := Abreast.start same
  cases e with
  | message d =>
    obtain rfl : d.deviceId = id := of_decide_eq_true mine
    exact ⟨_, .same _, (alone_handleMessage (Env.Steady.answers steady w v) d.kind w v start).2⟩
  | api env view request => exact ⟨_, .same _, (alone_api view w v start).2⟩
  | web env view request deviceId =>
    have named : deviceId = id := of_decide_eq_true mine
    subst named
    by_cases numbered : ∃ n, view = .deleteCommand n
    · obtain ⟨n, rfl⟩ := numbered
      refine ⟨_, .numbered env request deviceId n (ρ n), ?_⟩
      have both : ∀ u m, serve u (.web env (.deleteCommand m) request deviceId) =
          after (deviceDeleteCommandView request deviceId m) u := fun _ _ => rfl
      rw [both, both, after_deleteCommandView, after_deleteCommandView, same.row]
      split
      · refine ⟨⟨ρ, same.deleteCommands (fun r => ?_)⟩, start.sent, start.heard⟩
        have numbers : decide (ρ r.id = ρ n) = decide (r.id = n) := by simp
        exact congrArg (· && decide (r.device = deviceId)) numbers
      · exact start
    · refine ⟨_, .same _, (alone_view (steady.answers w v) ?_ ?_ w v start).2⟩
      · rintro rfl
        exact stays (.inl rfl)
      · exact fun n same_ => numbered ⟨n, same_⟩

end Steps

section Runs
variable {id : String} {w v : World} {es : List Event}

theorem isolation_unwinds (id : String) (w₀ v₀ : World) :
    Unwinding.Unwinds serve serve (Isolated id w₀ v₀)
      (fun e => (e.concerns id = true → e.Steady) ∧ ¬ e.renames id) (Event.concerns id) Counterpart where
  unseen := fun _ _ _ isolated allowed other => isolated.unseen (unseen_serve other allowed.2 _)
  seen := by
    intro w v e isolated allowed mine
    obtain ⟨ρ, same⟩ := isolated.rows
    obtain ⟨f, answers, abreast⟩ := abreast_serve mine (allowed.1 mine) allowed.2 same
    exact ⟨f, answers, isolated.abreast abreast⟩

/-- What becomes of a device is what its own messages and pages and the requests to the registry
make of it, in any state that agrees on the device. -/
theorem device_isolated {ρ : Equiv.Perm ℕ} (same : SameDevice id ρ w v)
    (steady : ∀ e ∈ es, e.concerns id = true → e.Steady) (stays : ∀ e ∈ es, ¬ e.renames id) :
    ∃ own, List.Forall₂ Counterpart (es.filter (Event.concerns id)) own ∧
      Isolated id w v (Run.run serve w es) (Run.run serve v own) :=
  (isolation_unwinds id w v).run (.start same) (fun e member => ⟨steady e member, stays e member⟩)

def Event.numbered : Event → Bool
  | .web _ (.deleteCommand _) _ _ => true
  | _ => false

theorem Counterpart.eq {e f : Event} (paired : Counterpart e f) (plain : e.numbered = false) : f = e := by
  cases paired with
  | same => rfl
  | numbered => cases plain

theorem counterparts_eq {es fs : List Event} (paired : List.Forall₂ Counterpart es fs)
    (plain : ∀ e ∈ es, e.numbered = false) : fs = es := by
  induction paired with
  | nil => rfl
  | cons first _ ih =>
    rw [first.eq (plain _ List.mem_cons_self), ih (fun e member => plain e (List.mem_cons_of_mem _ member))]

theorem Isolated.join {a b u : World} (left : Isolated id w w a u) (right : Isolated id w w b u) :
    Isolated id w w a b := by
  obtain ⟨⟨ρ, first⟩, ⟨new, sends, same⟩, ⟨more, hears, alike⟩⟩ := left
  obtain ⟨⟨σ, second⟩, ⟨new', sends', same'⟩, ⟨more', hears', alike'⟩⟩ := right
  rw [same, List.append_cancel_left_eq] at same'
  rw [alike, List.append_cancel_left_eq] at alike'
  subst same' alike'
  exact ⟨⟨_, first.trans second.symm⟩, ⟨new, sends, sends'⟩, ⟨more, hears, hears'⟩⟩

/-- Two orders of events that agree on the device's own leave it the same. -/
theorem interleavings_agree {fs : List Event} (w : World)
    (own : es.filter (Event.concerns id) = fs.filter (Event.concerns id))
    (allowed : ∀ e ∈ es ++ fs, (e.concerns id = true → e.Steady ∧ e.numbered = false) ∧ ¬ e.renames id) :
    Isolated id w w (Run.run serve w es) (Run.run serve w fs) := by
  have alone : ∀ gs : List Event, (∀ e ∈ gs, e ∈ es ++ fs) →
      Isolated id w w (Run.run serve w gs) (Run.run serve w (gs.filter (Event.concerns id))) := by
    intro gs inside
    obtain ⟨own, paired, isolated⟩ := device_isolated (.refl id w)
      (fun e member mine => ((allowed e (inside e member)).1 mine).1) (fun e member => (allowed e (inside e member)).2)
    rwa [counterparts_eq paired (fun e member =>
      ((allowed e (inside e (List.mem_of_mem_filter member))).1 (List.of_mem_filter member)).2)] at isolated
  have left := alone es (fun e member => List.mem_append_left _ member)
  have right := alone fs (fun e member => List.mem_append_right _ member)
  rw [own] at left
  exact left.join right

end Runs

/-- Two sensors messages of different devices: the second device does not show in the first. -/
def twoSensors : List Event :=
  [.message ⟨{ now := 0 }, .sensors, "thermo", "living01", ⟨9, .value (.obj [("temp", .int 21)])⟩⟩,
   .message ⟨{ now := 1 }, .sensors, "thermo", "cellar02", ⟨9, .value (.obj [("temp", .int 12)])⟩⟩]

theorem twoSensors_allowed (id : String) :
    ∀ e ∈ twoSensors ++ twoSensors.reverse, (e.Steady ∧ e.numbered = false) ∧ ¬ e.renames id := by
  simp only [twoSensors, List.reverse_cons, List.reverse_nil, List.nil_append, List.cons_append,
    List.forall_mem_cons, List.not_mem_nil, false_implies, implies_true, and_true]
  refine ⟨?_, ?_, ?_, ?_⟩ <;> exact ⟨⟨⟨fun _ _ => rfl, fun _ _ => rfl⟩, rfl⟩, not_false⟩

theorem twoSensors_isolated :
    ∃ own, List.Forall₂ Counterpart (twoSensors.filter (Event.concerns "living01")) own ∧
      Isolated "living01" World.empty World.empty (Run.run serve World.empty twoSensors)
        (Run.run serve World.empty own) :=
  device_isolated (.refl "living01" World.empty)
    (fun e member _ => (twoSensors_allowed "living01" e (List.mem_append_left _ member)).1.1)
    (fun e member => (twoSensors_allowed "living01" e (List.mem_append_left _ member)).2)

theorem twoSensors_reordered :
    Isolated "living01" World.empty World.empty (Run.run serve World.empty twoSensors)
      (Run.run serve World.empty twoSensors.reverse) :=
  interleavings_agree World.empty (by rfl)
    (fun e member => ⟨fun _ => (twoSensors_allowed "living01" e member).1, (twoSensors_allowed "living01" e member).2⟩)

structure World.Without (w : World) (id : String) : Prop where
  device : w.device? id = none
  statusLogs : ownedBy DeviceStatusLog.device id w.db.statusLogs = []
  diagLogs : ownedBy DeviceDiagLog.device id w.db.diagLogs = []
  commands : ownedBy CommandLog.device id w.db.commandLogs.rows = []
  readings : ownedBy SensorReading.deviceId id w.db.readings = []

/-- The registry and its files, and no device at all. -/
def World.blank (w : World) : World :=
  { World.empty with
    db := { Db.empty with
      hardwareCodes := w.db.hardwareCodes
      hardwareRevisions := w.db.hardwareRevisions
      firmwares := w.db.firmwares }
    media := w.media }

theorem World.Without.blank {w : World} {id : String} (gone : w.Without id) :
    SameDevice id (Equiv.refl ℕ) w w.blank :=
  ⟨gone.device, gone.statusLogs, gone.diagLogs, gone.readings, by rw [gone.commands]; rfl, rfl⟩

/-- The page that deletes a device, as an administrator posts it. -/
structure Deletes (env : Env) (request : Request) (w : World) (id : String) : Prop where
  admitted : request.user.may .admin = true
  post : request.isPost = true
  known : (w.device? id).isSome = true
  committed : env.commit = true

section Deletion
variable {env : Env} {request : Request} {w : World} {id : String} {es : List Event}

theorem serve_delete (deletes : Deletes env request w id) :
    serve w (.web env .delete request id) =
      (w.apply (.deleteReadings (fun r => decide (r.deviceId = id)))).apply (.deleteDevice id) := by
  obtain ⟨device, known⟩ := Option.isSome_iff_exists.mp deletes.known
  have named : device.deviceId = id := Table.key_get? known
  have page : serve w (.web env .delete request id) = after (deviceDeleteView env request id) w := rfl
  unfold deviceDeleteView getDeviceOr404 at page
  rw [roleRequired_eq, if_pos deletes.admitted, after_read_bind, known] at page
  dsimp only at page
  rw [if_pos deletes.post, after_bind_pure] at page
  have body : outcome (do
      emit (.deleteReadings (fun r => decide (r.deviceId = id)))
      emit (.deleteDevice id)) w =
      (.ok (), (w.apply (.deleteReadings (fun r => decide (r.deviceId = id)))).apply (.deleteDevice id)) := rfl
  rw [page, deleteDevice, named]
  exact congrArg Prod.snd (outcome_transaction_ok.mpr ⟨body, deletes.committed⟩)

theorem without_deleted (deletes : Deletes env request w id) :
    (serve w (.web env .delete request id)).Without id := by
  rw [serve_delete deletes]
  refine ⟨?_, ownedBy_filter_self, ownedBy_filter_self, ownedBy_filter_self, ?_⟩
  · have gone : ((w.apply (.deleteReadings (fun r => decide (r.deviceId = id)))).apply (.deleteDevice id)).device? id =
        (w.device? id).filter (fun d => d.deviceId ≠ id) := Table.get?_filter _ _ _
    rw [gone]
    cases found : w.device? id with
    | none => rfl
    | some d =>
      have named : d.deviceId = id := Table.key_get? found
      rw [Option.filter_some, if_neg (by simpa using named)]
  · have cut : ∀ rows : List SensorReading,
        ownedBy SensorReading.deviceId id (rows.filter (fun r => !decide (r.deviceId = id))) = [] := by
      intro rows
      simpa using @ownedBy_filter_self SensorReading String _ SensorReading.deviceId id rows
    exact cut _

theorem deleted_device_forgotten (deletes : Deletes env request w id)
    (steady : ∀ e ∈ es, e.concerns id = true → e.Steady) (stays : ∀ e ∈ es, ¬ e.renames id) :
    ∃ own, List.Forall₂ Counterpart (es.filter (Event.concerns id)) own ∧
      Isolated id (serve w (.web env .delete request id)) w.blank
        (Run.run serve (serve w (.web env .delete request id)) es) (Run.run serve w.blank own) := by
  have gone := (without_deleted deletes).blank
  have registry : (serve w (.web env .delete request id)).blank = w.blank := by
    rw [serve_delete deletes]
    rfl
  rw [registry] at gone
  exact (isolation_unwinds id _ _).run (.start gone) (fun e member => ⟨steady e member, stays e member⟩)

end Deletion

def administrator : User := { username := "admin", role := some .admin }

theorem cellar_forgotten :
    ∃ own, List.Forall₂ Counterpart (twoSensors.filter (Event.concerns "cellar02")) own ∧
      Isolated "cellar02"
        (serve (Run.run serve World.empty twoSensors) (.web { now := 2 } .delete { user := administrator } "cellar02"))
        (Run.run serve World.empty twoSensors).blank
        (Run.run serve (serve (Run.run serve World.empty twoSensors)
          (.web { now := 2 } .delete { user := administrator } "cellar02")) twoSensors)
        (Run.run serve (Run.run serve World.empty twoSensors).blank own) :=
  deleted_device_forgotten ⟨rfl, rfl, by decide +kernel, rfl⟩
    (fun e member _ => (twoSensors_allowed "cellar02" e (List.mem_append_left _ member)).1.1)
    (fun e member => (twoSensors_allowed "cellar02" e (List.mem_append_left _ member)).2)

end SensorServer
