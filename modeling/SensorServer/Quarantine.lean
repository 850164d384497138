import SensorServer.References

/-! A device that no administrator has approved: nothing it sends is stored or shown as a
reading, whatever else happens on the server. -/
namespace SensorServer
open Program

/-- An administrator approves the device. -/
def Event.approves (id : String) : Event → Prop
  | .web _ .approve request deviceId => deviceId = id ∧ request.user.may .admin = true ∧ request.isPost = true ∧
      QueryDict.get request.post "action" "" = "approve"
  | _ => False

/-- An administrator renames the one device to the other identifier, or merges it into the one that
has it. A request that is refused changes nothing. -/
def Event.hands (w : World) (source target : String) : Event → Prop
  | .web env .rename request deviceId => request.user.may .admin = true ∧ deviceId = source ∧
      pyStrip (QueryDict.get request.post "new_device_id" "") = target ∧
      (after (deviceRenameView env request deviceId) w).db ≠ w.db
  | _ => False

structure Quarantined (id : String) (w : World) : Prop where
  pending : ∀ d, w.device? id = some d → d.isApproved = false
  unread : ownedBy SensorReading.deviceId id w.db.readings = []
  unheard : ∀ e ∈ w.heardOf id, e.isReading = false

theorem Tended.deliver {scope : Scope} {R : World → World → Prop} (tended : Tended scope R) {w : World} {d : Delivery}
    (mine : scope.own d.deviceId)
    (create : ∀ w, R w (w.apply (.createDevice
      { deviceId := d.deviceId, deviceType := d.deviceType, createdAt := d.env.now })))
    (may : d.kind = .capabilities → scope.saves capabilitiesFields)
    (stores : ∀ device, w.device? d.deviceId = some device → device.isApproved = true → scope.stores) :
    R w (deliver w d) := by
  by_cases kind : d.kind = .sensors
  swap
  · exact tended.handleMessage mine create may (fun same => absurd same kind) w
  cases object : d.payload.object? with
  | none =>
    rw [deliver_unread object]
    exact tended.closed.refl w
  | some data =>
    cases known : w.device? d.deviceId with
    | some device =>
      rw [deliver_sensors kind object known]
      refine tended.sensorBody ?_ (stores device known) w
      rw [Table.key_get? known]
      exact mine
    | none =>
      rw [deliver_new known kind object rfl]
      exact Upholds.bind tended.closed (upholds_createDevice tended.closed create)
        (fun _ => tended.sensorBody mine (fun approved => by cases approved)) w

section Steps
variable {id : String} {w v : World}

def KeepsQuarantine (id : String) (w v : World) : Prop := Quarantined id w → Quarantined id v

/-- The device, any column but the approval, and no reading. -/
def unapproved (id : String) : Scope := ⟨(· = id), fun fields => .isApproved ∉ fields, False⟩

theorem keepsQuarantine_closed (id : String) : Closed (KeepsQuarantine id) :=
  ⟨fun _ h => h, fun first rest h => rest (first h)⟩

theorem Quarantined.of_same (q : Quarantined id w) (row : v.device? id = w.device? id)
    (readings : v.db.readings = w.db.readings) (heard : v.broadcasts = w.broadcasts) : Quarantined id v := by
  refine ⟨?_, ?_, ?_⟩
  · rw [row]
    exact q.pending
  · rw [readings]
    exact q.unread
  · rw [World.heardOf, heard]
    exact q.unheard

theorem Quarantined.of_unseen (q : Quarantined id w) (unseen : Unseen id w v) : Quarantined id v := by
  refine ⟨?_, ?_, ?_⟩
  · rw [← unseen.rows.row]
    exact q.pending
  · rw [← unseen.rows.readings]
    exact q.unread
  · rw [unseen.heard]
    exact q.unheard

theorem keepsQuarantine_saveDevice {d : Device} {fields : List DeviceField}
    (pending : .isApproved ∈ fields → d.isApproved = false) :
      KeepsQuarantine id w (w.apply (.saveDevice d fields)) := by
  intro q
  refine ⟨fun row listed => ?_, q.unread, q.unheard⟩
  rw [device?_saveDevice] at listed
  obtain ⟨old, found, rfl⟩ := Option.map_eq_some_iff.mp listed
  have before := q.pending old found
  split
  · rw [Device.isApproved_copyFields]
    split
    · next saved => exact pending saved
    · exact before
  · exact before

theorem keepsQuarantine_createDevice {d : Device} (pending : d.isApproved = false) :
    KeepsQuarantine id w (w.apply (.createDevice d)) := by
  intro q
  refine ⟨fun row listed => ?_, q.unread, q.unheard⟩
  exact (@keepsEvery_createDevice (fun d => d.deviceId = id → d.isApproved = false) w d (fun _ => pending)
    (fun other r found named => q.pending r (by rwa [← named, Table.key_get? found])) id row listed)
      (Table.key_get? listed)

theorem mild_quarantine (id : String) : Mild (unapproved id) (KeepsQuarantine id) := by
  have each : ∀ (w : World) (e : Effect), e.mild = true → e.Within (unapproved id) w →
      KeepsQuarantine id w (w.apply e) := by
    intro w e mild within
    cases e with
    | saveDevice d fields => exact keepsQuarantine_saveDevice (fun saved => absurd saved within.2)
    | addReadings rows => exact within.1.elim
    | deleteReadings which =>
      intro q
      refine ⟨q.pending, ?_, q.unheard⟩
      change ownedBy SensorReading.deviceId id (w.db.readings.filter _) = []
      rw [ownedBy_filter, q.unread]
      rfl
    | broadcast event =>
      intro q
      refine ⟨q.pending, q.unread, ?_⟩
      have silent : event.isReading = false := Bool.eq_false_iff.mpr within.2
      intro e member
      obtain ⟨sent, own⟩ := List.mem_filter.mp member
      rcases List.mem_append.mp sent with old | new
      · exact q.unheard e (List.mem_filter.mpr ⟨old, own⟩)
      · rwa [List.mem_singleton.mp new]
    | setRollup view rows => cases view <;> exact fun q => q.of_same rfl rfl rfl
    | _ => first | exact fun q => q.of_same rfl rfl rfl | cases mild
  refine ⟨⟨keepsQuarantine_closed id, fun _ plain => plain.1, fun w e told => each w e ?_⟩, each⟩
  cases e <;> first | rfl | cases told

theorem quarantine_message (d : Delivery) (own : d.deviceId = id) (q : Quarantined id w) :
    Quarantined id (deliver w d) := by
  refine (mild_quarantine id).deliver own (fun u => keepsQuarantine_createDevice rfl)
    (fun _ => (by decide : .isApproved ∉ capabilitiesFields)) (fun device known approved => ?_) q
  rw [own] at known
  rw [q.pending device known] at approved
  cases approved

theorem quarantine_approval {env : Env} {request : Request} (own : ¬ (Event.web env .approve request id).approves id) :
    KeepsQuarantine id w (after (deviceApproveView request id) w) := by
  have closed := keepsQuarantine_closed id
  refine upholds_roleRequired closed (fun admin => upholds_ownDevice closed (fun device _ => ?_)) w
  cases posted : request.isPost with
  | false =>
    unfold postOnly
    rw [posted]
    exact Upholds.pure closed _
  | true =>
  refine upholds_postOnly closed (Upholds.bind closed (Upholds.when closed (fun action => ?_)) (fun _ =>
    Upholds.bind closed (Upholds.when closed (fun _ => upholds_saveDevice closed
      (fun _ => keepsQuarantine_saveDevice (fun _ => rfl)))) (fun _ => Upholds.pure closed _)))
  exact absurd ⟨rfl, admin, posted, of_decide_eq_true action⟩ own

def NoNewReading (w v : World) : Prop :=
  ∃ new, v.broadcasts = w.broadcasts ++ new ∧ new.filterMap ChannelEvent.reading? = []

theorem noNewReading_of_same {w v : World} (same : v.broadcasts = w.broadcasts) : NoNewReading w v :=
  ⟨[], by simp [same], rfl⟩

theorem confined_noNewReading : Confined ⟨fun _ => True, fun _ => True, False⟩ NoNewReading := by
  have closed : Closed NoNewReading := by
    refine ⟨fun _ => noNewReading_of_same rfl, ?_⟩
    rintro w v u ⟨first, broadcasts, silent⟩ ⟨rest, broadcasts', silent'⟩
    exact ⟨first ++ rest, by rw [broadcasts', broadcasts, List.append_assoc], by simp [silent, silent']⟩
  have each : ∀ (w : World) (e : Effect), e.Within ⟨fun _ => True, fun _ => True, False⟩ w →
      NoNewReading w (w.apply e) := by
    intro w e within
    cases e with
    | broadcast event =>
      refine ⟨[event], rfl, ?_⟩
      cases event with
      | deviceStatus => rfl
      | sensorReading => exact (within.2 rfl).elim
    | setRollup view rows => cases view <;> exact noNewReading_of_same rfl
    | _ => exact noNewReading_of_same rfl
  exact ⟨⟨⟨closed, fun _ _ => trivial, fun w e _ => each w e⟩, fun w e _ => each w e⟩, each, fun _ _ heard => heard⟩

theorem Quarantined.moved (q : Quarantined id w) (rows : SameBelongings w v ∨ v.Without id)
    (heard : NoNewReading w v) :
    Quarantined id v := by
  have unheard : ∀ e ∈ v.heardOf id, e.isReading = false := by
    intro e member
    obtain ⟨sent, own⟩ := List.mem_filter.mp member
    obtain ⟨new, more, silent⟩ := heard
    rw [more] at sent
    rcases List.mem_append.mp sent with before | later
    · exact q.unheard e (List.mem_filter.mpr ⟨before, own⟩)
    · have carries := List.filterMap_eq_nil_iff.mp silent e later
      cases e with
      | deviceStatus => rfl
      | sensorReading => cases carries
  rcases rows with same | gone
  · refine ⟨fun d listed => q.pending d ((congrArg Belongings.device (same id)).symm.trans listed), ?_, unheard⟩
    exact (congrArg Belongings.readings (same id)).trans q.unread
  · refine ⟨fun d listed => ?_, gone.readings, unheard⟩
    rw [gone.device] at listed
    cases listed

theorem quarantine_page {env : Env} {view : DeviceView} {request : Request}
    (unapproved : ¬ (Event.web env view request id).approves id) (q : Quarantined id w) :
    Quarantined id (after (view.run env request id) w) := by
  have heard : NoNewReading w (after (view.run env request id) w) :=
    confined_noNewReading.view trivial view (fun _ => trivial) (fun _ => trivial) w
  by_cases approval : view = .approve
  · subst approval
    exact quarantine_approval unapproved q
  by_cases deletes : view = .delete
  · exact q.moved ((@deleted_page w env request id view deletes).imp_left .of_db) heard
  by_cases renames : view = .rename
  · subst renames
    exact q.moved (renamed_page.imp .of_db And.left) heard
  · exact (mild_quarantine id).view rfl deletes renames (fun same => absurd same approval) w q

theorem quarantine_serve {e : Event} (unapproved : ¬ e.approves id) (apart : ∀ source, ¬ e.hands w source id)
    (q : Quarantined id w) : Quarantined id (serve w e) := by
  cases e with
  | api env view request =>
    have step := @registers_api w env request view
    have readings := congrArg (fun u : World => u.db.readings) step.aside
    have broadcasts := congrArg World.broadcasts step.aside
    exact q.of_same (step.device? id) readings broadcasts
  | message d =>
    by_cases own : d.deviceId = id
    · exact quarantine_message d own q
    · have other : (Event.message d).concerns id = false := decide_eq_false own
      exact q.of_unseen (unseen_serve other (fun renames => renames) w)
  | web env view request deviceId =>
    by_cases own : deviceId = id
    · subst own
      exact quarantine_page unapproved q
    · have other : (Event.web env view request deviceId).concerns id = false := decide_eq_false own
      by_cases kept : (serve w (.web env view request deviceId)).db = w.db
      · exact q.moved (.inl (.of_db kept))
          (confined_noNewReading.view trivial view (fun _ => trivial) (fun _ => trivial) w)
      · refine q.of_unseen (unseen_serve other ?_ w)
        intro renames
        cases view with
        | rename =>
          refine renames.elim own (fun target => apart deviceId ⟨?_, rfl, target, kept⟩)
          by_contra refused
          exact kept (congrArg World.db (after_refused (Bool.eq_false_iff.mpr refused)))
        | _ => exact renames

end Steps

/-- As long as no administrator approves the device, and none is renamed to its identifier, it is
unapproved, no reading of it is stored and none is sent to the browsers. -/
theorem unapproved_quarantined {id : String} {w : World} (start : Quarantined id w) {es : List Event}
    (quiet : Run.Along serve (fun v e => ¬ e.approves id ∧ ∀ source, ¬ e.hands v source id) w es) :
    Quarantined id (Run.run serve w es) :=
  Run.invariant (fun _ _ q allowed => quarantine_serve allowed.1 allowed.2 q) start quiet

theorem empty_quarantined (id : String) : Quarantined id World.empty :=
  ⟨fun _ listed => (by cases listed), rfl, by simp [World.heardOf, World.empty]⟩

theorem twoSensors_quarantined : Quarantined "living01" (Run.run serve World.empty twoSensors) :=
  unapproved_quarantined (empty_quarantined "living01")
    (Run.along_of_all _ _ (by simp [twoSensors, Event.approves, Event.hands]))

end SensorServer
