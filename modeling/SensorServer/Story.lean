import SensorServer.Columns
import SensorServer.Timeline
import SensorServer.Rename

/-! Runs of messages and renames, seen from one device: its alert columns say when the
alert was last asserted, and its status log ends with the alert it shows. -/
namespace SensorServer
open Program

/-- No device is lost, the alerts of the other devices stay, and the new status rows are
the device's own. -/
structure Local (id : String) (w v : World) : Prop where
  known : ∀ other, (w.device? other).isSome = true → (v.device? other).isSome = true
  others : ∀ other, other ≠ id → KeepsAlert other w v
  logs : ∃ new, v.db.statusLogs = w.db.statusLogs ++ new ∧ ∀ l ∈ new, l.device = id

theorem local_closed (id : String) : Closed (Local id) where
  refl w := ⟨fun _ h => h, fun _ _ => rfl, [], by simp, by simp⟩
  trans := by
    rintro a b c ⟨known, others, new, first, own⟩ ⟨known', others', more, rest, own'⟩
    refine ⟨fun other h => known' other (known other h),
      fun other apart => (others' other apart).trans (others other apart), new ++ more, ?_, ?_⟩
    · rw [rest, first, List.append_assoc]
    · intro l member
      rcases List.mem_append.mp member with h | h
      · exact own l h
      · exact own' l h

theorem Local.of_same {id : String} {w v : World} (devices : v.db.devices = w.db.devices)
    (logs : v.db.statusLogs = w.db.statusLogs) : Local id w v := by
  refine ⟨fun other h => ?_, fun other _ => ?_, [], by simp [logs], by simp⟩
  · unfold World.device? at *
    rwa [devices]
  · unfold KeepsAlert World.device?
    rw [devices]

theorem local_saveDevice {id : String} {d : Device} (own : d.deviceId = id) (fields : List DeviceField)
    (w : World) : Local id w (w.apply (.saveDevice d fields)) := by
  refine ⟨fun other h => ?_, fun other apart => ?_, [], by simp [World.apply], by simp⟩
  · rw [device?_saveDevice, Option.isSome_map]
    exact h
  · exact keepsAlert_saveDevice (keepsAlert_other (own ▸ Ne.symm apart)) w

theorem local_createDevice {id : String} {d : Device} (own : d.deviceId = id) (w : World) :
    Local id w (w.apply (.createDevice d)) := by
  have apart_ : ∀ other, other ≠ id → (w.apply (.createDevice d)).device? other = w.device? other :=
    fun other apart => Table.get?_insert_other (own ▸ Ne.symm apart)
  refine ⟨fun other h => ?_, fun other apart => ?_, [], by simp [World.apply], by simp⟩
  · by_cases same : other = id
    · subst same
      cases found : w.device? d.deviceId with
      | none =>
        have row : (w.apply (.createDevice d)).device? d.deviceId = some d := Table.get?_insert_new found
        rw [← own, row]
        rfl
      | some row =>
        have taken : (w.apply (.createDevice d)).device? d.deviceId = w.device? d.deviceId :=
          congrArg (fun t => Table.get? t d.deviceId) (Table.insert_taken found)
        rw [← own, taken, found]
        rfl
    · rw [apart_ other same]
      exact h
  · unfold KeepsAlert
    rw [apart_ other apart]

theorem respected_local (id : String) :
    Respected (Local id) (fun d _ => d.deviceId = id) (fun _ _ => True) (fun row => row.device = id) where
  toServiced := Serviced.of_marks (local_closed id) (fun w _ fields own => local_saveDevice own fields w)
    (fun _ _ _ => .of_same rfl rfl) (fun _ _ _ _ _ _ => .of_same rfl rfl)
  history := by
    intro w e history log
    cases e with
    | addStatusLog row =>
      refine ⟨fun _ h => h, fun _ _ => rfl, [row], rfl, ?_⟩
      intro l member
      rw [List.mem_singleton.mp member]
      exact log row rfl
    | addDiagLog _ | addReadings _ | broadcast _ => exact .of_same rfl rfl
    | _ => cases history

theorem local_deliver (w : World) (d : Delivery) : Local d.deviceId w (deliver w d) :=
  deliver_within (respected_local d.deviceId) (local_createDevice rfl) (fun _ _ _ _ _ => .of_same rfl rfl)
    (fun _ _ own _ => own) (fun _ own => own) w

theorem unchanged_or_created {w : World} {d : Delivery} (unknown : w.device? d.deviceId = none) :
    deliver w d = w ∨ ((deliver w d).device? d.deviceId).isSome = true := by
  by_cases kind : d.kind = .sensors
  swap
  · exact .inl (deliver_unknown unknown kind)
  cases object : d.payload.object? with
  | none => exact .inl (deliver_unread object)
  | some data =>
    generalize new : ({ deviceId := d.deviceId, deviceType := d.deviceType, createdAt := d.env.now } : Device) =
      fresh
    have named : fresh.deviceId = d.deviceId := by rw [← new]
    have found := deliver_new unknown kind object new.symm
    by_cases insertable : fresh.insertable = true
    · have created := outcome_createDevice_ok.mpr ⟨named ▸ unknown, insertable, rfl⟩
      rw [found, after_bind_ok created]
      refine .inr ((upholds_sensorBody (respected_local d.deviceId) (fun _ same => same.trans named)
        (fun _ _ same _ => same.1.trans named) (fun _ => ⟨fun _ _ => trivial, trivial, trivial, trivial⟩) trivial
        _).known _ ?_)
      have row : (w.apply (.createDevice fresh)).device? fresh.deviceId = some fresh :=
        Table.get?_insert_new (named ▸ unknown)
      rw [← named, row]
      rfl
    · have refused : outcome (createDevice fresh) w = (.error .dataError, w) := by
        unfold createDevice
        rw [outcome_bind, outcome_read, named, unknown]
        dsimp only
        rw [if_neg insertable]
        rfl
      rw [found, after_bind_error refused]
      exact .inl rfl

/-- The rename of a known device to a free identifier. -/
def rename (w : World) (env : Env) (deviceId newId : String) : World :=
  match w.device? deviceId, w.device? newId with
  | some device, none => after (renameDevice env device newId) w
  | _, _ => w

def confirmedMerge (w : World) (request : Request) (deviceId : String) : Option (Device × Device) :=
  let newId := pyStrip (QueryDict.get request.post "new_device_id" "")
  if request.user.may .admin && request.isPost && decide (newId ≠ "") && safeIdentifierRe newId &&
      decide (newId ≠ deviceId) && decide (QueryDict.get? request.post "confirm_merge" = some "yes") then
    match w.device? deviceId, w.device? newId with
    | some source, some target => some (source, target)
    | _, _ => none
  else none

theorem confirmedMerge_eq_some {w : World} {request : Request} {deviceId : String} {source target : Device} :
    confirmedMerge w request deviceId = some (source, target) ↔
      let newId := pyStrip (QueryDict.get request.post "new_device_id" "")
      (request.user.may .admin = true ∧ request.isPost = true ∧ newId ≠ "" ∧ safeIdentifierRe newId = true ∧
        newId ≠ deviceId ∧ QueryDict.get? request.post "confirm_merge" = some "yes") ∧
      w.device? deviceId = some source ∧ w.device? newId = some target := by
  unfold confirmedMerge
  dsimp only
  generalize pyStrip (QueryDict.get request.post "new_device_id" "") = newId
  split
  · next allowed =>
    simp only [Bool.and_eq_true, decide_eq_true_eq, and_assoc] at allowed
    cases w.device? deviceId <;> cases w.device? newId <;> simp [allowed]
  · next refused =>
    simp only [Bool.and_eq_true, decide_eq_true_eq, and_assoc] at refused
    simp [refused]

theorem after_deviceRenameView (w : World) (env : Env) (request : Request) (deviceId : String) :
    after (deviceRenameView env request deviceId) w = w ∨
    after (deviceRenameView env request deviceId) w =
      rename w env deviceId (pyStrip (QueryDict.get request.post "new_device_id" "")) ∨
    ∃ source target, confirmedMerge w request deviceId = some (source, target) ∧
      after (deviceRenameView env request deviceId) w = after (mergeDevices env source target) w := by
  simp only [confirmedMerge_eq_some]
  unfold deviceRenameView getDeviceOr404
  rw [roleRequired_eq]
  split
  swap
  · exact .inl rfl
  next admin =>
  rw [after_read_bind]
  cases known : w.device? deviceId with
  | none => exact .inl rfl
  | some device =>
    have own : device.deviceId = deviceId := Table.key_get? known
    dsimp only
    generalize named : pyStrip (QueryDict.get request.post "new_device_id" "") = newId
    split
    · exact .inl rfl
    next post =>
    split
    · exact .inl rfl
    next some_ =>
    split
    · exact .inl rfl
    next safe =>
    split
    · exact .inl rfl
    next other =>
    rw [after_read_bind]
    cases free : w.device? newId with
    | none =>
      refine .inr (.inl ?_)
      rw [rename, known, free]
      exact after_bind_pure _ _ w
    | some target =>
      dsimp only
      split
      · next confirmed =>
        refine .inr (.inr ⟨device, target, ⟨⟨admin, ?_, some_, ?_, own ▸ other, confirmed⟩, rfl, rfl⟩,
          after_bind_pure _ _ w⟩)
        · simpa using post
        · simpa using safe
      · exact .inl rfl

theorem after_confirmedMerge {w : World} {env : Env} {request : Request} {deviceId : String}
    {source target : Device}
    (confirmed : confirmedMerge w request deviceId = some (source, target)) :
    after (deviceRenameView env request deviceId) w = after (mergeDevices env source target) w := by
  obtain ⟨⟨admin, post, some_, safe, other, yes⟩, known, taken⟩ := confirmedMerge_eq_some.mp confirmed
  have own : source.deviceId = deviceId := Table.key_get? known
  unfold deviceRenameView getDeviceOr404
  rw [roleRequired_eq, if_pos admin, after_read_bind, known]
  dsimp only
  rw [post, if_neg (by decide), if_neg some_, safe, if_neg (by decide), if_neg (own ▸ other),
    after_read_bind, taken]
  dsimp only
  rw [if_pos yes]
  exact after_bind_pure _ _ w

/-- The tables of the devices and of their alerts are the same. -/
structure SameAlerts (w v : World) : Prop where
  devices : v.db.devices = w.db.devices
  logs : v.db.statusLogs = w.db.statusLogs

theorem sameAlerts_closed : Closed SameAlerts :=
  ⟨fun _ => ⟨rfl, rfl⟩, fun h k => ⟨k.devices.trans h.devices, k.logs.trans h.logs⟩⟩

theorem SameAlerts.device? {w v : World} (same : SameAlerts w v) (id : String) : v.device? id = w.device? id := by
  unfold World.device?
  rw [same.devices]

theorem sameAlerts_refresh (env : Env) : Upholds SameAlerts (refreshContinuousAggregates env) :=
  upholds_refreshContinuousAggregates sameAlerts_closed (fun _ view _ => by cases view <;> exact ⟨rfl, rfl⟩)

theorem after_renameDevice (env : Env) (device : Device) (newId : String) (w : World) :
    SameAlerts w (after (renameDevice env device newId) w) ∨
    w.device? newId = none ∧ SameAlerts (w.renamed env device newId)
      (after (renameDevice env device newId) w) := by
  unfold renameDevice
  rcases block : outcome (transaction env (renameRows env device newId)) w with ⟨e | ⟨⟩, v⟩
  · rw [after_bind_error block]
    have same := db_of_transaction_error block
    exact .inl ⟨by rw [same], by rw [same]⟩
  · rw [after_bind_ok block]
    obtain ⟨free, -, rfl⟩ := outcome_renameRows_ok.mp (outcome_transaction_ok.mp block).1
    exact .inr ⟨free, sameAlerts_refresh env _⟩

theorem after_rename (w : World) (env : Env) (deviceId newId : String) :
    SameAlerts w (rename w env deviceId newId) ∨
    ∃ device, w.device? device.deviceId = some device ∧ device.deviceId = deviceId ∧ w.device? newId = none ∧
      newId ≠ device.deviceId ∧ SameAlerts (w.renamed env device newId) (rename w env deviceId newId) := by
  unfold rename
  cases known : w.device? deviceId with
  | none => exact .inl (sameAlerts_closed.refl _)
  | some device =>
    cases free : w.device? newId with
    | some taken => exact .inl (sameAlerts_closed.refl _)
    | none =>
      have own : device.deviceId = deviceId := Table.key_get? known
      rcases after_renameDevice env device newId w with same | ⟨-, same⟩
      · exact .inl same
      · refine .inr ⟨device, own ▸ known, own, rfl, ?_, same⟩
        rintro rfl
        rw [own, known] at free
        cases free

theorem device?_followed {w : World} {id : String} {row : Device} (known : w.device? id = some row) (env : Env)
    (deviceId newId : String) :
    let v := rename w env deviceId newId
    ∃ new, v.device? (if deviceId = id ∧ (w.device? deviceId).isSome = true ∧ v.device? deviceId = none then newId
      else id) = some new ∧ (new = row ∨ new = renamedDevice env row newId) := by
  dsimp only
  rcases after_rename w env deviceId newId with same | ⟨device, found, rfl, free, other, same⟩
  · have still : ¬(deviceId = id ∧ (w.device? deviceId).isSome = true ∧
        (rename w env deviceId newId).device? deviceId = none) := by
      rintro ⟨rfl, -, gone⟩
      rw [same.device?, known] at gone
      cases gone
    rw [if_neg still, same.device?]
    exact ⟨row, known, .inl rfl⟩
  by_cases followed : device.deviceId = id
  · have gone : (rename w env device.deviceId newId).device? device.deviceId = none := by
      rw [same.device?]
      exact congrArg Belongings.device (belongings_renamed_old other)
    rw [if_pos ⟨followed, by rw [found]; rfl, gone⟩, same.device?, device?_renamed_new free other]
    rw [followed, known, Option.some.injEq] at found
    exact ⟨renamedDevice env device newId, rfl, .inr (by rw [found])⟩
  · have apart : id ≠ newId := by
      intro equal
      rw [← equal, known] at free
      cases free
    rw [if_neg (fun both => followed both.1), same.device?]
    exact ⟨row, (congrArg Belongings.device (belongings_renamed_other (Ne.symm followed) apart)).trans known,
      .inl rfl⟩

inductive Happening where
  | message (d : Delivery)
  | rename (env : Env) (deviceId newId : String)

structure Story where
  world : World
  id : String
  asserted : Option Time

def Story.step (s : Story) : Happening → Story
  | .message d =>
    { s with
      world := deliver s.world d
      asserted := if d.deviceId = s.id then lastAsserted s.world d s.asserted else s.asserted }
  | .rename env deviceId newId =>
    let v := SensorServer.rename s.world env deviceId newId
    { s with
      world := v
      id := if deviceId = s.id ∧ v.device? deviceId = none then newId else s.id }

def StatusKeys (w : World) : Prop := ∀ l ∈ w.db.statusLogs, (w.device? l.device).isSome = true

/-- A view of the status log that looks at the rows of one device only. -/
structure Chronicle (logged : String → List DeviceStatusLog → AlertLevel × String → Prop) : Prop where
  added : ∀ id, Recorded id (logged id)
  empty : ∀ id logs, ownedBy DeviceStatusLog.device id logs = [] → logged id logs (.ok, "")
  moved : ∀ id newId logs logs' pair, ownedBy DeviceStatusLog.device newId logs' =
    (ownedBy DeviceStatusLog.device id logs).map (DeviceStatusLog.renamed newId) →
    logged id logs pair → logged newId logs' pair

section Steps
variable {logged : String → List DeviceStatusLog → AlertLevel × String → Prop}

theorem statusKeys_deliver {w : World} (keys : StatusKeys w) (d : Delivery) : StatusKeys (deliver w d) := by
  obtain ⟨known, -, new, logs, own⟩ := local_deliver w d
  intro l member
  rw [logs] at member
  rcases List.mem_append.mp member with old | added
  · exact known _ (keys l old)
  · rw [own l added]
    cases before : w.device? d.deviceId with
    | some row => exact known _ (by rw [before]; rfl)
    | none =>
      rcases unchanged_or_created before with same | created
      · rw [same] at logs
        have none_ : new = [] := by simpa using logs
        rw [none_] at added
        cases added
      · exact created

theorem ownedBy_append_other {id : String} {logs new : List DeviceStatusLog}
    (other : ∀ l ∈ new, l.device ≠ id) :
    ownedBy DeviceStatusLog.device id (logs ++ new) = ownedBy DeviceStatusLog.device id logs := by
  have none_ : ownedBy DeviceStatusLog.device id new = [] := by
    simpa [ownedBy, List.filter_eq_nil_iff] using other
  unfold ownedBy at *
  rw [List.filter_append, none_, List.append_nil]

theorem map_renamed_own (id : String) (logs : List DeviceStatusLog) :
    (ownedBy DeviceStatusLog.device id logs).map (DeviceStatusLog.renamed id) =
      ownedBy DeviceStatusLog.device id logs := by
  conv_rhs => rw [← List.map_id (ownedBy DeviceStatusLog.device id logs)]
  refine List.map_congr_left (fun l member => ?_)
  have own : l.device = id := by simpa using List.of_mem_filter member
  rw [DeviceStatusLog.renamed, ← own]
  rfl

theorem settled_elsewhere (chronicle : Chronicle logged) {id : String} {asserted : Option Time} {w v : World}
    (settled : Settled (logged id) asserted id w) (keeps : KeepsAlert id w v)
    (logs : ownedBy DeviceStatusLog.device id v.db.statusLogs =
      ownedBy DeviceStatusLog.device id w.db.statusLogs) :
    Settled (logged id) asserted id v := by
  obtain ⟨row, found, sound, log⟩ := settled
  unfold KeepsAlert at keeps
  rw [found] at keeps
  obtain ⟨row', found', same⟩ := Option.map_eq_some_iff.mp keeps
  refine ⟨row', found', sound.congr same, ?_⟩
  rw [Device.alert_congr same]
  exact chronicle.moved id id _ _ _ (logs.trans (map_renamed_own id _).symm) log

theorem StatusKeys.of_same {w v : World} (keys : StatusKeys w) (same : SameAlerts w v) : StatusKeys v := by
  intro l member
  rw [same.logs] at member
  rw [same.device?]
  exact keys l member

theorem settled_same {logged : List DeviceStatusLog → AlertLevel × String → Prop} {id : String}
    {asserted : Option Time} {w v : World} (settled : Settled logged asserted id w) (same : SameAlerts w v) :
    Settled logged asserted id v := by
  obtain ⟨row, found, sound, log⟩ := settled
  exact ⟨row, (same.device? id).trans found, sound, by rw [same.logs]; exact log⟩

section Renamed
variable {w : World} {env : Env} {device : Device} {newId : String}

theorem statusKeys_renamed (keys : StatusKeys w) (free : w.device? newId = none)
    (other : newId ≠ device.deviceId) : StatusKeys (w.renamed env device newId) := by
  intro l member
  have notOld : l.device ≠ device.deviceId := by
    rw [statusLogs_renamed] at member
    simpa using List.of_mem_filter member
  by_cases new : l.device = newId
  · rw [new, device?_renamed_new free other]
    rfl
  · have same := @belongings_renamed_other w env _ _ _ notOld new
    have logs : ownedBy DeviceStatusLog.device l.device (w.renamed env device newId).db.statusLogs =
        ownedBy DeviceStatusLog.device l.device w.db.statusLogs := congrArg Belongings.statusLogs same
    have row : (w.renamed env device newId).device? l.device = w.device? l.device :=
      congrArg Belongings.device same
    have owned : l ∈ ownedBy DeviceStatusLog.device l.device (w.renamed env device newId).db.statusLogs :=
      List.mem_filter.mpr ⟨member, by simp⟩
    rw [logs] at owned
    rw [row]
    exact keys l (List.mem_of_mem_filter owned)

theorem settled_renamed (chronicle : Chronicle logged) {asserted : Option Time} (keys : StatusKeys w)
    (known : w.device? device.deviceId = some device) (free : w.device? newId = none)
    (settled : Settled (logged device.deviceId) asserted device.deviceId w) :
    Settled (logged newId) asserted newId (w.renamed env device newId) := by
  have other : newId ≠ device.deviceId := by
    rintro rfl
    rw [free] at known
    cases known
  obtain ⟨row, found, sound, log⟩ := settled
  cases known.symm.trans found
  refine ⟨renamedDevice env device newId, device?_renamed_new free other, sound.congr rfl, ?_⟩
  · refine chronicle.moved device.deviceId newId w.db.statusLogs _ device.alert ?_ log
    rw [statusLogs_renamed, ownedBy_filter_other other]
    exact ownedBy_transfer_target (DeviceStatusLog.device_renamed newId) (ownedBy_unknown keys free)

end Renamed

end Steps

namespace Story

/-- The device was just discovered: no alert, and nothing logged. -/
structure Fresh (s : Story) : Prop where
  row : ∃ row, s.world.device? s.id = some row ∧ row.alertColumns = (.ok, "", none)
  logs : ownedBy DeviceStatusLog.device s.id s.world.db.statusLogs = []
  keys : StatusKeys s.world

structure InStep (logged : String → List DeviceStatusLog → AlertLevel × String → Prop) (s : Story) : Prop where
  settled : Settled (logged s.id) s.asserted s.id s.world
  keys : StatusKeys s.world

def strands (s : Story) : Happening → Bool
  | .message d => decide (d.deviceId = s.id) && SensorServer.strands s.world d
  | .rename _ _ _ => false

variable {logged : String → List DeviceStatusLog → AlertLevel × String → Prop} {s : Story}

theorem Fresh.inStep (fresh : s.Fresh) (chronicle : Chronicle logged) : s.InStep logged := by
  obtain ⟨row, found, columns⟩ := fresh.row
  simp only [Device.alertColumns, Prod.mk.injEq] at columns
  obtain ⟨level, text, time⟩ := columns
  refine ⟨⟨row, found, ⟨fun _ => ⟨text, time⟩, fun raised => absurd level raised⟩, ?_⟩, fresh.keys⟩
  rw [Device.alert, level, text]
  exact chronicle.empty _ _ fresh.logs

theorem inStep_message (chronicle : Chronicle logged) (h : s.InStep logged) {d : Delivery}
    (kept : s.strands (.message d) = false) : (s.step (.message d)).InStep logged := by
  refine ⟨?_, statusKeys_deliver h.keys d⟩
  unfold step
  dsimp only
  by_cases own : d.deviceId = s.id
  · rw [if_pos own]
    have unstranded : SensorServer.strands s.world d = false := by simpa [strands, own] using kept
    obtain ⟨row, found, -⟩ := h.settled
    have settled := h.settled
    rw [← own] at found settled ⊢
    exact settled_deliver found (chronicle.added _) settled unstranded
  · rw [if_neg own]
    obtain ⟨-, others, new, logs, ownRows⟩ := local_deliver s.world d
    refine settled_elsewhere chronicle h.settled (others _ (Ne.symm own)) ?_
    rw [logs]
    exact ownedBy_append_other (fun l member same => own ((ownRows l member).symm.trans same))

theorem inStep_rename (chronicle : Chronicle logged) (h : s.InStep logged) (env : Env) (deviceId newId : String) :
    (s.step (.rename env deviceId newId)).InStep logged := by
  obtain ⟨row, found, -⟩ := h.settled
  have unmoved : ∀ v, SameAlerts s.world v →
      ({ s with world := v, id := if deviceId = s.id ∧ v.device? deviceId = none then newId else s.id } :
        Story).InStep logged := by
    intro v same
    have still : ¬ (deviceId = s.id ∧ v.device? deviceId = none) := by
      rintro ⟨rfl, gone⟩
      rw [same.device?, found] at gone
      cases gone
    rw [if_neg still]
    exact ⟨settled_same h.settled same, h.keys.of_same same⟩
  unfold step
  dsimp only
  rcases after_rename s.world env deviceId newId with same | ⟨device, known, rfl, free, other, same⟩
  · exact unmoved _ same
  refine ⟨settled_same ?_ same, (statusKeys_renamed h.keys free other).of_same same⟩
  dsimp only
  by_cases followed : device.deviceId = s.id
  · have gone : (SensorServer.rename s.world env device.deviceId newId).device? device.deviceId = none := by
      rw [same.device?]
      exact congrArg Belongings.device (belongings_renamed_old other)
    rw [if_pos ⟨followed, gone⟩]
    exact settled_renamed chronicle h.keys known free (followed ▸ h.settled)
  · rw [if_neg (fun both => followed both.1)]
    have apart : s.id ≠ newId := by
      intro equal
      rw [← equal, found] at free
      cases free
    have same_ := @belongings_renamed_other s.world env _ _ _ (Ne.symm followed) apart
    refine settled_elsewhere chronicle h.settled ?_ (congrArg Belongings.statusLogs same_)
    exact congrArg (Option.map Device.alertColumns) (congrArg Belongings.device same_)

end Story

/-- What the three alert columns of a row say. -/
structure Device.AlertRepresented (d : Device) (asserted : Option Time) : Prop where
  level : d.alertLevel = .ok ∨ d.alertLevel = .warning ∨ d.alertLevel = .error
  quiet : d.alertLevel = .ok → d.alertMessage = ""
  updated : d.alertUpdatedAt = none ↔ d.alertLevel = .ok
  since : ∀ t, d.alertUpdatedAt = some t → asserted = some t
  /-- a stale alert is cleared only after the window -/
  held : ∀ now, d.alertMessage ≠ noCapabilitiesAlert → clearsAlert now d = true →
    ∃ t, asserted = some t ∧ d.alertReassertWindow < now - t

theorem Device.AlertSound.represented {d : Device} {asserted : Option Time} (sound : d.AlertSound asserted) :
    d.AlertRepresented asserted := by
  have updated : d.alertUpdatedAt = none ↔ d.alertLevel = .ok := by
    constructor
    · intro none_
      by_contra raised
      obtain ⟨t, -, since⟩ := sound.since raised
      rw [none_] at since
      cases since
    · exact fun ok => (sound.clear ok).2
  refine ⟨by cases d.alertLevel <;> simp, fun ok => (sound.clear ok).1, updated, ?_, ?_⟩
  · intro t since
    have raised : d.alertLevel ≠ .ok := fun ok => by rw [updated.mpr ok] at since; cases since
    obtain ⟨t', asserted_, same⟩ := sound.since raised
    rw [since] at same
    cases same
    exact asserted_
  · intro now other cleared
    unfold clearsAlert reconcileAlert at cleared
    rw [if_neg other] at cleared
    split at cleared
    swap
    · cases cleared
    next raised =>
    obtain ⟨t, asserted_, since⟩ := sound.since (by simpa [AlertLevel.raised] using raised)
    dsimp only at cleared
    rw [since] at cleared
    dsimp only at cleared
    split at cleared
    · next late => exact ⟨t, asserted_, late⟩
    · cases cleared

namespace Story
variable {s : Story}

theorem chronicle_any : Chronicle (fun _ _ _ => True) :=
  ⟨fun _ => ⟨fun _ _ _ => trivial⟩, fun _ _ _ => trivial, fun _ _ _ _ _ _ _ => trivial⟩

theorem strands_message {d : Delivery} (stranded : s.strands (.message d) = true) :
    d.deviceId = s.id ∧ SensorServer.strands s.world d = true := by
  simpa [strands] using stranded

theorem asserted_stranded {d : Delivery} (stranded : SensorServer.strands s.world d = true) :
    lastAsserted s.world d s.asserted = s.asserted := by
  have notReport : ¬ (d.kind = .status ∨ d.kind = .diag) := by
    rintro (kind | kind) <;>
    · unfold SensorServer.strands at stranded
      rw [kind] at stranded
      split at stranded <;> cases stranded
  have calm : timesOut s.world d = false := by
    unfold timesOut
    split
    · simp [stranded]
    · rfl
  simp [lastAsserted, asserts, reportedAlert, notReport, calm]

theorem world_stranded {d : Delivery} {row : Device} (known : s.world.device? s.id = some row)
    (stranded : s.strands (.message d) = true) :
    s.step (.message d) = { s with world := s.world.apply (.addStatusLog ⟨d.env.now, s.id, .ok, ""⟩) } := by
  obtain ⟨own, stranded⟩ := strands_message stranded
  have told := asserted_stranded stranded
  have handled := deliver_stranded (own ▸ known) stranded
  unfold step
  dsimp only
  rw [if_pos own, told, handled, own]

theorem inStep_any (h : s.InStep (fun _ _ _ => True)) (e : Happening) :
    (s.step e).InStep (fun _ _ _ => True) := by
  cases e with
  | rename env deviceId newId => exact inStep_rename chronicle_any h env deviceId newId
  | message d =>
    cases stranded : s.strands (.message d) with
    | false => exact inStep_message chronicle_any h stranded
    | true =>
      obtain ⟨row, found, sound, -⟩ := h.settled
      rw [world_stranded found stranded]
      refine ⟨⟨row, found, sound, trivial⟩, fun l member => ?_⟩
      rcases List.mem_append.mp member with old | added
      · exact h.keys l old
      · rw [List.mem_singleton.mp added]
        change (s.world.device? s.id).isSome = true
        rw [found]
        rfl

/-- In every state of every run of messages and renames, the three columns of the device
say whether it has an alert and when the alert was last asserted. -/
theorem alert_represented (fresh : s.Fresh) (hs : List Happening) :
    ∃ row, (Run.run step s hs).world.device? (Run.run step s hs).id = some row ∧
      row.AlertRepresented (Run.run step s hs).asserted := by
  have start : s.InStep (fun _ _ _ => True) := fresh.inStep chronicle_any
  have always : (Run.run step s hs).InStep (fun _ _ _ => True) :=
    @Run.invariant _ _ step (fun _ _ => True) (InStep (fun _ _ _ => True)) (fun _ e h _ => inStep_any h e)
      s hs start (Run.along_of_all s hs (fun _ _ _ => trivial))
  obtain ⟨row, found, sound, -⟩ := always.settled
  exact ⟨row, found, sound.represented⟩

def atticStart : Story where
  world := World.empty.apply (.createDevice { deviceId := "attic01", createdAt := seconds 1 })
  id := "attic01"
  asserted := none

theorem atticStart_fresh : atticStart.Fresh := ⟨⟨_, rfl, rfl⟩, rfl, fun _ member => absurd member List.not_mem_nil⟩

def atticMessage (kind : MessageKind) (at_ : Time) (data : Fields) : Happening :=
  .message ⟨{ now := at_ }, kind, "thermo", "attic01", ⟨60, .value (.obj data)⟩⟩

/-- It wakes up, reports a warning, is renamed and repeats the warning. -/
def atticRun : List Happening :=
  [atticMessage .sensors (seconds 2) [],
   atticMessage .status (seconds 3) [("level", .str "warning"), ("message", .str "fan")],
   .rename { now := seconds 4 } "attic01" "loft01",
   .message ⟨{ now := seconds 9 }, .diag, "thermo", "loft01",
    ⟨60, .value (.obj [("level", .str "warning"), ("message", .str "fan")])⟩⟩]

theorem atticRun_represented :
    (∃ row, (Run.run step atticStart atticRun).world.device? (Run.run step atticStart atticRun).id = some row ∧
      row.AlertRepresented (Run.run step atticStart atticRun).asserted) ∧
    (Run.run step atticStart atticRun).id = "loft01" ∧
    (Run.run step atticStart atticRun).asserted = some (seconds 9) :=
  ⟨alert_represented atticStart_fresh atticRun, by decide, by decide⟩

end Story

/-- What the newest row of a device in the status log stands for; no row is no alert. -/
def timelinePair (id : String) (logs : List DeviceStatusLog) : AlertLevel × String :=
  statusPair (ownedBy DeviceStatusLog.device id logs).getLast?

theorem timelinePair_append {id : String} (logs : List DeviceStatusLog) {row : DeviceStatusLog}
    (own : row.device = id) : timelinePair id (logs ++ [row]) = (row.alertLevel, row.alertMessage) := by
  simp [timelinePair, ownedBy, List.filter_append, own, statusPair]

theorem chronicle_timeline : Chronicle (fun id logs pair => timelinePair id logs = pair) where
  added := fun _ => ⟨fun logs _ own => timelinePair_append logs own⟩
  empty := fun id logs none_ => by rw [timelinePair, none_]; rfl
  moved := by
    intro id newId logs logs' pair moved same
    rw [← same, timelinePair, timelinePair, moved, List.getLast?_map]
    cases (ownedBy DeviceStatusLog.device id logs).getLast? <;> rfl

namespace Story
variable {s : Story}

/-- The newest status row of the device carries the alert it shows. -/
def Agrees (s : Story) : Prop :=
  ∃ row, s.world.device? s.id = some row ∧ timelinePair s.id s.world.db.statusLogs = row.alert

def Logged (s : Story) : Happening → Prop
  | .message d => ∀ row row', s.world.device? s.id = some row →
      (deliver s.world d).device? s.id = some row' → row.alert ≠ row'.alert →
      ∃ new, (deliver s.world d).db.statusLogs = s.world.db.statusLogs ++ new ∧
        ∃ l ∈ new, l.device = s.id ∧ (l.alertLevel, l.alertMessage) = row'.alert
  | .rename _ _ _ => True

def Faithful (s : Story) (e : Happening) : Prop := (s.step e).Agrees ∧ s.Logged e

theorem InStep.agrees (h : s.InStep (fun id logs pair => timelinePair id logs = pair)) : s.Agrees := by
  obtain ⟨row, found, -, log⟩ := h.settled
  exact ⟨row, found, log⟩

/-- Where the log agrees before and after, a changed alert was logged in between. -/
theorem logged_of_agrees {d : Delivery} (before : s.Agrees) (after_ : (s.step (.message d)).Agrees) :
    s.Logged (.message d) := by
  intro row row' found found' changed
  obtain ⟨q, foundQ, pair⟩ := before
  obtain ⟨q', foundQ', pair'⟩ := after_
  cases found.symm.trans foundQ
  cases (show (deliver s.world d).device? s.id = some q' from foundQ').symm.trans found'
  obtain ⟨-, -, new, logs, -⟩ := local_deliver s.world d
  refine ⟨new, logs, ?_⟩
  change timelinePair s.id (deliver s.world d).db.statusLogs = row'.alert at pair'
  rw [logs] at pair'
  unfold timelinePair ownedBy at pair pair'
  rw [List.filter_append, List.getLast?_append] at pair'
  cases last : (new.filter (fun l => decide (l.device = s.id))).getLast? with
  | none =>
    rw [last, Option.none_or] at pair'
    exact absurd (pair.symm.trans pair') changed
  | some l =>
    rw [last, Option.some_or] at pair'
    obtain ⟨inside, own⟩ := List.mem_filter.mp (List.mem_of_getLast? last)
    exact ⟨l, inside, by simpa using own, pair'⟩

theorem faithful_iff (h : s.InStep (fun id logs pair => timelinePair id logs = pair)) (e : Happening) :
    s.Faithful e ↔ s.strands e = false := by
  cases e with
  | rename env deviceId newId =>
    exact iff_of_true ⟨(inStep_rename chronicle_timeline h env deviceId newId).agrees, trivial⟩ rfl
  | message d =>
    cases stranded : s.strands (.message d) with
    | false =>
      have agrees := (inStep_message chronicle_timeline h stranded).agrees
      exact iff_of_true ⟨agrees, logged_of_agrees h.agrees agrees⟩ rfl
    | true =>
      refine iff_of_false ?_ (by simp)
      rintro ⟨agrees, -⟩
      obtain ⟨row, found, sound, -⟩ := h.settled
      obtain ⟨own, message⟩ := strands_message stranded
      have raised := stranded_raised sound (own ▸ found) message
      rw [world_stranded found stranded] at agrees
      obtain ⟨row', found', pair⟩ := agrees
      change s.world.device? s.id = some row' at found'
      cases found.symm.trans found'
      have ended : timelinePair s.id (s.world.db.statusLogs ++ [⟨d.env.now, s.id, .ok, ""⟩]) = (.ok, "") :=
        timelinePair_append _ rfl
      have quiet : (.ok, "") = row.alert := ended.symm.trans pair
      exact raised (congrArg Prod.fst quiet).symm

theorem inStep_kept (h : s.InStep (fun id logs pair => timelinePair id logs = pair)) {e : Happening}
    (kept : s.strands e = false) : (s.step e).InStep (fun id logs pair => timelinePair id logs = pair) := by
  cases e with
  | rename env deviceId newId => exact inStep_rename chronicle_timeline h env deviceId newId
  | message d => exact inStep_message chronicle_timeline h kept

/-- From the discovery on, the status log tells the alert of the device in every state of a
run exactly when no message of the device logs the end of an alert it then fails to save. -/
theorem timeline_faithful_iff (fresh : s.Fresh) (hs : List Happening) :
    s.Agrees ∧ (Run.Along step (fun s e => s.Faithful e) s hs ↔
      Run.Along step (fun s e => s.strands e = false) s hs) := by
  have start := fresh.inStep chronicle_timeline
  exact ⟨start.agrees, Run.along_iff (fun _ e h => faithful_iff h e) (fun _ _ h kept => inStep_kept h kept) start⟩

theorem atticRun_faithful : Run.Along step (fun s e => s.Faithful e) atticStart atticRun :=
  (timeline_faithful_iff atticStart_fresh atticRun).2.mpr (by decide)

/-- The capabilities come after the timeout, with a revision beyond the column. -/
def lateCapabilities : List Happening :=
  [atticMessage .sensors (seconds 2) [], atticMessage .sensors (seconds 90) [],
   atticMessage .capabilities (seconds 91) [("hwrev", .int 40000)]]

theorem lateCapabilities_unfaithful :
    ((Run.run step atticStart lateCapabilities).world.device? "attic01").map Device.alert =
      some (.error, noCapabilitiesAlert) ∧
    timelinePair "attic01" (Run.run step atticStart lateCapabilities).world.db.statusLogs = (.ok, "") ∧
    ¬ Run.Along step (fun s e => s.Faithful e) atticStart lateCapabilities := by
  refine ⟨by decide, by decide, ?_⟩
  rintro ⟨-, -, ⟨⟨row, found, pair⟩, -⟩, -⟩
  have ended : timelinePair "attic01" (Run.run step atticStart lateCapabilities).world.db.statusLogs =
      (.ok, "") := by decide
  have shown : ((Run.run step atticStart lateCapabilities).world.device? "attic01").map Device.alert =
      some (.error, noCapabilitiesAlert) := by decide
  have same : (Run.run step atticStart lateCapabilities).world.device? "attic01" = some row := found
  rw [same] at shown
  have other : row.alert = (.ok, "") := (pair.symm : row.alert = _).trans ended
  rw [Option.map_some, other] at shown
  cases shown

end Story

end SensorServer
