import SensorServer.Ownership
import SensorServer.Story
import SensorServer.RowViews

/-! What holds of every row of the devices: enough that a new row has it, and that a save of the
columns in scope and the copy of a rename keep it. -/
namespace SensorServer
open Program

def Every (ok : Device → Prop) (w : World) : Prop := ∀ id d, w.device? id = some d → ok d

def KeepsEvery (ok : Device → Prop) (w v : World) : Prop := Every ok w → Every ok v

structure Durable (saves : List DeviceField → Prop) (ok : Device → Prop) : Prop where
  fresh : ∀ deviceId deviceType createdAt, ok { deviceId, deviceType, createdAt }
  save : ∀ (d : Device) fields row, saves fields → ok row → ok (d.copyFields fields row)
  renamed : ∀ env d newId, ok d → ok (renamedDevice env d newId)

section Effects
variable {ok : Device → Prop} {w : World}

theorem keepsEvery_closed (ok : Device → Prop) : Closed (KeepsEvery ok) :=
  ⟨fun _ h => h, fun first rest h => rest (first h)⟩

theorem keepsEvery_of_devices {v : World} (same : v.db.devices = w.db.devices) : KeepsEvery ok w v := by
  intro sound id d listed
  rw [World.device?, same] at listed
  exact sound id d listed

theorem keepsEvery_saveDevice {d : Device} {fields : List DeviceField}
    (save : ∀ row, ok row → ok (d.copyFields fields row)) : KeepsEvery ok w (w.apply (.saveDevice d fields)) := by
  intro sound id row listed
  rw [device?_saveDevice] at listed
  obtain ⟨old, found, rfl⟩ := Option.map_eq_some_iff.mp listed
  split
  · exact save old (sound id old found)
  · exact sound id old found

theorem keepsEvery_createDevice {d : Device} (new : ok d) : KeepsEvery ok w (w.apply (.createDevice d)) := by
  intro sound id row listed
  by_cases same : d.deviceId = id
  · subst same
    cases found : w.device? d.deviceId with
    | none =>
      have inserted : (w.apply (.createDevice d)).device? d.deviceId = some d := Table.get?_insert_new found
      rw [inserted] at listed
      cases listed
      exact new
    | some old =>
      have kept : (w.apply (.createDevice d)).device? d.deviceId = w.device? d.deviceId :=
        congrArg (fun t => Table.get? t d.deviceId) (Table.insert_taken found)
      exact sound _ row (kept ▸ listed)
  · have kept : (w.apply (.createDevice d)).device? id = w.device? id := Table.get?_insert_other same
    exact sound id row (kept ▸ listed)

theorem keepsEvery_deleteDevice (source : String) : KeepsEvery ok w (w.apply (.deleteDevice source)) := by
  intro sound id row listed
  rw [device?_deleteDevice] at listed
  split at listed
  · cases listed
  · exact sound id row listed

end Effects

section Steps
variable {scope : Scope} {ok : Device → Prop} (durable : Durable scope.saves ok)
  (plain : ∀ fields, Plain fields → scope.saves fields) {w : World}
include durable

theorem Durable.rowLaw : RowLaw (fun a b => (∀ r ∈ a, ok r) → ∀ r ∈ b, ok r) (fun _ fields => scope.saves fields) where
  refl _ := fun h => h
  trans first rest := fun h => rest (first h)
  save d fields saves row := by
    intro sound r member
    obtain ⟨old, found, rfl⟩ := Option.map_eq_some_iff.mp member
    exact durable.save d fields old saves (sound old found)

theorem Durable.rename (env : Env) (deviceId newId : String) : KeepsEvery ok w (rename w env deviceId newId) := by
  have closed := keepsEvery_closed ok
  rcases after_rename w env deviceId newId with same | ⟨device, found, rfl, -, -, same⟩
  · exact keepsEvery_of_devices same.devices
  · intro sound
    exact closed.trans (keepsEvery_of_devices rfl) (closed.trans
      (keepsEvery_createDevice (durable.renamed env device newId (sound _ device found)))
      (closed.trans (keepsEvery_of_devices rfl) (closed.trans (keepsEvery_deleteDevice device.deviceId)
        (keepsEvery_of_devices same.devices)))) sound

include plain

theorem Durable.mild : Mild scope (KeepsEvery ok) := by
  have each : ∀ (w : World) (e : Effect), e.mild = true → e.Within scope w → KeepsEvery ok w (w.apply e) := by
    intro w e mild within
    cases e with
    | saveDevice d fields => exact keepsEvery_saveDevice (fun row => durable.save d fields row within.2)
    | setRollup view rows => cases view <;> exact keepsEvery_of_devices rfl
    | _ => first | exact keepsEvery_of_devices rfl | cases mild
  refine ⟨⟨keepsEvery_closed ok, plain, fun w e told => each w e ?_⟩, each⟩
  cases e <;> first | rfl | cases told

theorem Durable.mergeDevices (env : Env) (source target : Device) :
    KeepsEvery ok w (after (mergeDevices env source target) w) := by
  have rows : ∀ id, RowStep id (fun a b => (∀ r ∈ a, ok r) → ∀ r ∈ b, ok r) w (after (SensorServer.mergeDevices env
      source target) w) := by
    intro id
    refine durable.rowLaw.mergeDevices (fun _ _ => plain _ (by decide)) (fun u => ?_) w
    intro sound r member
    rw [device?_deleteDevice] at member
    split at member
    · cases member
    · exact sound r member
  exact fun sound id row listed => rows id (fun r found => sound id r found) row listed

theorem Durable.page {view : DeviceView} (may : view = .approve → scope.saves [.isApproved])
    (all : ∀ id, scope.own id) {env : Env} {request : Request} {deviceId : String} :
    KeepsEvery ok w (after (view.run env request deviceId) w) := by
  by_cases renames : view = .rename
  · subst renames
    rcases after_deviceRenameView w env request deviceId with same | moved | ⟨source, target, -, merged⟩
    · exact keepsEvery_of_devices (congrArg (fun u => u.db.devices) same)
    · exact moved ▸ durable.rename env deviceId _
    · exact merged ▸ durable.mergeDevices plain env source target
  by_cases deletes : view = .delete
  · subst deletes
    have closed := keepsEvery_closed ok
    refine upholds_roleRequired closed (fun _ => upholds_ownDevice closed (fun device _ => ?_)) w
    split
    · refine Upholds.bind closed (upholds_transaction closed (fun _ _ _ => keepsEvery_of_devices rfl) ?_)
        (fun _ => Upholds.pure closed _)
      exact Upholds.bind closed (upholds_emit (fun _ => keepsEvery_of_devices rfl))
        (fun _ => upholds_emit (fun _ => keepsEvery_deleteDevice _))
    · exact Upholds.pure closed _
  · exact (durable.mild plain).view (all _) deletes renames may w

end Steps

end SensorServer
