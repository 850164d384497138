import SensorServer.Isolation
import SensorServer.EveryRow
import SensorServer.Publishing
import SensorServer.Orphans

/-! Every reference is to a row that is there: the device of a log row and of a reading, the
hardware code of a device and of a revision, the revision of an image. The readings table has
no foreign key, so there it is the code alone that sees to it. -/
namespace SensorServer
open Program

structure World.Registered (w : World) : Prop where
  devices : ∀ id d, w.device? id = some d → ∀ code, d.hardwareCode = some code →
    (w.db.hardwareCodes.get? code).isSome = true
  revisions : ∀ key row, w.db.hardwareRevisions.get? key = some row →
    (w.db.hardwareCodes.get? row.hardwareCode).isSome = true
  firmwares : ∀ f ∈ w.db.firmwares.rows, (w.db.hardwareRevisions.get? f.hardwareRevision).isSome = true

structure World.Referenced (w : World) : Prop where
  owned : ∀ id, w.device? id = none → w.Without id
  registered : w.Registered

theorem without_iff {w : World} {id : String} : w.Without id ↔ w.db.belongings id = Belongings.empty := by
  constructor
  · rintro ⟨device, status, diag, commands, readings⟩
    simp [Db.belongings, Belongings.empty, status, diag, commands, readings]
    exact device
  · intro same
    simp only [Db.belongings, Belongings.empty, Belongings.mk.injEq] at same
    obtain ⟨device, readings, status, diag, commands⟩ := same
    exact ⟨device, status, diag, commands, readings⟩

inductive Registers (w : World) : World → Prop where
  | files (media : List (String × List UInt8)) : Registers w { w with media := media }
  | code (row : HardwareCode) : Registers w (w.apply (.putHardwareCode row))
  | revision (row : HardwareRevision) (known : (w.db.hardwareCodes.get? row.hardwareCode).isSome = true) :
      Registers w (w.apply (.putRevision row))
  | image (env : Env) (u : Upload) (file : String)
      (known : (w.db.hardwareRevisions.get? u.revision).isSome = true) : Registers w (u.publish env file w)

section Api
variable {w : World} {env : Env} {request : ApiRequest}

theorem registers_same : Registers w w := .files w.media

/-! A property of the state that holds as long as a request writes nothing, and after each write. -/

section Kept
variable {P : World → Prop} (same : P w)
include same

theorem kept_token {view : Act Reply} (inside : P (after view w)) :
    P (after (publishTokenRequired env request view) w) := by
  unfold publishTokenRequired
  split
  · exact same
  · split
    · exact same
    · exact inside

theorem kept_body {view : Fields → Act Reply} (inside : ∀ data, P (after (view data) w)) :
    P (after (parseJsonBody request view) w) := by
  unfold parseJsonBody
  split
  · exact inside _
  · exact same
  · exact same
  · exact same

theorem kept_hwCode (put : ∀ row, P (w.apply (.putHardwareCode row))) (code : String) :
    P (after (hwCodeView env request code) w) := by
  refine kept_token same ?_
  split
  · exact same
  · split
    · exact same
    · refine kept_body same (fun data => ?_)
      split
      · split
        · split
          · rw [after_read_bind]
            dsimp only
            split
            · exact put _
            · exact same
          · exact same
        · exact same
      · exact same

theorem kept_hwRevision (put : ∀ row : HardwareRevision,
      (w.db.hardwareCodes.get? row.hardwareCode).isSome = true → P (w.apply (.putRevision row)))
    (code : String) (rev : Nat) : P (after (hwRevisionView env request code rev) w) := by
  refine kept_token same ?_
  split
  · exact same
  · split
    · exact same
    · rw [after_read_bind]
      cases known : w.db.hardwareCodes.get? code with
      | none => exact same
      | some row =>
        refine kept_body same (fun data => ?_)
        split
        · split
          · exact same
          · exact same
          · rw [after_read_bind]
            dsimp only
            split
            · exact put _ (by rw [known]; rfl)
            · exact same
        · exact same

end Kept

theorem revision_of_taken {db : Db} {u : Upload} (taken : uploadTaken env request db = some u) :
    (db.hardwareRevisions.get? u.revision).isSome = true := by
  unfold uploadTaken at taken
  dsimp only at taken
  repeat' split at taken
  all_goals cases taken
  next hwRev _ _ _ _ _ _ _ rev found _ _ =>
    split at found
    · cases found
    · rw [Table.key_get? found, found]
      rfl

theorem registers_firmwares : Registers w (after (firmwaresView env request) w) := by
  refine kept_token registers_same ?_
  split
  swap
  · exact registers_same
  rcases outcome_publishFirmware env request w with ⟨-, status, kind, detail, refused⟩ | ⟨u, taken, -, -, run⟩
  · rw [after, refused]
    exact registers_same
  · rw [after, run]
    have replaced := outcome_replace u env w
    cases placed : placement env u (withoutImage w u.existing).media with
    | error failure =>
      rw [placed] at replaced
      rw [outcome_bind_error replaced]
      exact .files _
    | ok file =>
      rw [placed] at replaced
      rw [outcome_bind_ok replaced]
      exact .image env u file (revision_of_taken taken)

theorem registers_api (view : ApiView) : Registers w (after (view.run env request) w) := by
  cases view with
  | hwCode code => exact kept_hwCode registers_same .code code
  | hwRevision code rev => exact kept_hwRevision registers_same .revision code rev
  | firmwares => exact registers_firmwares

theorem Registers.aside {v : World} (step : Registers w v) :
    { v with
      db := { v.db with
        hardwareCodes := w.db.hardwareCodes
        hardwareRevisions := w.db.hardwareRevisions
        firmwares := w.db.firmwares }
      media := w.media } = w := by
  cases step with
  | files | code | revision => rfl
  | image env u file known =>
    unfold Upload.publish
    rw [withoutImage_media]
    cases u.existing <;> rfl

theorem Registers.device? {v : World} (step : Registers w v) (id : String) : v.device? id = w.device? id := by
  have same := congrArg (fun u : World => u.device? id) step.aside
  exact same

theorem Registers.without {v : World} (step : Registers w v) {id : String} (gone : w.Without id) : v.Without id := by
  rw [← step.aside] at gone
  exact ⟨gone.device, gone.statusLogs, gone.diagLogs, gone.commands, gone.readings⟩

theorem known_put (row : HardwareCode) {code : String} (known : (w.db.hardwareCodes.get? code).isSome = true) :
    ((w.apply (.putHardwareCode row)).db.hardwareCodes.get? code).isSome = true := by
  have found : (w.apply (.putHardwareCode row)).db.hardwareCodes.get? code = _ := Table.get?_put _ row code
  rw [found]
  split
  · rfl
  · exact known

theorem Registers.registered {v : World} (step : Registers w v) (sound : w.Registered) : v.Registered := by
  cases step with
  | files media => exact ⟨sound.devices, sound.revisions, sound.firmwares⟩
  | code row =>
    exact ⟨fun id d listed code named => known_put row (sound.devices id d listed code named),
      fun key r listed => known_put row (sound.revisions key r listed), sound.firmwares⟩
  | revision row known =>
    have found : ∀ key, (w.apply (.putRevision row)).db.hardwareRevisions.get? key = _ :=
      Table.get?_put w.db.hardwareRevisions row
    refine ⟨sound.devices, fun key r listed => ?_, fun f listed => ?_⟩
    · rw [found] at listed
      split at listed
      · cases listed
        exact known
      · exact sound.revisions key r listed
    · rw [found]
      split
      · rfl
      · exact sound.firmwares f listed
  | image env u file known =>
    unfold Upload.publish
    rw [withoutImage_media]
    refine ⟨?_, ?_, ?_⟩
    · cases u.existing <;> exact sound.devices
    · cases u.existing <;> exact sound.revisions
    · cases u.existing with
      | none =>
        intro f listed
        rcases List.mem_append.mp listed with old | new
        · exact sound.firmwares f old
        · rw [List.mem_singleton.mp new]
          exact known
      | some old =>
        intro f listed
        obtain ⟨g, before, rfl⟩ := List.mem_map.mp listed
        have kept := sound.firmwares g before
        split
        · exact kept
        · exact kept

end Api

def StaysKnown (id : String) (w v : World) : Prop := (w.device? id).isSome = true → (v.device? id).isSome = true

theorem staysKnown_of_same {id : String} {w v : World} (same : v.db.devices = w.db.devices) : StaysKnown id w v := by
  unfold StaysKnown World.device?
  rw [same]
  exact fun known => known

theorem staysKnown_apply {id : String} {w : World} {e : Effect} (mild : e.mild = true) :
    StaysKnown id w (w.apply e) := by
  cases e with
  | saveDevice d fields =>
    intro known
    rw [device?_saveDevice, Option.isSome_map]
    exact known
  | setRollup view rows => cases view <;> exact staysKnown_of_same rfl
  | _ => first | exact staysKnown_of_same rfl | cases mild

theorem staysKnown_createDevice {id : String} (d : Device) (w : World) :
    StaysKnown id w (w.apply (.createDevice d)) := by
  intro known
  by_cases same : d.deviceId = id
  · subst same
    obtain ⟨old, found⟩ := Option.isSome_iff_exists.mp known
    have kept : (w.apply (.createDevice d)).device? d.deviceId = w.device? d.deviceId :=
      congrArg (fun t => Table.get? t d.deviceId) (Table.insert_taken found)
    rwa [kept]
  · have kept : (w.apply (.createDevice d)).device? id = w.device? id := Table.get?_insert_other same
    rwa [kept]

theorem mild_staysKnown (id : String) : Mild (.of fun _ => True) (StaysKnown id) where
  plain := fun _ _ => trivial
  closed := ⟨fun _ known => known, fun first rest known => rest (first known)⟩
  told := by
    intro w e told _
    exact staysKnown_apply (by cases e <;> first | rfl | cases told)
  mild := fun _ _ mild _ => staysKnown_apply mild

section Pages
variable {w : World} {env : Env} {request : Request} {deviceId : String}

theorem after_unknown_page (unknown : w.device? deviceId = none) (view : DeviceView) :
    after (view.run env request deviceId) w = w := by
  have refused : ∀ {minimum : Role} (body : Device → Act Response),
      after (roleRequired minimum request (getDeviceOr404 deviceId body)) w = w := by
    intro minimum body
    rw [roleRequired_eq]
    split
    · unfold getDeviceOr404
      rw [after_read_bind, unknown]
      rfl
    · rfl
  cases view <;> exact refused _

theorem deleted_page (view : DeviceView) (deletes : view = .delete) :
    (after (view.run env request deviceId) w).db = w.db ∨
    (after (view.run env request deviceId) w).Without deviceId := by
  subst deletes
  cases known : w.device? deviceId with
  | none =>
    rw [after_unknown_page known]
    exact .inl rfl
  | some device =>
    by_cases allowed : request.user.may .admin = true ∧ request.isPost = true ∧ env.commit = true
    · exact .inr (without_deleted ⟨allowed.1, allowed.2.1, by rw [known]; rfl, allowed.2.2⟩)
    · left
      change (after (deviceDeleteView env request deviceId) w).db = w.db
      unfold deviceDeleteView getDeviceOr404
      rw [roleRequired_eq]
      split
      · next admitted =>
        rw [after_read_bind, known]
        dsimp only
        split
        · next posted =>
          have undone : ¬ env.commit = true := fun committed => allowed ⟨admitted, posted, committed⟩
          rcases block : outcome (deleteDevice env device) w with ⟨e | ⟨⟩, v⟩
          · rw [after_bind_error block]
            exact db_of_transaction_error block
          · exact absurd (outcome_transaction_ok.mp block).2 undone
        · rfl
      · rfl

def SameBelongings (w v : World) : Prop := ∀ id, v.db.belongings id = w.db.belongings id

theorem sameBelongings_closed : Closed SameBelongings :=
  ⟨fun _ _ => rfl, fun first rest id => (rest id).trans (first id)⟩

theorem sameBelongings_refresh : Upholds SameBelongings (refreshContinuousAggregates env) :=
  upholds_refreshContinuousAggregates sameBelongings_closed (fun _ view _ => by cases view <;> exact fun _ => rfl)

theorem SameBelongings.of_db {v : World} (same : v.db = w.db) : SameBelongings w v := fun _ => by rw [same]

theorem renamed_rows {device : Device} {newId : String} (named : device.deviceId = deviceId)
    (other : newId ≠ deviceId) :
    (after (renameDevice env device newId) w).db = w.db ∨
    (after (renameDevice env device newId) w).Without deviceId ∧
      (after (renameDevice env device newId) w).device? newId ≠ none := by
  subst named
  unfold renameDevice
  rcases block : outcome (transaction env (renameRows env device newId)) w with ⟨e | ⟨⟩, v⟩
  · rw [after_bind_error block]
    exact .inl (db_of_transaction_error block)
  · rw [after_bind_ok block]
    obtain ⟨free, -, rfl⟩ := outcome_renameRows_ok.mp (outcome_transaction_ok.mp block).1
    have same := @sameBelongings_refresh env (w.renamed env device newId)
    refine .inr ⟨without_iff.mpr ((same _).trans (belongings_renamed_old other)), ?_⟩
    have kept := congrArg Belongings.device (same newId)
    intro gone
    have new := @device?_renamed_new w env device newId free other
    rw [show (w.renamed env device newId).device? newId = none from kept.symm.trans gone] at new
    cases new

theorem merged_rows {source target : Device} (other : target.deviceId ≠ source.deviceId)
    (known : w.device? target.deviceId = some target) :
    (after (mergeDevices env source target) w).db = w.db ∨
    (after (mergeDevices env source target) w).Without source.deviceId ∧
      (after (mergeDevices env source target) w).device? target.deviceId ≠ none := by
  unfold mergeDevices
  rcases block : outcome (transaction env (mergeRows source target)) w with ⟨e | ⟨⟩, u⟩
  · rw [after_bind_error block]
    exact .inl (db_of_transaction_error block)
  · rw [after_bind_ok block]
    have ran := (outcome_transaction_ok.mp block).1
    have same := @sameBelongings_refresh env u
    have logs := logs_mergeRows other known ran
    have series := series_mergeRows other ran
    refine .inr ⟨without_iff.mpr ((same _).trans (without_iff.mp ⟨?_, ?_, ?_, ?_, ?_⟩)), ?_⟩
    · obtain ⟨_, t, -, -, -, last⟩ := mergeRows_ran source target w
      rw [ran] at last
      cases last
      rw [device?_deleteDevice, if_pos rfl]
    · rw [logs.statusLogs]
      exact ownedBy_filter_self
    · rw [logs.diagLogs]
      exact ownedBy_filter_self
    · rw [logs.commandLogs]
      exact ownedBy_filter_self
    · rw [List.eq_nil_iff_forall_not_mem]
      intro r member
      have listed := List.mem_filter.mp member
      have own : r ∈ u.series source.deviceId r.metric :=
        List.mem_filter.mpr ⟨List.mem_filter.mpr ⟨listed.1, by simp⟩, listed.2⟩
      rw [series.emptied] at own
      cases own
    · intro gone
      have kept := congrArg Belongings.device (same target.deviceId)
      have row := logs.row
      rw [show u.db.devices.get? target.deviceId = none from kept.symm.trans gone] at row
      cases row

theorem owned_of_same {v : World} (same : SameBelongings w v) (owned : ∀ id, w.device? id = none → w.Without id)
    {id : String} (gone : v.device? id = none) : v.Without id := by
  have before : w.device? id = none := (congrArg Belongings.device (same id)).symm.trans gone
  exact without_iff.mpr ((same id).trans (without_iff.mp (owned id before)))

theorem renamed_page :
    (after (deviceRenameView env request deviceId) w).db = w.db ∨
    (after (deviceRenameView env request deviceId) w).Without deviceId ∧
      (after (deviceRenameView env request deviceId) w).device?
        (pyStrip (QueryDict.get request.post "new_device_id" "")) ≠ none := by
  generalize entered : pyStrip (QueryDict.get request.post "new_device_id" "") = newId
  rcases after_deviceRenameView w env request deviceId with same | renames | ⟨source, target, merged, merges⟩
  · rw [same]
    exact .inl rfl
  · rw [renames, entered]
    unfold rename
    cases known : w.device? deviceId with
    | none => exact .inl rfl
    | some device =>
      cases free : w.device? newId with
      | some taken => exact .inl rfl
      | none =>
        refine renamed_rows (Table.key_get? known) ?_
        rintro rfl
        rw [known] at free
        cases free
  · obtain ⟨⟨-, -, -, -, other, -⟩, known, taken⟩ := confirmedMerge_eq_some.mp merged
    have source_ : source.deviceId = deviceId := Table.key_get? known
    have target_ : target.deviceId = newId := (Table.key_get? taken).trans entered
    rw [entered] at other taken
    have rows := @merged_rows w env source target (by rwa [source_, target_]) (by rwa [target_])
    rw [source_, target_] at rows
    rwa [merges]

theorem owned_rename (owned : ∀ id, w.device? id = none → w.Without id) {id : String}
    (named : id = deviceId ∨ pyStrip (QueryDict.get request.post "new_device_id" "") = id)
    (gone : (after (deviceRenameView env request deviceId) w).device? id = none) :
    (after (deviceRenameView env request deviceId) w).Without id := by
  rcases @renamed_page w env request deviceId with same | ⟨empty, known⟩
  · exact owned_of_same (.of_db same) owned gone
  · rcases named with rfl | rfl
    · exact empty
    · exact absurd gone known

end Pages

/-- Whatever names a device names one that is there: kept by every step. -/
theorem owned_serve {w : World} (owned : ∀ id, w.device? id = none → w.Without id) (e : Event) {id : String}
    (gone : (serve w e).device? id = none) : (serve w e).Without id := by
  have apart : ∀ e : Event, e.concerns id = false → ¬ e.renames id → (serve w e).device? id = none →
      (serve w e).Without id := by
    intro e other stays gone
    have rows := (unseen_serve other stays w).rows
    have before := owned id (rows.row.trans gone)
    refine ⟨gone, rows.statusLogs ▸ before.statusLogs, rows.diagLogs ▸ before.diagLogs, ?_,
      rows.readings ▸ before.readings⟩
    rw [← rows.commands, before.commands]
    rfl
  cases e with
  | api env view request =>
    have step := @registers_api w env request view
    exact step.without (owned id ((step.device? id).symm.trans gone))
  | message d =>
    by_cases own : d.deviceId = id
    swap
    · exact apart _ (decide_eq_false own) (fun renames => renames) gone
    subst own
    cases known : w.device? d.deviceId with
    | none =>
      rcases unchanged_or_created known with same | created
      · have kept : serve w (.message d) = w := same
        rw [kept]
        exact owned _ known
      · rw [show (deliver w d).device? d.deviceId = none from gone] at created
        cases created
    | some device =>
      have kept : StaysKnown d.deviceId w (serve w (.message d)) :=
        (mild_staysKnown d.deviceId).handleMessage trivial
          (staysKnown_createDevice _) (fun _ => trivial) (fun _ => trivial) w
      have still := kept (by rw [known]; rfl)
      rw [gone] at still
      cases still
  | web env view request deviceId =>
    by_cases touched : deviceId = id ∨
      (view = .rename ∧ pyStrip (QueryDict.get request.post "new_device_id" "") = id)
    swap
    · rw [not_or] at touched
      refine apart _ (decide_eq_false touched.1) ?_ gone
      intro renames
      cases view with
      | rename =>
        rcases renames with own | named
        · exact touched.1 own
        · exact touched.2 ⟨rfl, named⟩
      | _ => exact renames
    by_cases renames : view = .rename
    · subst renames
      refine owned_rename owned ?_ gone
      rcases touched with own | ⟨-, named⟩
      · exact .inl own.symm
      · exact .inr named
    have own : deviceId = id := touched.resolve_right (fun both => renames both.1)
    subst own
    cases known : w.device? deviceId with
    | none =>
      have kept : serve w (.web env view request deviceId) = w := after_unknown_page known view
      rw [kept]
      exact owned _ known
    | some device =>
      by_cases deletes : view = .delete
      · rcases @deleted_page w env request deviceId view deletes with same | empty
        · exact owned_of_same (.of_db same) owned gone
        · exact empty
      · have kept : StaysKnown deviceId w (serve w (.web env view request deviceId)) :=
          (mild_staysKnown deviceId).view trivial deletes renames (fun _ => trivial) w
        have still := kept (by rw [known]; rfl)
        rw [gone] at still
        cases still

def CodeIn (known : String → Prop) (d : Device) : Prop := ∀ code, d.hardwareCode = some code → known code

def uncoded : Scope := ⟨fun _ => True, fun fields => .hardwareCode ∉ fields, True⟩

section Codes
variable {known : String → Prop} {w : World}

theorem durable_codeIn (known : String → Prop) : Durable uncoded.saves (CodeIn known) where
  fresh := fun _ _ _ _ named => by cases named
  save := by
    intro d fields row plain sound code named
    rw [Device.hardwareCode_copyFields, if_neg plain] at named
    exact sound code named
  renamed := fun _ _ _ sound => sound

theorem uncoded_plain : ∀ fields, Plain fields → uncoded.saves fields := fun _ plain => plain.2

theorem known_of_reported {known : String → Bool} {data : Fields} {code : String}
    (named : reportedCode known data = some code) : known code = true := by
  unfold reportedCode at named
  split at named
  · split at named
    · next checked =>
      cases named
      exact (Bool.and_eq_true _ _ ▸ checked).2
    · cases named
  · cases named

theorem codes_message (d : Delivery) :
    KeepsEvery (CodeIn fun code => (w.db.hardwareCodes.get? code).isSome = true) w (deliver w d) := by
  by_cases kind : d.kind = .capabilities
  · have stored := deliver_capabilities (w := w) kind
    refine (keepsEvery_closed _).trans ?_ (keepsEvery_of_devices stored)
    unfold reported saveReport
    cases d.payload.object? with
    | none => exact (keepsEvery_closed _).refl w
    | some data =>
      cases w.device? d.deviceId with
      | none => exact (keepsEvery_closed _).refl w
      | some device =>
        dsimp only
        split
        · refine keepsEvery_saveDevice (fun row _ code named => ?_)
          rw [Device.hardwareCode_copyFields, if_pos (by decide), hardwareCode_applyCapabilities] at named
          exact known_of_reported named
        · exact (keepsEvery_closed _).refl w
  · have durable := durable_codeIn (fun code => (w.db.hardwareCodes.get? code).isSome = true)
    exact (durable.mild uncoded_plain).handleMessage trivial
      (fun _ => keepsEvery_createDevice (durable.fresh _ _ _))
      (fun same => absurd same kind) (fun _ => trivial) w

end Codes

theorem confined_registry : Confined (.of fun _ => True) (fun w v => v.registry = w.registry) := by
  have each : ∀ (w : World) (e : Effect), e.Within (.of fun _ => True) w → (w.apply e).registry = w.registry := by
    intro w e within
    cases e with
    | setRollup view rows => cases view <;> rfl
    | _ => first | rfl | exact within.elim
  refine ⟨⟨⟨⟨fun _ => rfl, fun first rest => rest.trans first⟩, fun _ _ => trivial, fun w e _ => each w e⟩,
    fun w e _ => each w e⟩, each, fun w v same => ?_⟩
  have media : v.media = w.media := congrArg (fun r => r.2.2.2) same
  unfold World.registry
  rw [media]

theorem registered_of_registry {w v : World} (same : v.registry = w.registry) (sound : w.Registered)
    (codes : KeepsEvery (CodeIn fun code => (w.db.hardwareCodes.get? code).isSome = true) w v) : v.Registered := by
  have codes_ : v.db.hardwareCodes = w.db.hardwareCodes := congrArg (fun r => r.1) same
  have revisions : v.db.hardwareRevisions = w.db.hardwareRevisions := congrArg (fun r => r.2.1) same
  have firmwares : v.db.firmwares = w.db.firmwares := congrArg (fun r => r.2.2.1) same
  refine ⟨?_, ?_, ?_⟩
  · rw [codes_]
    exact codes sound.devices
  · rw [codes_, revisions]
    exact sound.revisions
  · rw [revisions, firmwares]
    exact sound.firmwares

theorem registered_serve {w : World} (sound : w.Registered) (e : Event) : (serve w e).Registered := by
  cases e with
  | api env view request => exact (registers_api view).registered sound
  | message d =>
    exact registered_of_registry (confined_registry.handleMessage trivial (fun w => confined_registry.each w
      (.createDevice _) trivial) (fun _ => trivial) (fun _ => trivial) w) sound (codes_message d)
  | web env view request deviceId =>
    exact registered_of_registry (confined_registry.view trivial view (fun _ => trivial) (fun _ => trivial) w) sound
      ((durable_codeIn _).page uncoded_plain (fun _ => (by decide : .hardwareCode ∉ [DeviceField.isApproved]))
        (fun _ => trivial))

theorem World.Referenced.serve {w : World} (sound : w.Referenced) (e : Event) : (serve w e).Referenced :=
  ⟨fun _ gone => owned_serve sound.owned e gone, registered_serve sound.registered e⟩

theorem empty_referenced : World.empty.Referenced := by
  refine ⟨fun id _ => without_iff.mpr rfl, ⟨?_, ?_, ?_⟩⟩
  · intro id d listed
    cases listed
  · intro key row listed
    cases listed
  · intro f listed
    cases listed

theorem World.Referenced.foreignKeys {w : World} (sound : w.Referenced) : w.db.ForeignKeys := by
  have known : ∀ {ρ : Type} (owner : ρ → String) (rows : List ρ),
      (∀ id, w.device? id = none → ownedBy owner id rows = []) → ∀ r ∈ rows,
        (w.db.devices.get? (owner r)).isSome = true := by
    intro ρ owner rows none_ r member
    by_contra missing
    have gone := none_ (owner r) (Option.not_isSome_iff_eq_none.mp missing)
    exact absurd (List.mem_filter.mpr ⟨member, decide_eq_true rfl⟩) (List.eq_nil_iff_forall_not_mem.mp gone r)
  exact ⟨known _ _ fun id gone => (sound.owned id gone).statusLogs,
    known _ _ fun id gone => (sound.owned id gone).diagLogs, known _ _ fun id gone => (sound.owned id gone).commands⟩

/-- From the empty database on, no row refers to a row that is not there. -/
theorem run_referenced (es : List Event) :
    (Run.run serve World.empty es).Referenced ∧ (Run.run serve World.empty es).db.ForeignKeys := by
  have sound : (Run.run serve World.empty es).Referenced := by
    exact @Run.invariant _ _ serve (fun _ _ => True) World.Referenced (fun w e before _ => before.serve e)
      World.empty es empty_referenced (Run.along_of_all _ _ (fun _ _ _ => trivial))
  exact ⟨sound, sound.foreignKeys⟩

end SensorServer
