import SensorServer.Catalog
import SensorServer.Serving
import SensorServer.Lib.Upsert

/-! What a publish request asks for, whatever the database holds (ota/views.py A1, A2 and
A3), and the registry and the catalog as one map that an answered request writes at one key. -/
namespace SensorServer
open Program Upsert

structure Image where
  revision : String × Nat
  version : String
  md5 : String
  notes : String
  content : List UInt8
  overwrite : Bool
  deriving DecidableEq

inductive Asked where
  | code (hwCode platform description : String) (modules : List String)
  | revision (hwCode : String) (hwRev : Nat) (description : String) (nominal : Option PyFloat) (notes : String)
  | image (image : Image)
  deriving DecidableEq

def codeAsked (request : ApiRequest) (hwCode : String) : Option Asked :=
  if request.method ≠ .put then none
  else if !hwCodeRe hwCode then none
  else match request.body with
    | .value (.obj data) =>
      match (Dict.get? data "platform").getD (.str ""), (Dict.get? data "description").getD (.str "") with
      | .str platform, .str description =>
        match (Dict.get? data "modules").getD (.arr []) with
        | .arr items => (stringItems items).map (Asked.code hwCode (pyTake 32 platform) (pyTake 256 description))
        | _ => none
      | _, _ => none
    | _ => none

def revisionAsked (request : ApiRequest) (hwCode : String) (hwRev : Nat) : Option Asked :=
  if request.method ≠ .put then none
  else if !hwCodeRe hwCode then none
  else match request.body with
    | .value (.obj data) =>
      match (Dict.get? data "description").getD (.str ""), (Dict.get? data "notes").getD (.str "") with
      | .str description, .str notes =>
        match dividerOf ((Dict.get? data "bat_divider_nominal").getD .null) with
        | .value nominal => some (.revision hwCode hwRev (pyTake 256 description) nominal notes)
        | _ => none
      | _, _ => none
    | _ => none

def imageAsked (env : Env) (request : ApiRequest) : Option Asked :=
  let hwCode := QueryDict.get request.post "hw_code" ""
  let version := QueryDict.get request.post "version" ""
  let md5 := (QueryDict.get request.post "md5" "").toLower
  if request.method ≠ .post then none
  else if !hwCodeRe hwCode then none
  else if !versionRe version then none
  else match env.intOfStr (QueryDict.get request.post "hw_rev" "") with
  | none => none
  | some hwRev =>
    if !hexDigest md5 then none
    else match uploadOf request.files with
    | none => none
    | some upload =>
      if upload.length > maxFirmwareSize then none
      else if hwRev < 0 then none
      else if env.md5 upload ≠ md5 then none
      else some (.image ⟨(hwCode, hwRev.toNat), version, md5, QueryDict.get request.post "notes" "", upload,
        decide (QueryDict.get? request.query "overwrite" = some "true")⟩)

def tokenTaken (env : Env) (request : ApiRequest) : Bool :=
  decide (env.otaPublishToken ≠ "") && decide (request.bearer = env.otaPublishToken)

def ApiView.asked (env : Env) (request : ApiRequest) (view : ApiView) : Option Asked :=
  if !tokenTaken env request then none
  else match view with
    | .hwCode code => codeAsked request code
    | .hwRevision code rev => revisionAsked request code rev
    | .firmwares => imageAsked env request

def codeRow (env : Env) (existing : Option HardwareCode) (hwCode platform description : String)
    (modules : List String) : HardwareCode :=
  ⟨hwCode, platform, description, modules, (existing.map HardwareCode.createdAt).getD env.now, env.now⟩

def revisionRow (env : Env) (existing : Option HardwareRevision) (hwCode : String) (hwRev : Nat)
    (description : String) (nominal : Option PyFloat) (notes : String) : HardwareRevision :=
  ⟨hwCode, hwRev, description, nominal, notes, (existing.map HardwareRevision.createdAt).getD env.now, env.now⟩

def Image.upload (i : Image) (db : Db) : Upload :=
  ⟨i.revision, i.version, i.md5, i.notes, i.content, firmwareOf db i.revision i.version⟩

def Asked.publish (env : Env) : Asked → Act Reply
  | .code hwCode platform description modules => do
    let existing ← read (fun w => w.db.hardwareCodes.get? hwCode)
    let row := codeRow env existing hwCode platform description modules
    (if row.insertable then emit (.putHardwareCode row) else fail .dataError)
    pure (.hardwareCode row existing.isNone)
  | .revision hwCode hwRev description nominal notes => do
    let code ← read (fun w => w.db.hardwareCodes.get? hwCode)
    match code with
    | none => apiNotFound "Unknown hw_code; register it first (A1)."
    | some _ => do
      let existing ← read (fun w => w.db.hardwareRevisions.get? (hwCode, hwRev))
      let row := revisionRow env existing hwCode hwRev description nominal notes
      (if row.insertable then emit (.putRevision row) else fail .dataError)
      pure (.hardwareRevision row existing.isNone)
  | .image i => do
    let rev ← read (fun w => w.db.hardwareRevisions.get? i.revision)
    match rev with
    | none => apiBadRequest "Unknown (hw_code, hw_rev); register them first (A1/A2)."
    | some _ => do
      let existing ← read (fun w => firmwareOf w.db i.revision i.version)
      if existing.isSome && !i.overwrite then
        pure (.error 409 "conflict"
          "This (hw_code, hw_rev, version) already exists. Use ?overwrite=true to replace.")
      else do
        let file ← replaceImage env i.revision i.version i.md5 i.notes i.content existing
        pure (.firmware i.version file i.md5 i.content.length existing.isNone)

def Reply.status : Reply → Nat
  | .error status _ _ => status
  | .hardwareCode _ created | .hardwareRevision _ created | .firmware _ _ _ _ created => if created then 201 else 200

def completed : Except Raised Reply → Bool
  | .ok reply => decide (reply.status ∈ [200, 201, 409])
  | .error _ => false

def Understood (env : Env) (asked : Option Asked) (view : Act Reply) : Prop :=
  ∀ w, (asked = none ∧ completed (outcome view w).1 = false) ∨
    ∃ a, asked = some a ∧ outcome view w = outcome (a.publish env) w

theorem understood_token {env : Env} {request : ApiRequest} {asked : Option Asked} {view : Act Reply}
    (inner : Understood env asked view) :
    Understood env (if !tokenTaken env request then none else asked) (publishTokenRequired env request view) := by
  intro w
  unfold publishTokenRequired tokenTaken
  by_cases disabled : env.otaPublishToken = ""
  · simp only [disabled]
    exact .inl ⟨by simp, rfl⟩
  · by_cases refused : request.bearer = env.otaPublishToken
    · simpa [disabled, refused] using inner w
    · rw [if_neg disabled, if_pos refused]
      exact .inl ⟨by simp [refused], rfl⟩

theorem understood_codeAsked (env : Env) (request : ApiRequest) (hwCode : String) :
    Understood env (if !tokenTaken env request then none else codeAsked request hwCode)
      (hwCodeView env request hwCode) := by
  unfold hwCodeView
  refine understood_token (fun w => ?_)
  unfold codeAsked
  split
  · exact .inl ⟨rfl, rfl⟩
  split
  · exact .inl ⟨rfl, rfl⟩
  unfold parseJsonBody
  cases request.body with
  | malformed => exact .inl ⟨rfl, rfl⟩
  | uncaught => exact .inl ⟨rfl, rfl⟩
  | value document =>
    cases document with
    | obj data =>
      dsimp only
      cases (Dict.get? data "platform").getD (.str "") with
      | str platform =>
        cases (Dict.get? data "description").getD (.str "") with
        | str description =>
          cases (Dict.get? data "modules").getD (.arr []) with
          | arr items =>
            dsimp only
            cases stringItems items with
            | none => exact .inl ⟨rfl, rfl⟩
            | some modules => exact .inr ⟨_, rfl, rfl⟩
          | _ => exact .inl ⟨rfl, rfl⟩
        | _ => exact .inl ⟨rfl, rfl⟩
      | _ => exact .inl ⟨rfl, rfl⟩
    | _ => exact .inl ⟨rfl, rfl⟩

theorem understood_revisionAsked (env : Env) (request : ApiRequest) (hwCode : String) (hwRev : Nat) :
    Understood env (if !tokenTaken env request then none else revisionAsked request hwCode hwRev)
      (hwRevisionView env request hwCode hwRev) := by
  unfold hwRevisionView
  refine understood_token (fun w => ?_)
  unfold revisionAsked
  split
  · exact .inl ⟨rfl, rfl⟩
  split
  · exact .inl ⟨rfl, rfl⟩
  rw [outcome_bind_ok (outcome_read _ w)]
  unfold parseJsonBody
  cases request.body with
  | malformed => exact .inl ⟨rfl, by cases w.db.hardwareCodes.get? hwCode <;> rfl⟩
  | uncaught => exact .inl ⟨rfl, by cases w.db.hardwareCodes.get? hwCode <;> rfl⟩
  | value document =>
    cases document with
    | obj data =>
      dsimp only
      cases (Dict.get? data "description").getD (.str "") with
      | str description =>
        cases (Dict.get? data "notes").getD (.str "") with
        | str notes =>
          dsimp only
          cases dividerOf ((Dict.get? data "bat_divider_nominal").getD .null) with
          | notNumber => exact .inl ⟨rfl, by cases w.db.hardwareCodes.get? hwCode <;> rfl⟩
          | overflow => exact .inl ⟨rfl, by cases w.db.hardwareCodes.get? hwCode <;> rfl⟩
          | value nominal => exact .inr ⟨_, rfl, rfl⟩
        | _ => exact .inl ⟨rfl, by cases w.db.hardwareCodes.get? hwCode <;> rfl⟩
      | _ => exact .inl ⟨rfl, by cases w.db.hardwareCodes.get? hwCode <;> rfl⟩
    | _ => exact .inl ⟨rfl, by cases w.db.hardwareCodes.get? hwCode <;> rfl⟩

theorem outcome_publish_image {i : Image} {w : World} {rev : HardwareRevision}
    (known : w.db.hardwareRevisions.get? i.revision = some rev) (env : Env) :
    outcome ((Asked.image i).publish env) w =
      if (firmwareOf w.db i.revision i.version).isSome && !i.overwrite then
        (.ok (.error 409 "conflict"
          "This (hw_code, hw_rev, version) already exists. Use ?overwrite=true to replace."), w)
      else outcome (do
        let file ← (i.upload w.db).replace env
        pure (.firmware i.version file i.md5 i.content.length
          (firmwareOf w.db i.revision i.version).isNone)) w := by
  unfold Asked.publish
  rw [outcome_bind_ok (outcome_read _ w), known]
  dsimp only
  rw [outcome_bind_ok (outcome_read _ w)]
  split <;> rfl

theorem understood_imageAsked (env : Env) (request : ApiRequest) :
    Understood env (if !tokenTaken env request then none else imageAsked env request)
      (firmwaresView env request) := by
  unfold firmwaresView
  refine understood_token (fun w => ?_)
  unfold imageAsked publishFirmware
  dsimp only
  by_cases posted : request.method = .post
  · rw [if_neg (not_not.mpr posted), if_pos posted]
    split
    · exact .inl ⟨rfl, rfl⟩
    split
    · exact .inl ⟨rfl, rfl⟩
    cases env.intOfStr (QueryDict.get request.post "hw_rev" "") with
    | none => exact .inl ⟨rfl, rfl⟩
    | some hwRev =>
      dsimp only
      split
      · exact .inl ⟨rfl, rfl⟩
      cases uploadOf request.files with
      | none => exact .inl ⟨rfl, rfl⟩
      | some upload =>
        dsimp only
        split
        · exact .inl ⟨rfl, rfl⟩
        rw [outcome_bind_ok (outcome_read _ w)]
        by_cases negative : hwRev < 0
        · rw [if_pos negative, if_pos negative]
          exact .inl ⟨rfl, rfl⟩
        · rw [if_neg negative, if_neg negative]
          cases known : w.db.hardwareRevisions.get? (QueryDict.get request.post "hw_code" "", hwRev.toNat) with
          | none =>
            split
            · exact .inl ⟨rfl, rfl⟩
            · refine .inr ⟨_, rfl, ?_⟩
              unfold Asked.publish
              rw [outcome_bind_ok (outcome_read _ w), known]
          | some rev =>
            dsimp only
            split
            · exact .inl ⟨rfl, rfl⟩
            · refine .inr ⟨_, rfl, ?_⟩
              rw [outcome_publish_image known, Table.key_get? known, outcome_bind_ok (outcome_read _ w)]
              split <;> rfl
  · rw [if_pos posted, if_neg posted]
    exact .inl ⟨rfl, rfl⟩

theorem understood (env : Env) (request : ApiRequest) (view : ApiView) :
    Understood env (view.asked env request) (view.run env request) := by
  cases view with
  | hwCode code => exact understood_codeAsked env request code
  | hwRevision code rev => exact understood_revisionAsked env request code rev
  | firmwares => exact understood_imageAsked env request

inductive CatalogKey where
  | code (hwCode : String)
  | revision (key : String × Nat)
  | image (revision : String × Nat) (version : String)
  deriving DecidableEq

/-- What a row says beside its key and its times, and for an image the stored bytes. -/
inductive CatalogEntry where
  | code (platform description : String) (modules : List String)
  | revision (description : String) (nominal : Option PyFloat) (notes : String)
  | image (md5 : String) (size : Nat) (notes : String) (content : Option (List UInt8))

def World.entry (w : World) : CatalogKey → Option CatalogEntry
  | .code hwCode =>
    (w.db.hardwareCodes.get? hwCode).map (fun row => .code row.platform row.description row.modules)
  | .revision key =>
    (w.db.hardwareRevisions.get? key).map (fun row => .revision row.description row.batDividerNominal row.notes)
  | .image revision version =>
    (firmwareOf w.db revision version).map (fun f => .image f.md5 f.size f.notes (w.media.lookup f.file))

namespace Asked

def key : Asked → CatalogKey
  | code hwCode _ _ _ => .code hwCode
  | revision hwCode hwRev _ _ _ => .revision (hwCode, hwRev)
  | image i => .image i.revision i.version

/-- An image is added where there is none, and put with ?overwrite=true. -/
def write : Asked → Write CatalogEntry
  | code _ platform description modules => .put (.code platform description modules)
  | revision _ _ description nominal notes => .put (.revision description nominal notes)
  | image i =>
    if i.overwrite then .put (.image i.md5 i.content.length i.notes (some i.content))
    else .add (.image i.md5 i.content.length i.notes (some i.content))

def parent : Asked → Option CatalogKey
  | code _ _ _ _ => none
  | revision hwCode _ _ _ _ => some (.code hwCode)
  | image i => some (.revision i.revision)

/-- The columns take what may replace a row. -/
def storable : Asked → Bool
  | code hwCode platform description modules =>
    HardwareCode.insertable ⟨hwCode, platform, description, modules, 0, 0⟩
  | revision hwCode hwRev description nominal notes =>
    HardwareRevision.insertable ⟨hwCode, hwRev, description, nominal, notes, 0, 0⟩
  | image i => !i.overwrite || firmwareInsertable i.version "" i.md5 i.notes i.content.length

end Asked

def Done (env : Env) (w v : World) : Asked → Prop
  | .code hwCode platform description modules => v = w.apply (.putHardwareCode
      (codeRow env (w.db.hardwareCodes.get? hwCode) hwCode platform description modules))
  | .revision hwCode hwRev description nominal notes => v = w.apply (.putRevision
      (revisionRow env (w.db.hardwareRevisions.get? (hwCode, hwRev)) hwCode hwRev description nominal notes))
  | .image i =>
    ((firmwareOf w.db i.revision i.version).isSome = true ∧ i.overwrite = false ∧ v = w) ∨
    ((firmwareOf w.db i.revision i.version).isSome = true → i.overwrite = true) ∧ ∃ file,
      placement env (i.upload w.db) (withoutImage w (i.upload w.db).existing).media = .ok file ∧
        v = (i.upload w.db).publish env file w

theorem outcome_publish_code (env : Env) (hwCode platform description : String)
    (modules : List String) (w : World) :
    outcome ((Asked.code hwCode platform description modules).publish env) w =
      let row := codeRow env (w.db.hardwareCodes.get? hwCode) hwCode platform description modules
      if row.insertable then
        (.ok (.hardwareCode row (w.db.hardwareCodes.get? hwCode).isNone), w.apply (.putHardwareCode row))
      else (.error .dataError, w) := by
  unfold Asked.publish
  rw [outcome_bind_ok (outcome_read _ w)]
  dsimp only
  split <;> rfl

theorem outcome_publish_revision {hwCode : String} {w : World} {code : HardwareCode}
    (known : w.db.hardwareCodes.get? hwCode = some code) (env : Env) (hwRev : Nat) (description : String)
    (nominal : Option PyFloat) (notes : String) :
    outcome ((Asked.revision hwCode hwRev description nominal notes).publish env) w =
      let row := revisionRow env (w.db.hardwareRevisions.get? (hwCode, hwRev)) hwCode hwRev description
        nominal notes
      if row.insertable then (.ok (.hardwareRevision row (w.db.hardwareRevisions.get? (hwCode, hwRev)).isNone),
        w.apply (.putRevision row))
      else (.error .dataError, w) := by
  unfold Asked.publish
  rw [outcome_bind_ok (outcome_read _ w), known]
  dsimp only
  rw [outcome_bind_ok (outcome_read _ w)]
  split <;> rfl

theorem insertable_of_placement {env : Env} {u : Upload} {media : Media} {file : String}
    (placed : placement env u media = .ok file) :
    firmwareInsertable u.version "" u.md5 u.notes u.content.length = true := by
  unfold placement at placed
  split at placed
  · cases placed
  · split at placed
    · cases placed
    · cases placed
    · split at placed
      · cases placed
      · next taken =>
        simp only [firmwareInsertable, Bool.not_eq_true', Bool.not_eq_false, Bool.and_eq_true] at taken ⊢
        exact ⟨⟨⟨⟨taken.1.1.1.1, by decide⟩, taken.1.1.2⟩, taken.1.2⟩, taken.2⟩

theorem done_of_answered {env : Env} {a : Asked} {w : World}
    (ok : completed (outcome (a.publish env) w).1 = true) :
    a.storable = true ∧ (∀ k, a.parent = some k → (w.entry k).isSome = true) ∧
      Done env w (after (a.publish env) w) a := by
  unfold after
  cases a with
  | code hwCode platform description modules =>
    rw [outcome_publish_code] at ok ⊢
    dsimp only at ok ⊢
    split at ok
    · next taken => exact ⟨taken, (fun _ named => by cases named), by rw [if_pos taken]; rfl⟩
    · cases ok
  | revision hwCode hwRev description nominal notes =>
    cases known : w.db.hardwareCodes.get? hwCode with
    | none =>
      unfold Asked.publish at ok
      rw [outcome_bind_ok (outcome_read _ w), known] at ok
      cases ok
    | some code =>
      rw [outcome_publish_revision known] at ok ⊢
      dsimp only at ok ⊢
      split at ok
      · next taken =>
        refine ⟨taken, fun k named => ?_, by rw [if_pos taken]; rfl⟩
        cases named
        rw [World.entry, known]
        rfl
      · cases ok
  | image i =>
    cases known : w.db.hardwareRevisions.get? i.revision with
    | none =>
      unfold Asked.publish at ok
      rw [outcome_bind_ok (outcome_read _ w), known] at ok
      cases ok
    | some rev =>
      have registered : ∀ k, (Asked.image i).parent = some k → (w.entry k).isSome = true := by
        intro k named
        cases named
        rw [World.entry, known]
        rfl
      rw [outcome_publish_image known] at ok ⊢
      split at ok
      · next conflict =>
        rw [Bool.and_eq_true, Bool.not_eq_true'] at conflict
        exact ⟨by simp [Asked.storable, conflict.2], registered,
          .inl ⟨conflict.1, conflict.2, by rw [if_pos (by simp [conflict])]⟩⟩
      · next free =>
        rw [if_neg free]
        have replaced := outcome_replace (i.upload w.db) env w
        cases placed : placement env (i.upload w.db) (withoutImage w (i.upload w.db).existing).media with
        | error failure =>
          rw [placed] at replaced
          rw [outcome_bind_error replaced] at ok
          cases ok
        | ok file =>
          rw [placed] at replaced
          rw [outcome_bind_ok replaced]
          refine ⟨?_, registered, .inr ⟨?_, file, placed, rfl⟩⟩
          · have taken := insertable_of_placement placed
            rw [Asked.storable, Bool.or_eq_true]
            exact .inr taken
          · intro present
            simpa [present] using free

/-- A file name is found, the disk takes the image and the database its row. -/
def Image.fits (i : Image) (env : Env) (w : World) : Bool :=
  env.diskFull.isNone && env.commit &&
    (storageName env (withoutImage w (firmwareOf w.db i.revision i.version)).media i.revision i.version).any
      (varchar 100)

theorem placement_of_fits {i : Image} {env : Env} {w : World} (fits : i.fits env w = true)
    (taken : firmwareInsertable i.version "" i.md5 i.notes i.content.length = true) :
    ∃ file, placement env (i.upload w.db) (withoutImage w (i.upload w.db).existing).media = .ok file := by
  simp only [Image.fits, Bool.and_eq_true, Option.isNone_iff_eq_none] at fits
  obtain ⟨⟨disk, commit⟩, name⟩ := fits
  unfold placement
  change (storageName env (withoutImage w (i.upload w.db).existing).media (i.upload w.db).revision
    (i.upload w.db).version).any (varchar 100) = true at name
  split
  · next none =>
    rw [none] at name
    cases name
  · next file given =>
    rw [given] at name
    rw [disk, commit]
    refine ⟨file, ?_⟩
    have accepted : firmwareInsertable i.version file i.md5 i.notes i.content.length = true := by
      simp only [firmwareInsertable, Bool.and_eq_true] at taken ⊢
      exact ⟨⟨⟨⟨taken.1.1.1.1, name⟩, taken.1.1.2⟩, taken.1.2⟩, taken.2⟩
    simp [Image.upload, accepted]

theorem answered_of_present {env : Env} {a : Asked} {w : World} (storable : a.storable = true)
    (registered : ∀ k, a.parent = some k → (w.entry k).isSome = true) (present : (w.entry a.key).isSome = true)
    (fits : ∀ i, a = .image i → i.overwrite = true → i.fits env w = true) :
    completed (outcome (a.publish env) w).1 = true := by
  cases a with
  | code hwCode platform description modules =>
    have taken : (codeRow env (w.db.hardwareCodes.get? hwCode) hwCode platform description modules).insertable =
        true := storable
    rw [outcome_publish_code]
    dsimp only
    rw [if_pos taken]
    cases w.db.hardwareCodes.get? hwCode <;> rfl
  | revision hwCode hwRev description nominal notes =>
    have code := registered _ rfl
    rw [World.entry, Option.isSome_map, Option.isSome_iff_exists] at code
    obtain ⟨code, known⟩ := code
    have taken : (revisionRow env (w.db.hardwareRevisions.get? (hwCode, hwRev)) hwCode hwRev description nominal
        notes).insertable = true := storable
    rw [outcome_publish_revision known]
    dsimp only
    rw [if_pos taken]
    cases w.db.hardwareRevisions.get? (hwCode, hwRev) <;> rfl
  | image i =>
    have revision := registered _ rfl
    rw [World.entry, Option.isSome_map, Option.isSome_iff_exists] at revision
    obtain ⟨rev, known⟩ := revision
    rw [Asked.key, World.entry, Option.isSome_map, Option.isSome_iff_exists] at present
    obtain ⟨old, held⟩ := present
    rw [outcome_publish_image known, held]
    cases again : i.overwrite with
    | false => rfl
    | true =>
      have taken : firmwareInsertable i.version "" i.md5 i.notes i.content.length = true := by
        simpa [Asked.storable, again] using storable
      obtain ⟨file, placed⟩ := placement_of_fits (fits i rfl again) taken
      have replaced := outcome_replace (i.upload w.db) env w
      rw [placed] at replaced
      rw [if_neg (by simp), outcome_bind_ok replaced]
      rfl

end SensorServer
