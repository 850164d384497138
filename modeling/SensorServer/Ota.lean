import Mathlib.Data.String.Basic
import SensorServer.Web

/-! The OTA services and the publication API (ota/services.py, ota/models.py,
ota/views.py A1 to A3). The file storage is Django's FileSystemStorage: it strips
the base name, and gives a taken name another one with a random suffix. -/
namespace SensorServer
open Program

def downloadPath (revision : String × Nat) (version : String) : String :=
  "/fw/" ++ revision.1 ++ "/" ++ toString revision.2 ++ "/" ++ version ++ ".bin"

def firmwareDownloadUrl (env : Env) (firmware : Firmware) : String :=
  env.otaBaseUrl ++ downloadPath firmware.hardwareRevision firmware.version

/-- The guards of send_ota_update: the text of the OtaError raised. -/
def otaGuard (env : Env) (device : Device) (firmware : Firmware) : Option String :=
  if !device.otaCapable then some "Device is not OTA-capable."
  else if device.hardwareCode ≠ some firmware.hardwareRevision.1 ∨
      device.hwRev ≠ some firmware.hardwareRevision.2 then
    some "Firmware is not compatible with the device (hw_code/hw_rev mismatch)."
  else if env.otaBaseUrl = "" then some "OTA_BASE_URL is not configured."
  else none

def otaCommand (env : Env) (firmware : Firmware) : Json :=
  .obj [("action", .str "ota_update"), ("value", .str (firmwareDownloadUrl env firmware)),
    ("md5", .str firmware.md5), ("ver", .str firmware.version),
    ("hw", .str firmware.hardwareRevision.1), ("hwrev", .int firmware.hardwareRevision.2)]

def sendOtaUpdate (env : Env) (device : Device) (firmware : Firmware) (sentBy : Option String) :
    Act Unit :=
  match otaGuard env device firmware with
  | some detail => fail (.otaError detail)
  | none => do
    mqttPublish env (commandTopic device) (otaCommand env firmware) false 1
    createCommandLog env device (otaCommand env firmware) sentBy

def compatibleFirmwares (db : Db) (device : Device) : List Firmware :=
  match device.hardwareCode, device.hwRev with
  | some code, some rev =>
    OrderBy.descending Firmware.uploadedAt
      (db.firmwares.rows.filter (fun f => f.hardwareRevision = (code, rev)))
  | _, _ => []

theorem otaGuard_spec {env : Env} {device : Device} {firmware : Firmware}
    (passes : otaGuard env device firmware = none) :
    device.otaCapable = true ∧ device.hardwareCode = some firmware.hardwareRevision.1 ∧
      device.hwRev = some firmware.hardwareRevision.2 := by
  unfold otaGuard at passes
  split at passes
  · cases passes
  · next capable =>
    split at passes
    · cases passes
    · next equal =>
      have same : device.hardwareCode = some firmware.hardwareRevision.1 ∧
          device.hwRev = some firmware.hardwareRevision.2 := by simpa using equal
      exact ⟨by simpa using capable, same⟩

theorem compatibleFirmwares_spec {db : Db} {device : Device} {firmware : Firmware}
    (listed : firmware ∈ compatibleFirmwares db device) :
    firmware ∈ db.firmwares.rows ∧ device.hardwareCode = some firmware.hardwareRevision.1 ∧
      device.hwRev = some firmware.hardwareRevision.2 := by
  unfold compatibleFirmwares at listed
  split at listed
  · next code rev named revision =>
    obtain ⟨present, pair⟩ := List.mem_filter.mp (OrderBy.mem_descending.mp listed)
    have equal : firmware.hardwareRevision = (code, rev) := by simpa using pair
    rw [named, revision, equal]
    exact ⟨present, rfl, rfl⟩
  · cases listed

/-- `[-\w.]` on the names met here, which are ASCII. -/
def fileNameChar (c : Char) : Bool := c.isAlphanum || c == '_' || c == '-' || c == '.'

/-- get_valid_name -/
def validName (name : String) : String :=
  String.ofList (((pyStrip name).toList.map (fun c => if c = ' ' then '_' else c)).filter fileNameChar)

def stored (media : List (String × List UInt8)) (name : String) : Bool := (media.lookup name).isSome

/-- get_available_name of `dir/name`: the first of the other names that is free, if it is taken. -/
def availableName (media : List (String × List UInt8)) (dir name : String) (others : List String) :
    Option String :=
  if stored media (dir ++ name) then (others.map (fun other => dir ++ other)).find? (fun file => !stored media file)
  else some (dir ++ name)

def uploadDir (revision : String × Nat) : String :=
  "fw/" ++ revision.1 ++ "/" ++ toString revision.2 ++ "/"

def firmwareUploadPath (revision : String × Nat) (version : String) : String :=
  uploadDir revision ++ (version ++ ".bin")

def storageName (env : Env) (media : List (String × List UInt8)) (revision : String × Nat) (version : String) :
    Option String :=
  let name := validName version ++ ".bin"
  availableName media (uploadDir revision) name (env.alternatives name)

/-- fw.file.save(f"{version}.bin", ...): the name given and the content written, as far as
the disk takes it. -/
def saveFile (env : Env) (revision : String × Nat) (version : String) (content : List UInt8) :
    Act String := do
  let media ← read World.media
  match storageName env media revision version with
  | none => fail .storage
  | some name => match env.diskFull with
    | none => do
      emit (.storeFile name content)
      pure name
    | some .nothing => fail .storage
    | some (.bytes count) => do
      -- the partial file is not removed
      emit (.storeFile name (content.take count))
      fail .storage

inductive Method where
  | get | post | put | other
  deriving DecidableEq, Repr

structure ApiRequest where
  method : Method
  bearer : String := ""
  body : Decoded := .value (.obj [])
  post : QueryDict := []
  query : QueryDict := []
  files : List (String × List UInt8) := []

inductive Reply where
  | error (status : Nat) (kind detail : String)
  | hardwareCode (row : HardwareCode) (created : Bool)
  | hardwareRevision (row : HardwareRevision) (created : Bool)
  | firmware (version file md5 : String) (size : Nat) (created : Bool)
  deriving DecidableEq

def apiBadRequest (detail : String) : Act Reply := pure (.error 400 "bad_request" detail)
def apiNotFound (detail : String) : Act Reply := pure (.error 404 "not_found" detail)

def publishTokenRequired (env : Env) (request : ApiRequest) (view : Act Reply) : Act Reply :=
  if env.otaPublishToken = "" then
    pure (.error 503 "publication_disabled" "OTA_PUBLISH_TOKEN is not configured.")
  else if request.bearer ≠ env.otaPublishToken then
    pure (.error 401 "unauthorized" "Invalid or missing publish token.")
  else view

def parseJsonBody (request : ApiRequest) (view : Fields → Act Reply) : Act Reply :=
  match request.body with
  | .value (.obj data) => view data
  | .uncaught => fail .decode
  | .value _ | .malformed => apiBadRequest "Body must be a JSON object."

def stringItems : List Json → Option (List String)
  | [] => some []
  | .str s :: rest => (stringItems rest).map (s :: ·)
  | _ :: _ => none

def HardwareCode.insertable (row : HardwareCode) : Bool :=
  varchar 8 row.hwCode && varchar 32 row.platform && varchar 256 row.description &&
  row.modules.all nulFree

def HardwareRevision.insertable (row : HardwareRevision) : Bool :=
  decide (row.hwRev ≤ Device.smallintMax) && varchar 256 row.description && nulFree row.notes

def hwCodeView (env : Env) (request : ApiRequest) (hwCode : String) : Act Reply :=
  publishTokenRequired env request <|
  if request.method ≠ .put then apiBadRequest "Use PUT to upsert a hardware code."
  else if !hwCodeRe hwCode then apiBadRequest "hw_code must match ^[A-Z0-9]{8}$."
  else parseJsonBody request fun data =>
    match (Dict.get? data "platform").getD (.str ""), (Dict.get? data "description").getD (.str "") with
    | .str platform, .str description =>
      match (Dict.get? data "modules").getD (.arr []) with
      | .arr items => match stringItems items with
        | some modules => do
          let existing ← read (fun w => w.db.hardwareCodes.get? hwCode)
          let row : HardwareCode :=
            ⟨hwCode, pyTake 32 platform, pyTake 256 description, modules,
              (existing.map HardwareCode.createdAt).getD env.now, env.now⟩
          (if row.insertable then emit (.putHardwareCode row) else fail .dataError)
          pure (.hardwareCode row existing.isNone)
        | none => apiBadRequest "'modules' must be a list of strings."
      | _ => apiBadRequest "'modules' must be a list of strings."
    | _, _ => apiBadRequest "'platform' and 'description' must be strings."

inductive Divider where
  | value (nominal : Option PyFloat)
  | notNumber
  | overflow

/-- `bat_divider_nominal`: null, or a number (a bool is an int). -/
def dividerOf : Json → Divider
  | .null => .value none
  | .bool b => .value (some (.finite (if b then 1 else 0)))
  | .int i => match PyFloat.ofInt i with
    | some f => .value (some f)
    | none => .overflow
  | .float f => .value (some f)
  | _ => .notNumber

def hwRevisionView (env : Env) (request : ApiRequest) (hwCode : String) (hwRev : Nat) : Act Reply :=
  publishTokenRequired env request <|
  if request.method ≠ .put then apiBadRequest "Use PUT to upsert a hardware revision."
  else if !hwCodeRe hwCode then apiBadRequest "hw_code must match ^[A-Z0-9]{8}$."
  else do
    let code ← read (fun w => w.db.hardwareCodes.get? hwCode)
    match code with
    | none => apiNotFound "Unknown hw_code; register it first (A1)."
    | some _ => parseJsonBody request fun data =>
      match (Dict.get? data "description").getD (.str ""), (Dict.get? data "notes").getD (.str "") with
      | .str description, .str notes =>
        match dividerOf ((Dict.get? data "bat_divider_nominal").getD .null) with
        | .notNumber => apiBadRequest "'bat_divider_nominal' must be a number."
        | .overflow => fail .conversion
        | .value nominal => do
          let existing ← read (fun w => w.db.hardwareRevisions.get? (hwCode, hwRev))
          let row : HardwareRevision :=
            ⟨hwCode, hwRev, pyTake 256 description, nominal, notes,
              (existing.map HardwareRevision.createdAt).getD env.now, env.now⟩
          (if row.insertable then emit (.putRevision row) else fail .dataError)
          pure (.hardwareRevision row existing.isNone)
      | _, _ => apiBadRequest "'description' and 'notes' must be strings."

def maxFirmwareSize : Nat := 8 * 1024 * 1024

def hexDigest (s : String) : Bool :=
  decide (s.toList.length = 32) && s.toList.all (fun c => c.isDigit || ('a' ≤ c && c ≤ 'f'))

/-- The uploaded file: field `firmware.bin`, else `file`. -/
def uploadOf (files : List (String × List UInt8)) : Option (List UInt8) :=
  (files.reverse.lookup "firmware.bin").or (files.reverse.lookup "file")

def firmwareInsertable (version file md5 notes : String) (size : Nat) : Bool :=
  varchar 32 version && varchar 100 file && varchar 32 md5 && nulFree notes &&
  decide (size ≤ Device.integerMax)

def firmwareOf (db : Db) (revision : String × Nat) (version : String) : Option Firmware :=
  db.firmwares.rows.find? (fun f => decide (f.hardwareRevision = revision) && decide (f.version = version))

/-- The transaction of _publish_firmware: the files it deletes and writes are not
part of the database and stay as they are when it fails. -/
def replaceImage (env : Env) (revision : String × Nat) (version md5 notes : String)
    (upload : List UInt8) (existing : Option Firmware) : Act String :=
  atomic (do
    forEach existing.toList (fun old => when (old.file ≠ "") (emit (.deleteFile old.file)))
    let file ← saveFile env revision version upload
    if !firmwareInsertable version file md5 notes upload.length then fail .dataError
    else do
      emit (match existing with
        | some old => .saveFirmware old.id file md5 upload.length notes
        | none => .addFirmware revision version file md5 upload.length env.now notes)
      if env.commit then pure file else fail .database)

def publishFirmware (env : Env) (request : ApiRequest) : Act Reply := do
  let hwCode := QueryDict.get request.post "hw_code" ""
  let version := QueryDict.get request.post "version" ""
  let md5 := (QueryDict.get request.post "md5" "").toLower
  let notes := QueryDict.get request.post "notes" ""
  if !hwCodeRe hwCode then apiBadRequest "hw_code must match ^[A-Z0-9]{8}$."
  else if !versionRe version then apiBadRequest "Invalid 'version'."
  else match env.intOfStr (QueryDict.get request.post "hw_rev" "") with
  | none => apiBadRequest "'hw_rev' must be an integer."
  | some hwRev =>
    if !hexDigest md5 then apiBadRequest "'md5' must be a 32-char hex digest."
    else match uploadOf request.files with
    | none => apiBadRequest "Missing firmware file (field 'firmware.bin')."
    | some upload =>
      if upload.length > maxFirmwareSize then apiBadRequest "Firmware exceeds the maximum size."
      else do
        let rev ← read (fun w =>
          if hwRev < 0 then none else w.db.hardwareRevisions.get? (hwCode, hwRev.toNat))
        match rev with
        | none => apiBadRequest "Unknown (hw_code, hw_rev); register them first (A1/A2)."
        | some rev =>
          if env.md5 upload ≠ md5 then
            apiBadRequest ("MD5 mismatch: announced " ++ md5 ++ ", computed " ++ env.md5 upload ++ ".")
          else do
            let overwrite := decide (QueryDict.get? request.query "overwrite" = some "true")
            let existing ← read (fun w => firmwareOf w.db rev.key version)
            if existing.isSome && !overwrite then
              pure (.error 409 "conflict"
                "This (hw_code, hw_rev, version) already exists. Use ?overwrite=true to replace.")
            else do
              let file ← replaceImage env rev.key version md5 notes upload existing
              pure (.firmware version file md5 upload.length existing.isNone)

def firmwaresView (env : Env) (request : ApiRequest) : Act Reply :=
  publishTokenRequired env request <|
  if request.method = .post then publishFirmware env request
  else apiBadRequest "Use GET to list or POST to publish."

def firmwareLatestView (env : Env) (request : ApiRequest) : Act Reply :=
  publishTokenRequired env request <|
  if request.method ≠ .get then apiBadRequest "Use GET."
  else
    let hwCode := QueryDict.get request.query "hw_code" ""
    let hwRev := QueryDict.get request.query "hw_rev" ""
    if hwCode = "" ∨ hwRev = "" then apiBadRequest "'hw_code' and 'hw_rev' are required."
    else match env.intOfStr hwRev with
    | none => apiBadRequest "'hw_rev' must be an integer."
    | some hwRevInt => do
      let fw ← read (fun w => (OrderBy.descending Firmware.uploadedAt (w.db.firmwares.rows.filter (fun f =>
        decide (f.hardwareRevision.1 = hwCode) && decide (f.hardwareRevision.2 = hwRevInt)))).head?)
      match fw with
      | none => apiNotFound "No firmware published for this (hw_code, hw_rev)."
      | some fw => pure (.firmware fw.version fw.file fw.md5 fw.size false)

/-- `rev.firmwares.all()`, in the order of the model. -/
def HardwareRevision.firmwares (db : Db) (rev : HardwareRevision) : List Firmware :=
  OrderBy.descending Firmware.uploadedAt (db.firmwares.rows.filter (fun f => f.hardwareRevision = rev.key))

def revisionImages (db : Db) (rev : HardwareRevision) : RevisionImages :=
  let firmwares := OrderBy.descending Firmware.uploadedAt (rev.firmwares db)
  ⟨rev, firmwares, firmwares.head?.map Firmware.id⟩

def codeImages (db : Db) (code : HardwareCode) : CodeImages :=
  let revisions := (OrderBy.ascending (fun r : HardwareRevision => r.hwRev)
    (db.hardwareRevisions.rows.filter (fun r => r.hardwareCode = code.hwCode))).map (revisionImages db)
  ⟨code, revisions, (db.devices.rows.filter (fun d => d.hardwareCode = some code.hwCode)).length,
    (revisions.map (fun r => r.firmwares.length)).sum⟩

def firmwareOverviewView (request : Request) : Act Response :=
  roleRequired .admin request do
    let groups ← read (fun w =>
      (OrderBy.lexicographic HardwareCode.hwCode w.db.hardwareCodes.rows).map (codeImages w.db))
    pure (.images groups)

end SensorServer
