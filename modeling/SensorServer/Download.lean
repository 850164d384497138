import SensorServer.Ota

/-! Where a published image is stored and what its download URL serves
(ota/views.py `_publish_firmware`, ota/models.py, ota/services.py): the two paths
are built apart, and the storage cleans only one of them. -/
namespace SensorServer
open Program

/-- nginx: `location /fw/ { alias /srv/media/fw/; }` -/
def servedAt (w : World) (path : String) : Option (List UInt8) :=
  if pyStartsWith path "/fw/" then w.media.lookup ("fw/" ++ pyDrop 4 path) else none

theorem toNat_of_isAlphanum {c : Char} (alnum : c.isAlphanum = true) : 48 ≤ c.toNat ∧ c.toNat ≤ 122 := by
  have classes : ((decide (c.val ≥ 'A'.val ∧ c.val ≤ 'Z'.val) ||
      decide (c.val ≥ 'a'.val) && decide (c.val ≤ 'z'.val)) ||
      decide (c.val ≥ '0'.val) && decide (c.val ≤ '9'.val)) = true := alnum
  simp only [Bool.or_eq_true, Bool.and_eq_true, decide_eq_true_eq] at classes
  have bounds : (65 ≤ c.toNat ∧ c.toNat ≤ 90 ∨ 97 ≤ c.toNat ∧ c.toNat ≤ 122) ∨
      48 ≤ c.toNat ∧ c.toNat ≤ 57 := classes
  omega

theorem fileNameChar_not_space {c : Char} (allowed : fileNameChar c = true) :
    pySpace c = false ∧ c ≠ ' ' := by
  have code : 33 ≤ c.toNat ∧ c.toNat ≤ 122 := by
    simp only [fileNameChar, Bool.or_eq_true, beq_iff_eq] at allowed
    rcases allowed with ((alnum | rfl) | rfl) | rfl
    · have bounds := toNat_of_isAlphanum alnum
      omega
    · decide
    · decide
    · decide
  constructor
  · unfold pySpace
    simp
    omega
  · rintro rfl
    exact absurd code.1 (by decide)

theorem pyStrip_eq_self {s : String} (clean : ∀ c ∈ s.toList, pySpace c = false) : pyStrip s = s := by
  have kept : ∀ {cs : List Char}, (∀ c ∈ cs, pySpace c = false) → cs.dropWhile pySpace = cs := by
    intro cs clean
    cases cs with
    | nil => rfl
    | cons c cs =>
      rw [List.dropWhile_cons, clean c List.mem_cons_self]
      rfl
  unfold pyStrip
  rw [kept clean, kept (by simpa using clean), List.reverse_reverse, String.ofList_toList]

theorem validName_eq_self_iff {name : String} :
    validName name = name ↔ name.toList.all fileNameChar = true := by
  constructor
  · intro same
    rw [← same]
    simp [validName]
  · intro clean
    rw [List.all_eq_true] at clean
    have spaces : name.toList.map (fun c => if c = ' ' then '_' else c) = name.toList :=
      (List.map_congr_left (fun c member => if_neg (fileNameChar_not_space (clean c member)).2)).trans
        (List.map_id' _)
    unfold validName
    rw [pyStrip_eq_self (fun c member => (fileNameChar_not_space (clean c member)).1), spaces,
      List.filter_eq_self.mpr clean, String.ofList_toList]

theorem versionRe_no_underscore {version : String} (accepted : versionRe version = true) :
    '_' ∉ version.toList :=
  not_mem_of_matchesClass accepted (by decide) (by decide)

/-- What get_alternative_name promises: an underscore and a random string before the extension. -/
def Env.Suffixes (env : Env) : Prop :=
  ∀ name, ∀ other ∈ env.alternatives name, ∃ root ext draw : String,
    name = root ++ ext ∧ other = root ++ "_" ++ draw ++ ext

theorem alternatives_ne {env : Env} (suffixes : env.Suffixes) {version : String}
    (accepted : versionRe version = true) {name other : String} (drawn : other ∈ env.alternatives name) :
    other ≠ version ++ ".bin" := by
  rintro rfl
  obtain ⟨root, ext, draw, -, suffixed⟩ := suffixes name _ drawn
  have member : '_' ∈ (version ++ ".bin").toList := by
    rw [suffixed]
    simp
  rw [String.toList_append, List.mem_append] at member
  rcases member with inside | final
  · exact versionRe_no_underscore accepted inside
  · exact absurd final (by decide)

theorem downloadPath_eq (revision : String × Nat) (version : String) :
    downloadPath revision version = "/" ++ firmwareUploadPath revision version := by
  apply String.toList_injective
  simp [downloadPath, firmwareUploadPath, uploadDir]

theorem servedAt_downloadPath (w : World) (revision : String × Nat) (version : String) :
    servedAt w (downloadPath revision version) = w.media.lookup (firmwareUploadPath revision version) := by
  have starts : pyStartsWith (downloadPath revision version) "/fw/" = true := by
    simp [pyStartsWith, downloadPath]
  have rest : "fw/" ++ pyDrop 4 (downloadPath revision version) = firmwareUploadPath revision version := by
    apply String.toList_injective
    simp [pyDrop, downloadPath, firmwareUploadPath, uploadDir]
  unfold servedAt
  rw [if_pos starts, rest]

theorem availableName_spec {media : List (String × List UInt8)} {dir name file : String}
    {others : List String} (given : availableName media dir name others = some file) :
    stored media file = false ∧ (file = dir ++ name ∨ ∃ other ∈ others, file = dir ++ other) := by
  unfold availableName at given
  split at given
  · have free := List.find?_some given
    obtain ⟨other, drawn, rfl⟩ := List.mem_map.mp (List.mem_of_find?_eq_some given)
    exact ⟨by simpa using free, .inr ⟨other, drawn, rfl⟩⟩
  · next free =>
    cases given
    exact ⟨by simpa using free, .inl rfl⟩

theorem outcome_saveFile_ok {env : Env} {revision : String × Nat} {version file : String}
    {content : List UInt8} {w v : World} :
    outcome (saveFile env revision version content) w = (.ok file, v) ↔
      storageName env w.media revision version = some file ∧
        env.diskFull = none ∧ v = w.apply (.storeFile file content) := by
  unfold saveFile
  rw [outcome_bind_ok (outcome_read World.media w)]
  cases storageName env w.media revision version with
  | none => simp
  | some name =>
    cases full : env.diskFull with
    | none =>
      dsimp only
      rw [outcome_bind_ok (outcome_emit (.storeFile name content) w), outcome_pure, Prod.mk.injEq,
        Except.ok.injEq, Option.some.injEq]
      constructor
      · rintro ⟨rfl, rfl⟩
        exact ⟨rfl, rfl, rfl⟩
      · rintro ⟨rfl, -, rfl⟩
        exact ⟨rfl, rfl⟩
    | some left =>
      refine iff_of_false ?_ (fun h => by cases h.2.1)
      cases left with
      | nothing => exact fun h => by cases h
      | bytes count => exact fun h => by cases h

def withoutImage (w : World) (existing : Option Firmware) : World :=
  existing.elim w (fun old => if old.file ≠ "" then w.apply (.deleteFile old.file) else w)

def rowSaved (env : Env) (revision : String × Nat) (version file md5 notes : String) (size : Nat) :
    Option Firmware → Effect
  | some old => .saveFirmware old.id file md5 size notes
  | none => .addFirmware revision version file md5 size env.now notes

theorem outcome_clearImage (existing : Option Firmware) (w : World) :
    outcome (forEach existing.toList (fun old => when (old.file ≠ "") (emit (.deleteFile old.file)))) w =
      (.ok (), withoutImage w existing) := by
  cases existing with
  | none => rfl
  | some old =>
    by_cases named : old.file = ""
    · simp [withoutImage, forEach, when, named]
    · simp [withoutImage, forEach, when, named, outcome_emit]

theorem outcome_replaceImage_ok {env : Env} {revision : String × Nat} {version md5 notes file : String}
    {upload : List UInt8} {existing : Option Firmware} {w v : World}
    (replaced : outcome (replaceImage env revision version md5 notes upload existing) w = (.ok file, v)) :
    storageName env (withoutImage w existing).media revision version = some file ∧
      v = ((withoutImage w existing).apply (.storeFile file upload)).apply
        (rowSaved env revision version file md5 notes upload.length existing) := by
  have inside := outcome_atomic_ok.mp replaced
  rw [outcome_bind_ok (outcome_clearImage existing w)] at inside
  obtain ⟨name, u, saved, rest⟩ := outcome_bind_eq_ok.mp inside
  obtain ⟨available, -, rfl⟩ := outcome_saveFile_ok.mp saved
  split at rest
  · cases rest
  · obtain ⟨⟨⟩, x, recorded, last⟩ := outcome_bind_eq_ok.mp rest
    have written := outcome_emit_eq_ok.mp recorded
    split at last
    · cases last
      cases existing <;> exact ⟨available, written⟩
    · cases last

theorem outcome_publishFirmware_ok {env : Env} {request : ApiRequest} {revision : String × Nat}
    {version file md5 : String} {upload : List UInt8} {size : Nat} {created : Bool} {w v : World}
    (code : QueryDict.get request.post "hw_code" "" = revision.1)
    (number : env.intOfStr (QueryDict.get request.post "hw_rev" "") = some (revision.2 : Int))
    (uploaded : uploadOf request.files = some upload)
    (published : outcome (publishFirmware env request) w = (.ok (.firmware version file md5 size created), v)) :
    versionRe version = true ∧
      outcome (replaceImage env revision version md5 (QueryDict.get request.post "notes" "") upload
        (firmwareOf w.db revision version)) w = (.ok file, v) := by
  unfold publishFirmware at published
  rw [number, uploaded, code] at published
  dsimp only at published
  split at published
  · cases published
  · split at published
    · cases published
    · next accepted =>
      split at published
      · cases published
      · split at published
        · cases published
        · rw [outcome_bind_ok (outcome_read _ w)] at published
          have found : (if (revision.2 : Int) < 0 then none
              else w.db.hardwareRevisions.get? (revision.1, (revision.2 : Int).toNat)) =
              w.db.hardwareRevisions.get? revision := by simp
          rw [found] at published
          split at published
          · cases published
          · next rev registered =>
            have key : rev.key = revision := Table.key_get? registered
            rw [key] at published
            split at published
            · cases published
            · rw [outcome_bind_ok (outcome_read _ w)] at published
              split at published
              · cases published
              · obtain ⟨name, t, replaced, last⟩ := outcome_bind_eq_ok.mp published
                cases last
                exact ⟨by simpa using accepted, replaced⟩

theorem firmwareOf_spec {db : Db} {revision : String × Nat} {version : String} {f : Firmware}
    (found : firmwareOf db revision version = some f) :
    f ∈ db.firmwares.rows ∧ f.hardwareRevision = revision ∧ f.version = version :=
  ⟨List.mem_of_find?_eq_some found, by simpa using List.find?_some found⟩

@[simp] theorem db_withoutImage (w : World) (existing : Option Firmware) :
    (withoutImage w existing).db = w.db := by
  cases existing with
  | none => rfl
  | some old =>
    unfold withoutImage
    dsimp only [Option.elim_some]
    split <;> rfl

def Unshared (w : World) (revision : String × Nat) (version file : String) : Prop :=
  ∀ f ∈ w.db.firmwares.rows, f.file = file → f.hardwareRevision = revision ∧ f.version = version

theorem unshared_rowSaved {env : Env} {w : World} {revision : String × Nat}
    {version file md5 notes : String} {size : Nat} {existing : Option Firmware}
    (found : firmwareOf w.db revision version = existing) :
    Unshared (w.apply (rowSaved env revision version file md5 notes size existing)) revision version file ↔
      Unshared w revision version file := by
  unfold Unshared
  cases existing with
  | none =>
    have rows : (w.apply (rowSaved env revision version file md5 notes size none)).db.firmwares.rows =
        w.db.firmwares.rows ++
          [⟨w.db.firmwares.next, revision, version, file, md5, size, env.now, notes⟩] := rfl
    rw [rows]
    constructor
    · exact fun all f member => all f (List.mem_append_left _ member)
    · intro all f member
      rcases List.mem_append.mp member with before | new
      · exact all f before
      · rw [List.mem_singleton.mp new]
        exact fun _ => ⟨rfl, rfl⟩
  | some old =>
    obtain ⟨present, ofRevision, ofVersion⟩ := firmwareOf_spec found
    have rows : (w.apply (rowSaved env revision version file md5 notes size (some old))).db.firmwares.rows =
        w.db.firmwares.rows.map (fun f => if f.id = old.id then
          { f with file := file, md5 := md5, size := size, notes := notes } else f) := by
      simp [rowSaved, World.apply, Serial.rows_update]
    have only : ∀ f ∈ w.db.firmwares.rows, f.id = old.id → f.hardwareRevision = revision ∧
        f.version = version := by
      intro f member same
      rw [Serial.eq_of_id w.db.firmwares member present same]
      exact ⟨ofRevision, ofVersion⟩
    rw [rows]
    constructor
    · intro all f member named
      by_cases same : f.id = old.id
      · exact only f member same
      · exact all f (List.mem_map.mpr ⟨f, member, if_neg same⟩) named
    · intro all g member named
      obtain ⟨f, before, rfl⟩ := List.mem_map.mp member
      by_cases same : f.id = old.id
      · rw [if_pos same]
        exact only f before same
      · rw [if_neg same] at named ⊢
        exact all f before named

/-- What the push relies on: the URL of the row names the file of the row, serves the
bytes uploaded for it, and no other row has that file. -/
structure Downloadable (w : World) (revision : String × Nat) (version file : String)
    (upload : List UInt8) : Prop where
  named : downloadPath revision version = "/" ++ file
  served : servedAt w (downloadPath revision version) = some upload
  unshared : Unshared w revision version file

/-- The version survives the storage unchanged, and the path asked for is free: no
file has it once the replaced image is gone, and no other row names it. -/
structure Placeable (w : World) (revision : String × Nat) (version : String) : Prop where
  plain : version.toList.all fileNameChar = true
  free : stored (withoutImage w (firmwareOf w.db revision version)).media
    (firmwareUploadPath revision version) = false
  unclaimed : Unshared w revision version (firmwareUploadPath revision version)

theorem downloadable_iff {env : Env} {request : ApiRequest} {revision : String × Nat}
    {version file md5 : String} {upload : List UInt8} {size : Nat} {created : Bool} {w v : World}
    (suffixes : env.Suffixes)
    (published : outcome (publishFirmware env request) w =
      (.ok (.firmware version file md5 size created), v))
    (code : QueryDict.get request.post "hw_code" "" = revision.1)
    (number : env.intOfStr (QueryDict.get request.post "hw_rev" "") = some (revision.2 : Int))
    (uploaded : uploadOf request.files = some upload) :
    Downloadable v revision version file upload ↔ Placeable w revision version := by
  obtain ⟨accepted, replaced⟩ := outcome_publishFirmware_ok code number uploaded published
  obtain ⟨available, written⟩ := outcome_replaceImage_ok replaced
  obtain ⟨free, name⟩ := availableName_spec available
  have served : v.media.lookup file = some upload := by
    have media : v.media = (withoutImage w (firmwareOf w.db revision version)).media ++ [(file, upload)] := by
      rw [written]
      cases firmwareOf w.db revision version <;> rfl
    have absent : (withoutImage w (firmwareOf w.db revision version)).media.lookup file = none := by
      simpa [stored] using free
    rw [media, List.lookup_append, absent]
    simp
  have shared : Unshared v revision version file ↔ Unshared w revision version file := by
    rw [written, unshared_rowSaved (by simp [World.apply])]
    simp [Unshared, World.apply]
  constructor
  · intro good
    have asked : file = firmwareUploadPath revision version := by
      have paths := good.named
      rw [downloadPath_eq] at paths
      exact ((String.append_right_inj _).mp paths).symm
    have root : validName version = version := by
      rcases name with direct | ⟨other, drawn, suffixed⟩
      · have names : validName version ++ ".bin" = version ++ ".bin" :=
          (String.append_right_inj _).mp (direct.symm.trans asked)
        exact (String.append_left_inj _).mp names
      · have names : other = version ++ ".bin" := (String.append_right_inj _).mp (suffixed.symm.trans asked)
        exact absurd names (alternatives_ne suffixes accepted drawn)
    exact ⟨validName_eq_self_iff.mp root, asked ▸ free, asked ▸ shared.mp good.unshared⟩
  · intro fits
    have root : validName version = version := validName_eq_self_iff.mpr fits.plain
    have asked : file = firmwareUploadPath revision version := by
      have free : ¬stored (withoutImage w (firmwareOf w.db revision version)).media
          (uploadDir revision ++ (version ++ ".bin")) = true := Bool.eq_false_iff.mp fits.free
      unfold storageName availableName at available
      rw [root, if_neg free] at available
      exact (Option.some.inj available).symm
    refine ⟨?_, ?_, shared.mpr (asked ▸ fits.unclaimed)⟩
    · rw [downloadPath_eq, asked]
    · rw [servedAt_downloadPath, ← asked]
      exact served

def stationWorld : World :=
  { World.empty with
    db.hardwareRevisions := Table.put (Table.empty _) ⟨"E32SHT40", 1, "", none, "", 0, 0⟩ }

def stationEnv : Env :=
  { now := 10
    intOfStr := fun s => if s = "1" then some 1 else none
    md5 := fun content =>
      if content = [1] then "55a54008ad1ba589aa210d2629c1df41" else "9e688c58a5487b8eaf69c9e1005ad0bf"
    alternatives := fun name => if name = "1.0a.bin" then ["1_kR7xQ2a.0a.bin"] else [] }

def publication (version : String) (image : UInt8) : ApiRequest :=
  { method := .post
    post := [("hw_code", "E32SHT40"), ("hw_rev", "1"), ("version", version),
      ("md5", stationEnv.md5 [image])]
    files := [("firmware.bin", [image])] }

theorem stationEnv_suffixes : stationEnv.Suffixes := by
  intro name other drawn
  simp only [stationEnv] at drawn
  split at drawn
  · next taken =>
    rw [taken, List.mem_singleton.mp drawn]
    exact ⟨"1", ".0a.bin", "kR7xQ2a", by decide, by decide⟩
  · exact absurd drawn List.not_mem_nil

theorem plainVersion_downloadable :
    Downloadable (after (publishFirmware stationEnv (publication "1.0" 1)) stationWorld) ("E32SHT40", 1)
        "1.0" "fw/E32SHT40/1/1.0.bin" [1] := by
  refine (downloadable_iff stationEnv_suffixes
    (outcome_of_toOption (a := Reply.firmware "1.0" "fw/E32SHT40/1/1.0.bin" (stationEnv.md5 [1]) 1 true)
      (by decide +kernel)) rfl rfl rfl).mpr ⟨by decide +kernel, by decide +kernel, ?_⟩
  intro f listed
  exact absurd listed List.not_mem_nil

/-- The image of 1.0+a is stored as 1.0a; that of 1.0a then gets a suffix, and its
URL serves the other one. -/
theorem plusVersion_misplaced :
    let w := after (publishFirmware stationEnv (publication "1.0+a" 1)) stationWorld
    let v := after (publishFirmware stationEnv (publication "1.0a" 2)) w
    (outcome (publishFirmware stationEnv (publication "1.0+a" 1)) stationWorld).1.toOption =
        some (.firmware "1.0+a" "fw/E32SHT40/1/1.0a.bin" (stationEnv.md5 [1]) 1 true) ∧
      ¬Downloadable w ("E32SHT40", 1) "1.0+a" "fw/E32SHT40/1/1.0a.bin" [1] ∧
      (outcome (publishFirmware stationEnv (publication "1.0a" 2)) w).1.toOption =
        some (.firmware "1.0a" "fw/E32SHT40/1/1_kR7xQ2a.0a.bin" (stationEnv.md5 [2]) 1 true) ∧
      servedAt v (downloadPath ("E32SHT40", 1) "1.0a") = some [1] := by
  refine ⟨by decide +kernel, fun good => ?_, by decide +kernel, by decide +kernel⟩
  exact absurd good.named (by decide +kernel)

end SensorServer
