import SensorServer.Commands
import SensorServer.Tolerance
import SensorServer.WakeUp

/-! The calibration mirror and the store of the device: what a re-push writes into an
empty store, and whether it is what the calibration forms last sent. -/
namespace SensorServer
open Program

def storeEntry (command : Json) : Option (String × Json) :=
  match commandGet command "action", commandGet command "value" with
  | some (.str action), some value =>
    if action = "set_offset" then
      match commandGet command "metric" with
      | some (.str metric) => some ("cal_" ++ metric, value)
      | _ => none
    else if action = "set_calibration" then
      match commandGet command "key" with
      | some (.str key) => some (key, value)
      | _ => none
    else none
  | _, _ => none

def execute (store : Fields) (command : Json) : Fields :=
  match storeEntry command with
  | some (key, value) => Dict.set store key value
  | none => store

theorem append_pyDrop {key : String} (offset : pyStartsWith key "cal_" = true) : "cal_" ++ pyDrop 4 key = key := by
  obtain ⟨rest, split⟩ := List.isPrefixOf_iff_prefix.mp offset
  apply String.toList_inj.mp
  rw [String.toList_append, pyDrop, String.toList_ofList, ← split]
  simp

@[simp] theorem storeEntry_repushCommand (key : String) (value : Json) :
    storeEntry (repushCommand key value) = some (key, value) := by
  unfold repushCommand
  split
  · next offset => exact congrArg (fun k => some (k, value)) (append_pyDrop offset)
  · rfl

theorem set_absent {fields : Fields} {key : String} (value : Json) (absent : key ∉ Dict.keys fields) :
    Dict.set fields key value = fields ++ [(key, value)] := by
  induction fields with
  | nil => rfl
  | cons entry rest ih =>
    obtain ⟨k, v⟩ := entry
    simp only [Dict.keys, List.map_cons, List.mem_cons, not_or] at absent
    have other : ¬ k = key := fun same => absent.1 same.symm
    rw [Dict.set, if_neg other, ih absent.2]
    rfl

theorem run_execute_repush {entries store : Fields} (fresh : (Dict.keys (store ++ entries)).Nodup) :
    Run.run execute store (entries.map (fun kv => repushCommand kv.1 kv.2)) = store ++ entries := by
  induction entries generalizing store with
  | nil => simp
  | cons entry rest ih =>
    have absent : entry.1 ∉ Dict.keys store := by
      rw [Dict.keys, List.map_append, List.map_cons] at fresh
      exact fun member => (List.nodup_append.mp fresh).2.2 _ member _ List.mem_cons_self rfl
    have step : execute store (repushCommand entry.1 entry.2) = store ++ [entry] := by
      rw [execute, storeEntry_repushCommand]
      exact set_absent entry.2 absent
    rw [List.map_cons, Run.run_cons, step, ih (by simpa using fresh), List.append_assoc, List.singleton_append]

/-- The commands of a re-push write exactly the mirror. -/
theorem repush_restores {env : Env} {device : Device} {w : World} (dict : (Dict.keys device.calibration).Nodup)
    (numbers : ∀ kv ∈ device.calibration, kv.2.isNumber = true) :
    ∃ sent, (after (repushCalibration env device) w).published = w.published ++ sent ∧
      (∀ p ∈ sent, p.topic = commandTopic device) ∧
      Run.run execute [] (sent.map Publication.payload) = device.calibration := by
  obtain ⟨v, sent, run, -, published, contents⟩ := outcome_repush env device w
  have all : device.calibration.filter (fun kv => kv.2.isNumber) = device.calibration :=
    List.filter_eq_self.mpr numbers
  rw [repushes, all] at contents
  refine ⟨sent, (congrArg (fun r => r.2.published) run).trans published, fun p member => ?_, ?_⟩
  · have listed := List.mem_map_of_mem (f := Publication.content) member
    rw [contents] at listed
    obtain ⟨kv, -, same⟩ := List.mem_map.mp listed
    exact (congrArg Prod.fst same).symm
  · have payloads := congrArg (List.map Prod.snd) contents
    rw [List.map_map, List.map_map] at payloads
    have sets : sent.map Publication.payload = device.calibration.map (fun kv => repushCommand kv.1 kv.2) :=
      payloads
    rw [sets, run_execute_repush (by simpa using dict), List.nil_append]

/-- A call of one of the two calibration views. -/
structure CalibrationCall where
  env : Env
  request : Request
  deviceId : String
  generic : Bool

def CalibrationCall.view (c : CalibrationCall) : DeviceView := if c.generic then .setCalibration else .calibration

/-- The state, and the entries the broker took for the devices so far. -/
structure Calibrating where
  world : World
  told : List (String × String × Json) := []

def takenEntries (sent : List Publication) : List (String × Json) :=
  sent.filterMap (fun p => if p.delivered then storeEntry p.payload else none)

def CalibrationCall.step (s : Calibrating) (c : CalibrationCall) : Calibrating where
  world := after (c.view.run c.env c.request c.deviceId) s.world
  told := s.told ++ (takenEntries ((after (c.view.run c.env c.request c.deviceId) s.world).published.drop
    s.world.published.length)).map (fun entry => (c.deviceId, entry))

def Calibrating.lastTold (s : Calibrating) (id key : String) : Option Json :=
  (s.told.filterMap (fun entry =>
    if entry.1 = id ∧ entry.2.1 = key then some entry.2.2 else none)).getLast?

def repushedValue (device : Device) (key : String) : Option Json :=
  ((repushes device).filterMap (fun content => storeEntry content.2)).lookup key

/-- A re-push sends for each key the value last published for it. -/
def Calibrating.RepushesLast (s : Calibrating) : Prop :=
  ∀ id device, s.world.device? id = some device → ∀ key value, s.lastTold id key = some value →
    repushedValue device key = some value

/-- The form is refused, the broker does not take the message, or the number is finite. -/
def CalibrationCall.SendsFinite (s : Calibrating) (c : CalibrationCall) : Prop :=
  ∀ device, s.world.device? c.deviceId = some device →
    (submission c.env c.request device c.view).isSome = true → c.env.broker s.world.published.length = true →
      ∀ f, c.env.floatOfStr (QueryDict.get c.request.post "value" "0") = some f → f.isFinite = true

/-- The stored mirrors are such as the database holds. -/
def Calibrating.Stored (s : Calibrating) : Prop :=
  ∀ id device, s.world.device? id = some device → storableFields device.calibration = true

section Values
variable {device : Device}

theorem repushedValue_eq (key : String) :
    repushedValue device key = (device.calibration.filter (fun kv => kv.2.isNumber)).lookup key := by
  unfold repushedValue repushes
  rw [List.filterMap_map]
  refine congrArg (List.lookup key) ?_
  conv_rhs => rw [← List.filterMap_some (l := device.calibration.filter (fun kv => kv.2.isNumber))]
  refine List.filterMap_congr (fun kv _ => ?_)
  exact storeEntry_repushCommand kv.1 kv.2

theorem lookup_numbers_set (fields : Fields) (key other : String) {value : Json} (number : value.isNumber = true) :
    ((Dict.set fields key value).filter (fun kv => kv.2.isNumber)).lookup other =
      if other = key then some value else (fields.filter (fun kv => kv.2.isNumber)).lookup other := by
  induction fields with
  | nil =>
    by_cases same : other = key <;> simp [Dict.set, number, List.lookup_cons, same, beq_false_of_ne]
  | cons entry rest ih =>
    obtain ⟨k, v⟩ := entry
    by_cases hit : k = key
    · subst hit
      rw [Dict.set, if_pos rfl, List.filter_cons, if_pos number, List.lookup_cons]
      by_cases same : other = k
      · simp [same]
      · by_cases kept : v.isNumber = true <;> simp [kept, same, List.lookup_cons, beq_false_of_ne same]
    · rw [Dict.set, if_neg hit, List.filter_cons, List.filter_cons]
      split
      · rw [List.lookup_cons, List.lookup_cons, ih]
        by_cases same : other = key
        · subst same
          rw [beq_false_of_ne (Ne.symm hit), if_pos rfl]
        · rw [if_neg same, if_neg same]
      · exact ih

end Values

section Call
variable {s : Calibrating} {c : CalibrationCall} {device : Device}

theorem isFinite_round (digits : Nat) (f : PyFloat) : (f.round digits).isFinite = f.isFinite := by
  cases f <;> rfl

theorem submission_sends {sub : Submission} (accepted : submission c.env c.request device c.view = some sub) :
    ∃ key f value, c.env.floatOfStr (QueryDict.get c.request.post "value" "0") = some f ∧
      value.isFinite = f.isFinite ∧ sub.entry = some (key, value) ∧
      storeEntry sub.command = some (key, .float value) ∧ nulFree key = true ∧
      (recordable sub.command ↔ value.isFinite = true) := by
  unfold CalibrationCall.view at accepted
  split at accepted
  · unfold submission at accepted
    dsimp only at accepted
    split at accepted
    · next allowed =>
      obtain ⟨f, parsed, rfl⟩ := Option.map_eq_some_iff.mp accepted
      simp only [Bool.and_eq_true] at allowed
      have name := nulFree_safeIdentifier allowed.2.1
      refine ⟨_, f, f.round 4, parsed, isFinite_round 4 f, rfl, rfl, name, ?_⟩
      simp [recordable, Json.storable, storableFields, name, show nulFree "action" = true by decide,
        show nulFree "set_calibration" = true by decide, show nulFree "key" = true by decide,
        show nulFree "value" = true by decide]
    · cases accepted
  · unfold submission at accepted
    dsimp only at accepted
    split at accepted
    · next allowed =>
      obtain ⟨f, parsed, rfl⟩ := Option.map_eq_some_iff.mp accepted
      simp only [Bool.and_eq_true, decide_eq_true_eq] at allowed
      have names : ∀ metric ∈ calibrationMetrics, nulFree metric = true := by decide
      have name := names _ allowed.2
      refine ⟨_, f, f.round 2, parsed, isFinite_round 2 f, rfl, rfl, nulFree_append (by decide) name, ?_⟩
      simp [recordable, Json.storable, storableFields, name, show nulFree "action" = true by decide,
        show nulFree "set_offset" = true by decide, show nulFree "metric" = true by decide,
        show nulFree "value" = true by decide]
    · cases accepted

theorem after_devicePost_kept {minimum : Role} {request : Request} {deviceId : String}
    {view : Device → Act Response}
    {w : World} (inside : ∀ device, w.device? deviceId = some device → request.user.may minimum = true →
      request.isPost = true → after (view device) w = w) :
    after (roleRequired minimum request (getDeviceOr404 deviceId fun device => postOnly request (view device))) w =
      w := by
  rw [roleRequired_eq]
  split
  · next admitted =>
    unfold getDeviceOr404
    rw [after_read_bind]
    cases known : w.device? deviceId with
    | none => rfl
    | some device =>
      dsimp only
      cases post : request.isPost with
      | false => simp [postOnly, post]
      | true => simpa [postOnly, post] using inside device known admitted post
  · rfl

theorem after_refused_call {w : World}
    (refused : ∀ device, w.device? c.deviceId = some device → submission c.env c.request device c.view = none) :
    after (c.view.run c.env c.request c.deviceId) w = w := by
  unfold CalibrationCall.view at refused ⊢
  split
  · next generic =>
    refine after_devicePost_kept (fun device known admitted post => ?_)
    have none_ := refused device known
    simp only [generic, if_true, submission, admitted, post, Bool.true_and] at none_
    dsimp only
    split
    · rfl
    · next valid =>
      simp only [Bool.or_eq_true, Bool.not_eq_true', decide_eq_true_eq, not_or, Bool.not_eq_false,
        not_lt] at valid
      rw [if_pos (by simp [valid.1, valid.2])] at none_
      split
      · rfl
      · next f parsed => simp [parsed] at none_
  · next offset =>
    refine after_devicePost_kept (fun device known admitted post => ?_)
    have none_ := refused device known
    simp only [offset, submission, admitted, post, Bool.true_and] at none_
    dsimp only
    split
    · rfl
    · next valid =>
      rw [not_not] at valid
      simp only [valid, decide_true, if_true] at none_
      split
      · rfl
      · next f parsed => simp [parsed] at none_

/-- What a call does to the mirrors, and what the broker took of it. -/
inductive CallResult (s : Calibrating) (c : CalibrationCall) (v : Calibrating) : Prop where
  | quiet (finite : c.SendsFinite s) (rows : ∀ id, v.world.device? id = s.world.device? id) (told : v.told = s.told)
  /-- sent, but not logged and so not mirrored -/
  | lost (device : Device) (key : String) (value : PyFloat) (infinite : ¬ c.SendsFinite s)
      (known : s.world.device? c.deviceId = some device) (number : value.isFinite = false)
      (rows : ∀ id, v.world.device? id = s.world.device? id)
      (told : v.told = s.told ++ [(c.deviceId, key, .float value)])
  | mirrored (device : Device) (key : String) (value : PyFloat) (finite : c.SendsFinite s)
      (known : s.world.device? c.deviceId = some device) (number : value.isFinite = true) (name : nulFree key = true)
      (own : v.world.device? c.deviceId = some (entered device key value))
      (others : ∀ id, id ≠ c.deviceId → v.world.device? id = s.world.device? id)
      (told : v.told = s.told ++ [(c.deviceId, key, .float value)])

theorem copyFields_entered (key : String) (value : PyFloat) :
    (entered device key value).copyFields [.calibration] device = entered device key value := by
  simp only [Device.copyFields, List.foldl_cons, List.foldl_nil, Device.copyField, entered]

theorem takenEntries_form {w v : World} {command : Json} {key : String} {value : Json}
    (entry : storeEntry command = some (key, value))
    (published : v.published = (sentWorld c.env w device command).published) :
    takenEntries (v.published.drop w.published.length) =
      if c.env.broker w.published.length then [(key, value)] else [] := by
  rw [published, show (sentWorld c.env w device command).published =
    w.published ++ [formMessage c.env w device command] from rfl, List.drop_left]
  cases taken : c.env.broker w.published.length <;> simp [takenEntries, formMessage, taken, entry]

theorem told_step {command : Json} {key : String} {value : Json} (sets : storeEntry command = some (key, value))
    (published : (after (c.view.run c.env c.request c.deviceId) s.world).published =
      (sentWorld c.env s.world device command).published) :
    (CalibrationCall.step s c).told =
      s.told ++ if c.env.broker s.world.published.length then [(c.deviceId, key, value)] else [] := by
  rw [CalibrationCall.step, takenEntries_form sets published]
  split <;> rfl

theorem sendsFinite_iff {sub : Submission} {f : PyFloat} (known : s.world.device? c.deviceId = some device)
    (accepted : submission c.env c.request device c.view = some sub)
    (parsed : c.env.floatOfStr (QueryDict.get c.request.post "value" "0") = some f) :
    c.SendsFinite s ↔ (c.env.broker s.world.published.length = true → f.isFinite = true) := by
  constructor
  · intro finite taken
    exact finite device known (by rw [accepted]; rfl) taken f parsed
  · intro finite other _ _ taken g reads
    rw [parsed] at reads
    cases reads
    exact finite taken

theorem device?_mirrored {command : Json} {user : User} {key : String} {value : PyFloat}
    (known : s.world.device? c.deviceId = some device) :
    let v := (loggedWorld c.env s.world device command user).apply
      (.saveDevice (entered device key value) [.calibration])
    v.device? c.deviceId = some (entered device key value) ∧
      ∀ id, id ≠ c.deviceId → v.device? id = s.world.device? id := by
  have named : (entered device key value).deviceId = device.deviceId := rfl
  have known' : (loggedWorld c.env s.world device command user).device? c.deviceId = some device := known
  constructor
  · rw [device?_saved known' named, copyFields_entered]
  · intro id other
    rw [device?_saveDevice]
    change (s.world.device? id).map _ = _
    cases found : s.world.device? id with
    | none => rfl
    | some row =>
      have apart : ¬ row.deviceId = (entered device key value).deviceId := by
        rw [Table.key_get? found, named, Table.key_get? known]
        exact other
      rw [Option.map_some, if_neg apart]

theorem quiet_call
    (refused : ∀ device, s.world.device? c.deviceId = some device →
      submission c.env c.request device c.view = none) : CallResult s c (CalibrationCall.step s c) := by
  have still := after_refused_call refused
  refine .quiet ?_ (fun id => ?_) ?_
  · intro device known sends
    rw [refused device known] at sends
    cases sends
  · rw [CalibrationCall.step, still]
  · rw [CalibrationCall.step, still]
    simp [takenEntries]

theorem step_result (stored : s.Stored) : CallResult s c (CalibrationCall.step s c) := by
  by_cases accepted : ∃ device sub, s.world.device? c.deviceId = some device ∧
      submission c.env c.request device c.view = some sub
  swap
  · refine quiet_call (fun device known => ?_)
    exact Option.eq_none_iff_forall_ne_some.mpr (fun sub some_ => accepted ⟨device, sub, known, some_⟩)
  obtain ⟨device, sub, known, accepted⟩ := accepted
  obtain ⟨key, f, value, parsed, same, entry, sets, name, recorded⟩ := submission_sends accepted
  have ran := (after_accepted known accepted).2 key value entry
  have sends := sendsFinite_iff known accepted parsed
  by_cases both : c.env.broker s.world.published.length = true ∧ recordable sub.command
  · -- published, logged and mirrored
    obtain ⟨taken, valid⟩ := both
    have number := recorded.mp valid
    have pushed := @pushCalibration_recorded c.env c.request device s.world sub.command key value taken valid
    have kept : [DeviceField.calibration].all (entered device key value).accepts = true := by
      simp only [List.all_cons, List.all_nil, Bool.and_true]
      exact storableFields_set (stored _ device known) name number
    rw [saveReport_some, if_pos kept] at pushed
    rw [pushed] at ran
    obtain ⟨own, others⟩ := @device?_mirrored s c device sub.command c.request.user key value known
    refine .mirrored device key value (sends.mpr (fun _ => same ▸ number)) known number name ?_ ?_ ?_
    · rw [CalibrationCall.step, ran, own]
    · intro id other
      rw [CalibrationCall.step, ran, others id other]
    · rw [told_step sets (by rw [ran]; rfl), if_pos taken]
  · -- at most published
    have pushed := @pushCalibration_sent c.env c.request device s.world sub.command key value both
    rw [pushed] at ran
    have rows : ∀ id, (CalibrationCall.step s c).world.device? id = s.world.device? id := by
      intro id
      rw [CalibrationCall.step, ran]
      rfl
    have told := told_step sets (congrArg World.published ran)
    by_cases taken : c.env.broker s.world.published.length = true
    · have number : value.isFinite = false := by
        rw [← Bool.not_eq_true, ← recorded]
        exact fun valid => both ⟨taken, valid⟩
      refine .lost device key value ?_ known number rows ?_
      · intro finite
        rw [same, sends.mp finite taken] at number
        cases number
      · rw [told, if_pos taken]
    · refine .quiet (sends.mpr (fun goes => absurd goes taken)) rows ?_
      rw [told, if_neg taken, List.append_nil]

end Call

section Runs
variable {s : Calibrating} {c : CalibrationCall}

theorem lastTold_append (told : List (String × String × Json)) (w v : World) (entry : String × String × Json)
    (id key : String) :
    (Calibrating.mk v (told ++ [entry])).lastTold id key =
      if entry.1 = id ∧ entry.2.1 = key then some entry.2.2 else (Calibrating.mk w told).lastTold id key := by
  unfold Calibrating.lastTold
  rw [List.filterMap_append]
  by_cases hit : entry.1 = id ∧ entry.2.1 = key <;> simp [hit]

theorem finite_of_repushed {device : Device} {key : String} {value : PyFloat}
    (stored : storableFields device.calibration = true) (sent : repushedValue device key = some (.float value)) :
    value.isFinite = true := by
  rw [repushedValue_eq] at sent
  have member := (List.mem_filter.mp (mem_of_lookup sent)).1
  have valid := (storableFields_iff.mp stored) _ member
  simp_all [Json.storable]

theorem stored_step (stored : s.Stored) : (CalibrationCall.step s c).Stored := by
  intro id device found
  cases step_result (c := c) stored with
  | quiet _ rows _ => exact stored id device (rows id ▸ found)
  | lost _ _ _ _ _ _ rows _ => exact stored id device (rows id ▸ found)
  | mirrored row key value _ known number name own others _ =>
    by_cases same : id = c.deviceId
    · subst same
      rw [own] at found
      cases found
      exact storableFields_set (stored _ row known) name number
    · exact stored id device (others id same ▸ found)

theorem repushesLast_step (stored : s.Stored) (last : s.RepushesLast) :
    (CalibrationCall.step s c).RepushesLast ↔ c.SendsFinite s := by
  have result := step_result (c := c) stored
  have kept := stored_step (c := c) stored
  generalize CalibrationCall.step s c = v at result kept
  obtain ⟨world, told⟩ := v
  cases result with
  | quiet finite rows same =>
    refine iff_of_true (fun id device found key value sent => ?_) finite
    dsimp only at same
    subst same
    exact last id device (rows id ▸ found) key value sent
  | lost device key value infinite known number rows same =>
    refine iff_of_false (fun holds => ?_) infinite
    dsimp only at same
    subst same
    have found : world.device? c.deviceId = some device := (rows c.deviceId).trans known
    have sent := holds c.deviceId device found key (.float value) (by
      rw [lastTold_append s.told s.world, if_pos ⟨rfl, rfl⟩])
    rw [finite_of_repushed (stored _ device known) sent] at number
    cases number
  | mirrored device key value finite known number name own others same =>
    refine iff_of_true (fun id row found k v sent => ?_) finite
    dsimp only at same
    subst same
    rw [lastTold_append s.told s.world] at sent
    by_cases here : id = c.deviceId
    · subst here
      dsimp only at own found
      rw [own] at found
      cases found
      rw [repushedValue_eq, entered, lookup_numbers_set _ _ _ rfl]
      by_cases hit : k = key
      · subst hit
        rw [if_pos ⟨rfl, rfl⟩] at sent
        rw [if_pos rfl]
        exact sent
      · rw [if_neg (fun both => hit both.2.symm)] at sent
        rw [if_neg hit, ← repushedValue_eq]
        exact last _ device known k v sent
    · rw [if_neg (fun both => here both.1.symm)] at sent
      exact last id row (others id here ▸ found) k v sent

/-- A re-push restores the mirror, and along a run of the forms it repeats the value last
published for each key exactly if every number the broker takes is finite. -/
theorem repush_repeats_iff (stored : s.Stored) (fresh : s.told = []) (calls : List CalibrationCall) :
    ((∀ (env : Env) (device : Device) (w : World), (Dict.keys device.calibration).Nodup →
        (∀ kv ∈ device.calibration, kv.2.isNumber = true) →
        ∃ sent, (after (repushCalibration env device) w).published = w.published ++ sent ∧
          (∀ p ∈ sent, p.topic = commandTopic device) ∧
          Run.run execute [] (sent.map Publication.payload) = device.calibration) ∧
      Run.Along CalibrationCall.step (fun s c => (CalibrationCall.step s c).RepushesLast) s calls) ↔
    Run.Along CalibrationCall.step (fun s c => c.SendsFinite s) s calls := by
  have start : s.Stored ∧ s.RepushesLast := by
    refine ⟨stored, fun id device found key value sent => ?_⟩
    simp [Calibrating.lastTold, fresh] at sent
  rw [and_iff_right (fun env device w dict numbers => repush_restores dict numbers)]
  have agree : ∀ (s : Calibrating) (c : CalibrationCall), s.Stored ∧ s.RepushesLast →
      ((CalibrationCall.step s c).RepushesLast ↔ c.SendsFinite s) :=
    fun s c holds => repushesLast_step holds.1 holds.2
  have preserved : ∀ (s : Calibrating) (c : CalibrationCall), s.Stored ∧ s.RepushesLast → c.SendsFinite s →
      (CalibrationCall.step s c).Stored ∧ (CalibrationCall.step s c).RepushesLast :=
    fun s c holds finite => ⟨stored_step holds.1, (agree s c holds).mpr finite⟩
  exact Run.along_iff agree preserved start

end Runs

/-- An admin sends a number through the offset form, or through the generic one. -/
def offsetCall (generic : Bool) (value : String) : CalibrationCall where
  env := { now := seconds 9, floatOfStr := fun s => if s = "nan" then some .nan else some (.finite 2) }
  request :=
    { user := { username := "ann", role := some .admin }
      post := [("metric", "temp"), ("key", "cal_temp"), ("value", value)] }
  deviceId := "living01"
  generic := generic

theorem offset_repeated :
    (∀ (env : Env) (device : Device) (w : World), (Dict.keys device.calibration).Nodup →
        (∀ kv ∈ device.calibration, kv.2.isNumber = true) →
        ∃ sent, (after (repushCalibration env device) w).published = w.published ++ sent ∧
          (∀ p ∈ sent, p.topic = commandTopic device) ∧
          Run.run execute [] (sent.map Publication.payload) = device.calibration) ∧
      Run.Along CalibrationCall.step (fun s c => (CalibrationCall.step s c).RepushesLast) ⟨oneDevice, []⟩
        [offsetCall false "2", offsetCall true "2"] := by
  have stored : Calibrating.Stored ⟨oneDevice, []⟩ := by
    intro id device found
    have rows : ∀ d ∈ oneDevice.db.devices.rows, storableFields d.calibration = true := by decide
    exact rows device (Table.get?_eq_some.mp found).1
  have two : ∀ (generic : Bool) (s : Calibrating), (offsetCall generic "2").SendsFinite s := by
    rintro generic s device - - - f number
    rw [show (offsetCall generic "2").env.floatOfStr _ = some (.finite 2) from rfl] at number
    cases number
    rfl
  exact (repush_repeats_iff stored rfl _).mpr ⟨two false _, two true _, trivial⟩

/-- After 2 a NaN: the device was sent the NaN, the re-push sends 2. -/
theorem nan_not_repeated :
    ¬ Run.Along CalibrationCall.step (fun s c => (CalibrationCall.step s c).RepushesLast) ⟨oneDevice, []⟩
      [offsetCall false "2", offsetCall false "nan"] := by
  rintro ⟨-, last, -⟩
  have sent := last "living01" { deviceId := "living01", createdAt := 0, calibration :=
    [("cal_temp", .float (.finite 2))] }
    (by decide +kernel) "cal_temp" (.float .nan) (by decide +kernel)
  exact absurd sent (by decide)

end SensorServer
