import SensorServer.DeviceViews
import SensorServer.Footprint
import SensorServer.Lib.Overlap

/-! Two operations on one device row (devices/views.py, mqtt_bridge/services.py): each reads
the row, computes, and saves the fields it names, with no lock between. -/
namespace SensorServer
open Program Overlap

/-- The row; none once it is deleted. -/
abbrev Row := Option Device

/-- save(update_fields=...) -/
def saved (d : Device) (fields : List DeviceField) (row : Row) : Row := row.map (d.copyFields fields)

def editFields : List DeviceField :=
  [.displayName, .location, .locationType, .guestVisibleMetrics, .publishInterval, .batteryCellCount]

/-- What device_edit_view and the other three may save. -/
def contendedFields : List DeviceField := .isApproved :: .calibration :: editFields

/-- The form of device_edit_view; a number that does not parse leaves the stored one. -/
structure EditForm where
  displayName : String
  location : String
  locationType : String
  guestVisibleMetrics : List String
  interval : Option Nat
  cells : Option Nat

def EditForm.ofPost (env : Env) (post : QueryDict) : EditForm where
  displayName := QueryDict.get post "display_name" ""
  location := QueryDict.get post "location" ""
  locationType := QueryDict.get post "location_type" ""
  guestVisibleMetrics := QueryDict.getlist post "guest_visible_metrics"
  interval := (match QueryDict.get? post "publish_interval" with
    | none => some 0
    | some text => clampedInt env text 0 86400).map Int.toNat
  cells := (match QueryDict.get? post "battery_cell_count" with
    | none => some 1
    | some text => clampedInt env text 1 10).map Int.toNat

def EditForm.edited (form : EditForm) (device : Device) : Device :=
  { device with
    displayName := form.displayName
    location := form.location
    locationType := form.locationType
    guestVisibleMetrics := form.guestVisibleMetrics
    publishInterval := form.interval.getD device.publishInterval
    batteryCellCount := form.cells.getD device.batteryCellCount }

/-- An operation that gets as far as its saves, with the values it saves them with.
`quiet` is every other handler and view, whatever it computes; `remove` deletes the row. -/
inductive RowOp where
  | edit (form : EditForm)
  | approve (approved : Bool)
  | calibrate (key : String) (value : Json)
  | capabilities (known : String → Bool) (data : Fields)
  | report (mirror : Fields) (now : Time)
  | legacyAck (updates : Fields)
  | remove
  | quiet (saves : Device → List (Device × List DeviceField))
      (bounded : ∀ d, ∀ s ∈ saves d, ∀ f ∈ s.2, f ∉ contendedFields)

namespace RowOp

def writes : RowOp → Op Row
  | _, none => []
  | .edit form, some device => [saved (form.edited device) editFields]
  | .approve approved, some device => [saved { device with isApproved := approved } [.isApproved]]
  | .calibrate key value, some device =>
    [saved { device with calibration := Dict.set device.calibration key value } [.calibration]]
  | .capabilities known data, some device =>
    [saved (applyCapabilities known data device) capabilitiesFields]
  | .report mirror now, some device =>
    [saved { device with calibration := mirror, lastSeen := some now } [.calibration, .lastSeen]]
  | .legacyAck updates, some device =>
    [saved { device with calibration := Dict.update device.calibration updates } [.calibration]]
  | .remove, some _ => [fun _ => none]
  | .quiet saves _, some device => (saves device).map (fun s => saved s.1 s.2)

/-- device_edit_view, device_approve_view and the two calibration views. -/
def isForm : RowOp → Bool
  | .edit _ | .approve _ | .calibrate _ _ => true
  | _ => false

/-! What it sets of the values it writes back from the row it read: none if it does not
write the field at all, `some none` if it writes the value it read. -/

def interval? : RowOp → Option (Option Nat)
  | .edit form => some form.interval
  | .capabilities _ data => some (reportedInterval data)
  | _ => none

def cells? : RowOp → Option (Option Nat)
  | .edit form => some form.cells
  | _ => none

def mirror? : RowOp → Option (String → Option (Option Json))
  | .calibrate key value => some (fun k => if k = key then some (some value) else none)
  | .legacyAck updates => some (fun k => (Dict.get? updates.reverse k).map some)
  | .report mirror _ => some (fun k => some (Dict.get? mirror k))
  | _ => none

end RowOp

/-- What only one of the two sets is stored already. -/
def AlreadyStored {α : Type} (x y : Option α) (stored : α) : Prop :=
  (y = none → x.getD stored = stored) ∧ (x = none → y.getD stored = stored)

/-- Of publish_interval, battery_cell_count and each calibration key, if both operations
write it, what only one of them sets is stored already. -/
structure Compatible (x y : RowOp) (d : Device) : Prop where
  interval : ∀ i ∈ x.interval?, ∀ j ∈ y.interval?, AlreadyStored i j d.publishInterval
  cells : ∀ i ∈ x.cells?, ∀ j ∈ y.cells?, AlreadyStored i j d.batteryCellCount
  mirror : ∀ m ∈ x.mirror?, ∀ n ∈ y.mirror?, ∀ key, AlreadyStored (m key) (n key) (Dict.get? d.calibration key)

/-- The same row; calibration is an object, whose keys have no order. -/
structure Device.Agrees (d e : Device) : Prop where
  fields : { d with calibration := e.calibration } = e
  calibration : ∀ key, Dict.get? d.calibration key = Dict.get? e.calibration key

def RowAgrees : Row → Row → Prop
  | some d, some e => d.Agrees e
  | none, none => True
  | _, _ => False

/-- Every order of the reads and the saves leaves the row as one of the two serial orders does. -/
def Serializable (x y : RowOp) (d : Device) : Prop :=
  ∀ schedule, (race x.writes y.writes schedule (some d)).Finished →
    RowAgrees (race x.writes y.writes schedule (some d)).shared (exec y.writes (exec x.writes (some d))) ∨
    RowAgrees (race x.writes y.writes schedule (some d)).shared (exec x.writes (exec y.writes (some d)))

theorem Device.Agrees.refl (d : Device) : d.Agrees d := ⟨rfl, fun _ => rfl⟩

theorem RowAgrees.refl (r : Row) : RowAgrees r r := by
  cases r with
  | none => trivial
  | some d => exact Device.Agrees.refl d

theorem rowAgrees_of_eq {r t : Row} (same : r = t) : RowAgrees r t := same ▸ RowAgrees.refl r

theorem copyFields_comm {update : Device → Device} {src : Device} {fields : List DeviceField}
    (each : ∀ f ∈ fields, ∀ r, src.copyField (update r) f = update (src.copyField r f)) (r : Device) :
    src.copyFields fields (update r) = update (src.copyFields fields r) := by
  unfold Device.copyFields
  induction fields generalizing r with
  | nil => rfl
  | cons f fs ih =>
    rw [List.foldl_cons, List.foldl_cons, each f List.mem_cons_self]
    exact ih (fun g member => each g (List.mem_cons_of_mem f member)) _

def EditForm.onto (form : EditForm) (interval cells : Nat) (row : Device) : Device :=
  { row with
    displayName := form.displayName
    location := form.location
    locationType := form.locationType
    guestVisibleMetrics := form.guestVisibleMetrics
    publishInterval := form.interval.getD interval
    batteryCellCount := form.cells.getD cells }

theorem saved_edited (form : EditForm) (d : Device) :
    saved (form.edited d) editFields = Option.map (form.onto d.publishInterval d.batteryCellCount) := rfl

theorem saved_calibration (mirror : Fields) (d : Device) :
    saved { d with calibration := mirror } [.calibration] =
      Option.map (fun row => { row with calibration := mirror }) := rfl

/-- Every write of the operation is a save of none of the fields. -/
def RowOp.Avoids (x : RowOp) (fields : List DeviceField) : Prop :=
  ∀ row, ∀ w ∈ x.writes row, ∃ src own, w = saved src own ∧ ∀ f ∈ own, f ∉ fields

theorem serializable_of_oblivious {x y : RowOp} {d : Device} (ts : List (Row → Row)) (reached : Row → Prop)
    (oblivious : Oblivious x.writes y.writes ts reached) (start : reached (some d)) : Serializable x y d :=
  fun _ finished => (oblivious.serial start finished).imp rowAgrees_of_eq rowAgrees_of_eq

theorem commutes_saved {update : Device → Device} {src : Device} {own : List DeviceField}
    (each : ∀ f ∈ own, ∀ r, src.copyField (update r) f = update (src.copyField r f)) (row : Row) :
    saved src own (row.map update) = (saved src own row).map update := by
  cases row with
  | none => rfl
  | some r => exact congrArg some (copyFields_comm each r)

section Oblivious
variable {x : RowOp} {d : Device}

theorem serializable_edit (form : EditForm) (avoids : x.Avoids editFields) :
    Serializable x (.edit form) d := by
  refine serializable_of_oblivious [Option.map (form.onto d.publishInterval d.batteryCellCount)]
    (fun row => ∃ e, row = some e ∧ e.publishInterval = d.publishInterval ∧
      e.batteryCellCount = d.batteryCellCount) ⟨le_rfl, ?_, ?_, ?_⟩ ⟨d, rfl, rfl, rfl⟩
  · rintro _ ⟨e, rfl, interval, cells⟩
    change [saved (form.edited e) editFields] = _
    rw [saved_edited, interval, cells]
  · rintro row w member _ ⟨e, rfl, interval, cells⟩
    obtain ⟨src, own, rfl, apart⟩ := avoids row w member
    refine ⟨src.copyFields own e, rfl, ?_, ?_⟩
    · rw [Device.publishInterval_copyFields, if_neg (fun touched => apart _ touched (by decide)), interval]
    · rw [Device.batteryCellCount_copyFields, if_neg (fun touched => apart _ touched (by decide)), cells]
  · intro row w member r
    obtain ⟨src, own, rfl, apart⟩ := avoids row w member
    refine commutes_saved (fun f touched r => ?_) r
    have other := apart f touched
    cases f <;> first | rfl | exact absurd (by decide) other

theorem serializable_approve (approved : Bool) (avoids : x.Avoids [.isApproved]) :
    Serializable x (.approve approved) d := by
  refine serializable_of_oblivious [Option.map (fun row => { row with isApproved := approved })]
    (fun row => ∃ e, row = some e) ⟨le_rfl, ?_, ?_, ?_⟩ ⟨d, rfl⟩
  · rintro _ ⟨e, rfl⟩
    rfl
  · rintro row w member _ ⟨e, rfl⟩
    obtain ⟨src, own, rfl, -⟩ := avoids row w member
    exact ⟨src.copyFields own e, rfl⟩
  · intro row w member r
    obtain ⟨src, own, rfl, apart⟩ := avoids row w member
    refine commutes_saved (fun f touched r => ?_) r
    have other := apart f touched
    cases f <;> first | rfl | exact absurd (by decide) other

theorem serializable_calibrate (key : String) (value : Json) (avoids : x.Avoids [.calibration]) :
    Serializable x (.calibrate key value) d := by
  refine serializable_of_oblivious
    [Option.map (fun row => { row with calibration := Dict.set d.calibration key value })]
    (fun row => ∃ e, row = some e ∧ e.calibration = d.calibration) ⟨le_rfl, ?_, ?_, ?_⟩
    ⟨d, rfl, rfl⟩
  · rintro _ ⟨e, rfl, same⟩
    change [saved _ [.calibration]] = _
    rw [saved_calibration, same]
  · rintro row w member _ ⟨e, rfl, same⟩
    obtain ⟨src, own, rfl, apart⟩ := avoids row w member
    refine ⟨src.copyFields own e, rfl, ?_⟩
    rw [Device.calibration_copyFields, if_neg (fun touched => apart _ touched (by decide)), same]
  · intro row w member r
    obtain ⟨src, own, rfl, apart⟩ := avoids row w member
    refine commutes_saved (fun f touched r => ?_) r
    have other := apart f touched
    cases f <;> first | rfl | exact absurd (by decide) other

end Oblivious

def RowOp.Single (x : RowOp) : Prop := ∀ row, (x.writes row).length ≤ 1

theorem serializable_iff_ends {x y : RowOp} {d : Device} (left : x.Single) (right : y.Single) :
    Serializable x y d ↔ ∀ r ∈ [stale x.writes y.writes (some d), stale y.writes x.writes (some d)],
      RowAgrees r (exec y.writes (exec x.writes (some d))) ∨
      RowAgrees r (exec x.writes (exec y.writes (some d))) := by
  constructor
  · intro serial r ends
    obtain ⟨schedule, finished, rfl⟩ :=
      single_reaches left right (List.mem_cons_of_mem _ (List.mem_cons_of_mem _ ends))
    exact serial schedule finished
  · intro crossed schedule finished
    have ends := single_ends left right finished
    generalize (race x.writes y.writes schedule (some d)).shared = r at ends ⊢
    rcases List.mem_cons.mp ends with rfl | ends
    · exact .inl (RowAgrees.refl _)
    · rcases List.mem_cons.mp ends with rfl | ends
      · exact .inr (RowAgrees.refl _)
      · exact crossed r ends

/-- Two writes that overlap: the one that comes last is serial exactly if what only the
first set was stored already. -/
theorem getD_stale {α : Type} {x y : Option α} {stored : α} :
    y.getD stored = y.getD (x.getD stored) ↔ (y = none → x.getD stored = stored) := by
  cases y with
  | none => exact ⟨fun h _ => h.symm, fun h => (h rfl).symm⟩
  | some v => exact ⟨fun _ => (fun none => by cases none), fun _ => rfl⟩

theorem getD_stale_other {α : Type} {x y : Option α} {stored : α}
    (same : y.getD stored = x.getD (y.getD stored)) : y = none → x.getD stored = stored := by
  rintro rfl
  exact same.symm

def RowOp.Sets {α : Type} (x : RowOp) (column : Device → α) (set : Option α) : Prop :=
  ∀ e r, ∃ r', applied (x.writes (some e)) (some r) = some r' ∧ column r' = set.getD (column e)

theorem stale_settled {α : Type} {column : Device → α} {x y : RowOp} {i j : Option α} {d : Device}
    (same : ∀ d e, d.Agrees e → column d = column e) (first : x.Sets column i) (second : y.Sets column j)
    (serial : RowAgrees (stale x.writes y.writes (some d)) (exec y.writes (exec x.writes (some d))) ∨
      RowAgrees (stale x.writes y.writes (some d)) (exec x.writes (exec y.writes (some d)))) :
    j = none → i.getD (column d) = column d := by
  obtain ⟨afterX, wroteX, valueX⟩ := first d d
  obtain ⟨afterY, wroteY, valueY⟩ := second d d
  obtain ⟨xy, wroteXY, valueXY⟩ := second afterX afterX
  obtain ⟨yx, wroteYX, valueYX⟩ := first afterY afterY
  obtain ⟨crossed, wroteCrossed, valueCrossed⟩ := second d afterX
  have aloneX : exec x.writes (some d) = some afterX := wroteX
  have aloneY : exec y.writes (some d) = some afterY := wroteY
  have orderXY : exec y.writes (some afterX) = some xy := wroteXY
  have orderYX : exec x.writes (some afterY) = some yx := wroteYX
  have ended : stale x.writes y.writes (some d) = some crossed := by
    unfold stale
    rw [aloneX]
    exact wroteCrossed
  rw [ended, aloneX, aloneY, orderXY, orderYX] at serial
  rcases serial with agrees | agrees
  · have equal := same _ _ agrees
    rw [valueCrossed, valueXY, valueX] at equal
    exact getD_stale.mp equal
  · have equal := same _ _ agrees
    rw [valueCrossed, valueYX, valueY] at equal
    exact getD_stale_other equal

theorem settled_of_serializable {α : Type} {column : Device → α} {x y : RowOp} {i j : Option α} {d : Device}
    (same : ∀ d e, d.Agrees e → column d = column e) (first : x.Sets column i) (second : y.Sets column j)
    (left : x.Single) (right : y.Single) (serial : Serializable x y d) : AlreadyStored i j (column d) := by
  have ends := (serializable_iff_ends left right).mp serial
  exact ⟨stale_settled same first second (ends _ (by simp)),
    stale_settled same second first ((ends _ (by simp)).symm)⟩

theorem Device.Agrees.publishInterval {d e : Device} (agrees : d.Agrees e) :
    d.publishInterval = e.publishInterval := by
  rw [← agrees.fields]

theorem Device.Agrees.batteryCellCount {d e : Device} (agrees : d.Agrees e) :
    d.batteryCellCount = e.batteryCellCount := by
  rw [← agrees.fields]

theorem publishInterval_reported (known : String → Bool) (data : Fields) (d row : Device) :
    ((applyCapabilities known data d).copyFields capabilitiesFields row).publishInterval =
      (reportedInterval data).getD d.publishInterval := by
  rw [Device.publishInterval_copyFields, if_pos (by decide), publishInterval_applyCapabilities]

theorem sets_interval {x : RowOp} {i : Option Nat} (sets : i ∈ x.interval?) :
    x.Sets Device.publishInterval i := by
  cases x <;> cases sets
  · exact fun e r => ⟨_, rfl, rfl⟩
  · exact fun e r => ⟨_, rfl, publishInterval_reported _ _ e r⟩

theorem sets_cells {x : RowOp} {c : Option Nat} (sets : c ∈ x.cells?) : x.Sets Device.batteryCellCount c := by
  cases x <;> cases sets
  exact fun e r => ⟨_, rfl, rfl⟩

theorem get?_update (d updates : Fields) (key : String) :
    Dict.get? (Dict.update d updates) key = (Dict.get? updates.reverse key).or (Dict.get? d key) := by
  unfold Dict.update
  induction updates generalizing d with
  | nil => rfl
  | cons kv rest ih =>
    obtain ⟨k, value⟩ := kv
    have front : Dict.get? (rest.reverse ++ [(k, value)]) key =
        (Dict.get? rest.reverse key).or (Dict.get? [(k, value)] key) := List.lookup_append
    have last : Dict.get? (Dict.set d k value) key = (Dict.get? [(k, value)] key).or (Dict.get? d key) := by
      by_cases same : key = k
      · rw [same, Dict.get?_set_self]
        simp [Dict.get?]
      · have absent : Dict.get? [(k, value)] key = none := by
          rw [Dict.get?, List.lookup_cons, beq_false_of_ne same]
          rfl
        rw [Dict.get?_set_other d value same, absent, Option.none_or]
    rw [List.foldl_cons, ih, List.reverse_cons, front, Option.or_assoc, last]

def RowOp.mirrored (x : RowOp) (calibration : Fields) : Fields :=
  match x with
  | .calibrate key value => Dict.set calibration key value
  | .legacyAck updates => Dict.update calibration updates
  | .report mirror _ => mirror
  | _ => calibration

theorem get?_mirrored {x : RowOp} {m : String → Option (Option Json)} (sets : m ∈ x.mirror?)
    (calibration : Fields) (key : String) :
    Dict.get? (x.mirrored calibration) key = (m key).getD (Dict.get? calibration key) := by
  cases x <;> cases sets
  · next name value =>
    by_cases same : key = name
    · subst same
      simp [RowOp.mirrored, Dict.get?_set_self]
    · simp [RowOp.mirrored, Dict.get?_set_other, same]
  · rfl
  · next updates =>
    change Dict.get? (Dict.update calibration updates) key = _
    rw [get?_update]
    dsimp only
    cases Dict.get? updates.reverse key <;> rfl

theorem sets_mirror {x : RowOp} {m : String → Option (Option Json)} (sets : m ∈ x.mirror?) (key : String) :
    x.Sets (fun d => Dict.get? d.calibration key) (m key) := by
  intro e r
  have value := get?_mirrored sets e.calibration key
  cases x <;> cases sets <;> exact ⟨_, rfl, value⟩

theorem onto_congr (form : EditForm) {interval cells interval' cells' : Nat} (row : Device)
    (sameInterval : form.interval.getD interval = form.interval.getD interval')
    (sameCells : form.cells.getD cells = form.cells.getD cells') :
    form.onto interval cells row = form.onto interval' cells' row := by
  unfold EditForm.onto
  rw [sameInterval, sameCells]

theorem copyFields_capabilities_onto (known : String → Bool) (data : Fields) (form : EditForm)
    (interval cells : Nat) (d row : Device) :
    (applyCapabilities known data (form.onto interval cells d)).copyFields capabilitiesFields row =
      { (applyCapabilities known data d).copyFields capabilitiesFields row with
        publishInterval := (reportedInterval data).getD (form.interval.getD interval) } := by
  unfold applyCapabilities
  have same : hadTimeoutAlert (form.onto interval cells d) = hadTimeoutAlert d := rfl
  rw [same]
  cases hadTimeoutAlert d <;> rfl

theorem agrees_calibration {row : Device} {mirror mirror' : Fields}
    (same : ∀ key, Dict.get? mirror key = Dict.get? mirror' key) :
    Device.Agrees { row with calibration := mirror } { row with calibration := mirror' } :=
  ⟨rfl, same⟩

theorem serializable_of_ends {x y : RowOp} {d : Device} (left : x.Single) (right : y.Single)
    (first : RowAgrees (stale x.writes y.writes (some d)) (exec y.writes (exec x.writes (some d))))
    (second : RowAgrees (stale y.writes x.writes (some d)) (exec x.writes (exec y.writes (some d)))) :
    Serializable x y d := by
  refine (serializable_iff_ends left right).mpr (fun r ends => ?_)
  rcases List.mem_cons.mp ends with rfl | ends
  · exact .inl first
  · rw [List.mem_singleton.mp ends]
    exact .inr second

theorem single_of_loud {x : RowOp} (loud : ∀ saves bounded, x ≠ .quiet saves bounded) : x.Single := by
  intro row
  cases x with
  | quiet saves bounded => exact absurd rfl (loud saves bounded)
  | _ => cases row <;> first | exact Nat.zero_le _ | exact le_rfl

theorem single_of_form {y : RowOp} (form : y.isForm = true) : y.Single := by
  refine single_of_loud (fun saves bounded same => ?_)
  rw [same] at form
  cases form

theorem serializable_edit_edit {f g : EditForm} {d : Device}
    (compatible : Compatible (.edit f) (.edit g) d) : Serializable (.edit f) (.edit g) d := by
  have interval := compatible.interval _ rfl _ rfl
  have cells := compatible.cells _ rfl _ rfl
  refine serializable_of_ends (single_of_form rfl) (single_of_form rfl) (rowAgrees_of_eq ?_) (rowAgrees_of_eq ?_)
  · exact congrArg some (onto_congr g _ (getD_stale.mpr interval.1) (getD_stale.mpr cells.1))
  · exact congrArg some (onto_congr f _ (getD_stale.mpr interval.2) (getD_stale.mpr cells.2))

theorem with_publishInterval {d : Device} {interval : Nat} (same : d.publishInterval = interval) :
    { d with publishInterval := interval } = d := by
  subst same
  rfl

theorem serializable_capabilities_edit {known : String → Bool} {data : Fields} {g : EditForm} {d : Device}
    (compatible : Compatible (.capabilities known data) (.edit g) d) :
    Serializable (.capabilities known data) (.edit g) d := by
  have interval := compatible.interval _ rfl _ rfl
  have wroteX : ∀ e r, applied ((RowOp.capabilities known data).writes (some e)) (some r) =
      some ((applyCapabilities known data e).copyFields capabilitiesFields r) := fun _ _ => rfl
  have wroteY : ∀ e r, applied ((RowOp.edit g).writes (some e)) (some r) =
      some (g.onto e.publishInterval e.batteryCellCount r) := fun _ _ => rfl
  have kept : ((applyCapabilities known data d).copyFields capabilitiesFields d).batteryCellCount =
      d.batteryCellCount := by
    rw [Device.batteryCellCount_copyFields, if_neg (by decide)]
  refine serializable_of_ends (single_of_loud (fun _ _ same => by cases same)) (single_of_form rfl)
    (rowAgrees_of_eq ?_) (rowAgrees_of_eq ?_)
  · unfold stale exec
    rw [wroteX, wroteY, wroteY, publishInterval_reported, kept]
    exact congrArg some (onto_congr g _ (getD_stale.mpr interval.1) rfl)
  · unfold stale exec
    rw [wroteY, wroteX, wroteX, copyFields_capabilities_onto, with_publishInterval]
    rw [publishInterval_reported]
    exact getD_stale.mpr interval.2

theorem mirrored_stale {x y : RowOp} {m n : String → Option (Option Json)} (first : m ∈ x.mirror?)
    (second : n ∈ y.mirror?) {calibration : Fields} {key : String}
    (settled : n key = none → (m key).getD (Dict.get? calibration key) = Dict.get? calibration key) :
    Dict.get? (y.mirrored calibration) key = Dict.get? (y.mirrored (x.mirrored calibration)) key := by
  rw [get?_mirrored second, get?_mirrored second, get?_mirrored first]
  exact getD_stale.mpr settled

theorem applied_mirror {x : RowOp} {m : String → Option (Option Json)} (sets : m ∈ x.mirror?) :
    ∃ touch : Device → Device, ∀ e r, applied (x.writes (some e)) (some r) =
      some { touch r with calibration := x.mirrored e.calibration } := by
  cases x <;> cases sets
  · exact ⟨id, fun _ _ => rfl⟩
  · next mirror now => exact ⟨fun row => { row with lastSeen := some now }, fun _ _ => rfl⟩
  · exact ⟨id, fun _ _ => rfl⟩

theorem stale_mirrors {x y : RowOp} {d : Device} {m n : String → Option (Option Json)} (first : m ∈ x.mirror?)
    (second : n ∈ y.mirror?)
    (settled : ∀ key, n key = none → (m key).getD (Dict.get? d.calibration key) = Dict.get? d.calibration key) :
    RowAgrees (stale x.writes y.writes (some d)) (exec y.writes (exec x.writes (some d))) := by
  obtain ⟨touchX, wroteX⟩ := applied_mirror first
  obtain ⟨touchY, wroteY⟩ := applied_mirror second
  unfold stale exec
  rw [wroteX, wroteY, wroteY]
  exact agrees_calibration (fun key => mirrored_stale first second (settled key))

theorem serializable_mirrors {x y : RowOp} {d : Device} {m n : String → Option (Option Json)}
    (first : m ∈ x.mirror?) (second : n ∈ y.mirror?) (compatible : Compatible x y d) : Serializable x y d := by
  have settled := compatible.mirror m first n second
  have loud : ∀ {z : RowOp} {o : String → Option (Option Json)}, o ∈ z.mirror? → z.Single := by
    intro z o sets
    refine single_of_loud (fun saves bounded same => ?_)
    rw [same] at sets
    cases sets
  exact serializable_of_ends (loud first) (loud second) (stale_mirrors first second (fun key => (settled key).1))
    (stale_mirrors second first (fun key => (settled key).2))

theorem serializable_approve_approve (a b : Bool) (d : Device) : Serializable (.approve a) (.approve b) d :=
  serializable_of_ends (single_of_form rfl) (single_of_form rfl) (rowAgrees_of_eq rfl) (rowAgrees_of_eq rfl)

theorem serializable_remove {y : RowOp} (form : y.isForm = true) (d : Device) : Serializable .remove y d := by
  refine serializable_of_ends (single_of_loud (fun _ _ same => by cases same)) (single_of_form form) ?_ ?_
  · cases y <;> cases form <;> exact rowAgrees_of_eq rfl
  · cases y <;> cases form <;> exact rowAgrees_of_eq rfl

theorem avoids_of_writes {x : RowOp} {fields : List DeviceField} (present : ∀ d, ∃ src own,
    x.writes (some d) = [saved src own] ∧ ∀ f ∈ own, f ∉ fields) (absent : x.writes none = []) :
    x.Avoids fields := by
  intro row w member
  cases row with
  | none =>
    rw [absent] at member
    cases member
  | some d =>
    obtain ⟨src, own, written, apart⟩ := present d
    rw [written] at member
    exact ⟨src, own, List.mem_singleton.mp member, apart⟩

theorem quiet_avoids {saves : Device → List (Device × List DeviceField)}
    (bounded : ∀ d, ∀ s ∈ saves d, ∀ f ∈ s.2, f ∉ contendedFields) {fields : List DeviceField}
    (contended : ∀ f ∈ fields, f ∈ contendedFields) : (RowOp.quiet saves bounded).Avoids fields := by
  intro row w member
  cases row with
  | none => cases member
  | some d =>
    obtain ⟨save, saving, rfl⟩ := List.mem_map.mp member
    exact ⟨save.1, save.2, rfl, fun f touched inside => bounded d save saving f touched (contended f inside)⟩

theorem serializable_of_compatible {x y : RowOp} {d : Device} (form : y.isForm = true)
    (compatible : Compatible x y d) : Serializable x y d := by
  cases y with
  | edit g =>
    cases x with
    | edit f => exact serializable_edit_edit compatible
    | capabilities known data => exact serializable_capabilities_edit compatible
    | remove => exact serializable_remove form d
    | quiet saves bounded => exact serializable_edit g (quiet_avoids bounded (by decide))
    | _ => exact serializable_edit g (avoids_of_writes (fun d => ⟨_, _, rfl, by decide⟩) rfl)
  | approve b =>
    cases x with
    | approve a => exact serializable_approve_approve a b d
    | remove => exact serializable_remove form d
    | quiet saves bounded => exact serializable_approve b (quiet_avoids bounded (by decide))
    | _ => exact serializable_approve b (avoids_of_writes (fun d => ⟨_, _, rfl, by decide⟩) rfl)
  | calibrate key value =>
    cases x with
    | calibrate key' value' => exact serializable_mirrors rfl rfl compatible
    | report mirror now => exact serializable_mirrors rfl rfl compatible
    | legacyAck updates => exact serializable_mirrors rfl rfl compatible
    | remove => exact serializable_remove form d
    | quiet saves bounded => exact serializable_calibrate key value (quiet_avoids bounded (by decide))
    | _ => exact serializable_calibrate key value (avoids_of_writes (fun d => ⟨_, _, rfl, by decide⟩) rfl)
  | _ => cases form

theorem compatible_of_serializable {x y : RowOp} {d : Device} (form : y.isForm = true)
    (serial : Serializable x y d) : Compatible x y d := by
  have right := single_of_form form
  constructor
  · intro i first j second
    have left : x.Single := single_of_loud (fun _ _ same => by rw [same] at first; cases first)
    exact settled_of_serializable (fun _ _ => Device.Agrees.publishInterval) (sets_interval first)
      (sets_interval second) left right serial
  · intro i first j second
    have left : x.Single := single_of_loud (fun _ _ same => by rw [same] at first; cases first)
    exact settled_of_serializable (fun _ _ => Device.Agrees.batteryCellCount) (sets_cells first)
      (sets_cells second) left right serial
  · intro m first n second key
    have left : x.Single := single_of_loud (fun _ _ same => by rw [same] at first; cases first)
    exact settled_of_serializable (fun _ _ agrees => agrees.calibration key) (sets_mirror first key)
      (sets_mirror second key) left right serial

theorem serializable_iff (x y : RowOp) (form : y.isForm = true) (d : Device) :
    Serializable x y d ↔ Compatible x y d :=
  ⟨compatible_of_serializable form, serializable_of_compatible form⟩

/-- Two values set for different keys both survive only if both are stored already. -/
theorem calibrations_serializable_iff {key key' : String} (other : key ≠ key') (value value' : Json) (d : Device) :
    Serializable (.calibrate key value) (.calibrate key' value') d ↔
      Dict.get? d.calibration key = some value ∧ Dict.get? d.calibration key' = some value' := by
  constructor
  · intro serial
    have compatible := compatible_of_serializable rfl serial
    have first := (compatible.mirror _ rfl _ rfl key).1 (if_neg other)
    have second := (compatible.mirror _ rfl _ rfl key').2 (if_neg (Ne.symm other))
    simp only [if_true, Option.getD_some] at first second
    exact ⟨first.symm, second.symm⟩
  · rintro ⟨first, second⟩
    refine serializable_of_compatible rfl ⟨(fun _ sets => by cases sets), (fun _ sets => by cases sets), ?_⟩
    rintro m ⟨⟩ n ⟨⟩ name
    constructor
    · intro unset
      by_cases same : name = key
      · simp [same, first]
      · simp [same]
    · intro unset
      by_cases same : name = key'
      · simp [same, second]
      · simp [same]

theorem edit_capabilities_serializable_iff {known : String → Bool} {data : Fields}
    (silent : reportedInterval data = none) (form : EditForm) (d : Device) :
    Serializable (.capabilities known data) (.edit form) d ↔
      form.interval.getD d.publishInterval = d.publishInterval := by
  constructor
  · intro serial
    exact ((compatible_of_serializable rfl serial).interval _ rfl _ rfl).2 silent
  · intro kept
    refine serializable_of_compatible rfl ⟨?_, (fun _ sets => by cases sets), (fun _ sets => by cases sets)⟩
    rintro i ⟨⟩ j ⟨⟩
    rw [silent]
    exact ⟨fun _ => rfl, fun _ => kept⟩

/-- Two offsets set at once for different keys: the second save drops the first. -/
theorem offsets_lost :
    ¬ Serializable (.calibrate "cal_temp" (.float (.finite 1))) (.calibrate "cal_humi" (.float (.finite 2)))
      { deviceId := "porch01", createdAt := 0 } := by
  intro serial
  have ends := serial [false, true, false, true] ⟨rfl, rfl⟩
  have lost : ∀ {d : Device} {r : Row}, RowAgrees (some d) r → Dict.get? d.calibration "cal_temp" = none →
      ∃ e, r = some e ∧ Dict.get? e.calibration "cal_temp" = none := by
    intro d r agrees gone
    cases r with
    | none => cases agrees
    | some e => exact ⟨e, rfl, (agrees.calibration "cal_temp").symm.trans gone⟩
  rcases ends with first | second
  · obtain ⟨e, same, gone⟩ := lost first rfl
    cases same
    cases gone
  · obtain ⟨e, same, gone⟩ := lost second rfl
    cases same
    cases gone

/-- Two offsets for one key: the later save is as good as a serial one. -/
theorem sameKey_serializable :
    Serializable (.calibrate "cal_temp" (.float (.finite 1))) (.calibrate "cal_temp" (.float (.finite 2)))
      { deviceId := "porch01", createdAt := 0 } :=
  (serializable_iff _ _ rfl _).mpr
    { interval := fun i sets => by cases sets
      cells := fun i sets => by cases sets
      mirror := by
        rintro m ⟨⟩ n ⟨⟩ key
        by_cases same : key = "cal_temp"
        · simp [AlreadyStored, same]
        · simp [AlreadyStored, same] }

end SensorServer
