import SensorServer.Handlers

/-! Requests to the web process: users and their roles (accounts), form fields, and
the responses of the views. An exception that leaves a view is a server error. -/
namespace SensorServer
open Program

inductive Role where
  | guest | resident | admin
  deriving DecidableEq, Repr

/-- ROLE_HIERARCHY -/
def Role.rank : Role → Nat
  | .guest => 0
  | .resident => 1
  | .admin => 2

/-- A user and the role of their profile; none is a pending or missing profile. -/
structure User where
  username : String
  isAuthenticated : Bool := true
  isSuperuser : Bool := false
  role : Option Role := none
  deriving DecidableEq, Repr

def User.hasRole (u : User) (required : Role) : Bool :=
  match u.role with
  | none => false
  | some role => decide (required.rank ≤ role.rank)

def User.may (u : User) (minimum : Role) : Bool :=
  u.isAuthenticated && (u.isSuperuser || u.hasRole minimum)

/-- _is_guest_only -/
def User.guestOnly (u : User) : Bool := !u.isSuperuser && !u.hasRole .resident

/-- The form or query fields in order; a key may occur more than once. -/
abbrev QueryDict := List (String × String)

namespace QueryDict

def get? (q : QueryDict) (key : String) : Option String := q.reverse.lookup key

def get (q : QueryDict) (key default : String) : String := (QueryDict.get? q key).getD default

def getlist (q : QueryDict) (key : String) : List String :=
  (q.filter (fun kv => kv.1 = key)).map Prod.snd

end QueryDict

structure Request where
  user : User
  isPost : Bool := true
  htmx : Bool := false
  post : QueryDict := []
  query : QueryDict := []

structure Series where
  times : List Time
  values : List PyFloat
  deriving DecidableEq, Repr

/-- One element of `segments`; the bounds are written by isoformat. -/
structure Segment where
  start : Stamp
  stop : Stamp
  level : String
  message : String
  deriving DecidableEq, Repr

/-- One revision of the overview page of the published images. -/
structure RevisionImages where
  rev : HardwareRevision
  firmwares : List Firmware
  latestId : Option Nat
  deriving DecidableEq

structure CodeImages where
  code : HardwareCode
  revisions : List RevisionImages
  deviceCount : Nat
  firmwareCount : Nat
  deriving DecidableEq

structure Card where
  device : Device
  latestMetrics : List (String × PyFloat)
  deriving DecidableEq

inductive Response where
  | login
  | forbidden
  | notFound
  | badRequest (detail : String)
  | page (template : String)
  /-- a form shown again, with the error it names -/
  | formError (template detail : String)
  | redirect (name : String) (deviceId : Option String)
  | jsonError (status : Nat) (detail : String)
  | deleted (count : Nat)
  | chart (points : Series) (metric deviceId unit : String)
  | charts (metric unit : String) (series : List (String × Series))
  | timeline (segments : List Segment)
  | images (groups : List CodeImages)
  | cards (template : String) (devices : List Card) (averages : List (String × List (String × PyFloat)))
      (metricsDisplay : List (String × String × String)) (cellCounts : List (String × Nat))
  | overview (metricsDevices : List (String × List String)) (deviceNames units : List (String × String))
      (metricsDisplay : List (String × String × String))
  deriving DecidableEq

def roleRequired (minimum : Role) (request : Request) (view : Act Response) : Act Response :=
  if !request.user.isAuthenticated then pure .login
  else if request.user.isSuperuser then view
  else if !request.user.hasRole minimum then pure .forbidden
  else view

/-- get_object_or_404(Device, device_id=...) -/
def getDeviceOr404 (deviceId : String) (view : Device → Act Response) : Act Response := do
  let found ← read (fun w => w.device? deviceId)
  match found with
  | none => pure .notFound
  | some device => view device

def postOnly (request : Request) (view : Act Response) : Act Response :=
  if !request.isPost then pure (.badRequest "") else view

def answer (request : Request) (fragment : String) (otherwise : Response) : Response :=
  if request.htmx then .page fragment else otherwise

def commandLogAnswer (request : Request) (device : Device) : Response :=
  answer request "devices/_command_log.html" (.redirect "devices:admin" (some device.deviceId))

theorem roleRequired_eq (minimum : Role) (request : Request) (view : Act Response) :
    roleRequired minimum request view =
      if request.user.may minimum then view
      else pure (if request.user.isAuthenticated then .forbidden else .login) := by
  unfold roleRequired User.may
  cases request.user.isAuthenticated <;> cases request.user.isSuperuser <;>
    cases request.user.hasRole minimum <;> rfl

theorem after_refused {minimum : Role} {request : Request} {view : Act Response} {w : World}
    (refused : request.user.may minimum = false) : after (roleRequired minimum request view) w = w := by
  rw [roleRequired_eq, refused]
  rfl

section Upholds
variable {R : World → World → Prop} (closed : Closed R)
include closed

theorem upholds_roleRequired {minimum : Role} {request : Request} {view : Act Response}
    (inside : request.user.may minimum = true → Upholds R view) :
    Upholds R (roleRequired minimum request view) := by
  rw [roleRequired_eq]
  split
  · exact inside ‹_›
  · exact Upholds.pure closed _

theorem upholds_getDeviceOr404 {deviceId : String} {view : Device → Act Response}
    (inside : ∀ device, Upholds R (view device)) : Upholds R (getDeviceOr404 deviceId view) := by
  refine Upholds.bind closed (Upholds.read closed _) (fun found => ?_)
  cases found with
  | none => exact Upholds.pure closed _
  | some device => exact inside device

theorem upholds_postOnly {request : Request} {view : Act Response} (inside : Upholds R view) :
    Upholds R (postOnly request view) := by
  unfold postOnly
  split
  · exact Upholds.pure closed _
  · exact inside

theorem upholds_devicePost {minimum : Role} {request : Request} {deviceId : String}
    {view : Device → Act Response} (inside : ∀ device, Upholds R (view device)) :
    Upholds R (roleRequired minimum request (getDeviceOr404 deviceId fun device =>
      postOnly request (view device))) :=
  upholds_roleRequired closed (fun _ => upholds_getDeviceOr404 closed (fun device =>
    upholds_postOnly closed (inside device)))

end Upholds

end SensorServer
