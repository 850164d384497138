import SensorServer.Web
import SensorServer.Lib.Run

/-! The accounts of the web process: the superuser of the settings (ensure_superuser), the OIDC
backend (accounts/backends.py) and the two pages that change rights (accounts/views.py). The
library checks the claims, looks the accounts up with them and updates the only match. -/
namespace SensorServer
open Program

/-- A row of auth_user. -/
structure Account where
  id : Nat
  username : String
  firstName : String := ""
  lastName : String := ""
  email : String
  isStaff : Bool := false
  isSuperuser : Bool := false
  deriving DecidableEq

structure UserProfile where
  user : Nat
  role : Option Role := none
  deriving DecidableEq

/-- auth_user.id is an integer column. -/
def maxAccounts : Nat := 2147483648

structure Accounts where
  users : Serial Account.id
  profiles : Table UserProfile.user
  numbered : users.next ≤ maxAccounts

/-- The settings of the superuser, and what Django, Python and the library compute for the code:
NFKC, the normalised address, str() of a value that is no string, and verify_claims. -/
structure AuthEnv where
  superuserUsername : String
  superuserEmail : String
  normalizeUsername : String → String := id
  normalizeEmail : String → String := id
  pyStr : Json → String := fun _ => "None"
  pyStr_ne_empty : ∀ value, pyStr value ≠ "" := by intro _; decide
  verifyClaims : Fields → Bool := fun claims => (Dict.get? claims "email").isSome

abbrev Auth (α : Type) := Prog Raised Accounts α

namespace Accounts

def named (s : Accounts) (username : String) : List Account :=
  s.users.rows.filter (fun u => decide (u.username = username))

def mailed (s : Accounts) (email : String) : List Account := s.users.rows.filter (fun u => decide (u.email = email))

def insert (s : Accounts) (username email : String) (staff : Bool) : Accounts :=
  if room : s.users.next < maxAccounts then
    { s with
      users := s.users.append (fun id =>
        { id := id, username := username, email := email, isStaff := staff, isSuperuser := staff }) (fun _ => rfl)
      numbered := room }
  else s

def updateUser (s : Accounts) (id : Nat) (f : Account → Account) (keep : ∀ u, (f u).id = u.id) : Accounts :=
  { s with
    users := s.users.update (fun u => decide (u.id = id)) f keep
    numbered := s.numbered }

def setRole (s : Accounts) (id : Nat) (role : Option Role) : Accounts :=
  { s with profiles := s.profiles.update (fun p => decide (p.user = id)) (fun p => { p with role := role }) (fun _ => rfl) }

def addProfile (s : Accounts) (p : UserProfile) : Accounts := { s with profiles := s.profiles.insert p }

end Accounts

/-- The attributes that the backend sets, as the claims have them. -/
structure UserInstance where
  id : Nat
  username : Json
  firstName : Json
  lastName : Json
  email : Json

def Account.instance (u : Account) : UserInstance :=
  { id := u.id, username := .str u.username, firstName := .str u.firstName, lastName := .str u.lastName,
    email := .str u.email }

/-- `"@" in value`; none is a TypeError. -/
def atIn : Json → Option Bool
  | .str s => some (s.toList.contains '@')
  | .arr items => some (items.any (fun item => decide (item = .str "@")))
  | .obj fields => some (fields.any (fun kv => decide (kv.1 = "@")))
  | _ => none

/-- `len(value)` of a value that has a length. -/
def lengthOf : Json → Nat
  | .str s => pyLen s
  | .arr items => items.length
  | .obj fields => fields.length
  | _ => 0

/-- What a text column stores of a value; none is NULL. -/
def AuthEnv.column (env : AuthEnv) : Json → Option String
  | .null => none
  | .str s => some s
  | value => some (env.pyStr value)

def claim (claims : Fields) (key : String) (default : Json) : Json := (Dict.get? claims key).getD default

/-- The first of the keys with a value that has no at sign; none is a TypeError. -/
def pickedName (claims : Fields) : List String → Option (Option Json)
  | [] => some none
  | key :: keys =>
    let value := claim claims key (.str "")
    if value.truthy then
      match atIn value with
      | none => none
      | some false => some (some value)
      | some true => pickedName claims keys
    else pickedName claims keys

/-- `email.split("@")[0]` -/
def localPart : Json → Option Json
  | .str s => some (.str ((pySplit '@' s).headD ""))
  | _ => none

/-- `_extract_username`; none is a TypeError or an AttributeError. -/
def extractUsername (claims : Fields) (fallback : Json) : Option Json :=
  match pickedName claims ["preferred_username", "nickname", "name"] with
  | none => none
  | some (some value) => some value
  | some none =>
    let email := claim claims "email" fallback
    match atIn email with
    | none => none
    | some true => localPart email
    | some false => some (if email.truthy then email else .str "user")

/-- `full_name.split(None, 1)` -/
def splitName (s : String) : List String :=
  let body := s.toList.dropWhile pySpace
  let first := body.takeWhile (fun c => !pySpace c)
  let rest := (body.dropWhile (fun c => !pySpace c)).dropWhile pySpace
  if first.isEmpty then [] else if rest.isEmpty then [String.ofList first] else [String.ofList first, String.ofList rest]

def orEmpty (value : Json) : Json := if value.truthy then value else .str ""

/-- The names taken from the "name" claim where first and last are both empty; none is an
AttributeError or, for blanks only, an IndexError. -/
def fullNames (claims : Fields) (first last : Json) : Option (Json × Json) :=
  if first.truthy || last.truthy then some (first, last)
  else
    let full := claim claims "name" (.str "")
    if !full.truthy then some (first, last)
    else match full with
      | .str s =>
        match splitName s with
        | [] => none
        | [one] => some (.str one, .str "")
        | one :: two :: _ => some (.str one, .str two)
      | _ => none

/-- The instance as `_update_user_from_claims` leaves it before the save. -/
def claimed (claims : Fields) (user : UserInstance) : Option UserInstance :=
  match extractUsername claims user.username, atIn user.username with
  | some name, some external =>
    let username := if external || decide (lengthOf user.username > 30) then name else user.username
    let first := claim claims "given_name" (orEmpty user.firstName)
    let last := claim claims "family_name" (orEmpty user.lastName)
    let email := claim claims "email" user.email
    (fullNames claims first last).map (fun names =>
      { user with username := username, firstName := names.1, lastName := names.2, email := email })
  | _, _ => none

/-- Whether another account has the name. -/
def taken (s : Accounts) (id : Nat) (username : String) : Bool := (s.named username).any (fun u => decide (u.id ≠ id))

/-- `user.save(update_fields=["username", "first_name", "last_name", "email"])` -/
def saveUser (env : AuthEnv) (user : UserInstance) : Auth Unit :=
  match env.column user.username, env.column user.firstName, env.column user.lastName, env.column user.email with
  | some username, some first, some last, some email =>
    if varchar 150 username && varchar 150 first && varchar 150 last && varchar 254 email then do
      let clash ← read (fun s => taken s user.id username)
      if clash then fail .integrity
      else write (fun s => s.updateUser user.id (fun u =>
        { u with username := username, firstName := first, lastName := last, email := email }) (fun _ => rfl))
    else fail .dataError
  | _, _, _, _ => fail .integrity

def updateUserFromClaims (env : AuthEnv) (user : UserInstance) (claims : Fields) : Auth Unit :=
  match claimed claims user with
  | none => fail .typeError
  | some saved => saveUser env saved

/-- `UserProfile.objects.get_or_create(user=user)` -/
def ensureProfile (id : Nat) : Auth Unit := write (fun s => s.addProfile { user := id })

/-- The manager's create_user and create_superuser. -/
def createAccount (env : AuthEnv) (username : Json) (email : String) (staff : Bool) : Auth UserInstance :=
  if !username.truthy then fail .valueError
  else
    let name := match username with
      | .str s => .str (env.normalizeUsername s)
      | value => value
    match env.column name with
    | none => fail .integrity
    | some text =>
      if varchar 150 text && varchar 254 email then do
        let s ← read id
        if !(s.named text).isEmpty then fail .integrity
        else if s.users.next < maxAccounts then do
          write (fun s => s.insert text email staff)
          pure { id := s.users.next, username := name, firstName := .str "", lastName := .str "", email := .str email }
        else fail .database
      else fail .dataError

/-- `normalize_email`; none is an AttributeError. -/
def AuthEnv.mail (env : AuthEnv) : Json → Option String
  | .str s => some (env.normalizeEmail s)
  | value => if value.truthy then none else some (env.normalizeEmail "")

def createUser (env : AuthEnv) (claims : Fields) : Auth Unit :=
  let email := claim claims "email" (.str "")
  match extractUsername claims email, env.mail email with
  | some username, some mail => do
    let user ← createAccount env username mail false
    updateUserFromClaims env user claims
    ensureProfile user.id
  | _, _ => fail .typeError

def updateUser (env : AuthEnv) (user : Account) (claims : Fields) : Auth Unit := do
  updateUserFromClaims env user.instance claims
  ensureProfile user.id

/-- `filter_users_by_claims`: the accounts with the e-mail of the claims. -/
def filterUsersByClaims (env : AuthEnv) (claims : Fields) : Auth (List Account) :=
  let email := claim claims "email" .null
  if !email.truthy then pure []
  else match env.column email with
    | none => pure []
    | some text => if nulFree text then read (fun s => s.mailed text) else fail .valueError

/-- `get_or_create_user` of the library; what it finds suspicious is no login. -/
def oidcLogin (env : AuthEnv) (claims : Fields) : Auth Unit :=
  if !env.verifyClaims claims then pure ()
  else do
    let users ← filterUsersByClaims env claims
    match users with
    | [user] => updateUser env user claims
    | [] => createUser env claims
    | _ => pure ()

/-- request.user: the account of the session, with the role of its profile. -/
def visitor (s : Accounts) (session : Option Nat) : User :=
  match session.bind s.users.get? with
  | none => { username := "", isAuthenticated := false }
  | some u => { username := u.username, isSuperuser := u.isSuperuser,
                role := (s.profiles.get? u.id).bind UserProfile.role }

def isEnvSuperuser (env : AuthEnv) (user : Account) : Bool := decide (user.username = env.superuserUsername)

/-- ROLE_CHOICES -/
def roleChoice : String → Option Role
  | "guest" => some .guest
  | "resident" => some .resident
  | "admin" => some .admin
  | _ => none

/-- get_object_or_404(UserProfile, user_id=...), with its account -/
def profileOr404 (userId : Nat) (page : UserProfile → Account → Auth Response) : Auth Response := do
  let found ← read (fun s => (s.profiles.get? userId, s.users.get? userId))
  match found with
  | (some profile, some account) => page profile account
  | _ => pure .notFound

def userSetRoleView (env : AuthEnv) (session : Option Nat) (isPost : Bool) (userId : Nat) (post : QueryDict) :
    Auth Response := do
  let user ← read (visitor · session)
  if !user.isAuthenticated then pure .login
  else if !user.may .admin then pure .forbidden
  else if !isPost then pure .forbidden
  else profileOr404 userId fun _ account =>
    if isEnvSuperuser env account then pure .forbidden
    else do
      match QueryDict.get? post "role" with
      | none => pure ()
      | some role =>
        match roleChoice role with
        | some choice => write (fun s => s.setRole userId (some choice))
        | none => when (decide (role = "revoke")) (write (fun s => s.setRole userId none))
      pure (.redirect "accounts:user_list" none)

def setStaff (id : Nat) (staff : Bool) : Auth Unit :=
  write (fun s => s.updateUser id (fun u => { u with isStaff := staff, isSuperuser := staff }) (fun _ => rfl))

def userSetSuperadminView (env : AuthEnv) (session : Option Nat) (isPost : Bool) (userId : Nat) (post : QueryDict) :
    Auth Response :=
  if !isPost then pure (.badRequest "")
  else do
    let user ← read (visitor · session)
    if !user.isSuperuser then pure .forbidden
    else profileOr404 userId fun profile account =>
      if isEnvSuperuser env account then pure .forbidden
      else do
        let action := QueryDict.get? post "action"
        if action = some "grant" then do
          setStaff userId true
          when profile.role.isNone (write (fun s => s.setRole userId (some .admin)))
        else when (decide (action = some "revoke")) (setStaff userId false)
        pure (.redirect "accounts:user_list" none)

def ensureSuperuser (env : AuthEnv) : Auth Unit := do
  let existing ← read (fun s => s.named env.superuserUsername)
  if !existing.isEmpty then pure ()
  else do
    let user ← createAccount env (.str env.superuserUsername) (env.normalizeEmail env.superuserEmail) true
    let s ← read id
    match s.profiles.get? user.id with
    | some _ => fail .integrity
    | none => write (fun s => s.addProfile { user := user.id, role := some .admin })

end SensorServer
