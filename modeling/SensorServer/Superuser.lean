import SensorServer.Accounts
import Mathlib.Data.Fintype.BigOperators
import Mathlib.Data.Fintype.Pi

/-! Whether the superuser of the settings keeps its rights: the two pages know it by its name,
and a login may rewrite the name. -/
namespace SensorServer
open Program

/-- The row of an account, as far as it exists, and its profile are as before. -/
structure KeepsAccount (id : Nat) (s t : Accounts) : Prop where
  user : ∀ u, s.users.get? id = some u → t.users.get? id = some u
  profile : ∀ p, s.profiles.get? id = some p → t.profiles.get? id = some p

theorem keepsAccount_closed (id : Nat) : Closed (KeepsAccount id) :=
  ⟨fun _ => ⟨fun _ known => known, fun _ known => known⟩,
    fun h k => ⟨fun u known => k.user u (h.user u known), fun p known => k.profile p (h.profile p known)⟩⟩

section Rows
variable {id other : Nat} {s : Accounts}

theorem get?_insert {username email : String} {staff : Bool} {u : Account} (known : s.users.get? id = some u) :
    (s.insert username email staff).users.get? id = some u := by
  unfold Accounts.insert
  split
  · obtain ⟨member, same⟩ := Table.get?_eq_some.mp known
    exact Table.get?_eq_some.mpr ⟨List.mem_append_left _ member, same⟩
  · exact known

theorem get?_updateUser {f : Account → Account} {keep : ∀ u, (f u).id = u.id} :
    (s.updateUser other f keep).users.get? id =
    (s.users.get? id).map (fun u => if u.id = other then f u else u) := by
  have row := Table.get?_update s.users.toTable (fun u => decide (u.id = other)) f keep id
  simp only [decide_eq_true_eq] at row
  exact row

theorem get?_addProfile {p q : UserProfile} (known : s.profiles.get? id = some p) :
    (s.addProfile q).profiles.get? id = some p := by
  by_cases own : q.user = id
  · subst own
    have same : s.profiles.insert q = s.profiles := Table.insert_taken known
    rw [Accounts.addProfile, same, known]
  · exact (Table.get?_insert_other own).trans known

theorem keepsAccount_insert {username email : String} {staff : Bool} :
    KeepsAccount id s (s.insert username email staff) := by
  refine ⟨fun _ known => get?_insert known, fun p known => ?_⟩
  unfold Accounts.insert
  split <;> exact known

theorem keepsAccount_updateUser {f : Account → Account} {keep : ∀ u, (f u).id = u.id} (ne : other ≠ id) :
    KeepsAccount id s (s.updateUser other f keep) := by
  refine ⟨fun u known => ?_, fun _ known => known⟩
  rw [get?_updateUser, known, Option.map_some, if_neg]
  rw [Table.key_get? known]
  exact ne.symm

theorem keepsAccount_ensureProfile : Upholds (KeepsAccount id) (ensureProfile other) :=
  fun _ => ⟨fun _ known => known, fun _ known => get?_addProfile known⟩

end Rows

def shieldedName (name : String) : Bool := !name.toList.contains '@' && decide (pyLen name ≤ 30)

section Claims
variable {env : AuthEnv} {claims : Fields} {user : UserInstance} {s t : Accounts} {id : Nat}

theorem claimed_spec {saved : UserInstance} (read : claimed claims user = some saved) :
    saved.id = user.id ∧ saved.email = claim claims "email" user.email ∧
      (saved.username = user.username ∨ atIn user.username = some true ∨ lengthOf user.username > 30) := by
  unfold claimed at read
  split at read
  · next name external _ at_ =>
    obtain ⟨names, -, rfl⟩ := Option.map_eq_some_iff.mp read
    refine ⟨rfl, rfl, ?_⟩
    dsimp only
    split
    · next rewritten =>
      rw [Bool.or_eq_true, decide_eq_true_eq] at rewritten
      rcases rewritten with rfl | long
      · exact .inr (.inl at_)
      · exact .inr (.inr long)
    · exact .inl rfl
  · cases read

/-- What the update of the names can do: nothing, or one row with the e-mail of the claims. -/
theorem updateUserFromClaims_cases :
    (∃ e, outcome (updateUserFromClaims env user claims) s = (.error e, s)) ∨
    ∃ saved username first last email, claimed claims user = some saved ∧
      env.column saved.username = some username ∧ env.column saved.email = some email ∧
      outcome (updateUserFromClaims env user claims) s = (.ok (), s.updateUser user.id (fun u =>
        { u with username := username, firstName := first, lastName := last, email := email })
          (fun _ => rfl)) := by
  unfold updateUserFromClaims
  cases read : claimed claims user with
  | none => exact .inl ⟨_, rfl⟩
  | some saved =>
    dsimp only
    unfold saveUser
    split
    · next username first last email name _ _ mail =>
      split
      · rw [outcome_bind, outcome_read]
        dsimp only
        split
        · exact .inl ⟨_, rfl⟩
        · rw [(claimed_spec read).1]
          exact .inr ⟨saved, username, first, last, email, rfl, name, mail, rfl⟩
      · exact .inl ⟨_, rfl⟩
    · exact .inl ⟨_, rfl⟩

theorem keepsAccount_updateUserFromClaims (ne : user.id ≠ id) :
    Upholds (KeepsAccount id) (updateUserFromClaims env user claims) := by
  intro s
  rcases @updateUserFromClaims_cases env claims user s with ⟨e, run⟩ | ⟨_, _, _, _, _, -, -, -, run⟩
  · rw [after, run]
    exact (keepsAccount_closed id).refl s
  · rw [after, run]
    exact keepsAccount_updateUser ne

theorem createAccount_cases {username : Json} {email : String} {staff : Bool} :
    (∃ e, outcome (createAccount env username email staff) s = (.error e, s)) ∨
    ∃ text user, outcome (createAccount env username email staff) s = (.ok user, s.insert text email staff) ∧
      user.id = s.users.next ∧ s.users.next < maxAccounts ∧ s.named text = [] ∧
      varchar 150 text = true ∧ varchar 254 email = true ∧
      ∀ name, username = .str name → text = env.normalizeUsername name := by
  unfold createAccount
  split
  · exact .inl ⟨_, rfl⟩
  · dsimp only
    split
    · exact .inl ⟨_, rfl⟩
    · next text column =>
      split
      · next valid =>
        rw [Bool.and_eq_true] at valid
        rw [outcome_bind, outcome_read]
        dsimp only [id]
        split
        · exact .inl ⟨_, rfl⟩
        · next free =>
          split
          · next room =>
            refine .inr ⟨text, _, rfl, rfl, room, by simpa using free, valid.1, valid.2, ?_⟩
            rintro name rfl
            exact (Option.some.inj column).symm
          · exact .inl ⟨_, rfl⟩
      · exact .inl ⟨_, rfl⟩

theorem keepsAccount_createUser {u : Account} (known : s.users.get? id = some u) :
    KeepsAccount id s (after (createUser env claims) s) := by
  unfold createUser
  dsimp only
  split
  swap
  · exact (keepsAccount_closed id).refl s
  next username mail _ _ =>
  rcases @createAccount_cases env s username mail false with ⟨e, run⟩ | ⟨text, user, run, new, -⟩
  · rw [after_bind_error run]
    exact (keepsAccount_closed id).refl s
  · rw [after_bind_ok run]
    have older : user.id ≠ id := by
      have below := s.users.below u (Table.get?_eq_some.mp known).1
      rw [Table.key_get? known] at below
      omega
    exact (keepsAccount_closed id).trans keepsAccount_insert
      (Upholds.bind (keepsAccount_closed id) (keepsAccount_updateUserFromClaims older)
        (fun _ => keepsAccount_ensureProfile) _)

theorem filterUsersByClaims_cases :
    (∃ e, outcome (filterUsersByClaims env claims) s = (.error e, s)) ∨
    outcome (filterUsersByClaims env claims) s = (.ok [], s) ∨
    ∃ value text, Dict.get? claims "email" = some value ∧ env.column value = some text ∧ text ≠ "" ∧
      outcome (filterUsersByClaims env claims) s = (.ok (s.mailed text), s) := by
  unfold filterUsersByClaims claim
  cases given : Dict.get? claims "email" with
  | none => exact .inr (.inl rfl)
  | some value =>
    dsimp only
    rw [Option.getD_some]
    split
    · exact .inr (.inl rfl)
    · next truthy =>
      split
      · exact .inr (.inl rfl)
      · next text column =>
        split
        · refine .inr (.inr ⟨value, text, rfl, column, ?_, rfl⟩)
          cases value with
          | null => cases column
          | str s =>
            cases column
            simpa [Json.truthy] using truthy
          | _ => exact Option.some.inj column ▸ env.pyStr_ne_empty _
        · exact .inl ⟨_, rfl⟩

theorem mem_mailed {email : String} {u : Account} : u ∈ s.mailed email ↔ u ∈ s.users.rows ∧ u.email = email := by
  simp [Accounts.mailed]

/-- What an account keeps at a login: all but its names, and the name as well where it has the
shape of one or the address does not single the account out. -/
structure Retains (s t : Accounts) (u v : Account) : Prop where
  found : t.users.get? u.id = some v
  email : v.email = u.email
  staff : v.isStaff = u.isStaff
  superuser : v.isSuperuser = u.isSuperuser
  username : v.username = u.username ∨ shieldedName u.username = false ∧ u.email ≠ "" ∧ s.mailed u.email = [u]
  profile : ∀ p, s.profiles.get? u.id = some p → t.profiles.get? u.id = some p

theorem retains_of_keeps {u : Account} (known : s.users.get? u.id = some u) (keeps : KeepsAccount u.id s t) :
    Retains s t u u := ⟨keeps.user u known, rfl, rfl, rfl, .inl rfl, keeps.profile⟩

theorem retains_updateUser {u : Account} {value : Json} {text : String} (known : s.users.get? u.id = some u)
    (given : Dict.get? claims "email" = some value) (column : env.column value = some text) (some_ : text ≠ "")
    (matched : s.mailed text = [u]) :
    ∃ v, Retains s (after (updateUser env u claims) s) u v := by
  have own : u.email = text := (mem_mailed.mp (matched ▸ List.mem_singleton.mpr rfl)).2
  unfold updateUser
  rcases @updateUserFromClaims_cases env claims u.instance s with ⟨e, run⟩ |
    ⟨saved, username, first, last, email, read, name, mail, run⟩
  · rw [after_bind_error run]
    exact ⟨u, retains_of_keeps known ((keepsAccount_closed u.id).refl s)⟩
  · rw [after_bind_ok run]
    obtain ⟨-, given_, rewritten⟩ := claimed_spec read
    rw [claim, given] at given_
    rw [given_, Option.getD_some, column] at mail
    refine ⟨{ u with username := username, firstName := first, lastName := last, email := email }, ?_,
      (Option.some.inj mail).symm.trans own.symm, rfl, rfl, ?_, fun p => get?_addProfile⟩
    · change (s.updateUser u.id _ _).users.get? u.id = _
      rw [get?_updateUser, known, Option.map_some, if_pos rfl]
    · cases shape : shieldedName u.username with
      | false => exact .inr ⟨rfl, own ▸ some_, own ▸ matched⟩
      | true =>
        rw [shieldedName, Bool.and_eq_true, Bool.not_eq_true', decide_eq_true_eq] at shape
        rcases rewritten with same | external | long
        · rw [same] at name
          exact .inl (Option.some.inj name).symm
        · have at_ := Option.some.inj external
          rw [shape.1] at at_
          cases at_
        · exact absurd shape.2 (not_le.mpr long)

theorem retains_login {u : Account} (known : s.users.get? u.id = some u) :
    ∃ v, Retains s (after (oidcLogin env claims) s) u v := by
  have same : ∃ v, Retains s s u v := ⟨u, retains_of_keeps known ((keepsAccount_closed u.id).refl s)⟩
  have created : ∃ v, Retains s (after (createUser env claims) s) u v :=
    ⟨u, retains_of_keeps known (keepsAccount_createUser known)⟩
  unfold oidcLogin
  split
  · exact same
  · rcases @filterUsersByClaims_cases env claims s with ⟨e, run⟩ | run | ⟨value, text, given, column, some_, run⟩
    · rw [after_bind_error run]
      exact same
    · rw [after_bind_ok run]
      exact created
    · rw [after_bind_ok run]
      split
      · next user matched =>
        by_cases own : user.id = u.id
        · have member : user ∈ s.users.rows := (mem_mailed.mp (matched ▸ List.mem_singleton.mpr rfl)).1
          cases s.users.eq_of_id member (Table.get?_eq_some.mp known).1 own
          exact retains_updateUser known given column some_ matched
        · exact ⟨u, retains_of_keeps known (Upholds.bind (keepsAccount_closed u.id)
            (keepsAccount_updateUserFromClaims own) (fun _ => keepsAccount_ensureProfile) s)⟩
      · exact created
      · exact same

end Claims

inductive SiteVisit where
  | login (claims : Fields)
  | setRole (session : Option Nat) (isPost : Bool) (userId : Nat) (post : QueryDict)
  | setSuperadmin (session : Option Nat) (isPost : Bool) (userId : Nat) (post : QueryDict)

def visit (env : AuthEnv) (s : Accounts) : SiteVisit → Accounts
  | .login claims => after (oidcLogin env claims) s
  | .setRole session isPost userId post => after (userSetRoleView env session isPost userId post) s
  | .setSuperadmin session isPost userId post => after (userSetSuperadminView env session isPost userId post) s

section Pages
variable {env : AuthEnv} {s : Accounts} {session : Option Nat} {isPost : Bool} {userId : Nat} {post : QueryDict}

theorem after_profileOr404 {page : UserProfile → Account → Auth Response} :
    after (profileOr404 userId page) s = s ∨ ∃ profile account, s.profiles.get? userId = some profile ∧
      s.users.get? userId = some account ∧ after (profileOr404 userId page) s =
        after (page profile account) s := by
  unfold profileOr404
  rw [after_read_bind]
  cases row : s.profiles.get? userId with
  | none => exact .inl rfl
  | some profile =>
    cases known : s.users.get? userId with
    | none => exact .inl rfl
    | some account => exact .inr ⟨profile, account, rfl, rfl, rfl⟩

/-- A page does nothing, or changes a role or the staff flags of an account with another name. -/
theorem userSetRoleView_cases : after (userSetRoleView env session isPost userId post) s = s ∨
    ∃ account role, s.users.get? userId = some account ∧ isEnvSuperuser env account = false ∧
      after (userSetRoleView env session isPost userId post) s = s.setRole userId role := by
  unfold userSetRoleView
  rw [after_read_bind]
  split
  · exact .inl rfl
  split
  · exact .inl rfl
  split
  · exact .inl rfl
  rcases @after_profileOr404 s userId _ with same | ⟨profile, account, -, known, opened⟩
  · exact .inl same
  rw [opened]
  split
  · exact .inl rfl
  next other =>
  rw [Bool.not_eq_true] at other
  cases asked : QueryDict.get? post "role" with
  | none => exact .inl rfl
  | some role =>
    dsimp only
    cases choice : roleChoice role with
    | some chosen => exact .inr ⟨account, some chosen, known, other, rfl⟩
    | none =>
      by_cases revoke : role = "revoke"
      · rw [decide_eq_true revoke]
        exact .inr ⟨account, none, known, other, rfl⟩
      · rw [decide_eq_false revoke]
        exact .inl rfl

theorem userSetSuperadminView_cases : after (userSetSuperadminView env session isPost userId post) s = s ∨
    ∃ account staff, s.users.get? userId = some account ∧ isEnvSuperuser env account = false ∧
      (after (userSetSuperadminView env session isPost userId post) s = after (setStaff userId staff) s ∨
        after (userSetSuperadminView env session isPost userId post) s =
          (after (setStaff userId staff) s).setRole userId (some .admin)) := by
  unfold userSetSuperadminView
  split
  · exact .inl rfl
  rw [after_read_bind]
  split
  · exact .inl rfl
  rcases @after_profileOr404 s userId _ with same | ⟨profile, account, -, known, opened⟩
  · exact .inl same
  rw [opened]
  split
  · exact .inl rfl
  next other =>
  rw [Bool.not_eq_true] at other
  dsimp only
  split
  · refine .inr ⟨account, true, known, other, ?_⟩
    cases missing : profile.role.isNone with
    | true => exact .inr rfl
    | false => exact .inl rfl
  · by_cases revoke : QueryDict.get? post "action" = some "revoke"
    · rw [decide_eq_true revoke]
      exact .inr ⟨account, false, known, other, .inl rfl⟩
    · rw [decide_eq_false revoke]
      exact .inl rfl

theorem get?_setRole {id : Nat} {role : Option Role} : (s.setRole userId role).profiles.get? id =
    (s.profiles.get? id).map (fun p => if p.user = userId then { p with role := role } else p) := by
  have row := Table.get?_update s.profiles (fun p => decide (p.user = userId)) (fun p => { p with role := role })
    (fun _ => rfl) id
  simp only [decide_eq_true_eq] at row
  exact row

theorem keepsAccount_setRole {id : Nat} {role : Option Role} (ne : userId ≠ id) :
    KeepsAccount id s (s.setRole userId role) := by
  refine ⟨fun _ known => known, fun p known => ?_⟩
  rw [get?_setRole, known, Option.map_some, if_neg]
  rw [Table.key_get? known]
  exact ne.symm

theorem mail_setStaff {id : Nat} {staff : Bool} {u : Account} (known : s.users.get? id = some u) :
    ∃ v, (after (setStaff userId staff) s).users.get? id = some v ∧ v.email = u.email := by
  refine ⟨if u.id = userId then { u with isStaff := staff, isSuperuser := staff } else u, ?_, ?_⟩
  · change (s.updateUser userId _ _).users.get? id = _
    rw [get?_updateUser, known, Option.map_some]
  · split <;> rfl

end Pages

section Visits
variable {env : AuthEnv} {s : Accounts} {id : Nat} {u : Account}

theorem keepsAccount_page (known : s.users.get? id = some u) (named : u.username = env.superuserUsername) :
    ∀ e, (∀ claims, e ≠ .login claims) → KeepsAccount id s (visit env s e) := by
  have closed := keepsAccount_closed id
  have apart : ∀ userId account, s.users.get? userId = some account → isEnvSuperuser env account = false →
      userId ≠ id := by
    rintro userId account found other rfl
    cases known.symm.trans found
    rw [isEnvSuperuser, decide_eq_true named] at other
    cases other
  intro e page
  cases e with
  | login claims => exact absurd rfl (page claims)
  | setRole session isPost userId post =>
    rcases @userSetRoleView_cases env s session isPost userId post with same | ⟨account, role, found, other, ran⟩
    · rw [visit, same]
      exact closed.refl s
    · rw [visit, ran]
      exact keepsAccount_setRole (apart userId account found other)
  | setSuperadmin session isPost userId post =>
    rcases @userSetSuperadminView_cases env s session isPost userId post with
      same | ⟨account, staff, found, other, ran⟩
    · rw [visit, same]
      exact closed.refl s
    · have ne := apart userId account found other
      have staffed : KeepsAccount id s (after (setStaff userId staff) s) := keepsAccount_updateUser ne
      rcases ran with ran | ran
      · rw [visit, ran]
        exact staffed
      · rw [visit, ran]
        exact closed.trans staffed (keepsAccount_setRole ne)

theorem mail_visit (known : s.users.get? u.id = some u) (e : SiteVisit) :
    ∃ v, (visit env s e).users.get? u.id = some v ∧ v.email = u.email := by
  cases e with
  | login claims =>
    obtain ⟨v, retains⟩ := @retains_login env claims s u known
    exact ⟨v, retains.found, retains.email⟩
  | setRole session isPost userId post =>
    rcases @userSetRoleView_cases env s session isPost userId post with same | ⟨_, _, -, -, ran⟩
    · rw [visit, same]
      exact ⟨u, known, rfl⟩
    · rw [visit, ran]
      exact ⟨u, known, rfl⟩
  | setSuperadmin session isPost userId post =>
    rcases @userSetSuperadminView_cases env s session isPost userId post with same | ⟨_, _, -, -, ran | ran⟩
    · rw [visit, same]
      exact ⟨u, known, rfl⟩
    · rw [visit, ran]
      exact mail_setStaff known
    · rw [visit, ran]
      exact mail_setStaff known

end Visits

structure Privileged (s : Accounts) (id : Nat) : Prop where
  account : ∃ u, s.users.get? id = some u ∧ u.isStaff = true ∧ u.isSuperuser = true
  role : ∃ p, s.profiles.get? id = some p ∧ p.role = some .admin

structure Shielded (env : AuthEnv) (id : Nat) (s : Accounts) : Prop where
  account : ∃ u, s.users.get? id = some u ∧ u.isStaff = true ∧ u.isSuperuser = true ∧
    u.username = env.superuserUsername ∧ (shieldedName u.username = true ∨ u.email = "" ∨
      ∃ v, v.id ≠ u.id ∧ s.users.get? v.id = some v ∧ v.email = u.email)
  role : ∃ p, s.profiles.get? id = some p ∧ p.role = some .admin

theorem Shielded.privileged {env : AuthEnv} {id : Nat} {s : Accounts} (shielded : Shielded env id s) :
    Privileged s id := by
  obtain ⟨⟨u, known, staff, superuser, -⟩, role⟩ := shielded
  exact ⟨⟨u, known, staff, superuser⟩, role⟩

/-- A visit from the view of the shielded account. -/
theorem shielded_kept {env : AuthEnv} {s : Accounts} {u : Account} (known : s.users.get? u.id = some u)
    (named : u.username = env.superuserUsername) (spared : shieldedName u.username = true ∨ u.email = "" ∨
      ∃ v, v.id ≠ u.id ∧ s.users.get? v.id = some v ∧ v.email = u.email) (e : SiteVisit) :
    ∃ v, Retains s (visit env s e) u v ∧ v.username = u.username := by
  by_cases login : ∃ claims, e = .login claims
  · obtain ⟨claims, rfl⟩ := login
    obtain ⟨v, retains⟩ := @retains_login env claims s u known
    refine ⟨v, retains, ?_⟩
    rcases retains.username with same | ⟨shape, some_, single⟩
    · exact same
    · rcases spared with good | empty | ⟨other, ne, found, mail⟩
      · rw [shape] at good
        cases good
      · exact absurd empty some_
      · have listed : other ∈ s.mailed u.email := mem_mailed.mpr ⟨(Table.get?_eq_some.mp found).1, mail⟩
        rw [single, List.mem_singleton] at listed
        exact absurd (congrArg Account.id listed) ne
  · exact ⟨u, retains_of_keeps known (keepsAccount_page known named e
      (fun claims same => login ⟨claims, same⟩)), rfl⟩

theorem Shielded.visit {env : AuthEnv} {id : Nat} {s : Accounts} (shielded : Shielded env id s) (e : SiteVisit) :
    Shielded env id (visit env s e) := by
  obtain ⟨⟨u, known, staff, superuser, named, spared⟩, p, owned, admin⟩ := shielded
  have own : u.id = id := Table.key_get? known
  rw [← own] at known owned ⊢
  obtain ⟨v, retains, same⟩ := shielded_kept known named spared e
  have number : v.id = u.id := Table.key_get? retains.found
  refine ⟨⟨v, retains.found, retains.staff.trans staff, retains.superuser.trans superuser, same.trans named, ?_⟩,
    p, retains.profile p owned, admin⟩
  rcases spared with good | empty | ⟨other, ne, found, mail⟩
  · exact .inl (same ▸ good)
  · exact .inr (.inl (retains.email.trans empty))
  · obtain ⟨still, present, address⟩ := mail_visit found e
    have numbered : still.id = other.id := Table.key_get? present
    refine .inr (.inr ⟨still, ?_, numbered ▸ present, address.trans (mail.trans retains.email.symm)⟩)
    rw [numbered, number]
    exact ne

section Created
variable {env : AuthEnv} {s t : Accounts}

theorem ensureSuperuser_created (absent : s.named env.superuserUsername = [])
    (created : outcome (ensureSuperuser env) s = (.ok (), t)) :
    ∃ u, u.id = s.users.next ∧ t.users.rows = s.users.rows ++ [u] ∧ u.isStaff = true ∧ u.isSuperuser = true ∧
      u.firstName = "" ∧ u.lastName = "" ∧
      u.username = env.normalizeUsername env.superuserUsername ∧ u.email = env.normalizeEmail env.superuserEmail ∧
      varchar 254 u.email = true ∧
      t.profiles.get? s.users.next = some { user := s.users.next, role := some .admin } := by
  unfold ensureSuperuser at created
  rw [outcome_bind, outcome_read, absent] at created
  dsimp only [List.isEmpty_nil] at created
  rw [if_neg (by decide)] at created
  rcases @createAccount_cases env s (.str env.superuserUsername) (env.normalizeEmail env.superuserEmail) true with
    ⟨e, run⟩ | ⟨text, user, run, new, room, -, -, mail, name⟩
  · rw [outcome_bind_error run] at created
    cases created
  · rw [outcome_bind_ok run, outcome_bind, outcome_read] at created
    dsimp only [id] at created
    split at created
    · cases created
    · next vacant =>
      cases created
      refine ⟨⟨s.users.next, text, "", "", env.normalizeEmail env.superuserEmail, true, true⟩, rfl, ?_,
        rfl, rfl, rfl, rfl, name _ rfl, rfl, mail, ?_⟩
      · change (s.insert text _ true).users.rows = _
        rw [Accounts.insert, dif_pos room]
        rfl
      · rw [← new]
        exact Table.get?_insert_new vacant

end Created

/-- No login changes the name, and it is the one the pages know the account by. -/
def nameKept (env : AuthEnv) (s : Accounts) : Prop :=
  env.normalizeUsername env.superuserUsername = env.superuserUsername ∧
    (shieldedName env.superuserUsername = true ∨ env.normalizeEmail env.superuserEmail = "" ∨
      s.mailed (env.normalizeEmail env.superuserEmail) ≠ [])

section Attack
variable {env : AuthEnv} {s : Accounts} {u : Account}

/-- Under another name any account can be demoted, for one by itself. -/
theorem demoted {p : UserProfile} (known : s.users.get? u.id = some u) (superuser : u.isSuperuser = true)
    (owned : s.profiles.get? u.id = some p) (other : u.username ≠ env.superuserUsername) :
    ¬ Privileged (visit env s (.setRole (some u.id) true u.id [("role", "guest")])) u.id := by
  have ran : visit env s (.setRole (some u.id) true u.id [("role", "guest")]) = s.setRole u.id (some .guest) := by
    have user : visitor s (some u.id) = { username := u.username, isSuperuser := true, role := p.role } := by
      unfold visitor
      rw [Option.bind_some, known]
      simp [owned, superuser]
    have page : isEnvSuperuser env u = false := decide_eq_false other
    change after (userSetRoleView env (some u.id) true u.id [("role", "guest")]) s = _
    unfold userSetRoleView
    rw [after_read_bind, user]
    dsimp only
    rw [if_neg (by decide), if_neg (by simp [User.may])]
    unfold profileOr404
    rw [if_neg (by decide), after_read_bind, owned, known]
    dsimp only
    rw [page]
    rfl
  rw [ran]
  rintro ⟨-, q, found, admin⟩
  rw [get?_setRole, owned, Option.map_some, if_pos (Table.key_get? owned)] at found
  cases found
  cases admin

def lettersName (choice : Fin 40 → Bool) : String := String.ofList (List.ofFn (fun i => if choice i then 'a' else 'b'))

theorem lettersName_injective : Function.Injective lettersName := by
  intro x y same
  have letters := List.ofFn_injective (String.ofList_injective same)
  funext i
  have letter := congrFun letters i
  cases hx : x i <;> cases hy : y i <;> simp [hx, hy] at letter ⊢

theorem length_rows_le (s : Accounts) : s.users.rows.length ≤ s.users.next := by
  have inside : s.users.rows.map Account.id ⊆ List.range s.users.next := by
    intro id member
    obtain ⟨u, present, rfl⟩ := List.mem_map.mp member
    exact List.mem_range.mpr (s.users.below u present)
  simpa using s.users.unique.length_le_of_subset inside

theorem exists_unlisted {α : Type} [Fintype α] {f : α → String} (injective : Function.Injective f)
    {names : List String}
    (more : names.length < Fintype.card α) : ∃ a, f a ∉ names := by
  by_contra all
  simp only [not_exists, not_not] at all
  have inside : Finset.univ.image f ⊆ names.toFinset := by
    intro name member
    obtain ⟨a, -, rfl⟩ := Finset.mem_image.mp member
    exact List.mem_toFinset.mpr (all a)
  have fewer := (Finset.card_le_card inside).trans (List.toFinset_card_le names)
  rw [Finset.card_image_of_injective _ injective, Finset.card_univ] at fewer
  exact absurd more (not_lt.mpr fewer)

theorem exists_free (s : Accounts) :
    ∃ name, name ≠ "" ∧ name.toList.contains '@' = false ∧ varchar 150 name = true ∧
    s.named name = [] := by
  have more : (s.users.rows.map Account.username).length < Fintype.card (Fin 40 → Bool) := by
    have room : maxAccounts < 2 ^ 40 := by decide
    rw [List.length_map, Fintype.card_fun, Fintype.card_bool, Fintype.card_fin]
    exact ((length_rows_le s).trans s.numbered).trans_lt room
  obtain ⟨choice, free⟩ := exists_unlisted lettersName_injective more
  have each : ∀ c ∈ (lettersName choice).toList, c = 'a' ∨ c = 'b' := by
    intro c member
    rw [lettersName, String.toList_ofList, List.mem_ofFn] at member
    obtain ⟨i, rfl⟩ := member
    split <;> simp
  refine ⟨lettersName choice, ?_, ?_, ?_, ?_⟩
  · intro empty
    have length := congrArg (fun s => s.toList.length) empty
    rw [lettersName, String.toList_ofList, List.length_ofFn] at length
    cases length
  · rw [← Bool.not_eq_true, List.contains_iff_mem]
    intro at_
    rcases each _ at_ with h | h <;> cases h
  · rw [varchar, nulFree, Bool.and_eq_true, List.all_eq_true]
    refine ⟨fun c member => ?_, by rw [lettersName, String.toList_ofList, List.length_ofFn]; decide⟩
    rcases each c member with rfl | rfl <;> decide
  · rw [Accounts.named, List.filter_eq_nil_iff]
    intro u present same
    rw [decide_eq_true_eq] at same
    exact free (List.mem_map.mpr ⟨u, present, same⟩)

theorem renamed {name : String} (known : s.users.get? u.id = some u) (blank : u.firstName = "" ∧ u.lastName = "")
    (exposed : shieldedName u.username = false) (some_ : u.email ≠ "") (address : varchar 254 u.email = true)
    (single : s.mailed u.email = [u]) (verified : ∀ claims, (Dict.get? claims "email").isSome →
      env.verifyClaims claims = true)
    (word : name ≠ "") (plain : name.toList.contains '@' = false) (short : varchar 150 name = true)
    (free : s.named name = []) :
    let v := visit env s (.login [("email", .str u.email), ("preferred_username", .str name)])
    v.users.get? u.id = some { u with username := name } ∧
      ∀ p, s.profiles.get? u.id = some p → v.profiles.get? u.id = some p := by
  generalize claims_ : ([("email", .str u.email), ("preferred_username", .str name)] : Fields) = claims
  have mail : Dict.get? claims "email" = some (.str u.email) := by rw [← claims_]; rfl
  have picked : extractUsername claims (.str u.username) = some (.str name) := by
    have key : claim claims "preferred_username" (.str "") = .str name := by rw [← claims_]; rfl
    have truthy : Json.truthy (.str name) = true := decide_eq_true word
    have outside : atIn (.str name) = some false := congrArg some plain
    unfold extractUsername pickedName
    rw [key, if_pos truthy, outside]
  have rewrites : (u.username.toList.contains '@' || decide (lengthOf (.str u.username) > 30)) = true := by
    rw [shieldedName, Bool.and_eq_false_iff, Bool.not_eq_false', decide_eq_false_iff_not, not_le] at exposed
    rw [Bool.or_eq_true, decide_eq_true_eq]
    exact exposed
  have read : claimed claims u.instance = some { u.instance with username := .str name } := by
    have inside : atIn (.str u.username) = some (u.username.toList.contains '@') := rfl
    have names : fullNames claims (claim claims "given_name" (orEmpty (.str u.firstName)))
        (claim claims "family_name" (orEmpty (.str u.lastName))) = some (.str "", .str "") := by
      rw [blank.1, blank.2, ← claims_]
      rfl
    unfold claimed Account.instance
    dsimp only
    rw [picked, inside]
    dsimp only
    rw [names, rewrites, claim, mail, blank.1, blank.2]
    rfl
  have saved : outcome (updateUserFromClaims env u.instance claims) s = (.ok (), s.updateUser u.id (fun v =>
      { v with username := name, firstName := "", lastName := "", email := u.email }) (fun _ => rfl)) := by
    have unused : taken s u.id name = false := by rw [taken, free]; rfl
    unfold updateUserFromClaims
    rw [read]
    unfold saveUser Account.instance AuthEnv.column
    dsimp only
    rw [blank.1, blank.2, if_pos (by rw [short, address]; decide), outcome_bind, outcome_read]
    dsimp only
    rw [unused]
    rfl
  have found : outcome (filterUsersByClaims env claims) s = (.ok [u], s) := by
    have truthy : Json.truthy (.str u.email) = true := decide_eq_true some_
    rw [varchar, Bool.and_eq_true] at address
    unfold filterUsersByClaims claim AuthEnv.column
    rw [mail, Option.getD_some]
    dsimp only
    rw [truthy, if_neg (by decide), if_pos address.1, outcome_read, single]
  have ran : visit env s (.login claims) = after (ensureProfile u.id) (s.updateUser u.id (fun v =>
      { v with username := name, firstName := "", lastName := "", email := u.email }) (fun _ => rfl)) := by
    change after (oidcLogin env claims) s = _
    unfold oidcLogin
    rw [verified claims (by rw [mail]; rfl), if_neg (by decide), after_bind_ok found]
    exact after_bind_ok saved
  rw [ran]
  refine ⟨?_, fun p => get?_addProfile⟩
  change (s.updateUser u.id _ _).users.get? u.id = _
  rw [get?_updateUser, known, Option.map_some, if_pos rfl]
  obtain ⟨first, last⟩ := blank
  cases u
  cases first
  cases last
  rfl

end Attack

/-- The account keeps its rights in every run exactly if its name stays the one of the settings. -/
theorem superuser_kept_iff {env : AuthEnv} {s t : Accounts}
    (verified : ∀ claims, (Dict.get? claims "email").isSome → env.verifyClaims claims = true)
    (absent : s.named env.superuserUsername = []) (created : outcome (ensureSuperuser env) s = (.ok (), t)) :
    (∀ es, Privileged (Run.run (visit env) t es) s.users.next) ↔ nameKept env s := by
  obtain ⟨u, number, rows, staff, superuser, first, last, name, mail, address, owned⟩ :=
    ensureSuperuser_created absent created
  have known : t.users.get? u.id = some u :=
    Table.get?_eq_some.mpr ⟨rows ▸ List.mem_append_right _ (List.mem_singleton.mpr rfl), rfl⟩
  have matches_ : t.mailed u.email = s.mailed u.email ++ [u] := by
    unfold Accounts.mailed
    rw [rows, List.filter_append]
    simp
  rw [← number] at owned ⊢
  unfold nameKept
  rw [← name, ← mail]
  constructor
  · intro kept
    have same : u.username = env.superuserUsername := by
      by_contra other
      exact demoted known superuser owned other (kept [.setRole (some u.id) true u.id [("role", "guest")]])
    refine ⟨same, ?_⟩
    by_contra open_
    rw [not_or, not_or, not_not, Bool.not_eq_true] at open_
    obtain ⟨exposed, some_, alone⟩ := open_
    rw [← same] at exposed
    obtain ⟨free, word, plain, short, unused⟩ := exists_free t
    obtain ⟨found, still⟩ := renamed known ⟨first, last⟩ exposed some_ address
      (by rw [matches_, alone]; rfl) verified
      word plain short unused
    have other : free ≠ env.superuserUsername := by
      rintro rfl
      have listed : u ∈ t.named u.username := by
        simp only [Accounts.named, List.mem_filter, decide_eq_true_eq, and_true]
        exact (Table.get?_eq_some.mp known).1
      rw [same, unused] at listed
      cases listed
    exact @demoted env _ { u with username := free } _ found superuser (still _ owned) other
      (kept [.login _, .setRole (some u.id) true u.id [("role", "guest")]])
  · rintro ⟨same, spared⟩ es
    have start : Shielded env u.id t := by
      refine ⟨⟨u, known, staff, superuser, same, ?_⟩, _, owned, rfl⟩
      rcases spared with good | empty | doubled
      · exact .inl (same ▸ good)
      · exact .inr (.inl empty)
      · obtain ⟨v, member⟩ := List.exists_mem_of_ne_nil _ doubled
        obtain ⟨present, equal⟩ := mem_mailed.mp member
        have older := s.users.below v present
        exact .inr (.inr ⟨v, by omega, Table.get?_eq_some.mpr ⟨rows ▸ List.mem_append_left _ present, rfl⟩, equal⟩)
    exact (Run.invariant (fun _ e shielded _ => shielded.visit e) start
      (@Run.along_of_all _ _ _ (fun _ _ => True) t es (fun _ _ _ => trivial))).privileged

def noAccounts : Accounts := ⟨Serial.empty _, Table.empty _, by decide⟩

def siteEnv (username : String) : AuthEnv := { superuserUsername := username, superuserEmail := "root@example.com" }

theorem admin_kept : (outcome (ensureSuperuser (siteEnv "admin")) noAccounts).1.isOk = true ∧
    ∀ es, Privileged
      (Run.run (visit (siteEnv "admin")) (after (ensureSuperuser (siteEnv "admin")) noAccounts) es) 0 := by
  have created : (outcome (ensureSuperuser (siteEnv "admin")) noAccounts).1.isOk = true := by decide +kernel
  have kept : nameKept (siteEnv "admin") noAccounts := ⟨rfl, .inl (by decide)⟩
  exact ⟨created, (superuser_kept_iff (fun _ given => given) (by decide) (outcome_of_isOk created)).mpr kept⟩

/-- The login takes the name from the claims, and the page no longer knows the account. -/
theorem addressName_demoted :
    let env := siteEnv "root@example.com"
    let start := after (ensureSuperuser env) noAccounts
    let run := [SiteVisit.login [("email", .str "root@example.com"), ("preferred_username", .str "root")],
      .setRole (some 0) true 0 [("role", "guest")]]
    (outcome (ensureSuperuser env) noAccounts).1.isOk = true ∧ Privileged start 0 ∧
      ¬ Privileged (Run.run (visit env) start run) 0 := by
  refine ⟨by decide +kernel, ⟨⟨_, rfl, rfl, rfl⟩, _, rfl, rfl⟩, ?_⟩
  rintro ⟨-, p, found, admin⟩
  have guest : ((Run.run (visit (siteEnv "root@example.com")) (after (ensureSuperuser (siteEnv "root@example.com"))
      noAccounts) [SiteVisit.login [("email", .str "root@example.com"), ("preferred_username", .str "root")],
      .setRole (some 0) true 0 [("role", "guest")]]).profiles.get? 0).map UserProfile.role =
        some (some .guest) := by
    decide +kernel
  rw [found, Option.map_some, admin] at guest
  cases guest

end SensorServer
