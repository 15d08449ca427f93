import FlutterApp.Login.Login

/-!
One Google login by itself, as the program writes it: a chain of awaits and assertions in
one try block whose handler prints. How each awaited call completes is given beforehand.
Run as a task of the screen, with nothing else between, it has the same effect.
-/

namespace FlutterApp

/-- Why a token cannot be had: the user or the token is invalid, or anything else. -/
inductive TokenError where
  | invalidToken (error : Thrown)
  | other (error : Thrown)
  deriving DecidableEq

/-- How the awaited calls of a login complete, should they be reached. -/
structure LoginSteps where
  signIn : Except Thrown (Option GoogleSignInAccount)
  authentication : Except Thrown Unit
  signInWithCredential : Except Thrown FirebaseUser
  getIdToken : Except TokenError (Option String)
  currentUser : Except Thrown (Option FirebaseUser)
  /-- The credential is the account's. -/
  account_eq : ∀ account user, signIn = .ok (some account) → signInWithCredential = .ok user →
    user.account = account

/-- Code that may throw and changes the screen, also when it throws. -/
abbrev LoginCode := ExceptT Thrown (StateM Login)

namespace Login

/-- The callback of signInWithCredential, which sets user_ at its end. -/
def thenSignedIn (user : FirebaseUser) : LoginCode FirebaseUser := do
  liftM (assertUser user)
  let (widget, thrown) := (← get).widget.setState (setPhoto user)
  modify fun s => { s with widget := widget }
  liftM thrown
  return user

/-- The assertion that compares user_ with the current user, whose uid is read first. -/
def assertSame (user_ : FirebaseUser) : Option FirebaseUser → Except Thrown Unit
  | none => .error .noSuchMethodError
  | some currentUser => if user_.uid = currentUser.uid then .ok () else .error .assertionError

/-- The plugin signs a user out whose token it finds invalid. -/
def getIdToken (steps : LoginSteps) (user_ : FirebaseUser) : LoginCode (Option String) :=
  match steps.getIdToken with
  | .ok token => return token
  | .error (.invalidToken error) => do
      modify fun s => s.signOutByForce user_.uid
      throw error
  | .error (.other error) => throw error

/-- What follows once user_ is set. -/
def checkUser (steps : LoginSteps) (user_ : FirebaseUser) : LoginCode Unit := do
  let token ← getIdToken steps user_
  if token = none then throw .assertionError
  let currentUser ← liftM steps.currentUser
  liftM (assertSame user_ currentUser)

/-- The try block. -/
def tryLogin (steps : LoginSteps) : LoginCode Unit := do
  let account ← liftM steps.signIn
  modify fun s => { s.assignCurrentUser account with google := account.or s.google }
  -- authentication is a getter, and null has none
  if account = none then throw .noSuchMethodError
  liftM steps.authentication
  let user ← liftM steps.signInWithCredential
  modify fun s => { s with firebase := some user }
  let user_ ← thenSignedIn user
  checkUser steps user_

/-- The screen after the call, and what the call completes with. -/
def handleLoginGoogle (steps : LoginSteps) (s : Login) : Login × Option FirebaseUser :=
  match (tryLogin steps).run.run s with
  -- nothing is returned at the end of the try block
  | (.ok (), next) => (next, none)
  -- the handler prints the error
  | (.error _, next) => (next, none)

end Login

namespace LoginSteps

/-- The user whose session the login starts. -/
def sessionUser (steps : LoginSteps) : Option FirebaseUser :=
  match steps.signIn, steps.authentication, steps.signInWithCredential with
  | .ok (some _), .ok (), .ok user => some user
  | _, _, _ => none

/-- The user whose picture the login shows. -/
def shownUser (steps : LoginSteps) (mounted : Bool) : Option FirebaseUser :=
  steps.sessionUser.filter fun user => mounted && decide (Login.assertUser user = .ok ())

theorem shownUser_of_session {steps : LoginSteps} {user : FirebaseUser}
    (h : steps.sessionUser = some user) (mounted : Bool) : steps.shownUser mounted =
      if mounted = true ∧ Login.assertUser user = .ok () then some user else none := by
  simp only [shownUser, h, Option.filter_some, Bool.and_eq_true, decide_eq_true_eq]

def tokenInvalid (steps : LoginSteps) : Bool :=
  match steps.getIdToken with
  | .error (.invalidToken _) => true
  | _ => false

/-- The lookup of the token is reached, and signs the user out. -/
def signsOut (steps : LoginSteps) (mounted : Bool) : Bool :=
  (steps.shownUser mounted).isSome && steps.tokenInvalid

/-- Every step succeeds, the update of the screen included. -/
def Succeed (steps : LoginSteps) (mounted : Bool) : Prop :=
  ∃ account user token currentUser, steps.signIn = .ok (some account) ∧
    steps.authentication = .ok () ∧ steps.signInWithCredential = .ok user ∧
    Login.assertUser user = .ok () ∧ mounted = true ∧ steps.getIdToken = .ok (some token) ∧
    steps.currentUser = .ok (some currentUser) ∧ user.uid = currentUser.uid

end LoginSteps

namespace Login

/-- What the lookup of the token does to the session. -/
def afterToken (steps : LoginSteps) (user_ : FirebaseUser) (s : Login) : Login :=
  if steps.tokenInvalid then s.signOutByForce user_.uid else s

/-- What the callback does, and the lookup of the token when the callback has set user_. -/
def afterSignIn (steps : LoginSteps) (user : FirebaseUser) (s : Login) : Login :=
  if s.widget.mounted = true ∧ assertUser user = .ok () then
    afterToken steps user (s.signedIn user).1
  else (s.signedIn user).1

theorem thenSignedIn_run (user : FirebaseUser) (s : Login) :
    ∃ error, (thenSignedIn user).run.run s =
      (if s.widget.mounted = true ∧ assertUser user = .ok () then .ok user else .error error,
        (s.signedIn user).1) := by
  obtain ⟨⟨fields, mounted, lateSetState⟩, firebase, google, tasks⟩ := s
  simp only [thenSignedIn, signedIn]
  cases assertUser user with
  | error e => exact ⟨e, by simp only [reduceCtorEq, and_false, if_false]; rfl⟩
  | ok _ =>
      cases mounted with
      | true => exact ⟨.flutterError, rfl⟩
      | false => exact ⟨.flutterError, rfl⟩

theorem checkUser_run (steps : LoginSteps) (user_ : FirebaseUser) (s : Login) :
    ((checkUser steps user_).run.run s).2 = afterToken steps user_ s := by
  cases htoken : steps.getIdToken with
  | error e =>
      cases e <;> simp only [checkUser, getIdToken, afterToken, LoginSteps.tokenInvalid, htoken] <;>
        rfl
  | ok token =>
      simp only [checkUser, getIdToken, afterToken, LoginSteps.tokenInvalid, htoken]
      cases token with
      | none => rfl
      | some token =>
          cases steps.currentUser with
          | error e => rfl
          | ok currentUser => rfl

theorem bind_run {α β : Type} (x : LoginCode α) (f : α → LoginCode β) (s : Login) :
    ((x >>= f).run.run s).2 = match x.run.run s with
      | (.ok a, next) => ((f a).run.run next).2
      | (.error _, next) => next := by
  simp only [ExceptT.run_bind, StateT.run_bind]
  cases x.run.run s with
  | mk result next => cases result <;> rfl

theorem afterSignIn_run (steps : LoginSteps) (user : FirebaseUser) (s : Login) :
    ((thenSignedIn user >>= checkUser steps).run.run s).2 = afterSignIn steps user s := by
  obtain ⟨error, hrun⟩ := thenSignedIn_run user s
  rw [bind_run, hrun, afterSignIn]
  by_cases hset : s.widget.mounted = true ∧ assertUser user = .ok ()
  · simp only [if_pos hset, checkUser_run]
  · simp only [if_neg hset]

theorem handleLoginGoogle_fst (steps : LoginSteps) (s : Login) :
    (handleLoginGoogle steps s).1 = ((tryLogin steps).run.run s).2 := by
  simp only [handleLoginGoogle]
  split
  · rename_i hrun
    rw [hrun]
  · rename_i hrun
    rw [hrun]

theorem handleLoginGoogle_eq (steps : LoginSteps) (s : Login) :
    (handleLoginGoogle steps s).1 =
      match steps.signIn with
      | .error _ => s
      | .ok account =>
          let signed := { s.assignCurrentUser account with google := account.or s.google }
          match steps.sessionUser with
          | none => signed
          | some user => afterSignIn steps user { signed with firebase := some user } := by
  rw [handleLoginGoogle_fst]
  cases hsignIn : steps.signIn with
  | error e =>
      simp only [tryLogin, hsignIn]
      rfl
  | ok account =>
      cases account with
      | none =>
          simp only [tryLogin, hsignIn, LoginSteps.sessionUser]
          rfl
      | some account =>
          cases hauthentication : steps.authentication with
          | error e =>
              simp only [tryLogin, hsignIn, hauthentication, LoginSteps.sessionUser]
              rfl
          | ok _ =>
              cases hcredential : steps.signInWithCredential with
              | error e =>
                  simp only [tryLogin, hsignIn, hauthentication, hcredential,
                    LoginSteps.sessionUser]
                  rfl
              | ok user =>
                  simp only [tryLogin, hsignIn, hauthentication, hcredential,
                    LoginSteps.sessionUser]
                  exact afterSignIn_run steps user _

theorem signedIn_fields (s : Login) (user : FirebaseUser) :
    (s.signedIn user).1.firebase = s.firebase ∧
      (s.signedIn user).1.widget.fields.currentUser = s.widget.fields.currentUser ∧
      (s.signedIn user).1.widget.fields.imageUrl =
        if s.widget.mounted = true ∧ assertUser user = .ok () then user.photoUrl
        else s.widget.fields.imageUrl := by
  obtain ⟨⟨fields, mounted, lateSetState⟩, firebase, google, tasks⟩ := s
  simp only [signedIn]
  cases hassert : assertUser user with
  | error e => exact ⟨rfl, rfl, by simp⟩
  | ok _ => cases mounted <;> exact ⟨rfl, rfl, rfl⟩

theorem afterSignIn_fields {steps : LoginSteps} {user : FirebaseUser} {s : Login}
    (hsession : steps.sessionUser = some user) (h : s.firebase = some user) :
    (afterSignIn steps user s).widget = (s.signedIn user).1.widget ∧
      (afterSignIn steps user s).firebase =
        if steps.signsOut s.widget.mounted then none else some user := by
  obtain ⟨hfirebase, -, -⟩ := signedIn_fields s user
  simp only [afterSignIn, afterToken, LoginSteps.signsOut, LoginSteps.shownUser_of_session hsession]
  by_cases hset : s.widget.mounted = true ∧ assertUser user = .ok ()
  · cases steps.tokenInvalid with
    | true => simp [hset, signOutByForce, hfirebase, h]
    | false => simp [hfirebase, h]
  · simp [hset, hfirebase, h]

/-- Each part of the state is written by its own step, and the session is ended by the lookup
of the token alone. -/
theorem login_fields (steps : LoginSteps) (s : Login) :
    (handleLoginGoogle steps s).1.widget.fields.currentUser =
        steps.signIn.toOption.getD s.widget.fields.currentUser ∧
      (handleLoginGoogle steps s).1.firebase =
        (if steps.signsOut s.widget.mounted then none else steps.sessionUser.or s.firebase) ∧
      (handleLoginGoogle steps s).1.widget.fields.imageUrl =
        ((steps.shownUser s.widget.mounted).map FirebaseUser.photoUrl).getD
          s.widget.fields.imageUrl := by
  simp only [handleLoginGoogle_eq]
  cases hsignIn : steps.signIn with
  | error e =>
      simp [LoginSteps.signsOut, LoginSteps.shownUser, LoginSteps.sessionUser, hsignIn,
        Except.toOption]
  | ok account =>
      cases hsession : steps.sessionUser with
      | none =>
          simp [LoginSteps.signsOut, LoginSteps.shownUser, hsession, assignCurrentUser,
            Except.toOption]
      | some user =>
          let signed := { s.assignCurrentUser account with
            google := account.or s.google
            firebase := some user }
          obtain ⟨-, hcurrent, himage⟩ := signedIn_fields signed user
          obtain ⟨hwidget, hfirebase⟩ := afterSignIn_fields hsession (rfl : signed.firebase = _)
          have hfields := congrArg StateObject.fields hwidget
          refine ⟨(congrArg LoginFields.currentUser hfields).trans hcurrent, hfirebase, ?_⟩
          refine (congrArg LoginFields.imageUrl hfields).trans (himage.trans ?_)
          rw [LoginSteps.shownUser_of_session hsession]
          by_cases hset : s.widget.mounted = true ∧ assertUser user = .ok ()
          · rw [if_pos hset]
            exact if_pos hset
          · rw [if_neg hset]
            exact if_neg hset

/-- The screen has the account of the user, and the session is the user's. -/
structure SignedInAs (s : Login) (user : FirebaseUser) : Prop where
  currentUser_eq : s.widget.fields.currentUser = some user.account
  imageUrl_eq : s.widget.fields.imageUrl = user.photoUrl
  firebase_eq : s.firebase = some user

/-- Neither the fields nor the Firebase session have changed. -/
structure AsBefore (s after : Login) : Prop where
  currentUser_eq : after.widget.fields.currentUser = s.widget.fields.currentUser
  imageUrl_eq : after.widget.fields.imageUrl = s.widget.fields.imageUrl
  firebase_eq : after.firebase = s.firebase

def AllOrNothing (steps : LoginSteps) (s : Login) : Prop :=
  (steps.Succeed s.widget.mounted ∧ ∃ user, (handleLoginGoogle steps s).2 = some user ∧
      SignedInAs (handleLoginGoogle steps s).1 user) ∨
    ((handleLoginGoogle steps s).2 = none ∧ AsBefore s (handleLoginGoogle steps s).1)

theorem signedInAs_of_succeed {steps : LoginSteps} {s : Login}
    (h : steps.Succeed s.widget.mounted) : ∃ user, steps.signInWithCredential = .ok user ∧
      SignedInAs (handleLoginGoogle steps s).1 user := by
  obtain ⟨account, user, token, currentUser, hsignIn, hauthentication, huser, hassert, hmounted,
    htoken, -⟩ := h
  obtain ⟨hcurrent, hfirebase, himage⟩ := login_fields steps s
  have haccount := steps.account_eq account user hsignIn huser
  have hsession : steps.sessionUser = some user := by
    simp only [LoginSteps.sessionUser, hsignIn, hauthentication, huser]
  refine ⟨user, huser, ?_, ?_, ?_⟩
  · simp only [hcurrent, hsignIn, Except.toOption, Option.getD_some, haccount]
  · rw [himage, LoginSteps.shownUser_of_session hsession, if_pos ⟨hmounted, hassert⟩]
    rfl
  · simp [hfirebase, hsession, LoginSteps.signsOut, LoginSteps.tokenInvalid, htoken]

theorem asBefore_of_signIn_failed {steps : LoginSteps} {e : Thrown} (s : Login)
    (h : steps.signIn = .error e) : AsBefore s (handleLoginGoogle steps s).1 := by
  rw [handleLoginGoogle_eq, h]
  exact ⟨rfl, rfl, rfl⟩

theorem bind_ok {α β : Type} {x : LoginCode α} {f : α → LoginCode β} {s next : Login} {b : β}
    (h : (x >>= f).run.run s = (.ok b, next)) :
    ∃ a mid, x.run.run s = (.ok a, mid) ∧ (f a).run.run mid = (.ok b, next) := by
  simp only [ExceptT.run_bind, StateT.run_bind] at h
  cases hx : x.run.run s with
  | mk result mid =>
      rw [hx] at h
      cases result with
      | error e => cases h
      | ok a => exact ⟨a, mid, rfl, h⟩

theorem checks_of_ok {steps : LoginSteps} {user_ : FirebaseUser} {s next : Login}
    (h : (checkUser steps user_).run.run s = (.ok (), next)) :
    ∃ token currentUser, steps.getIdToken = .ok (some token) ∧
      steps.currentUser = .ok (some currentUser) ∧ user_.uid = currentUser.uid := by
  cases htoken : steps.getIdToken with
  | error e => cases e <;> simp only [checkUser, getIdToken, htoken] at h <;> cases h
  | ok token =>
      simp only [checkUser, getIdToken, htoken] at h
      cases token with
      | none => cases h
      | some token =>
          cases hcurrent : steps.currentUser with
          | error e =>
              rw [hcurrent] at h
              cases h
          | ok current =>
              rw [hcurrent] at h
              cases current with
              | none => cases h
              | some current =>
                  by_cases huid : user_.uid = current.uid
                  · exact ⟨token, current, rfl, rfl, huid⟩
                  · change ((liftM (assertSame user_ (some current)) : LoginCode Unit).run.run s) =
                      (.ok (), next) at h
                    rw [assertSame, if_neg huid] at h
                    cases h

theorem set_of_ok {user user_ : FirebaseUser} {s mid : Login}
    (h : (thenSignedIn user).run.run s = (.ok user_, mid)) :
    user_ = user ∧ s.widget.mounted = true ∧ assertUser user = .ok () := by
  obtain ⟨error, hrun⟩ := thenSignedIn_run user s
  rw [hrun] at h
  by_cases hset : s.widget.mounted = true ∧ assertUser user = .ok ()
  · rw [if_pos hset] at h
    cases h
    exact ⟨rfl, hset⟩
  · rw [if_neg hset] at h
    cases h

/-- The try block comes to its end only when every step succeeds. -/
theorem succeed_of_ok {steps : LoginSteps} {s next : Login}
    (h : (tryLogin steps).run.run s = (.ok (), next)) : steps.Succeed s.widget.mounted := by
  cases hsignIn : steps.signIn with
  | error e =>
      simp only [tryLogin, hsignIn] at h
      cases h
  | ok account =>
      cases account with
      | none =>
          simp only [tryLogin, hsignIn] at h
          cases h
      | some account =>
          cases hauthentication : steps.authentication with
          | error e =>
              simp only [tryLogin, hsignIn, hauthentication] at h
              cases h
          | ok _ =>
              cases hcredential : steps.signInWithCredential with
              | error e =>
                  simp only [tryLogin, hsignIn, hauthentication, hcredential] at h
                  cases h
              | ok user =>
                  simp only [tryLogin, hsignIn, hauthentication, hcredential] at h
                  have hlast : (thenSignedIn user >>= checkUser steps).run.run
                      { s.assignCurrentUser (some account) with
                        google := some account
                        firebase := some user } = (.ok (), next) := h
                  obtain ⟨user_, mid, hthen, hcheck⟩ := bind_ok hlast
                  obtain ⟨rfl, hmounted, hassert⟩ := set_of_ok hthen
                  obtain ⟨token, currentUser, htoken, hcurrent, huid⟩ := checks_of_ok hcheck
                  exact ⟨account, user_, token, currentUser, hsignIn, hauthentication, hcredential,
                    hassert, hmounted, htoken, hcurrent, huid⟩

theorem result_of_not_succeed {steps : LoginSteps} {s : Login}
    (h : ¬ steps.Succeed s.widget.mounted) : (handleLoginGoogle steps s).2 = none := by
  simp only [handleLoginGoogle]
  split
  · rename_i hrun
    exact absurd (succeed_of_ok hrun) h
  · rfl

/-- Each part of the state is set once its own step has succeeded, and keeps its old value
before; of what comes later only a lookup of the token that finds it invalid takes something
back, the session. A call of which a step fails completes with null. So all parts are set when
every step succeeds, and none is when the first step fails. -/
theorem login_effects (steps : LoginSteps) (s : Login) :
    ((handleLoginGoogle steps s).1.widget.fields.currentUser =
          steps.signIn.toOption.getD s.widget.fields.currentUser ∧
        (handleLoginGoogle steps s).1.firebase =
          (if steps.signsOut s.widget.mounted then none else steps.sessionUser.or s.firebase) ∧
        (handleLoginGoogle steps s).1.widget.fields.imageUrl =
          ((steps.shownUser s.widget.mounted).map FirebaseUser.photoUrl).getD
            s.widget.fields.imageUrl) ∧
      (steps.Succeed s.widget.mounted → ∃ user, steps.signInWithCredential = .ok user ∧
        SignedInAs (handleLoginGoogle steps s).1 user) ∧
      (¬ steps.Succeed s.widget.mounted → (handleLoginGoogle steps s).2 = none) ∧
      ∀ e, steps.signIn = .error e → AsBefore s (handleLoginGoogle steps s).1 :=
  ⟨login_fields steps s, signedInAs_of_succeed, result_of_not_succeed,
    fun _ => asBefore_of_signIn_failed s⟩

/-- The account is chosen, and its authentication then fails. -/
def authenticationFails : LoginSteps where
  signIn := .ok (some ⟨"ann"⟩)
  authentication := .error .stateError
  signInWithCredential := .error .stateError
  getIdToken := .error (.other .stateError)
  currentUser := .error .stateError
  account_eq := nofun

theorem account_kept_after_failure : ¬ AllOrNothing authenticationFails (initial none none) := by
  intro h
  cases h with
  | inl hall =>
      obtain ⟨user, hresult, -⟩ := hall.2
      cases hresult
  | inr hnothing => cases hnothing.2.currentUser_eq

/-- The completions that resume the task once user_ is set. -/
def checkCompletions (steps : LoginSteps) (user_ : FirebaseUser) : List Completion :=
  match steps.getIdToken with
  | .error (.invalidToken _) => [.invalidToken user_.uid]
  | .error (.other e) => [.failed e]
  | .ok none => [.idToken none]
  | .ok (some token) => .idToken (some token) ::
      match steps.currentUser with
      | .error e => [.failed e]
      | .ok _ => [.currentUser]

/-- The completions that resume the task, up to the one that ends it. -/
def completions (steps : LoginSteps) (mounted : Bool) : List Completion :=
  match steps.signIn with
  | .error e => [.failed e]
  | .ok none => [.account none]
  | .ok (some account) => .account (some account) ::
      match steps.authentication with
      | .error e => [.failed e]
      | .ok () => .authentication ::
          match steps.signInWithCredential with
          | .error e => [.failed e]
          | .ok user => .user user ::
              if mounted = true ∧ assertUser user = .ok () then checkCompletions steps user
              else []

section Task
variable {s next : Login} {task : LoginTask} {completion : Completion}
  {others started : List LoginTask}

/-- A call that nothing has been started after is resumed at the end of the pool. -/
theorem run_resume_cons (htasks : s.tasks = others ++ [task])
    (h : s.advance task completion = some (next, started)) (rest : List Completion) :
    EventSystem.run step s ((completion :: rest).map (.resume others.length)) =
      EventSystem.run step { next with tasks := others ++ started }
        (rest.map (.resume others.length)) := by
  have hstep : step s (.resume others.length completion) =
      some { next with tasks := others ++ started } := by
    simp [step, htasks, h, TaskPool.resume, List.eraseIdx_append_of_length_le]
  simp only [List.map_cons, EventSystem.run, hstep, Option.bind_some]

theorem run_resume_last (htasks : s.tasks = others ++ [task])
    (h : s.advance task completion = some (next, [])) :
    EventSystem.run step s ([completion].map (.resume others.length)) =
      some { next with tasks := others } := by
  rw [run_resume_cons htasks h, List.append_nil]
  rfl

/-- What follows the sign-in does not depend on the tasks. -/
theorem afterSignIn_tasks (steps : LoginSteps) (s : Login) (tasks : List LoginTask)
    (user : FirebaseUser) :
    { afterSignIn steps user { s with tasks := tasks } with tasks := s.tasks } =
      afterSignIn steps user s := by
  obtain ⟨⟨fields, mounted, lateSetState⟩, firebase, google, old⟩ := s
  simp only [afterSignIn, afterToken, signedIn]
  cases hassert : assertUser user with
  | error e => simp only [reduceCtorEq, and_false, if_false]
  | ok _ => cases mounted <;> cases steps.tokenInvalid <;> rfl

theorem signedIn_user (s : Login) (user : FirebaseUser) : (s.signedIn user).2 =
    if s.widget.mounted = true ∧ assertUser user = .ok () then some user else none := by
  obtain ⟨⟨fields, mounted, lateSetState⟩, firebase, google, old⟩ := s
  simp only [signedIn]
  cases assertUser user with
  | error e => simp
  | ok _ => cases mounted <;> rfl

theorem run_checkUser (steps : LoginSteps) {user_ : FirebaseUser}
    (htasks : s.tasks = others ++ [.getIdToken user_]) :
    EventSystem.run step s ((checkCompletions steps user_).map (.resume others.length)) =
      some { afterToken steps user_ s with tasks := others } := by
  cases htoken : steps.getIdToken with
  | error e =>
      simp only [checkCompletions, afterToken, LoginSteps.tokenInvalid, htoken]
      cases e with
      | invalidToken error => exact run_resume_last htasks rfl
      | other error => exact run_resume_last htasks rfl
  | ok token =>
      simp only [checkCompletions, afterToken, LoginSteps.tokenInvalid, htoken,
        Bool.false_eq_true, if_false]
      cases token with
      | none => exact run_resume_last htasks rfl
      | some token =>
          rw [run_resume_cons htasks rfl]
          cases steps.currentUser with
          | error e => rw [run_resume_last rfl rfl]
          | ok currentUser => rw [run_resume_last rfl rfl]

theorem run_signedIn (steps : LoginSteps) {user : FirebaseUser}
    (htasks : s.tasks = others ++ [.signInWithCredential user.account]) :
    EventSystem.run step s ((Completion.user user ::
        if s.widget.mounted = true ∧ assertUser user = .ok () then checkCompletions steps user
        else []).map (.resume others.length)) =
      some { afterSignIn steps user { s with firebase := some user } with tasks := others } := by
  have hadvance : s.advance (.signInWithCredential user.account) (.user user) =
      some (({ s with firebase := some user }.signedIn user).1,
        match ({ s with firebase := some user }.signedIn user).2 with
        | none => []
        | some user => [.getIdToken user]) :=
    if_pos rfl
  rw [run_resume_cons htasks hadvance, signedIn_user, afterSignIn]
  by_cases hset : s.widget.mounted = true ∧ assertUser user = .ok ()
  · rw [if_pos hset, if_pos hset, if_pos hset]
    refine (run_checkUser steps rfl).trans (congrArg some ?_)
    simp only [afterToken]
    cases steps.tokenInvalid <;> rfl
  · rw [if_neg hset, if_neg hset, if_neg hset, List.append_nil]
    rfl

end Task

/-- Run by itself, the call has the effect of its task. -/
theorem run_handleLoginGoogle (steps : LoginSteps) {s : Login}
    (hmounted : s.widget.mounted = true) :
    EventSystem.run step s (.handleLoginGoogle ::
        (completions steps s.widget.mounted).map (.resume s.tasks.length)) =
      some (handleLoginGoogle steps s).1 := by
  have hstart : step s .handleLoginGoogle = some { s with tasks := s.tasks ++ [.signIn] } := by
    simp only [step, hmounted, if_true]
  simp only [EventSystem.run, hstart, Option.bind_some, handleLoginGoogle_eq, completions,
    LoginSteps.sessionUser]
  cases hsignIn : steps.signIn with
  | error e => rw [run_resume_last rfl rfl]
  | ok account =>
      cases account with
      | none =>
          rw [run_resume_last rfl rfl]
          rfl
      | some account =>
          rw [run_resume_cons rfl rfl]
          cases steps.authentication with
          | error e =>
              rw [run_resume_last rfl rfl]
              rfl
          | ok _ =>
              rw [run_resume_cons rfl rfl]
              cases hcredential : steps.signInWithCredential with
              | error e =>
                  rw [run_resume_last rfl rfl]
                  rfl
              | ok user =>
                  obtain rfl := steps.account_eq account user hsignIn hcredential
                  refine (run_signedIn steps rfl).trans (congrArg some ?_)
                  exact afterSignIn_tasks steps { s.assignCurrentUser (some user.account) with
                    google := some user.account
                    firebase := some user } _ user

end Login

end FlutterApp
