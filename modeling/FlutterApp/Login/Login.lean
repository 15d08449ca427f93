import FlutterApp.Flutter
import FlutterApp.Library.EventSystem
import FlutterApp.Library.TaskPool

/-!
The screen Login: overlapping Google logins and sign-outs.

A login is a chain of awaited plugin calls under one catch-all handler that prints, so a
call that fails and an assertion that does not hold both end it where it stands. The
session that signInWithCredential has started stays, unless the plugin itself signs the
user out because a token is found invalid. The screen may be opened with sessions of the
plugins already there. How each awaited call completes is part of the event that resumes
the task.
-/

namespace FlutterApp

structure GoogleSignInAccount where
  id : String
  deriving DecidableEq

/-- A user of the Firebase session, with the account whose credential started it. -/
structure FirebaseUser where
  uid : String
  account : GoogleSignInAccount
  email : Option String
  displayName : Option String
  photoUrl : Option String
  isAnonymous : Bool
  deriving DecidableEq

/-- The fields _currentUser and _imageUrl. Whose picture was set last is kept for the
proofs. -/
structure LoginFields where
  currentUser : Option GoogleSignInAccount
  imageUrl : Option String
  imageOf : Option GoogleSignInAccount
  deriving DecidableEq

/-- What a call awaits. -/
inductive LoginTask where
  | signIn
  | authentication (account : GoogleSignInAccount)
  | signInWithCredential (account : GoogleSignInAccount)
  | getIdToken (user : FirebaseUser)
  | getCurrentUser (user : FirebaseUser)
  | disconnect
  deriving DecidableEq

/-- How the awaited call completes. -/
inductive Completion where
  | failed (error : Thrown)
  | account (account : Option GoogleSignInAccount)
  | authentication
  | user (user : FirebaseUser)
  | idToken (token : Option String)
  /-- The lookup of the token fails because the user of the uid or the token is invalid. -/
  | invalidToken (uid : String)
  | currentUser
  | disconnected
  deriving DecidableEq

structure Login where
  widget : StateObject LoginFields
  /-- The sessions that the plugins hold. -/
  firebase : Option FirebaseUser
  google : Option GoogleSignInAccount
  tasks : List LoginTask
  deriving DecidableEq

namespace Login

/-- A new screen; the plugins may hold sessions from before. -/
def initial (firebase : Option FirebaseUser) (google : Option GoogleSignInAccount) : Login :=
  ⟨.initState ⟨none, none, none⟩, firebase, google, []⟩

/-- The plain assignment to _currentUser, which needs no mounted State. -/
def assignCurrentUser (s : Login) (account : Option GoogleSignInAccount) : Login :=
  { s with widget := { s.widget with
    fields := { s.widget.fields with currentUser := account } } }

/-- The plugin ends the session if it is the user's. -/
def signOutByForce (s : Login) (uid : String) : Login :=
  { s with firebase := s.firebase.filter fun user => decide (user.uid ≠ uid) }

/-- The assertions on a signed-in user. -/
def assertUser (user : FirebaseUser) : Except Thrown Unit :=
  if user.email = none then .error .assertionError
  else if user.displayName = none then .error .assertionError
  else if user.isAnonymous then .error .assertionError
  else .ok ()

def setPhoto (user : FirebaseUser) (fields : LoginFields) : Except Thrown LoginFields :=
  .ok { fields with imageUrl := user.photoUrl, imageOf := some user.account }

def clearPhoto (fields : LoginFields) : Except Thrown LoginFields :=
  .ok { fields with imageUrl := some "", imageOf := none }

/-- The then callback of signInWithCredential; none when it throws. -/
def signedIn (s : Login) (user : FirebaseUser) : Login × Option FirebaseUser :=
  match assertUser user with
  | .error _ => (s, none)
  | .ok () =>
      match s.widget.setState (setPhoto user) with
      | (w, .error _) => ({ s with widget := w }, none)
      | (w, .ok ()) => ({ s with widget := w }, some user)

/-- One call up to its next await; none when the completion is not one of the awaited call. -/
def advance (s : Login) : LoginTask → Completion → Option (Login × List LoginTask)
  | .signIn, .account none => some (s.assignCurrentUser none, [])
  | .signIn, .account (some account) =>
      some ({ s.assignCurrentUser (some account) with google := some account },
        [.authentication account])
  | .authentication account, .authentication => some (s, [.signInWithCredential account])
  | .signInWithCredential account, .user user =>
      if user.account = account then
        let (next, user_) := { s with firebase := some user }.signedIn user
        some (next, match user_ with
          | none => []
          | some user => [.getIdToken user])
      else none
  | .getIdToken user, .idToken token =>
      some (s, match token with
        | none => []
        | some _ => [.getCurrentUser user])
  | .getIdToken _, .invalidToken uid => some (s.signOutByForce uid, [])
  -- the last assertion compares uids, and no code follows it
  | .getCurrentUser _, .currentUser => some (s, [])
  | .disconnect, .disconnected =>
      some ({ s with google := none, widget := (s.widget.setState clearPhoto).1 }, [])
  | _, .failed _ => some (s, [])
  | _, _ => none

inductive Event where
  | handleLoginGoogle
  | handleSignOut
  | resume (i : Nat) (completion : Completion)
  /-- A refresh of a token that the plugin makes by itself finds the token invalid. -/
  | refreshFails (uid : String)
  | leave
  deriving DecidableEq

def step (s : Login) : Event → Option Login
  | .handleLoginGoogle =>
      if s.widget.mounted then some { s with tasks := s.tasks ++ [.signIn] } else none
  | .handleSignOut =>
      if s.widget.mounted then some { s with tasks := s.tasks ++ [.disconnect] } else none
  | .resume i completion => do
      let task ← s.tasks[i]?
      let (next, started) ← s.advance task completion
      return { next with tasks := TaskPool.resume s.tasks i started }
  | .refreshFails uid => some (s.signOutByForce uid)
  | .leave => if s.widget.mounted then some { s with widget := s.widget.dispose } else none

inductive Stepped (s : Login) : Event → Login → Prop
  | handleLoginGoogle : s.widget.mounted = true →
      Stepped s .handleLoginGoogle { s with tasks := s.tasks ++ [.signIn] }
  | handleSignOut : s.widget.mounted = true →
      Stepped s .handleSignOut { s with tasks := s.tasks ++ [.disconnect] }
  | resume {i : Nat} {completion : Completion} {task : LoginTask} {next : Login}
      {started : List LoginTask} : s.tasks[i]? = some task →
      s.advance task completion = some (next, started) →
      Stepped s (.resume i completion) { next with tasks := TaskPool.resume s.tasks i started }
  | refreshFails (uid : String) : Stepped s (.refreshFails uid) (s.signOutByForce uid)
  | leave : s.widget.mounted = true → Stepped s .leave { s with widget := s.widget.dispose }

theorem stepped {s t : Login} {e : Event} (h : step s e = some t) : Stepped s e t := by
  cases e with
  | handleLoginGoogle =>
      simp only [step] at h
      split at h
      · rename_i hmounted
        cases h
        exact .handleLoginGoogle hmounted
      · cases h
  | handleSignOut =>
      simp only [step] at h
      split at h
      · rename_i hmounted
        cases h
        exact .handleSignOut hmounted
      · cases h
  | resume i completion =>
      obtain ⟨task, htask, h⟩ := Option.bind_eq_some_iff.mp h
      obtain ⟨⟨next, started⟩, hadvance, h⟩ := Option.bind_eq_some_iff.mp h
      cases h
      exact .resume htask hadvance
  | refreshFails uid =>
      cases h
      exact .refreshFails uid
  | leave =>
      simp only [step] at h
      split at h
      · rename_i hmounted
        cases h
        exact .leave hmounted
      · cases h

/-- What the completion of an awaited call can do. -/
inductive Advanced (s : Login) : LoginTask → Completion → Login → List LoginTask → Prop
  | cancelled : Advanced s .signIn (.account none) (s.assignCurrentUser none) []
  | account (account : GoogleSignInAccount) : Advanced s .signIn (.account (some account))
      { s.assignCurrentUser (some account) with google := some account } [.authentication account]
  | authentication (account : GoogleSignInAccount) : Advanced s (.authentication account)
      .authentication s [.signInWithCredential account]
  | user {user : FirebaseUser} : assertUser user = .ok () → s.widget.mounted = true →
      Advanced s (.signInWithCredential user.account) (.user user)
        { s with
          firebase := some user
          widget := { s.widget with fields := { s.widget.fields with
            imageUrl := user.photoUrl
            imageOf := some user.account } } }
        [.getIdToken user]
  | refused {user : FirebaseUser} {e : Thrown} : assertUser user = .error e →
      Advanced s (.signInWithCredential user.account) (.user user)
        { s with firebase := some user } []
  | disposed {user : FirebaseUser} : assertUser user = .ok () → s.widget.mounted = false →
      Advanced s (.signInWithCredential user.account) (.user user)
        { s with
          firebase := some user
          widget := { s.widget with lateSetState := s.widget.lateSetState + 1 } } []
  | idToken {user : FirebaseUser} {token : Option String} {started : List LoginTask} :
      started = [] ∨ started = [.getCurrentUser user] →
      Advanced s (.getIdToken user) (.idToken token) s started
  | invalidToken (user : FirebaseUser) (uid : String) :
      Advanced s (.getIdToken user) (.invalidToken uid) (s.signOutByForce uid) []
  | currentUser (user : FirebaseUser) : Advanced s (.getCurrentUser user) .currentUser s []
  | disconnected : Advanced s .disconnect .disconnected
      { s with google := none, widget := (s.widget.setState clearPhoto).1 } []
  | failed (task : LoginTask) (error : Thrown) : Advanced s task (.failed error) s []

theorem advanced_user {s next : Login} {account : GoogleSignInAccount} {user : FirebaseUser}
    {started : List LoginTask}
    (h : s.advance (.signInWithCredential account) (.user user) = some (next, started)) :
    Advanced s (.signInWithCredential account) (.user user) next started := by
  simp only [advance] at h
  split at h
  · rename_i haccount
    cases h
    subst haccount
    simp only [signedIn]
    cases hassert : assertUser user with
    | error e => exact .refused hassert
    | ok _ =>
        cases hmounted : s.widget.mounted with
        | true =>
            have hset : s.widget.setState (setPhoto user) = ({ s.widget with
                fields := { s.widget.fields with
                  imageUrl := user.photoUrl
                  imageOf := some user.account } }, .ok ()) :=
              StateObject.setState_of_mounted hmounted rfl
            simp only [hset]
            exact .user hassert hmounted
        | false =>
            have hset := StateObject.setState_of_disposed hmounted (setPhoto user)
            simp only [hset]
            exact .disposed hassert hmounted
  · cases h

theorem advanced {s next : Login} {task : LoginTask} {completion : Completion}
    {started : List LoginTask} (h : s.advance task completion = some (next, started)) :
    Advanced s task completion next started := by
  cases completion with
  | failed error =>
      obtain ⟨rfl, rfl⟩ : s = next ∧ [] = started := by
        cases task <;> simpa [advance] using h
      exact .failed task error
  | account account =>
      cases task with
      | signIn =>
          cases account with
          | none =>
              cases h
              exact .cancelled
          | some account =>
              cases h
              exact .account account
      | authentication _ | signInWithCredential _ | getIdToken _ | getCurrentUser _
      | disconnect => cases h
  | authentication =>
      cases task with
      | authentication account =>
          cases h
          exact .authentication account
      | signIn | signInWithCredential _ | getIdToken _ | getCurrentUser _ | disconnect => cases h
  | user user =>
      cases task with
      | signInWithCredential account => exact advanced_user h
      | signIn | authentication _ | getIdToken _ | getCurrentUser _ | disconnect => cases h
  | idToken token =>
      cases task with
      | getIdToken user =>
          cases token with
          | none =>
              cases h
              exact .idToken (Or.inl rfl)
          | some token =>
              cases h
              exact .idToken (Or.inr rfl)
      | signIn | authentication _ | signInWithCredential _ | getCurrentUser _ | disconnect =>
          cases h
  | invalidToken uid =>
      cases task with
      | getIdToken user =>
          cases h
          exact .invalidToken user uid
      | signIn | authentication _ | signInWithCredential _ | getCurrentUser _ | disconnect =>
          cases h
  | currentUser =>
      cases task with
      | getCurrentUser user =>
          cases h
          exact .currentUser user
      | signIn | authentication _ | signInWithCredential _ | getIdToken _ | disconnect => cases h
  | disconnected =>
      cases task with
      | disconnect =>
          cases h
          exact .disconnected
      | signIn | authentication _ | signInWithCredential _ | getIdToken _ | getCurrentUser _ =>
          cases h

end Login

end FlutterApp
