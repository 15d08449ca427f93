import FlutterApp.Login.Login

/-!
The history behind the session that Login shows. Each of its views is written by the
completion of one awaited call and holds what was written last. The program never ends the
Firebase session: a sign-out ends the session of Google alone and clears the picture. Only
the plugin ends it, by itself, when it finds a token invalid.
-/

namespace FlutterApp
namespace Login

open EventSystem

/-- What a completed signIn assigns to _currentUser, null when it was cancelled. -/
def account : Event → List (Option GoogleSignInAccount)
  | .resume _ (.account account) => [account]
  | _ => []

/-- A completed signInWithCredential starts a session, whatever its callback does. -/
def session (s : Login) : Event → List (Option FirebaseUser)
  | .resume _ (.user user) => [some user]
  | .resume _ (.invalidToken uid) | .refreshFails uid =>
      if s.firebase.any fun user => decide (user.uid = uid) then [none] else []
  | _ => []

/-- The session of Google, which a completed disconnect ends. -/
def googleSession : Event → List (Option GoogleSignInAccount)
  | .resume _ (.account (some account)) => [some account]
  | .resume _ .disconnected => [none]
  | _ => []

/-- Whose picture the two callbacks that call setState show. -/
def picture : Event → List (Option FirebaseUser)
  | .resume _ (.user user) => if assertUser user = .ok () then [some user] else []
  | .resume _ .disconnected => [none]
  | _ => []

def pictureUrl : Option FirebaseUser → Option String
  | some user => user.photoUrl
  | none => some ""

/-- What happens while the screen is mounted. -/
def beforeLeave (es : List Event) : List Event := es.takeWhile fun e => decide (e ≠ .leave)

/-- The pictures of the run, of which the last is still shown. -/
def pictures (es : List Event) : List (Option FirebaseUser) := (beforeLeave es).flatMap picture

/-- The plugin finds the token of the user of the session invalid. -/
def SignsOutByForce : Event → Prop
  | .resume _ (.invalidToken _) | .refreshFails _ => True
  | _ => False

section Step
variable {s t : Login} {e : Event}

theorem account_step (h : step s e = some t) :
    t.widget.fields.currentUser = (account e).getLast?.getD s.widget.fields.currentUser := by
  cases stepped h with
  | handleLoginGoogle _ | handleSignOut _ | refreshFails _ | leave _ => rfl
  | resume htask hadvance =>
      cases advanced hadvance with
      | cancelled | account _ | authentication _ | idToken _ | invalidToken _ _ | currentUser _
      | failed _ _ | user _ _ | refused _ | disposed _ _ => rfl
      | disconnected =>
          simp only [StateObject.setState]
          split
          · rfl
          · rfl

theorem signOutByForce_firebase (s : Login) (uid : String) : (s.signOutByForce uid).firebase =
    (if s.firebase.any fun user => decide (user.uid = uid) then [none] else []).getLast?.getD
      s.firebase := by
  simp only [signOutByForce]
  cases s.firebase with
  | none => rfl
  | some user => by_cases huid : user.uid = uid <;> simp [huid]

theorem session_step (h : step s e = some t) :
    t.firebase = (session s e).getLast?.getD s.firebase := by
  cases stepped h with
  | handleLoginGoogle _ | handleSignOut _ | leave _ => rfl
  | refreshFails uid => exact signOutByForce_firebase s uid
  | resume htask hadvance =>
      cases advanced hadvance with
      | user _ _ | refused _ | disposed _ _ => rfl
      | invalidToken user uid => exact signOutByForce_firebase s uid
      | cancelled | account _ | authentication _ | idToken _ | currentUser _ | disconnected
      | failed _ _ => rfl

theorem googleSession_step (h : step s e = some t) :
    t.google = (googleSession e).getLast?.getD s.google := by
  cases stepped h with
  | handleLoginGoogle _ | handleSignOut _ | refreshFails _ | leave _ => rfl
  | resume htask hadvance =>
      cases advanced hadvance with
      | account _ | disconnected | cancelled | authentication _ | idToken _ | invalidToken _ _
      | currentUser _ | user _ _ | refused _ | disposed _ _ | failed _ _ => rfl

theorem mounted_step (h : step s e = some t) :
    t.widget.mounted = true ↔ s.widget.mounted = true ∧ e ≠ .leave := by
  cases stepped h with
  | handleLoginGoogle _ | handleSignOut _ | refreshFails _ | leave _ => simp [signOutByForce]
  | resume htask hadvance =>
      cases advanced hadvance with
      | cancelled | account _ | authentication _ | idToken _ | invalidToken _ _ | currentUser _
      | failed _ _ | user _ _ | refused _ | disposed _ _ | disconnected =>
          simp [assignCurrentUser, signOutByForce]

/-- The picture and whose it is. -/
def shown (fields : LoginFields) : Option String × Option GoogleSignInAccount :=
  (fields.imageUrl, fields.imageOf)

def render (picture : Option FirebaseUser) : Option String × Option GoogleSignInAccount :=
  (pictureUrl picture, picture.map FirebaseUser.account)

theorem picture_step (h : step s e = some t) : shown t.widget.fields =
    if s.widget.mounted then ((picture e).map render).getLast?.getD (shown s.widget.fields)
    else shown s.widget.fields := by
  cases stepped h with
  | handleLoginGoogle _ | handleSignOut _ | refreshFails _ | leave _ =>
      simp [picture, signOutByForce, StateObject.dispose]
  | resume htask hadvance =>
      cases advanced hadvance with
      | user hassert hmounted => simp [picture, hassert, hmounted, shown, render, pictureUrl]
      | refused hassert => simp [picture, hassert]
      | disposed hassert hmounted => simp [hmounted]
      | disconnected =>
          cases hmounted : s.widget.mounted with
          | true =>
              simp [picture, hmounted, StateObject.setState, clearPhoto, shown, render, pictureUrl]
          | false => simp [hmounted, StateObject.setState]
      | cancelled | account _ | authentication _ | idToken _ | invalidToken _ _ | currentUser _
      | failed _ _ => simp [picture, assignCurrentUser, signOutByForce, shown]

end Step

theorem pictures_cons (e : Event) (es : List Event) :
    pictures (e :: es) = if e = .leave then [] else picture e ++ pictures es := by
  by_cases he : e = .leave <;> simp [pictures, beforeLeave, he]

theorem pictures_snoc (es : List Event) (e : Event) :
    pictures (es ++ [e]) = if .leave ∈ es then pictures es else pictures es ++ picture e := by
  induction es with
  | nil =>
      rw [List.nil_append, pictures_cons]
      by_cases he : e = .leave <;> simp [he, pictures, beforeLeave, picture]
  | cons f es ih =>
      rw [List.cons_append, pictures_cons, pictures_cons, ih]
      by_cases hf : f = .leave
      · simp [hf]
      · by_cases hes : Event.leave ∈ es <;> simp [hf, Ne.symm hf, hes]

variable {firebase : Option FirebaseUser} {google : Option GoogleSignInAccount} {s : Login}
  {es : List Event}

theorem pictures_run (h : run step (initial firebase google) es = some s) :
    (s.widget.mounted = true ↔ .leave ∉ es) ∧
      shown s.widget.fields = ((pictures es).map render).getLast?.getD (none, none) := by
  refine run_induction (motive := fun es s => (s.widget.mounted = true ↔ .leave ∉ es) ∧
    shown s.widget.fields = ((pictures es).map render).getLast?.getD (none, none)) ?_ ?_ h
  · exact ⟨by simp [initial, StateObject.initState], rfl⟩
  · intro es mid e t _ ih hstep
    obtain ⟨hmounted, hshown⟩ := ih
    refine ⟨?_, ?_⟩
    · rw [mounted_step hstep, hmounted]
      simp [eq_comm]
    · rw [picture_step hstep, hshown, pictures_snoc]
      by_cases hleft : .leave ∈ es
      · simp only [hmounted, hleft, not_true, if_true, if_false]
      · simp only [hmounted, hleft, not_false_iff, if_true, if_false, List.map_append,
          List.getLast?_append, Option.getD_or]

theorem currentUser_run (h : run step (initial firebase google) es = some s) :
    s.widget.fields.currentUser = (es.flatMap account).getLast?.getD none := by
  rw [← trace_eq_flatMap account h]
  exact field_eq_last_write (fun s => s.widget.fields.currentUser)
    (fun _ _ _ => account_step) h

theorem google_run (h : run step (initial firebase google) es = some s) :
    s.google = (es.flatMap googleSession).getLast?.getD google := by
  rw [← trace_eq_flatMap googleSession h]
  exact field_eq_last_write Login.google (fun _ _ _ => googleSession_step) h

theorem imageUrl_run (h : run step (initial firebase google) es = some s) :
    s.widget.fields.imageUrl = ((pictures es).map pictureUrl).getLast?.getD none := by
  have himage := congrArg Prod.fst (pictures_run h).2
  rw [List.getLast?_map] at himage ⊢
  cases hlast : (pictures es).getLast? with
  | none => simpa [shown, hlast] using himage
  | some picture => simpa [shown, render, hlast] using himage

/-- A session that has been started is followed by other ones, as long as the plugin does not
end it. -/
theorem session_stays {s t : Login} {e : Event} (hs : s.firebase.isSome)
    (hkept : ¬ SignsOutByForce e) (h : step s e = some t) : t.firebase.isSome := by
  rw [session_step h]
  cases e with
  | handleLoginGoogle | handleSignOut | leave => exact hs
  | refreshFails uid => exact absurd trivial hkept
  | resume i completion =>
      cases completion with
      | user user => rfl
      | invalidToken uid => exact absurd trivial hkept
      | failed _ | account _ | authentication | idToken _ | currentUser | disconnected => exact hs

/-- In every run of overlapping logins and sign-outs, each view of the session is what was
written last: _currentUser by the completion of signIn, the Firebase session by that of
signInWithCredential (also when its callback throws) or by the plugin that finds the user's
token invalid, the Google session by those of signIn and disconnect, and _imageUrl by the
callbacks that find the screen mounted. As long as the plugin does not end it, there stays
a Firebase session once there is one. -/
theorem views_are_last_writes (h : run step (initial firebase google) es = some s) :
    s.widget.fields.currentUser = (es.flatMap account).getLast?.getD none ∧
      s.firebase =
        (trace step session (initial firebase google) es).getLast?.getD firebase ∧
      s.google = (es.flatMap googleSession).getLast?.getD google ∧
      s.widget.fields.imageUrl = ((pictures es).map pictureUrl).getLast?.getD none ∧
      ∀ later t, run step s later = some t → (∀ e ∈ later, ¬ SignsOutByForce e) →
        s.firebase.isSome → t.firebase.isSome := by
  refine ⟨currentUser_run h, field_eq_last_write Login.firebase (fun _ _ _ => session_step) h,
    google_run h, imageUrl_run h, ?_⟩
  intro later t hlater hkept hs
  exact run_invariant_of_events (fun s => s.firebase.isSome) _ hs
    (fun _ _ _ hmid he => session_stays hmid he) hlater hkept

def ann : GoogleSignInAccount := ⟨"ann"⟩

def annUser : FirebaseUser :=
  ⟨"1", ann, some "ann@example.com", some "Ann", some "ann.png", false⟩

def bob : GoogleSignInAccount := ⟨"bob"⟩

def bobUser : FirebaseUser :=
  ⟨"2", bob, some "bob@example.com", some "Bob", some "bob.png", false⟩

/-- Bob's session is there from before. Ann's login overlaps with a sign-out, and her token is
then found invalid. -/
def annSignedOut : List Event :=
  [.handleLoginGoogle, .handleSignOut, .resume 0 (.account (some ann)),
    .resume 1 .authentication, .resume 1 (.user annUser), .resume 0 .disconnected,
    .resume 0 (.invalidToken "1")]

theorem views_are_last_writes_signed_out :
    ∃ s, run step (initial (some bobUser) none) annSignedOut = some s ∧
      trace step session (initial (some bobUser) none) annSignedOut = [some annUser, none] ∧
      s.firebase = none ∧ s.widget.fields.currentUser = some ann ∧ s.google = none ∧
      s.widget.fields.imageUrl = some "" := by
  obtain ⟨hcurrent, hfirebase, hgoogle, himage, -⟩ :=
    @views_are_last_writes (some bobUser) none _ annSignedOut rfl
  exact ⟨_, rfl, rfl, hfirebase, hcurrent, hgoogle, himage⟩

end Login

end FlutterApp
