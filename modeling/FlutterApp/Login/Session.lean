import FlutterApp.Login.LastWrites

/-!
When the views of the session agree.

The account appears as the Firebase session, as _currentUser and as the picture. They are
written at different awaits and _handleSignOut clears the picture alone, so between two
awaits they disagree. Whether they agree once nothing is pending depends on the session
that was there before and on the order in which the awaited calls have completed.
-/

namespace FlutterApp
namespace Login

open EventSystem

def NoPhoto (fields : LoginFields) : Prop := fields.imageUrl = none ∨ fields.imageUrl = some ""

/-- All three views belong to one account, or nobody is signed in. -/
def Agrees (s : Login) : Prop :=
  (∃ user, s.firebase = some user ∧ s.widget.fields.currentUser = some user.account ∧
      s.widget.fields.imageOf = some user.account) ∨
    (s.firebase = none ∧ s.widget.fields.currentUser = none ∧ NoPhoto s.widget.fields)

/-- A sign-out of the run has completed and no login has signed in since. -/
def SignedOut (es : List Event) : Prop :=
  ∃ pre i post, es = pre ++ .resume i .disconnected :: post ∧
    ∀ j user, .resume j (.user user) ∉ post

/-- Once nothing is pending the three views agree, and a completed sign-out with no later
login has left no Firebase session. -/
def SessionAgrees (es : List Event) (s : Login) : Prop :=
  s.tasks = [] → Agrees s ∧ (SignedOut es → s.firebase = none)

/-- A completed signInWithCredential. -/
def credential : Event → List FirebaseUser
  | .resume _ (.user user) => [user]
  | _ => []

/-- There was no session, nobody has signed in to Firebase, and the last dialog to complete, if
any, was cancelled. -/
def NobodySignedIn (firebase : Option FirebaseUser) (es : List Event) : Prop :=
  firebase = none ∧ es.flatMap credential = [] ∧ (es.flatMap account).getLast?.getD none = none

/-- The last user to sign in to Firebase has the account that the last dialog to complete has
chosen; the last callback to change the picture, while the screen was mounted, was that of a
sign-in with this account; and no sign-out has completed since that user signed in. -/
def LastSignInStands (es : List Event) : Prop :=
  ∃ user, (es.flatMap credential).getLast? = some user ∧
    (es.flatMap account).getLast? = some (some user.account) ∧
    (∃ seen, (pictures es).getLast? = some (some seen) ∧ seen.account = user.account) ∧
    ¬ SignedOut es

variable {firebase : Option FirebaseUser} {google : Option GoogleSignInAccount} {s : Login}
  {es : List Event}

theorem signedOut_snoc {e : Event} (h : SignedOut (es ++ [e])) :
    (∃ i, e = .resume i .disconnected) ∨
      (SignedOut es ∧ ∀ j user, e ≠ .resume j (.user user)) := by
  obtain ⟨pre, i, post, hsplit, hpost⟩ := h
  cases split_snoc hsplit with
  | inl hlast => exact Or.inl ⟨i, hlast.2.1.symm⟩
  | inr hinner =>
      obtain ⟨front, rfl, hes⟩ := hinner
      refine Or.inr ⟨⟨pre, i, front, hes, ?_⟩, ?_⟩
      · exact fun j user hmem => hpost j user (List.mem_append_left _ hmem)
      · intro j user heq
        exact hpost j user (List.mem_append_right _ (heq ▸ List.mem_singleton_self _))

theorem not_signedOut {j : Nat} {user : FirebaseUser} {post : List Event}
    (h : ∀ i, .resume i .disconnected ∉ post) :
    ¬ SignedOut (es ++ .resume j (.user user) :: post) := by
  induction post using List.reverseRecOn with
  | nil =>
      intro hout
      cases signedOut_snoc hout with
      | inl hlast =>
          obtain ⟨i, hi⟩ := hlast
          cases hi
      | inr hearlier => exact hearlier.2 j user rfl
  | append_singleton post e ih =>
      intro hout
      rw [← List.cons_append, ← List.append_assoc] at hout
      cases signedOut_snoc hout with
      | inl hlast =>
          obtain ⟨i, rfl⟩ := hlast
          exact h i (List.mem_append_right _ (List.mem_singleton_self _))
      | inr hearlier =>
          exact ih (fun i hmem => h i (List.mem_append_left _ hmem)) hearlier.1

theorem credential_step {s t : Login} {e : Event} (hkept : ¬ SignsOutByForce e)
    (h : step s e = some t) : t.firebase = (credential e).getLast?.or s.firebase := by
  rw [session_step h]
  cases e with
  | handleLoginGoogle | handleSignOut | leave => rfl
  | refreshFails uid => exact absurd trivial hkept
  | resume i completion =>
      cases completion with
      | invalidToken uid => exact absurd trivial hkept
      | user _ | failed _ | account _ | authentication | idToken _ | currentUser
      | disconnected => rfl

theorem firebase_run (h : run step (initial firebase google) es = some s)
    (hkept : ∀ e ∈ es, ¬ SignsOutByForce e) :
    s.firebase = (es.flatMap credential).getLast?.or firebase := by
  refine run_induction (motive := fun es s => (∀ e ∈ es, ¬ SignsOutByForce e) →
    s.firebase = (es.flatMap credential).getLast?.or firebase) (fun _ => rfl) ?_ h hkept
  intro es mid e t _ ih hstep hall
  obtain ⟨hes, he⟩ := List.forall_mem_append.mp hall
  rw [credential_step (he e (List.mem_singleton_self e)) hstep, ih hes, List.flatMap_append,
    List.flatMap_singleton, List.getLast?_append, Option.or_assoc]

theorem imageOf_run (h : run step (initial firebase google) es = some s) :
    s.widget.fields.imageOf =
      (pictures es).getLast?.bind fun picture => picture.map FirebaseUser.account := by
  have himage := congrArg Prod.snd (pictures_run h).2
  rw [List.getLast?_map] at himage
  cases hlast : (pictures es).getLast? with
  | none => simpa [shown, hlast] using himage
  | some picture => simpa [shown, render, hlast] using himage

/-- Only a user who has signed in is shown. -/
theorem credential_of_picture {user : FirebaseUser} (h : some user ∈ pictures es) :
    user ∈ es.flatMap credential := by
  obtain ⟨e, he, hpicture⟩ := List.mem_flatMap.mp h
  refine List.mem_flatMap.mpr ⟨e, (List.takeWhile_sublist _).subset he, ?_⟩
  cases e with
  | handleLoginGoogle | handleSignOut | refreshFails _ | leave => cases hpicture
  | resume i completion =>
      cases completion with
      | user user' =>
          simp only [picture] at hpicture
          split at hpicture
          · cases List.mem_singleton.mp hpicture
            exact List.mem_singleton_self _
          · cases hpicture
      | disconnected => cases List.mem_singleton.mp hpicture
      | failed _ | account _ | authentication | idToken _ | invalidToken _ | currentUser =>
          cases hpicture

theorem noPhoto_of_nobody (h : run step (initial firebase google) es = some s)
    (hnone : es.flatMap credential = []) : NoPhoto s.widget.fields := by
  rw [NoPhoto, imageUrl_run h, List.getLast?_map]
  cases hlast : (pictures es).getLast? with
  | none => exact Or.inl rfl
  | some picture =>
      cases picture with
      | none => exact Or.inr rfl
      | some user =>
          have hmem := credential_of_picture (List.mem_of_getLast? hlast)
          rw [hnone] at hmem
          cases hmem

theorem nobodySignedIn_iff (h : run step (initial firebase google) es = some s)
    (hkept : ∀ e ∈ es, ¬ SignsOutByForce e) : NobodySignedIn firebase es ↔
      s.firebase = none ∧ s.widget.fields.currentUser = none ∧ NoPhoto s.widget.fields := by
  rw [NobodySignedIn, firebase_run h hkept, currentUser_run h, Option.or_eq_none_iff,
    List.getLast?_eq_none_iff]
  constructor
  · intro hnobody
    obtain ⟨hfirebase, hnone, haccount⟩ := hnobody
    exact ⟨⟨hnone, hfirebase⟩, haccount, noPhoto_of_nobody h hnone⟩
  · intro hnobody
    obtain ⟨⟨hnone, hfirebase⟩, haccount, -⟩ := hnobody
    exact ⟨hfirebase, hnone, haccount⟩

theorem lastSignInStands_iff (h : run step (initial firebase google) es = some s)
    (hkept : ∀ e ∈ es, ¬ SignsOutByForce e) : LastSignInStands es ↔
      (∃ user, s.firebase = some user ∧ s.widget.fields.currentUser = some user.account ∧
        s.widget.fields.imageOf = some user.account) ∧ ¬ SignedOut es := by
  rw [firebase_run h hkept, currentUser_run h, imageOf_run h]
  constructor
  · intro hstands
    obtain ⟨user, huser, haccount, ⟨seen, hseen, hsame⟩, hout⟩ := hstands
    refine ⟨⟨user, ?_, ?_, ?_⟩, hout⟩
    · rw [huser, Option.some_or]
    · rw [haccount, Option.getD_some]
    · rw [hseen, Option.bind_some, Option.map_some, hsame]
  · intro hboth
    obtain ⟨⟨user, hfirebase, haccount, himage⟩, hout⟩ := hboth
    obtain ⟨picture, hpicture, hmap⟩ := Option.bind_eq_some_iff.mp himage
    obtain ⟨seen, rfl, hsame⟩ := Option.map_eq_some_iff.mp hmap
    refine ⟨user, ?_, ?_, ⟨seen, hpicture, hsame⟩, hout⟩
    · cases hlast : (es.flatMap credential).getLast? with
      | some last => simpa [hlast] using hfirebase
      | none =>
          have hmem := credential_of_picture (List.mem_of_getLast? hpicture)
          rw [List.getLast?_eq_none_iff.mp hlast] at hmem
          cases hmem
    · cases hlast : (es.flatMap account).getLast? with
      | some last => simpa [hlast] using haccount
      | none => simp [hlast] at haccount

/-- In every run in which the plugin ends no session by itself, from any session that was
there before: once nothing is pending the views agree, and a sign-out without a later login
has left no session, exactly when nobody has ever been signed in or the last sign-in still
stands. -/
theorem session_agrees_iff (h : run step (initial firebase google) es = some s)
    (hkept : ∀ e ∈ es, ¬ SignsOutByForce e) :
    SessionAgrees es s ↔ (s.tasks = [] → NobodySignedIn firebase es ∨ LastSignInStands es) := by
  refine forall_congr' fun _ => ?_
  rw [nobodySignedIn_iff h hkept, lastSignInStands_iff h hkept, Agrees]
  constructor
  · intro hagrees
    obtain ⟨hviews, hout⟩ := hagrees
    cases hviews with
    | inl hsame =>
        refine Or.inr ⟨hsame, ?_⟩
        intro hsignedOut
        obtain ⟨user, hfirebase, -⟩ := hsame
        rw [hout hsignedOut] at hfirebase
        cases hfirebase
    | inr hnobody => exact Or.inl hnobody
  · intro hends
    cases hends with
    | inl hnobody => exact ⟨Or.inr hnobody, fun _ => hnobody.1⟩
    | inr hstands => exact ⟨Or.inl hstands.1, fun hsignedOut => absurd hsignedOut hstands.2⟩

/-- Ann and Bob log in at the same time, from Bob's session, while a sign-out is pending. -/
def bobLogsInLast : List Event :=
  [.handleLoginGoogle, .handleSignOut, .handleLoginGoogle, .resume 0 (.account (some ann)),
    .resume 1 (.account (some bob)), .resume 1 .authentication, .resume 2 (.user annUser),
    .resume 0 .disconnected, .resume 0 .authentication, .resume 1 (.user bobUser),
    .resume 0 (.idToken none), .resume 0 (.idToken (some "token")), .resume 0 .currentUser]

theorem session_agrees_overlapping :
    ∃ s, run step (initial (some bobUser) none) bobLogsInLast = some s ∧ s.tasks = [] ∧
      s.firebase = some bobUser ∧ SessionAgrees bobLogsInLast s := by
  have hkept : ∀ e ∈ bobLogsInLast, ¬ SignsOutByForce e := by
    simp [bobLogsInLast, SignsOutByForce]
  have hstands : LastSignInStands bobLogsInLast :=
    ⟨bobUser, rfl, rfl, ⟨bobUser, rfl, rfl⟩,
      @not_signedOut (bobLogsInLast.take 9) 1 bobUser _ (by simp)⟩
  exact ⟨_, rfl, rfl, rfl, (@session_agrees_iff (some bobUser) none _ bobLogsInLast rfl hkept).mpr
    fun _ => Or.inr hstands⟩

/-- Ann logs in, with every step succeeding, and signs out. -/
def annSignsOut : List Event :=
  [.handleLoginGoogle, .resume 0 (.account (some ann)), .resume 0 .authentication,
    .resume 0 (.user annUser), .resume 0 (.idToken (some "token")), .resume 0 .currentUser,
    .handleSignOut, .resume 0 .disconnected]

theorem session_left_after_sign_out :
    ∃ s, run step (initial none none) annSignsOut = some s ∧
      (∀ e ∈ annSignsOut, ¬ SignsOutByForce e) ∧ s.tasks = [] ∧
      s.firebase = some annUser ∧ s.google = none ∧ s.widget.fields.imageUrl = some "" ∧
      SignedOut annSignsOut ∧ ¬ SessionAgrees annSignsOut s := by
  have hout : SignedOut annSignsOut := ⟨annSignsOut.take 7, 0, [], rfl, nofun⟩
  refine ⟨_, rfl, by simp [annSignsOut, SignsOutByForce], rfl, rfl, rfl, rfl, hout, ?_⟩
  intro h
  have hnone := (h rfl).2 hout
  cases hnone

end Login

end FlutterApp
