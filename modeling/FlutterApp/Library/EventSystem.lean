import Mathlib.Data.List.Basic
import Mathlib.Data.List.Induction
import Mathlib.Logic.Function.Iterate

/-!
Runs of systems that react to one event at a time.

A system is a partial step function, where none says that the event cannot
occur in the state. What a whole run preserves is always derived here from
what one step preserves. Conditions on runs are conditions on each state and
the event taken in it, so that they can speak about the order of events.
-/

namespace EventSystem
universe u v w
variable {S : Type u} {E : Type v}

def run (step : S → E → Option S) : S → List E → Option S
  | s, [] => some s
  | s, e :: es => (step s e).bind fun next => run step next es

theorem run_append (step : S → E → Option S) (s : S) (es fs : List E) :
    run step s (es ++ fs) = (run step s es).bind fun mid => run step mid fs := by
  induction es generalizing s with
  | nil => rfl
  | cons e es ih =>
      simp only [List.cons_append, run, Option.bind_assoc]
      congr 1
      funext next
      exact ih next

theorem run_snoc {step : S → E → Option S} {s t : S} {es : List E} {e : E} :
    run step s (es ++ [e]) = some t ↔ ∃ mid, run step s es = some mid ∧ step mid e = some t := by
  simp only [run_append, run, Option.bind_eq_some_iff, Option.some.injEq, exists_eq_right]

/-- Induction over a run by its last event. -/
theorem run_induction {step : S → E → Option S} {s : S} {motive : List E → S → Prop}
    (nil : motive [] s)
    (snoc : ∀ es mid e t, run step s es = some mid → motive es mid → step mid e = some t →
      motive (es ++ [e]) t)
    {es : List E} {t : S} (h : run step s es = some t) : motive es t := by
  induction es using List.reverseRecOn generalizing t with
  | nil =>
      obtain rfl : s = t := by simpa [run] using h
      exact nil
  | append_singleton es e ih =>
      obtain ⟨mid, hmid, hstep⟩ := run_snoc.mp h
      exact snoc es mid e t hmid (ih hmid) hstep

theorem run_invariant {step : S → E → Option S} {s : S} (Inv : S → Prop) (initial : Inv s)
    (preserved : ∀ mid e t, Inv mid → step mid e = some t → Inv t)
    {es : List E} {t : S} (h : run step s es = some t) : Inv t :=
  run_induction (motive := fun _ t => Inv t) initial
    (fun _ mid e t _ hmid hstep => preserved mid e t hmid hstep) h

/-- An invariant that only events of one kind are known to keep. -/
theorem run_invariant_of_events {step : S → E → Option S} {s : S} (Inv : S → Prop)
    (P : E → Prop) (initial : Inv s)
    (preserved : ∀ mid e t, Inv mid → P e → step mid e = some t → Inv t)
    {es : List E} {t : S} (h : run step s es = some t) (hP : ∀ e ∈ es, P e) : Inv t := by
  refine run_induction (motive := fun es t => (∀ e ∈ es, P e) → Inv t) (fun _ => initial) ?_ h hP
  intro es mid e t _ ih hstep hall
  obtain ⟨hes, he⟩ := List.forall_mem_append.mp hall
  exact preserved mid e t (ih hes) (he e (List.mem_singleton_self e)) hstep

/-- Every event of the run meets the condition in the state in which it is taken. -/
def StepsMeet (step : S → E → Option S) (cond : S → E → Prop) : S → List E → Prop
  | _, [] => True
  | s, e :: es => cond s e ∧ ∀ next, step s e = some next → StepsMeet step cond next es

theorem stepsMeet_cons {step : S → E → Option S} {cond : S → E → Prop} {s next : S} {e : E}
    {es : List E} (he : cond s e) (hstep : step s e = some next)
    (hrest : StepsMeet step cond next es) : StepsMeet step cond s (e :: es) := by
  refine ⟨he, ?_⟩
  intro next' hnext'
  obtain rfl : next = next' := Option.some.inj (hstep.symm.trans hnext')
  exact hrest

theorem stepsMeet_snoc {step : S → E → Option S} {cond : S → E → Prop} {s mid : S}
    {es : List E} (e : E) (h : run step s es = some mid) :
    StepsMeet step cond s (es ++ [e]) ↔ StepsMeet step cond s es ∧ cond mid e := by
  induction es generalizing s with
  | nil =>
      obtain rfl : s = mid := by simpa [run] using h
      simp [StepsMeet]
  | cons e' es ih =>
      obtain ⟨next, hnext, hrest⟩ := Option.bind_eq_some_iff.mp h
      simp only [List.cons_append, StepsMeet, hnext, Option.some.injEq, forall_eq', ih hrest,
        and_assoc]

/-- An invariant that only the steps meeting the condition are known to keep. -/
theorem run_invariant_of_stepsMeet {step : S → E → Option S} {cond : S → E → Prop} {s : S}
    (Inv : S → Prop) (initial : Inv s)
    (preserved : ∀ mid e t, Inv mid → cond mid e → step mid e = some t → Inv t)
    {es : List E} {t : S} (h : run step s es = some t) (meets : StepsMeet step cond s es) :
    Inv t := by
  refine run_induction (motive := fun es t => StepsMeet step cond s es → Inv t)
    (fun _ => initial) ?_ h meets
  intro es mid e t hrun ih hstep hmeets
  obtain ⟨hes, he⟩ := (stepsMeet_snoc e hrun).mp hmeets
  exact preserved mid e t (ih hes) he hstep

/-- A fault that is never forgotten is absent at the end of a run exactly when no
step of the run caused it. -/
theorem run_fault_iff {step : S → E → Option S} {cond : S → E → Prop} {s : S}
    (Inv ok : S → Prop) (initial : Inv s) (clean : ok s)
    (preserved : ∀ mid e t, Inv mid → step mid e = some t → Inv t)
    (latched : ∀ mid e t, Inv mid → step mid e = some t → (ok t ↔ ok mid ∧ cond mid e))
    {es : List E} {t : S} (h : run step s es = some t) :
    ok t ↔ StepsMeet step cond s es := by
  refine run_induction (motive := fun es t => ok t ↔ StepsMeet step cond s es)
    (by simp [StepsMeet, clean]) ?_ h
  intro es mid e t hrun ih hstep
  rw [stepsMeet_snoc e hrun, ← ih]
  exact latched mid e t (run_invariant Inv initial preserved hrun) hstep

theorem stepsMeet_congr {step : S → E → Option S} {cond cond' : S → E → Prop} {s : S}
    (Inv : S → Prop) (initial : Inv s)
    (preserved : ∀ mid e t, Inv mid → step mid e = some t → Inv t)
    (agree : ∀ mid e, Inv mid → (cond mid e ↔ cond' mid e)) (es : List E) :
    StepsMeet step cond s es ↔ StepsMeet step cond' s es := by
  induction es generalizing s with
  | nil => exact Iff.rfl
  | cons e es ih =>
      exact and_congr (agree s e initial) (forall₂_congr fun next hnext =>
        ih (preserved s e next initial hnext))

/-- Every event of the run meets a condition on the events before it as well. -/
def EachMeets (step : S → E → Option S) (cond : List E → S → E → Prop) (s : S)
    (es : List E) : Prop :=
  ∀ pre e post mid, es = pre ++ e :: post → run step s pre = some mid → cond pre mid e

theorem eachMeets_nil (step : S → E → Option S) (cond : List E → S → E → Prop) (s : S) :
    EachMeets step cond s [] := by
  intro pre e post mid hsplit
  simp at hsplit

theorem eachMeets_cons {step : S → E → Option S} {cond : List E → S → E → Prop} {s next : S}
    {e : E} {es : List E} (he : cond [] s e) (hstep : step s e = some next)
    (hrest : EachMeets step (fun before => cond (e :: before)) next es) :
    EachMeets step cond s (e :: es) := by
  intro pre f post mid hsplit hrun
  cases pre with
  | nil =>
      obtain ⟨rfl, rfl⟩ := List.cons_eq_cons.mp hsplit
      obtain rfl : s = mid := by simpa [run] using hrun
      exact he
  | cons e' pre =>
      rw [List.cons_append] at hsplit
      obtain ⟨rfl, rfl⟩ := List.cons_eq_cons.mp hsplit
      rw [run, hstep] at hrun
      exact hrest pre f post mid rfl hrun

theorem stepsMeet_iff_eachMeets {step : S → E → Option S} {cond : S → E → Prop} {s : S}
    {es : List E} : StepsMeet step cond s es ↔ EachMeets step (fun _ => cond) s es := by
  constructor
  · intro h pre e post mid hsplit hrun
    induction pre generalizing s es with
    | nil =>
        subst hsplit
        obtain rfl : s = mid := by simpa [run] using hrun
        exact h.1
    | cons f pre ih =>
        subst hsplit
        obtain ⟨next, hnext, hrest⟩ := Option.bind_eq_some_iff.mp hrun
        exact ih (h.2 next hnext) rfl hrest
  · intro h
    induction es generalizing s with
    | nil => trivial
    | cons e es ih =>
        refine ⟨h [] e es s rfl rfl, ?_⟩
        intro next hnext
        apply ih
        intro pre f post mid hsplit hrun
        exact h (e :: pre) f post mid (by rw [hsplit, List.cons_append])
          (by simp only [run, hnext, Option.bind_some, hrun])

/-- Two conditions that agree wherever a run can come to. -/
theorem eachMeets_congr {step : S → E → Option S} {cond cond' : List E → S → E → Prop} {s : S}
    (agree : ∀ pre mid e, run step s pre = some mid → (cond pre mid e ↔ cond' pre mid e))
    (es : List E) : EachMeets step cond s es ↔ EachMeets step cond' s es :=
  forall₄_congr fun pre e _ mid => forall₂_congr fun _ hrun => agree pre mid e hrun

/-- A split of a run that has been extended by one event. -/
theorem split_snoc {pre post es : List E} {e f : E} (h : es ++ [e] = pre ++ f :: post) :
    (pre = es ∧ f = e ∧ post = []) ∨ ∃ front, post = front ++ [e] ∧ es = pre ++ f :: front := by
  cases List.eq_nil_or_concat post with
  | inl hnil =>
      subst hnil
      obtain ⟨hes, hlast⟩ := List.append_inj' h rfl
      exact Or.inl ⟨hes.symm, (List.singleton_inj.mp hlast).symm, rfl⟩
  | inr hconcat =>
      obtain ⟨front, last, hpost⟩ := hconcat
      rw [List.concat_eq_append] at hpost
      subst hpost
      have hsplit : es ++ [e] = (pre ++ f :: front) ++ [last] := by simpa using h
      obtain ⟨hes, hlast⟩ := List.append_inj' hsplit rfl
      exact Or.inr ⟨front, by rw [List.singleton_inj.mp hlast], hes⟩

theorem eachMeets_snoc {step : S → E → Option S} {cond : List E → S → E → Prop} {s mid : S}
    {es : List E} (e : E) (h : run step s es = some mid) :
    EachMeets step cond s (es ++ [e]) ↔ EachMeets step cond s es ∧ cond es mid e := by
  constructor
  · intro hs
    refine ⟨?_, hs es e [] mid rfl h⟩
    intro pre f post m hsplit hrun
    exact hs pre f (post ++ [e]) m (by simp [hsplit]) hrun
  · intro hand pre f post m hsplit hrun
    cases split_snoc hsplit with
    | inl hlast =>
        obtain ⟨rfl, rfl, rfl⟩ := hlast
        obtain rfl : mid = m := by simpa [h] using hrun
        exact hand.2
    | inr hinner =>
        obtain ⟨front, rfl, hes⟩ := hinner
        exact hand.1 pre f front m hes hrun

/-- Every event after the last reset of the run met the condition when it was taken. -/
def HoldsSince (step : S → E → Option S) (reset : E → Prop) (cond : S → E → Prop)
    (s : S) (es : List E) : Prop :=
  ∀ pre e post mid, es = pre ++ e :: post → run step s pre = some mid →
    (∀ r ∈ e :: post, ¬ reset r) → cond mid e

theorem holdsSince_snoc {step : S → E → Option S} (reset : E → Prop) (cond : S → E → Prop)
    {s mid : S} {es : List E} (e : E) (h : run step s es = some mid) :
    HoldsSince step reset cond s (es ++ [e]) ↔
      reset e ∨ (HoldsSince step reset cond s es ∧ cond mid e) := by
  constructor
  · intro hs
    by_cases hr : reset e
    · exact Or.inl hr
    · refine Or.inr ⟨?_, ?_⟩
      · intro pre f post m hsplit hrun hnone
        apply hs pre f (post ++ [e]) m (by simp [hsplit]) hrun
        intro r hmem
        rw [← List.cons_append, List.mem_append, List.mem_singleton] at hmem
        exact hmem.elim (hnone r) (fun hre => hre ▸ hr)
      · exact hs es e [] mid rfl h (by simpa using hr)
  · intro hor pre f post m hsplit hrun hnone
    cases split_snoc hsplit with
    | inl hlast =>
        obtain ⟨rfl, rfl, rfl⟩ := hlast
        obtain rfl : mid = m := by simpa [h] using hrun
        exact hor.elim (fun hr => absurd hr (hnone f List.mem_cons_self)) fun hs => hs.2
    | inr hinner =>
        obtain ⟨front, rfl, hes⟩ := hinner
        have he : ¬ reset e := hnone e (by simp)
        refine (hor.resolve_left he).1 pre f front m hes hrun ?_
        intro r hmem
        exact hnone r (List.cons_append ▸ List.mem_append_left [e] hmem)

/-- No event meets the condition once a marked event has been taken. -/
def NeverAfter (step : S → E → Option S) (mark : E → Prop) (cond : S → E → Prop) (s : S)
    (es : List E) : Prop :=
  ∀ pre e post mid, es = pre ++ e :: post → run step s pre = some mid → (∃ m ∈ pre, mark m) →
    ¬ cond mid e

theorem neverAfter_nil (step : S → E → Option S) (mark : E → Prop) (cond : S → E → Prop) (s : S) :
    NeverAfter step mark cond s [] := by
  intro pre e post mid hsplit
  simp at hsplit

theorem neverAfter_snoc {step : S → E → Option S} {mark : E → Prop} {cond : S → E → Prop}
    {s mid : S} {es : List E} (e : E) (h : run step s es = some mid) :
    NeverAfter step mark cond s (es ++ [e]) ↔
      NeverAfter step mark cond s es ∧ ((∃ m ∈ es, mark m) → ¬ cond mid e) := by
  constructor
  · intro hs
    refine ⟨?_, fun hmark => hs es e [] mid rfl h hmark⟩
    intro pre f post m hsplit hrun hmark
    exact hs pre f (post ++ [e]) m (by simp [hsplit]) hrun hmark
  · intro hand pre f post m hsplit hrun hmark
    cases split_snoc hsplit with
    | inl hlast =>
        obtain ⟨rfl, rfl, rfl⟩ := hlast
        obtain rfl : mid = m := by simpa [h] using hrun
        exact hand.2 hmark
    | inr hinner =>
        obtain ⟨front, rfl, hes⟩ := hinner
        exact hand.1 pre f front m hes hrun hmark

/-- Some step of the run left a mark that no later step has cleared. -/
def SomeSince (step : S → E → Option S) (marks clears : S → E → Prop) (s : S)
    (es : List E) : Prop :=
  ∃ pre e post mid next, es = pre ++ e :: post ∧ run step s pre = some mid ∧
    step mid e = some next ∧ marks mid e ∧ StepsMeet step (fun s e => ¬ clears s e) next post

theorem not_someSince_nil (step : S → E → Option S) (marks clears : S → E → Prop) (s : S) :
    ¬ SomeSince step marks clears s [] := by
  intro h
  obtain ⟨pre, e, post, _, _, hsplit, -⟩ := h
  simp at hsplit

theorem someSince_snoc {step : S → E → Option S} (marks clears : S → E → Prop) {s mid t : S}
    {es : List E} {e : E} (h : run step s es = some mid) (hstep : step mid e = some t) :
    SomeSince step marks clears s (es ++ [e]) ↔
      marks mid e ∨ (SomeSince step marks clears s es ∧ ¬ clears mid e) := by
  constructor
  · intro hs
    obtain ⟨pre, f, post, m, next, hsplit, hrun, hnext, hmark, hrest⟩ := hs
    cases split_snoc hsplit with
    | inl hlast =>
        obtain ⟨rfl, rfl, rfl⟩ := hlast
        obtain rfl : mid = m := by simpa [h] using hrun
        exact Or.inl hmark
    | inr hinner =>
        obtain ⟨front, rfl, rfl⟩ := hinner
        have hfront : run step next front = some mid := by
          simpa only [run_append, hrun, run, hnext, Option.bind_some] using h
        obtain ⟨hmeets, hlast⟩ := (stepsMeet_snoc e hfront).mp hrest
        exact Or.inr ⟨⟨pre, f, front, m, next, rfl, hrun, hnext, hmark, hmeets⟩, hlast⟩
  · intro hor
    cases hor with
    | inl hmark => exact ⟨es, e, [], mid, t, rfl, h, hstep, hmark, trivial⟩
    | inr hsome =>
        obtain ⟨⟨pre, f, post, m, next, rfl, hrun, hnext, hmark, hmeets⟩, hlast⟩ := hsome
        have hpost : run step next post = some mid := by
          simpa only [run_append, hrun, run, hnext, Option.bind_some] using h
        exact ⟨pre, f, post ++ [e], m, next, by simp, hrun, hnext, hmark,
          (stepsMeet_snoc e hpost).mpr ⟨hmeets, hlast⟩⟩

def trace {O : Type w} (step : S → E → Option S) (out : S → E → List O) : S → List E → List O
  | _, [] => []
  | s, e :: es => out s e ++ ((step s e).map fun next => trace step out next es).getD []

theorem trace_snoc {O : Type w} {step : S → E → Option S} (out : S → E → List O) {s mid : S}
    {es : List E} (e : E) (h : run step s es = some mid) :
    trace step out s (es ++ [e]) = trace step out s es ++ out mid e := by
  induction es generalizing s with
  | nil =>
      obtain rfl : s = mid := by simpa [run] using h
      cases hstep : step s e <;> simp [trace, hstep]
  | cons e' es ih =>
      obtain ⟨next, hnext, hrest⟩ := Option.bind_eq_some_iff.mp h
      simp only [List.cons_append, trace, hnext, Option.map_some, Option.getD_some, ih hrest,
        List.append_assoc]

/-- What the steps of a run have put out since the last event that clears it. -/
def traceSince {O : Type w} (step : S → E → Option S) (clears : E → Bool)
    (out : S → E → List O) : List O → S → List E → List O
  | kept, _, [] => kept
  | kept, s, e :: es => ((step s e).map fun next =>
      traceSince step clears out (if clears e then [] else kept ++ out s e) next es).getD kept

theorem traceSince_snoc {O : Type w} {step : S → E → Option S} (clears : E → Bool)
    (out : S → E → List O) (kept : List O) {s mid t : S} {es : List E} {e : E}
    (h : run step s es = some mid) (hstep : step mid e = some t) :
    traceSince step clears out kept s (es ++ [e]) =
      if clears e then [] else traceSince step clears out kept s es ++ out mid e := by
  induction es generalizing kept s with
  | nil =>
      obtain rfl : s = mid := by simpa [run] using h
      simp [traceSince, hstep]
  | cons f es ih =>
      obtain ⟨next, hnext, hrest⟩ := Option.bind_eq_some_iff.mp h
      simp only [List.cons_append, traceSince, hnext, Option.map_some, Option.getD_some, ih _ hrest]

/-- An output that does not depend on the states can be read off the events. -/
theorem trace_eq_flatMap {O : Type w} {step : S → E → Option S} (out : E → List O) {s t : S}
    {es : List E} (h : run step s es = some t) :
    trace step (fun _ => out) s es = es.flatMap out := by
  refine run_induction (motive := fun es _ => trace step (fun _ => out) s es = es.flatMap out)
    rfl ?_ h
  intro es mid e t hrun ih _
  rw [trace_snoc _ e hrun, ih, List.flatMap_append, List.flatMap_singleton]

/-- A field that every step either leaves alone or sets holds what was written last. -/
theorem field_eq_last_write {V : Type*} {step : S → E → Option S} (field : S → V)
    {writes : S → E → List V} (hstep : ∀ s e t, step s e = some t →
      field t = (writes s e).getLast?.getD (field s)) {s t : S} {es : List E}
    (h : run step s es = some t) :
    field t = (trace step writes s es).getLast?.getD (field s) := by
  refine run_induction (motive := fun es t =>
    field t = (trace step writes s es).getLast?.getD (field s)) rfl ?_ h
  intro es mid e t hrun ih hnext
  rw [trace_snoc writes e hrun, List.getLast?_append, hstep mid e t hnext, ih]
  cases (writes mid e).getLast? with
  | none => rfl
  | some value => rfl

theorem trace_map {O P : Type*} {step : S → E → Option S} {out : S → E → List O}
    {out' : S → E → List P} (f : List O → List P) (nil : f [] = [])
    (append : ∀ xs ys, f (xs ++ ys) = f xs ++ f ys) (same : ∀ s e, f (out s e) = out' s e)
    (s : S) (es : List E) : f (trace step out s es) = trace step out' s es := by
  induction es generalizing s with
  | nil => exact nil
  | cons e es ih =>
      rw [trace, trace, append, same]
      cases step s e with
      | none => exact congrArg _ nil
      | some next => exact congrArg _ (ih next)

/-- However the internal events are ordered, only so many of them can follow on the state,
and as long as the system does not rest there is a next one. -/
structure ComesToRest (step : S → E → Option S) (internal : E → Prop) (resting : S → Prop)
    (bound : Nat) (s : S) : Prop where
  bounded : ∀ es t, (∀ e ∈ es, internal e) → run step s es = some t → es.length ≤ bound
  continues : ∀ es t, (∀ e ∈ es, internal e) → run step s es = some t → ¬ resting t →
    ∃ e next, internal e ∧ step t e = some next

theorem length_le_of_decreasing {step : S → E → Option S} {internal : E → Prop}
    (measure : S → Nat)
    (decreases : ∀ s e t, internal e → step s e = some t → measure t < measure s)
    {s t : S} {es : List E} (hinternal : ∀ e ∈ es, internal e) (h : run step s es = some t) :
    es.length + measure t ≤ measure s := by
  induction es generalizing s with
  | nil =>
      obtain rfl : s = t := by simpa [run] using h
      simp
  | cons e es ih =>
      obtain ⟨mid, hstep, hrest⟩ := Option.bind_eq_some_iff.mp h
      have hlt := decreases s e mid (hinternal e List.mem_cons_self) hstep
      have hle := ih (fun e he => hinternal e (List.mem_cons_of_mem _ he)) hrest
      simp only [List.length_cons]
      omega

theorem comesToRest_of_decreasing {step : S → E → Option S} {internal : E → Prop}
    {resting : S → Prop} (measure : S → Nat)
    (decreases : ∀ s e t, internal e → step s e = some t → measure t < measure s)
    (continues : ∀ s, ¬ resting s → ∃ e next, internal e ∧ step s e = some next) (s : S) :
    ComesToRest step internal resting (measure s) s where
  bounded := by
    intro es t hinternal h
    have := length_le_of_decreasing measure decreases hinternal h
    omega
  continues := fun _ t _ _ => continues t

theorem run_simulation {T : Type w} {F : Type*} {step : S → E → Option S}
    (step' : T → F → Option T) (view : S → T)
    (simulates : ∀ s e t, step s e = some t → ∃ fs, run step' (view s) fs = some (view t))
    {s t : S} {es : List E} (h : run step s es = some t) :
    ∃ fs, run step' (view s) fs = some (view t) := by
  refine run_induction (motive := fun _ t => ∃ fs, run step' (view s) fs = some (view t))
    ⟨[], rfl⟩ ?_ h
  intro es mid e t _ ih hstep
  obtain ⟨fs, hfs⟩ := ih
  obtain ⟨gs, hgs⟩ := simulates mid e t hstep
  exact ⟨fs ++ gs, by simp [run_append, hfs, hgs]⟩

/-- Two runs on the same events, from states that are related. -/
theorem run_related {T : Type w} {step : S → E → Option S} {step' : T → E → Option T}
    (Related : S → T → Prop)
    (follows : ∀ s s' e t, Related s s' → step s e = some t →
      ∃ t', step' s' e = some t' ∧ Related t t')
    {s t : S} {s' : T} {es : List E} (hrelated : Related s s') (h : run step s es = some t) :
    ∃ t', run step' s' es = some t' ∧ Related t t' := by
  induction es generalizing s s' with
  | nil =>
      obtain rfl : s = t := by simpa [run] using h
      exact ⟨s', rfl, hrelated⟩
  | cons e es ih =>
      obtain ⟨mid, hstep, hrest⟩ := Option.bind_eq_some_iff.mp h
      obtain ⟨mid', hstep', hmid⟩ := follows s s' e mid hrelated hstep
      obtain ⟨t', hrun', ht⟩ := ih hmid hrest
      exact ⟨t', by simp only [run, hstep', Option.bind_some, hrun'], ht⟩

def Halts (next : S → S) (halted : S → Prop) (s : S) : Prop :=
  ∃ n, halted (next^[n] s)

theorem halted_mono {next : S → S} {halted : S → Prop}
    (stays : ∀ s, halted s → halted (next s)) {s : S} {n m : Nat} (hle : n ≤ m)
    (h : halted (next^[n] s)) : halted (next^[m] s) := by
  obtain ⟨k, rfl⟩ := Nat.exists_eq_add_of_le hle
  induction k with
  | zero => exact h
  | succ k ih =>
      rw [← Nat.add_assoc, Function.iterate_succ_apply']
      exact stays _ (ih (Nat.le_add_right n k))

theorem not_halts_of_reached {next : S → S} {halted : S → Prop}
    (stays : ∀ s, halted s → halted (next s)) {s : S} (n : Nat)
    (h : ¬ Halts next halted (next^[n] s)) : ¬ Halts next halted s := by
  intro hs
  obtain ⟨m, hm⟩ := hs
  apply h
  refine ⟨m, ?_⟩
  rw [← Function.iterate_add_apply]
  exact halted_mono stays (Nat.le_add_right m n) hm

theorem not_halts_next {next : S → S} {halted : S → Prop} {s : S} (h : ¬ Halts next halted s) :
    ¬ Halts next halted (next s) := by
  intro hhalts
  obtain ⟨n, hn⟩ := hhalts
  exact h ⟨n + 1, by rwa [Function.iterate_succ_apply]⟩

/-- A machine that never halts, as the system that moves it by one event. -/
theorem run_of_not_halts {step : S → E → Option S} {next : S → S} {halted : S → Prop} {e : E}
    (moves : ∀ s, ¬ halted s → step s e = some (next s)) {s : S} (h : ¬ Halts next halted s)
    (n : Nat) : run step s (List.replicate n e) = some (next^[n] s) := by
  induction n generalizing s with
  | zero => rfl
  | succ n ih =>
      have hmoves : step s e = some (next s) := moves s fun hhalted => h ⟨0, hhalted⟩
      rw [List.replicate_succ, run, hmoves, Option.bind_some, ih (not_halts_next h),
        Function.iterate_succ_apply]

/-- The steps to states that are allowed. -/
def within (step : S → E → Option S) (allowed : S → Prop) [DecidablePred allowed] (s : S)
    (e : E) : Option S :=
  (step s e).filter fun t => allowed t

theorem within_eq_some {step : S → E → Option S} {allowed : S → Prop} [DecidablePred allowed]
    {s t : S} {e : E} :
    within step allowed s e = some t ↔ step s e = some t ∧ allowed t := by
  rw [within, Option.filter_eq_some_iff, decide_eq_true_eq]

theorem run_of_within {step : S → E → Option S} {allowed : S → Prop} [DecidablePred allowed]
    {s t : S} {es : List E} (h : run (within step allowed) s es = some t) :
    run step s es = some t := by
  induction es generalizing s with
  | nil => exact h
  | cons e es ih =>
      obtain ⟨mid, hstep, hrest⟩ := Option.bind_eq_some_iff.mp h
      rw [run, (within_eq_some.mp hstep).1]
      exact ih hrest

/-- A run of which the steps make a size grow by one at most stays within any limit for which
there is room at its start. -/
theorem run_within_of_room {step : S → E → Option S} {size : S → Nat} {limit : Nat}
    (grows : ∀ s e t, step s e = some t → size t ≤ size s + 1) {s t : S} {es : List E}
    (h : run step s es = some t) (hroom : size s + es.length ≤ limit) :
    run (within step fun t => size t ≤ limit) s es = some t := by
  induction es generalizing s with
  | nil => exact h
  | cons e es ih =>
      obtain ⟨mid, hstep, hrest⟩ := Option.bind_eq_some_iff.mp h
      have hgrows := grows s e mid hstep
      rw [List.length_cons] at hroom
      have hwithin : within step (fun t => size t ≤ limit) s e = some mid :=
        within_eq_some.mpr ⟨hstep, by omega⟩
      rw [run, hwithin]
      exact ih hrest (by omega)

/-- A machine that rests once it has halted has one halting state. -/
theorem iterate_eq_of_halted {next : S → S} {halted : S → Prop}
    (rests : ∀ s, halted s → next s = s) {s : S} {n m : Nat} (hn : halted (next^[n] s))
    (hm : halted (next^[m] s)) : next^[n] s = next^[m] s := by
  have hrests : ∀ u, halted u → ∀ k, next^[k] u = u := by
    intro u hu k
    induction k with
    | zero => rfl
    | succ k ih => rw [Function.iterate_succ_apply, rests u hu, ih]
  cases Nat.le_total n m with
  | inl hle =>
      obtain ⟨k, rfl⟩ := Nat.exists_eq_add_of_le' hle
      rw [Function.iterate_add_apply, hrests _ hn]
  | inr hle =>
      obtain ⟨k, rfl⟩ := Nat.exists_eq_add_of_le' hle
      rw [Function.iterate_add_apply, hrests _ hm]

/-- A machine that comes back to a class of busy states again and again never halts. -/
theorem not_halts_of_recurrent {next : S → S} {halted : S → Prop}
    (stays : ∀ s, halted s → halted (next s)) (Busy : S → Prop)
    (busy : ∀ s, Busy s → ¬ halted s) (recurs : ∀ s, Busy s → ∃ k, Busy (next^[k + 1] s))
    {s : S} (h : Busy s) : ¬ Halts next halted s := by
  have returns : ∀ n, ∃ m, n ≤ m ∧ Busy (next^[m] s) := by
    intro n
    induction n with
    | zero => exact ⟨0, Nat.le_refl 0, h⟩
    | succ n ih =>
        obtain ⟨m, hm, hbusy⟩ := ih
        obtain ⟨k, hk⟩ := recurs _ hbusy
        exact ⟨k + 1 + m, by omega, by rwa [Function.iterate_add_apply]⟩
  intro hhalts
  obtain ⟨n, hn⟩ := hhalts
  obtain ⟨m, hle, hbusy⟩ := returns n
  exact busy _ hbusy (halted_mono stays hle hn)

end EventSystem
