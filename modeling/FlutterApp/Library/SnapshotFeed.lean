import Mathlib.Data.List.Basic
import Mathlib.Data.List.Induction

/-!
A changing value and the subscriptions to it.

Each subscription has a queue of the values it has yet to see, the oldest first. It is
opened with the current value, and every change is added to every queue, so the last
value of a queue that is not empty is always the current one.
-/

universe u

structure SnapshotFeed (α : Type u) where
  current : α
  queues : List (List α)
  latest : ∀ queue ∈ queues, ∀ x, queue.getLast? = some x → x = current

namespace SnapshotFeed
variable {α : Type u}

def initial (value : α) : SnapshotFeed α := ⟨value, [], nofun⟩

def subscribe (feed : SnapshotFeed α) : SnapshotFeed α where
  current := feed.current
  queues := feed.queues ++ [[feed.current]]
  latest := by
    intro queue hqueue x hx
    cases List.mem_append.mp hqueue with
    | inl hold => exact feed.latest queue hold x hx
    | inr hnew =>
        rw [List.mem_singleton.mp hnew] at hx
        exact (Option.some.inj hx).symm

/-- A change to the same value is none. -/
def publish [DecidableEq α] (feed : SnapshotFeed α) (value : α) : SnapshotFeed α :=
  if value = feed.current then feed
  else {
    current := value
    queues := feed.queues.map (· ++ [value])
    latest := by
      intro queue hqueue x hx
      obtain ⟨old, -, rfl⟩ := List.mem_map.mp hqueue
      simpa using hx.symm }

/-- The queue of a subscription that has seen its first value. -/
def advance (feed : SnapshotFeed α) (k : Nat) : SnapshotFeed α where
  current := feed.current
  queues := feed.queues.modify k List.tail
  latest := by
    intro queue hqueue x hx
    obtain ⟨j, hj⟩ := List.mem_iff_getElem?.mp hqueue
    rw [List.getElem?_modify] at hj
    obtain ⟨old, hold, rfl⟩ := Option.map_eq_some_iff.mp hj
    apply feed.latest old (List.mem_of_getElem? hold)
    split at hx
    · cases old with
      | nil => cases hx
      | cons y rest =>
          rw [List.tail_cons] at hx
          rw [List.getLast?_cons, hx, Option.getD_some]
    · exact hx

def take (feed : SnapshotFeed α) (k : Nat) : Option (α × SnapshotFeed α) :=
  (feed.queues[k]?.bind List.head?).map fun value => (value, feed.advance k)

def Settled (feed : SnapshotFeed α) : Prop := ∀ queue ∈ feed.queues, queue = []

theorem settled_of_replicate {feed : SnapshotFeed α} (n : Nat)
    (h : feed.queues = List.replicate n []) : feed.Settled := by
  intro queue hqueue
  rw [h] at hqueue
  exact List.eq_of_mem_replicate hqueue

theorem not_settled_subscribe (feed : SnapshotFeed α) : ¬ feed.subscribe.Settled := by
  intro h
  have := h [feed.current] (List.mem_append_right _ (List.mem_singleton_self _))
  cases this

theorem publish_current [DecidableEq α] (feed : SnapshotFeed α) (value : α) :
    (feed.publish value).current = value := by
  simp only [publish]
  split
  · rename_i hsame
    exact hsame.symm
  · rfl

theorem publish_settled [DecidableEq α] {feed : SnapshotFeed α} {value : α}
    (hopen : feed.queues ≠ []) (h : (feed.publish value).Settled) : feed.publish value = feed := by
  by_cases hv : value = feed.current
  · simp only [publish, hv, if_true]
  · simp only [publish, hv, if_false, Settled, List.forall_mem_map] at h
    obtain ⟨queue, hqueue⟩ := List.exists_mem_of_ne_nil _ hopen
    have := h queue hqueue
    simp at this

theorem publish_queues_ne_nil [DecidableEq α] {feed : SnapshotFeed α} (value : α)
    (h : feed.queues ≠ []) : (feed.publish value).queues ≠ [] := by
  simp only [publish]
  split
  · exact h
  · simpa using h

/-- The value that empties the last queue is the current one. -/
theorem take_settled {feed next : SnapshotFeed α} {k : Nat} {value : α}
    (h : feed.take k = some (value, next)) (hsettled : next.Settled) : value = next.current := by
  obtain ⟨value', hvalue, heq⟩ := Option.map_eq_some_iff.mp h
  cases heq
  obtain ⟨queue, hqueue, hhead⟩ := Option.bind_eq_some_iff.mp hvalue
  cases queue with
  | nil => cases hhead
  | cons x rest =>
      cases hhead
      have hrest : rest ∈ (feed.advance k).queues := by
        apply List.mem_of_getElem? (i := k)
        simp only [advance, List.getElem?_modify, hqueue]
        simp
      rw [hsettled rest hrest] at hqueue
      exact feed.latest _ (List.mem_of_getElem? hqueue) _ rfl

theorem take_queues_ne_nil {feed next : SnapshotFeed α} {k : Nat} {value : α}
    (h : feed.take k = some (value, next)) : next.queues ≠ [] := by
  obtain ⟨value', hvalue, heq⟩ := Option.map_eq_some_iff.mp h
  cases heq
  obtain ⟨queue, hqueue, -⟩ := Option.bind_eq_some_iff.mp hvalue
  intro hnil
  have hlen := congrArg List.length hnil
  simp only [advance, List.length_modify, List.length_nil, List.length_eq_zero_iff] at hlen
  rw [hlen] at hqueue
  cases hqueue

/-- The current value and all values in the queues have the property. -/
structure Carries (P : α → Prop) (feed : SnapshotFeed α) : Prop where
  current : P feed.current
  queues : ∀ queue ∈ feed.queues, ∀ x ∈ queue, P x

variable {P : α → Prop}

theorem carries_mono {Q : α → Prop} {feed : SnapshotFeed α} (h : Carries P feed)
    (himp : ∀ x, P x → Q x) : Carries Q feed :=
  ⟨himp _ h.current, fun queue hqueue x hx => himp x (h.queues queue hqueue x hx)⟩

theorem carries_initial {value : α} (h : P value) : Carries P (initial value) :=
  ⟨h, List.forall_mem_nil _⟩

theorem carries_subscribe {feed : SnapshotFeed α} (h : Carries P feed) :
    Carries P feed.subscribe := by
  refine ⟨h.current, List.forall_mem_append.mpr ⟨h.queues, ?_⟩⟩
  exact List.forall_mem_singleton.mpr (List.forall_mem_singleton.mpr h.current)

theorem carries_publish [DecidableEq α] {feed : SnapshotFeed α} {value : α}
    (h : Carries P feed) (hvalue : P value) : Carries P (feed.publish value) := by
  simp only [publish]
  split
  · exact h
  · refine ⟨hvalue, List.forall_mem_map.mpr ?_⟩
    intro queue hqueue
    exact List.forall_mem_append.mpr ⟨h.queues queue hqueue, List.forall_mem_singleton.mpr hvalue⟩

theorem carries_take {feed next : SnapshotFeed α} {k : Nat} {value : α} (h : Carries P feed)
    (htake : feed.take k = some (value, next)) : P value ∧ Carries P next := by
  obtain ⟨value', hvalue, heq⟩ := Option.map_eq_some_iff.mp htake
  cases heq
  obtain ⟨queue, hqueue, hhead⟩ := Option.bind_eq_some_iff.mp hvalue
  refine ⟨h.queues queue (List.mem_of_getElem? hqueue) _ (List.mem_of_head? hhead), h.current, ?_⟩
  intro queue' hqueue'
  obtain ⟨j, hj⟩ := List.mem_iff_getElem?.mp hqueue'
  rw [advance, List.getElem?_modify] at hj
  obtain ⟨old, hold, rfl⟩ := Option.map_eq_some_iff.mp hj
  have hmem := h.queues old (List.mem_of_getElem? hold)
  split
  · exact fun x hx => hmem x (List.mem_of_mem_tail hx)
  · exact hmem

def outstanding (feed : SnapshotFeed α) : Nat := feed.queues.flatten.length

theorem outstanding_subscribe (feed : SnapshotFeed α) :
    feed.subscribe.outstanding = feed.outstanding + 1 := by
  simp [outstanding, subscribe]

theorem outstanding_of_settled {feed : SnapshotFeed α} (h : feed.Settled) :
    feed.outstanding = 0 := by
  have hnil : feed.queues.flatten = [] := List.flatten_eq_nil_iff.mpr h
  rw [outstanding, hnil, List.length_nil]

/-- A change is delivered to every subscription. -/
theorem outstanding_publish [DecidableEq α] (feed : SnapshotFeed α) (value : α) :
    (feed.publish value).outstanding =
      feed.outstanding + if value = feed.current then 0 else feed.queues.length := by
  have hadded : ∀ queues : List (List α), (queues.map (· ++ [value])).flatten.length =
      queues.flatten.length + queues.length := by
    intro queues
    induction queues with
    | nil => rfl
    | cons queue queues ih =>
        simp only [List.map_cons, List.flatten_cons, List.length_append, ih, List.length_cons,
          List.length_nil]
        omega
  simp only [publish]
  split
  · rfl
  · exact hadded feed.queues

theorem publish_length [DecidableEq α] (feed : SnapshotFeed α) (value : α) :
    (feed.publish value).queues.length = feed.queues.length := by
  simp only [publish]
  split
  · rfl
  · simp

theorem outstanding_take {feed next : SnapshotFeed α} {k : Nat} {value : α}
    (h : feed.take k = some (value, next)) :
    next.outstanding + 1 = feed.outstanding ∧ next.queues.length = feed.queues.length := by
  obtain ⟨value', hvalue, heq⟩ := Option.map_eq_some_iff.mp h
  cases heq
  obtain ⟨queue, hqueue, hhead⟩ := Option.bind_eq_some_iff.mp hvalue
  refine ⟨?_, by simp [advance]⟩
  simp only [outstanding, advance]
  clear h hvalue
  generalize feed.queues = queues at hqueue
  induction queues generalizing k with
  | nil => cases hqueue
  | cons first rest ih =>
      cases k with
      | zero =>
          obtain rfl : first = queue := by simpa using hqueue
          cases first with
          | nil => cases hhead
          | cons x xs =>
              simp only [List.modify_zero_cons, List.tail_cons, List.flatten_cons,
                List.length_append, List.length_cons]
              omega
      | succ k =>
          have hrest := ih (by simpa using hqueue)
          simp only [List.modify_succ_cons, List.flatten_cons, List.length_append]
          omega

theorem exists_take {feed : SnapshotFeed α} (h : ¬ feed.Settled) :
    ∃ k taken, feed.take k = some taken := by
  simp only [Settled, not_forall] at h
  obtain ⟨queue, hqueue, hbusy⟩ := h
  obtain ⟨k, hk⟩ := List.mem_iff_getElem?.mp hqueue
  obtain ⟨value, rest, rfl⟩ := List.exists_cons_of_ne_nil hbusy
  refine ⟨k, (value, feed.advance k), ?_⟩
  simp only [take, hk, Option.bind_some, List.head?_cons, Option.map_some]

end SnapshotFeed
