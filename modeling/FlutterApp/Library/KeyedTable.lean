import Mathlib.Data.List.Basic
import Mathlib.Data.List.Nodup
import Mathlib.Logic.Function.Basic

/-!
Tables of rows with a unique key, and the partial maps they stand for.

A table carries the uniqueness of its keys, so a statement that would break it
has no result. Statements act on every row their condition selects; with a
condition on the key they then act on at most one entry of the map.
-/

universe u v

structure KeyedTable {κ : Type u} {ρ : Type v} (key : ρ → κ) where
  rows : List ρ
  unique : (rows.map key).Nodup

namespace KeyedTable
variable {κ : Type u} {ρ : Type v} {key : ρ → κ}

@[ext] theorem ext {t t' : KeyedTable key} (h : t.rows = t'.rows) : t = t' := by
  cases t
  cases t'
  cases h
  rfl

instance [DecidableEq ρ] : DecidableEq (KeyedTable key) := fun t t' =>
  decidable_of_iff (t.rows = t'.rows) ⟨ext, congrArg rows⟩

def empty : KeyedTable key := ⟨[], List.nodup_nil⟩

def keys (t : KeyedTable key) : List κ := t.rows.map key

variable [DecidableEq κ]

/-- The row under a key, read as a partial map. -/
def entry (t : KeyedTable key) (k : κ) : Option ρ := t.rows.find? fun row => key row = k

/-- The condition "key = ?". A comparison with NULL is never true. -/
def hasKey (key : ρ → κ) (k : Option κ) (row : ρ) : Bool := k = some (key row)

def insertRow (t : KeyedTable key) (row : ρ) : Option (KeyedTable key) :=
  if h : key row ∈ t.keys then none
  else some ⟨t.rows ++ [row], by
    rw [List.map_append, List.nodup_append]
    refine ⟨t.unique, List.nodup_singleton _, ?_⟩
    intro a ha b hb heq
    exact h (List.mem_singleton.mp hb ▸ heq ▸ ha)⟩

def deleteWhere (t : KeyedTable key) (p : ρ → Bool) : Nat × KeyedTable key :=
  (t.rows.countP p, ⟨t.rows.filter fun row => !p row,
    (List.Sublist.map key List.filter_sublist).nodup t.unique⟩)

/-- Every selected row is rewritten; the statement fails as a whole when one of
them cannot be, or when two rows would end up under one key. -/
def updateWhere {ε : Type*} (t : KeyedTable key) (p : ρ → Bool) (f : ρ → Except ε ρ)
    (duplicate : ε) : Except ε (Nat × KeyedTable key) :=
  match t.rows.mapM fun row => if p row then f row else .ok row with
  | .error e => .error e
  | .ok rows =>
      if h : (rows.map key).Nodup then .ok (t.rows.countP p, ⟨rows, h⟩) else .error duplicate

theorem entry_eq_some (t : KeyedTable key) (k : κ) (row : ρ) :
    t.entry k = some row ↔ row ∈ t.rows ∧ key row = k := by
  constructor
  · intro h
    exact ⟨List.mem_of_find?_eq_some h, by simpa using List.find?_some h⟩
  · intro hrow
    obtain ⟨hmem, rfl⟩ := hrow
    cases h : t.entry (key row) with
    | none =>
        have := List.find?_eq_none.mp h row hmem
        simp at this
    | some row' =>
        have hmem' : row' ∈ t.rows := List.mem_of_find?_eq_some h
        have hkey : key row' = key row := by simpa using List.find?_some h
        rw [List.inj_on_of_nodup_map t.unique hmem' hmem hkey]

theorem entry_eq_none (t : KeyedTable key) (k : κ) : t.entry k = none ↔ k ∉ t.keys := by
  simp [entry, keys, List.find?_eq_none]

theorem entry_isSome (t : KeyedTable key) (k : κ) : (t.entry k).isSome ↔ k ∈ t.keys := by
  rw [← Option.ne_none_iff_isSome, ne_eq, entry_eq_none, not_not]

/-- Uniqueness makes membership decide the entry under a key. -/
theorem entry_eq_of_mem_iff {t : KeyedTable key} {k : κ} {o : Option ρ}
    (h : ∀ row, (row ∈ t.rows ∧ key row = k) ↔ o = some row) : t.entry k = o := by
  cases o with
  | none =>
      rw [entry_eq_none]
      intro hk
      obtain ⟨row, hmem, hkey⟩ := List.mem_map.mp hk
      exact absurd ((h row).mp ⟨hmem, hkey⟩) (by simp)
  | some row => exact (entry_eq_some t k row).mpr ((h row).mpr rfl)

theorem insertRow_eq_none (t : KeyedTable key) (row : ρ) :
    t.insertRow row = none ↔ key row ∈ t.keys := by
  simp only [insertRow]
  split <;> simp_all

theorem insertRow_rows {t t' : KeyedTable key} {row : ρ} (h : t.insertRow row = some t') :
    t'.rows = t.rows ++ [row] := by
  simp only [insertRow] at h
  split at h
  · cases h
  · cases h
    rfl

theorem insertRow_fresh {t t' : KeyedTable key} {row : ρ} (h : t.insertRow row = some t') :
    key row ∉ t.keys := by
  rw [← insertRow_eq_none, h]
  simp

theorem insertRow_of_fresh (t : KeyedTable key) (row : ρ) (h : key row ∉ t.keys) :
    ∃ t', t.insertRow row = some t' := by
  rw [← Option.ne_none_iff_exists', ne_eq, insertRow_eq_none]
  exact h

/-- A table that differs from another under one key only. -/
theorem entry_eq_update {t t' : KeyedTable key} {k : κ} {v : Option ρ}
    (hv : ∀ row, v = some row → key row = k)
    (hat : ∀ row, key row = k → (row ∈ t'.rows ↔ v = some row))
    (haway : ∀ row, key row ≠ k → (row ∈ t'.rows ↔ row ∈ t.rows)) :
    t'.entry = Function.update t.entry k v := by
  funext k'
  apply entry_eq_of_mem_iff
  intro row
  by_cases hk : k' = k
  · subst hk
    rw [Function.update_self]
    exact ⟨fun hrow => (hat row hrow.2).mp hrow.1,
      fun hrow => ⟨(hat row (hv row hrow)).mpr hrow, hv row hrow⟩⟩
  · rw [Function.update_of_ne hk, entry_eq_some]
    exact and_congr_left fun hkey => haway row (hkey ▸ hk)

theorem entry_insertRow {t t' : KeyedTable key} {row : ρ} (h : t.insertRow row = some t') :
    t'.entry = Function.update t.entry (key row) (some row) := by
  have hrows : ∀ r, r ∈ t'.rows ↔ r ∈ t.rows ∨ r = row := by
    intro r
    rw [insertRow_rows h, List.mem_append, List.mem_singleton]
  apply entry_eq_update
  · intro r hr
    rw [Option.some.inj hr]
  · intro r hkey
    have hold : r ∉ t.rows := fun hmem => insertRow_fresh h (hkey ▸ List.mem_map_of_mem hmem)
    rw [hrows, or_iff_right hold, Option.some.injEq, eq_comm]
  · intro r hkey
    rw [hrows, or_iff_left fun heq => hkey (congrArg key heq)]

@[simp] theorem hasKey_none (row : ρ) : hasKey key none row = false := by
  simp [hasKey]

@[simp] theorem hasKey_some (k : κ) (row : ρ) :
    hasKey key (some k) row = true ↔ key row = k := by
  simp [hasKey, eq_comm]

theorem countP_hasKey_some (t : KeyedTable key) (k : κ) :
    t.rows.countP (hasKey key (some k)) = if (t.entry k).isSome then 1 else 0 := by
  have hcount : t.rows.countP (hasKey key (some k)) = t.keys.count k := by
    rw [keys, List.count, List.countP_map]
    apply List.countP_congr
    intro row _
    simp
  rw [hcount]
  split <;> rename_i h
  · exact List.count_eq_one_of_mem t.unique ((entry_isSome t k).mp h)
  · exact List.count_eq_zero_of_not_mem (fun hk => h ((entry_isSome t k).mpr hk))

theorem deleteWhere_null (t : KeyedTable key) : t.deleteWhere (hasKey key none) = (0, t) := by
  refine Prod.ext ?_ (KeyedTable.ext ?_) <;> simp [deleteWhere]

theorem entry_deleteWhere (t : KeyedTable key) (k : κ) :
    (t.deleteWhere (hasKey key (some k))).2.entry = Function.update t.entry k none := by
  have hrows : ∀ row, row ∈ (t.deleteWhere (hasKey key (some k))).2.rows ↔
      row ∈ t.rows ∧ key row ≠ k := by
    intro row
    simp only [deleteWhere, List.mem_filter, Bool.not_eq_true', ← Bool.not_eq_true, hasKey_some]
  apply entry_eq_update
  · intro row hrow
    cases hrow
  · intro row hkey
    simp [hrows, hkey]
  · intro row hkey
    rw [hrows, and_iff_left hkey]

theorem mapM_ok {ε : Type*} (rows : List ρ) {f : ρ → Except ε ρ} {g : ρ → ρ}
    (h : ∀ row ∈ rows, f row = .ok (g row)) : rows.mapM f = .ok (rows.map g) := by
  induction rows with
  | nil => rfl
  | cons row rows ih =>
      rw [List.mapM_cons, h row List.mem_cons_self,
        ih fun r hr => h r (List.mem_cons_of_mem _ hr)]
      rfl

theorem updateWhere_null {ε : Type*} (t : KeyedTable key) (f : ρ → Except ε ρ)
    (duplicate : ε) : t.updateWhere (hasKey key none) f duplicate = .ok (0, t) := by
  have hrows := mapM_ok (f := fun row => if hasKey key none row then f row else .ok row)
    (g := id) t.rows (by simp)
  simp only [updateWhere]
  rw [hrows]
  have hunique : ((t.rows.map id).map key).Nodup := by simpa using t.unique
  simp only [hunique, dite_true]
  refine congrArg Except.ok (Prod.ext (by simp) (KeyedTable.ext (List.map_id _)))

/-- The rows of an update whose condition names one key. -/
def rewriteAt (key : ρ → κ) (k : κ) (g : ρ → ρ) (row : ρ) : ρ :=
  if hasKey key (some k) row then g row else row

theorem rewriteAt_of_eq {k : κ} {row : ρ} (g : ρ → ρ) (h : key row = k) :
    rewriteAt key k g row = g row := by
  simp [rewriteAt, h]

theorem rewriteAt_of_ne {k : κ} {row : ρ} (g : ρ → ρ) (h : key row ≠ k) :
    rewriteAt key k g row = row := by
  simp [rewriteAt, h]

theorem key_rewriteAt {k : κ} {g : ρ → ρ} (hg : ∀ row, key (g row) = k) (row : ρ) :
    key (rewriteAt key k g row) = key row := by
  by_cases h : key row = k
  · rw [rewriteAt_of_eq g h, hg, h]
  · rw [rewriteAt_of_ne g h]

theorem keys_rewriteAt {k : κ} {g : ρ → ρ} (hg : ∀ row, key (g row) = k) (t : KeyedTable key) :
    (t.rows.map (rewriteAt key k g)).map key = t.keys := by
  rw [List.map_map]
  exact List.map_congr_left fun row _ => key_rewriteAt hg row

theorem entry_rewriteAt {t t' : KeyedTable key} {k : κ} {g : ρ → ρ}
    (hg : ∀ row, key (g row) = k) (h : t'.rows = t.rows.map (rewriteAt key k g)) :
    t'.entry = Function.update t.entry k ((t.entry k).map g) := by
  apply entry_eq_update
  · intro row hrow
    obtain ⟨old, -, rfl⟩ := Option.map_eq_some_iff.mp hrow
    exact hg old
  · intro row hkey
    rw [h, List.mem_map, Option.map_eq_some_iff]
    refine exists_congr fun old => ?_
    rw [entry_eq_some, and_assoc]
    refine and_congr_right fun _ => ⟨?_, ?_⟩
    · intro hold
      have hk : key old = k := by rw [← key_rewriteAt hg old, hold, hkey]
      exact ⟨hk, rewriteAt_of_eq g hk ▸ hold⟩
    · intro hold
      rw [rewriteAt_of_eq g hold.1]
      exact hold.2
  · intro row hkey
    rw [h, List.mem_map]
    refine ⟨?_, fun hmem => ⟨row, hmem, rewriteAt_of_ne g hkey⟩⟩
    intro hrow
    obtain ⟨old, hmem, hold⟩ := hrow
    have hk : key old ≠ k := by
      rw [← key_rewriteAt hg old, hold]
      exact hkey
    rw [rewriteAt_of_ne g hk] at hold
    exact hold ▸ hmem

/-- Rewriting the row under one key keeps the table well formed. -/
theorem updateWhere_key {ε : Type*} (t : KeyedTable key) (k : κ) {f : ρ → Except ε ρ}
    {g : ρ → ρ} (duplicate : ε) (hf : ∀ row, f row = .ok (g row)) (hg : ∀ row, key (g row) = k) :
    ∃ t', t.updateWhere (hasKey key (some k)) f duplicate =
        .ok (if (t.entry k).isSome then 1 else 0, t') ∧
      t'.entry = Function.update t.entry k ((t.entry k).map g) := by
  have hrows : (t.rows.mapM fun row => if hasKey key (some k) row then f row else .ok row) =
      .ok (t.rows.map (rewriteAt key k g)) := by
    apply mapM_ok
    intro row _
    simp only [rewriteAt]
    split
    · exact hf row
    · rfl
  have hunique : ((t.rows.map (rewriteAt key k g)).map key).Nodup := by
    rw [keys_rewriteAt hg]
    exact t.unique
  refine ⟨⟨_, hunique⟩, ?_, entry_rewriteAt hg rfl⟩
  simp only [updateWhere, hrows, hunique, dite_true, countP_hasKey_some]

theorem filter_key_ne {rows : List ρ} {k : κ} (h : k ∉ rows.map key) :
    rows.filter (fun row => key row ≠ k) = rows := by
  refine List.filter_eq_self.mpr fun row hrow => decide_eq_true fun heq => ?_
  exact h (List.mem_map.mpr ⟨row, hrow, heq⟩)

/-- With unique keys, removing the row at a position removes the key k alone exactly when
k is the key of that row. -/
theorem eraseIdx_eq_filter_iff {rows : List ρ} (unique : (rows.map key).Nodup) {i : Nat}
    (hi : i < rows.length) (k : κ) :
    rows.eraseIdx i = rows.filter (fun row => key row ≠ k) ↔ key rows[i] = k := by
  induction rows generalizing i with
  | nil => cases hi
  | cons row rows ih =>
      obtain ⟨hfirst, hrest⟩ := List.nodup_cons.mp unique
      by_cases hk : key row = k
      · have hfilter : (row :: rows).filter (fun row => key row ≠ k) = rows := by
          rw [List.filter_cons_of_neg (by simp [hk]), filter_key_ne (hk ▸ hfirst)]
        rw [hfilter]
        cases i with
        | zero => exact iff_of_true rfl hk
        | succ i =>
            have hi' : i < rows.length := Nat.lt_of_succ_lt_succ hi
            refine iff_of_false ?_ ?_
            · intro heq
              have hrow : row ∈ rows := heq ▸ List.mem_cons_self
              exact hfirst (List.mem_map_of_mem hrow)
            · intro heq
              exact hfirst ((heq.trans hk.symm) ▸ List.mem_map_of_mem (List.getElem_mem hi'))
      · rw [List.filter_cons_of_pos (by simp [hk])]
        cases i with
        | zero =>
            refine iff_of_false ?_ hk
            intro heq
            have hrow : row ∈ rows := by
              rw [show rows = _ from heq]
              exact List.mem_cons_self
            exact hfirst (List.mem_map_of_mem hrow)
        | succ i =>
            rw [List.eraseIdx_cons_succ, List.cons_eq_cons]
            simpa using ih hrest (Nat.lt_of_succ_lt_succ hi)

end KeyedTable

/-- A rule that names a key outside any given list of keys. -/
structure KeySupply (κ : Type u) where
  next : List κ → κ
  fresh : ∀ ks, next ks ∉ ks

namespace KeySupply

theorem largestPlusOne_fresh (ks : List Int) :
    (match ks.max? with
      | none => 1
      | some k => k + 1) ∉ ks := by
  intro hmem
  cases h : ks.max? with
  | none =>
      rw [h] at hmem
      simp [List.max?_eq_none_iff.mp h] at hmem
  | some k =>
      rw [h] at hmem
      have hle : k + 1 ≤ k := (List.max?_eq_some_iff.mp h).2 _ hmem
      omega

/-- The largest key plus one, and one for no keys at all. -/
def largestPlusOne : KeySupply Int where
  next ks := match ks.max? with
    | none => 1
    | some k => k + 1
  fresh := largestPlusOne_fresh

end KeySupply
