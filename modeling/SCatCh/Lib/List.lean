import Mathlib.Data.List.Perm.Basic
import Mathlib.Data.List.Nodup

/-!
This module contains facts about lists that loops over dictionaries lead to.
-/

namespace List

variable {α β κ : Type}

theorem mapM_eq_some_map {f : α → Option β} {g : α → β} {l : List α}
    (h : ∀ x ∈ l, f x = some (g x))
    : l.mapM f = some (l.map g) := by
  induction l with
  | nil => rfl
  | cons x l ih =>
    have hx := h x (by simp)
    have hl := ih fun y hy => h y (by simp [hy])
    simp [hx, hl]

theorem isSome_mapM {f : α → Option β} {l : List α}
    : (l.mapM f).isSome = true ↔ ∀ x ∈ l, (f x).isSome = true := by
  induction l with
  | nil => simp
  | cons x l ih =>
    rw [List.mapM_cons, List.forall_mem_cons]
    rw [← ih]
    cases f x <;> cases l.mapM f <;> simp

theorem map_eq_of_mapM {f : α → Option β} {l : List α} {l' : List β} (h : l.mapM f = some l')
    : l.map f = l'.map some := by
  induction l generalizing l' with
  | nil =>
    simp only [List.mapM_nil, Option.pure_def, Option.some.injEq] at h
    simp [← h]
  | cons x l ih =>
    rw [List.mapM_cons] at h
    simp only [Option.bind_eq_bind, Option.bind_eq_some_iff, Option.pure_def, Option.some.injEq] at h
    obtain ⟨y, hy, ys, hys, rfl⟩ := h
    simp [hy, ih hys]

theorem mem_of_mapM {f : α → Option β} {l : List α} {l' : List β} (h : l.mapM f = some l')
    : ∀ y ∈ l', ∃ x ∈ l, f x = some y := by
  intro y hy
  have : some y ∈ l.map f := by
    rw [map_eq_of_mapM h]
    exact List.mem_map_of_mem hy
  simpa using this

theorem exists_mapM_of_perm {f : α → Option β} {l l' : List α} {r' : List β} (h : l.Perm l')
    (hr' : l'.mapM f = some r')
    : ∃ r, l.mapM f = some r ∧ r.Perm r' := by
  have hsome : (l.mapM f).isSome = true := by
    rw [isSome_mapM]
    intro x hx
    have : (l'.mapM f).isSome = true := by rw [hr']; rfl
    exact isSome_mapM.1 this x (h.mem_iff.1 hx)
  obtain ⟨r, hr⟩ := Option.isSome_iff_exists.1 hsome
  refine ⟨r, hr, ?_⟩
  have hmap := h.map f
  rw [map_eq_of_mapM hr, map_eq_of_mapM hr'] at hmap
  exact (List.map_perm_map_iff (fun _ _ => Option.some.inj)).1 hmap

theorem flatMap_filter_perm [DecidableEq κ] (f : α → κ) (ks : List κ) (hks : ks.Nodup)
    (l : List α) (hl : ∀ x ∈ l, f x ∈ ks)
    : (ks.flatMap fun k => l.filter fun x => f x = k).Perm l := by
  induction ks generalizing l with
  | nil =>
    cases l with
    | nil => simp
    | cons x l => exact absurd (hl x (by simp)) (by simp)
  | cons k ks ih =>
    rw [List.nodup_cons] at hks
    have hrest : (ks.flatMap fun k' => (l.filter fun x => ¬f x = k).filter fun x => f x = k').Perm
        (l.filter fun x => ¬f x = k) := by
      apply ih hks.2
      intro x hx
      simp only [List.mem_filter, decide_eq_true_eq] at hx
      have := hl x hx.1
      simpa [hx.2] using this
    have hsame : (ks.flatMap fun k' => l.filter fun x => f x = k')
        = (ks.flatMap fun k' => (l.filter fun x => ¬f x = k).filter fun x => f x = k') := by
      apply List.flatMap_congr
      intro k' hk'
      rw [List.filter_filter]
      apply List.filter_congr
      intro x _
      have : k' ≠ k := by
        rintro rfl
        exact hks.1 hk'
      by_cases h : f x = k'
      . simp [h, this]
      . simp [h]
    rw [List.flatMap_cons, hsame]
    refine (hrest.append_left _).trans ?_
    have := List.filter_append_perm (fun x => decide (f x = k)) l
    simpa using this

theorem filterMap_sublist_filterMap {f g : α → Option β} {l : List α}
    (h : ∀ x ∈ l, ∀ y, f x = some y → g x = some y)
    : (l.filterMap f).Sublist (l.filterMap g) := by
  induction l with
  | nil => simp
  | cons x l ih =>
    specialize ih fun x' hx' => h x' (by simp [hx'])
    cases hf : f x with
    | none =>
      rw [List.filterMap_cons_none hf]
      cases hg : g x with
      | none => rwa [List.filterMap_cons_none hg]
      | some y =>
        rw [List.filterMap_cons_some hg]
        exact ih.cons y
    | some y =>
      rw [List.filterMap_cons_some hf, List.filterMap_cons_some (h x (by simp) y hf)]
      exact ih.cons_cons y

theorem length_le_one_of_nodup {l : List α} (hl : l.Nodup) (h : ∀ x ∈ l, ∀ y ∈ l, x = y)
    : l.length ≤ 1 := by
  match l with
  | [] => simp
  | [x] => simp
  | x :: y :: l =>
    have : x = y := h x (by simp) y (by simp)
    simp [this] at hl

theorem eq_or_mem_eraseIdx {α : Type} {l : List α} {k : Nat} {x y : α} (hx : l[k]? = some x) (hy : y ∈ l)
    : y = x ∨ y ∈ l.eraseIdx k := by
  obtain ⟨hk, rfl⟩ := getElem?_eq_some_iff.1 hx
  rw [← (getElem_cons_eraseIdx_perm hk).mem_iff, mem_cons] at hy
  exact hy

theorem append_eq_append_cons {α : Type} {xs ys pre post : List α} {x : α}
    (h : xs ++ ys = pre ++ x :: post)
    : (∃ mid, xs = pre ++ x :: mid ∧ post = mid ++ ys) ∨ ∃ mid, pre = xs ++ mid ∧ ys = mid ++ x :: post := by
  rcases append_eq_append_iff.1 h with ⟨mid, hpre, hys⟩ | ⟨mid, hxs, hpost⟩
  . exact .inr ⟨mid, hpre, hys⟩
  . rcases cons_eq_append_iff.1 hpost with ⟨rfl, hys⟩ | ⟨mid, rfl, hmid⟩
    . exact .inr ⟨[], by simpa using hxs.symm, hys⟩
    . exact .inl ⟨mid, hxs, hmid⟩

end List
