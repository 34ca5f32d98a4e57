import Mathlib.Data.List.Dedup
import Mathlib.Data.List.Infix
import Mathlib.Data.List.Perm.Basic

/-!
This module contains a store shaped like a tree, as realtime databases and JSON documents have it. A
tree is given by its leaf values, each with the path that leads to it. An inner node exists exactly
as long as there is a leaf below it, so that removing the last leaf removes the node.
-/

/--
A tree with leaves in `ν` and edges named by `κ`. No leaf lies on the way to another one.
-/
structure PathTree (κ ν : Type) where
  leaves : List (List κ × ν)
  incomparable : leaves.Pairwise fun x y => ¬x.1 <+: y.1 ∧ ¬y.1 <+: x.1
  deriving DecidableEq

namespace PathTree

variable {κ ν : Type}

theorem ext {s t : PathTree κ ν} (h : s.leaves = t.leaves) : s = t := by
  cases s
  cases t
  simp_all

def empty : PathTree κ ν := ⟨[], .nil⟩

@[simp]
theorem leaves_empty : (empty : PathTree κ ν).leaves = [] := rfl

instance : Inhabited (PathTree κ ν) := ⟨empty⟩

def leaf (v : ν) : PathTree κ ν := ⟨[([], v)], by simp⟩

@[simp]
theorem leaves_leaf (v : ν) : (leaf v : PathTree κ ν).leaves = [([], v)] := rfl

def value? (t : PathTree κ ν) : Option ν :=
  match t.leaves with
  | ([], v) :: _ => some v
  | _ => none

@[simp]
theorem value?_leaf (v : ν) : (leaf v : PathTree κ ν).value? = some v := rfl

@[simp]
theorem value?_empty : (empty : PathTree κ ν).value? = none := rfl

theorem eq_leaf_of_nil_mem {t : PathTree κ ν} {v : ν} (h : ([], v) ∈ t.leaves) : t = leaf v := by
  apply ext
  rcases t with ⟨_ | ⟨x, xs⟩, hpair⟩
  . simp at h
  . rw [List.pairwise_cons] at hpair
    cases xs with
    | nil => simpa using Eq.symm (List.mem_singleton.1 h)
    | cons y ys =>
      have hy := hpair.1 y (by simp)
      simp only [List.mem_cons] at h
      rcases h with rfl | h
      . exact absurd List.nil_prefix hy.1
      . exact absurd List.nil_prefix (hpair.1 _ (by simpa using h)).2

theorem value?_eq_some {t : PathTree κ ν} {v : ν} : t.value? = some v ↔ t = leaf v := by
  constructor
  . intro h
    unfold value? at h
    split at h
    . next w xs hleaves =>
      apply eq_leaf_of_nil_mem
      rw [hleaves]
      simp only [Option.some.injEq] at h
      simp [h]
    . contradiction
  . rintro rfl
    rfl

theorem not_cons_prefix_cons {k k' : κ} (h : k ≠ k') (p q : List κ) : ¬(k :: p) <+: (k' :: q) := by
  rw [List.cons_prefix_cons]
  exact fun h' => h h'.1

/-! # Nodes -/

variable [DecidableEq κ]

def strip (p : List κ) (x : List κ × ν) : Option (List κ × ν) :=
  if p <+: x.1 then some (x.1.drop p.length, x.2) else none

theorem strip_eq_some {p : List κ} {x y : List κ × ν}
    : strip p x = some y ↔ x = (p ++ y.1, y.2) := by
  unfold strip
  split
  . next h =>
    obtain ⟨r, hr⟩ := h
    rcases x with ⟨q, v⟩
    rcases y with ⟨q', v'⟩
    dsimp at hr
    subst hr
    simp [Prod.ext_iff]
  . next h =>
    simp only [reduceCtorEq, false_iff]
    rintro rfl
    exact h (List.prefix_append _ _)

@[simp]
theorem strip_append (p q : List κ) (v : ν) : strip p (p ++ q, v) = some (q, v) := by
  rw [strip_eq_some]

theorem strip_eq_none {p : List κ} {x : List κ × ν} : strip p x = none ↔ ¬p <+: x.1 := by
  unfold strip
  split <;> simp_all

/-- The node at the end of a path; it is empty when nothing is stored there. -/
def get (t : PathTree κ ν) (p : List κ) : PathTree κ ν where
  leaves := t.leaves.filterMap (strip p)
  incomparable := by
    apply List.Pairwise.filterMap _ _ t.incomparable
    intro x x' h y hy y' hy'
    rw [strip_eq_some] at hy hy'
    subst hy hy'
    simpa [List.prefix_append_right_inj] using h

@[simp]
theorem mem_get {t : PathTree κ ν} {p q : List κ} {v : ν}
    : (q, v) ∈ (t.get p).leaves ↔ (p ++ q, v) ∈ t.leaves := by
  simp only [get, List.mem_filterMap, strip_eq_some]
  constructor
  . rintro ⟨x, hx, rfl⟩
    exact hx
  . intro h
    exact ⟨_, h, rfl⟩

@[simp]
theorem get_nil (t : PathTree κ ν) : t.get [] = t := by
  apply ext
  have : strip ([] : List κ) = (some : List κ × ν → _) := by
    funext x
    simp [strip]
  simp [get, this]

@[simp]
theorem get_empty (p : List κ) : (empty : PathTree κ ν).get p = empty := rfl

theorem strip_bind_strip (p q : List κ) (x : List κ × ν)
    : (strip p x).bind (strip q) = strip (p ++ q) x := by
  cases h : strip (p ++ q) x with
  | none =>
    rw [strip_eq_none] at h
    cases h' : strip p x with
    | none => rfl
    | some y =>
      rw [strip_eq_some] at h'
      subst h'
      rw [Option.bind_some, strip_eq_none]
      simpa [List.prefix_append_right_inj] using h
  | some y =>
    rw [strip_eq_some] at h
    subst h
    simp [List.append_assoc]

theorem get_get (t : PathTree κ ν) (p q : List κ) : (t.get p).get q = t.get (p ++ q) := by
  apply ext
  simp only [get, List.filterMap_filterMap]
  congr
  funext x
  apply strip_bind_strip

/-! # Part of a tree -/

/-- What is below those first keys that meet `p`. -/
def only (t : PathTree κ ν) (p : κ → Bool) : PathTree κ ν where
  leaves := t.leaves.filter fun x => x.1.head?.any p
  incomparable := t.incomparable.filter _

theorem get_only (t : PathTree κ ν) {p : κ → Bool} {k : κ} (h : p k = true) (q : List κ)
    : (t.only p).get (k :: q) = t.get (k :: q) := by
  apply ext
  simp only [get, only, List.filterMap_filter]
  congr
  funext x
  cases hx : strip (k :: q) x with
  | none => simp
  | some y =>
    rw [strip_eq_some] at hx
    subst hx
    simp [h]

/-! # Writing a node -/

def keep (p : List κ) (s : PathTree κ ν) (q : List κ) : Bool :=
  !p.isPrefixOf q && (s.leaves.isEmpty || !q.isPrefixOf p)

theorem keep_iff {p q : List κ} {s : PathTree κ ν}
    : keep p s q = true ↔ ¬p <+: q ∧ (s.leaves ≠ [] → ¬q <+: p) := by
  simp [keep, List.isPrefixOf_iff_prefix, ← Bool.not_eq_true]
  tauto

/--
Replace the node at `p` by `s`. Writing the empty tree removes the node, and writing below a leaf
turns the leaf into an inner node.
-/
def set (t : PathTree κ ν) (p : List κ) (s : PathTree κ ν) : PathTree κ ν where
  leaves := t.leaves.filter (fun x => keep p s x.1) ++ s.leaves.map (fun x => (p ++ x.1, x.2))
  incomparable := by
    rw [List.pairwise_append]
    refine ⟨t.incomparable.filter _, ?_, ?_⟩
    . rw [List.pairwise_map]
      apply s.incomparable.imp
      intro x y h
      simpa [List.prefix_append_right_inj] using h
    . intro x hx y hy
      rw [List.mem_filter, keep_iff] at hx
      rw [List.mem_map] at hy
      obtain ⟨r, hr, rfl⟩ := hy
      have hne : s.leaves ≠ [] := List.ne_nil_of_mem hr
      constructor
      . intro h
        rcases List.prefix_or_prefix_of_prefix h (List.prefix_append p r.1) with h | h
        . exact hx.2.2 hne h
        . exact hx.2.1 h
      . intro h
        exact hx.2.1 ((List.prefix_append p r.1).trans h)

theorem mem_set {t s : PathTree κ ν} {p q : List κ} {v : ν}
    : (q, v) ∈ (t.set p s).leaves
        ↔
      ((q, v) ∈ t.leaves ∧ ¬p <+: q ∧ (s.leaves ≠ [] → ¬q <+: p))
        ∨
      ∃ r, q = p ++ r ∧ (r, v) ∈ s.leaves := by
  simp only [set, List.mem_append, List.mem_filter, keep_iff, List.mem_map]
  apply or_congr Iff.rfl
  constructor
  . rintro ⟨⟨r, w⟩, hr, h⟩
    simp only [Prod.mk.injEq] at h
    obtain ⟨rfl, rfl⟩ := h
    exact ⟨r, rfl, hr⟩
  . rintro ⟨r, rfl, hr⟩
    exact ⟨(r, v), hr, rfl⟩

theorem mem_set_below {t s : PathTree κ ν} {p r : List κ} {v : ν}
    : (p ++ r, v) ∈ (t.set p s).leaves ↔ (r, v) ∈ s.leaves := by
  rw [mem_set]
  simp

theorem get_set_append (t s : PathTree κ ν) (p q : List κ)
    : (t.set p s).get (p ++ q) = s.get q := by
  apply ext
  simp only [get, set, List.filterMap_append]
  have h₁ : (t.leaves.filter fun x => keep p s x.1).filterMap (strip (p ++ q)) = [] := by
    rw [List.filterMap_eq_nil_iff]
    intro x hx
    rw [List.mem_filter, keep_iff] at hx
    rw [strip_eq_none]
    intro h
    exact hx.2.1 ((List.prefix_append p q).trans h)
  have h₂ : ∀ x : List κ × ν, strip (p ++ q) (p ++ x.1, x.2) = strip q x := by
    intro x
    rw [← strip_bind_strip]
    simp
  rw [h₁, List.filterMap_map]
  simp only [List.nil_append, Function.comp_def, h₂]

@[simp]
theorem get_set_self (t s : PathTree κ ν) (p : List κ) : (t.set p s).get p = s := by
  simpa using get_set_append t s p []

@[simp]
theorem set_nil (t s : PathTree κ ν) : t.set [] s = s := by
  simpa using get_set_self t s []

theorem get_set_above (t s : PathTree κ ν) (p q : List κ)
    : (t.set (p ++ q) s).get p = (t.get p).set q s := by
  apply ext
  simp only [get, set, List.filterMap_append, List.filterMap_filter, List.filter_filterMap,
    List.filterMap_map]
  congr 1
  . congr
    funext x
    cases h : strip p x with
    | none => simp
    | some y =>
      rw [strip_eq_some] at h
      subst h
      have : keep (p ++ q) s (p ++ y.1) = keep q s y.1 := by
        rw [Bool.eq_iff_iff, keep_iff, keep_iff]
        simp [List.prefix_append_right_inj]
      simp [this, Option.filter]
  . rw [List.filterMap_eq_map_iff_forall_eq_some]
    intro x _
    simp [List.append_assoc]

theorem get_set_of_not_prefix (t s : PathTree κ ν) {p q : List κ} (h₁ : ¬p <+: q) (h₂ : ¬q <+: p)
    : (t.set p s).get q = t.get q := by
  apply ext
  simp only [get, set, List.filterMap_append, List.filterMap_filter, List.filterMap_map]
  have hs : s.leaves.filterMap (strip q ∘ fun x => (p ++ x.1, x.2)) = [] := by
    rw [List.filterMap_eq_nil_iff]
    intro x _
    rw [Function.comp_apply, strip_eq_none]
    intro h
    rcases List.prefix_or_prefix_of_prefix h (List.prefix_append p x.1) with h | h
    . exact h₂ h
    . exact h₁ h
  rw [hs, List.append_nil]
  congr
  funext x
  split
  . rfl
  . next h =>
    symm
    rw [strip_eq_none]
    intro hq
    apply h
    rw [keep_iff]
    constructor
    . intro hp
      rcases List.prefix_or_prefix_of_prefix hp hq with h | h
      . exact h₁ h
      . exact h₂ h
    . intro _ hx
      exact h₂ (hq.trans hx)

/-! # Children -/

def keys (t : PathTree κ ν) : List κ := (t.leaves.filterMap (·.1.head?)).dedup

theorem nodup_keys (t : PathTree κ ν) : t.keys.Nodup := List.nodup_dedup _

@[simp]
theorem keys_empty : (empty : PathTree κ ν).keys = [] := rfl

theorem mem_keys {t : PathTree κ ν} {k : κ} : k ∈ t.keys ↔ ∃ q v, (k :: q, v) ∈ t.leaves := by
  simp only [keys, List.mem_dedup, List.mem_filterMap, List.head?_eq_some_iff]
  constructor
  . rintro ⟨⟨p, v⟩, hx, q, rfl⟩
    exact ⟨q, v, hx⟩
  . rintro ⟨q, v, h⟩
    exact ⟨_, h, q, rfl⟩

theorem mem_keys_iff_get {t : PathTree κ ν} {k : κ} : k ∈ t.keys ↔ (t.get [k]).leaves ≠ [] := by
  rw [mem_keys]
  constructor
  . rintro ⟨q, v, h⟩
    exact List.ne_nil_of_mem (a := (q, v)) (by simpa using h)
  . intro h
    obtain ⟨⟨q, v⟩, h⟩ := List.exists_mem_of_ne_nil _ h
    exact ⟨q, v, by simpa using h⟩

theorem get_eq_empty_of_not_mem_keys {t : PathTree κ ν} {k : κ} (h : k ∉ t.keys) (p : List κ)
    : t.get (k :: p) = empty := by
  rw [mem_keys_iff_get, not_not] at h
  have : t.get [k] = empty := ext h
  rw [← List.singleton_append, ← get_get, this, get_empty]

theorem get_set_of_ne (t s : PathTree κ ν) {k k' : κ} (h : k ≠ k') (p q : List κ)
    : (t.set (k :: p) s).get (k' :: q) = t.get (k' :: q) :=
  get_set_of_not_prefix t s (not_cons_prefix_cons h p q) (not_cons_prefix_cons h.symm q p)

theorem only_set (t s : PathTree κ ν) {p : κ → Bool} {k : κ} (h : p k = true) (q : List κ)
    : (t.set (k :: q) s).only p = (t.only p).set (k :: q) s := by
  apply ext
  simp only [only, set, List.filter_append, List.filter_filter, Bool.and_comm]
  congr 1
  rw [List.filter_eq_self]
  intro x hx
  obtain ⟨y, -, rfl⟩ := List.mem_map.1 hx
  simpa using h

theorem only_set_of_not (t s : PathTree κ ν) {p : κ → Bool} {k : κ} (h : p k = false) (q : List κ)
    : (t.set (k :: q) s).only p = t.only p := by
  apply ext
  simp only [only, set, List.filter_append, List.filter_filter]
  have hnew : (s.leaves.map fun x => (k :: q ++ x.1, x.2)).filter (fun x => x.1.head?.any p) = [] := by
    rw [List.filter_eq_nil_iff]
    intro x hx
    obtain ⟨y, -, rfl⟩ := List.mem_map.1 hx
    simpa using h
  rw [hnew, List.append_nil]
  apply List.filter_congr
  rintro ⟨r, v⟩ _
  cases r with
  | nil => simp
  | cons k' r =>
    by_cases hk : k' = k
    . subst hk
      simp [h]
    . have hkeep : keep (k :: q) s (k' :: r) = true :=
        keep_iff.2 ⟨not_cons_prefix_cons (Ne.symm hk) q r, fun _ => not_cons_prefix_cons hk r q⟩
      simp [hkeep]

theorem mem_keys_set_of_ne {t s : PathTree κ ν} {k k' : κ} (h : k ≠ k') (p : List κ)
    : k' ∈ (t.set (k :: p) s).keys ↔ k' ∈ t.keys := by
  rw [mem_keys_iff_get, mem_keys_iff_get, get_set_of_ne _ _ h]

theorem mem_keys_set_cons {t s : PathTree κ ν} {k : κ} (p : List κ) (hs : s.leaves ≠ [])
    : k ∈ (t.set (k :: p) s).keys := by
  obtain ⟨⟨r, v⟩, hr⟩ := List.exists_mem_of_ne_nil _ hs
  rw [mem_keys]
  exact ⟨p ++ r, v, mem_set_below.2 hr⟩

theorem leaves_eq_nil_of_keys_eq_nil {t : PathTree κ ν} (hk : t.keys = []) (hv : t.value? = none)
    : t.leaves = [] := by
  rw [List.eq_nil_iff_forall_not_mem]
  rintro ⟨_ | ⟨k, q⟩, v⟩ h
  . rw [eq_leaf_of_nil_mem h] at hv
    simp at hv
  . have : k ∈ t.keys := mem_keys.2 ⟨q, v, h⟩
    simp [hk] at this

theorem mem_keys_set_self {t s : PathTree κ ν} {k : κ} : k ∈ (t.set [k] s).keys ↔ s.leaves ≠ [] := by
  rw [mem_keys_iff_get, get_set_self]

end PathTree
