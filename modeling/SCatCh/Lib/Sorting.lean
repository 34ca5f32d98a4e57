import Mathlib.Data.List.Nodup
import Mathlib.Data.List.Pairwise
import Mathlib.Data.List.Sort

/-!
This module contains lists that are determined by the keys of their elements: whoever sorts their
elements by the keys, in whatever way, gets the list back.
-/

namespace List

variable {α β : Type} [LinearOrder β] {f : α → β} {l : List α}

theorem Pairwise.eq_of_key_eq (h : l.Pairwise fun a b => f a < f b) {a b : α} (ha : a ∈ l)
    (hb : b ∈ l) (hab : f a = f b)
    : a = b := by
  by_contra hne
  have hkeys : l.Pairwise fun a b => f a ≠ f b := h.imp fun hlt => ne_of_lt hlt
  have : Std.Symm fun a b => f a ≠ f b := ⟨fun _ _ => Ne.symm⟩
  exact hkeys.forall ha hb hne hab

theorem Pairwise.pairwise_iff_forall (h : l.Pairwise fun a b => f a < f b) {R : α → α → Prop}
    : l.Pairwise R ↔ ∀ a ∈ l, ∀ b ∈ l, f a < f b → R a b := by
  constructor
  . intro hR a ha b hb hlt
    have hboth : l.Pairwise fun a b => (f a < f b → R a b) ∧ (f b < f a → R b a) :=
      (h.and hR).imp fun hab => ⟨fun _ => hab.2, fun hba => absurd hba (lt_asymm hab.1)⟩
    have : Std.Symm fun a b => (f a < f b → R a b) ∧ (f b < f a → R b a) := ⟨fun _ _ => And.symm⟩
    have hne : a ≠ b := fun hab => ne_of_lt hlt (congrArg f hab)
    exact (hboth.forall ha hb hne).1 hlt
  . intro hall
    exact h.imp_of_mem fun ha hb hlt => hall _ ha _ hb hlt

theorem Pairwise.eq_of_perm_of_sorted (h : l.Pairwise fun a b => f a < f b) {l' : List α}
    (hperm : l'.Perm l) (hsorted : l'.Pairwise fun a b => f a ≤ f b)
    : l' = l := by
  apply Perm.eq_of_pairwise _ hsorted (h.imp fun hlt => le_of_lt hlt) hperm
  intro a b ha hb hab hba
  exact h.eq_of_key_eq (hperm.mem_iff.1 ha) hb (le_antisymm hab hba)

theorem pairwise_of_forall_perm [DecidableEq α] (hnodup : l.Nodup)
    (h : ∀ l', l'.Perm l → (l'.Pairwise fun a b => f a ≤ f b) → l' = l)
    : l.Pairwise fun a b => f a < f b := by
  have hsorted : l.Pairwise fun a b => f a ≤ f b := by
    have : Std.Total fun a b => f a ≤ f b := ⟨fun a b => le_total (f a) (f b)⟩
    have : IsTrans α fun a b => f a ≤ f b := ⟨fun a b c => le_trans⟩
    have hinsertion := pairwise_insertionSort (fun a b => f a ≤ f b) l
    rwa [h _ (perm_insertionSort _ l) hinsertion] at hinsertion
  induction l with
  | nil => exact .nil
  | cons a l ih =>
    rw [nodup_cons] at hnodup
    rw [pairwise_cons] at hsorted
    refine pairwise_cons.2 ⟨?_, ih hnodup.2 ?_ hsorted.2⟩
    . intro b hb
      apply lt_of_le_of_ne (hsorted.1 b hb)
      intro hab
      have hperm : (b :: a :: l.erase b).Perm (a :: l) :=
        (Perm.swap a b _).trans ((perm_cons_erase hb).symm.cons a)
      have hswap := h (b :: a :: l.erase b) hperm ?_
      . rw [cons_eq_cons] at hswap
        exact hnodup.1 (hswap.1 ▸ hb)
      . simp only [pairwise_cons, forall_mem_cons]
        exact ⟨⟨le_of_eq hab.symm, fun c hc => hab ▸ hsorted.1 c (mem_of_mem_erase hc)⟩,
          fun c hc => hsorted.1 c (mem_of_mem_erase hc), hsorted.2.sublist erase_sublist⟩
    . intro l' hperm hsorted'
      have hcons := h (a :: l') (hperm.cons a)
        (pairwise_cons.2 ⟨fun b hb => hsorted.1 b (hperm.mem_iff.1 hb), hsorted'⟩)
      exact (cons_eq_cons.1 hcons).2

theorem Perm.eq_of_map_eq {γ : Type} {g : α → γ} {l' : List α} (hperm : l'.Perm l)
    (hnodup : (l.map g).Nodup) (h : l'.map g = l.map g)
    : l' = l := by
  apply ext_getElem hperm.length_eq
  intro k hk' hk
  apply inj_on_of_nodup_map hnodup (hperm.mem_iff.1 (getElem_mem hk')) (getElem_mem hk)
  have hlabel := congrArg (·[k]?) h
  simpa [hk, hk'] using hlabel

end List
