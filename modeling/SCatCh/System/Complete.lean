import SCatCh.System.Board
import SCatCh.System.RoundEnd

/-!
This module contains the proof that ordinary play, in which no one forces the end of a round, is
complete. The host compares a number of sheets with the number of players. That this means that all
are done rests on an invariant of all the devices, their observers and the writes on their way.
-/

namespace SCatCh

/-! # The sheets of a device -/

namespace Core

structure Own (k : Core) : Prop where
  author : ∀ x ∈ k.saved, x.author = k.player
  le_round : ∀ x ∈ k.saved, x.number ≤ k.roundNum
  unsaved : k.isContentSaved = false → ∀ x ∈ k.saved, x.number ≠ k.roundNum
  once : ∀ x ∈ k.saved, ∀ y ∈ k.saved, x.number = y.number → x = y

variable {k : Core}

theorem Own.save (h : k.Own) (hunsaved : k.isContentSaved = false) (newId : UUID) (content : Content)
    : (k.save ⟨newId, k.player, k.roundNum, content⟩).Own := by
  refine ⟨?_, ?_, by simp [Core.save], ?_⟩
  . intro x hx
    simp only [Core.save, List.mem_cons] at hx
    rcases hx with rfl | hx
    . rfl
    . exact h.author x hx
  . intro x hx
    simp only [Core.save, List.mem_cons] at hx
    rcases hx with rfl | hx
    . exact le_refl _
    . exact h.le_round x hx
  . intro x hx y hy hnumber
    simp only [Core.save, List.mem_cons] at hx hy
    rcases hx with rfl | hx
    . rcases hy with rfl | hy
      . rfl
      . exact absurd hnumber.symm (h.unsaved hunsaved y hy)
    . rcases hy with rfl | hy
      . exact absurd hnumber (h.unsaved hunsaved x hx)
      . exact h.once x hx y hy hnumber

theorem Own.moveTo (h : k.Own) {v : Int} (hv : k.roundNum < v) : (k.moveTo v).Own := by
  have hlt : ∀ x ∈ k.saved, x.number < v := by
    intro x hx
    have := h.le_round x hx
    omega
  unfold Core.moveTo
  split
  . exact ⟨h.author, fun x hx => (hlt x hx).le, fun _ x hx => (hlt x hx).ne, h.once⟩
  . exact ⟨h.author, fun x hx => (hlt x hx).le, fun _ x hx => (hlt x hx).ne, h.once⟩

/-- The numbers on their way to a device do not decrease, from its own round to what it sees. -/
def Ascending (k : Core) (seen : Int) : Prop :=
  (k.roundNum :: (k.roundNumEvents.queue ++ [seen])).Pairwise (· ≤ ·)

theorem Ascending.le {seen : Int} (h : k.Ascending seen) : k.roundNum ≤ seen :=
  (List.pairwise_cons.1 h).1 seen (by simp)

theorem Ascending.mono {seen seen' : Int} (h : k.Ascending seen) (hle : seen ≤ seen')
    : k.Ascending seen' := by
  unfold Ascending at h ⊢
  rw [← List.cons_append, List.pairwise_append] at h ⊢
  refine ⟨h.1, List.pairwise_singleton _ _, ?_⟩
  intro x hx y hy
  rw [List.mem_singleton] at hy
  subst hy
  exact (h.2.2 x hx seen (by simp)).trans hle

theorem Ascending.raise {seen : Int} {o : Observer Int} (h : k.Ascending seen)
    (hraise : k.roundNumEvents.raise seen = some o)
    : Ascending { k with roundNumEvents := o } seen := by
  obtain ⟨-, -, rfl⟩ := Observer.raise_eq_some.1 hraise
  unfold Ascending at h ⊢
  dsimp only
  rw [← List.cons_append, List.pairwise_append]
  refine ⟨h, List.pairwise_singleton _ _, ?_⟩
  intro x hx y hy
  rw [List.mem_singleton] at hy
  subst hy
  rw [← List.cons_append, List.mem_append, List.mem_singleton] at hx
  rcases hx with hx | rfl
  . rw [← List.cons_append, List.pairwise_append] at h
    exact h.2.2 x hx y (by simp)
  . exact le_refl _

theorem Ascending.deliver {seen v : Int} {o : Observer Int} (h : k.Ascending seen)
    (hdeliver : k.roundNumEvents.deliver = some (v, o))
    : k.roundNum ≤ v ∧ v ≤ seen ∧ (v :: (o.queue ++ [seen])).Pairwise (· ≤ ·) := by
  obtain ⟨queue, hqueue, rfl⟩ := Observer.deliver_eq_some.1 hdeliver
  unfold Ascending at h
  rw [hqueue, List.cons_append, List.pairwise_cons] at h
  refine ⟨h.1 v (by simp), ?_, h.2⟩
  exact (List.pairwise_cons.1 h.2).1 seen (by simp)

end Core

/-! # The rounds of a game -/

namespace Board

def Complete (numOfPlayers : Int) (b : Board) : Prop :=
  ∀ n, 1 ≤ n → n < b.roundNum → ∀ a, 1 ≤ a → a ≤ numOfPlayers → b.Has a n

/-- The board is complete and stays so when the writes take effect, each round after the other. -/
def Good (numOfPlayers : Int) : Board → List Write → Prop
  | b, [] => b.Complete numOfPlayers
  | b, w :: ws =>
    b.Complete numOfPlayers
      ∧ (∀ code v, w = .roundNum code v → v = b.roundNum + 1)
      ∧ Good numOfPlayers (b.apply w) ws

variable {numOfPlayers : Int} {b b' : Board} {ws : List Write}

theorem Complete.mono (h : b.Complete numOfPlayers) (hle : Le b b') : b'.Complete numOfPlayers := by
  intro n hn hlt a hlow hhigh
  rw [hle.roundNum] at hlt
  exact hle.has (h n hn hlt a hlow hhigh)

theorem Good.complete (h : Good numOfPlayers b ws) : b.Complete numOfPlayers := by
  cases ws with
  | nil => exact h
  | cons w ws => exact h.1

theorem Good.complete_applyAll (h : Good numOfPlayers b ws)
    : (b.applyAll ws).Complete numOfPlayers := by
  induction ws generalizing b with
  | nil => exact h
  | cons w ws ih => exact ih h.2.2

theorem Good.mono (h : Good numOfPlayers b ws) (hle : Le b b') : Good numOfPlayers b' ws := by
  induction ws generalizing b b' with
  | nil => exact Complete.mono h hle
  | cons w ws ih =>
    refine ⟨h.1.mono hle, ?_, ih h.2.2 (hle.apply w)⟩
    intro code v hw
    rw [hle.roundNum]
    exact h.2.1 code v hw

theorem Good.concat (h : Good numOfPlayers b ws) {w : Write}
    (hw : ∀ code v, w = .roundNum code v → v = (b.applyAll ws).roundNum + 1)
    (hcomplete : ((b.applyAll ws).apply w).Complete numOfPlayers)
    : Good numOfPlayers b (ws ++ [w]) := by
  induction ws generalizing b with
  | nil => exact ⟨h, hw, hcomplete⟩
  | cons w' ws ih => exact ⟨h.1, h.2.1, ih h.2.2 hw hcomplete⟩

theorem apply_roundNum_le {w : Write}
    (hw : ∀ code v, w = .roundNum code v → v = b.roundNum + 1)
    : b.roundNum ≤ (b.apply w).roundNum := by
  cases w with
  | roundNum code v =>
    have := hw code v rfl
    simp only [Board.apply]
    omega
  | game | player | removePlayer | number | sheet => exact le_refl _

theorem Good.roundNum_le (h : Good numOfPlayers b ws) : b.roundNum ≤ (b.applyAll ws).roundNum := by
  induction ws generalizing b with
  | nil => exact le_refl _
  | cons w ws ih => exact (apply_roundNum_le h.2.1).trans (ih h.2.2)

end Board

/-! # The observers of the host -/

/--
The host is told of all the sheets of a round once, while it is in that round. After it has ended the
round, the observer has nothing more to tell.
-/
structure Counting (numOfPlayers : Int) (k : Core) (b : Board) : Prop where
  active : ∀ n, (k.sheetsEvents n).active = true → n = k.roundNum
  queue : ∀ n, (k.sheetsEvents n).queue ≠ [] → n ≤ k.roundNum
  full : ∀ n, numOfPlayers ∈ (k.sheetsEvents n).queue →
    n = k.roundNum
      ∧ n = b.roundNum
      ∧ (∀ a, 1 ≤ a → a ≤ numOfPlayers → b.Has a n)
      ∧ (k.sheetsEvents n).queue.count numOfPlayers = 1
      ∧ (k.sheetsEvents n).last = some numOfPlayers
  fired : ∀ n, (k.sheetsEvents n).active = true → n < b.roundNum →
    (k.sheetsEvents n).last = some numOfPlayers

namespace Counting

variable {numOfPlayers : Int} {k : Core} {b b' : Board}

theorem mono (h : Counting numOfPlayers k b) (hle : Board.Le b b') : Counting numOfPlayers k b' := by
  refine ⟨h.active, h.queue, ?_, ?_⟩
  . intro n hn
    obtain ⟨h₁, h₂, h₃, h₄⟩ := h.full n hn
    exact ⟨h₁, by rw [hle.roundNum, h₂], fun a hlow hhigh => hle.has (h₃ a hlow hhigh), h₄⟩
  . intro n hactive hlt
    rw [hle.roundNum] at hlt
    exact h.fired n hactive hlt

theorem congr {k' : Core} (h : Counting numOfPlayers k b) (hroundNum : k'.roundNum = k.roundNum)
    (hevents : k'.sheetsEvents = k.sheetsEvents)
    : Counting numOfPlayers k' b := by
  refine ⟨?_, ?_, ?_, ?_⟩
  . rw [hroundNum, hevents]
    exact h.active
  . rw [hroundNum, hevents]
    exact h.queue
  . rw [hroundNum, hevents]
    exact h.full
  . rw [hevents]
    exact h.fired

theorem raise (h : Counting numOfPlayers k b) (hcomplete : b.Complete numOfPlayers)
    (hle : k.roundNum ≤ b.roundNum) {n v : Int} {o : Observer Int} (hn : 1 ≤ n)
    (hraise : (k.sheetsEvents n).raise v = some o)
    (hv : v = numOfPlayers ↔ ∀ a, 1 ≤ a → a ≤ numOfPlayers → b.Has a n)
    : Counting numOfPlayers (k.setSheetsEvents n o) b := by
  obtain ⟨hactive, hlast, rfl⟩ := Observer.raise_eq_some.1 hraise
  obtain rfl := h.active n hactive
  -- Nothing is raised after the number of players.
  have hlast' : (k.sheetsEvents k.roundNum).last ≠ some numOfPlayers
      ∨ ¬∀ a, 1 ≤ a → a ≤ numOfPlayers → b.Has a k.roundNum := by
    by_contra hboth
    rw [not_or, not_not, not_not] at hboth
    apply hlast
    rw [hboth.1, hv.2 hboth.2]
  have hfresh : numOfPlayers ∉ (k.sheetsEvents k.roundNum).queue := by
    intro hmem
    obtain ⟨-, -, hall, -, hsome⟩ := h.full _ hmem
    exact hlast'.elim (fun hne => hne hsome) (fun hnot => hnot hall)
  have hpresent : b.roundNum = k.roundNum := by
    by_contra hne
    have hlt : k.roundNum < b.roundNum := by omega
    exact hlast'.elim (fun hne => hne (h.fired _ hactive hlt)) (fun hnot => hnot (hcomplete _ hn hlt))
  refine ⟨?_, ?_, ?_, ?_⟩
  . intro m hm
    by_cases hmn : m = k.roundNum
    . exact hmn
    . rw [Core.setSheetsEvents_of_ne _ hmn] at hm
      exact h.active m hm
  . intro m hm
    by_cases hmn : m = k.roundNum
    . exact hmn.le
    . rw [Core.setSheetsEvents_of_ne _ hmn] at hm
      exact h.queue m hm
  . intro m hm
    by_cases hmn : m = k.roundNum
    . subst hmn
      simp only [Core.setSheetsEvents_self, List.mem_append, List.mem_singleton] at hm ⊢
      rcases hm with hm | rfl
      . contradiction
      . refine ⟨rfl, hpresent.symm, hv.1 rfl, ?_, rfl⟩
        rw [List.count_append, List.count_eq_zero_of_not_mem hfresh]
        simp
    . rw [Core.setSheetsEvents_of_ne _ hmn] at hm ⊢
      exact h.full m hm
  . intro m hm hlt
    by_cases hmn : m = k.roundNum
    . omega
    . rw [Core.setSheetsEvents_of_ne _ hmn] at hm ⊢
      exact h.fired m hm hlt

theorem deliver_of_ne (h : Counting numOfPlayers k b) {n v : Int} {o : Observer Int}
    (hdeliver : (k.sheetsEvents n).deliver = some (v, o)) (hv : v ≠ numOfPlayers)
    : Counting numOfPlayers (k.setSheetsEvents n o) b := by
  obtain ⟨queue, hqueue, rfl⟩ := Observer.deliver_eq_some.1 hdeliver
  refine ⟨?_, ?_, ?_, ?_⟩
  . intro m hm
    by_cases hmn : m = n
    . subst hmn
      rw [Core.setSheetsEvents_self] at hm
      exact h.active m hm
    . rw [Core.setSheetsEvents_of_ne _ hmn] at hm
      exact h.active m hm
  . intro m hm
    by_cases hmn : m = n
    . subst hmn
      exact h.queue m (by simp [hqueue])
    . rw [Core.setSheetsEvents_of_ne _ hmn] at hm
      exact h.queue m hm
  . intro m hm
    by_cases hmn : m = n
    . subst hmn
      simp only [Core.setSheetsEvents_self] at hm ⊢
      obtain ⟨h₁, h₂, h₃, hcount, hlast⟩ := h.full m (by rw [hqueue]; exact List.mem_cons_of_mem _ hm)
      rw [hqueue, List.count_cons_of_ne hv] at hcount
      exact ⟨h₁, h₂, h₃, hcount, hlast⟩
    . rw [Core.setSheetsEvents_of_ne _ hmn] at hm ⊢
      exact h.full m hm
  . intro m hm hlt
    by_cases hmn : m = n
    . subst hmn
      rw [Core.setSheetsEvents_self] at hm ⊢
      exact h.fired m hm hlt
    . rw [Core.setSheetsEvents_of_ne _ hmn] at hm ⊢
      exact h.fired m hm hlt

theorem deliver_end (h : Counting numOfPlayers k b) {n : Int} {o : Observer Int}
    (hdeliver : (k.sheetsEvents n).deliver = some (numOfPlayers, o)) (code : Int)
    : Counting numOfPlayers (k.setSheetsEvents n o).endRound
        (b.apply (.roundNum code (k.roundNum + 1))) := by
  obtain ⟨queue, hqueue, rfl⟩ := Observer.deliver_eq_some.1 hdeliver
  obtain ⟨rfl, hround, -, hcount, hlast⟩ := h.full n (by simp [hqueue])
  -- The number of all the players is told once.
  have hrest : numOfPlayers ∉ queue := by
    rw [hqueue, List.count_cons_self] at hcount
    exact List.count_eq_zero.1 (by omega)
  refine ⟨?_, ?_, ?_, ?_⟩
  . intro m hm
    by_cases hmn : m = k.roundNum
    . exact hmn
    . have hm : ((k.setSheetsEvents k.roundNum _).sheetsEvents m).active = true := hm
      rw [Core.setSheetsEvents_of_ne _ hmn] at hm
      exact h.active m hm
  . intro m hm
    by_cases hmn : m = k.roundNum
    . exact hmn.le
    . have hm : ((k.setSheetsEvents k.roundNum _).sheetsEvents m).queue ≠ [] := hm
      rw [Core.setSheetsEvents_of_ne _ hmn] at hm
      exact h.queue m hm
  . intro m hm
    have hm : numOfPlayers ∈ ((k.setSheetsEvents k.roundNum _).sheetsEvents m).queue := hm
    by_cases hmn : m = k.roundNum
    . subst hmn
      rw [Core.setSheetsEvents_self] at hm
      contradiction
    . rw [Core.setSheetsEvents_of_ne _ hmn] at hm
      exact absurd (h.full m hm).1 hmn
  . intro m hm _
    by_cases hmn : m = k.roundNum
    . subst hmn
      have : ((k.setSheetsEvents k.roundNum
          { k.sheetsEvents k.roundNum with queue := queue }).sheetsEvents k.roundNum).last
          = some numOfPlayers := by
        rw [Core.setSheetsEvents_self]
        exact hlast
      exact this
    . have hm : ((k.setSheetsEvents k.roundNum _).sheetsEvents m).active = true := hm
      rw [Core.setSheetsEvents_of_ne _ hmn] at hm
      exact absurd (h.active m hm) hmn

theorem moveTo (h : Counting numOfPlayers k b) (hhost : k.isHost = true)
    (hlt : k.roundNum < b.roundNum)
    : Counting numOfPlayers (k.moveTo b.roundNum) b := by
  -- No other round than the present one has been observed.
  have hstopped : ∀ n, (k.stopObserving n).active ≠ true := by
    intro n hn
    obtain ⟨hactive, hne⟩ := Core.active_of_stopObserving hn
    exact hne hhost (h.active n hactive)
  have hfull : ∀ n, numOfPlayers ∉ (k.sheetsEvents n).queue := by
    intro n hn
    obtain ⟨h₁, h₂, -⟩ := h.full n hn
    omega
  by_cases hmem : 1 ≤ b.roundNum ∧ b.roundNum ≤ k.numOfRounds
  . rw [Core.moveTo_of_mem hmem]
    have hactive : ∀ n, (k.observing b.roundNum n).active = true → n = b.roundNum := by
      intro n hn
      exact (Core.active_of_observing hn).elim And.right fun hn => absurd hn (hstopped n)
    refine ⟨hactive, ?_, ?_, ?_⟩
    . intro n hn
      rw [Core.observing_queue] at hn
      exact (h.queue n hn).trans hlt.le
    . intro n hn
      rw [Core.observing_queue] at hn
      exact absurd hn (hfull n)
    . intro n hn hlt'
      have := hactive n hn
      omega
  . rw [Core.moveTo_of_not_mem hmem]
    refine ⟨fun n hn => absurd hn (hstopped n), ?_, ?_, fun n hn => absurd hn (hstopped n)⟩
    . intro n hn
      rw [Core.stopObserving_queue] at hn
      exact (h.queue n hn).trans hlt.le
    . intro n hn
      rw [Core.stopObserving_queue] at hn
      exact absurd hn (hfull n)

end Counting

end SCatCh
