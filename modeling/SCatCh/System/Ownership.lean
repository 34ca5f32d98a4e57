import SCatCh.System.Leaving

/-!
This module contains the proof that whatever is stored, queued or read of a player's entry belongs to
a session that has got its waiting room and whose own write of the entry has taken effect.
-/

namespace SCatCh

namespace Session

variable {zone : TimeZone} {db view : Database} {after : Nat} {c c' : Session} {a : Input}
  {ws : List Write}

theorem Next.pairwise_enters (h : Next zone db view after c a c' ws)
    : ws.Pairwise fun w w' => ∀ code code' key, w.Enters code key → ¬w'.Enters code' key := by
  cases h with
  | start k reply =>
    -- A start only writes numbers.
    apply List.pairwise_of_forall_mem_list
    intro w hw w' _ code code' key henters
    rcases mem_startGame hw with ⟨-, ⟨_, _, rfl, -⟩ | rfl⟩
    . exact henters.elim
    . exact henters.elim
  | _ => simp

end Session

namespace Lobby

variable {ι δ : Type} {device : ι → δ} {zone : TimeZone} {s t : Lobby ι δ} {i j : ι} {d : δ}

variable (device) in
def Entered (s : Lobby ι δ) (key : String) : Prop :=
  ∃ j, (s.sessions j).key = key
    ∧ (s.sessions j).room ≠ none
    ∧ ∀ w ∈ s.outbox (device j), ∀ code, ¬w.Enters code key

variable (device) in
structure Owned (s : Lobby ι δ) : Prop where
  sound : s.Sound device
  owners : ∀ d, ∀ w ∈ s.outbox d, ∀ code key, w.Enters code key →
    ∃ i, device i = d ∧ (s.sessions i).key = key ∧ (s.sessions i).room ≠ none
  once : ∀ d, (s.outbox d).Pairwise fun w w' => ∀ code code' key, w.Enters code key → ¬w'.Enters code' key
  entries : ∀ code key, (entry s.db code key).leaves ≠ [] → s.Entered device key
  numbers : ∀ d, ∀ w ∈ s.outbox d, ∀ code key, w.isNumber code key = true → s.Entered device key
  replies : ∀ i, ∀ reply ∈ (s.sessions i).replies, ∀ code key, reply.Numbers code key →
    s.Entered device key

theorem Owned.empty : Owned device ({} : Lobby ι δ) where
  sound := .empty
  owners := by simp
  once := by simp
  entries := by simp [entry]
  numbers := by simp
  replies := by simp

section Step

variable [DecidableEq δ]

theorem Entered.process {key : String} (h : s.Entered device key) {write : Write} {writes : List Write}
    (hout : s.outbox d = write :: writes)
    : Entered device { s with
        db := write.apply s.db
        outbox := Function.update s.outbox d writes
        processed := Function.update s.processed d (s.processed d + 1) } key := by
  obtain ⟨j, hkey, hroom, hout'⟩ := h
  exact ⟨j, hkey, hroom, fun w hw => hout' w (mem_outbox_tail hout hw)⟩

theorem Owned.entered_of_enters (h : s.Owned device) {write : Write} {writes : List Write}
    (hout : s.outbox d = write :: writes) {code : Int} {key : String} (henters : write.Enters code key)
    : Entered device { s with
        db := write.apply s.db
        outbox := Function.update s.outbox d writes
        processed := Function.update s.processed d (s.processed d + 1) } key := by
  obtain ⟨j, rfl, hkey, hroom⟩ := h.owners d write (by simp [hout]) code key henters
  refine ⟨j, hkey, hroom, ?_⟩
  intro w hw code'
  dsimp only at hw
  rw [Function.update_self] at hw
  have honce := h.once (device j)
  rw [hout, List.pairwise_cons] at honce
  exact honce.1 w hw code code' key henters

variable [DecidableEq ι]

theorem Owned.entered_session (h : s.Owned device) {key : String} (hkey : s.Entered device key)
    {a : Session.Input} {c : Session} {ws : List Write} {view : Database} {after : Nat}
    {numbering : Int → Option (List String)}
    (hnext : Session.Next zone s.db view after (s.sessions i) a c ws)
    : Entered device { s with
        sessions := Function.update s.sessions i c
        outbox := Function.update s.outbox (device i) (s.outbox (device i) ++ ws)
        numbering := numbering } key := by
  obtain ⟨j, rfl, hroom, hout⟩ := hkey
  obtain ⟨-, hkey, hroom'⟩ := h.sound.session_eq hnext hroom
  refine ⟨j, hkey, hroom', ?_⟩
  intro w hw code
  rw [mem_outbox_append] at hw
  rcases hw with hw | ⟨-, hw⟩
  . exact hout w hw code
  . exact h.sound.not_enters hnext hroom hw code

variable [Fintype ι]

theorem Owned.step_session {a : Session.Input} (h : s.Owned device)
    (hstep : s.step device zone (.session i a) = some t)
    : t.Owned device := by
  have hsound := h.sound.step_session hstep
  obtain ⟨-, c, ws, hnext, rfl⟩ := Lobby.step_session hstep
  refine ⟨hsound, ?_, ?_, ?_, ?_, ?_⟩
  . exact h.sound.owners_session h.owners hnext
  . apply pairwise_outbox_append h.once hnext.pairwise_enters
    intro w hw w' hw' code code' key henters
    obtain ⟨j, -, rfl, hroom⟩ := h.owners _ w hw code key henters
    exact h.sound.not_enters hnext hroom hw' code'
  . intro code key hentry
    exact h.entered_session (h.entries code key hentry) hnext
  . intro d w hw code key hnumber
    rw [mem_outbox_append] at hw
    apply h.entered_session _ hnext
    rcases hw with hw | ⟨-, hw⟩
    . exact h.numbers d w hw code key hnumber
    . obtain ⟨k, reply, -, hreply, hnumbers⟩ := numbers_of_next hnext hw hnumber
      exact h.replies i reply (List.mem_of_getElem? hreply) code key hnumbers
  . refine forall_mem_replies hnext ?_ ?_
    . intro j reply hreply code key hnumbers
      exact h.entered_session (h.replies j reply hreply code key hnumbers) hnext
    . intro request order code key hnumbers
      exact h.entered_session (h.entries code key hnumbers.2.2) hnext

theorem Owned.step_process (h : s.Owned device) (hstep : s.step device zone (.process d) = some t)
    : t.Owned device := by
  have hsound := h.sound.step_process hstep
  obtain ⟨write, writes, hout, rfl⟩ := Lobby.step_process hstep
  have hmem : write ∈ s.outbox d := by simp [hout]
  refine ⟨hsound, ?_, ?_, ?_, ?_, ?_⟩
  . intro d' w hw
    exact h.owners d' w (mem_outbox_tail hout hw)
  . intro d'
    dsimp only
    by_cases hd : d' = d
    . subst hd
      have honce := h.once d'
      rw [hout, List.pairwise_cons] at honce
      rw [Function.update_self]
      exact honce.2
    . rw [Function.update_of_ne hd]
      exact h.once d'
  . intro code key hentry
    by_cases henters : write.Enters code key
    . exact h.entered_of_enters hout henters
    . -- The entry was there before, or it gets a number.
      refine Entered.process ?_ hout
      by_contra hnot
      apply hentry
      apply entry_apply_eq_nil henters
      . rintro n rfl
        exact hnot (h.numbers d _ hmem code key (by simp [Write.isNumber]))
      . by_contra hnil
        exact hnot (h.entries code key hnil)
  . intro d' w hw code key hnumber
    exact (h.numbers d' w (mem_outbox_tail hout hw) code key hnumber).process hout
  . intro j reply hreply code key hnumbers
    exact (h.replies j reply hreply code key hnumbers).process hout

end Step

theorem Owned.of_entry (h : s.Owned device) (htap : (s.sessions i).tap ≠ none)
    (hentry : (entry s.db (s.sessions i).code (s.sessions i).key).leaves ≠ [])
    : (s.sessions i).room ≠ none
        ∧ ∀ w ∈ s.outbox (device i), ∀ code, ¬w.Enters code (s.sessions i).key := by
  obtain ⟨j, hkey, hroom, hout⟩ := h.entries _ _ hentry
  obtain ⟨tap, htap'⟩ := h.sound.tap_of_room hroom
  obtain rfl := h.sound.eq_of_key (by simp [htap']) htap hkey
  exact ⟨hroom, hout⟩

end Lobby

end SCatCh
