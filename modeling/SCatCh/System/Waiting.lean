import SCatCh.System.Hosting

/-!
This module contains the proof that the waiting room does not trap, provided that players do not
leave while a start is numbering them, and that their players are not read after they have left.
-/

namespace SCatCh

def Reply.Numbers (reply : Reply) (code : Int) (key : String) : Prop :=
  reply.request.read = .start
    ∧ reply.request.code = code
    ∧ (entry reply.snapshot code key).leaves ≠ []

instance (reply : Reply) (code : Int) (key : String) : Decidable (reply.Numbers code key) :=
  inferInstanceAs (Decidable (_ ∧ _ ∧ _))

def Reply.Spares (reply : Reply) : Write → Prop
  | .removePlayer code id => ¬reply.Numbers code id.uuidString
  | _ => True

instance (reply : Reply) (w : Write) : Decidable (reply.Spares w) :=
  match w with
  | .removePlayer code id => inferInstanceAs (Decidable (¬reply.Numbers code id.uuidString))
  | .game .. | .player .. | .number .. | .roundNum .. | .sheet .. => inferInstanceAs (Decidable True)

namespace Lobby

variable {ι δ : Type} {device : ι → δ} {zone : TimeZone} {s t : Lobby ι δ} {i : ι} {d : δ}

variable (device) in
/--
No player's removal takes effect between the read of a start that numbers the player and the writing
of the number, and no start numbers a player whose removal its own device has sent.
-/
def RemovesApart (s : Lobby ι δ) : Action ι δ → Prop
  | .process d => ∀ w ∈ (s.outbox d).head?,
      (∀ i, ∀ reply ∈ (s.sessions i).replies, reply.Spares w)
        ∧ ∀ d', ∀ w' ∈ s.outbox d', w'.Spares w
  | .session i (.handle k) => ∀ reply ∈ (s.sessions i).replies[k]?,
      ∀ w ∈ s.outbox (device i), reply.Spares w
  | _ => True

instance [Fintype ι] [Fintype δ] (s : Lobby ι δ) (a : Action ι δ)
    : Decidable (RemovesApart device s a) := by
  unfold RemovesApart
  induction a using Action.casesOn with
  | session i a => induction a using Session.Input.casesOn <;> infer_instance
  | process d => infer_instance

variable (zone) in
structure Schema (s : Lobby ι δ) : Prop where
  entries : ∀ code, WellFormed zone s.db code
  snapshots : ∀ i, ∀ reply ∈ (s.sessions i).replies, ∀ code, WellFormed zone reply.snapshot code
  dated : ∀ d, ∀ w ∈ s.outbox d, w.Dated zone
  numbers : ∀ d, ∀ w ∈ s.outbox d, ∀ code key, w.isNumber code key = true →
    (entry s.db code key).leaves ≠ []
  numbered : ∀ i, ∀ reply ∈ (s.sessions i).replies, ∀ code key, reply.Numbers code key →
    (entry s.db code key).leaves ≠ []
  apart : ∀ d, (s.outbox d).Pairwise fun w w' => w'.Spares w
  nodes : ∀ i, ∀ node ∈ (s.sessions i).players.queue, ∀ key ∈ node.keys,
    (StorageController.buildWaitingPlayer zone key (node.get [key])).isSome = true

theorem Schema.empty : Schema zone ({} : Lobby ι δ) where
  entries := fun code key hentry => by simp [entry] at hentry
  snapshots := by simp
  dated := by simp
  numbers := by simp
  numbered := by simp
  apart := by simp
  nodes := by simp

theorem Schema.view (h : s.Schema zone) (hhost : s.HostInv device) (code : Int)
    : WellFormed zone (s.view device i) code := by
  apply wellFormed_applyAll h.entries (h.dated _) (h.numbers _) (h.apart _)
  intro w hw code key hkey w' hw'
  cases hgame : w'.isGame code with
  | false => rfl
  | true =>
    have hentry := h.numbers _ w hw code key hkey
    exact absurd (gameExists_of_entry hentry) (hhost.game _ w' hw' code hgame).1

theorem numbers_of_isNumber {reply : Reply} {w : Write} {code : Int} {key : String}
    (hread : reply.request.read = .start)
    (hw : w ∈ StorageControllerWaitingRoom.startGame reply.order reply.snapshot reply.request.code)
    (hnumber : w.isNumber code key = true)
    : reply.Numbers code key := by
  rcases mem_startGame hw with ⟨-, ⟨key', n, rfl, hentry⟩ | rfl⟩
  . simp only [Write.isNumber, decide_eq_true_eq] at hnumber
    obtain ⟨rfl, rfl⟩ := hnumber
    exact ⟨hread, rfl, hentry⟩
  . simp [Write.isNumber] at hnumber

theorem not_isNumber_of_write {tap : Tap} {snapshot : Database} {w : Write}
    (h : tap.write zone snapshot = some w) (code : Int) (key : String)
    : w.isNumber code key = false ∧ w.Dated zone := by
  rcases Tap.write_cases h with ⟨-, -, topic, maxNumOfRounds, roundTime, rfl⟩ | ⟨-, -, rfl⟩
  . exact ⟨rfl, isSome_toDate_toString ..⟩
  . exact ⟨rfl, isSome_toDate_toString ..⟩

section Next

variable {db view : Database} {after : Nat} {c c' : Session} {a : Session.Input} {ws : List Write}
  {w : Write}

theorem numbers_of_next (hnext : Session.Next zone db view after c a c' ws) (hw : w ∈ ws)
    {code : Int} {key : String} (hnumber : w.isNumber code key = true)
    : ∃ k reply, a = .handle k ∧ c.replies[k]? = some reply ∧ reply.Numbers code key := by
  rcases hnext.of_mem_writes hw with ⟨tap, snapshot, -, -, hwrite, -⟩
    | ⟨k, ha, reply, hreply, hread, rfl⟩ | ⟨room, -, rfl, -⟩
  . rw [(not_isNumber_of_write hwrite code key).1] at hnumber
    contradiction
  . exact ⟨k, reply, ha, hreply, numbers_of_isNumber hread hw hnumber⟩
  . contradiction

theorem dated_of_next (hnext : Session.Next zone db view after c a c' ws) (hw : w ∈ ws)
    : w.Dated zone := by
  rcases hnext.of_mem_writes hw with ⟨tap, snapshot, -, -, hwrite, -⟩
    | ⟨k, -, reply, -, -, rfl⟩ | ⟨room, -, rfl, -⟩
  . exact (not_isNumber_of_write hwrite 0 "").2
  . rcases mem_startGame hw with ⟨-, ⟨key, n, rfl, -⟩ | rfl⟩ <;> trivial
  . trivial

theorem pairwise_spares_of_next (hnext : Session.Next zone db view after c a c' ws)
    : ws.Pairwise fun w w' => w'.Spares w := by
  rw [List.pairwise_iff_forall_sublist]
  intro w w' hsub
  have hw : w ∈ ws := hsub.subset (by simp)
  cases w with
  | removePlayer code id =>
    -- A removal is sent alone, so that `w'` cannot come after it.
    rcases hnext.of_mem_writes hw with ⟨_, _, _, _, _, hws, _⟩ | ⟨k, -, reply, -, -, rfl⟩
      | ⟨_, _, _, hws, _⟩
    . rw [hws] at hsub
      simpa using hsub.length_le
    . rcases mem_startGame hw with ⟨-, ⟨_, _, heq, -⟩ | heq⟩ <;> cases heq
    . rw [hws] at hsub
      simpa using hsub.length_le
  | _ => trivial

end Next

section Step

variable [Fintype ι] [DecidableEq ι] [DecidableEq δ]

theorem Schema.step_session {a : Session.Input} (h : s.Schema zone) (hhost : s.HostInv device)
    (hok : RemovesApart device s (.session i a))
    (hstep : s.step device zone (.session i a) = some t)
    : t.Schema zone := by
  obtain ⟨-, c, ws, hnext, rfl⟩ := Lobby.step_session hstep
  refine ⟨h.entries, ?_, ?_, ?_, ?_, ?_, ?_⟩
  . exact forall_mem_replies (P := fun reply => ∀ code, WellFormed zone reply.snapshot code) hnext
      h.snapshots fun _ _ => h.entries
  . intro d w hw
    rw [mem_outbox_append] at hw
    rcases hw with hw | ⟨-, hw⟩
    . exact h.dated d w hw
    . exact dated_of_next hnext hw
  . intro d w hw code key hnumber
    rw [mem_outbox_append] at hw
    rcases hw with hw | ⟨-, hw⟩
    . exact h.numbers d w hw code key hnumber
    . obtain ⟨k, reply, -, hreply, hnumbers⟩ := numbers_of_next hnext hw hnumber
      exact h.numbered i reply (List.mem_of_getElem? hreply) code key hnumbers
  . apply forall_mem_replies hnext h.numbered
    intro request order code key hnumbers
    exact hnumbers.2.2
  . apply pairwise_outbox_append h.apart (pairwise_spares_of_next hnext)
    intro w hw w' hw'
    cases w with
    | removePlayer code id =>
      rw [Write.Spares, ← Bool.not_eq_true]
      intro hnumber
      obtain ⟨k, reply, rfl, hreply, hnumbers⟩ := numbers_of_next hnext hw' hnumber
      exact hok reply hreply _ hw hnumbers
    | _ => trivial
  . apply (Function.forall_update_iff s.sessions fun _ c => ∀ node ∈ c.players.queue,
      ∀ key ∈ node.keys,
        (StorageController.buildWaitingPlayer zone key (node.get [key])).isSome = true).2
    refine ⟨?_, fun j _ => h.nodes j⟩
    intro node hnode key hkey
    rcases hnext.of_mem_players hnode with hnode | rfl
    . exact h.nodes i node hnode key hkey
    . rw [get_players]
      exact h.view hhost _ key (mem_keys_players.1 hkey)

theorem Schema.step_process (h : s.Schema zone) (hhost : s.HostInv device)
    (hok : RemovesApart device s (.process d)) (hstep : s.step device zone (.process d) = some t)
    : t.Schema zone := by
  obtain ⟨write, writes, hout, rfl⟩ := Lobby.step_process hstep
  have hmem : write ∈ s.outbox d := by simp [hout]
  obtain ⟨hreplies, houtbox⟩ := hok write (by simp [hout])
  refine ⟨?_, h.snapshots, ?_, ?_, ?_, ?_, h.nodes⟩
  . intro code
    exact (h.entries code).apply (h.dated d write hmem)
      (h.numbers d write hmem code)
  . intro d' w hw
    exact h.dated d' w (mem_outbox_tail hout hw)
  . intro d' w hw code key hkey
    have hold := mem_outbox_tail hout hw
    apply hhost.entry_apply hmem (h.numbers d' w hold code key hkey)
    rintro id rfl rfl
    have hspares : w.isNumber code id.uuidString = false := houtbox d' w hold
    rw [hspares] at hkey
    contradiction
  . intro i reply hreply code key hnumbers
    apply hhost.entry_apply hmem (h.numbered i reply hreply code key hnumbers)
    rintro id rfl rfl
    exact hreplies i reply hreply hnumbers
  . intro d'
    dsimp only
    by_cases hd : d' = d
    . subst hd
      rw [Function.update_self]
      have hapart := h.apart d'
      rw [hout, List.pairwise_cons] at hapart
      exact hapart.2
    . rw [Function.update_of_ne hd]
      exact h.apart d'

end Step

/-! # The player's own entry -/

variable (device) in
/-- The players are read after what the device had written before. -/
def AnswersInOrder (s : Lobby ι δ) : Action ι δ → Prop
  | .session i (.answer k _) => ∀ request ∈ (s.sessions i).requests[k]?,
      request.read = .players → request.after ≤ s.processed (device i)
  | _ => True

/-- The players are not read for someone who has left. -/
def AnswersInRoom (s : Lobby ι δ) : Action ι δ → Prop
  | .session i (.answer k _) => ∀ request ∈ (s.sessions i).requests[k]?,
      request.read = .players → (s.sessions i).left = false
  | _ => True

instance (s : Lobby ι δ) (a : Action ι δ) : Decidable (AnswersInOrder device s a) := by
  unfold AnswersInOrder
  induction a using Action.casesOn with
  | session i a => induction a using Session.Input.casesOn <;> infer_instance
  | process d => infer_instance

instance (s : Lobby ι δ) (a : Action ι δ) : Decidable (AnswersInRoom s a) := by
  unfold AnswersInRoom
  induction a using Action.casesOn with
  | session i a => induction a using Session.Input.casesOn <;> infer_instance
  | process d => infer_instance

def EntryDue (s : Lobby ι δ) (d : δ) (n : Nat) (c : Session) : Prop :=
  s.Due d n (Write.Enters c.code c.key) fun db => (entry db c.code c.key).leaves ≠ []

variable (device) in
structure Present (s : Lobby ι δ) : Prop where
  room : ∀ i, (s.sessions i).room ≠ none → (s.sessions i).left = false →
    s.EntryDue (device i) (s.sent device i) (s.sessions i)
  requests : ∀ i, ∀ request ∈ (s.sessions i).requests, request.read = .players →
    (s.sessions i).left = false → s.EntryDue (device i) request.after (s.sessions i)
  replies : ∀ i, ∀ reply ∈ (s.sessions i).replies, reply.request.read = .players →
    (entry reply.snapshot (s.sessions i).code (s.sessions i).key).leaves ≠ []

theorem Present.empty : Present device ({} : Lobby ι δ) where
  room := by simp
  requests := by simp
  replies := by simp

theorem EntryDue.congr {n : Nat} {c c' : Session} (h : s.EntryDue d n c) (hcode : c'.code = c.code)
    (hkey : c'.key = c.key)
    : s.EntryDue d n c' := by
  unfold EntryDue at *
  rw [hcode, hkey]
  exact h

theorem entry_apply_own (hhost : s.HostInv device) {c : Session} (hc : c = s.sessions i)
    (htap : c.tap ≠ none) (hleft : c.left = false) {w : Write} (hw : w ∈ s.outbox d)
    (hentry : (entry s.db c.code c.key).leaves ≠ [])
    : (entry (w.apply s.db) c.code c.key).leaves ≠ [] := by
  apply hhost.entry_apply hw hentry
  rintro id rfl hid
  obtain ⟨tap, htap⟩ := Option.ne_none_iff_exists'.1 htap
  obtain ⟨j, -, hleft', tap', htap', hid'⟩ := hhost.sound.outbox d _ hw
  subst hc
  simp only [Session.key, htap, UUID.uuidString_inj] at hid
  rw [hhost.sound.ids j i tap' tap htap' htap (hid'.trans hid), hleft] at hleft'
  contradiction

section Step

variable [Fintype ι] [DecidableEq ι] [DecidableEq δ]

omit [Fintype ι] in
theorem Present.room_of_next {a : Session.Input} {c : Session} {ws : List Write} {view : Database}
    (h : s.Present device)
    (hnext : Session.Next zone s.db view (s.sent device i) (s.sessions i) a c ws)
    (hcode : c.code = (s.sessions i).code) (hkey : c.key = (s.sessions i).key)
    (hroom : c.room ≠ none) (hleft : c.left = false) {x : Option (Int × List String)}
    : EntryDue { s with
        sessions := Function.update s.sessions i c
        outbox := Function.update s.outbox (device i) (s.outbox (device i) ++ ws)
        numbering := s.note x } (device i) (s.sent device i + ws.length) c := by
  obtain ⟨room', hroom'⟩ := Option.ne_none_iff_exists'.1 hroom
  rcases hnext.of_room hroom' with ⟨room, hold, -⟩
    | ⟨tap, snapshot, w, htap, -, hwrite, rfl, -, -⟩
  . have hdue := (h.room i (by simp [hold]) (hnext.of_not_left hleft)).congr hcode hkey
    exact (Due.send hdue).le (by omega)
  . -- The write with which the session enters its player has just been sent.
    have henters : w.Enters c.code c.key := by
      rw [hcode, hkey, Session.code, Session.key, htap]
      rcases Tap.write_cases hwrite with ⟨-, -, topic, maxNumOfRounds, roundTime, rfl⟩ | ⟨-, -, rfl⟩
      . exact ⟨rfl, rfl⟩
      . exact ⟨rfl, rfl⟩
    refine .inr ⟨w, ?_, henters⟩
    dsimp only
    rw [Function.update_self, List.take_of_length_le]
    . simp
    . simp only [sent, List.length_append]
      omega

theorem Present.step_session {a : Session.Input} (h : s.Present device) (hhost : s.HostInv device)
    (horder : AnswersInOrder device s (.session i a)) (hroom : AnswersInRoom s (.session i a))
    (hstep : s.step device zone (.session i a) = some t)
    : t.Present device := by
  obtain ⟨-, c, ws, hnext, rfl⟩ := Lobby.step_session hstep
  have hcases := hhost.sound.update_cases hnext
  refine ⟨?_, ?_, ?_⟩
  . intro j hjroom hjleft
    dsimp only at hjroom hjleft ⊢
    rcases hcases j with heq | ⟨home, tap, phase, heq⟩ | ⟨rfl, heq, hcode, hkey⟩
    . rw [heq] at hjroom hjleft ⊢
      exact Due.le (Due.send (h.room j hjroom hjleft)) (sent_le_send j)
    . simp [heq] at hjroom
    . rw [heq] at hjroom hjleft ⊢
      apply (h.room_of_next hnext hcode hkey hjroom hjleft).le
      simp [sent, Nat.add_assoc]
  . intro j request hrequest hread hjleft
    dsimp only at hrequest hjleft ⊢
    rcases hcases j with heq | ⟨home, tap, phase, heq⟩ | ⟨rfl, heq, hcode, hkey⟩
    . rw [heq] at hrequest hjleft ⊢
      exact Due.send (h.requests j request hrequest hread hjleft)
    . simp [heq] at hrequest
    . rw [heq] at hrequest hjleft ⊢
      have hstays := hnext.of_not_left hjleft
      apply Due.send
      rcases hnext.of_mem_requests hrequest with hrequest | ⟨tap, -, hread', -⟩
        | ⟨room, -, hread', -⟩ | ⟨room, v, hold, -, -, rfl, -⟩
      . exact (h.requests j request hrequest hread hstays).congr hcode hkey
      . rw [hread] at hread'
        contradiction
      . rw [hread] at hread'
        contradiction
      . exact (h.room j (by simp [hold]) hstays).congr hcode hkey
  . intro j reply hreply hread
    dsimp only at hreply ⊢
    rcases hcases j with heq | ⟨home, tap, phase, heq⟩ | ⟨rfl, heq, hcode, hkey⟩
    . rw [heq] at hreply ⊢
      exact h.replies j reply hreply hread
    . simp [heq] at hreply
    . rw [heq] at hreply ⊢
      rw [hcode, hkey]
      rcases hnext.of_mem_replies hreply with hreply | ⟨k, order, request, rfl, hrequest, rfl⟩
      . exact h.replies j reply hreply hread
      . have hdue := h.requests j request (List.mem_of_getElem? hrequest) hread
          (hroom request hrequest hread)
        exact hdue.now (horder request hrequest hread)

theorem Present.step_process (h : s.Present device) (hhost : s.HostInv device)
    (hstep : s.step device zone (.process d) = some t)
    : t.Present device := by
  obtain ⟨write, writes, hout, rfl⟩ := Lobby.step_process hstep
  have hmem : write ∈ s.outbox d := by simp [hout]
  have hdue : ∀ i n, (s.sessions i).tap ≠ none → (s.sessions i).left = false →
      s.EntryDue (device i) n (s.sessions i) →
      EntryDue { s with
        db := write.apply s.db
        outbox := Function.update s.outbox d writes
        processed := Function.update s.processed d (s.processed d + 1) } (device i) n
        (s.sessions i) := by
    intro i n htap hleft hdue
    apply Due.process hdue hout
    . exact entry_apply_own hhost rfl htap hleft hmem
    . intro _ henters
      exact entry_of_enters henters
  refine ⟨?_, ?_, h.replies⟩
  . intro i hroom hleft
    obtain ⟨room, hroom'⟩ := Option.ne_none_iff_exists'.1 hroom
    obtain ⟨tap, htap, -⟩ := (hhost.sound.sessions i).room room hroom'
    exact Due.le (hdue i _ (by simp [htap]) hleft (h.room i hroom hleft)) (sent_le_process hout i)
  . intro i request hrequest hread hleft
    apply hdue i _ _ hleft (h.requests i request hrequest hread hleft)
    intro hnone
    obtain ⟨home, hfresh⟩ := (hhost.sound.sessions i).fresh hnone
    simp [hfresh] at hrequest

end Step

/-! # Traps -/

theorem Present.of_reply (h : s.Present device) (hschema : s.Schema zone) (hsound : s.Sound device)
    {reply : Reply} (hreply : reply ∈ (s.sessions i).replies) (hread : reply.request.read = .players)
    : ∃ players,
        StorageControllerWaitingRoom.getPlayers reply.order reply.snapshot reply.request.code
            = some players
          ∧
        ∀ ps, players = some ps →
          (∃ player ∈ ps, player.id.uuidString = (s.sessions i).key)
            ∧
          ∃ room, (s.sessions i).room = some room ∧ room.gameSettings.isSome = true := by
  obtain ⟨hasks, hcredible⟩ := (hsound.sessions i).replies reply hreply
  obtain ⟨players, hplayers, hps⟩ := (hschema.snapshots i reply hreply _).getPlayers reply.order
  refine ⟨players, hplayers, fun ps heq => ?_⟩
  obtain ⟨hexists, hids⟩ := hps ps heq
  have hrange := hsound.range _ (hcredible.hosted _ hexists)
  simp only [Session.Asks, hread] at hasks
  rcases hasks with hzero | ⟨hcode, hroom⟩
  . omega
  . have hentry := h.replies i reply hreply hread
    obtain ⟨id, hkey⟩ := hcredible.keys _ _ hentry
    rw [← hcode, hkey] at hentry
    obtain ⟨player, hplayer, rfl⟩ := hids id hentry
    exact ⟨⟨player, hplayer, hkey.symm⟩, hroom⟩

theorem handlePlayers_ne_none {room : StateControllerWaitingRoom} {players : List Player}
    (hsettings : room.gameSettings.isSome = true)
    (hplayer : ∃ player ∈ players, player.id = room.player.id)
    : room.handlePlayers players ≠ none := by
  obtain ⟨gameSettings, hsettings⟩ := Option.isSome_iff_exists.1 hsettings
  obtain ⟨player, hmem, hid⟩ := hplayer
  have hne : (players.filter fun p => p.id = room.player.id) ≠ [] :=
    List.ne_nil_of_mem (List.mem_filter.2 ⟨hmem, by simp [hid]⟩)
  unfold StateControllerWaitingRoom.handlePlayers
  rw [hsettings, List.head?_eq_some_head hne]
  exact Option.some_ne_none _

theorem not_crashed_of_next (hsound : s.Sound device) (hschema : s.Schema zone)
    (hpresent : s.Present device) {a : Session.Input} {c : Session} {ws : List Write}
    {view : Database} {after : Nat}
    (hnext : Session.Next zone s.db view after (s.sessions i) a c ws)
    (halive : (s.sessions i).crashed = false)
    : c.crashed = false := by
  rw [← Bool.not_eq_true]
  intro hcrashed
  rcases hnext.of_crashed hcrashed with hcrashed | ⟨node, hnode, order, htrap⟩
    | ⟨room, hroom, reply, hreply, hread, htrap⟩
  . rw [halive] at hcrashed
    contradiction
  . have := WellFormed.isSome_observePlayers (o := order) (hschema.nodes i node hnode)
    rw [htrap] at this
    contradiction
  . obtain ⟨players, hplayers, hps⟩ := hpresent.of_reply hschema hsound hreply hread
    obtain ⟨ps, heq, hnone⟩ := htrap players hplayers
    obtain ⟨⟨player, hplayer, hkey⟩, room', hroom', hsettings⟩ := hps ps heq
    rw [hroom, Option.some.injEq] at hroom'
    subst hroom'
    obtain ⟨tap, htap, hroomPlayer, -⟩ := (hsound.sessions i).room room hroom
    simp only [Session.key, htap, UUID.uuidString_inj] at hkey
    exact handlePlayers_ne_none hsettings ⟨player, hplayer, by rw [hkey, hroomPlayer]⟩ hnone

variable (device) in
/--
Hosts of one code do not overlap, removals do not fall into the numbering of the removed players,
and the players are read in order and not for someone who has left.
-/
def Orderly (s : Lobby ι δ) (a : Action ι δ) : Prop :=
  HostAlone s a ∧ RemovesApart device s a ∧ AnswersInOrder device s a ∧ AnswersInRoom s a

instance [Fintype ι] [Fintype δ] (s : Lobby ι δ) (a : Action ι δ) : Decidable (Orderly device s a) :=
  inferInstanceAs (Decidable (_ ∧ _))

variable (device zone) in
structure WaitInv (s : Lobby ι δ) : Prop where
  host : s.HostInv device
  schema : s.Schema zone
  present : s.Present device
  alive : ∀ i, (s.sessions i).crashed = false

theorem WaitInv.empty : WaitInv device zone ({} : Lobby ι δ) where
  host := .empty
  schema := .empty
  present := .empty
  alive := fun _ => rfl

section Step

variable [Fintype ι] [DecidableEq ι] [DecidableEq δ]

theorem WaitInv.step {a : Action ι δ} (h : s.WaitInv device zone) (hok : Orderly device s a)
    (hstep : s.step device zone a = some t)
    : t.WaitInv device zone := by
  obtain ⟨halone, hapart, horder, hroom⟩ := hok
  cases a with
  | session i a =>
    refine ⟨h.host.step_session halone hstep, h.schema.step_session h.host hapart hstep,
      h.present.step_session h.host horder hroom hstep, ?_⟩
    obtain ⟨-, c, ws, hnext, rfl⟩ := Lobby.step_session hstep
    apply (Function.forall_update_iff s.sessions fun _ c => c.crashed = false).2
    exact ⟨not_crashed_of_next h.host.sound h.schema h.present hnext (h.alive i),
      fun j _ => h.alive j⟩
  | process d =>
    refine ⟨h.host.step_process hstep, h.schema.step_process h.host hapart hstep,
      h.present.step_process h.host hstep, ?_⟩
    obtain ⟨write, writes, -, rfl⟩ := Lobby.step_process hstep
    exact h.alive

/--
In orderly runs no waiting room traps: all players' nodes that observers are going to hand out can be
read, and the players that are read for the Sheet state include the own one.
-/
theorem waiting_room_never_traps (device : ι → δ) (zone : TimeZone)
    (hist : List (Lobby ι δ × Action ι δ)) (s : Lobby ι δ)
    (hrun : (system device zone).Run (Orderly device) hist s)
    : ∀ i,
        (s.sessions i).crashed = false
          ∧
        (∀ node ∈ (s.sessions i).players.queue, ∀ order,
          (StorageControllerWaitingRoom.observePlayers order zone node).isSome = true)
          ∧
        ∀ reply ∈ (s.sessions i).replies, reply.request.read = .players →
          ∃ players,
            StorageControllerWaitingRoom.getPlayers reply.order reply.snapshot reply.request.code
                = some players
              ∧ ∀ ps, players = some ps → ∃ player ∈ ps, player.id.uuidString = (s.sessions i).key := by
  have hinv : s.WaitInv device zone := by
    apply hrun.invariant
    . rintro s rfl
      exact .empty
    . intro s a t h hok hstep
      exact h.step hok hstep
  intro i
  refine ⟨hinv.alive i, ?_, ?_⟩
  . intro node hnode order
    exact WellFormed.isSome_observePlayers (hinv.schema.nodes i node hnode)
  . intro reply hreply hread
    obtain ⟨players, hplayers, hps⟩ :=
      hinv.present.of_reply hinv.schema hinv.host.sound hreply hread
    exact ⟨players, hplayers, fun ps heq => (hps ps heq).1⟩

end Step

def finishRead (i : Bool) : List (Action Bool Bool) :=
  [.session i (.answer 0 .listed), .session i (.handle 0)]

def showPlayers (i : Bool) : List (Action Bool Bool) :=
  [.session i .raisePlayers, .session i (.deliverPlayers .listed)]

def seeStart (i : Bool) : List (Action Bool Bool) :=
  [.session i .raiseRoundNum, .session i .deliverRoundNum] ++ finishRead i

def gather : List (Action Bool Bool) :=
  [tapHost false 123456] ++ finishCall false ++ finishRead false
    ++ [tapJoin true 123456] ++ finishCall true ++ finishRead true

def playTogether : List (Action Bool Bool) :=
  gather ++ showPlayers false ++ showPlayers true ++ [.session false .startGame] ++ finishRead false
    ++ [.process false, .process false, .process false] ++ seeStart false ++ seeStart true

theorem waiting_room_never_traps_together
    : ∃ s : Duo,
        (∀ i, (s.sessions i).sheet.isSome = true)
          ∧
        ∀ i,
          (s.sessions i).crashed = false
            ∧
          (∀ node ∈ (s.sessions i).players.queue, ∀ order,
            (StorageControllerWaitingRoom.observePlayers order .gmt node).isSome = true)
            ∧
          ∀ reply ∈ (s.sessions i).replies, reply.request.read = .players →
            ∃ players,
              StorageControllerWaitingRoom.getPlayers reply.order reply.snapshot reply.request.code
                  = some players
                ∧ ∀ ps, players = some ps →
                    ∃ player ∈ ps, player.id.uuidString = (s.sessions i).key := by
  obtain ⟨hist, s, hrun, hsheets⟩ := TransitionSystem.exists_run_of_exec (Orderly id)
    (S := system id .gmt) (P := fun _ (s : Duo) => ∀ i, (s.sessions i).sheet.isSome = true)
    (s := {}) rfl playTogether (by decide +kernel)
  exact ⟨s, hsheets, waiting_room_never_traps id .gmt hist s hrun⟩

/--
A player leaves after the start has read the players. The number that is then written for the player
is an entry without a date, which makes the host's waiting room trap.
-/
theorem crashed_leave_during_start
    : ¬∀ (hist : List (Duo × Action Bool Bool)) (s : Duo),
        (system id .gmt).Run (fun _ _ => True) hist s →
          ∀ i,
            (s.sessions i).crashed = false
              ∧
            (∀ node ∈ (s.sessions i).players.queue, ∀ order,
              (StorageControllerWaitingRoom.observePlayers order .gmt node).isSome = true)
              ∧
            ∀ reply ∈ (s.sessions i).replies, reply.request.read = .players →
              ∃ players,
                StorageControllerWaitingRoom.getPlayers reply.order reply.snapshot
                    reply.request.code
                    = some players
                  ∧ ∀ ps, players = some ps →
                      ∃ player ∈ ps, player.id.uuidString = (s.sessions i).key := by
  intro h
  obtain ⟨hist, s, hrun, hcrashed⟩ := TransitionSystem.exists_run_of_exec (fun _ _ => True)
    (S := system id .gmt) (P := fun _ (s : Duo) => (s.sessions false).crashed = true)
    (s := {}) rfl
    (gather ++ [.session false .startGame, .session false (.answer 0 .listed),
      .session true .leaveGame, .process true, .session false (.handle 0), .process false,
      .process false] ++ showPlayers false)
    (by decide +kernel)
  rw [(h hist s hrun false).1] at hcrashed
  contradiction

end Lobby

end SCatCh
