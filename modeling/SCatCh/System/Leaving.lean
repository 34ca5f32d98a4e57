import SCatCh.System.Waiting

/-!
This module contains the proof that leaving is final for a player who leaves when nothing that moves
the player on is under way, and whom no start is numbering when the removal takes effect.
-/

namespace SCatCh

namespace Session

/-- The waiting room knows its game, and nothing that leads to the Sheet state is under way. -/
def AtRest (c : Session) : Prop :=
  (∀ room ∈ c.room, room.gameSettings.isSome = true)
    ∧
  (∀ request ∈ c.requests, request.read ≠ .players)
    ∧
  (∀ reply ∈ c.replies, reply.request.read ≠ .players)
    ∧
  ∀ v ∈ c.roundNum.queue, v ≤ 0

instance (c : Session) : Decidable c.AtRest := inferInstanceAs (Decidable (_ ∧ _ ∧ _ ∧ _))

/-- The session has left and nothing can move it on. -/
structure Departed (c : Session) : Prop where
  room : c.room ≠ none
  sheet : c.sheet = none
  requests : ∀ request ∈ c.requests, request.read ≠ .players
  replies : ∀ reply ∈ c.replies, reply.request.read ≠ .players
  queue : ∀ v ∈ c.roundNum.queue, v ≤ 0
  stopped : c.roundNum.active = false

variable {zone : TimeZone} {db view : Database} {after : Nat} {c c' : Session} {a : Input}
  {ws : List Write}

theorem Next.room_ne_none (h : Next zone db view after c a c' ws) (hroom : c.room ≠ none)
    : c'.room ≠ none := by
  cases h with
  | handleCall => simp [enter]
  | gameSettings => simp
  | updatePlayers => simp
  | _ => exact hroom

theorem Next.stopped (h : Next zone db view after c a c' ws) (hphase : c.phase = .closed)
    (hstopped : c.roundNum.active = false) (hqueue : ∀ v ∈ c.roundNum.queue, v ≤ 0)
    : c'.roundNum.active = false ∧ ∀ v ∈ c'.roundNum.queue, v ≤ 0 := by
  cases h with
  | handleCall tap snapshot write htap hanswered =>
    rw [hphase] at hanswered
    contradiction
  | raiseRoundNum v roundNum hv hraise =>
    rw [(Observer.raise_eq_some.1 hraise).1] at hstopped
    contradiction
  | ignoreRoundNum v roundNum hdeliver =>
    obtain ⟨queue, hqueue', rfl⟩ := Observer.deliver_eq_some.1 hdeliver
    rw [hqueue'] at hqueue
    exact ⟨hstopped, fun w hw => hqueue w (List.mem_cons_of_mem _ hw)⟩
  | getPlayers room v roundNum hroom hdeliver hv =>
    obtain ⟨queue, hqueue', rfl⟩ := Observer.deliver_eq_some.1 hdeliver
    have := hqueue v (by simp [hqueue'])
    omega
  | leaveGame room =>
    refine ⟨?_, by simpa using hqueue⟩
    unfold stopObserving
    dsimp only
    split
    . rfl
    . exact hstopped
  | _ => exact ⟨hstopped, hqueue⟩

theorem Departed.next (h : Departed c) (hphase : c.phase = .closed)
    (hnext : Next zone db view after c a c' ws)
    : Departed c' := by
  obtain ⟨hstopped, hqueue⟩ := hnext.stopped hphase h.stopped h.queue
  refine ⟨hnext.room_ne_none h.room, ?_, ?_, ?_, hqueue, hstopped⟩
  . cases hsheet : c'.sheet with
    | none => rfl
    | some controller =>
      rcases hnext.of_sheet hsheet with hsheet | ⟨room, -, reply, hreply, hread, -⟩
      . rw [h.sheet] at hsheet
        contradiction
      . exact absurd hread (h.replies reply hreply)
  . intro request hrequest
    rcases hnext.of_mem_requests hrequest with hrequest | ⟨_, _, hread, _⟩ | ⟨_, _, hread, _⟩
      | ⟨room, v, -, hv, hpos, -⟩
    . exact h.requests request hrequest
    . simp [hread]
    . simp [hread]
    . have := h.queue v hv
      omega
  . intro reply hreply
    rcases hnext.of_mem_replies hreply with hreply | ⟨k, order, request, -, hrequest, rfl⟩
    . exact h.replies reply hreply
    . exact h.requests request (List.mem_of_getElem? hrequest)

theorem Next.of_left (h : Next zone db view after c a c' ws) (hleft : c'.left = true)
    : c.left = true
        ∨
      (a = .leaveGame ∧ c.Waits ∧ ∃ room, c.room = some room
        ∧ c' = { c.stopObserving room.getGameCode with left := true }
        ∧ ws = [.removePlayer room.getGameCode room.player.id]) := by
  cases h with
  | leaveGame room hroom hwaits => exact .inr ⟨rfl, hwaits, room, hroom, rfl, rfl⟩
  | _ => exact .inl hleft

theorem AtRest.departed (h : c.AtRest) (hwaits : c.Waits) {room : StateControllerWaitingRoom}
    (hroom : c.room = some room) (hcode : room.getGameCode = c.code)
    : Departed { c.stopObserving room.getGameCode with left := true } := by
  obtain ⟨-, hrequests, hreplies, hqueue⟩ := h
  refine ⟨?_, ?_, hrequests, hreplies, ?_, ?_⟩
  . simp [stopObserving, hroom]
  . simpa [stopObserving] using hwaits.2
  . simpa using hqueue
  . simp [stopObserving, hcode]

theorem Next.of_removes (h : Next zone db view after c a c' ws) {code : Int} {id : UUID}
    (hw : .removePlayer code id ∈ ws)
    : c.left = false ∧ ∃ room, c.room = some room ∧ id = room.player.id := by
  cases h with
  | handleCall tap snapshot write htap hphase hwrite =>
    rw [List.mem_singleton] at hw
    rcases Tap.write_cases hwrite with ⟨-, -, _, _, _, rfl⟩ | ⟨-, -, rfl⟩ <;> contradiction
  | start k reply =>
    rcases mem_startGame hw with ⟨-, ⟨_, _, heq, -⟩ | heq⟩ <;> contradiction
  | leaveGame room hroom hwaits =>
    rw [List.mem_singleton, Write.removePlayer.injEq] at hw
    exact ⟨hwaits.1, room, hroom, hw.2⟩
  | _ => simp at hw

theorem Next.of_enters (h : Next zone db view after c a c' ws) {w : Write} (hw : w ∈ ws) {code : Int}
    {key : String} (henters : w.Enters code key)
    : (∃ snapshot, c.phase = .answered snapshot) ∧ c.tap ≠ none ∧ key = c.key ∧ c'.room ≠ none := by
  rcases h.of_mem_writes hw with ⟨tap, snapshot, htap, hphase, hwrite, -, rfl⟩
    | ⟨k, -, reply, -, -, rfl⟩ | ⟨room, -, rfl, -⟩
  . have hkey : key = tap.player.id.uuidString := by
      rcases Tap.write_cases hwrite with ⟨-, -, _, _, _, rfl⟩ | ⟨-, -, rfl⟩
      . exact henters.2.symm
      . exact henters.2.symm
    refine ⟨⟨snapshot, hphase⟩, by simp [htap], ?_, by simp [enter]⟩
    rw [hkey, Session.key, htap]
  . rcases mem_startGame hw with ⟨-, ⟨_, _, rfl, -⟩ | rfl⟩
    . exact henters.elim
    . exact henters.elim
  . exact henters.elim

theorem Sound.getGameCode_eq (h : Sound db c) {room : StateControllerWaitingRoom}
    (hroom : c.room = some room) (hsome : room.gameSettings.isSome = true)
    : room.getGameCode = c.code := by
  obtain ⟨gameSettings, hsettings⟩ := Option.isSome_iff_exists.1 hsome
  unfold StateControllerWaitingRoom.getGameCode
  rw [hsettings]
  exact (h.code room hroom gameSettings hsettings).1

end Session

namespace Lobby

variable {ι δ : Type} {device : ι → δ} {zone : TimeZone} {s t : Lobby ι δ} {i j : ι} {d : δ}

/--
Players leave at rest, and no removal takes effect between the read of a start that numbers the player
and the writing of the number.
-/
def LeavesQuietly (s : Lobby ι δ) : Action ι δ → Prop
  | .session i .leaveGame => (s.sessions i).AtRest
  | .process d => ∀ w ∈ (s.outbox d).head?,
      (∀ i, ∀ reply ∈ (s.sessions i).replies, reply.Spares w)
        ∧ ∀ d', ∀ w' ∈ s.outbox d', w'.Spares w
  | .session _ (.hostGame ..) | .session _ (.joinGame ..) | .session _ .answerCall
  | .session _ .failCall | .session _ .handleCall | .session _ (.answer ..)
  | .session _ (.fail ..) | .session _ (.handle ..) | .session _ .raisePlayers
  | .session _ (.deliverPlayers ..) | .session _ .raiseRoundNum | .session _ .deliverRoundNum
  | .session _ .startGame
    => True

instance [Fintype ι] [Fintype δ] (s : Lobby ι δ) (a : Action ι δ) : Decidable (LeavesQuietly s a) := by
  unfold LeavesQuietly
  induction a using Action.casesOn with
  | session i a => induction a using Session.Input.casesOn <;> infer_instance
  | process d => infer_instance

structure Quiet (s : Lobby ι δ) (code : Int) (key : String) : Prop where
  gone : (entry s.db code key).leaves = []
  enters : ∀ d, ∀ w ∈ s.outbox d, ¬w.Enters code key
  numbers : ∀ d, ∀ w ∈ s.outbox d, w.isNumber code key = false
  replies : ∀ i, ∀ reply ∈ (s.sessions i).replies, ¬reply.Numbers code key

variable (device) in
def Removing (s : Lobby ι δ) (i : ι) : Prop :=
  ∃ id : UUID, id.uuidString = (s.sessions i).key
    ∧ .removePlayer (s.sessions i).code id ∈ s.outbox (device i)

variable (device) in
def RemovalDue (s : Lobby ι δ) (i : ι) : Prop :=
  ∃ (id : UUID) (before after : List Write), id.uuidString = (s.sessions i).key
    ∧ s.outbox (device i) = before ++ .removePlayer (s.sessions i).code id :: after
    ∧ ∀ w ∈ after, ¬w.Enters (s.sessions i).code (s.sessions i).key

theorem RemovalDue.removing (h : s.RemovalDue device i) : s.Removing device i := by
  obtain ⟨id, before, after, hid, hout, -⟩ := h
  exact ⟨id, hid, by simp [hout]⟩

variable (device) in
structure LeaveInv (s : Lobby ι δ) : Prop where
  sound : s.Sound device
  owners : ∀ d, ∀ w ∈ s.outbox d, ∀ code key, w.Enters code key →
    ∃ i, device i = d ∧ (s.sessions i).key = key ∧ (s.sessions i).room ≠ none
  departed : ∀ i, (s.sessions i).left = true → (s.sessions i).Departed
  removal : ∀ i, (s.sessions i).left = true →
    s.RemovalDue device i ∨ s.Quiet (s.sessions i).code (s.sessions i).key

theorem LeaveInv.empty : LeaveInv device ({} : Lobby ι δ) where
  sound := .empty
  owners := by simp
  departed := by simp
  removal := by simp

theorem Sound.not_enters (h : s.Sound device) {a : Session.Input} {c : Session} {ws : List Write}
    {view : Database} {after : Nat} (hnext : Session.Next zone s.db view after (s.sessions i) a c ws)
    (hroom : (s.sessions j).room ≠ none) {w : Write} (hw : w ∈ ws) (code : Int)
    : ¬w.Enters code (s.sessions j).key := by
  intro henters
  obtain ⟨⟨snapshot, hphase⟩, htap, hkey, -⟩ := hnext.of_enters hw henters
  obtain ⟨tap, htap'⟩ := h.tap_of_room hroom
  obtain rfl := h.eq_of_key (by simp [htap']) htap hkey
  rw [(h.sessions j).closed hroom] at hphase
  contradiction

theorem Sound.session_eq [DecidableEq ι] (h : s.Sound device) {a : Session.Input} {c : Session} {ws : List Write}
    {view : Database} {after : Nat} (hnext : Session.Next zone s.db view after (s.sessions i) a c ws)
    (hroom : (s.sessions j).room ≠ none)
    : (Function.update s.sessions i c j).code = (s.sessions j).code
        ∧ (Function.update s.sessions i c j).key = (s.sessions j).key
        ∧ (Function.update s.sessions i c j).room ≠ none := by
  by_cases hj : j = i
  . subst hj
    obtain ⟨tap, htap⟩ := h.tap_of_room hroom
    rw [Function.update_self]
    exact ⟨hnext.code_eq htap, hnext.key_eq htap, hnext.room_ne_none hroom⟩
  . rw [Function.update_of_ne hj]
    exact ⟨rfl, rfl, hroom⟩

theorem Sound.owners_session [DecidableEq ι] [DecidableEq δ] (h : s.Sound device)
    (howners : ∀ d, ∀ w ∈ s.outbox d, ∀ code key, w.Enters code key →
      ∃ i, device i = d ∧ (s.sessions i).key = key ∧ (s.sessions i).room ≠ none)
    {a : Session.Input} {c : Session} {ws : List Write} {view : Database} {after : Nat}
    (hnext : Session.Next zone s.db view after (s.sessions i) a c ws)
    : ∀ d, ∀ w ∈ Function.update s.outbox (device i) (s.outbox (device i) ++ ws) d, ∀ code key,
        w.Enters code key →
          ∃ j, device j = d ∧ (Function.update s.sessions i c j).key = key
            ∧ (Function.update s.sessions i c j).room ≠ none := by
  intro d w hw code key henters
  rw [mem_outbox_append] at hw
  rcases hw with hw | ⟨rfl, hw⟩
  . obtain ⟨j, hd, rfl, hroom⟩ := howners d w hw code key henters
    obtain ⟨-, hkey, hroom⟩ := h.session_eq hnext hroom
    exact ⟨j, hd, hkey, hroom⟩
  . obtain ⟨-, htap, rfl, hroom⟩ := hnext.of_enters hw henters
    obtain ⟨tap, htap⟩ := Option.ne_none_iff_exists'.1 htap
    refine ⟨i, rfl, ?_⟩
    rw [Function.update_self]
    exact ⟨hnext.key_eq htap, hroom⟩

theorem LeaveInv.owner_eq (h : s.LeaveInv device) (hroom : (s.sessions i).room ≠ none) {w : Write}
    (hw : w ∈ s.outbox d) {code : Int} (henters : w.Enters code (s.sessions i).key)
    : d = device i := by
  obtain ⟨j, rfl, hkey, hroom'⟩ := h.owners d w hw _ _ henters
  obtain ⟨tap, htap⟩ := h.sound.tap_of_room hroom
  obtain ⟨tap', htap'⟩ := h.sound.tap_of_room hroom'
  rw [h.sound.eq_of_key (by simp [htap']) (by simp [htap]) hkey]

section Step

variable [DecidableEq δ]

theorem Quiet.process {code : Int} {key : String} (h : s.Quiet code key) {write : Write}
    {writes : List Write} (hout : s.outbox d = write :: writes)
    : Quiet { s with
        db := write.apply s.db
        outbox := Function.update s.outbox d writes
        processed := Function.update s.processed d (s.processed d + 1) } code key := by
  have hmem : write ∈ s.outbox d := by simp [hout]
  refine ⟨?_, ?_, ?_, h.replies⟩
  . apply entry_apply_eq_nil (h.enters d write hmem) _ h.gone
    rintro n rfl
    have := h.numbers d _ hmem
    simp [Write.isNumber] at this
  . intro d' w hw
    exact h.enters d' w (mem_outbox_tail hout hw)
  . intro d' w hw
    exact h.numbers d' w (mem_outbox_tail hout hw)

theorem LeaveInv.quiet_of_removal (h : s.LeaveInv device) (hroom : (s.sessions i).room ≠ none)
    {id : UUID} {writes : List Write} (hid : id.uuidString = (s.sessions i).key)
    (hout : s.outbox (device i) = .removePlayer (s.sessions i).code id :: writes)
    (henters : ∀ w ∈ writes, ¬w.Enters (s.sessions i).code (s.sessions i).key)
    (hok : LeavesQuietly s (.process (device i)))
    : Quiet { s with
        db := (Write.removePlayer (s.sessions i).code id).apply s.db
        outbox := Function.update s.outbox (device i) writes
        processed := Function.update s.processed (device i) (s.processed (device i) + 1) }
        (s.sessions i).code (s.sessions i).key := by
  obtain ⟨hreplies, houtbox⟩ := hok (.removePlayer (s.sessions i).code id) (by simp [hout])
  rw [← hid] at henters ⊢
  refine ⟨?_, ?_, ?_, ?_⟩
  . dsimp only
    rw [entry_removePlayer, Function.update_self]
    rfl
  . intro d' w hw hw'
    have hd : d' = device i := by
      rw [hid] at hw'
      exact h.owner_eq hroom (mem_outbox_tail hout hw) hw'
    subst hd
    dsimp only at hw
    rw [Function.update_self] at hw
    exact henters w hw hw'
  . intro d' w hw
    exact houtbox d' w (mem_outbox_tail hout hw)
  . intro j reply hreply
    exact hreplies j reply hreply

theorem Quiet.session [DecidableEq ι] {code : Int} {key : String} (h : s.Quiet code key)
    {a : Session.Input} {c : Session} {ws : List Write} {view : Database} {after : Nat}
    {numbering : Int → Option (List String)}
    (hnext : Session.Next zone s.db view after (s.sessions i) a c ws)
    (henters : ∀ w ∈ ws, ¬w.Enters code key)
    : Quiet { s with
        sessions := Function.update s.sessions i c
        outbox := Function.update s.outbox (device i) (s.outbox (device i) ++ ws)
        numbering := numbering } code key := by
  refine ⟨h.gone, ?_, ?_, ?_⟩
  . intro d w hw
    rw [mem_outbox_append] at hw
    rcases hw with hw | ⟨-, hw⟩
    . exact h.enters d w hw
    . exact henters w hw
  . intro d w hw
    rw [mem_outbox_append] at hw
    rcases hw with hw | ⟨-, hw⟩
    . exact h.numbers d w hw
    . rw [← Bool.not_eq_true]
      intro hnumber
      obtain ⟨k, reply, -, hreply, hnumbers⟩ := numbers_of_next hnext hw hnumber
      exact h.replies i reply (List.mem_of_getElem? hreply) hnumbers
  . -- What is read now does not have the entry.
    refine forall_mem_replies hnext h.replies ?_
    intro request order hnumbers
    exact hnumbers.2.2 h.gone

theorem RemovalDue.session [DecidableEq ι] {a : Session.Input} {c : Session} {ws : List Write} {view : Database}
    {after : Nat} {numbering : Int → Option (List String)} (h : s.RemovalDue device j)
    (hsound : s.Sound device) (hroom : (s.sessions j).room ≠ none)
    (hnext : Session.Next zone s.db view after (s.sessions i) a c ws)
    : RemovalDue device { s with
        sessions := Function.update s.sessions i c
        outbox := Function.update s.outbox (device i) (s.outbox (device i) ++ ws)
        numbering := numbering } j := by
  obtain ⟨id, before, after, hid, hout, hafter⟩ := h
  obtain ⟨hcode, hkey, -⟩ := hsound.session_eq hnext hroom
  unfold RemovalDue
  dsimp only
  rw [hcode, hkey]
  by_cases hd : device j = device i
  . refine ⟨id, before, after ++ ws, hid, ?_, ?_⟩
    . rw [hd, Function.update_self, ← hd, hout, List.append_assoc, List.cons_append]
    . intro w hw
      rcases List.mem_append.1 hw with hw | hw
      . exact hafter w hw
      . exact hsound.not_enters hnext hroom hw _
  . refine ⟨id, before, after, hid, ?_, hafter⟩
    rwa [Function.update_of_ne hd]

variable [Fintype ι] [DecidableEq ι]

theorem LeaveInv.step_session {a : Session.Input} (h : s.LeaveInv device)
    (hok : LeavesQuietly s (.session i a)) (hstep : s.step device zone (.session i a) = some t)
    : t.LeaveInv device := by
  have hsound := h.sound.step_session hstep
  obtain ⟨-, c, ws, hnext, rfl⟩ := Lobby.step_session hstep
  refine ⟨hsound, h.sound.owners_session h.owners hnext, ?_, ?_⟩
  . intro j hleft
    dsimp only at hleft ⊢
    by_cases hj : j = i
    . subst hj
      rw [Function.update_self] at hleft ⊢
      rcases hnext.of_left hleft with hleft | ⟨rfl, hwaits, room, hroom, rfl, -⟩
      . have hdeparted := h.departed j hleft
        exact hdeparted.next ((h.sound.sessions j).closed hdeparted.room) hnext
      . exact Session.AtRest.departed hok hwaits hroom
          ((h.sound.sessions j).getGameCode_eq hroom (hok.1 room hroom))
    . rw [Function.update_of_ne hj] at hleft ⊢
      exact h.departed j hleft
  . intro j hleft
    by_cases hbefore : (s.sessions j).left = true
    . -- The entry of someone who has left is not written anew.
      have hroom := (h.departed j hbefore).room
      rcases h.removal j hbefore with hdue | hquiet
      . exact .inl (hdue.session h.sound hroom hnext)
      . obtain ⟨hcode, hkey, -⟩ := h.sound.session_eq hnext hroom
        right
        dsimp only
        rw [hcode, hkey]
        exact hquiet.session hnext fun w hw => h.sound.not_enters hnext hroom hw _
    . -- The player leaves now.
      have hj : j = i := by
        by_contra hj
        dsimp only at hleft
        rw [Function.update_of_ne hj] at hleft
        exact hbefore hleft
      subst hj
      dsimp only at hleft
      rw [Function.update_self] at hleft
      rcases hnext.of_left hleft with hleft | ⟨rfl, -, room, hroom, -, rfl⟩
      . contradiction
      . obtain ⟨tap, htap, hplayer, -⟩ := (h.sound.sessions j).room room hroom
        obtain ⟨hcode, hkey, -⟩ := h.sound.session_eq hnext (j := j) (by simp [hroom])
        left
        unfold RemovalDue
        dsimp only
        rw [hcode, hkey]
        refine ⟨room.player.id, s.outbox (device j), [], ?_, ?_, by simp⟩
        . rw [hplayer, Session.key, htap]
        . rw [Function.update_self, (h.sound.sessions j).getGameCode_eq hroom (hok.1 room hroom)]

theorem LeaveInv.step_process (h : s.LeaveInv device) (hok : LeavesQuietly s (.process d))
    (hstep : s.step device zone (.process d) = some t)
    : t.LeaveInv device := by
  have hsound := h.sound.step_process hstep
  obtain ⟨write, writes, hout, rfl⟩ := Lobby.step_process hstep
  refine ⟨hsound, ?_, h.departed, ?_⟩
  . intro d' w hw
    exact h.owners d' w (mem_outbox_tail hout hw)
  . intro j hleft
    rcases h.removal j hleft with ⟨id, before, after, hid, hbefore, hafter⟩ | hquiet
    . by_cases hd : device j = d
      . subst hd
        rw [hbefore] at hout
        cases before with
        | nil =>
          rw [List.nil_append, List.cons.injEq] at hout
          obtain ⟨rfl, rfl⟩ := hout
          exact .inr (h.quiet_of_removal (h.departed j hleft).room hid hbefore hafter hok)
        | cons w before =>
          rw [List.cons_append, List.cons.injEq] at hout
          obtain ⟨rfl, rfl⟩ := hout
          refine .inl ⟨id, before, after, hid, ?_, hafter⟩
          dsimp only
          rw [Function.update_self]
      . refine .inl ⟨id, before, after, hid, ?_, hafter⟩
        dsimp only
        rw [Function.update_of_ne hd]
        exact hbefore
    . exact .inr (hquiet.process hout)

theorem LeaveInv.step {a : Action ι δ} (h : s.LeaveInv device) (hok : LeavesQuietly s a)
    (hstep : s.step device zone a = some t)
    : t.LeaveInv device := by
  cases a with
  | session i a => exact h.step_session hok hstep
  | process d => exact h.step_process hok hstep

theorem LeaveInv.not_removing (h : s.LeaveInv device) {a : Action ι δ}
    (hstep : s.step device zone a = some t) (hleft : (s.sessions i).left = true)
    (hnot : ¬s.Removing device i)
    : (t.sessions i).left = true ∧ ¬t.Removing device i := by
  cases a with
  | process d =>
    obtain ⟨write, writes, hout, rfl⟩ := Lobby.step_process hstep
    refine ⟨hleft, ?_⟩
    rintro ⟨id, hid, hmem⟩
    exact hnot ⟨id, hid, mem_outbox_tail hout hmem⟩
  | session j a =>
    obtain ⟨-, c, ws, hnext, rfl⟩ := Lobby.step_session hstep
    obtain ⟨tap, htap⟩ := h.sound.tap_of_room (h.departed i hleft).room
    obtain ⟨hcode, hkey, -⟩ := h.sound.session_eq hnext (h.departed i hleft).room
    refine ⟨left_update hnext hleft, ?_⟩
    rintro ⟨id, hid, hmem⟩
    dsimp only at hid hmem
    rw [hcode, mem_outbox_append] at hmem
    rw [hkey] at hid
    rcases hmem with hmem | ⟨-, hmem⟩
    . exact hnot ⟨id, hid, hmem⟩
    . obtain ⟨hwaits, room, hroom, rfl⟩ := hnext.of_removes hmem
      obtain ⟨tap', htap', hplayer, -⟩ := (h.sound.sessions j).room room hroom
      rw [Session.key, htap, UUID.uuidString_inj, hplayer] at hid
      obtain rfl := h.sound.ids j i tap' tap htap' htap hid
      rw [hleft] at hwaits
      contradiction

/--
Who leaves at rest is not moved to the Sheet state. The entry is removed, and once the removal has
taken effect, there is none again.
-/
theorem leaving_is_final (device : ι → δ) (zone : TimeZone) (hist : List (Lobby ι δ × Action ι δ))
    (s : Lobby ι δ) (i : ι)
    (hrun : (system device zone).Run LeavesQuietly hist s)
    (hleft : (s.sessions i).left = true)
    : (s.Removing device i ∨ (entry s.db (s.sessions i).code (s.sessions i).key).leaves = [])
        ∧
      (∀ x ∈ hist, (x.1.sessions i).left = true → ¬x.1.Removing device i → ¬s.Removing device i)
        ∧
      (s.sessions i).sheet = none := by
  have h : s.LeaveInv device
      ∧ ∀ x ∈ hist, (x.1.sessions i).left = true → ¬x.1.Removing device i →
        (s.sessions i).left = true ∧ ¬s.Removing device i := by
    apply hrun.induct (I := fun hist s => s.LeaveInv device
      ∧ ∀ x ∈ hist, (x.1.sessions i).left = true → ¬x.1.Removing device i →
        (s.sessions i).left = true ∧ ¬s.Removing device i)
    . rintro s rfl
      exact ⟨.empty, by simp⟩
    . intro hist s a t hs hok hstep
      refine ⟨hs.1.step hok hstep, ?_⟩
      rw [List.forall_mem_cons]
      refine ⟨hs.1.not_removing hstep, ?_⟩
      intro x hx hleft hnot
      obtain ⟨hleft, hnot⟩ := hs.2 x hx hleft hnot
      exact hs.1.not_removing hstep hleft hnot
  refine ⟨?_, fun x hx hleft hnot => (h.2 x hx hleft hnot).2, (h.1.departed i hleft).sheet⟩
  rcases h.1.removal i hleft with hdue | hquiet
  . exact .inl hdue.removing
  . exact .inr hquiet.gone

end Step

theorem leaving_is_final_joined
    : ∃ (hist : List (Duo × Action Bool Bool)) (s : Duo),
        ((s.sessions true).left = true ∧ s.outbox true = [] ∧ GameExists s.db 123456)
          ∧
        (s.Removing id true
            ∨ (entry s.db (s.sessions true).code (s.sessions true).key).leaves = [])
          ∧
        (∀ x ∈ hist, (x.1.sessions true).left = true → ¬x.1.Removing id true → ¬s.Removing id true)
          ∧
        (s.sessions true).sheet = none := by
  obtain ⟨hist, s, hrun, hleft⟩ := TransitionSystem.exists_run_of_exec LeavesQuietly
    (S := system id .gmt)
    (P := fun _ (s : Duo) => (s.sessions true).left = true ∧ s.outbox true = []
      ∧ GameExists s.db 123456)
    (s := {}) rfl (gather ++ [.session true .leaveGame, .process true]) (by decide +kernel)
  exact ⟨hist, s, hleft, leaving_is_final id .gmt hist s true hrun hleft.1⟩

/-- Who leaves before the settings of the game have come is removed from a game that does not exist. -/
theorem not_leaving_is_final_without_settings
    : ¬∀ (hist : List (Duo × Action Bool Bool)) (s : Duo) (i : Bool),
        (system id .gmt).Run (fun _ _ => True) hist s →
        (s.sessions i).left = true →
          (s.Removing id i ∨ (entry s.db (s.sessions i).code (s.sessions i).key).leaves = [])
            ∧
          (∀ x ∈ hist, (x.1.sessions i).left = true → ¬x.1.Removing id i → ¬s.Removing id i)
            ∧
          (s.sessions i).sheet = none := by
  intro h
  obtain ⟨hist, s, hrun, hleft, hout, hentry⟩ := TransitionSystem.exists_run_of_exec
    (fun _ _ => True) (S := system id .gmt)
    (P := fun _ (s : Duo) => (s.sessions false).left = true ∧ s.outbox false = []
      ∧ (entry s.db (s.sessions false).code (s.sessions false).key).leaves ≠ [])
    (s := {}) rfl
    ([tapHost false 123456] ++ finishCall false ++ [.session false .leaveGame, .process false])
    (by decide +kernel)
  rcases (h hist s false hrun hleft).1 with ⟨id, -, hmem⟩ | hgone
  . rw [id_eq, hout] at hmem
    contradiction
  . exact hentry hgone

end Lobby

end SCatCh
