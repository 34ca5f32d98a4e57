import SCatCh.Storage.Part
import SCatCh.System.Waiting

/-!
This module contains the proof that games do not meet. Whatever else is hosted, joined, started and
left on the same database, what happens in one game could also have happened without all that.
-/

namespace SCatCh

variable {code code' : Int} {db db' : Database} {w : Write}

/-! # One session of the game -/

def Phase.part (code : Int) : Phase → Phase
  | .answered snapshot => .answered (gamePart code snapshot)
  | .idle => .idle
  | .waiting => .waiting
  | .closed => .closed

theorem Phase.waiting_of_part {phase : Phase} (h : Phase.waiting.part code = phase.part code)
    : phase = .waiting := by
  cases phase <;> first | rfl | contradiction

theorem Phase.answered_of_part {phase : Phase} {snapshot : Database}
    (h : (Phase.answered snapshot).part code = phase.part code)
    : ∃ snapshot', phase = .answered snapshot' ∧ gamePart code snapshot = gamePart code snapshot' := by
  cases phase with
  | answered snapshot' => exact ⟨snapshot', rfl, Phase.answered.inj h⟩
  | _ => contradiction

theorem Tap.write_eq_of_gamePart {zone : TimeZone} {tap : Tap} (hcode : tap.code = code)
    (h : gamePart code db = gamePart code db')
    : tap.write zone db = tap.write zone db' := by
  have hget := get_eq_of_gamePart h (.inl hcode)
  cases tap with
  | host code' topic maxNumOfRounds roundTime player => exact hostGame_congr hget zone topic _ _ player
  | join player code' => exact joinGame_congr hget zone player

/-- How much a device has sent before does not matter. -/
def Request.part (request : Request) : Request := { request with after := 0 }

def Reply.part (code : Int) (reply : Reply) : Reply where
  request := reply.request.part
  snapshot := gamePart code reply.snapshot
  order := reply.order

namespace Session

/-- What of a session belongs to the game, which is all but the view of the Home state. -/
def part (code : Int) (c : Session) : Session :=
  { c with
    home := {}
    phase := c.phase.part code
    requests := c.requests.map Request.part
    replies := c.replies.map (Reply.part code) }

variable {zone : TimeZone} {view view' : Database} {after after' : Nat} {c c' d : Session}
  {a : Input} {ws : List Write}

@[simp]
theorem part_tap : (c.part code).tap = c.tap := rfl

@[simp]
theorem part_crashed : (c.part code).crashed = c.crashed := rfl

theorem part_eq_part
    : c.part code = c'.part code
        ↔
      ∃ home phase requests replies,
        c' = { c with home := home, phase := phase, requests := requests, replies := replies }
          ∧ c.phase.part code = phase.part code
          ∧ c.requests.map Request.part = requests.map Request.part
          ∧ c.replies.map (Reply.part code) = replies.map (Reply.part code) := by
  constructor
  . intro h
    simp only [part, Session.mk.injEq, true_and] at h
    obtain ⟨htap, hphase, hroom, hrequests, hreplies, hplayers, hroundNum, hleft, hsheet, hcrashed⟩ := h
    refine ⟨c'.home, c'.phase, c'.requests, c'.replies, ?_, hphase, hrequests, hreplies⟩
    rw [htap, hroom, hplayers, hroundNum, hleft, hsheet, hcrashed]
  . rintro ⟨home, phase, requests, replies, rfl, hphase, hrequests, hreplies⟩
    simp only [part, hphase, hrequests, hreplies]

theorem code_eq_of_part (h : c.part code = c'.part code) : c'.code = c.code := by
  obtain ⟨home, phase, requests, replies, rfl, -⟩ := part_eq_part.1 h
  rfl

theorem part_perform (h : c.part code = c'.part code) (e : StateControllerWaitingRoom.Effect)
    : (c.perform after e).part code = (c'.perform after' e).part code := by
  have hcode := code_eq_of_part h
  cases e with
  | stopObservingPlayers code' | stopObservingRoundNum code' =>
    simp only [perform, hcode]
    split
    . obtain ⟨home, phase, requests, replies, rfl, hphase, hrequests, hreplies⟩ := part_eq_part.1 h
      simp only [part, hphase, hrequests, hreplies]
    . exact h
  | _ =>
    obtain ⟨home, phase, requests, replies, rfl, hphase, hrequests, hreplies⟩ := part_eq_part.1 h
    simp [perform, part, hphase, hrequests, hreplies, Request.part]

theorem part_update (after after' : Nat) (h : c.part code = c'.part code)
    (result : StateControllerWaitingRoom × List StateControllerWaitingRoom.Effect)
    : (c.update after result).part code = (c'.update after' result).part code := by
  have hroom : { c with room := some result.1 }.part code = { c' with room := some result.1 }.part code := by
    obtain ⟨home, phase, requests, replies, rfl, hphase, hrequests, hreplies⟩ := part_eq_part.1 h
    simp only [part, hphase, hrequests, hreplies]
  unfold update
  generalize { c with room := some result.1 } = c at *
  generalize { c' with room := some result.1 } = c' at *
  induction result.2 generalizing c c' with
  | nil => exact hroom
  | cons e effects ih =>
    apply ih
    exact part_perform hroom e

theorem part_updateHome (h : c.part code = c'.part code)
    {result result' : StateControllerHome × List StateControllerHome.Effect} (heq : result.2 = result'.2)
    : (c.updateHome after result).part code = (c'.updateHome after' result').part code := by
  have hhome : { c with home := result.1 }.part code = { c' with home := result'.1 }.part code := h
  unfold updateHome
  rw [heq]
  generalize { c with home := result.1 } = c at *
  generalize { c' with home := result'.1 } = c' at *
  induction result'.2 generalizing c c' with
  | nil => exact hhome
  | cons e effects ih =>
    apply ih
    cases e with
    | moveToStateWaitingRoom code' player isHost => exact part_update after after' hhome _
    | _ =>
      obtain ⟨home, phase, requests, replies, rfl, hphase, hrequests, hreplies⟩ := part_eq_part.1 hhome
      simp only [performHome, part, hrequests, hreplies]

/-- Nothing is read of another game. -/
def ReadsOwn (code : Int) (reply : Reply) : Prop :=
  reply.request.code = code ∨ ¬GameExists reply.snapshot reply.request.code

theorem part_handleReply (after after' : Nat) (h : c.part code = c'.part code) (room : StateControllerWaitingRoom)
    {reply reply' : Reply} (heq : reply.part code = reply'.part code) (hown : ReadsOwn code reply)
    (hown' : ReadsOwn code reply')
    : (c.handleReply after room reply).1.part code = (c'.handleReply after' room reply').1.part code
        ∧
      (c.handleReply after room reply).2 = (c'.handleReply after' room reply').2 := by
  obtain ⟨⟨read, code', n⟩, snapshot, order⟩ := reply
  obtain ⟨⟨read', code'', n'⟩, snapshot', order'⟩ := reply'
  simp only [Reply.part, Request.part, Reply.mk.injEq, Request.mk.injEq] at heq
  obtain ⟨⟨rfl, rfl, -⟩, hsnapshot, rfl⟩ := heq
  have hget : ∀ p, snapshot.get (toString code' :: p) = snapshot'.get (toString code' :: p) := by
    apply get_eq_of_gamePart hsnapshot
    rcases hown with hcode | hnot
    . exact .inl hcode
    . exact hown'.imp_right fun hnot' => ⟨hnot, hnot'⟩
  cases read with
  | gameSettings =>
    simp only [handleReply, getGameSettings_congr hget]
    split
    . exact ⟨part_update after after' h _, rfl⟩
    . exact ⟨h, rfl⟩
  | players =>
    have hcrashed : { c with crashed := true }.part code = { c' with crashed := true }.part code := by
      obtain ⟨home, phase, requests, replies, rfl, hphase, hrequests, hreplies⟩ := part_eq_part.1 h
      simp only [part, hphase, hrequests, hreplies]
    simp only [handleReply, getPlayers_congr hget]
    split
    . split
      . exact ⟨part_update after after' h _, rfl⟩
      . exact ⟨hcrashed, rfl⟩
    . exact ⟨h, rfl⟩
    . exact ⟨hcrashed, rfl⟩
  | start => exact ⟨h, startGame_congr hget order⟩

theorem exists_of_map_getElem? {α β : Type} {f : α → β} {xs ys : List α} (h : xs.map f = ys.map f)
    {k : Nat} {x : α} (hx : xs[k]? = some x)
    : ∃ y, ys[k]? = some y ∧ f x = f y := by
  have hy : (ys.map f)[k]? = some (f x) := by rw [← h, List.getElem?_map, hx, Option.map_some]
  rw [List.getElem?_map, Option.map_eq_some_iff] at hy
  obtain ⟨y, hy, heq⟩ := hy
  exact ⟨y, hy, heq.symm⟩

/-- A step in the game is the same step whatever else is in the database. -/
theorem part_step (after' : Nat) (h : c.part code = c'.part code) (hdb : gamePart code db = gamePart code db')
    (hview : gamePart code view = gamePart code view') (hcode : a.newId = none → c.code = code)
    (hown : ∀ reply ∈ c.replies, ReadsOwn code reply)
    (hown' : ∀ reply ∈ c'.replies, ReadsOwn code reply)
    (hstep : c.step zone db view after a = some (d, ws))
    : ∃ d', c'.step zone db' view' after' a = some (d', ws) ∧ d.part code = d'.part code := by
  have hsame := code_eq_of_part h
  obtain ⟨home, phase, requests, replies, rfl, hphase, hrequests, hreplies⟩ := part_eq_part.1 h
  cases a with
  | hostGame topic maxNumOfRounds roundTime nickname code' newId date =>
    simp only [step, Option.ite_none_right_eq_some, Option.some.injEq, Prod.mk.injEq] at hstep ⊢
    obtain ⟨hidle, rfl, rfl⟩ := hstep
    refine ⟨_, ⟨hidle, rfl, rfl⟩, part_updateHome h ?_⟩
    unfold StateControllerHome.hostGame
    split <;> rfl
  | joinGame nickname code' newId date =>
    simp only [step, Option.ite_none_right_eq_some, Option.some.injEq, Prod.mk.injEq] at hstep ⊢
    obtain ⟨hidle, rfl, rfl⟩ := hstep
    refine ⟨_, ⟨hidle, rfl, rfl⟩, part_updateHome h ?_⟩
    unfold StateControllerHome.joinGame
    split <;> rfl
  | answerCall =>
    simp only [step, Option.ite_none_right_eq_some, Option.some.injEq, Prod.mk.injEq] at hstep ⊢
    obtain ⟨hwaiting, rfl, rfl⟩ := hstep
    rw [hwaiting] at hphase
    refine ⟨_, ⟨Phase.waiting_of_part hphase, rfl, rfl⟩, ?_⟩
    simp only [part, Phase.part, hdb, hrequests, hreplies]
  | failCall =>
    simp only [step] at hstep ⊢
    split at hstep
    . next tap htap hwaiting =>
      cases hstep
      rw [hwaiting] at hphase
      rw [htap, Phase.waiting_of_part hphase]
      refine ⟨_, rfl, part_updateHome ?_ ?_⟩
      . simp only [part, hrequests, hreplies]
      . cases tap <;> rfl
    . contradiction
  | handleCall =>
    simp only [step] at hstep ⊢
    split at hstep
    . next tap snapshot htap hanswered =>
      cases hstep
      rw [hanswered] at hphase
      obtain ⟨snapshot', rfl, hsnapshot⟩ := Phase.answered_of_part hphase
      have htapCode : tap.code = code := by simpa [Session.code, htap] using hcode rfl
      rw [htap, Tap.write_eq_of_gamePart htapCode hsnapshot]
      refine ⟨_, rfl, part_updateHome ?_ ?_⟩
      . simp only [part, hrequests, hreplies]
      . cases tap <;> rfl
    . contradiction
  | answer k order =>
    simp only [step] at hstep ⊢
    split at hstep
    . next request hrequest =>
      obtain ⟨request', hrequest', heq⟩ := exists_of_map_getElem? hrequests hrequest
      cases hstep
      rw [hrequest']
      refine ⟨_, rfl, ?_⟩
      simp only [part, hphase, List.map_append, hreplies, List.map_cons, List.map_nil, Reply.part, heq, hdb,
        ← List.eraseIdx_map, hrequests]
    . contradiction
  | fail k =>
    have hlength : c.requests.length = requests.length := by
      simpa using congrArg List.length hrequests
    simp only [step, Option.ite_none_right_eq_some, Option.some.injEq, Prod.mk.injEq] at hstep ⊢
    obtain ⟨hk, rfl, rfl⟩ := hstep
    refine ⟨_, ⟨hlength ▸ hk, rfl, rfl⟩, ?_⟩
    simp only [part, hphase, hreplies, ← List.eraseIdx_map, hrequests]
  | handle k =>
    simp only [step] at hstep ⊢
    split at hstep
    . next room reply hroom hreply =>
      obtain ⟨reply', hreply', heq⟩ := exists_of_map_getElem? hreplies hreply
      have herased : { c with replies := c.replies.eraseIdx k }.part code = { c with
          home := home, phase := phase, requests := requests, replies := replies.eraseIdx k }.part code := by
        simp only [part, hphase, hrequests, ← List.eraseIdx_map, hreplies]
      obtain ⟨hpart, hwrites⟩ := part_handleReply after after' herased room heq
        (hown reply (List.mem_of_getElem? hreply)) (hown' reply' (List.mem_of_getElem? hreply'))
      rw [Option.some.injEq, Prod.ext_iff] at hstep
      obtain ⟨rfl, rfl⟩ := hstep
      split
      . next room₂ reply₂ hroom₂ hreply₂ =>
        obtain rfl : room = room₂ := Option.some.inj (hroom.symm.trans hroom₂)
        obtain rfl : reply' = reply₂ := Option.some.inj (hreply'.symm.trans hreply₂)
        exact ⟨_, congrArg some (Prod.ext rfl hwrites.symm), hpart⟩
      . next hnone => exact absurd hreply' (hnone room reply' hroom)
    . contradiction
  | raisePlayers =>
    have hget : view.get (playersPath c.code) = view'.get (playersPath c.code) :=
      get_eq_of_gamePart hview (.inl (hcode rfl)) [GameKeys.players.rawValue]
    simp only [step] at hstep ⊢
    rw [hsame, ← hget]
    split at hstep
    . cases hstep
      refine ⟨_, rfl, ?_⟩
      simp only [part, hphase, hrequests, hreplies]
    . contradiction
  | deliverPlayers order =>
    simp only [step] at hstep ⊢
    split at hstep
    . next room node players hroom hdeliver =>
      have hplayers : { c with players := players }.part code = { c with
          home := home, phase := phase, requests := requests, replies := replies,
          players := players }.part code := by
        simp only [part, hphase, hrequests, hreplies]
      split at hstep
      . cases hstep
        exact ⟨_, rfl, part_update after after' hplayers _⟩
      . cases hstep
        exact ⟨_, rfl, hplayers⟩
      . cases hstep
        refine ⟨_, rfl, ?_⟩
        simp only [part, hphase, hrequests, hreplies]
    . contradiction
  | raiseRoundNum =>
    simp only [step] at hstep ⊢
    rw [hsame, ← observeRoundNum_congr (get_eq_of_gamePart hview (.inl (hcode rfl)))]
    split at hstep
    . split at hstep
      . cases hstep
        refine ⟨_, rfl, ?_⟩
        simp only [part, hphase, hrequests, hreplies]
      . contradiction
    . contradiction
  | deliverRoundNum =>
    simp only [step] at hstep ⊢
    split at hstep
    . next room v roundNum hroom hdeliver =>
      cases hstep
      refine ⟨_, rfl, part_update after after' ?_ _⟩
      simp only [part, hphase, hrequests, hreplies]
    . contradiction
  | leaveGame | startGame =>
    simp only [step] at hstep ⊢
    split at hstep
    . next room hroom =>
      simp only [Option.ite_none_right_eq_some, Option.some.injEq, Prod.mk.injEq] at hstep ⊢
      obtain ⟨hwaits, rfl, rfl⟩ := hstep
      exact ⟨_, ⟨hwaits, rfl, rfl⟩, part_update after after' h _⟩
    . contradiction

/-- The game that a step is about. -/
def subject (c : Session) : Input → Int
  | .hostGame _ _ _ _ code _ _ => code
  | .joinGame _ code _ _ => code
  | _ => c.code

theorem code_of_step (hstep : c.step zone db view after a = some (d, ws))
    : d.tap = none ∨ d.code = c.subject a := by
  have hnext := next_of_step hstep
  cases a with
  | hostGame topic maxNumOfRounds roundTime nickname code newId date =>
    simp only [step, Option.ite_none_right_eq_some, Option.some.injEq, Prod.mk.injEq] at hstep
    obtain ⟨hidle, rfl, -⟩ := hstep
    unfold StateControllerHome.hostGame
    split
    . exact .inr rfl
    . exact .inl hidle.1
  | joinGame nickname code newId date =>
    simp only [step, Option.ite_none_right_eq_some, Option.some.injEq, Prod.mk.injEq] at hstep
    obtain ⟨hidle, rfl, -⟩ := hstep
    unfold StateControllerHome.joinGame
    split
    . exact .inr rfl
    . exact .inl hidle
  | _ =>
    cases htap : d.tap with
    | none => exact .inl rfl
    | some tap =>
      rcases hnext.of_tap htap with htap | ⟨-, hid, -⟩
      . exact .inr (hnext.code_eq htap)
      . simp [Input.newId] at hid

theorem tap_of_newId (hstep : c.step zone db view after a = some (d, ws))
    : a.newId = none ∨ (c.tap = none ∧ ws = []) := by
  cases a with
  | hostGame | joinGame =>
    simp only [step, Option.ite_none_right_eq_some, Option.some.injEq, Prod.mk.injEq] at hstep
    obtain ⟨hidle, -, rfl⟩ := hstep
    first | exact .inr ⟨hidle, rfl⟩ | exact .inr ⟨hidle.1, rfl⟩
  | _ => exact .inl rfl

end Session

namespace Lobby

variable {ι δ : Type} {device : ι → δ} {zone : TimeZone} {s s' t : Lobby ι δ} {i : ι} {d : δ}

/-- `s'` is what `s` would be without the other games. -/
structure Apart (code : Int) (s s' : Lobby ι δ) : Prop where
  db : gamePart code s'.db = gamePart code s.db
  outbox : ∀ d, (s'.outbox d).filter (fun w => w.code = code) = (s.outbox d).filter fun w => w.code = code
  sessions : ∀ i, (s.sessions i).code = code → (s'.sessions i).part code = (s.sessions i).part code
  others : ∀ i, (s.sessions i).code ≠ code → (s'.sessions i).tap = none

theorem Sound.asks_code (h : s.Sound device) {reply : Reply} (hreply : reply ∈ (s.sessions i).replies)
    : reply.request.code = (s.sessions i).code ∨ reply.request.code = 0 := by
  obtain ⟨hasks, -⟩ := (h.sessions i).replies reply hreply
  unfold Session.Asks at hasks
  split at hasks
  . exact .inl hasks
  all_goals
    rcases hasks with hzero | ⟨hcode, -⟩
    . exact .inr hzero
    . exact .inl hcode

/-- There is no game 0, which is what a waiting room asks for before it knows its game. -/
theorem Sound.readsOwn (h : s.Sound device)
    (hi : (s.sessions i).code = code ∨ (s.sessions i).tap = none)
    : ∀ reply ∈ (s.sessions i).replies, Session.ReadsOwn code reply := by
  intro reply hreply
  rcases hi with hcode | htap
  . rcases h.asks_code hreply with hown | hzero
    . exact .inl (hown.trans hcode)
    . right
      rw [hzero]
      intro hexists
      have hrange := h.range 0 (((h.sessions i).replies reply hreply).2.hosted 0 hexists)
      omega
  . obtain ⟨home, hfresh⟩ := (h.sessions i).fresh htap
    simp [hfresh] at hreply

theorem Sound.code_of_mem_writes (h : s.Sound device) {view : Database} {after : Nat}
    {a : Session.Input} {c : Session} {ws : List Write}
    (hnext : Session.Next zone s.db view after (s.sessions i) a c ws) (hw : w ∈ ws)
    : w.code = (s.sessions i).code ∨ w.code = 0 := by
  rcases hnext.of_mem_writes hw with ⟨tap, snapshot, htap, -, hwrite, -⟩ | ⟨k, -, reply, hreply, -, rfl⟩
    | ⟨room, hroom, rfl, -⟩
  . left
    rw [Session.code, htap]
    rcases Tap.write_cases hwrite with ⟨-, -, _, _, _, rfl⟩ | ⟨-, -, rfl⟩ <;> rfl
  . rcases mem_startGame hw with ⟨-, ⟨key, n, rfl, -⟩ | rfl⟩
    . exact h.asks_code (List.mem_of_getElem? hreply)
    . exact h.asks_code (List.mem_of_getElem? hreply)
  . rcases (h.sessions i).getGameCode hroom with hzero | ⟨hcode, -⟩
    . exact .inr hzero
    . exact .inl hcode

theorem Apart.view (h : s.Apart code s') (i : ι)
    : gamePart code (s.view device i) = gamePart code (s'.view device i) := by
  unfold Lobby.view
  rw [gamePart_applyAll, gamePart_applyAll, h.outbox, h.db]

theorem Apart.part_eq (h : s.Apart code s') (hs : s.Sound device) (hs' : s'.Sound device)
    (hi : (s.sessions i).code = code ∨ (s.sessions i).tap = none)
    : (s.sessions i).part code = (s'.sessions i).part code := by
  by_cases hcode : (s.sessions i).code = code
  . exact (h.sessions i hcode).symm
  . obtain ⟨home, hhome⟩ := (hs.sessions i).fresh (hi.resolve_left hcode)
    obtain ⟨home', hhome'⟩ := (hs'.sessions i).fresh (h.others i hcode)
    rw [hhome, hhome']
    rfl

section Steps

variable [Fintype ι] [DecidableEq ι] [DecidableEq δ]

omit [Fintype ι] [DecidableEq ι] in
/-- A write to another game. -/
theorem Apart.process_other (h : s.Apart code s') {w : Write} {ws : List Write}
    (hout : s'.outbox d = w :: ws) (hcode : w.code ≠ code)
    : s.Apart code { s' with
        db := w.apply s'.db
        outbox := Function.update s'.outbox d ws
        processed := Function.update s'.processed d (s'.processed d + 1) } := by
  refine ⟨?_, ?_, h.sessions, h.others⟩
  . rw [← h.db]
    exact gamePart_apply_of_ne hcode s'.db
  . intro d'
    rw [← h.outbox d']
    by_cases hd : d' = d
    . subst hd
      simp [hout, hcode]
    . simp [hd]

theorem process_of_outbox {w : Write} {ws : List Write} (hout : s.outbox d = w :: ws)
    : (system device zone).step s (.process d) = some { s with
        db := w.apply s.db
        outbox := Function.update s.outbox d ws
        processed := Function.update s.processed d (s.processed d + 1) } := by
  simp only [system, Lobby.step, hout]

def input? : Lobby ι δ × Action ι δ → Option (ι × Session.Input)
  | (_, .session i a) => some (i, a)
  | (_, .process _) => none

/-- The writes to other games that are in the way take effect first. -/
theorem Apart.flush {hist' : List (Lobby ι δ × Action ι δ)} {w : Write} {ws : List Write}
    (h : s.Apart code s') (hrun' : (system device zone).Run (fun _ _ => True) hist' s')
    (hfilter : (s'.outbox d).filter (fun w => w.code = code) = w :: ws)
    : ∃ later t' rest,
        (system device zone).Run (fun _ _ => True) (later ++ hist') t'
          ∧ s.Apart code t'
          ∧ later.filterMap input? = []
          ∧ t'.outbox d = w :: rest
          ∧ rest.filter (fun w => w.code = code) = ws := by
  generalize hout : s'.outbox d = outbox at hfilter
  induction outbox generalizing s' hist' with
  | nil => simp at hfilter
  | cons w' outbox ih =>
    by_cases hcode : w'.code = code
    . rw [List.filter_cons_of_pos (by simpa using hcode), List.cons.injEq] at hfilter
      obtain ⟨rfl, hrest⟩ := hfilter
      exact ⟨[], s', outbox, hrun', h, rfl, hout, hrest⟩
    . rw [List.filter_cons_of_neg (by simpa using hcode)] at hfilter
      obtain ⟨later, t', rest, hlater, h', hinputs, hout', hrest⟩ := ih (h.process_other hout hcode)
        (hrun'.step trivial (process_of_outbox hout)) (by simp) hfilter
      refine ⟨later ++ [(s', .process d)], t', rest, by simpa using hlater, h', ?_, hout', hrest⟩
      rw [List.filterMap_append, hinputs]
      rfl

theorem Apart.step_process {hist' : List (Lobby ι δ × Action ι δ)} (h : s.Apart code s')
    (hrun' : (system device zone).Run (fun _ _ => True) hist' s')
    (hstep : s.step device zone (.process d) = some t)
    : ∃ later t',
        (system device zone).Run (fun _ _ => True) (later ++ hist') t'
          ∧ t.Apart code t'
          ∧ later.filterMap input? = [] := by
  obtain ⟨w, ws, hout, rfl⟩ := Lobby.step_process hstep
  by_cases hcode : w.code = code
  . have hfilter : (s'.outbox d).filter (fun w => w.code = code) = w :: ws.filter fun w => w.code = code := by
      rw [h.outbox d, hout, List.filter_cons_of_pos (by simpa using hcode)]
    obtain ⟨later, s'', rest, hlater, h', hinputs, hout', hrest⟩ := h.flush hrun' hfilter
    refine ⟨(s'', .process d) :: later, _, hlater.step trivial (process_of_outbox hout'),
      ⟨?_, ?_, h'.sessions, h'.others⟩, ?_⟩
    . exact gamePart_apply_congr w h'.db
    . intro d'
      by_cases hd : d' = d
      . subst hd
        simpa using hrest
      . simpa [hd] using h'.outbox d'
    . rw [List.filterMap_cons, hinputs]
      rfl
  . refine ⟨[], s', hrun', ⟨?_, ?_, h.sessions, h.others⟩, rfl⟩
    . dsimp only
      rw [gamePart_apply_of_ne hcode, h.db]
    . intro d'
      rw [h.outbox d']
      by_cases hd : d' = d
      . subst hd
        simp [hout, hcode]
      . simp [hd]

/-- The step of a session of another game. -/
theorem Apart.step_other (h : s.Apart code s') (hs : s.Sound device) (hzero : code ≠ 0)
    {a : Session.Input} (hsubject : (s.sessions i).subject a ≠ code)
    (hstep : s.step device zone (.session i a) = some t)
    : t.Apart code s' := by
  simp only [Lobby.step, Option.ite_none_right_eq_some] at hstep
  obtain ⟨-, hstep⟩ := hstep
  split at hstep
  . next c ws hc =>
    rw [Option.some.injEq] at hstep
    subst hstep
    have hnone : ∀ {c : Session}, c.tap = none → c.code ≠ code := by
      intro c htap hcode
      rw [Session.code, htap] at hcode
      exact hzero hcode.symm
    have hbefore : (s.sessions i).code ≠ code := by
      rcases Session.tap_of_newId hc with hid | ⟨htap, -⟩
      . cases a <;> first | exact hsubject | contradiction
      . exact hnone htap
    have hafter : c.code ≠ code := by
      rcases Session.code_of_step hc with htap | hcode
      . exact hnone htap
      . rwa [hcode]
    have hws : ws.filter (fun w => w.code = code) = [] := by
      rw [List.filter_eq_nil_iff]
      intro w hw
      rcases hs.code_of_mem_writes (Session.next_of_step hc) hw with hcode | hcode
      . simpa [hcode] using hbefore
      . simpa [hcode] using hzero.symm
    refine ⟨h.db, ?_, ?_, ?_⟩
    . intro d
      rw [h.outbox d]
      by_cases hd : d = device i
      . subst hd
        simp [hws]
      . simp [hd]
    . intro j hj
      dsimp only at hj ⊢
      by_cases hji : j = i
      . subst hji
        rw [Function.update_self] at hj
        exact absurd hj hafter
      . rw [Function.update_of_ne hji] at hj ⊢
        exact h.sessions j hj
    . intro j hj
      dsimp only at hj
      by_cases hji : j = i
      . subst hji
        exact h.others j hbefore
      . rw [Function.update_of_ne hji] at hj
        exact h.others j hj
  . contradiction

omit [Fintype ι] [DecidableEq ι] [DecidableEq δ] in
theorem Apart.admissible (h : s.Apart code s') {a : Session.Input}
    (hpart : (s.sessions i).part code = (s'.sessions i).part code) (hadm : s.Admissible i a)
    : s'.Admissible i a := by
  have hcrashed : (s.sessions i).crashed = (s'.sessions i).crashed := by
    simpa using congrArg Session.crashed hpart
  have hnew : ∀ newId, s.NewId newId → s'.NewId newId := by
    intro newId hnew j tap htap
    by_cases hj : (s.sessions j).code = code
    . have hsame : (s'.sessions j).tap = (s.sessions j).tap := by
        simpa using congrArg Session.tap (h.sessions j hj)
      rw [hsame] at htap
      exact hnew j tap htap
    . rw [h.others j hj] at htap
      contradiction
  cases a with
  | hostGame | joinGame => exact ⟨hcrashed.symm.trans hadm.1, hnew _ hadm.2⟩
  | _ => exact hcrashed.symm.trans hadm

/-- The step of a session of the game. -/
theorem Apart.step_own (h : s.Apart code s') (hs : s.Sound device) (hs' : s'.Sound device)
    {a : Session.Input} (hsubject : (s.sessions i).subject a = code)
    (hstep : s.step device zone (.session i a) = some t)
    : ∃ t', s'.step device zone (.session i a) = some t' ∧ t.Apart code t' := by
  simp only [Lobby.step, Option.ite_none_right_eq_some] at hstep ⊢
  obtain ⟨hadm, hstep⟩ := hstep
  split at hstep
  . next c ws hc =>
    rw [Option.some.injEq] at hstep
    subst hstep
    have hi : (s.sessions i).code = code ∨ (s.sessions i).tap = none := by
      rcases Session.tap_of_newId hc with hid | ⟨htap, -⟩
      . left
        cases a <;> first | exact hsubject | contradiction
      . exact .inr htap
    have hpart := h.part_eq hs hs' hi
    have hi' : (s'.sessions i).code = code ∨ (s'.sessions i).tap = none := by
      rwa [Session.code_eq_of_part hpart, ← show (s.sessions i).tap = (s'.sessions i).tap by
        simpa using congrArg Session.tap hpart]
    have hcode : a.newId = none → (s.sessions i).code = code := by
      intro hid
      cases a <;> first | exact hsubject | contradiction
    obtain ⟨c', hc', heq⟩ := Session.part_step (s'.sent device i) hpart h.db.symm (h.view i) hcode
      (hs.readsOwn hi) (hs'.readsOwn hi') hc
    rw [hc']
    refine ⟨_, ⟨h.admissible hpart hadm, rfl⟩, h.db, ?_, ?_, ?_⟩
    . intro d
      by_cases hd : d = device i
      . subst hd
        simpa using h.outbox (device i)
      . simpa [hd] using h.outbox d
    . intro j hj
      dsimp only at hj ⊢
      by_cases hji : j = i
      . subst hji
        simpa using heq.symm
      . rw [Function.update_of_ne hji] at hj
        rw [Function.update_of_ne hji, Function.update_of_ne hji]
        exact h.sessions j hj
    . intro j hj
      dsimp only at hj ⊢
      by_cases hji : j = i
      . subst hji
        rw [Function.update_self] at hj ⊢
        rcases Session.code_of_step hc with htap | hsame
        . rw [← htap]
          simpa using (congrArg Session.tap heq).symm
        . exact absurd (hsame.trans hsubject) hj
      . rw [Function.update_of_ne hji] at hj ⊢
        exact h.others j hj
  . contradiction

def inputOf? (code : Int) : Lobby ι δ × Action ι δ → Option (ι × Session.Input)
  | (s, .session i a) => if (s.sessions i).subject a = code then some (i, a) else none
  | (_, .process _) => none

theorem Sound.of_run {hist : List (Lobby ι δ × Action ι δ)}
    (hrun : (system device zone).Run (fun _ _ => True) hist s)
    : s.Sound device := by
  apply hrun.invariant
  . rintro s rfl
    exact .empty
  . intro s a t h _ hstep
    have hstep : s.step device zone a = some t := hstep
    cases a with
    | session i a => exact h.step_session hstep
    | process d => exact h.step_process hstep

end Steps

theorem Apart.empty : Apart code ({} : Lobby ι δ) {} where
  db := rfl
  outbox := fun _ => rfl
  sessions := fun _ _ => rfl
  others := fun _ _ => rfl

/--
Whatever has happened on the database, a game has come to a state to which it also comes when there is
nothing but this game: the same taps and callbacks of its players alone lead to the same stored game,
the same waiting rooms and the same writes on their way.
-/
theorem game_alone [Fintype ι] [DecidableEq ι] [DecidableEq δ] (device : ι → δ) (zone : TimeZone)
    (hist : List (Lobby ι δ × Action ι δ)) (s : Lobby ι δ)
    (hrun : (system device zone).Run (fun _ _ => True) hist s) (code : Int) (hzero : code ≠ 0)
    : ∃ hist' s',
        (system device zone).Run (fun _ _ => True) hist' s'
          ∧ s.Apart code s'
          ∧ hist'.filterMap input? = hist.filterMap (inputOf? code) := by
  apply hrun.simulate
  . rintro s rfl
    exact ⟨{}, rfl, .empty⟩
  . intro hist s a t hist' s' hrun hrun' h _ hstep
    have hstep : s.step device zone a = some t := hstep
    cases a with
    | process d => exact h.step_process hrun' hstep
    | session i a =>
      by_cases hsubject : (s.sessions i).subject a = code
      . obtain ⟨t', hstep', h'⟩ := h.step_own (.of_run hrun) (.of_run hrun') hsubject hstep
        refine ⟨[(s', .session i a)], t', hrun'.step trivial hstep', h', ?_⟩
        simp [input?, inputOf?, hsubject]
      . refine ⟨[], s', hrun', h.step_other (.of_run hrun) hzero hsubject hstep, ?_⟩
        simp [inputOf?, hsubject]

/-- Two games are hosted at the same time, and each host gets to a waiting room. -/
theorem game_alone_two_hosts
    : ∃ (hist' : List (Duo × Action Bool Bool)) (s' : Duo),
        (system id .gmt).Run (fun _ _ => True) hist' s'
          ∧ (s'.sessions false).room.isSome = true
          ∧ (s'.sessions true).tap = none
          ∧ (hist'.filterMap input?).length = 5 := by
  obtain ⟨hist, s, hrun, hroom, hfalse, htrue, hlength⟩ := TransitionSystem.exists_run_of_exec
    (fun _ _ => True) (S := system id .gmt)
    (P := fun hist (s : Duo) => (s.sessions false).room.isSome = true
      ∧ (s.sessions false).code = 123456
      ∧ (s.sessions true).code = 234567
      ∧ (hist.filterMap (inputOf? 123456)).length = 5)
    (s := {}) rfl
    ([tapHost false 123456, tapHost true 234567] ++ finishCall true ++ finishCall false
      ++ finishRead true ++ finishRead false)
    (by decide +kernel)
  obtain ⟨hist', s', hrun', h, hinputs⟩ := game_alone id .gmt hist s hrun 123456 (by decide)
  refine ⟨hist', s', hrun', ?_, h.others true (by rw [htrue]; decide), by rw [hinputs, hlength]⟩
  have hsame : (s'.sessions false).room = (s.sessions false).room :=
    congrArg (fun c => c.room) (h.sessions false hfalse)
  rw [hsame, hroom]

end Lobby

end SCatCh
