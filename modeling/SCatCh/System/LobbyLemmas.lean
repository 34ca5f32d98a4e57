import SCatCh.System.Lobby

/-!
This module contains what the steps of the lobby can do: how a session changes, and what its writes
do to the players of a game.
-/

namespace SCatCh

namespace Session

variable {zone : TimeZone} {db view : Database} {after : Nat} {c c' : Session} {a : Input}
  {ws : List Write}

def Input.newId : Input → Option UUID
  | .hostGame _ _ _ _ _ newId _ => some newId
  | .joinGame _ _ newId _ => some newId
  | _ => none

def stopObserving (c : Session) (code : Int) : Session :=
  { c with
    players := if code = c.code then c.players.stop else c.players
    roundNum := if code = c.code then c.roundNum.stop else c.roundNum }

@[simp]
theorem stopObserving_players_queue (code : Int)
    : (c.stopObserving code).players.queue = c.players.queue := by
  unfold stopObserving
  dsimp only
  split <;> rfl

@[simp]
theorem stopObserving_roundNum_queue (code : Int)
    : (c.stopObserving code).roundNum.queue = c.roundNum.queue := by
  unfold stopObserving
  dsimp only
  split <;> rfl

def enter (c : Session) (after : Nat) (tap : Tap) : Session :=
  { c with
    home := { c.home with isOperationSuccessful := true }
    phase := .closed
    room := some { player := tap.player, isHost := tap.isHost }
    requests := c.requests ++ [⟨.gameSettings, tap.code, after⟩]
    players := c.players.observe
    roundNum := c.roundNum.observe }

inductive Next (zone : TimeZone) (db view : Database) (after : Nat) (c : Session)
    : Input → Session → List Write → Prop
  | refuse {a : Input} (home : StateControllerHome) : Next zone db view after c a { c with home := home } []
  | tap {a : Input} (tap : Tap) (htap : c.tap = none) (hid : a.newId = some tap.player.id)
      (hcode : tap.isHost = true → 100000 ≤ tap.code)
    : Next zone db view after c a { c with tap := some tap, phase := .waiting } []
  | answerCall (hphase : c.phase = .waiting)
    : Next zone db view after c .answerCall { c with phase := .answered db } []
  | failCall {a : Input} (home : StateControllerHome) (hphase : c.phase ≠ .idle)
    : Next zone db view after c a { c with home := home, phase := .closed } []
  | handleCall (tap : Tap) (snapshot : Database) (write : Write) (htap : c.tap = some tap)
      (hphase : c.phase = .answered snapshot) (hwrite : tap.write zone snapshot = some write)
    : Next zone db view after c .handleCall (c.enter (after + 1) tap) [write]
  | answer (k : Nat) (order : IterationOrder) (request : Request)
      (hrequest : c.requests[k]? = some request)
    : Next zone db view after c (.answer k order) { c with
        requests := c.requests.eraseIdx k
        replies := c.replies ++ [⟨request, db, order⟩] } []
  | fail (k : Nat) : Next zone db view after c (.fail k) { c with requests := c.requests.eraseIdx k } []
  | ignoreReply (k : Nat)
    : Next zone db view after c (.handle k) { c with replies := c.replies.eraseIdx k } []
  | gameSettings (k : Nat) (room : StateControllerWaitingRoom) (reply : Reply)
      (gameSettings : GameSettings) (hroom : c.room = some room)
      (hreply : c.replies[k]? = some reply) (hread : reply.request.read = .gameSettings)
      (hsettings : StorageControllerWaitingRoom.getGameSettings reply.snapshot reply.request.code
        = some gameSettings)
    : Next zone db view after c (.handle k) { c with
        replies := c.replies.eraseIdx k
        room := some (room.updateGameSettings gameSettings) } []
  | start (k : Nat) (reply : Reply) (hreply : c.replies[k]? = some reply)
      (hread : reply.request.read = .start)
    : Next zone db view after c (.handle k) { c with replies := c.replies.eraseIdx k }
        (StorageControllerWaitingRoom.startGame reply.order reply.snapshot reply.request.code)
  | sheet (k : Nat) (room : StateControllerWaitingRoom) (reply : Reply) (players : List Player)
      (gameSettings : GameSettings) (player : Player) (hroom : c.room = some room)
      (hreply : c.replies[k]? = some reply) (hread : reply.request.read = .players)
      (hplayers : StorageControllerWaitingRoom.getPlayers reply.order reply.snapshot
        reply.request.code = some (some players))
      (hsettings : room.gameSettings = some gameSettings)
      (hplayer : (players.filter fun p => p.id = room.player.id).head? = some player)
    : Next zone db view after c (.handle k) { c with
        replies := c.replies.eraseIdx k
        sheet := some (StateControllerSheet.init gameSettings player players.length room.isHost).1 } []
  | crashReply (k : Nat) (room : StateControllerWaitingRoom) (reply : Reply)
      (hroom : c.room = some room) (hreply : c.replies[k]? = some reply)
      (hread : reply.request.read = .players)
      (htrap : ∀ players, StorageControllerWaitingRoom.getPlayers reply.order reply.snapshot
        reply.request.code = some players → ∃ ps, players = some ps ∧ room.handlePlayers ps = none)
    : Next zone db view after c (.handle k) { c with
        replies := c.replies.eraseIdx k
        crashed := true } []
  | raisePlayers (players : Observer Database)
      (hraise : c.players.raise (view.get (playersPath c.code)) = some players)
    : Next zone db view after c .raisePlayers { c with players := players } []
  | ignorePlayers {order : IterationOrder} (node : Database) (players : Observer Database)
      (hdeliver : c.players.deliver = some (node, players))
    : Next zone db view after c (.deliverPlayers order) { c with players := players } []
  | updatePlayers {order : IterationOrder} (room : StateControllerWaitingRoom) (node : Database)
      (players : Observer Database) (ps : List WaitingPlayer) (hroom : c.room = some room)
      (hdeliver : c.players.deliver = some (node, players))
    : Next zone db view after c (.deliverPlayers order)
        { c with players := players, room := some (room.updatePlayers ps) } []
  | crashPlayers {order : IterationOrder} (node : Database) (players : Observer Database)
      (hdeliver : c.players.deliver = some (node, players))
      (htrap : StorageControllerWaitingRoom.observePlayers order zone node = none)
    : Next zone db view after c (.deliverPlayers order)
        { c with players := players, crashed := true } []
  | raiseRoundNum (v : Int) (roundNum : Observer Int)
      (hv : StorageControllerWaitingRoom.observeRoundNum view c.code = some v)
      (hraise : c.roundNum.raise v = some roundNum)
    : Next zone db view after c .raiseRoundNum { c with roundNum := roundNum } []
  | ignoreRoundNum (v : Int) (roundNum : Observer Int)
      (hdeliver : c.roundNum.deliver = some (v, roundNum))
    : Next zone db view after c .deliverRoundNum { c with roundNum := roundNum } []
  | getPlayers (room : StateControllerWaitingRoom) (v : Int) (roundNum : Observer Int)
      (hroom : c.room = some room) (hdeliver : c.roundNum.deliver = some (v, roundNum)) (hv : 0 < v)
    : Next zone db view after c .deliverRoundNum
        { { c with roundNum := roundNum }.stopObserving room.getGameCode with
          requests := c.requests ++ [⟨.players, room.getGameCode, after⟩] } []
  | leaveGame (room : StateControllerWaitingRoom) (hroom : c.room = some room) (hwaits : c.Waits)
    : Next zone db view after c .leaveGame
        { c.stopObserving room.getGameCode with left := true }
        [.removePlayer room.getGameCode room.player.id]
  | startGame (room : StateControllerWaitingRoom) (hroom : c.room = some room) (hwaits : c.Waits)
      (hhost : room.isHost = true)
    : Next zone db view after c .startGame
        { c with requests := c.requests ++ [⟨.start, room.getGameCode, after⟩] } []

theorem with_room {room : StateControllerWaitingRoom} (hroom : c.room = some room)
    : { c with room := some room } = c := by
  cases c
  cases hroom
  rfl

theorem update_self {room : StateControllerWaitingRoom} (hroom : c.room = some room)
    (effects : List StateControllerWaitingRoom.Effect)
    : c.update after (room, effects) = effects.foldl (perform after) c := by
  unfold update
  rw [with_room hroom]

theorem perform_stopObserving (after : Nat) (code : Int)
    : (c.perform after (.stopObservingPlayers code)).perform after (.stopObservingRoundNum code)
        =
      c.stopObserving code := by
  by_cases hcode : code = c.code
  . simp only [perform, stopObserving, if_pos hcode]
    exact if_pos hcode
  . simp only [perform, stopObserving, if_neg hcode]

theorem update_leaveGame {room : StateControllerWaitingRoom} (hroom : c.room = some room)
    : c.update after room.leaveGame = { c.stopObserving room.getGameCode with left := true } := by
  unfold StateControllerWaitingRoom.leaveGame
  rw [update_self hroom, ← perform_stopObserving after]
  rfl

theorem update_checkRoundNum {room : StateControllerWaitingRoom} (hroom : c.room = some room) {v : Int}
    (hv : 0 < v)
    : c.update after (room.checkRoundNum v)
        =
      { c.stopObserving room.getGameCode with
        requests := c.requests ++ [⟨.players, room.getGameCode, after⟩] } := by
  unfold StateControllerWaitingRoom.checkRoundNum
  rw [if_pos hv, update_self hroom, List.foldl_cons, List.foldl_cons, perform_stopObserving]
  rfl

theorem updateHome_enter (tap : Tap)
    : { c with phase := .closed }.updateHome after (tap.handleDBData c.home true) = c.enter after tap := by
  cases tap <;> rfl

theorem updateHome_fail (tap : Tap)
    : { c with phase := .closed }.updateHome after (tap.handleDBData c.home false)
        =
      { c with home := { c.home with isOperationSuccessful := false }, phase := .closed } := by
  cases tap <;> rfl

theorem next_handleReply {k : Nat} {room : StateControllerWaitingRoom} {reply : Reply}
    (hroom : c.room = some room) (hreply : c.replies[k]? = some reply)
    : Next zone db view after c (.handle k)
        ({ c with replies := c.replies.eraseIdx k }.handleReply after room reply).1
        ({ c with replies := c.replies.eraseIdx k }.handleReply after room reply).2 := by
  unfold handleReply
  split
  . next hread =>
    split
    . next gameSettings hsettings =>
      exact .gameSettings k room reply gameSettings hroom hreply hread hsettings
    . exact .ignoreReply k
  . next hread =>
    split
    . next players hplayers =>
      split
      . next result hresult =>
        simp only [StateControllerWaitingRoom.handlePlayers, Option.bind_eq_bind,
          Option.bind_eq_some_iff, Option.pure_def, Option.some.injEq] at hresult
        obtain ⟨gameSettings, hsettings, player, hplayer, rfl⟩ := hresult
        rw [update_self (c := { c with replies := c.replies.eraseIdx k }) hroom]
        exact .sheet k room reply players gameSettings player hroom hreply hread hplayers hsettings
          hplayer
      . next hresult =>
        apply Next.crashReply k room reply hroom hreply hread
        intro players' hplayers'
        rw [hplayers, Option.some.injEq] at hplayers'
        exact ⟨players, hplayers'.symm, hresult⟩
    . exact .ignoreReply k
    . next hplayers =>
      apply Next.crashReply k room reply hroom hreply hread
      intro players' hplayers'
      rw [hplayers] at hplayers'
      contradiction
  . next hread => exact .start k reply hreply hread

theorem next_of_step (h : c.step zone db view after a = some (c', ws))
    : Next zone db view after c a c' ws := by
  cases a with
  | hostGame topic maxNumOfRounds roundTime nickname code newId date =>
    simp only [step, Option.ite_none_right_eq_some, Option.some.injEq, Prod.mk.injEq] at h
    obtain ⟨⟨htap, hcode, -⟩, rfl, rfl⟩ := h
    unfold StateControllerHome.hostGame
    -- The Home state refuses a game without a nickname or without time for a round.
    split
    . exact .tap (.host code _ maxNumOfRounds roundTime ⟨newId, nickname, date⟩) htap rfl fun _ => hcode
    . exact .refuse _
  | joinGame nickname code newId date =>
    simp only [step, Option.ite_none_right_eq_some, Option.some.injEq, Prod.mk.injEq] at h
    obtain ⟨htap, rfl, rfl⟩ := h
    unfold StateControllerHome.joinGame
    split
    . exact .tap (.join ⟨newId, nickname, date⟩ code) htap rfl (fun h => by cases h)
    . exact .refuse _
  | answerCall =>
    simp only [step, Option.ite_none_right_eq_some, Option.some.injEq, Prod.mk.injEq] at h
    obtain ⟨hphase, rfl, rfl⟩ := h
    exact .answerCall hphase
  | failCall =>
    simp only [step] at h
    split at h
    . next tap htap hphase =>
      simp only [Option.some.injEq, Prod.mk.injEq] at h
      obtain ⟨rfl, rfl⟩ := h
      rw [updateHome_fail]
      exact .failCall _ (by simp [hphase])
    . contradiction
  | handleCall =>
    simp only [step] at h
    split at h
    . next tap snapshot htap hphase =>
      simp only [Option.some.injEq, Prod.mk.injEq] at h
      obtain ⟨rfl, rfl⟩ := h
      -- Nothing is written if the call is refused, and the session is over.
      cases hwrite : tap.write zone snapshot with
      | none =>
        rw [Option.isSome_none, updateHome_fail]
        exact .failCall _ (by simp [hphase])
      | some write =>
        rw [Option.isSome_some, updateHome_enter]
        exact .handleCall tap snapshot write htap hphase hwrite
    . contradiction
  | answer k order =>
    simp only [step] at h
    split at h
    . next request hrequest =>
      simp only [Option.some.injEq, Prod.mk.injEq] at h
      obtain ⟨rfl, rfl⟩ := h
      exact .answer k order request hrequest
    . contradiction
  | fail k =>
    simp only [step, Option.ite_none_right_eq_some, Option.some.injEq, Prod.mk.injEq] at h
    obtain ⟨-, rfl, rfl⟩ := h
    exact .fail k
  | handle k =>
    simp only [step] at h
    split at h
    . next room reply hroom hreply =>
      rw [Option.some.injEq] at h
      have hnext : Next zone db view after c (.handle k) _ _ := next_handleReply hroom hreply
      rw [h] at hnext
      exact hnext
    . contradiction
  | raisePlayers =>
    simp only [step] at h
    split at h
    . next players hraise =>
      simp only [Option.some.injEq, Prod.mk.injEq] at h
      obtain ⟨rfl, rfl⟩ := h
      exact .raisePlayers players hraise
    . contradiction
  | deliverPlayers order =>
    simp only [step] at h
    split at h
    . next room node players hroom hdeliver =>
      split at h
      . next ps hps =>
        simp only [Option.some.injEq, Prod.mk.injEq] at h
        obtain ⟨rfl, rfl⟩ := h
        exact .updatePlayers room node players ps hroom hdeliver
      . simp only [Option.some.injEq, Prod.mk.injEq] at h
        obtain ⟨rfl, rfl⟩ := h
        exact .ignorePlayers node players hdeliver
      . next htrap =>
        simp only [Option.some.injEq, Prod.mk.injEq] at h
        obtain ⟨rfl, rfl⟩ := h
        exact .crashPlayers node players hdeliver htrap
    . contradiction
  | raiseRoundNum =>
    simp only [step] at h
    split at h
    . next v hv =>
      split at h
      . next roundNum hraise =>
        simp only [Option.some.injEq, Prod.mk.injEq] at h
        obtain ⟨rfl, rfl⟩ := h
        exact .raiseRoundNum v roundNum hv hraise
      . contradiction
    . contradiction
  | deliverRoundNum =>
    simp only [step] at h
    split at h
    . next room v roundNum hroom hdeliver =>
      simp only [Option.some.injEq, Prod.mk.injEq] at h
      obtain ⟨rfl, rfl⟩ := h
      by_cases hv : 0 < v
      . rw [update_checkRoundNum (c := { c with roundNum := roundNum }) hroom hv]
        exact .getPlayers room v roundNum hroom hdeliver hv
      . unfold StateControllerWaitingRoom.checkRoundNum
        rw [if_neg hv, update_self (c := { c with roundNum := roundNum }) hroom]
        exact .ignoreRoundNum v roundNum hdeliver
    . contradiction
  | leaveGame =>
    simp only [step] at h
    split at h
    . next room hroom =>
      simp only [Option.ite_none_right_eq_some, Option.some.injEq, Prod.mk.injEq] at h
      obtain ⟨hwaits, rfl, rfl⟩ := h
      rw [update_leaveGame hroom]
      exact .leaveGame room hroom hwaits
    . contradiction
  | startGame =>
    simp only [step] at h
    split at h
    . next room hroom =>
      simp only [Option.ite_none_right_eq_some, Option.some.injEq, Prod.mk.injEq] at h
      obtain ⟨⟨hwaits, hhost⟩, rfl, rfl⟩ := h
      unfold StateControllerWaitingRoom.startGame
      rw [update_self hroom]
      exact .startGame room hroom hwaits hhost
    . contradiction

/-! # Where the parts of a session come from -/

theorem Next.tap_eq (h : Next zone db view after c a c' ws) {tap : Tap} (htap : c.tap = some tap)
    : c'.tap = some tap := by
  cases h with
  | tap tap' htap' =>
    rw [htap'] at htap
    contradiction
  | _ => exact htap

theorem Next.of_tap (h : Next zone db view after c a c' ws) {tap : Tap} (htap : c'.tap = some tap)
    : c.tap = some tap
        ∨
      (c.tap = none ∧ a.newId = some tap.player.id ∧ (tap.isHost = true → 100000 ≤ tap.code)) := by
  cases h with
  | tap tap' htap' hid hcode =>
    cases htap
    exact .inr ⟨htap', hid, hcode⟩
  | _ => exact .inl htap

theorem Next.of_answered (h : Next zone db view after c a c' ws) {snapshot : Database}
    (hphase : c'.phase = .answered snapshot)
    : c.phase = .answered snapshot ∨ (a = .answerCall ∧ c.phase = .waiting ∧ snapshot = db) := by
  cases h with
  | answerCall hwaiting =>
    cases hphase
    exact .inr ⟨rfl, hwaiting, rfl⟩
  | tap => cases hphase
  | failCall => cases hphase
  | handleCall => cases hphase
  | _ => exact .inl hphase

theorem Next.closed (h : Next zone db view after c a c' ws) (htap : c.tap ≠ none)
    (hphase : c.phase = .closed)
    : c'.phase = .closed := by
  cases h with
  | tap tap htap' => exact absurd htap' htap
  | answerCall hwaiting =>
    rw [hphase] at hwaiting
    contradiction
  | failCall => rfl
  | handleCall => rfl
  | _ => exact hphase

theorem Next.of_room (h : Next zone db view after c a c' ws) {room' : StateControllerWaitingRoom}
    (hroom' : c'.room = some room')
    : (∃ room, c.room = some room ∧ room'.player = room.player ∧ room'.isHost = room.isHost
        ∧
      (room'.gameSettings = room.gameSettings
        ∨
      ∃ reply ∈ c.replies, reply.request.read = .gameSettings
        ∧
      ∃ gameSettings,
        StorageControllerWaitingRoom.getGameSettings reply.snapshot reply.request.code
            = some gameSettings
          ∧ room'.gameSettings = some gameSettings))
        ∨
      (∃ tap snapshot write,
        c.tap = some tap
          ∧ c.phase = .answered snapshot
          ∧ tap.write zone snapshot = some write
          ∧ ws = [write]
          ∧ c'.phase = .closed
          ∧ room' = { player := tap.player, isHost := tap.isHost }) := by
  cases h with
  | handleCall tap snapshot write htap hphase hwrite =>
    cases hroom'
    exact .inr ⟨tap, snapshot, write, htap, hphase, hwrite, rfl, rfl, rfl⟩
  | gameSettings k room reply gameSettings hroom hreply hread hsettings =>
    cases hroom'
    exact .inl ⟨room, hroom, rfl, rfl, .inr ⟨reply, List.mem_of_getElem? hreply, hread, gameSettings,
      hsettings, rfl⟩⟩
  | updatePlayers room node players ps hroom =>
    cases hroom'
    exact .inl ⟨room, hroom, rfl, rfl, .inl rfl⟩
  | _ => exact .inl ⟨room', hroom', rfl, rfl, .inl rfl⟩

theorem Next.room_eq (h : Next zone db view after c a c' ws) (hphase : c.phase = .closed)
    {room : StateControllerWaitingRoom} (hroom : c.room = some room)
    : ∃ room', c'.room = some room'
        ∧ (room.gameSettings.isSome = true → room'.gameSettings.isSome = true) := by
  cases h with
  | handleCall tap snapshot write htap hphase' =>
    rw [hphase] at hphase'
    contradiction
  | gameSettings k room' reply gameSettings hroom' => exact ⟨_, rfl, fun _ => rfl⟩
  | updatePlayers room' node players ps hroom' =>
    rw [hroom, Option.some.injEq] at hroom'
    subst hroom'
    exact ⟨_, rfl, id⟩
  | _ => exact ⟨room, hroom, id⟩

theorem Next.of_mem_writes (h : Next zone db view after c a c' ws) {w : Write} (hw : w ∈ ws)
    : (∃ tap snapshot,
        c.tap = some tap
          ∧ c.phase = .answered snapshot
          ∧ tap.write zone snapshot = some w
          ∧ ws = [w]
          ∧ c' = c.enter (after + 1) tap)
        ∨
      (∃ k, a = .handle k
        ∧
      ∃ reply, c.replies[k]? = some reply
        ∧ reply.request.read = .start
        ∧ ws = StorageControllerWaitingRoom.startGame reply.order reply.snapshot reply.request.code)
        ∨
      (∃ room,
        c.room = some room
          ∧ w = .removePlayer room.getGameCode room.player.id
          ∧ ws = [w]
          ∧ c'.left = true) := by
  cases h with
  | handleCall tap snapshot write htap hphase hwrite =>
    rw [List.mem_singleton] at hw
    subst hw
    exact .inl ⟨tap, snapshot, htap, hphase, hwrite, rfl, rfl⟩
  | start k reply hreply hread => exact .inr (.inl ⟨k, rfl, reply, hreply, hread, rfl⟩)
  | leaveGame room hroom =>
    rw [List.mem_singleton] at hw
    exact .inr (.inr ⟨room, hroom, hw, by rw [hw], rfl⟩)
  | _ => simp at hw

theorem Next.of_mem_requests (h : Next zone db view after c a c' ws) {request : Request}
    (hrequest : request ∈ c'.requests)
    : request ∈ c.requests
        ∨
      (∃ tap, c.tap = some tap ∧ request.read = .gameSettings ∧ request.code = tap.code)
        ∨
      (∃ room, c.room = some room ∧ request.read = .start ∧ request.code = room.getGameCode)
        ∨
      (∃ room v,
        c.room = some room
          ∧ v ∈ c.roundNum.queue
          ∧ 0 < v
          ∧ request = ⟨.players, room.getGameCode, after⟩
          ∧ c'.room = some room) := by
  cases h with
  | handleCall tap snapshot write htap =>
    dsimp only [enter] at hrequest
    rw [List.mem_append, List.mem_singleton] at hrequest
    rcases hrequest with hrequest | rfl
    . exact .inl hrequest
    . exact .inr (.inl ⟨tap, htap, rfl, rfl⟩)
  | answer => exact .inl (List.mem_of_mem_eraseIdx hrequest)
  | fail => exact .inl (List.mem_of_mem_eraseIdx hrequest)
  | getPlayers room v roundNum hroom hdeliver hv =>
    dsimp only at hrequest
    rw [List.mem_append, List.mem_singleton] at hrequest
    rcases hrequest with hrequest | rfl
    . exact .inl hrequest
    . obtain ⟨queue, hqueue, -⟩ := Observer.deliver_eq_some.1 hdeliver
      exact .inr (.inr (.inr ⟨room, v, hroom, by simp [hqueue], hv, rfl, hroom⟩))
  | startGame room hroom =>
    dsimp only at hrequest
    rw [List.mem_append, List.mem_singleton] at hrequest
    rcases hrequest with hrequest | rfl
    . exact .inl hrequest
    . exact .inr (.inr (.inl ⟨room, hroom, rfl, rfl⟩))
  | _ => exact .inl hrequest

theorem Next.of_mem_replies (h : Next zone db view after c a c' ws) {reply : Reply}
    (hreply : reply ∈ c'.replies)
    : reply ∈ c.replies
        ∨
      (∃ k order request,
        a = .answer k order ∧ c.requests[k]? = some request ∧ reply = ⟨request, db, order⟩) := by
  cases h with
  | answer k order request hrequest =>
    dsimp only at hreply
    rw [List.mem_append, List.mem_singleton] at hreply
    rcases hreply with hreply | rfl
    . exact .inl hreply
    . exact .inr ⟨k, order, request, rfl, hrequest, rfl⟩
  | ignoreReply => exact .inl (List.mem_of_mem_eraseIdx hreply)
  | gameSettings => exact .inl (List.mem_of_mem_eraseIdx hreply)
  | start => exact .inl (List.mem_of_mem_eraseIdx hreply)
  | sheet => exact .inl (List.mem_of_mem_eraseIdx hreply)
  | crashReply => exact .inl (List.mem_of_mem_eraseIdx hreply)
  | _ => exact .inl hreply

theorem Next.of_mem_players (h : Next zone db view after c a c' ws) {node : Database}
    (hnode : node ∈ c'.players.queue)
    : node ∈ c.players.queue ∨ node = view.get (playersPath c.code) := by
  cases h with
  | raisePlayers players hraise =>
    obtain ⟨-, -, rfl⟩ := Observer.raise_eq_some.1 hraise
    simpa using hnode
  | ignorePlayers _ players hdeliver | updatePlayers _ _ players _ _ hdeliver
  | crashPlayers _ players hdeliver =>
    obtain ⟨queue, hqueue, rfl⟩ := Observer.deliver_eq_some.1 hdeliver
    rw [hqueue]
    exact .inl (List.mem_cons_of_mem _ hnode)
  | getPlayers => exact .inl (by simpa using hnode)
  | leaveGame => exact .inl (by simpa using hnode)
  | _ => exact .inl hnode

theorem Next.of_mem_roundNum (h : Next zone db view after c a c' ws) {v : Int}
    (hv : v ∈ c'.roundNum.queue)
    : v ∈ c.roundNum.queue
        ∨
      StorageControllerWaitingRoom.observeRoundNum view c.code = some v := by
  cases h with
  | raiseRoundNum v' roundNum hv' hraise =>
    obtain ⟨-, -, rfl⟩ := Observer.raise_eq_some.1 hraise
    dsimp only at hv
    rw [List.mem_append, List.mem_singleton] at hv
    rcases hv with hv | rfl
    . exact .inl hv
    . exact .inr hv'
  | ignoreRoundNum _ roundNum hdeliver =>
    obtain ⟨queue, hqueue, rfl⟩ := Observer.deliver_eq_some.1 hdeliver
    rw [hqueue]
    exact .inl (List.mem_cons_of_mem _ hv)
  | getPlayers _ _ roundNum _ hdeliver =>
    obtain ⟨queue, hqueue, rfl⟩ := Observer.deliver_eq_some.1 hdeliver
    rw [hqueue]
    simp only [stopObserving_roundNum_queue] at hv
    exact .inl (List.mem_cons_of_mem _ hv)
  | leaveGame => exact .inl (by simpa using hv)
  | _ => exact .inl hv

theorem Next.of_sheet (h : Next zone db view after c a c' ws) {controller : StateControllerSheet}
    (hsheet : c'.sheet = some controller)
    : c.sheet = some controller
        ∨
      ∃ room, c.room = some room
        ∧
      ∃ reply ∈ c.replies, reply.request.read = .players
        ∧
      ∃ players gameSettings player,
        StorageControllerWaitingRoom.getPlayers reply.order reply.snapshot reply.request.code
            = some (some players)
          ∧ room.gameSettings = some gameSettings
          ∧ player ∈ players
          ∧ player.id = room.player.id
          ∧ controller
              = (StateControllerSheet.init gameSettings player players.length room.isHost).1 := by
  cases h with
  | sheet k room reply players gameSettings player hroom hreply hread hplayers hsettings hplayer =>
    cases hsheet
    have hmem := List.mem_of_head? hplayer
    rw [List.mem_filter, decide_eq_true_eq] at hmem
    exact .inr ⟨room, hroom, reply, List.mem_of_getElem? hreply, hread, players, gameSettings, player,
      hplayers, hsettings, hmem.1, hmem.2, rfl⟩
  | _ => exact .inl hsheet

theorem Next.of_crashed (h : Next zone db view after c a c' ws) (hcrashed : c'.crashed = true)
    : c.crashed = true
        ∨
      (∃ node ∈ c.players.queue, ∃ order,
        StorageControllerWaitingRoom.observePlayers order zone node = none)
        ∨
      (∃ room, c.room = some room
        ∧
      ∃ reply ∈ c.replies, reply.request.read = .players
        ∧
      ∀ players,
        StorageControllerWaitingRoom.getPlayers reply.order reply.snapshot reply.request.code
            = some players →
          ∃ ps, players = some ps ∧ room.handlePlayers ps = none) := by
  cases h with
  | crashReply k room reply hroom hreply hread htrap =>
    exact .inr (.inr ⟨room, hroom, reply, List.mem_of_getElem? hreply, hread, htrap⟩)
  | @crashPlayers order node players hdeliver htrap =>
    obtain ⟨queue, hqueue, -⟩ := Observer.deliver_eq_some.1 hdeliver
    exact .inr (.inl ⟨node, by simp [hqueue], order, htrap⟩)
  | _ => exact .inl hcrashed

theorem Next.left (h : Next zone db view after c a c' ws) (hleft : c.left = true)
    : c'.left = true := by
  cases h with
  | leaveGame => rfl
  | _ => exact hleft

theorem Next.of_not_left (h : Next zone db view after c a c' ws) (hleft : c'.left = false)
    : c.left = false := by
  cases hold : c.left with
  | false => rfl
  | true =>
    rw [h.left hold] at hleft
    contradiction

theorem Next.fresh {home : StateControllerHome} (h : Next zone db view after { home := home } a c' ws)
    : (∃ home', c' = { home := home' }) ∨ c'.tap ≠ none := by
  cases h with
  | refuse home' => exact .inl ⟨home', rfl⟩
  | tap tap htap => exact .inr (by simp)
  | answerCall hphase => contradiction
  | failCall _ hphase => exact absurd rfl hphase
  | handleCall tap snapshot write htap => contradiction
  | answer k order request hrequest => simp at hrequest
  | fail k => exact .inl ⟨home, rfl⟩
  | ignoreReply k => exact .inl ⟨home, rfl⟩
  | gameSettings k room reply gameSettings hroom => contradiction
  | start k reply hreply => simp at hreply
  | sheet k room reply players gameSettings player hroom => contradiction
  | crashReply k room reply hroom => contradiction
  | raisePlayers players hraise =>
    have := (Observer.raise_eq_some.1 hraise).1
    contradiction
  | ignorePlayers node players hdeliver => simp [Observer.deliver] at hdeliver
  | updatePlayers room node players ps hroom => contradiction
  | crashPlayers node players hdeliver => simp [Observer.deliver] at hdeliver
  | raiseRoundNum v roundNum hv hraise =>
    have := (Observer.raise_eq_some.1 hraise).1
    contradiction
  | ignoreRoundNum v roundNum hdeliver => simp [Observer.deliver] at hdeliver
  | getPlayers room v roundNum hroom => contradiction
  | leaveGame room hroom => contradiction
  | startGame room hroom => contradiction

theorem Next.unstarted {home : StateControllerHome}
    (h : Next zone db view after { home := home } a c' ws)
    : ∃ home' tap phase, c' = { home := home', tap := tap, phase := phase } := by
  rcases h.fresh with ⟨home', rfl⟩ | htap
  . exact ⟨home', none, .idle, rfl⟩
  . cases h with
    | tap tap' => exact ⟨home, some tap', .waiting, rfl⟩
    | _ => exact absurd rfl htap

theorem Next.code_eq (h : Next zone db view after c a c' ws) {tap : Tap} (htap : c.tap = some tap)
    : c'.code = c.code := by
  unfold code
  rw [htap, h.tap_eq htap]

def key (c : Session) : String :=
  match c.tap with
  | some tap => tap.player.id.uuidString
  | none => ""

theorem Next.key_eq (h : Next zone db view after c a c' ws) {tap : Tap} (htap : c.tap = some tap)
    : c'.key = c.key := by
  unfold key
  rw [htap, h.tap_eq htap]

end Session

namespace Lobby

variable {ι δ : Type} {device : ι → δ} {zone : TimeZone} {s t : Lobby ι δ} {i : ι} {d : δ}

section Step

variable [Fintype ι] [DecidableEq ι] [DecidableEq δ]

theorem step_session {a : Session.Input} (h : s.step device zone (.session i a) = some t)
    : s.Admissible i a
        ∧
      ∃ c writes,
        Session.Next zone s.db (s.view device i) (s.sent device i) (s.sessions i) a c writes
          ∧
        t = { s with
          sessions := Function.update s.sessions i c
          outbox := Function.update s.outbox (device i) (s.outbox (device i) ++ writes)
          numbering := s.note (s.numbers i a) } := by
  simp only [step] at h
  split at h
  . next hadm =>
    split at h
    . next c writes hc =>
      rw [Option.some.injEq] at h
      exact ⟨hadm, c, writes, Session.next_of_step hc, h.symm⟩
    . contradiction
  . contradiction

theorem step_process (h : s.step device zone (.process d) = some t)
    : ∃ write writes,
        s.outbox d = write :: writes
          ∧
        t = { s with
          db := write.apply s.db
          outbox := Function.update s.outbox d writes
          processed := Function.update s.processed d (s.processed d + 1) } := by
  simp only [step] at h
  split at h
  . next write writes hout =>
    rw [Option.some.injEq] at h
    exact ⟨write, writes, hout, h.symm⟩
  . contradiction

omit [Fintype ι] [DecidableEq δ] in
theorem eq_of_update {sessions : ι → Session} {c : Session} {R : Session → Session → Prop}
    (h : ∀ j k, R (sessions j) (sessions k) → j = k)
    (hnew : ∀ j, j ≠ i → ¬R c (sessions j) ∧ ¬R (sessions j) c) (j k : ι)
    (hR : R (Function.update sessions i c j) (Function.update sessions i c k))
    : j = k := by
  by_cases hj : j = i <;> by_cases hk : k = i
  . rw [hj, hk]
  . rw [hj, Function.update_self, Function.update_of_ne hk] at hR
    exact absurd hR (hnew k hk).1
  . rw [hk, Function.update_self, Function.update_of_ne hj] at hR
    exact absurd hR (hnew j hj).2
  . rw [Function.update_of_ne hj, Function.update_of_ne hk] at hR
    exact h j k hR

omit [Fintype ι] [DecidableEq δ] in
theorem left_update {db view : Database} {after : Nat} {a : Session.Input} {c : Session}
    {ws : List Write} (hnext : Session.Next zone db view after (s.sessions i) a c ws) {j : ι}
    (hleft : (s.sessions j).left = true)
    : (Function.update s.sessions i c j).left = true := by
  by_cases hj : j = i
  . subst hj
    rw [Function.update_self]
    exact hnext.left hleft
  . rwa [Function.update_of_ne hj]

omit [Fintype ι] [DecidableEq δ] in
theorem forall_mem_replies {a : Session.Input} {c : Session} {ws : List Write} {view : Database}
    {after : Nat} (hnext : Session.Next zone s.db view after (s.sessions i) a c ws)
    {P : Reply → Prop} (hold : ∀ j, ∀ reply ∈ (s.sessions j).replies, P reply)
    (hnew : ∀ request order, P ⟨request, s.db, order⟩)
    : ∀ j, ∀ reply ∈ (Function.update s.sessions i c j).replies, P reply := by
  apply (Function.forall_update_iff s.sessions fun _ c => ∀ reply ∈ c.replies, P reply).2
  refine ⟨?_, fun j _ => hold j⟩
  intro reply hreply
  rcases hnext.of_mem_replies hreply with hreply | ⟨k, order, request, -, -, rfl⟩
  . exact hold i reply hreply
  . exact hnew request order

end Step

section Outbox

variable [DecidableEq δ]

theorem mem_outbox_append {outbox : δ → List Write} {ws : List Write} {d' : δ} {w : Write}
    : w ∈ Function.update outbox d (outbox d ++ ws) d' ↔ w ∈ outbox d' ∨ (d' = d ∧ w ∈ ws) := by
  by_cases hd : d' = d
  . subst hd
    simp
  . simp [hd]

theorem pairwise_outbox_append {outbox : δ → List Write} {ws : List Write}
    {R : Write → Write → Prop} (h : ∀ d, (outbox d).Pairwise R) (hws : ws.Pairwise R)
    (hcross : ∀ w ∈ outbox d, ∀ w' ∈ ws, R w w') (d' : δ)
    : (Function.update outbox d (outbox d ++ ws) d').Pairwise R := by
  by_cases hd : d' = d
  . subst hd
    rw [Function.update_self, List.pairwise_append]
    exact ⟨h d', hws, hcross⟩
  . rw [Function.update_of_ne hd]
    exact h d'

theorem mem_outbox_tail {outbox : δ → List Write} {write : Write} {writes : List Write} {d' : δ}
    {w : Write} (hout : outbox d = write :: writes) (hw : w ∈ Function.update outbox d writes d')
    : w ∈ outbox d' := by
  by_cases hd : d' = d
  . subst hd
    rw [Function.update_self] at hw
    rw [hout]
    exact List.mem_cons_of_mem _ hw
  . rwa [Function.update_of_ne hd] at hw

end Outbox

/-! # What is going to hold -/

/-- `F` holds of the database, or `P` is true of one of the device's first `n` writes. -/
def Due (s : Lobby ι δ) (d : δ) (n : Nat) (P : Write → Prop) (F : Database → Prop) : Prop :=
  F s.db ∨ ∃ w ∈ (s.outbox d).take (n - s.processed d), P w

section Due

variable {n n' : Nat} {P : Write → Prop} {F : Database → Prop}

theorem Due.le (h : s.Due d n P F) (hle : n ≤ n') : s.Due d n' P F := by
  rcases h with h | ⟨w, hw, hP⟩
  . exact .inl h
  . exact .inr ⟨w, (List.take_subset_take_left _ (by omega)) hw, hP⟩

theorem Due.now (h : s.Due d n P F) (hle : n ≤ s.processed d) : F s.db := by
  rcases h with h | ⟨w, hw, -⟩
  . exact h
  . have : n - s.processed d = 0 := by omega
    simp [this] at hw

variable [DecidableEq δ]

theorem Due.send (h : s.Due d n P F)
    {sessions : ι → Session} {d' : δ} {ws : List Write} {numbering : Int → Option (List String)}
    : Due { s with
        sessions := sessions
        outbox := Function.update s.outbox d' (s.outbox d' ++ ws)
        numbering := numbering } d n P F := by
  rcases h with h | ⟨w, hw, hP⟩
  . exact .inl h
  . refine .inr ⟨w, ?_, hP⟩
    dsimp only
    by_cases hd : d = d'
    . subst hd
      rw [Function.update_self, List.take_append]
      exact List.mem_append_left _ hw
    . rwa [Function.update_of_ne hd]

theorem sent_le_send {sessions : ι → Session} {d' : δ} {ws : List Write}
    {numbering : Int → Option (List String)} (j : ι)
    : s.sent device j ≤ sent device { s with
        sessions := sessions
        outbox := Function.update s.outbox d' (s.outbox d' ++ ws)
        numbering := numbering } j := by
  unfold sent
  dsimp only
  by_cases hd : device j = d'
  . subst hd
    rw [Function.update_self]
    simp
  . rw [Function.update_of_ne hd]

theorem Due.process (h : s.Due d n P F) {d' : δ}
    {write : Write} {writes : List Write} (hout : s.outbox d' = write :: writes)
    (hF : F s.db → F (write.apply s.db)) (hP : d = d' → P write → F (write.apply s.db))
    : Due { s with
        db := write.apply s.db
        outbox := Function.update s.outbox d' writes
        processed := Function.update s.processed d' (s.processed d' + 1) } d n P F := by
  rcases h with h | ⟨w, hw, hPw⟩
  . exact .inl (hF h)
  . by_cases hd : d = d'
    . subst hd
      rw [hout] at hw
      cases hk : n - s.processed d with
      | zero => simp [hk] at hw
      | succ k =>
        rw [hk, List.take_succ_cons, List.mem_cons] at hw
        rcases hw with rfl | hw
        . exact .inl (hP rfl hPw)
        . refine .inr ⟨w, ?_, hPw⟩
          have : n - (s.processed d + 1) = k := by omega
          dsimp only
          rwa [Function.update_self, Function.update_self, this]
    . refine .inr ⟨w, ?_, hPw⟩
      dsimp only
      rwa [Function.update_of_ne hd, Function.update_of_ne hd]

theorem sent_le_process {d' : δ} {write : Write} {writes : List Write} {db : Database}
    (hout : s.outbox d' = write :: writes) (j : ι)
    : s.sent device j ≤ sent device { s with
        db := db
        outbox := Function.update s.outbox d' writes
        processed := Function.update s.processed d' (s.processed d' + 1) } j := by
  unfold sent
  dsimp only
  by_cases hd : device j = d'
  . subst hd
    rw [Function.update_self, Function.update_self, hout, List.length_cons]
    omega
  . rw [Function.update_of_ne hd, Function.update_of_ne hd]

end Due

end Lobby

end SCatCh
