import SCatCh.System.LobbyInvariant

/-!
This module contains the waiting room of one client to which the reply with the game settings, the
events of the players and those of the number of the round are delivered in any order, and the proof
of when the order makes no difference.
-/

namespace SCatCh

/-- What is delivered to a client who is in the waiting room of a game with an entry of its own. -/
structure Delivery where
  zone : TimeZone
  tap : Tap
  -- How many writes the device has sent.
  after : Nat
  snapshot : Database
  gameSettings : GameSettings
  nodes : List Database
  -- The order in which the dictionary of an event is gone through, if `k` events come after it.
  orders (k : Nat) : IterationOrder
  values : List Int
  db : Database
  settings_eq : StorageControllerWaitingRoom.getGameSettings snapshot tap.code = some gameSettings
  nodes_readable (node : Database) (hnode : node ∈ nodes) (key : String) (hkey : key ∈ node.keys)
    : (StorageController.buildWaitingPlayer zone key (node.get [key])).isSome = true
  entries_readable (key : String) (hkey : (entry db tap.code key).leaves ≠ [])
    : (∃ id : UUID, key = id.uuidString) ∧ (asDictionary (entry db tap.code key)).isSome = true
  entry_ne_nil : (entry db tap.code tap.player.id.uuidString).leaves ≠ []
  not_gameExists_zero : ¬GameExists db 0

namespace Delivery

/-- The deliveries, and the answers to the requests that follow from them. -/
inductive Event where
  | answer (k : Nat) (order : IterationOrder)
  | handle (k : Nat)
  | players
  | roundNum

variable (d : Delivery)

def reply : Reply where
  request := ⟨.gameSettings, d.tap.code, d.after⟩
  snapshot := d.snapshot
  order := .listed

def start : Session where
  tap := some d.tap
  phase := .closed
  room := some (StateControllerWaitingRoom.init d.tap.code d.tap.player d.tap.isHost).1
  replies := [d.reply]
  players := { active := true, queue := d.nodes }
  roundNum := { active := true, queue := d.values }

def input (c : Session) : Event → Session.Input
  | .answer k order => .answer k order
  | .handle k => .handle k
  | .players => .deliverPlayers (d.orders (c.players.queue.length - 1))
  | .roundNum => .deliverRoundNum

def step (c : Session) (e : Event) : Option Session :=
  (c.step d.zone d.db d.db d.after (d.input c e)).map Prod.fst

def system : TransitionSystem Session Event where
  init := fun c => c = d.start
  step := d.step

/-- All has been delivered, and all replies that were requested have been handled. -/
def Done (c : Session) : Prop :=
  c.requests = [] ∧ c.replies = [] ∧ c.players.queue = [] ∧ c.roundNum.queue = []

instance (c : Session) : Decidable (Done c) := inferInstanceAs (Decidable (_ ∧ _ ∧ _ ∧ _))

/-- The number of a round is delivered to a client that knows the settings of its game. -/
def Notices (c : Session) : Event → Prop
  | .roundNum =>
    (∃ room ∈ c.room, room.gameSettings.isSome = true) ∧ ∃ v ∈ c.roundNum.queue.head?, 0 < v
  | _ => False

def player : Player :=
  let playerValues := entry d.db d.tap.code d.tap.player.id.uuidString
  { id := d.tap.player.id
    nickname := toText (playerValues.get [PlayerKeys.nickname.rawValue])
    number := toInt (playerValues.get [PlayerKeys.number.rawValue]) }

def numOfPlayers : Nat := (d.db.get (playersPath d.tap.code)).keys.length

def sheet : StateControllerSheet :=
  (StateControllerSheet.init d.gameSettings d.player d.numOfPlayers d.tap.isHost).1

/-! # The database -/

theorem code_ne_zero : d.tap.code ≠ 0 := by
  intro hcode
  have hgame := gameExists_of_entry d.entry_ne_nil
  rw [hcode] at hgame
  exact d.not_gameExists_zero hgame

theorem gameSettings_code : d.gameSettings.code = d.tap.code :=
  (getGameSettings_code d.settings_eq).1

theorem getPlayers_zero (o : IterationOrder)
    : StorageControllerWaitingRoom.getPlayers o d.db 0 = some none := by
  have hkeys : (d.db.get (playersPath 0)).keys = [] := by
    rw [List.eq_nil_iff_forall_not_mem]
    intro key hkey
    exact d.not_gameExists_zero (gameExists_of_entry (mem_keys_players.1 hkey))
  unfold StorageControllerWaitingRoom.getPlayers
  dsimp only
  rw [asDictionary_of_keys_eq_nil hkeys]

theorem getPlayers_code (o : IterationOrder)
    : ∃ players, StorageControllerWaitingRoom.getPlayers o d.db d.tap.code = some (some players)
        ∧ players.length = d.numOfPlayers
        ∧ (players.filter fun p => p.id = d.tap.player.id).head? = some d.player := by
  have hkeys : ∀ key ∈ (d.db.get (playersPath d.tap.code)).keys, (∃ id : UUID, key = id.uuidString)
      ∧ (asDictionary ((d.db.get (playersPath d.tap.code)).get [key])).isSome = true := by
    intro key hkey
    rw [get_players]
    exact d.entries_readable key (mem_keys_players.1 hkey)
  have hown := mem_keys_players.2 d.entry_ne_nil
  have hbuild : ∀ key ∈ (d.db.get (playersPath d.tap.code)).keys,
      (StorageController.buildPlayer key
        ((d.db.get (playersPath d.tap.code)).get [key])).isSome = true := by
    intro key hkey
    obtain ⟨⟨id, rfl⟩, -⟩ := hkeys key hkey
    rw [buildPlayer_uuidString]
    rfl
  obtain ⟨players, hplayers⟩ := Option.isSome_iff_exists.1 (isSome_buildPlayersArray (o := o) hbuild)
  refine ⟨players, ?_, length_buildPlayersArray hplayers fun key hkey => (hkeys key hkey).2, ?_⟩
  . unfold StorageControllerWaitingRoom.getPlayers
    dsimp only
    rw [asDictionary_of_mem_keys hown, hplayers]
    rfl
  . -- Whoever has the identifier of the client is the client.
    have heq : ∀ p ∈ players, p.id = d.tap.player.id → p = d.player := by
      intro p hp hid
      obtain ⟨key, hkey, -, hp⟩ := (mem_buildPlayersArray hplayers).1 hp
      obtain ⟨⟨id, rfl⟩, -⟩ := hkeys key hkey
      rw [buildPlayer_uuidString, Option.some.injEq, get_players] at hp
      subst hp
      cases hid
      rfl
    have hmem : d.player ∈ players := by
      rw [mem_buildPlayersArray hplayers]
      refine ⟨_, hown, (hkeys _ hown).2, ?_⟩
      rw [buildPlayer_uuidString, get_players]
      rfl
    obtain ⟨p, ps, hps⟩ := List.exists_cons_of_ne_nil
      (List.ne_nil_of_mem (List.mem_filter.2 ⟨hmem, decide_eq_true rfl⟩)
        : players.filter (fun p => p.id = d.tap.player.id) ≠ [])
    have hp : p ∈ players.filter fun p => p.id = d.tap.player.id := by simp [hps]
    rw [List.mem_filter, decide_eq_true_eq] at hp
    rw [hps, List.head?_cons, heq p hp.1 hp.2]

/-! # Steps -/

def shown (o : IterationOrder) (players : List WaitingPlayer) (node : Database) : List WaitingPlayer :=
  match StorageControllerWaitingRoom.observePlayers o d.zone node with
  | some (some ps) => ps.insertionSort fun p q => p.joinDate.nanoseconds ≤ q.joinDate.nanoseconds
  | _ => players

def finallyShown : List WaitingPlayer → List Database → List WaitingPlayer
  | players, [] => players
  | players, node :: nodes => finallyShown (d.shown (d.orders nodes.length) players node) nodes

def room (gameSettings : Option GameSettings) (players : List WaitingPlayer)
    : StateControllerWaitingRoom where
  gameSettings := gameSettings
  players := players
  player := d.tap.player
  isHost := d.tap.isHost

variable {d}
variable {c c' : Session} {gameSettings : Option GameSettings} {players : List WaitingPlayer}

theorem step_answer {k : Nat} {order : IterationOrder} (h : d.step c (.answer k order) = some c')
    : ∃ request, c.requests[k]? = some request ∧ c' = { c with
        requests := c.requests.eraseIdx k
        replies := c.replies ++ [⟨request, d.db, order⟩] } := by
  unfold step at h
  rw [Option.map_eq_some_iff] at h
  obtain ⟨⟨_, ws⟩, h, rfl⟩ := h
  simp only [input, Session.step] at h
  split at h
  . next request hrequest =>
    simp only [Option.some.injEq, Prod.mk.injEq] at h
    exact ⟨request, hrequest, h.1.symm⟩
  . contradiction

theorem step_players (hroom : c.room = some (d.room gameSettings players))
    (hnodes : ∀ node ∈ c.players.queue, node ∈ d.nodes) (h : d.step c .players = some c')
    : ∃ node queue, c.players.queue = node :: queue ∧ c' = { c with
        players := { c.players with queue := queue }
        room := some (d.room gameSettings (d.shown (d.orders queue.length) players node)) } := by
  unfold step at h
  rw [Option.map_eq_some_iff] at h
  obtain ⟨⟨_, ws⟩, h, rfl⟩ := h
  simp only [input, Session.step] at h
  split at h
  . next room node observer heq hdeliver =>
    rw [hroom, Option.some.injEq] at heq
    subst heq
    obtain ⟨queue, hqueue, rfl⟩ := Observer.deliver_eq_some.1 hdeliver
    refine ⟨node, queue, hqueue, ?_⟩
    have hlength : c.players.queue.length - 1 = queue.length := by simp [hqueue]
    rw [hlength] at h
    unfold shown
    split at h
    . next ps hps =>
      simp only [Option.some.injEq, Prod.mk.injEq] at h
      rw [hps]
      exact h.1.symm
    . next hps =>
      simp only [Option.some.injEq, Prod.mk.injEq] at h
      rw [hps, ← hroom]
      exact h.1.symm
    . next hps =>
      -- The entries of an event can all be read.
      have hsome := WellFormed.isSome_observePlayers (o := d.orders queue.length)
        (d.nodes_readable node (hnodes node (by simp [hqueue])))
      simp [hps] at hsome
  . contradiction

theorem step_roundNum (hroom : c.room = some (d.room gameSettings players))
    (h : d.step c .roundNum = some c')
    : ∃ v queue, c.roundNum.queue = v :: queue
        ∧
      ((v ≤ 0 ∧ c' = { c with roundNum := { c.roundNum with queue := queue } })
          ∨
        (0 < v ∧ c' = { { c with roundNum := { c.roundNum with queue := queue } }.stopObserving
            (d.room gameSettings players).getGameCode with
          requests := c.requests
            ++ [⟨.players, (d.room gameSettings players).getGameCode, d.after⟩] })) := by
  unfold step at h
  rw [Option.map_eq_some_iff] at h
  obtain ⟨⟨_, ws⟩, h, rfl⟩ := h
  simp only [input, Session.step] at h
  split at h
  . next room v observer heq hdeliver =>
    rw [hroom, Option.some.injEq] at heq
    subst heq
    obtain ⟨queue, hqueue, rfl⟩ := Observer.deliver_eq_some.1 hdeliver
    simp only [Option.some.injEq, Prod.mk.injEq] at h
    refine ⟨v, queue, hqueue, ?_⟩
    rw [← h.1]
    by_cases hv : 0 < v
    . refine .inr ⟨hv, ?_⟩
      exact Session.update_checkRoundNum (c := { c with roundNum := { c.roundNum with queue := queue } })
        hroom hv
    . refine .inl ⟨by omega, ?_⟩
      unfold StateControllerWaitingRoom.checkRoundNum
      rw [if_neg hv, Session.update_self (c := { c with roundNum := { c.roundNum with queue := queue } })
        hroom]
      rfl
  . contradiction

theorem step_handle {k : Nat} (hroom : c.room = some (d.room gameSettings players))
    (h : d.step c (.handle k) = some c')
    : ∃ reply, c.replies[k]? = some reply
        ∧ c' = ({ c with replies := c.replies.eraseIdx k }.handleReply d.after
          (d.room gameSettings players) reply).1 := by
  unfold step at h
  rw [Option.map_eq_some_iff] at h
  obtain ⟨⟨_, ws⟩, h, rfl⟩ := h
  simp only [input, Session.step] at h
  split at h
  . next room reply heq hreply =>
    rw [hroom, Option.some.injEq] at heq
    rw [Option.some.injEq] at h
    subst heq
    exact ⟨reply, hreply, by rw [h]⟩
  . contradiction

theorem handleReply_settings
    : (c.handleReply d.after (d.room gameSettings players) d.reply).1
        =
      { c with room := some (d.room (some d.gameSettings) players) } := by
  unfold Session.handleReply
  simp only [reply, d.settings_eq]
  rfl

theorem handleReply_zero {reply : Reply} (hread : reply.request.read = .players)
    (hcode : reply.request.code = 0) (hdb : reply.snapshot = d.db)
    : (c.handleReply d.after (d.room gameSettings players) reply).1 = c := by
  unfold Session.handleReply
  simp only [hread, hcode, hdb, d.getPlayers_zero]

theorem handleReply_code {reply : Reply} (hroom : c.room = some (d.room (some d.gameSettings) players))
    (hread : reply.request.read = .players) (hcode : reply.request.code = d.tap.code)
    (hdb : reply.snapshot = d.db)
    : (c.handleReply d.after (d.room (some d.gameSettings) players) reply).1
        =
      { c with sheet := some d.sheet } := by
  obtain ⟨ps, hps, hlength, hhead⟩ := d.getPlayers_code reply.order
  have hresult : (d.room (some d.gameSettings) players).handlePlayers ps
      = some (d.room (some d.gameSettings) players,
        [.moveToStateSheet d.gameSettings d.player d.numOfPlayers d.tap.isHost]) := by
    have hown : (ps.filter fun p => p.id = (d.room (some d.gameSettings) players).player.id).head?
        = some d.player := hhead
    unfold StateControllerWaitingRoom.handlePlayers
    rw [hown, hlength]
    rfl
  unfold Session.handleReply
  simp only [hread, hcode, hdb, hps, hresult]
  rw [Session.update_self hroom]
  rfl

/-! # Runs -/

def Informed (c : Session) : Prop := c.roundNum.active = false

def Asks (d : Delivery) (c : Session) (request : Request) : Prop :=
  request.read = .players ∧ (request.code = 0 ∨ (request.code = d.tap.code ∧ Informed c))

def Asked (d : Delivery) (c : Session) : Prop :=
  (∃ request ∈ c.requests, request.code = d.tap.code)
    ∨
  ∃ reply ∈ c.replies, reply.request.read = .players ∧ reply.request.code = d.tap.code

structure Inv (d : Delivery) (c : Session) : Prop where
  frame : c = { d.start with
    room := c.room
    requests := c.requests
    replies := c.replies
    players := ⟨c.roundNum.active, none, c.players.queue⟩
    roundNum := ⟨c.roundNum.active, none, c.roundNum.queue⟩
    sheet := c.sheet }
  room : ∃ gameSettings players, c.room = some (d.room gameSettings players)
    ∧ d.finallyShown players c.players.queue = d.finallyShown [] d.nodes
    ∧ (gameSettings = some d.gameSettings ∨ (gameSettings = none ∧ d.reply ∈ c.replies ∧ ¬Informed c))
  nodes : ∀ node ∈ c.players.queue, node ∈ d.nodes
  values : (∃ v ∈ c.roundNum.queue, 0 < v) → ∃ v ∈ d.values, 0 < v
  informed : Informed c → ∃ v ∈ d.values, 0 < v
  requests : ∀ request ∈ c.requests, d.Asks c request
  replies : ∀ reply ∈ c.replies,
    reply = d.reply ∨ (d.Asks c reply.request ∧ reply.snapshot = d.db)
  sheet : c.sheet = none ∨ (c.sheet = some d.sheet ∧ Informed c)
  asked : Informed c → c.sheet = some d.sheet ∨ d.Asked c

theorem Inv.start (d : Delivery) : Inv d d.start where
  frame := rfl
  room := ⟨none, [], rfl, rfl, .inr ⟨rfl, List.mem_singleton_self _, by simp [Informed, Delivery.start]⟩⟩
  nodes := fun _ h => h
  values := fun h => h
  informed := by simp [Informed, Delivery.start]
  requests := by simp [Delivery.start]
  replies := by simp [Delivery.start]
  sheet := .inl rfl
  asked := by simp [Informed, Delivery.start]

theorem Inv.code_eq (h : Inv d c) : c.code = d.tap.code := by
  rw [h.frame]
  rfl

theorem Inv.step_answer {k : Nat} {order : IterationOrder} (h : Inv d c)
    (hstep : d.step c (.answer k order) = some c')
    : Inv d c' := by
  obtain ⟨request, hrequest, rfl⟩ := Delivery.step_answer hstep
  have hasks := h.requests request (List.mem_of_getElem? hrequest)
  obtain ⟨gameSettings, players, hroom, hshown, hsettings⟩ := h.room
  refine ⟨?_, ⟨gameSettings, players, hroom, hshown, ?_⟩, h.nodes, h.values, h.informed, ?_, ?_, h.sheet, ?_⟩
  . conv_lhs => rw [h.frame]
  . rcases hsettings with hsettings | ⟨hnone, hreply, hinformed⟩
    . exact .inl hsettings
    . exact .inr ⟨hnone, List.mem_append_left _ hreply, hinformed⟩
  . intro request' hrequest'
    exact h.requests request' (List.mem_of_mem_eraseIdx hrequest')
  . intro reply hreply
    rcases List.mem_append.1 hreply with hreply | hreply
    . exact h.replies reply hreply
    . rw [List.mem_singleton] at hreply
      subst hreply
      exact .inr ⟨hasks, rfl⟩
  . intro hinformed
    rcases h.asked hinformed with hsheet | ⟨request', hrequest', hcode⟩ | ⟨reply, hreply, hread⟩
    . exact .inl hsheet
    . -- Either the request is still there or it is the one that has been answered.
      rcases List.eq_or_mem_eraseIdx hrequest hrequest' with rfl | hmem
      . exact .inr (.inr ⟨_, List.mem_append_right _ (List.mem_singleton_self _), hasks.1, hcode⟩)
      . exact .inr (.inl ⟨request', hmem, hcode⟩)
    . exact .inr (.inr ⟨reply, List.mem_append_left _ hreply, hread⟩)

theorem Inv.step_players (h : Inv d c) (hstep : d.step c .players = some c') : Inv d c' := by
  obtain ⟨gameSettings, players, hroom, hshown, hsettings⟩ := h.room
  obtain ⟨node, queue, hqueue, rfl⟩ := Delivery.step_players hroom h.nodes hstep
  rw [hqueue] at hshown
  refine ⟨?_, ⟨gameSettings, _, rfl, hshown, hsettings⟩, ?_, h.values, h.informed, h.requests, h.replies,
    h.sheet, h.asked⟩
  . conv_lhs => rw [h.frame]
  . intro node' hnode'
    apply h.nodes
    rw [hqueue]
    exact List.mem_cons_of_mem _ hnode'

theorem Inv.step_roundNum_none (h : Inv d c) {v : Int} {queue : List Int}
    (hqueue : c.roundNum.queue = v :: queue) (request : Request) (hread : request.read = .players)
    (hcode : request.code = 0)
    : Inv d { c with
        roundNum := { c.roundNum with queue := queue }
        requests := c.requests ++ [request] } := by
  refine ⟨?_, h.room, h.nodes, ?_, h.informed, ?_, h.replies, h.sheet, ?_⟩
  . conv_lhs => rw [h.frame]
  . rintro ⟨w, hw, hpos⟩
    exact h.values ⟨w, by simp [hqueue, show w ∈ queue from hw], hpos⟩
  . intro request' hrequest'
    rcases List.mem_append.1 hrequest' with hrequest' | hrequest'
    . exact h.requests request' hrequest'
    . rw [List.mem_singleton] at hrequest'
      subst hrequest'
      exact ⟨hread, .inl hcode⟩
  . intro hinformed
    rcases h.asked hinformed with hsheet | ⟨request', hrequest', hcode⟩ | hreply
    . exact .inl hsheet
    . exact .inr (.inl ⟨request', List.mem_append_left _ hrequest', hcode⟩)
    . exact .inr (.inr hreply)

theorem Inv.step_roundNum_some (h : Inv d c) {v : Int} {queue : List Int}
    (hqueue : c.roundNum.queue = v :: queue) (hv : 0 < v) (request : Request)
    (hread : request.read = .players) (hcode : request.code = d.tap.code)
    (hroom : c.room = some (d.room (some d.gameSettings) players))
    (hshown : d.finallyShown players c.players.queue = d.finallyShown [] d.nodes)
    : Inv d { c with
        players := c.players.stop
        roundNum := { c.roundNum.stop with queue := queue }
        requests := c.requests ++ [request] } := by
  have hasks : ∀ request', d.Asks c request' → d.Asks { c with
        players := c.players.stop
        roundNum := { c.roundNum.stop with queue := queue }
        requests := c.requests ++ [request] } request' := by
    rintro request' ⟨hread, hcode | ⟨hcode, -⟩⟩
    . exact ⟨hread, .inl hcode⟩
    . exact ⟨hread, .inr ⟨hcode, rfl⟩⟩
  refine ⟨?_, ⟨_, players, hroom, hshown, .inl rfl⟩, h.nodes, ?_, ?_, ?_, ?_, ?_, ?_⟩
  . conv_lhs => rw [h.frame]
    rfl
  . rintro ⟨w, hw, hpos⟩
    exact h.values ⟨w, by simp [hqueue, show w ∈ queue from hw], hpos⟩
  . intro _
    exact h.values ⟨v, by simp [hqueue], hv⟩
  . intro request' hrequest'
    rcases List.mem_append.1 hrequest' with hrequest' | hrequest'
    . exact hasks request' (h.requests request' hrequest')
    . rw [List.mem_singleton] at hrequest'
      subst hrequest'
      exact ⟨hread, .inr ⟨hcode, rfl⟩⟩
  . intro reply hreply
    rcases h.replies reply hreply with rfl | ⟨hasks', hdb⟩
    . exact .inl rfl
    . exact .inr ⟨hasks _ hasks', hdb⟩
  . rcases h.sheet with hsheet | ⟨hsheet, -⟩
    . exact .inl hsheet
    . exact .inr ⟨hsheet, rfl⟩
  . intro _
    exact .inr (.inl ⟨request, List.mem_append_right _ (List.mem_singleton_self _), hcode⟩)

theorem roundNum_cases (h : Inv d c) (hstep : d.step c .roundNum = some c')
    : ∃ gameSettings players v queue, c.room = some (d.room gameSettings players)
        ∧ d.finallyShown players c.players.queue = d.finallyShown [] d.nodes
        ∧ c.roundNum.queue = v :: queue
        ∧
      ((v ≤ 0 ∧ c' = { c with roundNum := { c.roundNum with queue := queue } })
        ∨
      (0 < v ∧ gameSettings = none ∧ c' = { c with
        roundNum := { c.roundNum with queue := queue }
        requests := c.requests ++ [⟨.players, 0, d.after⟩] })
        ∨
      (0 < v ∧ gameSettings = some d.gameSettings ∧ c' = { c with
        players := c.players.stop
        roundNum := { c.roundNum.stop with queue := queue }
        requests := c.requests ++ [⟨.players, d.tap.code, d.after⟩] })) := by
  obtain ⟨gameSettings, players, hroom, hshown, hsettings⟩ := h.room
  obtain ⟨v, queue, hqueue, hcases⟩ := step_roundNum hroom hstep
  refine ⟨gameSettings, players, v, queue, hroom, hshown, hqueue, ?_⟩
  rcases hcases with hcases | ⟨hv, rfl⟩
  . exact .inl hcases
  . -- Without the settings the observers that are stopped are those of another game.
    rcases hsettings with rfl | ⟨rfl, -⟩
    . refine .inr (.inr ⟨hv, rfl, ?_⟩)
      have hcode : (d.room (some d.gameSettings) players).getGameCode = d.tap.code := d.gameSettings_code
      have hown : d.tap.code
          = Session.code { c with roundNum := { c.roundNum with queue := queue } } := h.code_eq.symm
      unfold Session.stopObserving
      rw [hcode, if_pos hown, if_pos hown]
      rfl
    . refine .inr (.inl ⟨hv, rfl, ?_⟩)
      have hcode : (d.room none players).getGameCode = 0 := rfl
      have hother : 0 ≠ Session.code { c with roundNum := { c.roundNum with queue := queue } } := by
        intro hzero
        exact d.code_ne_zero (h.code_eq.symm.trans hzero.symm)
      unfold Session.stopObserving
      rw [hcode, if_neg hother, if_neg hother]

theorem Inv.step_roundNum (h : Inv d c) (hstep : d.step c .roundNum = some c') : Inv d c' := by
  obtain ⟨gameSettings, players, v, queue, hroom, hshown, hqueue, ⟨-, rfl⟩ | ⟨-, -, rfl⟩ | ⟨hv, rfl, rfl⟩⟩ :=
    roundNum_cases h hstep
  . refine ⟨?_, h.room, h.nodes, ?_, h.informed, h.requests, h.replies, h.sheet, h.asked⟩
    . conv_lhs => rw [h.frame]
    . rintro ⟨w, hw, hpos⟩
      exact h.values ⟨w, by simp [hqueue, show w ∈ queue from hw], hpos⟩
  . exact h.step_roundNum_none hqueue _ rfl rfl
  . exact h.step_roundNum_some hqueue hv _ rfl rfl hroom hshown

theorem handle_cases {k : Nat} (h : Inv d c) (hstep : d.step c (.handle k) = some c')
    : ∃ gameSettings players reply, c.room = some (d.room gameSettings players)
        ∧ d.finallyShown players c.players.queue = d.finallyShown [] d.nodes
        ∧ c.replies[k]? = some reply
        ∧
      ((reply = d.reply ∧ c' = { c with
        replies := c.replies.eraseIdx k
        room := some (d.room (some d.gameSettings) players) })
        ∨
      (reply ≠ d.reply ∧ reply.request.code = 0 ∧ c' = { c with replies := c.replies.eraseIdx k })
        ∨
      (gameSettings = some d.gameSettings ∧ Informed c ∧ c' = { c with
        replies := c.replies.eraseIdx k
        sheet := some d.sheet })) := by
  obtain ⟨gameSettings, players, hroom, hshown, hsettings⟩ := h.room
  obtain ⟨reply, hreply, rfl⟩ := step_handle hroom hstep
  refine ⟨gameSettings, players, reply, hroom, hshown, hreply, ?_⟩
  rcases h.replies reply (List.mem_of_getElem? hreply) with rfl | ⟨⟨hread, hcode⟩, hdb⟩
  . exact .inl ⟨rfl, handleReply_settings⟩
  . rcases hcode with hcode | ⟨hcode, hinformed⟩
    . refine .inr (.inl ⟨?_, hcode, handleReply_zero hread hcode hdb⟩)
      rintro rfl
      contradiction
    . rcases hsettings with rfl | ⟨-, -, hnot⟩
      . exact .inr (.inr ⟨rfl, hinformed,
          handleReply_code (c := { c with replies := c.replies.eraseIdx k }) hroom hread hcode hdb⟩)
      . exact absurd hinformed hnot

theorem Inv.step_handle {k : Nat} (h : Inv d c) (hstep : d.step c (.handle k) = some c') : Inv d c' := by
  have hreplies : ∀ reply' ∈ c.replies.eraseIdx k,
      reply' = d.reply ∨ (d.Asks c reply'.request ∧ reply'.snapshot = d.db) :=
    fun reply' hreply' => h.replies reply' (List.mem_of_mem_eraseIdx hreply')
  -- What is waited for is still there unless it is the reply that is handled now.
  have hasked : ∀ reply, c.replies[k]? = some reply → Informed c →
      (reply.request.read = .players → reply.request.code = 0) →
      c.sheet = some d.sheet ∨ d.Asked { c with replies := c.replies.eraseIdx k } := by
    intro reply hreply hinformed hzero
    rcases h.asked hinformed with hsheet | hrequest | ⟨reply', hreply', hread, hcode⟩
    . exact .inl hsheet
    . exact .inr (.inl hrequest)
    . rcases List.eq_or_mem_eraseIdx hreply hreply' with rfl | hmem
      . exact absurd (hcode.symm.trans (hzero hread)) d.code_ne_zero
      . exact .inr (.inr ⟨reply', hmem, hread, hcode⟩)
  obtain ⟨gameSettings, players, reply, hroom, hshown, hreply, hcases⟩ := handle_cases h hstep
  rcases hcases with ⟨rfl, rfl⟩ | ⟨hne, hcode, rfl⟩ | ⟨rfl, hinformed, rfl⟩
  . refine ⟨?_, ⟨_, players, rfl, hshown, .inl rfl⟩, h.nodes, h.values, h.informed, h.requests, hreplies,
      h.sheet, fun hinformed => hasked _ hreply hinformed fun hread => by contradiction⟩
    conv_lhs => rw [h.frame]
  . obtain ⟨gameSettings, players, hroom, hshown, hsettings⟩ := h.room
    refine ⟨?_, ⟨gameSettings, players, hroom, hshown, ?_⟩, h.nodes, h.values, h.informed, h.requests,
      hreplies, h.sheet, fun hinformed => hasked _ hreply hinformed fun _ => hcode⟩
    . conv_lhs => rw [h.frame]
    . rcases hsettings with hsettings | ⟨hnone, hmem, hinformed⟩
      . exact .inl hsettings
      . rcases List.eq_or_mem_eraseIdx hreply hmem with heq | hmem
        . exact absurd heq.symm hne
        . exact .inr ⟨hnone, hmem, hinformed⟩
  . refine ⟨?_, ⟨_, players, hroom, hshown, .inl rfl⟩, h.nodes, h.values, h.informed, h.requests,
      hreplies, .inr ⟨rfl, hinformed⟩, fun _ => .inl rfl⟩
    conv_lhs => rw [h.frame]

theorem Inv.step {e : Event} (h : Inv d c) (hstep : d.step c e = some c') : Inv d c' := by
  cases e with
  | answer k order => exact h.step_answer hstep
  | handle k => exact h.step_handle hstep
  | players => exact h.step_players hstep
  | roundNum => exact h.step_roundNum hstep

theorem Inv.informed_step {e : Event} (h : Inv d c) (hstep : d.step c e = some c')
    : Informed c' ↔ Informed c ∨ Notices c e := by
  obtain ⟨gameSettings, players, hroom, -⟩ := h.room
  cases e with
  | answer k order =>
    obtain ⟨request, -, rfl⟩ := Delivery.step_answer hstep
    simp [Informed, Notices]
  | handle k =>
    obtain ⟨_, _, _, -, -, -, ⟨-, rfl⟩ | ⟨-, -, rfl⟩ | ⟨-, -, rfl⟩⟩ := handle_cases h hstep
    all_goals simp [Informed, Notices]
  | players =>
    obtain ⟨node, queue, -, rfl⟩ := Delivery.step_players hroom h.nodes hstep
    simp [Informed, Notices]
  | roundNum =>
    obtain ⟨gameSettings, players, v, queue, hroom, -, hqueue, hcases⟩ := roundNum_cases h hstep
    rcases hcases with ⟨hv, rfl⟩ | ⟨hv, rfl, rfl⟩ | ⟨hv, rfl, rfl⟩
    . simp [Informed, Notices, hqueue, hv]
    . simp [Informed, Notices, hroom, Delivery.room]
    . simp [Informed, Notices, hroom, hqueue, Delivery.room, hv]

theorem Inv.eq_of_done (h : Inv d c) (hdone : Done c)
    : c = { d.start with
        room := some (d.room (some d.gameSettings) (d.finallyShown [] d.nodes))
        requests := []
        replies := []
        players := ⟨c.roundNum.active, none, []⟩
        roundNum := ⟨c.roundNum.active, none, []⟩
        sheet := if c.roundNum.active = true then none else some d.sheet } := by
  obtain ⟨hrequests, hreplies, hnodes, hvalues⟩ := hdone
  have hroom : c.room = some (d.room (some d.gameSettings) (d.finallyShown [] d.nodes)) := by
    obtain ⟨gameSettings, players, hroom, hshown, rfl | ⟨-, hreply, -⟩⟩ := h.room
    . rw [hnodes] at hshown
      rw [hroom, ← hshown]
      rfl
    . rw [hreplies] at hreply
      contradiction
  have hsheet : c.sheet = if c.roundNum.active = true then none else some d.sheet := by
    split
    . next hactive =>
      rcases h.sheet with hsheet | ⟨-, hinformed⟩
      . exact hsheet
      . rw [Informed, hactive] at hinformed
        contradiction
    . next hactive =>
      rcases h.asked (Bool.eq_false_of_not_eq_true hactive) with hsheet | ⟨_, hmem, -⟩ | ⟨_, hmem, -⟩
      . exact hsheet
      . rw [hrequests] at hmem
        contradiction
      . rw [hreplies] at hmem
        contradiction
  conv_lhs => rw [h.frame]
  rw [hrequests, hreplies, hnodes, hvalues, hroom, hsheet]

theorem Inv.of_run {hist : List (Session × Event)} (hrun : d.system.Run (fun _ _ => True) hist c)
    : Inv d c ∧ (Informed c ↔ ∃ x ∈ hist, Notices x.1 x.2) := by
  apply hrun.induct (I := fun hist c => Inv d c ∧ (Informed c ↔ ∃ x ∈ hist, Notices x.1 x.2))
  . rintro c rfl
    exact ⟨.start d, by simp [Informed, Delivery.start]⟩
  . intro hist c e c' ⟨hinv, hinformed⟩ _ hstep
    refine ⟨hinv.step hstep, ?_⟩
    rw [hinv.informed_step hstep, hinformed]
    simp [or_comm]

/--
The order of the deliveries makes no difference, and the client enters its game, if and only if in
either order the beginning of the game is reported after the settings have come.
-/
theorem enters_in_any_order_iff (d : Delivery) (hist hist' : List (Session × Event)) (c c' : Session)
    (hrun : d.system.Run (fun _ _ => True) hist c) (hrun' : d.system.Run (fun _ _ => True) hist' c')
    (hdone : Done c) (hdone' : Done c')
    : (c = c' ∧ ((∃ v ∈ d.values, 0 < v) → c.sheet = some d.sheet))
        ↔
      ((∃ v ∈ d.values, 0 < v) →
        (∃ x ∈ hist, Notices x.1 x.2) ∧ ∃ x ∈ hist', Notices x.1 x.2) := by
  obtain ⟨hinv, hinformed⟩ := Inv.of_run hrun
  obtain ⟨hinv', hinformed'⟩ := Inv.of_run hrun'
  rw [← hinformed, ← hinformed']
  constructor
  . rintro ⟨rfl, hsheet⟩ hpos
    rcases hinv.sheet with hnone | ⟨-, hinformed⟩
    . rw [hsheet hpos] at hnone
      contradiction
    . exact ⟨hinformed, hinformed⟩
  . intro h
    have hactive : c.roundNum.active = c'.roundNum.active := by
      by_cases hpos : ∃ v ∈ d.values, 0 < v
      . obtain ⟨hc, hc'⟩ := h hpos
        exact hc.trans hc'.symm
      . -- No one is informed of a game that has not begun.
        have hc : c.roundNum.active = true := Bool.eq_true_of_not_eq_false fun hc => hpos (hinv.informed hc)
        have hc' : c'.roundNum.active = true :=
          Bool.eq_true_of_not_eq_false fun hc' => hpos (hinv'.informed hc')
        rw [hc, hc']
    constructor
    . rw [hinv.eq_of_done hdone, hinv'.eq_of_done hdone', hactive]
    . intro hpos
      rw [hinv.eq_of_done hdone]
      have hc : c.roundNum.active = false := (h hpos).1
      simp [hc]

def solo : Database :=
  applyAll [.game 123456 "None" 3 1 (.ofNat 1) "Host" (Date.toString ⟨0⟩ .gmt),
    .number 123456 (UUID.ofNat 1).uuidString 1, .roundNum 123456 1] .empty

theorem mem_keys_solo {key : String} (h : (entry solo 123456 key).leaves ≠ [])
    : key = (UUID.ofNat 1).uuidString := by
  rw [← mem_keys_players] at h
  have hkeys : (solo.get (playersPath 123456)).keys = [(UUID.ofNat 1).uuidString] := by decide +kernel
  rw [hkeys, List.mem_singleton] at h
  exact h

def hosted : Delivery where
  zone := .gmt
  tap := .host 123456 "None" 3 1 ⟨.ofNat 1, "Host", ⟨0⟩⟩
  after := 1
  snapshot := solo
  gameSettings := ⟨1, "None", 123456, 3⟩
  nodes := [solo.get (playersPath 123456)]
  orders := fun _ => .listed
  values := [0, 1]
  db := solo
  settings_eq := by decide +kernel
  nodes_readable := by decide +kernel
  entries_readable := by
    intro key hkey
    obtain rfl := mem_keys_solo hkey
    exact ⟨⟨_, rfl⟩, by decide +kernel⟩
  entry_ne_nil := by decide +kernel
  not_gameExists_zero := by decide +kernel

theorem enters_in_any_order_iff_hosted
    : ∃ (hist hist' : List (Session × Event)) (c c' : Session),
        (Done c ∧ c.sheet.isSome = true)
          ∧
        (Done c' ∧ c'.sheet.isSome = true)
          ∧
        ((c = c' ∧ ((∃ v ∈ hosted.values, 0 < v) → c.sheet = some hosted.sheet))
            ↔
          ((∃ v ∈ hosted.values, 0 < v) →
            (∃ x ∈ hist, Notices x.1 x.2) ∧ ∃ x ∈ hist', Notices x.1 x.2)) := by
  obtain ⟨hist, c, hrun, hc⟩ := TransitionSystem.exists_run_of_exec (fun _ _ => True)
    (S := hosted.system) (P := fun _ c => Done c ∧ c.sheet.isSome = true) (s := hosted.start) rfl
    [.handle 0, .players, .roundNum, .roundNum, .answer 0 .listed, .handle 0] (by decide +kernel)
  obtain ⟨hist', c', hrun', hc'⟩ := TransitionSystem.exists_run_of_exec (fun _ _ => True)
    (S := hosted.system) (P := fun _ c => Done c ∧ c.sheet.isSome = true) (s := hosted.start) rfl
    [.roundNum, .handle 0, .roundNum, .answer 0 .listed, .handle 0, .players] (by decide +kernel)
  exact ⟨hist, hist', c, c', hc, hc',
    enters_in_any_order_iff hosted hist hist' c c' hrun hrun' hc.1 hc'.1⟩

/-- A client who is told of the beginning of the game before it knows the settings stays outside. -/
theorem not_enters_in_any_order_settings_last
    : ¬∀ (d : Delivery) (hist hist' : List (Session × Event)) (c c' : Session),
        d.system.Run (fun _ _ => True) hist c → d.system.Run (fun _ _ => True) hist' c' →
        Done c → Done c' →
          c = c' ∧ ((∃ v ∈ d.values, 0 < v) → c.sheet = some d.sheet) := by
  intro h
  obtain ⟨hist, c, hrun, hdone, hsheet⟩ := TransitionSystem.exists_run_of_exec (fun _ _ => True)
    (S := hosted.system) (P := fun _ c => Done c ∧ c.sheet.isNone = true) (s := hosted.start) rfl
    [.players, .roundNum, .roundNum, .handle 0, .answer 0 .listed, .handle 0] (by decide +kernel)
  have hsome := (h hosted hist hist c c hrun hrun hdone hdone).2 ⟨1, by decide, by decide⟩
  rw [hsome] at hsheet
  contradiction

end Delivery

end SCatCh
