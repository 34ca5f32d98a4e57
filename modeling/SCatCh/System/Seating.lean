import SCatCh.System.Ending
import SCatCh.System.Roster

/-!
This module contains the way from the lobby into the play: what the devices have and what is stored
when all players of a game have entered the Sheet state is what an ordinary play begins with.
-/

namespace SCatCh

def Started (db : Database) (code : Int) : Prop :=
  StorageControllerWaitingRoom.observeRoundNum db code = some 1

theorem Started.gameExists {db : Database} {code : Int} (h : Started db code) : GameExists db code := by
  unfold Started StorageControllerWaitingRoom.observeRoundNum asInt at h
  split at h
  . next n hvalue =>
    have hleaf : ([], Value.int n)
        ∈ (db.get [toString code, GameKeys.roundNum.rawValue]).leaves := by
      rw [PathTree.value?_eq_some.1 hvalue]
      exact List.mem_singleton_self _
    have hleaf : ([toString code] ++ [GameKeys.roundNum.rawValue], Value.int n) ∈ db.leaves :=
      (PathTree.mem_get (p := [toString code, GameKeys.roundNum.rawValue]) (q := [])).1 hleaf
    exact dataExists_get_iff.2 ⟨_, _, hleaf⟩
  . contradiction

theorem observeRoundNum_roundNum_self {db : Database} {code : Int} (v : Int)
    : StorageControllerWaitingRoom.observeRoundNum ((Write.roundNum code v).apply db) code = some v :=
  observeRoundNum_roundNum v

/-- The sheets of a game are not written before it is played. -/
theorem get_rounds_apply {db : Database} {w : Write} {code : Int} (hlobby : w.InLobby)
    (hrounds : db.get (roundsPath code) = .empty)
    : (w.apply db).get (roundsPath code) = .empty := by
  by_cases hcode : w.code = code
  . subst hcode
    cases w with
    | game code topic maxNumOfRounds roundTime id nickname joinDate =>
      exact get_game topic maxNumOfRounds roundTime id nickname joinDate [GameKeys.rounds.rawValue]
    | sheet => exact hlobby.elim
    | _ =>
      rw [← hrounds]
      apply PathTree.get_set_of_not_prefix
      . simp [Write.path, Write.code, playerPath, roundsPath, GameKeys.rawValue]
      . simp [Write.path, Write.code, playerPath, roundsPath, GameKeys.rawValue]
  . rw [roundsPath, get_apply_of_code_ne hcode]
    exact hrounds

namespace Lobby

variable {ι δ : Type} {device : ι → δ} {zone : TimeZone} {s t : Lobby ι δ} {i : ι} {d : δ} {code : Int}

def StartDue (s : Lobby ι δ) (d : δ) (n : Nat) (code : Int) : Prop :=
  s.Due d n (fun w => w = .roundNum code 1) fun db => Started db code

/-- A controller has been created from the waiting room with the settings of the game. -/
def CreatedFor (db : Database) (c : Session) (controller : StateControllerSheet) : Prop :=
  c.room ≠ none
    ∧
  ∃ gameSettings player numOfPlayers, ∃ tap ∈ c.tap,
    StorageControllerWaitingRoom.getGameSettings db c.code = some gameSettings
      ∧
    controller = (StateControllerSheet.init gameSettings player numOfPlayers tap.isHost).1

variable (device) in
structure SeatInv (s : Lobby ι δ) : Prop where
  roster : s.RosterInv device
  rounds : ∀ code, s.db.get (roundsPath code) = .empty
  stored : ∀ code v, StorageControllerWaitingRoom.observeRoundNum s.db code = some v → v = 0 ∨ v = 1
  writes : ∀ d code v, .roundNum code v ∈ s.outbox d → v = 1
  events : ∀ i, ∀ v ∈ (s.sessions i).roundNum.queue, 0 < v →
    s.StartDue (device i) (s.sent device i) (s.sessions i).code
  requests : ∀ i, ∀ request ∈ (s.sessions i).requests, request.read = .players →
    s.StartDue (device i) request.after (s.sessions i).code
  replies : ∀ i, ∀ reply ∈ (s.sessions i).replies, reply.request.read = .players →
    Started s.db (s.sessions i).code
  sheets : ∀ i, ∀ controller ∈ (s.sessions i).sheet,
    Started s.db (s.sessions i).code ∧ CreatedFor s.db (s.sessions i) controller

theorem SeatInv.empty : SeatInv device ({} : Lobby ι δ) where
  roster := .empty
  rounds := fun _ => rfl
  stored := by simp [StorageControllerWaitingRoom.observeRoundNum]
  writes := by simp
  events := by simp
  requests := by simp
  replies := by simp
  sheets := by simp

/-! # Writes that take effect -/

theorem CreatedFor.mono {db db' : Database} {c c' : Session} {controller : StateControllerSheet}
    (h : CreatedFor db c controller) (htap : c'.tap = c.tap) (hroom : c.room ≠ none → c'.room ≠ none)
    (hdb : ∀ gameSettings, StorageControllerWaitingRoom.getGameSettings db c.code = some gameSettings →
      StorageControllerWaitingRoom.getGameSettings db' c.code = some gameSettings)
    : CreatedFor db' c' controller := by
  obtain ⟨hsome, gameSettings, player, numOfPlayers, tap, hmem, hsettings, heq⟩ := h
  have hcode : c'.code = c.code := by
    unfold Session.code
    rw [htap]
  refine ⟨hroom hsome, gameSettings, player, numOfPlayers, tap, by rw [htap]; exact hmem, ?_, heq⟩
  rw [hcode]
  exact hdb gameSettings hsettings

theorem SeatInv.started_apply (h : s.SeatInv device) {w : Write} (hw : w ∈ s.outbox d)
    (hstarted : Started s.db code)
    : Started (w.apply s.db) code := by
  have hgame := h.roster.host.isGame_eq_false hw hstarted.gameExists
  have hlobby := (h.roster.host.sound.outbox d w hw).inLobby
  by_cases hround : ∃ n, w = .roundNum code n
  . obtain ⟨n, rfl⟩ := hround
    obtain rfl := h.writes d code n hw
    exact observeRoundNum_roundNum_self 1
  . unfold Started
    rw [observeRoundNum_apply_of_ne hlobby hgame fun n hn => hround ⟨n, hn⟩]
    exact hstarted

theorem SeatInv.stored_apply (h : s.SeatInv device) {w : Write} (hw : w ∈ s.outbox d) {v : Int}
    (hv : StorageControllerWaitingRoom.observeRoundNum (w.apply s.db) code = some v)
    : v = 0 ∨ v = 1 := by
  by_cases hround : ∃ n, w = .roundNum code n
  . obtain ⟨n, rfl⟩ := hround
    rw [observeRoundNum_roundNum_self, Option.some.injEq] at hv
    exact .inr (hv.symm.trans (h.writes d code n hw))
  . cases hgame : w.isGame code with
    | true =>
      cases w with
      | game =>
        simp only [Write.isGame, decide_eq_true_eq] at hgame
        subst hgame
        rw [observeRoundNum_game, Option.some.injEq] at hv
        exact .inl hv.symm
      | _ => simp [Write.isGame] at hgame
    | false =>
      rw [observeRoundNum_apply_of_ne (h.roster.host.sound.outbox d w hw).inLobby hgame
        fun n hn => hround ⟨n, hn⟩] at hv
      exact h.stored code v hv

variable [DecidableEq δ]

theorem SeatInv.startDue_apply (h : s.SeatInv device) {write : Write} {writes : List Write}
    (hout : s.outbox d = write :: writes) {d' : δ} {n : Nat} (hdue : s.StartDue d' n code)
    : StartDue { s with
        db := write.apply s.db
        outbox := Function.update s.outbox d writes
        processed := Function.update s.processed d (s.processed d + 1) } d' n code := by
  have hmem : write ∈ s.outbox d := by simp [hout]
  apply Due.process hdue hout
  . exact h.started_apply hmem
  . rintro - rfl
    exact observeRoundNum_roundNum_self 1

variable [Fintype ι] [DecidableEq ι]

theorem SeatInv.step_process (h : s.SeatInv device) (hok : Settled device s (.process d))
    (hstep : s.step device zone (.process d) = some t)
    : t.SeatInv device := by
  have hroster := h.roster.step hok hstep
  obtain ⟨write, writes, hout, rfl⟩ := Lobby.step_process hstep
  have hmem : write ∈ s.outbox d := by simp [hout]
  refine ⟨hroster, ?_, ?_, ?_, ?_, ?_, ?_, ?_⟩
  . intro code
    exact get_rounds_apply (h.roster.host.sound.outbox d write hmem).inLobby (h.rounds code)
  . intro code v hv
    exact h.stored_apply hmem hv
  . intro d' code v hw
    exact h.writes d' code v (mem_outbox_tail hout hw)
  . intro i v hv hpos
    exact Due.le (h.startDue_apply hout (h.events i v hv hpos)) (sent_le_process hout i)
  . intro i request hrequest hread
    exact h.startDue_apply hout (h.requests i request hrequest hread)
  . intro i reply hreply hread
    exact h.started_apply hmem (h.replies i reply hreply hread)
  . intro i controller hcontroller
    obtain ⟨hstarted, hcreated⟩ := h.sheets i controller hcontroller
    refine ⟨h.started_apply hmem hstarted, hcreated.mono rfl id fun gameSettings hsettings => ?_⟩
    exact h.roster.host.getGameSettings_apply hmem hsettings

/-! # What sessions do -/

variable {a : Session.Input} {c : Session} {ws : List Write}

omit [DecidableEq δ] [Fintype ι] [DecidableEq ι] in
theorem SeatInv.startDue_view (h : s.SeatInv device) {v : Int}
    (hv : StorageControllerWaitingRoom.observeRoundNum (s.view device i) code = some v) (hpos : 0 < v)
    : s.StartDue (device i) (s.sent device i) code := by
  have hlobby : ∀ w ∈ s.outbox (device i), w.InLobby :=
    fun w hw => (h.roster.host.sound.outbox _ w hw).inLobby
  rcases observeRoundNum_applyAll hlobby hv hpos with hv | ⟨p, n, hp⟩
  . left
    rcases h.stored code v hv with rfl | rfl
    . omega
    . exact hv
  . have hmem := List.mem_of_getElem? hp
    obtain rfl := h.writes _ code n hmem
    refine .inr ⟨_, ?_, rfl⟩
    unfold sent
    rwa [Nat.add_sub_cancel_left, List.take_length]

omit [DecidableEq δ] [Fintype ι] [DecidableEq ι] in
theorem SeatInv.sheet_of_next (h : s.SeatInv device) {view : Database} {after : Nat}
    (hnext : Session.Next zone s.db view after (s.sessions i) a c ws)
    {controller : StateControllerSheet} (hsheet : c.sheet = some controller)
    : Started s.db (s.sessions i).code ∧ CreatedFor s.db (s.sessions i) controller := by
  rcases hnext.of_sheet hsheet with hsheet | ⟨room, hroom, reply, hreply, hread, players,
    gameSettings, player, -, hsettings, -, -, rfl⟩
  . exact h.sheets i controller hsheet
  . obtain ⟨tap, htap, -, hhost⟩ := (h.roster.host.sound.sessions i).room room hroom
    refine ⟨h.replies i reply hreply hread, by simp [hroom], gameSettings, player, players.length, tap,
      htap, ?_, ?_⟩
    . exact h.roster.room i room hroom gameSettings hsettings
    . rw [hhost]

theorem SeatInv.step_session (h : s.SeatInv device) (hok : Settled device s (.session i a))
    (hstep : s.step device zone (.session i a) = some t)
    : t.SeatInv device := by
  have hroster := h.roster.step hok hstep
  have horder := hok.2.2.2
  obtain ⟨-, c, ws, hnext, rfl⟩ := Lobby.step_session hstep
  have hcases := h.roster.host.sound.update_cases hnext
  refine ⟨hroster, h.rounds, h.stored, ?_, ?_, ?_, ?_, ?_⟩
  . intro d code v hw
    rw [mem_outbox_append] at hw
    rcases hw with hw | ⟨-, hw⟩
    . exact h.writes d code v hw
    . rcases hnext.of_mem_writes hw with ⟨tap, snapshot, -, -, hwrite, -⟩ | ⟨k, -, reply, -, -, rfl⟩
        | ⟨room, -, hremove, -⟩
      . rcases Tap.write_cases hwrite with ⟨-, -, _, _, _, heq⟩ | ⟨-, -, heq⟩ <;> cases heq
      . rcases mem_startGame hw with ⟨-, ⟨key, n, heq, -⟩ | heq⟩ <;> cases heq
        rfl
      . cases hremove
  . intro j v hv hpos
    dsimp only at hv ⊢
    rcases hcases j with heq | ⟨home, tap, phase, heq⟩ | ⟨rfl, heq, hcode, -⟩
    . rw [heq] at hv ⊢
      exact Due.le (Due.send (h.events j v hv hpos)) (sent_le_send j)
    . simp [heq] at hv
    . rw [heq] at hv ⊢
      rw [hcode]
      apply Due.le (Due.send _) (sent_le_send j)
      rcases hnext.of_mem_roundNum hv with hv | hv
      . exact h.events j v hv hpos
      . exact h.startDue_view hv hpos
  . intro j request hrequest hread
    dsimp only at hrequest ⊢
    rcases hcases j with heq | ⟨home, tap, phase, heq⟩ | ⟨rfl, heq, hcode, -⟩
    . rw [heq] at hrequest ⊢
      exact Due.send (h.requests j request hrequest hread)
    . simp [heq] at hrequest
    . rw [heq] at hrequest ⊢
      rw [hcode]
      apply Due.send
      rcases hnext.of_mem_requests hrequest with hrequest | ⟨tap, -, hread', -⟩
        | ⟨room, -, hread', -⟩ | ⟨room, v, -, hv, hpos, rfl, -⟩
      . exact h.requests j request hrequest hread
      . rw [hread] at hread'
        contradiction
      . rw [hread] at hread'
        contradiction
      . exact h.events j v hv hpos
  . intro j reply hreply hread
    dsimp only at hreply ⊢
    rcases hcases j with heq | ⟨home, tap, phase, heq⟩ | ⟨rfl, heq, hcode, -⟩
    . rw [heq] at hreply ⊢
      exact h.replies j reply hreply hread
    . simp [heq] at hreply
    . rw [heq] at hreply ⊢
      rw [hcode]
      rcases hnext.of_mem_replies hreply with hreply | ⟨k, o, request, rfl, hrequest, rfl⟩
      . exact h.replies j reply hreply hread
      . exact Due.now (h.requests j request (List.mem_of_getElem? hrequest) hread)
          (horder request hrequest hread)
  . intro j controller hcontroller
    dsimp only at hcontroller ⊢
    rcases hcases j with heq | ⟨home, tap, phase, heq⟩ | ⟨rfl, heq, hcode, -⟩
    . rw [heq] at hcontroller ⊢
      exact h.sheets j controller hcontroller
    . simp [heq] at hcontroller
    . rw [heq] at hcontroller ⊢
      rw [hcode]
      obtain ⟨hstarted, hcreated⟩ := h.sheet_of_next hnext hcontroller
      refine ⟨hstarted, hcreated.mono ?_ ?_ fun _ => id⟩
      . obtain ⟨-, _, _, _, tap, htap, -⟩ := hcreated
        exact (hnext.tap_eq htap).trans htap.symm
      . intro hroom
        obtain ⟨room, hsome⟩ := Option.ne_none_iff_exists'.1 hroom
        obtain ⟨room', hsome', -⟩ :=
          hnext.room_eq ((h.roster.host.sound.sessions j).closed hroom) hsome
        simp [hsome']

theorem SeatInv.run {hist : List (Lobby ι δ × Action ι δ)}
    (hrun : (system device zone).Run (Settled device) hist s)
    : s.SeatInv device := by
  apply hrun.invariant
  . rintro s rfl
    exact .empty
  . intro s a t h hok hstep
    cases a with
    | session i a => exact h.step_session hok hstep
    | process d =>
      have hstep : s.step device zone (.process d) = some t := hstep
      exact h.step_process hok hstep

/-! # The table -/

/-- The sessions that play the game. -/
abbrev Seat (s : Lobby ι δ) (code : Int) : Type :=
  { i : ι // (s.sessions i).code = code ∧ (s.sessions i).sheet.isSome = true }

def controller (s : Lobby ι δ) (code : Int) (i : s.Seat code) : StateControllerSheet :=
  (s.sessions i).sheet.get i.2.2

def table (s : Lobby ι δ) (code : Int) : Table (s.Seat code) where
  gameSettings := (StorageControllerWaitingRoom.getGameSettings s.db code).getD {}
  player := fun i => (s.controller code i).player
  numOfPlayers := fun i => (s.controller code i).numOfPlayers
  isHost := fun i => (s.controller code i).isHost

/-- The calls of `startGame` whose read has not been handled. -/
def pendingStarts (c : Session) : Nat :=
  (c.requests.filter fun request => request.read = .start).length
    + (c.replies.filter fun reply => reply.request.read = .start).length

variable (device) in
/-- What the play begins with. -/
def kickoff (s : Lobby ι δ) (code : Int) : Play (s.Seat code) where
  db := s.db
  clients := fun i => { (s.table code).create i with
    controller := s.controller code i
    outbox := (s.outbox (device i)).filter fun w => w.code = code }
  entered := fun i => (s.sessions i).sheet.isSome
  starts := fun i => pendingStarts (s.sessions i)

omit [DecidableEq δ] [Fintype ι] [DecidableEq ι] in
theorem controller_mem (s : Lobby ι δ) (code : Int) (i : s.Seat code)
    : s.controller code i ∈ (s.sessions i).sheet :=
  Option.get_mem i.2.2

omit [DecidableEq δ] [Fintype ι] [DecidableEq ι] in
/-- Where a player sits. -/
theorem SeatInv.seat (h : s.SeatInv device) {keys : List String} (hkeys : s.numbering code = some keys)
    (i : s.Seat code)
    : (s.controller code i).numOfPlayers = keys.length
        ∧
      ∃ k : Nat, keys[k]? = some (s.sessions i).key ∧ (s.controller code i).player.number = k + 1 := by
  obtain ⟨keys', _, hkeys', -, hplayers, -, hk⟩ := h.roster.sheets i _ (s.controller_mem code i)
  rw [i.2.1, hkeys, Option.some.injEq] at hkeys'
  subst hkeys'
  exact ⟨hplayers, hk⟩

omit [DecidableEq δ] [Fintype ι] [DecidableEq ι] in
theorem SeatInv.controller_eq (h : s.SeatInv device) (i : s.Seat code)
    : s.controller code i = ((s.table code).create i).controller
        ∧
      (s.table code).gameSettings.code = code := by
  obtain ⟨-, -, gameSettings, player, numOfPlayers, tap, -, hsettings, heq⟩ :=
    h.sheets i _ (s.controller_mem code i)
  rw [i.2.1] at hsettings
  simp only [Table.create, table, hsettings, Option.getD_some, heq]
  exact ⟨rfl, (getGameSettings_code hsettings).1⟩

omit [DecidableEq δ] [Fintype ι] [DecidableEq ι] in
theorem SeatInv.hosts (h : s.SeatInv device) {i : s.Seat code}
    (hhost : (s.controller code i).isHost = true)
    : (s.sessions i).Hosts code := by
  obtain ⟨-, hroom, gameSettings, player, numOfPlayers, tap, htap, -, heq⟩ :=
    h.sheets i _ (s.controller_mem code i)
  rw [heq] at hhost
  obtain ⟨room, hroom⟩ := Option.ne_none_iff_exists'.1 hroom
  obtain ⟨tap', htap', -, hroomHost⟩ := (h.roster.host.sound.sessions i).room room hroom
  obtain rfl : tap = tap' := Option.some.inj (htap.symm.trans htap')
  exact ⟨i.2.1, room, hroom, hroomHost.trans hhost⟩

omit [DecidableEq δ] [DecidableEq ι] in
/-- There are as many seats as players are listed. -/
theorem SeatInv.card_seat (h : s.SeatInv device) {keys : List String}
    (hkeys : s.numbering code = some keys)
    (hinj : ∀ i j : s.Seat code, (s.sessions i).key = (s.sessions j).key → i = j)
    (hall : ∀ key ∈ (s.db.get (playersPath code)).keys, ∃ i : s.Seat code, (s.sessions i).key = key)
    : Fintype.card (s.Seat code) = keys.length := by
  obtain ⟨hnodup, hlists⟩ := h.roster.roster code keys hkeys
  have himage : Finset.univ.image (fun i : s.Seat code => (s.sessions i).key) = keys.toFinset := by
    ext key
    rw [Finset.mem_image, List.mem_toFinset]
    constructor
    . rintro ⟨i, -, rfl⟩
      obtain ⟨-, k, hk, -⟩ := h.seat hkeys i
      exact List.mem_of_getElem? hk
    . intro hkey
      obtain ⟨i, hi⟩ := hall key (mem_keys_players.2 ((hlists key).1 hkey))
      exact ⟨i, Finset.mem_univ i, hi⟩
  rw [← Finset.card_univ, ← Finset.card_image_of_injective Finset.univ hinj, himage,
    List.toFinset_card_of_nodup hnodup]

omit [DecidableEq δ] [Fintype ι] [DecidableEq ι] in
theorem SeatInv.roster_db (h : s.SeatInv device) {keys : List String}
    (hkeys : s.numbering code = some keys) (hstarted : Started s.db code)
    : Roster s.db code keys.length := by
  obtain ⟨keys', hkeys', hnumbered⟩ := h.roster.started code 1 hstarted (by decide)
  rw [hkeys, Option.some.injEq] at hkeys'
  subst hkeys'
  obtain ⟨hnodup, hlists⟩ := h.roster.roster code keys hkeys
  have hperm : (s.db.get (playersPath code)).keys.Perm keys := by
    rw [List.perm_ext_iff_of_nodup (PathTree.nodup_keys _) hnodup]
    intro key
    rw [hlists key, mem_keys_players]
  refine ⟨?_, ?_, ?_⟩
  . intro key hkey
    obtain ⟨id, rfl⟩ := h.roster.host.sound.credible.keys code key (mem_keys_players.1 hkey)
    rw [UUID.ofString?_uuidString]
    rfl
  . intro key hkey
    obtain ⟨k, hk⟩ := List.mem_iff_getElem?.1 (hperm.mem_iff.1 hkey)
    exact (hnumbered k key hk).isSome_asDictionary
  . apply (hperm.map _).trans
    apply List.Perm.of_eq
    apply List.ext_getElem?
    intro k
    rw [List.getElem?_map, closedRange, List.getElem?_map]
    cases hk : keys[k]? with
    | none =>
      rw [List.getElem?_eq_none_iff] at hk
      rw [List.getElem?_eq_none (by rw [List.length_range]; omega)]
      rfl
    | some key =>
      have hlt := (List.getElem?_eq_some_iff.1 hk).1
      have hnumber := hnumbered k key hk
      unfold HasNumber entry at hnumber
      rw [PathTree.get_get] at hnumber
      rw [List.getElem?_range (by omega), Option.map_some, Option.map_some, toInt, hnumber,
        asInt_leaf, Option.getD_some, Int.add_comm]

omit [DecidableEq δ] [DecidableEq ι] in
theorem SeatInv.numbered_kickoff (h : s.SeatInv device)
    (hhost : ∃ i : s.Seat code, (s.controller code i).isHost = true)
    (hall : ∀ key ∈ (s.db.get (playersPath code)).keys, ∃ i : s.Seat code, (s.sessions i).key = key)
    (hsent : ∀ d, ∀ w ∈ s.outbox d, w.code ≠ code)
    (hstarts : ∀ i : s.Seat code, pendingStarts (s.sessions i) = 0)
    : (s.table code).code = code
        ∧
      ∃ (host : s.Seat code) (numOfPlayers : Int),
        (s.table code).FixedRoster host numOfPlayers
          ∧
        Play.Numbered (s.table code) numOfPlayers (s.kickoff device code) := by
  obtain ⟨host, hhost⟩ := hhost
  obtain ⟨keys, -, hkeys, -⟩ := h.roster.sheets host _ (s.controller_mem code host)
  have hstarted := (h.sheets host _ (s.controller_mem code host)).1
  rw [host.2.1] at hkeys hstarted
  have hcode := (h.controller_eq host).2
  have hseat := fun i => h.seat hkeys (i := i)
  have hinj : ∀ i j : s.Seat code, (s.sessions i).key = (s.sessions j).key → i = j := by
    intro i j hkey
    apply Subtype.ext
    apply h.roster.key_inj _ _ hkey
    . exact Option.ne_none_iff_isSome.2 i.2.2
    . exact Option.ne_none_iff_isSome.2 j.2.2
  refine ⟨hcode, host, keys.length, ⟨?_, fun i => (hseat i).1, ?_, ?_, ?_⟩, ⟨?_, ?_, ?_, ?_, ?_⟩, ?_⟩
  . rw [h.card_seat hkeys hinj hall]
  . intro i
    obtain ⟨-, k, hk, hnumber⟩ := hseat i
    have hlt := (List.getElem?_eq_some_iff.1 hk).1
    rw [table, hnumber]
    omega
  . intro i j hsame
    obtain ⟨-, k, hk, hnumber⟩ := hseat i
    obtain ⟨-, k', hk', hnumber'⟩ := hseat j
    have heq : k = k' := by
      rw [table, hnumber, hnumber'] at hsame
      omega
    subst heq
    exact hinj i j (Option.some.inj (hk.symm.trans hk'))
  . intro i
    constructor
    . intro hi
      exact Subtype.ext (h.roster.host.unique i host code (.inr (h.hosts hi)) (.inr (h.hosts hhost)))
    . rintro rfl
      exact hhost
  . intro i
    have hnone : (s.outbox (device i)).filter (fun w => w.code = code) = [] := by
      rw [List.filter_eq_nil_iff]
      intro w hw
      simpa using hsent (device i) w hw
    dsimp only [kickoff]
    rw [(h.controller_eq i).1, hnone]
    rfl
  . intro i
    exact i.2.2
  . exact hstarts
  . rw [Table.code, hcode]
    exact hstarted
  . rw [Table.code, hcode]
    exact h.rounds code
  . rw [Table.code, hcode]
    exact h.roster_db hkeys hstarted

/--
A game that has been gathered and started in an orderly way begins as an ordinary play does, once
everyone who is listed, the host among them, has entered the Sheet state and nothing is on its way.
-/
theorem kickoff_of_settled (device : ι → δ) (zone : TimeZone)
    (hist : List (Lobby ι δ × Action ι δ)) (s : Lobby ι δ)
    (hrun : (system device zone).Run (Settled device) hist s) (code : Int)
    (hhost : ∃ i : s.Seat code, (s.controller code i).isHost = true)
    (hall : ∀ key ∈ (s.db.get (playersPath code)).keys, ∃ i : s.Seat code, (s.sessions i).key = key)
    (hsent : ∀ d, ∀ w ∈ s.outbox d, w.code ≠ code)
    (hstarts : ∀ i : s.Seat code, pendingStarts (s.sessions i) = 0)
    : (s.table code).code = code
        ∧
      ∃ (host : s.Seat code) (numOfPlayers : Int),
        (s.table code).FixedRoster host numOfPlayers
          ∧
        Play.Numbered (s.table code) numOfPlayers (s.kickoff device code) :=
  (SeatInv.run hrun).numbered_kickoff hhost hall hsent hstarts

theorem kickoff_of_settled_together
    : ∃ s : Duo, ∃ (host : s.Seat 123456) (numOfPlayers : Int),
        (s.table 123456).FixedRoster host numOfPlayers
          ∧
        Play.Numbered (s.table 123456) numOfPlayers (s.kickoff id 123456) := by
  obtain ⟨hist, s, hrun, hhost, hall, hsent, hstarts⟩ := TransitionSystem.exists_run_of_exec (Settled id)
    (S := system id .gmt)
    (P := fun _ (s : Duo) => (∃ i : s.Seat 123456, (s.controller 123456 i).isHost = true)
      ∧ (∀ key ∈ (s.db.get (playersPath 123456)).keys, ∃ i : s.Seat 123456, (s.sessions i).key = key)
      ∧ (∀ d, ∀ w ∈ s.outbox d, w.code ≠ 123456)
      ∧ ∀ i : s.Seat 123456, pendingStarts (s.sessions i) = 0)
    (s := {}) rfl playTogether (by decide +kernel)
  exact ⟨s, (kickoff_of_settled id .gmt hist s hrun 123456 hhost hall hsent hstarts).2⟩

end Lobby

end SCatCh
