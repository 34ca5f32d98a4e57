import SCatCh.System.Waiting

/-!
This module contains the proof that the players of a game agree on how many they are and have
different numbers, provided that no one joins or leaves once the game is being started, and that all
starts number the players in the same way.
-/

namespace SCatCh

def Write.ChangesRoster : Write → Prop
  | .player .. => True
  | .removePlayer .. => True
  | _ => False

instance (w : Write) : Decidable w.ChangesRoster :=
  match w with
  | .player .. | .removePlayer .. => inferInstanceAs (Decidable True)
  | .game .. | .number .. | .roundNum .. | .sheet .. => inferInstanceAs (Decidable False)

namespace Lobby

variable {ι δ : Type} {device : ι → δ} {zone : TimeZone} {s t : Lobby ι δ} {i : ι} {d : δ}
  {code : Int} {keys : List String}

/-- Joining and leaving takes effect before the first start of the game reads the players. -/
def RosterFixed (s : Lobby ι δ) : Action ι δ → Prop
  | .process d => ∀ w ∈ (s.outbox d).head?, w.ChangesRoster → s.numbering w.code = none
  | .session .. => True

def SameOrder (s : Lobby ι δ) : Action ι δ → Prop
  | .session i a => ∀ x ∈ s.numbers i a, ∀ keys ∈ s.numbering x.1, x.2 = keys
  | .process _ => True

variable (device) in
/--
Hosts of one code do not overlap, the roster is fixed when the game is started, all starts number it
in the same way, and the players are read after what the device had written before.
-/
def Settled (s : Lobby ι δ) (a : Action ι δ) : Prop :=
  HostAlone s a ∧ RosterFixed s a ∧ SameOrder s a ∧ AnswersInOrder device s a

instance (s : Lobby ι δ) (a : Action ι δ) : Decidable (RosterFixed s a) :=
  match a with
  | .process d => inferInstanceAs (Decidable (∀ w ∈ (s.outbox d).head?, _ → _))
  | .session .. => inferInstanceAs (Decidable True)

instance (s : Lobby ι δ) (a : Action ι δ) : Decidable (SameOrder s a) :=
  match a with
  | .session i a => inferInstanceAs (Decidable (∀ x ∈ s.numbers i a, ∀ keys ∈ s.numbering x.1, x.2 = keys))
  | .process _ => inferInstanceAs (Decidable True)

instance [Fintype ι] [Fintype δ] (s : Lobby ι δ) (a : Action ι δ) : Decidable (Settled device s a) :=
  inferInstanceAs (Decidable (_ ∧ _))

/-! # The numbering of a game -/

def NumbersDue (s : Lobby ι δ) (d : δ) (n : Nat) (code : Int) : Prop :=
  ∃ keys, s.numbering code = some keys
    ∧
  ∀ (k : Nat) key, keys[k]? = some key →
    s.Due d n (fun w => w = .number code key (k + 1)) fun db => HasNumber db code key (k + 1)

def Lists (snapshot : Database) (code : Int) (keys : List String) : Prop :=
  keys.Nodup ∧ ∀ key, key ∈ keys ↔ (entry snapshot code key).leaves ≠ []

def Numbered (snapshot : Database) (code : Int) (keys : List String) : Prop :=
  ∀ (k : Nat) key, keys[k]? = some key → HasNumber snapshot code key (k + 1)

theorem NumbersDue.le {n n' : Nat} (h : s.NumbersDue d n code) (hle : n ≤ n')
    : s.NumbersDue d n' code := by
  obtain ⟨keys, hkeys, hdue⟩ := h
  exact ⟨keys, hkeys, fun k key hkey => (hdue k key hkey).le hle⟩

theorem NumbersDue.now {n : Nat} (h : s.NumbersDue d n code) (hle : n ≤ s.processed d)
    : ∃ keys, s.numbering code = some keys ∧ Numbered s.db code keys := by
  obtain ⟨keys, hkeys, hdue⟩ := h
  exact ⟨keys, hkeys, fun k key hkey => (hdue k key hkey).now hle⟩

def Reply.Starts (s : Lobby ι δ) (reply : Reply) : Prop :=
  StorageControllerWaitingRoom.startGame reply.order reply.snapshot reply.request.code = []
    ∨
  ∃ keys, s.numbering reply.request.code = some keys
    ∧
  StorageControllerWaitingRoom.startGame reply.order reply.snapshot reply.request.code
    =
  keys.mapIdx (fun k key => .number reply.request.code key (k + 1)) ++ [.roundNum reply.request.code 1]

variable (device) in
structure RosterInv (s : Lobby ι δ) : Prop where
  host : s.HostInv device
  hosted : ∀ code keys, s.numbering code = some keys → Hosted s.db code
  roster : ∀ code keys, s.numbering code = some keys → Lists s.db code keys
  starts : ∀ i, ∀ reply ∈ (s.sessions i).replies, reply.request.read = .start → Reply.Starts s reply
  numbers : ∀ d code key (n : Int), .number code key n ∈ s.outbox d →
    ∃ keys, s.numbering code = some keys ∧ ∃ k : Nat, keys[k]? = some key ∧ n = k + 1
  rounds : ∀ d (p : Nat) code v, (s.outbox d)[p]? = some (.roundNum code v) →
    s.NumbersDue d (s.processed d + p) code
  started : ∀ code v, StorageControllerWaitingRoom.observeRoundNum s.db code = some v → 0 < v →
    ∃ keys, s.numbering code = some keys ∧ Numbered s.db code keys
  events : ∀ i, ∀ v ∈ (s.sessions i).roundNum.queue, 0 < v →
    s.NumbersDue (device i) (s.sent device i) (s.sessions i).code
  requests : ∀ i, ∀ request ∈ (s.sessions i).requests, request.read = .players →
    s.NumbersDue (device i) request.after (s.sessions i).code
  replies : ∀ i, ∀ reply ∈ (s.sessions i).replies, reply.request.read = .players →
    ∃ keys, s.numbering (s.sessions i).code = some keys
      ∧ Lists reply.snapshot (s.sessions i).code keys
      ∧ Numbered reply.snapshot (s.sessions i).code keys
  settings : ∀ i, ∀ reply ∈ (s.sessions i).replies, reply.request.read = .gameSettings →
    ∀ gameSettings,
      StorageControllerWaitingRoom.getGameSettings reply.snapshot (s.sessions i).code
          = some gameSettings →
        StorageControllerWaitingRoom.getGameSettings s.db (s.sessions i).code = some gameSettings
  room : ∀ i room, (s.sessions i).room = some room → ∀ gameSettings,
    room.gameSettings = some gameSettings →
      StorageControllerWaitingRoom.getGameSettings s.db (s.sessions i).code = some gameSettings
  sheets : ∀ i controller, (s.sessions i).sheet = some controller → ∃ keys gameSettings,
    s.numbering (s.sessions i).code = some keys
      ∧ StorageControllerWaitingRoom.getGameSettings s.db (s.sessions i).code = some gameSettings
      ∧ controller.numOfPlayers = keys.length
      ∧ controller.numOfRounds = min (keys.length : Int) gameSettings.maxNumOfRounds
      ∧ ∃ k : Nat, keys[k]? = some (s.sessions i).key ∧ controller.player.number = k + 1

theorem RosterInv.empty : RosterInv device ({} : Lobby ι δ) where
  host := .empty
  hosted := by simp
  roster := by simp
  starts := by simp
  numbers := by simp
  rounds := by simp
  started := by simp [StorageControllerWaitingRoom.observeRoundNum]
  events := by simp
  requests := by simp
  replies := by simp
  settings := by simp
  room := by simp
  sheets := by simp

/-! # Writes that take effect -/

section Process

variable {write : Write} {writes : List Write}

theorem RosterInv.not_changesRoster (hok : RosterFixed s (.process d))
    (hout : s.outbox d = write :: writes) (hkeys : s.numbering write.code = some keys)
    : ¬write.ChangesRoster := by
  intro hchanges
  rw [hok write (by simp [hout]) hchanges] at hkeys
  contradiction

theorem RosterInv.hasNumber_apply (h : s.RosterInv device) (hok : RosterFixed s (.process d))
    (hout : s.outbox d = write :: writes) (hkeys : s.numbering code = some keys) {k : Nat}
    {key : String} (hkey : keys[k]? = some key) (hnumber : HasNumber s.db code key (k + 1))
    : HasNumber (write.apply s.db) code key (k + 1) := by
  have hmem : write ∈ s.outbox d := by simp [hout]
  apply hnumber.apply (h.host.isGame_eq_false hmem (h.hosted code keys hkeys).gameExists)
  . rintro id nickname joinDate rfl
    exact not_changesRoster hok hout hkeys trivial
  . rintro id rfl
    exact not_changesRoster hok hout hkeys trivial
  . rintro m rfl
    obtain ⟨keys', hkeys', k', hk', rfl⟩ := h.numbers d code key m hmem
    rw [hkeys, Option.some.injEq] at hkeys'
    subst hkeys'
    have hlt := (List.getElem?_eq_some_iff.1 hk').1
    rw [(List.getElem?_inj hlt (h.roster code keys hkeys).1).1 (hk'.trans hkey.symm)]

theorem RosterInv.numbered_apply (h : s.RosterInv device) (hok : RosterFixed s (.process d))
    (hout : s.outbox d = write :: writes)
    (hnumbered : ∃ keys, s.numbering code = some keys ∧ Numbered s.db code keys)
    : ∃ keys, s.numbering code = some keys ∧ Numbered (write.apply s.db) code keys := by
  obtain ⟨keys, hkeys, hnumbered⟩ := hnumbered
  exact ⟨keys, hkeys, fun k key hkey => h.hasNumber_apply hok hout hkeys hkey (hnumbered k key hkey)⟩

theorem RosterInv.lists_apply (h : s.RosterInv device) (hok : RosterFixed s (.process d))
    (hout : s.outbox d = write :: writes) (hkeys : s.numbering code = some keys)
    : Lists (write.apply s.db) code keys := by
  obtain ⟨hnodup, hlists⟩ := h.roster code keys hkeys
  have hmem : write ∈ s.outbox d := by simp [hout]
  refine ⟨hnodup, fun key => ?_⟩
  rw [hlists key]
  by_cases hcode : write.code = code
  . subst hcode
    have hchanges := not_changesRoster hok hout hkeys
    cases write with
    | game code =>
      have hgame := h.host.isGame_eq_false hmem (h.hosted _ keys hkeys).gameExists
      simp [Write.isGame, Write.code] at hgame
    | player | removePlayer => exact absurd trivial hchanges
    | number code key' n =>
      obtain ⟨keys', hkeys', k, hk, -⟩ := h.numbers d code key' n hmem
      rw [Write.code] at hkeys hlists ⊢
      rw [hkeys, Option.some.injEq] at hkeys'
      subst hkeys'
      rw [entry_number]
      by_cases hkey : key = key'
      . subst hkey
        have hold := (hlists key).1 (List.mem_of_getElem? hk)
        simp [PathTree.set, hold]
      . rw [Function.update_of_ne hkey]
    | roundNum code n => rw [Write.code, entry_roundNum]
    | sheet => exact (h.host.sound.outbox d _ hmem).elim
  . rw [entry_apply_of_code_ne hcode]

variable [DecidableEq δ]

theorem RosterInv.numbersDue_apply (h : s.RosterInv device) (hok : RosterFixed s (.process d))
    (hout : s.outbox d = write :: writes) {d' : δ} {n : Nat} (hdue : s.NumbersDue d' n code)
    : NumbersDue { s with
        db := write.apply s.db
        outbox := Function.update s.outbox d writes
        processed := Function.update s.processed d (s.processed d + 1) } d' n code := by
  obtain ⟨keys, hkeys, hdue⟩ := hdue
  refine ⟨keys, hkeys, fun k key hkey => ?_⟩
  apply (hdue k key hkey).process hout
  . exact h.hasNumber_apply hok hout hkeys hkey
  . rintro - rfl
    exact hasNumber_number

variable [Fintype ι] [DecidableEq ι]

theorem RosterInv.step_process (h : s.RosterInv device) (hok : RosterFixed s (.process d))
    (hstep : s.step device zone (.process d) = some t)
    : t.RosterInv device := by
  have hhost := h.host.step_process hstep
  obtain ⟨write, writes, hout, rfl⟩ := Lobby.step_process hstep
  have hmem : write ∈ s.outbox d := by simp [hout]
  have hlobby := (h.host.sound.outbox d write hmem).inLobby
  refine ⟨hhost, ?_, ?_, h.starts, ?_, ?_, ?_, ?_, ?_, h.replies, ?_, ?_, ?_⟩
  . intro code keys hkeys
    exact (h.hosted code keys hkeys).apply
  . intro code keys hkeys
    exact h.lists_apply hok hout hkeys
  . intro d' code key n hw
    exact h.numbers d' code key n (mem_outbox_tail hout hw)
  . intro d' p code v hp
    dsimp only at hp ⊢
    by_cases hd : d' = d
    . subst hd
      rw [Function.update_self] at hp
      have hdue := h.rounds d' (p + 1) code v (by rw [hout, List.getElem?_cons_succ]; exact hp)
      apply (h.numbersDue_apply hok hout hdue).le
      rw [Function.update_self]
      omega
    . rw [Function.update_of_ne hd] at hp
      rw [Function.update_of_ne hd]
      exact h.numbersDue_apply hok hout (h.rounds d' p code v hp)
  . intro code v hv hpos
    apply h.numbered_apply hok hout
    by_cases hround : ∃ n, write = .roundNum code n
    . obtain ⟨n, rfl⟩ := hround
      exact (h.rounds d 0 code n (by simp [hout])).now (by omega)
    . cases hgame : write.isGame code with
      | true =>
        -- A game that is written has not been started.
        cases write with
        | game =>
          simp only [Write.isGame, decide_eq_true_eq] at hgame
          subst hgame
          rw [observeRoundNum_game, Option.some.injEq] at hv
          omega
        | _ => simp [Write.isGame] at hgame
      | false =>
        rw [observeRoundNum_apply_of_ne hlobby hgame (fun n hn => hround ⟨n, hn⟩)] at hv
        exact h.started code v hv hpos
  . intro i v hv hpos
    exact (h.numbersDue_apply hok hout (h.events i v hv hpos)).le (sent_le_process hout i)
  . intro i request hrequest hread
    exact h.numbersDue_apply hok hout (h.requests i request hrequest hread)
  . intro i reply hreply hread gameSettings hsettings
    exact h.host.getGameSettings_apply hmem (h.settings i reply hreply hread gameSettings hsettings)
  . intro i room hroom gameSettings hsettings
    exact h.host.getGameSettings_apply hmem (h.room i room hroom gameSettings hsettings)
  . intro i controller hsheet
    obtain ⟨keys, gameSettings, hkeys, hsettings, hrest⟩ := h.sheets i controller hsheet
    exact ⟨keys, gameSettings, hkeys, h.host.getGameSettings_apply hmem hsettings, hrest⟩

end Process

/-! # What sessions do -/

theorem numbers_eq_some {a : Session.Input} (h : s.numbers i a = some (code, keys))
    : ∃ k o request dict,
        a = .answer k o
          ∧ (s.sessions i).requests[k]? = some request
          ∧ request.read = .start
          ∧ request.code = code
          ∧ asDictionary (s.db.get (playersPath code)) = some dict
          ∧ keys = o.order dict := by
  unfold numbers at h
  split at h
  . next k o =>
    split at h
    . next code' after hrequest =>
      split at h
      . next dict hdict =>
        rw [Option.some.injEq, Prod.mk.injEq] at h
        obtain ⟨rfl, rfl⟩ := h
        exact ⟨k, o, _, dict, rfl, hrequest, rfl, rfl, hdict, rfl⟩
      . contradiction
    . contradiction
  . contradiction

theorem numbers_answer {k : Nat} {o : IterationOrder} {request : Request}
    (hrequest : (s.sessions i).requests[k]? = some request) (hread : request.read = .start)
    {dict : List String} (hdict : asDictionary (s.db.get (playersPath request.code)) = some dict)
    : s.numbers i (.answer k o) = some (request.code, o.order dict) := by
  rcases request with ⟨read, code, after⟩
  subst hread
  simp only [numbers, hrequest, hdict]

theorem note_mono {x : Option (Int × List String)} (h : s.numbering code = some keys)
    : s.note x code = some keys := by
  unfold note
  split
  . next code' keys' =>
    split
    . next hnone =>
      rw [Function.update_of_ne]
      . exact h
      . rintro rfl
        rw [hnone] at h
        contradiction
    . exact h
  . exact h

theorem of_note {x : Option (Int × List String)} (h : s.note x code = some keys)
    : s.numbering code = some keys ∨ x = some (code, keys) := by
  unfold note at h
  split at h
  . next code' keys' =>
    split at h
    . by_cases hcode : code = code'
      . subst hcode
        rw [Function.update_self, Option.some.injEq] at h
        exact .inr (by rw [h])
      . rw [Function.update_of_ne hcode] at h
        exact .inl h
    . exact .inl h
  . exact .inl h

theorem note_eq (h : ∀ keys' ∈ s.numbering code, keys = keys')
    : s.note (some (code, keys)) code = some keys := by
  unfold note
  dsimp only
  split
  . exact Function.update_self ..
  . next hsome =>
    obtain ⟨keys', hkeys'⟩ := Option.ne_none_iff_exists'.1 hsome
    rw [hkeys', h keys' hkeys']

theorem lists_of_asDictionary {db : Database} {dict : List String}
    (h : asDictionary (db.get (playersPath code)) = some dict) (o : IterationOrder)
    : Lists db code (o.order dict) ∧ GameExists db code := by
  have hdict := asDictionary_eq_some h
  subst hdict
  refine ⟨⟨(o.perm _).nodup_iff.2 (PathTree.nodup_keys _), fun key => ?_⟩, ?_⟩
  . rw [(o.perm _).mem_iff, mem_keys_players]
  . unfold asDictionary at h
    split at h
    . next hcond =>
      obtain ⟨q, v, hleaf⟩ := dataExists_get_iff.1 (Bool.and_eq_true_iff.1 hcond).1
      exact dataExists_get_iff.2 ⟨GameKeys.players.rawValue :: q, v, hleaf⟩
    . contradiction

theorem observeRoundNum_applyAll {ws : List Write} {db : Database} {v : Int}
    (hlobby : ∀ w ∈ ws, w.InLobby)
    (h : StorageControllerWaitingRoom.observeRoundNum (applyAll ws db) code = some v) (hv : 0 < v)
    : StorageControllerWaitingRoom.observeRoundNum db code = some v
        ∨
      ∃ (p : Nat) (n : Int), ws[p]? = some (.roundNum code n) := by
  induction ws generalizing db with
  | nil => exact .inl h
  | cons w ws ih =>
    rw [List.forall_mem_cons] at hlobby
    rw [applyAll_cons] at h
    rcases ih hlobby.2 h with h | ⟨p, n, hp⟩
    . by_cases hround : ∃ n, w = .roundNum code n
      . obtain ⟨n, rfl⟩ := hround
        exact .inr ⟨0, n, rfl⟩
      . left
        cases hgame : w.isGame code with
        | true =>
          cases w with
          | game =>
            simp only [Write.isGame, decide_eq_true_eq] at hgame
            subst hgame
            rw [observeRoundNum_game, Option.some.injEq] at h
            omega
          | _ => simp [Write.isGame] at hgame
        | false =>
          rwa [observeRoundNum_apply_of_ne hlobby.1 hgame fun n hn => hround ⟨n, hn⟩] at h
    . exact .inr ⟨p + 1, n, by rw [List.getElem?_cons_succ]; exact hp⟩

theorem player_of_getPlayers {snapshot db : Database} {o : IterationOrder} {players : List Player}
    {player : Player} (hlists : Lists snapshot code keys) (hnumbered : Numbered snapshot code keys)
    (hcredible : Credible db snapshot)
    (hplayers : StorageControllerWaitingRoom.getPlayers o snapshot code = some (some players))
    (hplayer : player ∈ players)
    : players.length = keys.length
        ∧
      ∃ k : Nat, keys[k]? = some player.id.uuidString ∧ player.number = k + 1 := by
  have hbuild : StorageController.buildPlayersArray StorageController.buildPlayer o
      (snapshot.get (playersPath code)) = some players := by
    unfold StorageControllerWaitingRoom.getPlayers at hplayers
    dsimp only at hplayers
    split at hplayers
    . simpa [Option.bind_eq_some_iff] using hplayers
    . simp at hplayers
  have hperm : keys.Perm (snapshot.get (playersPath code)).keys := by
    rw [List.perm_ext_iff_of_nodup hlists.1 (PathTree.nodup_keys _)]
    intro key
    rw [hlists.2 key, mem_keys_players]
  have hnumber : ∀ key ∈ (snapshot.get (playersPath code)).keys, ∃ k : Nat,
      keys[k]? = some key ∧ HasNumber snapshot code key (k + 1) := by
    intro key hkey
    obtain ⟨k, hk⟩ := List.mem_iff_getElem?.1 (hperm.mem_iff.2 hkey)
    exact ⟨k, hk, hnumbered k key hk⟩
  constructor
  . -- An entry with a number is a dictionary, so that no entry is passed over.
    rw [length_buildPlayersArray hbuild, hperm.length_eq]
    intro key hkey
    obtain ⟨k, -, hk⟩ := hnumber key hkey
    rw [get_players]
    exact hk.isSome_asDictionary
  . obtain ⟨key, hkey, -, hplayer⟩ := (mem_buildPlayersArray hbuild).1 hplayer
    obtain ⟨k, hk, hhas⟩ := hnumber key hkey
    obtain ⟨id, rfl⟩ := hcredible.keys code key (mem_keys_players.1 hkey)
    rw [buildPlayer_uuidString, Option.some.injEq] at hplayer
    subst hplayer
    refine ⟨k, hk, ?_⟩
    dsimp only
    rw [get_players, hhas]
    rfl

section Session

variable {a : Session.Input} {c : Session} {ws : List Write}

theorem Reply.Starts.note {reply : Reply} (h : Reply.Starts s reply)
    {x : Option (Int × List String)} (ht : t.numbering = s.note x)
    : Reply.Starts t reply := by
  rcases h with hnil | ⟨keys, hkeys, heq⟩
  . exact .inl hnil
  . exact .inr ⟨keys, by rw [ht, note_mono hkeys], heq⟩

theorem RosterInv.numbers_of_next (h : s.RosterInv device) {view : Database} {after : Nat}
    (hnext : Session.Next zone s.db view after (s.sessions i) a c ws)
    : (∀ code v, Write.roundNum code v ∉ ws) ∧ (∀ code key n, Write.number code key n ∉ ws)
        ∨
      ∃ code keys, s.numbering code = some keys
        ∧ ws = keys.mapIdx (fun k key => .number code key (k + 1)) ++ [.roundNum code 1] := by
  cases hws : ws with
  | nil => exact .inl (by simp)
  | cons w ws' =>
    have hw : w ∈ ws := by simp [hws]
    rcases hnext.of_mem_writes hw with ⟨tap, snapshot, -, -, hwrite, hone, -⟩
      | ⟨k, -, reply, hreply, hread, hstart⟩ | ⟨room, -, hremove, hone, -⟩
    . rw [← hws, hone]
      rcases Tap.write_cases hwrite with ⟨-, -, topic, maxNumOfRounds, roundTime, rfl⟩ | ⟨-, -, rfl⟩
      . exact .inl (by simp)
      . exact .inl (by simp)
    . rcases h.starts i reply (List.mem_of_getElem? hreply) hread with hnil | ⟨keys, hkeys, heq⟩
      . rw [hstart, hnil] at hws
        contradiction
      . exact .inr ⟨_, keys, hkeys, by rw [← hws, hstart, heq]⟩
    . rw [← hws, hone, hremove]
      exact .inl (by simp)

variable [DecidableEq δ]

theorem NumbersDue.send {n : Nat} (h : s.NumbersDue d n code) {sessions : ι → Session} {d' : δ}
    {x : Option (Int × List String)}
    : NumbersDue { s with
        sessions := sessions
        outbox := Function.update s.outbox d' (s.outbox d' ++ ws)
        numbering := s.note x } d n code := by
  obtain ⟨keys, hkeys, hdue⟩ := h
  exact ⟨keys, note_mono hkeys, fun k key hkey => (hdue k key hkey).send⟩

theorem numbersDue_startGame (hkeys : s.numbering code = some keys)
    (sessions : ι → Session) {x : Option (Int × List String)} {p : Nat} {v : Int} {code' : Int}
    (hp : (keys.mapIdx (fun k key => Write.number code key (k + 1))
      ++ [.roundNum code 1])[p]? = some (.roundNum code' v))
    : NumbersDue { s with
        sessions := sessions
        outbox := Function.update s.outbox d (s.outbox d
          ++ (keys.mapIdx (fun k key => Write.number code key (k + 1)) ++ [.roundNum code 1]))
        numbering := s.note x } d (s.processed d + (s.outbox d).length + p) code' := by
  have hlen : keys.length ≤ p := by
    by_contra hlt
    rw [List.getElem?_append_left (by rw [List.length_mapIdx]; omega), List.getElem?_mapIdx,
      List.getElem?_eq_getElem (by omega)] at hp
    simp at hp
  have hcode : code' = code := by
    rw [List.getElem?_append_right (by rw [List.length_mapIdx]; exact hlen)] at hp
    have := List.mem_of_getElem? hp
    simp only [List.mem_singleton, Write.roundNum.injEq] at this
    exact this.1
  subst hcode
  refine ⟨keys, note_mono hkeys, fun k key hkey => .inr ⟨_, ?_, rfl⟩⟩
  have hk : Write.number code' key (k + 1) ∈ keys.mapIdx fun k key => Write.number code' key (k + 1) := by
    obtain ⟨hlt, rfl⟩ := List.getElem?_eq_some_iff.1 hkey
    exact List.mem_mapIdx.2 ⟨k, hlt, rfl⟩
  dsimp only
  rw [Function.update_self, show s.processed d + (s.outbox d).length + p - s.processed d
    = (s.outbox d).length + p by omega, List.take_length_add_append, List.take_append,
    List.take_of_length_le (by rw [List.length_mapIdx]; exact hlen)]
  exact List.mem_append_right _ (List.mem_append_left _ hk)

omit [DecidableEq δ] in
theorem RosterInv.numbersDue_view (h : s.RosterInv device) {v : Int}
    (hv : StorageControllerWaitingRoom.observeRoundNum (s.view device i) code = some v) (hpos : 0 < v)
    : s.NumbersDue (device i) (s.sent device i) code := by
  have hlobby : ∀ w ∈ s.outbox (device i), w.InLobby :=
    fun w hw => (h.host.sound.outbox _ w hw).inLobby
  rcases observeRoundNum_applyAll hlobby hv hpos with hv | ⟨p, n, hp⟩
  . obtain ⟨keys, hkeys, hnumbered⟩ := h.started code v hv hpos
    exact ⟨keys, hkeys, fun k key hkey => .inl (hnumbered k key hkey)⟩
  . apply (h.rounds (device i) p code n hp).le
    have := (List.getElem?_eq_some_iff.1 hp).1
    unfold sent
    omega

omit [DecidableEq δ] in
theorem RosterInv.sheet_of_next (h : s.RosterInv device) {view : Database} {after : Nat}
    (hnext : Session.Next zone s.db view after (s.sessions i) a c ws)
    {controller : StateControllerSheet} (hsheet : c.sheet = some controller)
    : ∃ keys gameSettings,
        s.numbering (s.sessions i).code = some keys
          ∧ StorageControllerWaitingRoom.getGameSettings s.db (s.sessions i).code = some gameSettings
          ∧ controller.numOfPlayers = keys.length
          ∧ controller.numOfRounds = min (keys.length : Int) gameSettings.maxNumOfRounds
          ∧ ∃ k : Nat, keys[k]? = some (s.sessions i).key ∧ controller.player.number = k + 1 := by
  rcases hnext.of_sheet hsheet with hsheet | ⟨room, hroom, reply, hreply, hread, players,
    gameSettings, player, hplayers, hsettings, hplayer, hid, rfl⟩
  . exact h.sheets i controller hsheet
  . have hsound := h.host.sound
    obtain ⟨hasks, hcredible⟩ := (hsound.sessions i).replies reply hreply
    obtain ⟨tap, htap, hroomPlayer, -⟩ := (hsound.sessions i).room room hroom
    obtain ⟨keys, hkeys, hlists, hnumbered⟩ := h.replies i reply hreply hread
    -- Nothing is stored under the code that stands for an unknown one.
    have hcode : reply.request.code = (s.sessions i).code := by
      simp only [Session.Asks, hread] at hasks
      rcases hasks with hzero | ⟨hcode, -⟩
      . have hexists : GameExists reply.snapshot reply.request.code := by
          unfold StorageControllerWaitingRoom.getPlayers at hplayers
          dsimp only at hplayers
          split at hplayers
          . next dict hdict => exact (lists_of_asDictionary hdict .listed).2
          . simp at hplayers
        have := hsound.range _ (hcredible.hosted _ hexists)
        omega
      . exact hcode
    rw [hcode] at hplayers
    obtain ⟨hlength, k, hk, hnumber⟩ :=
      player_of_getPlayers hlists hnumbered hcredible hplayers hplayer
    refine ⟨keys, gameSettings, hkeys, h.room i room hroom gameSettings hsettings, ?_, ?_, k, ?_,
      hnumber⟩
    . exact congrArg Int.ofNat hlength
    . simp only [StateControllerSheet.init, hlength]
    . rw [hk, Session.key, htap, hid, hroomPlayer]

omit [DecidableEq δ] in
theorem RosterInv.starts_of_next (h : s.RosterInv device) {view : Database} {after : Nat}
    (hsame : SameOrder s (.session i a))
    (hnext : Session.Next zone s.db view after (s.sessions i) a c ws) {reply : Reply}
    (hreply : reply ∈ c.replies) (hread : reply.request.read = .start)
    (ht : t.numbering = s.note (s.numbers i a))
    : Reply.Starts t reply := by
  rcases hnext.of_mem_replies hreply with hreply | ⟨k, o, request, rfl, hrequest, rfl⟩
  . exact (h.starts i reply hreply hread).note ht
  . cases hdict : asDictionary (s.db.get (playersPath request.code)) with
    | none => exact .inl (startGame_eq_nil hdict)
    | some dict =>
      have hnumbers := numbers_answer (o := o) hrequest hread hdict
      refine .inr ⟨o.order dict, ?_, startGame_eq hdict⟩
      rw [ht, hnumbers]
      exact note_eq (hsame _ hnumbers)

theorem RosterInv.numbers_send (h : s.RosterInv device) {view : Database} {after : Nat}
    (hnext : Session.Next zone s.db view after (s.sessions i) a c ws) {key : String} {n : Int}
    {x : Option (Int × List String)}
    (hw : .number code key n ∈ Function.update s.outbox (device i) (s.outbox (device i) ++ ws) d)
    : ∃ keys, s.note x code = some keys ∧ ∃ k : Nat, keys[k]? = some key ∧ n = k + 1 := by
  rw [mem_outbox_append] at hw
  rcases hw with hw | ⟨-, hw⟩
  . obtain ⟨keys, hkeys, hk⟩ := h.numbers d code key n hw
    exact ⟨keys, note_mono hkeys, hk⟩
  . rcases h.numbers_of_next hnext with ⟨-, hnone⟩ | ⟨code', keys, hkeys, rfl⟩
    . exact absurd hw (hnone code key n)
    . rw [List.mem_append, List.mem_mapIdx, List.mem_singleton] at hw
      rcases hw with ⟨k, hk, heq⟩ | heq
      . rw [Write.number.injEq] at heq
        obtain ⟨rfl, rfl, rfl⟩ := heq
        exact ⟨keys, note_mono hkeys, k, List.getElem?_eq_getElem hk, rfl⟩
      . cases heq

theorem RosterInv.rounds_send (h : s.RosterInv device) {view : Database} {after : Nat}
    (hnext : Session.Next zone s.db view after (s.sessions i) a c ws) {sessions : ι → Session}
    {x : Option (Int × List String)} {p : Nat} {v : Int}
    (hp : (Function.update s.outbox (device i) (s.outbox (device i) ++ ws) d)[p]?
      = some (.roundNum code v))
    : NumbersDue { s with
        sessions := sessions
        outbox := Function.update s.outbox (device i) (s.outbox (device i) ++ ws)
        numbering := s.note x } d (s.processed d + p) code := by
  by_cases hd : d = device i
  . subst hd
    rw [Function.update_self] at hp
    by_cases hlt : p < (s.outbox (device i)).length
    . rw [List.getElem?_append_left hlt] at hp
      exact (h.rounds _ p code v hp).send
    . rw [List.getElem?_append_right (by omega)] at hp
      rcases h.numbers_of_next hnext with ⟨hnone, -⟩ | ⟨code', keys, hkeys, rfl⟩
      . exact absurd (List.mem_of_getElem? hp) (hnone code v)
      . apply (numbersDue_startGame hkeys sessions hp).le
        omega
  . rw [Function.update_of_ne hd] at hp
    exact (h.rounds d p code v hp).send

omit [DecidableEq δ] in
theorem RosterInv.events_of_next (h : s.RosterInv device) {after : Nat}
    (hnext : Session.Next zone s.db (s.view device i) after (s.sessions i) a c ws) {v : Int}
    (hv : v ∈ c.roundNum.queue) (hpos : 0 < v)
    : s.NumbersDue (device i) (s.sent device i) (s.sessions i).code := by
  rcases hnext.of_mem_roundNum hv with hv | hv
  . exact h.events i v hv hpos
  . exact h.numbersDue_view hv hpos

omit [DecidableEq δ] in
theorem RosterInv.requests_of_next (h : s.RosterInv device) {view : Database}
    (hnext : Session.Next zone s.db view (s.sent device i) (s.sessions i) a c ws)
    {request : Request} (hrequest : request ∈ c.requests) (hread : request.read = .players)
    : s.NumbersDue (device i) request.after (s.sessions i).code := by
  rcases hnext.of_mem_requests hrequest with hrequest | ⟨tap, -, hread', -⟩
    | ⟨room, -, hread', -⟩ | ⟨room, v, -, hv, hpos, rfl, -⟩
  . exact h.requests i request hrequest hread
  . rw [hread] at hread'
    contradiction
  . rw [hread] at hread'
    contradiction
  . exact h.events i v hv hpos

omit [DecidableEq δ] in
theorem RosterInv.replies_of_next (h : s.RosterInv device) {view : Database} {after : Nat}
    (horder : AnswersInOrder device s (.session i a))
    (hnext : Session.Next zone s.db view after (s.sessions i) a c ws) {reply : Reply}
    (hreply : reply ∈ c.replies) (hread : reply.request.read = .players)
    : ∃ keys, s.numbering (s.sessions i).code = some keys
        ∧ Lists reply.snapshot (s.sessions i).code keys
        ∧ Numbered reply.snapshot (s.sessions i).code keys := by
  rcases hnext.of_mem_replies hreply with hreply | ⟨k, o, request, rfl, hrequest, rfl⟩
  . exact h.replies i reply hreply hread
  . have hdue := h.requests i request (List.mem_of_getElem? hrequest) hread
    obtain ⟨keys, hkeys, hnumbered⟩ := hdue.now (horder request hrequest hread)
    exact ⟨keys, hkeys, h.roster _ keys hkeys, hnumbered⟩

omit [DecidableEq δ] in
theorem RosterInv.room_of_next (h : s.RosterInv device) {view : Database} {after : Nat}
    (hnext : Session.Next zone s.db view after (s.sessions i) a c ws)
    {room' : StateControllerWaitingRoom} (hroom' : c.room = some room')
    {gameSettings : GameSettings} (hsettings : room'.gameSettings = some gameSettings)
    : StorageControllerWaitingRoom.getGameSettings s.db (s.sessions i).code = some gameSettings := by
  rcases hnext.of_room hroom' with ⟨room, hroom, -, -, heq | ⟨reply, hreply, hread, gs, hgs, heq⟩⟩
    | ⟨_, _, _, _, _, _, _, _, rfl⟩
  . exact h.room i room hroom gameSettings (heq.symm.trans hsettings)
  . rw [heq, Option.some.injEq] at hsettings
    subst hsettings
    have hasks := ((h.host.sound.sessions i).replies reply hreply).1
    simp only [Session.Asks, hread] at hasks
    rw [hasks] at hgs
    exact h.settings i reply hreply hread gs hgs
  . simp at hsettings

variable [Fintype ι] [DecidableEq ι]

theorem RosterInv.step_session (h : s.RosterInv device) (halone : HostAlone s (.session i a))
    (hsame : SameOrder s (.session i a)) (horder : AnswersInOrder device s (.session i a))
    (hstep : s.step device zone (.session i a) = some t)
    : t.RosterInv device := by
  have hhost := h.host.step_session halone hstep
  obtain ⟨-, c, ws, hnext, rfl⟩ := Lobby.step_session hstep
  have hsound := h.host.sound
  -- What a session asks for and is told of is about the game that it had before the step, unless it
  -- has only begun.
  have hcases := hsound.update_cases hnext
  refine ⟨hhost, ?_, ?_, ?_, ?_, ?_, ?_, ?_, ?_, ?_, ?_, ?_, ?_⟩
  . intro code keys hkeys
    rcases of_note hkeys with hkeys | hnew
    . exact h.hosted code keys hkeys
    . obtain ⟨k, o, request, dict, -, -, -, -, hdict, -⟩ := numbers_eq_some hnew
      exact hsound.credible.hosted _ (lists_of_asDictionary hdict o).2
  . intro code keys hkeys
    rcases of_note hkeys with hkeys | hnew
    . exact h.roster code keys hkeys
    . obtain ⟨k, o, request, dict, -, -, -, -, hdict, rfl⟩ := numbers_eq_some hnew
      exact (lists_of_asDictionary hdict o).1
  . intro j reply hreply hread
    dsimp only at hreply
    rcases hcases j with heq | ⟨home, tap, phase, heq⟩ | ⟨rfl, heq, -⟩
    . rw [heq] at hreply
      exact (h.starts j reply hreply hread).note rfl
    . simp [heq] at hreply
    . rw [heq] at hreply
      exact h.starts_of_next hsame hnext hreply hread rfl
  . intro d code key n hw
    exact h.numbers_send hnext hw
  . intro d p code v hp
    exact h.rounds_send hnext hp
  . intro code v hv hpos
    obtain ⟨keys, hkeys, hnumbered⟩ := h.started code v hv hpos
    exact ⟨keys, note_mono hkeys, hnumbered⟩
  . intro j v hv hpos
    dsimp only at hv ⊢
    rcases hcases j with heq | ⟨home, tap, phase, heq⟩ | ⟨rfl, heq, hcode, -⟩
    . rw [heq] at hv ⊢
      exact (h.events j v hv hpos).send.le (sent_le_send j)
    . simp [heq] at hv
    . rw [heq] at hv ⊢
      rw [hcode]
      exact (h.events_of_next hnext hv hpos).send.le (sent_le_send j)
  . intro j request hrequest hread
    dsimp only at hrequest ⊢
    rcases hcases j with heq | ⟨home, tap, phase, heq⟩ | ⟨rfl, heq, hcode, -⟩
    . rw [heq] at hrequest ⊢
      exact (h.requests j request hrequest hread).send
    . simp [heq] at hrequest
    . rw [heq] at hrequest ⊢
      rw [hcode]
      exact (h.requests_of_next hnext hrequest hread).send
  . intro j reply hreply hread
    dsimp only at hreply ⊢
    rcases hcases j with heq | ⟨home, tap, phase, heq⟩ | ⟨rfl, heq, hcode, -⟩
    . rw [heq] at hreply ⊢
      obtain ⟨keys, hkeys, hrest⟩ := h.replies j reply hreply hread
      exact ⟨keys, note_mono hkeys, hrest⟩
    . simp [heq] at hreply
    . rw [heq] at hreply ⊢
      rw [hcode]
      obtain ⟨keys, hkeys, hrest⟩ := h.replies_of_next horder hnext hreply hread
      exact ⟨keys, note_mono hkeys, hrest⟩
  . intro j reply hreply hread gameSettings
    dsimp only at hreply ⊢
    rcases hcases j with heq | ⟨home, tap, phase, heq⟩ | ⟨rfl, heq, hcode, -⟩
    . rw [heq] at hreply ⊢
      exact h.settings j reply hreply hread gameSettings
    . simp [heq] at hreply
    . rw [heq] at hreply ⊢
      rw [hcode]
      rcases hnext.of_mem_replies hreply with hreply | ⟨k, o, request, -, -, rfl⟩
      . exact h.settings j reply hreply hread gameSettings
      . exact id
  . intro j room hroom gameSettings hsettings
    dsimp only at hroom ⊢
    rcases hcases j with heq | ⟨home, tap, phase, heq⟩ | ⟨rfl, heq, hcode, -⟩
    . rw [heq] at hroom ⊢
      exact h.room j room hroom gameSettings hsettings
    . simp [heq] at hroom
    . rw [heq] at hroom ⊢
      rw [hcode]
      exact h.room_of_next hnext hroom hsettings
  . intro j controller hsheet
    dsimp only at hsheet ⊢
    rcases hcases j with heq | ⟨home, tap, phase, heq⟩ | ⟨rfl, heq, hcode, hkey⟩
    . rw [heq] at hsheet ⊢
      obtain ⟨keys, gameSettings, hkeys, hrest⟩ := h.sheets j controller hsheet
      exact ⟨keys, gameSettings, note_mono hkeys, hrest⟩
    . simp [heq] at hsheet
    . rw [heq] at hsheet ⊢
      rw [hcode, hkey]
      obtain ⟨keys, gameSettings, hkeys, hrest⟩ := h.sheet_of_next hnext hsheet
      exact ⟨keys, gameSettings, note_mono hkeys, hrest⟩

theorem RosterInv.step {a : Action ι δ} (h : s.RosterInv device) (hok : Settled device s a)
    (hstep : s.step device zone a = some t)
    : t.RosterInv device := by
  obtain ⟨halone, hfixed, hsame, horder⟩ := hok
  cases a with
  | session i a => exact h.step_session halone hsame horder hstep
  | process d => exact h.step_process hfixed hstep

omit [DecidableEq δ] [Fintype ι] [DecidableEq ι] in
theorem RosterInv.key_inj (h : s.RosterInv device) {i j : ι} (hi : (s.sessions i).sheet ≠ none)
    (hj : (s.sessions j).sheet ≠ none) (hkey : (s.sessions i).key = (s.sessions j).key)
    : i = j := by
  have htap : ∀ i, (s.sessions i).sheet ≠ none → (s.sessions i).tap ≠ none := by
    intro i hsheet hnone
    obtain ⟨home, hfresh⟩ := (h.host.sound.sessions i).fresh hnone
    exact hsheet (by rw [hfresh])
  exact h.host.sound.eq_of_key (htap i hi) (htap j hj) hkey

/--
If the roster is settled when the game is started, all who play it agree on the number of players
and of rounds, and have different numbers from 1 up to the number of players.
-/
theorem roster_agreement (device : ι → δ) (zone : TimeZone)
    (hist : List (Lobby ι δ × Action ι δ)) (s : Lobby ι δ)
    (hrun : (system device zone).Run (Settled device) hist s)
    : ∀ i j controller controller',
        (s.sessions i).sheet = some controller →
        (s.sessions j).sheet = some controller' →
        (s.sessions i).code = (s.sessions j).code →
          controller.numOfPlayers = controller'.numOfPlayers
            ∧ controller.numOfRounds = controller'.numOfRounds
            ∧ (1 ≤ controller.player.number ∧ controller.player.number ≤ controller.numOfPlayers)
            ∧ (i ≠ j → controller.player.number ≠ controller'.player.number) := by
  have hinv : s.RosterInv device := by
    apply hrun.invariant
    . rintro s rfl
      exact .empty
    . intro s a t h hok hstep
      exact h.step hok hstep
  intro i j controller controller' hi hj hcode
  obtain ⟨keys, gameSettings, hkeys, hsettings, hplayers, hrounds, k, hk, hnumber⟩ :=
    hinv.sheets i controller hi
  obtain ⟨keys', gameSettings', hkeys', hsettings', hplayers', hrounds', k', hk', hnumber'⟩ :=
    hinv.sheets j controller' hj
  rw [hcode, hkeys', Option.some.injEq] at hkeys
  subst hkeys
  rw [hcode, hsettings', Option.some.injEq] at hsettings
  subst hsettings
  have hlt := (List.getElem?_eq_some_iff.1 hk).1
  refine ⟨by rw [hplayers, hplayers'], by rw [hrounds, hrounds'], ⟨by omega, by omega⟩, ?_⟩
  intro hne heq
  apply hne
  apply hinv.key_inj (by simp [hi]) (by simp [hj])
  have : k = k' := by omega
  subst this
  rw [hk, Option.some.injEq] at hk'
  exact hk'

end Session

theorem roster_agreement_together
    : ∃ s : Duo,
        (∀ i, (s.sessions i).sheet.isSome = true)
          ∧ (s.sessions false).code = (s.sessions true).code
          ∧
        ∀ i j controller controller',
          (s.sessions i).sheet = some controller →
          (s.sessions j).sheet = some controller' →
          (s.sessions i).code = (s.sessions j).code →
            controller.numOfPlayers = controller'.numOfPlayers
              ∧ controller.numOfRounds = controller'.numOfRounds
              ∧ (1 ≤ controller.player.number ∧ controller.player.number ≤ controller.numOfPlayers)
              ∧ (i ≠ j → controller.player.number ≠ controller'.player.number) := by
  obtain ⟨hist, s, hrun, hsheets, hcode⟩ := TransitionSystem.exists_run_of_exec (Settled id)
    (S := system id .gmt)
    (P := fun _ (s : Duo) => (∀ i, (s.sessions i).sheet.isSome = true)
      ∧ (s.sessions false).code = (s.sessions true).code)
    (s := {}) rfl playTogether (by decide +kernel)
  exact ⟨s, hsheets, hcode, roster_agreement id .gmt hist s hrun⟩

/-- Someone joins after the host has been moved to the Sheet state, and counts one player more. -/
theorem not_roster_agreement_late_join
    : ¬∀ (hist : List (Duo × Action Bool Bool)) (s : Duo),
        (system id .gmt).Run (fun _ _ => True) hist s →
          ∀ i j controller controller',
            (s.sessions i).sheet = some controller →
            (s.sessions j).sheet = some controller' →
            (s.sessions i).code = (s.sessions j).code →
              controller.numOfPlayers = controller'.numOfPlayers
                ∧ controller.numOfRounds = controller'.numOfRounds
                ∧ (1 ≤ controller.player.number
                    ∧ controller.player.number ≤ controller.numOfPlayers)
                ∧ (i ≠ j → controller.player.number ≠ controller'.player.number) := by
  intro h
  obtain ⟨hist, s, hrun, hhost, hlate, hcode⟩ := TransitionSystem.exists_run_of_exec
    (fun _ _ => True) (S := system id .gmt)
    (P := fun _ (s : Duo) => (s.sessions false).sheet.map (·.numOfPlayers) = some 1
      ∧ (s.sessions true).sheet.map (·.numOfPlayers) = some 2
      ∧ (s.sessions false).code = (s.sessions true).code)
    (s := {}) rfl
    ([tapHost false 123456] ++ finishCall false ++ finishRead false
      ++ [.session false .startGame] ++ finishRead false ++ [.process false, .process false]
      ++ seeStart false ++ [tapJoin true 123456] ++ finishCall true ++ finishRead true
      ++ seeStart true)
    (by decide +kernel)
  rw [Option.map_eq_some_iff] at hhost hlate
  obtain ⟨controller, hhost, hone⟩ := hhost
  obtain ⟨controller', hlate, htwo⟩ := hlate
  have := (h hist s hrun false true controller controller' hhost hlate hcode).1
  omega

end Lobby

end SCatCh
