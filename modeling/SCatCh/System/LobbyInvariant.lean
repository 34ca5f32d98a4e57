import SCatCh.Storage.Players
import SCatCh.System.LobbyLemmas

/-!
This module contains what holds of the lobby in every run: nothing is stored under a code without a
host, and all that sessions ask for, have read and write belongs to their games.
-/

namespace SCatCh

structure Credible (db snapshot : Database) : Prop where
  hosted : ∀ code, GameExists snapshot code → Hosted db code
  keys : ∀ code key, (entry snapshot code key).leaves ≠ [] → ∃ id : UUID, key = id.uuidString

theorem keys_apply {db : Database} {w : Write}
    (h : ∀ code key, (entry db code key).leaves ≠ [] → ∃ id : UUID, key = id.uuidString)
    (hnumber : ∀ code key n, w = .number code key n → ∃ id : UUID, key = id.uuidString)
    {code : Int} {key : String} (hentry : (entry (w.apply db) code key).leaves ≠ [])
    : ∃ id : UUID, key = id.uuidString := by
  have hnext := entryNext w db code key
  generalize entry (w.apply db) code key = t at *
  cases hnext with
  | same => exact h code key hentry
  | host topic maxNumOfRounds roundTime id nickname joinDate hw hkey => exact ⟨id, hkey⟩
  | player id nickname joinDate hw hkey => exact ⟨id, hkey⟩
  | clear | remove => exact absurd rfl hentry
  | number n hw => exact hnumber code key n hw

namespace Session

def Asks (c : Session) (request : Request) : Prop :=
  match request.read with
  | .gameSettings => request.code = c.code
  | .players | .start =>
    request.code = 0
      ∨
    (request.code = c.code ∧ ∃ room, c.room = some room ∧ room.gameSettings.isSome = true)

structure Sound (db : Database) (c : Session) : Prop where
  fresh : c.tap = none → ∃ home, c = { home := home }
  range : ∀ tap, c.tap = some tap → tap.isHost = true → 100000 ≤ tap.code
  answered : ∀ snapshot, c.phase = .answered snapshot → Credible db snapshot
  closed : c.room ≠ none → c.phase = .closed
  room : ∀ room, c.room = some room → ∃ tap,
    c.tap = some tap ∧ room.player = tap.player ∧ room.isHost = tap.isHost
  code : ∀ room, c.room = some room → ∀ gameSettings, room.gameSettings = some gameSettings →
    gameSettings.code = c.code ∧ Hosted db c.code
  requests : ∀ request ∈ c.requests, c.Asks request
  replies : ∀ reply ∈ c.replies, c.Asks reply.request ∧ Credible db reply.snapshot

variable {zone : TimeZone} {db view : Database} {after : Nat} {c c' : Session} {a : Input}
  {ws : List Write}

theorem Sound.init (home : StateControllerHome) : Sound db { home := home } where
  fresh := fun _ => ⟨home, rfl⟩
  range := by simp
  answered := by simp
  closed := by simp
  room := by simp
  code := by simp
  requests := by simp
  replies := by simp

theorem Sound.mono {db' : Database} (h : Sound db c) (hdb : ∀ code, Hosted db code → Hosted db' code)
    : Sound db' c where
  fresh := h.fresh
  range := h.range
  answered := fun snapshot hphase =>
    ⟨fun code hcode => hdb _ ((h.answered snapshot hphase).hosted code hcode),
      (h.answered snapshot hphase).keys⟩
  closed := h.closed
  room := h.room
  code := fun room hroom gameSettings hsettings =>
    ⟨(h.code room hroom gameSettings hsettings).1, hdb _ (h.code room hroom gameSettings hsettings).2⟩
  requests := h.requests
  replies := fun reply hreply =>
    ⟨(h.replies reply hreply).1, fun code hcode => hdb _ ((h.replies reply hreply).2.hosted code hcode),
      (h.replies reply hreply).2.keys⟩

theorem Sound.getGameCode (h : Sound db c) {room : StateControllerWaitingRoom}
    (hroom : c.room = some room)
    : room.getGameCode = 0
        ∨
      (room.getGameCode = c.code ∧ room.gameSettings.isSome = true ∧ Hosted db c.code) := by
  unfold StateControllerWaitingRoom.getGameCode
  split
  . next gameSettings hsettings =>
    obtain ⟨hcode, hhosted⟩ := h.code room hroom gameSettings hsettings
    exact .inr ⟨hcode, by simp [hsettings], hhosted⟩
  . exact .inl rfl

theorem Asks.next {request : Request} (hasks : c.Asks request) (h : Sound db c) {tap : Tap}
    (htap : c.tap = some tap) (hnext : Next zone db view after c a c' ws)
    : c'.Asks request := by
  unfold Asks at *
  rw [hnext.code_eq htap]
  split at hasks
  . exact hasks
  all_goals
    rcases hasks with hzero | ⟨hcode, room, hroom, hsome⟩
    . exact .inl hzero
    . obtain ⟨room', hroom', hsettings⟩ := hnext.room_eq (h.closed (by simp [hroom])) hroom
      exact .inr ⟨hcode, room', hroom', hsettings hsome⟩

theorem Sound.next (h : Sound db c) (hdb : Credible db db)
    (hnext : Next zone db view after c a c' ws)
    : Sound db c' := by
  by_cases htap : c.tap = none
  . -- A session that has not begun either stays so or begins now.
    obtain ⟨home, rfl⟩ := h.fresh htap
    rcases hnext.fresh with ⟨home', rfl⟩ | htap'
    . exact .init home'
    . cases hnext with
      | tap tap _ hid hcode => exact ⟨by simp, by simpa using hcode, by simp, by simp, by simp, by simp,
          by simp, by simp⟩
      | _ => exact absurd rfl htap'
  . obtain ⟨tap, htap⟩ := Option.ne_none_iff_exists'.1 htap
    have htap' := hnext.tap_eq htap
    refine ⟨by simp [htap'], ?_, ?_, ?_, ?_, ?_, ?_, ?_⟩
    . intro tap' h'
      rw [htap', ← htap] at h'
      exact h.range tap' h'
    . intro snapshot hphase
      rcases hnext.of_answered hphase with hphase | ⟨-, -, rfl⟩
      . exact h.answered snapshot hphase
      . exact hdb
    . intro hroom'
      obtain ⟨room', hroom'⟩ := Option.ne_none_iff_exists'.1 hroom'
      rcases hnext.of_room hroom' with ⟨room, hroom, -⟩ | ⟨_, _, _, _, _, _, _, hclosed, _⟩
      . exact hnext.closed (by simp [htap]) (h.closed (by simp [hroom]))
      . exact hclosed
    . intro room' hroom'
      rcases hnext.of_room hroom' with ⟨room, hroom, hplayer, hhost, -⟩ | ⟨tap', _, _, h', _, _, _, _, rfl⟩
      . obtain ⟨tap', h', hplayer', hhost'⟩ := h.room room hroom
        exact ⟨tap', hnext.tap_eq h', hplayer.trans hplayer', hhost.trans hhost'⟩
      . exact ⟨tap', hnext.tap_eq h', rfl, rfl⟩
    . intro room' hroom' gameSettings hsettings
      rw [hnext.code_eq htap]
      rcases hnext.of_room hroom' with ⟨room, hroom, -, -, heq | ⟨reply, hreply, hread, gs, hgs, heq⟩⟩
        | ⟨_, _, _, _, _, _, _, _, rfl⟩
      . exact h.code room hroom gameSettings (heq.symm.trans hsettings)
      . rw [heq, Option.some.injEq] at hsettings
        subst hsettings
        obtain ⟨hasks, hcredible⟩ := h.replies reply hreply
        simp only [Asks, hread] at hasks
        rw [hasks] at hgs
        obtain ⟨hcode, hexists⟩ := getGameSettings_code hgs
        exact ⟨hcode, hcredible.hosted _ hexists⟩
      . simp at hsettings
    . intro request hrequest
      rcases hnext.of_mem_requests hrequest with hrequest | ⟨tap', h', hread, hcode⟩
        | ⟨room, hroom, hread, hcode⟩ | ⟨room, v, hroom, hv, hpos, rfl, hroom'⟩
      . exact (h.requests request hrequest).next h htap hnext
      . have : request.code = c'.code := by
          rw [hcode, hnext.code_eq htap, Session.code, h']
        simpa only [Asks, hread] using this
      . have hclosed : c.phase = .closed := h.closed (by simp [hroom])
        obtain ⟨room', hroom', hsettings⟩ := hnext.room_eq hclosed hroom
        simp only [Asks, hread, hnext.code_eq htap]
        rcases h.getGameCode hroom with hzero | ⟨hcode', hsome, -⟩
        . exact .inl (hcode.trans hzero)
        . exact .inr ⟨hcode.trans hcode', room', hroom', hsettings hsome⟩
      . simp only [Asks, hnext.code_eq htap]
        rcases h.getGameCode hroom with hzero | ⟨hcode', hsome, -⟩
        . exact .inl hzero
        . exact .inr ⟨hcode', room, hroom', hsome⟩
    . intro reply hreply
      rcases hnext.of_mem_replies hreply with hreply | ⟨k, order, request, -, hrequest, rfl⟩
      . obtain ⟨hasks, hcredible⟩ := h.replies reply hreply
        exact ⟨hasks.next h htap hnext, hcredible⟩
      . have hasks := h.requests request (List.mem_of_getElem? hrequest)
        exact ⟨hasks.next h htap hnext, hdb⟩

end Session

theorem Tap.write_cases {zone : TimeZone} {snapshot : Database} {tap : Tap} {w : Write}
    (h : tap.write zone snapshot = some w)
    : (tap.isHost = true
        ∧ ¬GameExists snapshot tap.code
        ∧ ∃ topic maxNumOfRounds roundTime,
            w = .game tap.code topic maxNumOfRounds roundTime tap.player.id tap.player.nickname
              (tap.player.joinDate.toString zone))
        ∨
      (tap.isHost = false
        ∧ GameExists snapshot tap.code
        ∧ w = .player tap.code tap.player.id tap.player.nickname
            (tap.player.joinDate.toString zone)) := by
  cases tap with
  | host code topic maxNumOfRounds roundTime player =>
    simp only [Tap.write, StorageControllerHome.hostGame] at h
    split at h
    . contradiction
    . next hexists =>
      rw [Option.some.injEq] at h
      exact .inl ⟨rfl, hexists, topic, maxNumOfRounds, roundTime, h.symm⟩
  | join player code =>
    simp only [Tap.write, StorageControllerHome.joinGame] at h
    split at h
    . next hexists =>
      rw [Option.some.injEq] at h
      exact .inr ⟨rfl, hexists, h.symm⟩
    . contradiction

namespace Lobby

variable {ι δ : Type} {device : ι → δ} {zone : TimeZone} {s t : Lobby ι δ} {i : ι} {d : δ} {w : Write}

def Sends (device : ι → δ) (s : Lobby ι δ) (d : δ) : Write → Prop
  | .game code .. => 100000 ≤ code
  | .player code .. => Hosted s.db code
  | .number code key _ => Hosted s.db code ∧ ∃ id : UUID, key = id.uuidString
  | .roundNum code _ => Hosted s.db code
  | .removePlayer _ id => ∃ i, device i = d
      ∧ (s.sessions i).left = true
      ∧ ∃ tap, (s.sessions i).tap = some tap ∧ tap.player.id = id
  | .sheet .. => False

variable (device) in
structure Sound (s : Lobby ι δ) : Prop where
  sessions : ∀ i, (s.sessions i).Sound s.db
  ids : ∀ i j tap tap', (s.sessions i).tap = some tap → (s.sessions j).tap = some tap' →
    tap.player.id = tap'.player.id → i = j
  credible : Credible s.db s.db
  range : ∀ code, Hosted s.db code → 100000 ≤ code
  outbox : ∀ d, ∀ w ∈ s.outbox d, s.Sends device d w

theorem Sends.inLobby (h : s.Sends device d w) : w.InLobby := by
  cases w with
  | sheet => exact h.elim
  | _ => trivial

theorem Sends.range (h : s.Sends device d w) {code : Int} (hgame : w.isGame code = true)
    : 100000 ≤ code := by
  cases w with
  | game =>
    simp only [Write.isGame, decide_eq_true_eq] at hgame
    subst hgame
    exact h
  | _ => simp [Write.isGame] at hgame

theorem Sends.hosted (h : s.Sends device d w) {code : Int} (hcode : w.code = code)
    (hgame : w.isGame code = false) (hremove : ∀ id, w ≠ .removePlayer code id)
    : Hosted s.db code := by
  subst hcode
  cases w with
  | game => simp [Write.isGame, Write.code] at hgame
  | player | roundNum => exact h
  | number => exact h.1
  | removePlayer code id => exact absurd rfl (hremove id)
  | sheet => exact h.elim

theorem Sends.mono (h : s.Sends device d w) (hdb : ∀ code, Hosted s.db code → Hosted t.db code)
    (hsessions : ∀ i, (s.sessions i).left = true → (t.sessions i).left = true
      ∧ ∀ tap, (s.sessions i).tap = some tap → (t.sessions i).tap = some tap)
    : t.Sends device d w := by
  cases w with
  | game | sheet => exact h
  | player | roundNum => exact hdb _ h
  | number => exact ⟨hdb _ h.1, h.2⟩
  | removePlayer code id =>
    obtain ⟨i, hd, hleft, tap, htap, hid⟩ := h
    exact ⟨i, hd, (hsessions i hleft).1, tap, (hsessions i hleft).2 tap htap, hid⟩

theorem Sound.of_gameExists (h : s.Sound device) (hw : s.Sends device d w) {code : Int}
    (hexists : GameExists (w.apply s.db) code)
    : w.isGame code = true ∨ Hosted s.db code := by
  cases hgame : w.isGame code with
  | true => exact .inl rfl
  | false =>
    right
    apply h.credible.hosted
    apply hexists.of_apply hgame
    intro hcode hremove
    exact (hw.hosted hcode hgame hremove).gameExists

theorem Sound.keys_apply (h : s.Sound device) (hw : s.Sends device d w) (code : Int) (key : String)
    (hentry : (entry (w.apply s.db) code key).leaves ≠ [])
    : ∃ id : UUID, key = id.uuidString := by
  apply SCatCh.keys_apply h.credible.keys _ hentry
  rintro code key n rfl
  exact hw.2

theorem Sound.empty : Sound device ({} : Lobby ι δ) where
  sessions := fun _ => .init {}
  ids := by simp
  credible := ⟨fun code hexists => by simp [GameExists, dataExists] at hexists,
    fun code key hentry => by simp [entry] at hentry⟩
  range := fun code hhosted => absurd hhosted not_hosted_empty
  outbox := by simp

theorem Sound.tap_of_room (h : s.Sound device) (hroom : (s.sessions i).room ≠ none)
    : ∃ tap, (s.sessions i).tap = some tap := by
  obtain ⟨room, hroom⟩ := Option.ne_none_iff_exists'.1 hroom
  obtain ⟨tap, htap, -⟩ := (h.sessions i).room room hroom
  exact ⟨tap, htap⟩

theorem Sound.eq_of_key (h : s.Sound device) {j : ι} (hi : (s.sessions i).tap ≠ none)
    (hj : (s.sessions j).tap ≠ none) (hkey : (s.sessions i).key = (s.sessions j).key)
    : i = j := by
  obtain ⟨tap, htap⟩ := Option.ne_none_iff_exists'.1 hi
  obtain ⟨tap', htap'⟩ := Option.ne_none_iff_exists'.1 hj
  simp only [Session.key, htap, htap', UUID.uuidString_inj] at hkey
  exact h.ids i j tap tap' htap htap' hkey

theorem Sound.new_id {a : Session.Input} {c : Session} {ws : List Write} {view : Database}
    {after : Nat} (h : s.Sound device) (hadm : s.Admissible i a)
    (hnext : Session.Next zone s.db view after (s.sessions i) a c ws) {j : ι} (hj : j ≠ i)
    {tap tap' : Tap} (htap : c.tap = some tap) (htap' : (s.sessions j).tap = some tap')
    : tap'.player.id ≠ tap.player.id := by
  intro hid
  rcases hnext.of_tap htap with htap | ⟨-, hnewId, -⟩
  . exact hj (h.ids j i tap' tap htap' htap hid)
  . -- The identifier of a new player is drawn by one of the two calls.
    cases a with
    | hostGame _ _ _ _ _ newId _ =>
      cases hnewId
      exact hadm.2 j tap' htap' hid
    | joinGame _ _ newId _ =>
      cases hnewId
      exact hadm.2 j tap' htap' hid
    | _ => simp [Session.Input.newId] at hnewId

variable [DecidableEq ι]

theorem Sound.update_cases (h : s.Sound device) {a : Session.Input} {c : Session} {ws : List Write}
    {view : Database} {after : Nat}
    (hnext : Session.Next zone s.db view after (s.sessions i) a c ws) (j : ι)
    : Function.update s.sessions i c j = s.sessions j
        ∨
      (∃ home tap phase, Function.update s.sessions i c j
        = { home := home, tap := tap, phase := phase })
        ∨
      (j = i ∧ Function.update s.sessions i c j = c
        ∧ c.code = (s.sessions i).code ∧ c.key = (s.sessions i).key) := by
  by_cases hj : j = i
  . subst hj
    rw [Function.update_self]
    by_cases htap : (s.sessions j).tap = none
    . -- A session that has not begun has no game that it could keep.
      obtain ⟨home, hhome⟩ := (h.sessions j).fresh htap
      rw [hhome] at hnext
      exact .inr (.inl hnext.unstarted)
    . obtain ⟨tap, htap⟩ := Option.ne_none_iff_exists'.1 htap
      exact .inr (.inr ⟨rfl, rfl, hnext.code_eq htap, hnext.key_eq htap⟩)
  . exact .inl (Function.update_of_ne hj ..)

theorem sends_of_next (h : s.Sound device) {a : Session.Input} {c : Session} {ws : List Write}
    {view : Database} {after : Nat}
    (hnext : Session.Next zone s.db view after (s.sessions i) a c ws)
    (ht : t = { s with
      sessions := Function.update s.sessions i c
      outbox := t.outbox
      numbering := t.numbering })
    : ∀ w ∈ ws, t.Sends device (device i) w := by
  intro w hw
  rcases hnext.of_mem_writes hw with ⟨tap, snapshot, htap, hphase, hwrite, -⟩
    | ⟨k, -, reply, hreply, -, rfl⟩ | ⟨room, hroom, rfl, -, hleft⟩
  . rcases Tap.write_cases hwrite with ⟨hhost, -, topic, maxNumOfRounds, roundTime, rfl⟩
      | ⟨-, hexists, rfl⟩
    . exact (h.sessions i).range tap htap hhost
    . rw [ht]
      exact ((h.sessions i).answered snapshot hphase).hosted _ hexists
  . obtain ⟨-, hcredible⟩ := (h.sessions i).replies reply (List.mem_of_getElem? hreply)
    rw [ht]
    rcases mem_startGame hw with ⟨hexists, ⟨key, n, rfl, hentry⟩ | rfl⟩
    . exact ⟨hcredible.hosted _ hexists, hcredible.keys _ _ hentry⟩
    . exact hcredible.hosted _ hexists
  . obtain ⟨tap, htap, hplayer, -⟩ := (h.sessions i).room room hroom
    refine ⟨i, rfl, ?_⟩
    rw [ht]
    dsimp only
    rw [Function.update_self]
    exact ⟨hleft, tap, hnext.tap_eq htap, by rw [hplayer]⟩

variable [Fintype ι] [DecidableEq δ]

theorem Sound.step_session {a : Session.Input} (h : s.Sound device)
    (hstep : s.step device zone (.session i a) = some t)
    : t.Sound device := by
  obtain ⟨hadm, c, ws, hnext, ht⟩ := Lobby.step_session hstep
  have hsends := sends_of_next h hnext (t := t) (by rw [ht])
  subst ht
  have hsessions : ∀ j, (s.sessions j).left = true →
      (Function.update s.sessions i c j).left = true
        ∧ ∀ tap, (s.sessions j).tap = some tap →
          (Function.update s.sessions i c j).tap = some tap := by
    intro j hleft
    refine ⟨left_update hnext hleft, ?_⟩
    by_cases hj : j = i
    . subst hj
      rw [Function.update_self]
      exact fun tap => hnext.tap_eq
    . rw [Function.update_of_ne hj]
      exact fun _ => id
  refine ⟨?_, ?_, h.credible, h.range, ?_⟩
  . apply (Function.forall_update_iff s.sessions fun _ c => c.Sound s.db).2
    exact ⟨(h.sessions i).next h.credible hnext, fun j _ => h.sessions j⟩
  . intro j k tap tap' hj hk hid
    apply eq_of_update (R := fun x y => ∃ tap tap', x.tap = some tap ∧ y.tap = some tap'
      ∧ tap.player.id = tap'.player.id) _ _ j k ⟨tap, tap', hj, hk, hid⟩
    . rintro j k ⟨tap, tap', hj, hk, hid⟩
      exact h.ids j k tap tap' hj hk hid
    . intro j hj
      constructor
      . rintro ⟨tap, tap', htap, htap', hid⟩
        exact h.new_id hadm hnext hj htap htap' hid.symm
      . rintro ⟨tap, tap', htap, htap', hid⟩
        exact h.new_id hadm hnext hj htap' htap hid
  . intro d w hw
    rw [mem_outbox_append] at hw
    rcases hw with hw | ⟨rfl, hw⟩
    . exact (h.outbox d w hw).mono (fun _ => id) hsessions
    . exact hsends w hw

theorem Sound.step_process (h : s.Sound device) (hstep : s.step device zone (.process d) = some t)
    : t.Sound device := by
  obtain ⟨write, writes, hout, rfl⟩ := Lobby.step_process hstep
  have hwrite := h.outbox d write (by simp [hout])
  have hdb : ∀ code, Hosted s.db code → Hosted (write.apply s.db) code :=
    fun code hcode => hcode.apply
  refine ⟨fun i => (h.sessions i).mono hdb, h.ids, ⟨?_, h.keys_apply hwrite⟩, ?_, ?_⟩
  . intro code hexists
    rcases h.of_gameExists hwrite hexists with hcode | hcode
    . exact hosted_of_isGame hcode
    . exact hdb code hcode
  . intro code hhosted
    rcases h.of_gameExists hwrite hhosted.gameExists with hcode | hcode
    . exact hwrite.range hcode
    . exact h.range code hcode
  . intro d' w hw
    exact (h.outbox d' w (mem_outbox_tail hout hw)).mono hdb fun i hleft => ⟨hleft, fun _ => id⟩

end Lobby

end SCatCh
