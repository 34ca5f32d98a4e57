import SCatCh.System.LobbyInvariant

/-!
This module contains the proof that hosting a game does not overwrite another one, provided that no
two hosts look for a game under one code before either of them has written its game.
-/

namespace SCatCh

namespace Session

def FoundFree (c : Session) (code : Int) : Prop :=
  match c.tap, c.phase with
  | some (.host code' ..), .answered snapshot => code' = code ∧ ¬GameExists snapshot code
  | _, _ => False

instance (c : Session) (code : Int) : Decidable (c.FoundFree code) := by
  unfold FoundFree
  split <;> infer_instance

def Hosts (c : Session) (code : Int) : Prop :=
  c.code = code ∧ ∃ room, c.room = some room ∧ room.isHost = true

variable {zone : TimeZone} {db view : Database} {after : Nat} {c c' : Session} {a : Input}
  {ws : List Write} {code : Int}

theorem foundFree_iff
    : c.FoundFree code
        ↔
      ∃ tap snapshot,
        c.tap = some tap
          ∧ tap.isHost = true
          ∧ tap.code = code
          ∧ c.phase = .answered snapshot
          ∧ ¬GameExists snapshot code := by
  unfold FoundFree
  constructor
  . intro h
    split at h
    . next code' topic maxNumOfRounds roundTime player snapshot htap hphase =>
      exact ⟨_, snapshot, htap, rfl, h.1, hphase, h.2⟩
    . exact h.elim
  . rintro ⟨tap, snapshot, htap, hhost, rfl, hphase, hfree⟩
    cases tap with
    | host => simpa [htap, hphase, Tap.code] using hfree
    | join => simp [Tap.isHost] at hhost

theorem Next.of_foundFree (h : Next zone db view after c a c' ws) (hfree : c'.FoundFree code)
    : c.FoundFree code
        ∨
      (a = .answerCall
        ∧ ¬GameExists db code
        ∧ ∃ tap, c.tap = some tap ∧ tap.isHost = true ∧ tap.code = code) := by
  obtain ⟨tap, snapshot, htap, hhost, hcode, hphase, hexists⟩ := foundFree_iff.1 hfree
  rcases h.of_answered hphase with hphase' | ⟨ha, hwaiting, rfl⟩
  . rcases h.of_tap htap with htap | ⟨hnone, hid, -⟩
    . exact .inl (foundFree_iff.2 ⟨tap, snapshot, htap, hhost, hcode, hphase', hexists⟩)
    . cases h with
      | tap => cases hphase
      | _ => exact absurd (hnone.symm.trans htap) (by simp)
  . rcases h.of_tap htap with htap | ⟨-, hid, -⟩
    . exact .inr ⟨ha, hexists, tap, htap, hhost, hcode⟩
    . rw [ha] at hid
      contradiction

theorem Next.of_mem_game (h : Next zone db view after c a c' ws) {w : Write} (hw : w ∈ ws)
    (hgame : w.isGame code = true)
    : c.FoundFree code ∧ ws = [w] ∧ c'.phase = .closed ∧ c'.Hosts code := by
  rcases h.of_mem_writes hw with ⟨tap, snapshot, htap, hphase, hwrite, hws, rfl⟩
    | ⟨k, -, reply, -, -, rfl⟩ | ⟨room, hroom, rfl, -⟩
  . rcases Tap.write_cases hwrite with ⟨hhost, hexists, topic, maxNumOfRounds, roundTime, rfl⟩
      | ⟨-, -, rfl⟩
    . simp only [Write.isGame, decide_eq_true_eq] at hgame
      subst hgame
      refine ⟨foundFree_iff.2 ⟨tap, snapshot, htap, hhost, rfl, hphase, hexists⟩, hws, rfl, ?_, ?_⟩
      . rw [h.code_eq htap, Session.code, htap]
      . exact ⟨_, rfl, hhost⟩
    . simp [Write.isGame] at hgame
  . rcases mem_startGame hw with ⟨-, ⟨key, n, rfl, -⟩ | rfl⟩ <;> simp [Write.isGame] at hgame
  . simp [Write.isGame] at hgame

theorem Next.of_hosts (h : Next zone db view after c a c' ws) (hsound : c.Sound db)
    (hhosts : c'.Hosts code)
    : c.Hosts code ∨ (c.FoundFree code ∧ ∃ w ∈ ws, w.isGame code = true) := by
  obtain ⟨hcode, room', hroom', hhost⟩ := hhosts
  rcases h.of_room hroom' with ⟨room, hroom, -, hisHost, -⟩
    | ⟨tap, snapshot, w, htap, hphase, hwrite, rfl, -, rfl⟩
  . obtain ⟨tap, htap, -⟩ := hsound.room room hroom
    rw [h.code_eq htap] at hcode
    exact .inl ⟨hcode, room, hroom, hisHost.symm.trans hhost⟩
  . rcases Tap.write_cases hwrite with ⟨-, hexists, topic, maxNumOfRounds, roundTime, rfl⟩
      | ⟨hjoin, -⟩
    . have : tap.code = code := by
        rw [← hcode, h.code_eq htap, Session.code, htap]
      subst this
      exact .inr ⟨foundFree_iff.2 ⟨tap, snapshot, htap, hhost, rfl, hphase, hexists⟩, _,
        List.mem_singleton_self _, by simp [Write.isGame]⟩
    . rw [hjoin] at hhost
      contradiction

theorem Hosts.next (hhosts : c.Hosts code) (hsound : c.Sound db)
    (h : Next zone db view after c a c' ws)
    : c'.Hosts code := by
  obtain ⟨hcode, room, hroom, hhost⟩ := hhosts
  obtain ⟨tap, htap, -⟩ := hsound.room room hroom
  have hclosed : c.phase = .closed := hsound.closed (by simp [hroom])
  obtain ⟨room', hroom', -⟩ := h.room_eq hclosed hroom
  refine ⟨(h.code_eq htap).trans hcode, room', hroom', ?_⟩
  rcases h.of_room hroom' with ⟨room₁, hroom₁, -, hisHost, -⟩ | ⟨_, _, _, _, hphase, _⟩
  . rw [hroom, Option.some.injEq] at hroom₁
    subst hroom₁
    exact hisHost.trans hhost
  . rw [hclosed] at hphase
    contradiction

end Session

namespace Lobby

variable {ι δ : Type} {device : ι → δ} {zone : TimeZone} {s t : Lobby ι δ} {i : ι} {d : δ}

/--
When a host reads that no game is stored under its code, no other host is between having read this
and having written its game.
-/
def HostAlone (s : Lobby ι δ) : Action ι δ → Prop
  | .session i .answerCall =>
    match (s.sessions i).tap with
    | some (.host code ..) => ¬GameExists s.db code →
        (∀ j, ¬(s.sessions j).FoundFree code) ∧ ∀ d, ∀ w ∈ s.outbox d, w.isGame code = false
    | _ => True
  | _ => True

instance [Fintype ι] [Fintype δ] (s : Lobby ι δ) (a : Action ι δ) : Decidable (HostAlone s a) := by
  unfold HostAlone
  split
  . split <;> infer_instance
  . infer_instance

theorem HostAlone.of_tap {tap : Tap} (h : HostAlone s (.session i .answerCall))
    (htap : (s.sessions i).tap = some tap) (hhost : tap.isHost = true)
    (hexists : ¬GameExists s.db tap.code)
    : (∀ j, ¬(s.sessions j).FoundFree tap.code)
        ∧ ∀ d, ∀ w ∈ s.outbox d, w.isGame tap.code = false := by
  cases tap with
  | host =>
    simp only [HostAlone, htap] at h
    exact h hexists
  | join => simp [Tap.isHost] at hhost

variable (device) in
structure HostInv (s : Lobby ι δ) : Prop where
  sound : s.Sound device
  free : ∀ i code, (s.sessions i).FoundFree code →
    ¬GameExists s.db code ∧ ∀ d, ∀ w ∈ s.outbox d, w.isGame code = false
  game : ∀ d, ∀ w ∈ s.outbox d, ∀ code, w.isGame code = true →
    ¬GameExists s.db code ∧ ∃ i, device i = d ∧ (s.sessions i).Hosts code
  once : ∀ d, (s.outbox d).Pairwise fun w w' => ∀ code, w.isGame code = true → w'.isGame code = false
  hosts : ∀ i code, (s.sessions i).Hosts code →
    Hosted s.db code ∨ ∃ w ∈ s.outbox (device i), w.isGame code = true
  unique : ∀ i j code, (s.sessions i).FoundFree code ∨ (s.sessions i).Hosts code →
    (s.sessions j).FoundFree code ∨ (s.sessions j).Hosts code → i = j

theorem HostInv.empty : HostInv device ({} : Lobby ι δ) where
  sound := .empty
  free := by simp [Session.FoundFree]
  game := by simp
  once := by simp
  hosts := by simp [Session.Hosts]
  unique := by simp [Session.Hosts, Session.FoundFree]

theorem HostInv.not_claimed (h : s.HostInv device) {a : Session.Input}
    (hok : HostAlone s (.session i a)) {code : Int} (ha : a = .answerCall)
    (hexists : ¬GameExists s.db code) {tap : Tap} (htap : (s.sessions i).tap = some tap)
    (hhost : tap.isHost = true) (hcode : tap.code = code) (j : ι)
    : ¬((s.sessions j).FoundFree code ∨ (s.sessions j).Hosts code) := by
  subst ha hcode
  obtain ⟨hfree, hgame⟩ := hok.of_tap htap hhost hexists
  rintro (hj | hj)
  . exact hfree j hj
  . rcases h.hosts j _ hj with hhosted | ⟨w, hw, hisGame⟩
    . exact hexists hhosted.gameExists
    . rw [hgame _ w hw] at hisGame
      contradiction

theorem HostInv.not_claimed_of_next {a : Session.Input} {c : Session} {ws : List Write}
    {view : Database} {after : Nat} (h : s.HostInv device) (hok : HostAlone s (.session i a))
    (hnext : Session.Next zone s.db view after (s.sessions i) a c ws) {j : ι} (hj : j ≠ i)
    {code : Int} (hclaim : (s.sessions j).FoundFree code ∨ (s.sessions j).Hosts code)
    : ¬(c.FoundFree code ∨ c.Hosts code) := by
  intro hc
  have hold : (s.sessions i).FoundFree code ∨ (s.sessions i).Hosts code := by
    rcases hc with hc | hc
    . rcases hnext.of_foundFree hc with hc | ⟨ha, hexists, tap, htap, hhost, hcode⟩
      . exact .inl hc
      . exact absurd hclaim (h.not_claimed hok ha hexists htap hhost hcode j)
    . rcases hnext.of_hosts (h.sound.sessions i) hc with hc | ⟨hc, -⟩
      . exact .inr hc
      . exact .inl hc
  exact hj (h.unique j i code hclaim hold)

theorem HostInv.isGame_eq_false (h : s.HostInv device) {w : Write} (hw : w ∈ s.outbox d) {code : Int}
    (hexists : GameExists s.db code)
    : w.isGame code = false := by
  cases hgame : w.isGame code with
  | false => rfl
  | true => exact absurd hexists (h.game d w hw code hgame).1

theorem HostInv.getGameSettings_apply (h : s.HostInv device) {w : Write} (hw : w ∈ s.outbox d)
    {code : Int} {gameSettings : GameSettings}
    (hsettings : StorageControllerWaitingRoom.getGameSettings s.db code = some gameSettings)
    : StorageControllerWaitingRoom.getGameSettings (w.apply s.db) code = some gameSettings := by
  have hexists := (getGameSettings_code hsettings).2
  rw [SCatCh.getGameSettings_apply (h.sound.credible.hosted _ hexists)
    (h.isGame_eq_false hw hexists)]
  exact hsettings

theorem HostInv.entry_apply (h : s.HostInv device) {w : Write} (hw : w ∈ s.outbox d) {code : Int}
    {key : String} (hentry : (entry s.db code key).leaves ≠ [])
    (hremove : ∀ id, w = .removePlayer code id → id.uuidString ≠ key)
    : (entry (w.apply s.db) code key).leaves ≠ [] := by
  have hgame := h.isGame_eq_false hw (gameExists_of_entry hentry)
  exact entry_apply_ne_nil hgame hremove hentry

theorem HostInv.not_gameExists_apply (h : s.HostInv device) {write : Write} {writes : List Write}
    (hout : s.outbox d = write :: writes) {code : Int} (hgame : write.isGame code = false)
    (hexists : ¬GameExists s.db code)
    : ¬GameExists (write.apply s.db) code := by
  intro hexists'
  rcases h.sound.of_gameExists (h.sound.outbox d write (by simp [hout])) hexists' with hw | hhosted
  . rw [hgame] at hw
    contradiction
  . exact hexists hhosted.gameExists

/-- No game is stored under the code when a host's write takes effect. -/
def HostsAnew (s : Lobby ι δ) : Action ι δ → Prop
  | .process d => ∀ w ∈ (s.outbox d).head?, ∀ code, w.isGame code = true → ¬GameExists s.db code
  | .session .. => True

theorem HostInv.hostsAnew (h : s.HostInv device) (a : Action ι δ) : HostsAnew s a := by
  cases a with
  | session i a => trivial
  | process d =>
    intro w hw code hgame
    exact (h.game d w (List.mem_of_mem_head? hw) code hgame).1

section Step

variable [Fintype ι] [DecidableEq ι] [DecidableEq δ]

omit [Fintype ι] [DecidableEq δ] in
theorem HostInv.free_of_next {a : Session.Input} {c : Session} {ws : List Write}
    {view : Database} {after : Nat} (h : s.HostInv device) (hok : HostAlone s (.session i a))
    (hnext : Session.Next zone s.db view after (s.sessions i) a c ws) {j : ι} {code : Int}
    (hfree : (Function.update s.sessions i c j).FoundFree code)
    : (¬GameExists s.db code ∧ ∀ d, ∀ w ∈ s.outbox d, w.isGame code = false)
        ∧ ∀ w ∈ ws, w.isGame code = false := by
  by_cases hj : j = i
  . subst hj
    rw [Function.update_self] at hfree
    constructor
    . rcases hnext.of_foundFree hfree with hfree | ⟨rfl, hexists, tap, htap, hhost, rfl⟩
      . exact h.free j code hfree
      . exact ⟨hexists, (hok.of_tap htap hhost hexists).2⟩
    . intro w hw
      cases hgame : w.isGame code with
      | false => rfl
      | true =>
        obtain ⟨-, -, hclosed, -⟩ := hnext.of_mem_game hw hgame
        obtain ⟨_, _, _, _, _, hphase, _⟩ := Session.foundFree_iff.1 hfree
        rw [hclosed] at hphase
        contradiction
  . -- A game that is written now was found free by this session and by no other.
    rw [Function.update_of_ne hj] at hfree
    refine ⟨h.free j code hfree, fun w hw => ?_⟩
    cases hgame : w.isGame code with
    | false => rfl
    | true =>
      have hfound := (hnext.of_mem_game hw hgame).1
      exact absurd (h.unique j i code (.inl hfree) (.inl hfound)) hj

theorem HostInv.step_session {a : Session.Input} (h : s.HostInv device)
    (hok : HostAlone s (.session i a)) (hstep : s.step device zone (.session i a) = some t)
    : t.HostInv device := by
  have hsound := h.sound.step_session hstep
  obtain ⟨-, c, ws, hnext, rfl⟩ := Lobby.step_session hstep
  refine ⟨hsound, ?_, ?_, ?_, ?_, ?_⟩
  . intro j code hfree
    obtain ⟨⟨hexists, hold⟩, hnew⟩ := h.free_of_next hok hnext hfree
    refine ⟨hexists, fun d w hw => ?_⟩
    rw [mem_outbox_append] at hw
    rcases hw with hw | ⟨-, hw⟩
    . exact hold d w hw
    . exact hnew w hw
  . intro d w hw code hgame
    rw [mem_outbox_append] at hw
    rcases hw with hw | ⟨rfl, hw⟩
    . obtain ⟨hexists, j, hj, hhosts⟩ := h.game d w hw code hgame
      refine ⟨hexists, j, hj, ?_⟩
      dsimp only
      by_cases hji : j = i
      . subst hji
        rw [Function.update_self]
        exact hhosts.next (h.sound.sessions j) hnext
      . rwa [Function.update_of_ne hji]
    . obtain ⟨hfound, -, -, hhosts⟩ := hnext.of_mem_game hw hgame
      refine ⟨(h.free i code hfound).1, i, rfl, ?_⟩
      dsimp only
      rwa [Function.update_self]
  . apply pairwise_outbox_append h.once
    . rw [List.pairwise_iff_forall_sublist]
      intro w w' hsub code hgame
      obtain ⟨-, hws, -⟩ := hnext.of_mem_game (hsub.subset (by simp)) hgame
      rw [hws] at hsub
      simpa using hsub.length_le
    . intro w hw w' hw' code hgame
      cases hgame' : w'.isGame code with
      | false => rfl
      | true =>
        have := (h.free i code (hnext.of_mem_game hw' hgame').1).2 _ w hw
        rw [hgame] at this
        contradiction
  . intro j code hhosts
    have hold : (s.sessions j).Hosts code → Hosted s.db code ∨ ∃ w ∈ Function.update s.outbox
        (device i) (s.outbox (device i) ++ ws) (device j), w.isGame code = true := by
      intro hhosts
      rcases h.hosts j code hhosts with hhosted | ⟨w, hw, hgame⟩
      . exact .inl hhosted
      . exact .inr ⟨w, mem_outbox_append.2 (.inl hw), hgame⟩
    dsimp only at hhosts ⊢
    by_cases hj : j = i
    . subst hj
      rw [Function.update_self] at hhosts
      rcases hnext.of_hosts (h.sound.sessions j) hhosts with hhosts | ⟨-, w, hw, hgame⟩
      . exact hold hhosts
      . exact .inr ⟨w, mem_outbox_append.2 (.inr ⟨rfl, hw⟩), hgame⟩
    . rw [Function.update_of_ne hj] at hhosts
      exact hold hhosts
  . intro j k code hj hk
    apply eq_of_update (R := fun x y => (x.FoundFree code ∨ x.Hosts code)
      ∧ (y.FoundFree code ∨ y.Hosts code)) _ _ j k ⟨hj, hk⟩
    . rintro j k ⟨hj, hk⟩
      exact h.unique j k code hj hk
    . intro j hj
      constructor
      . rintro ⟨hc, hclaim⟩
        exact h.not_claimed_of_next hok hnext hj hclaim hc
      . rintro ⟨hclaim, hc⟩
        exact h.not_claimed_of_next hok hnext hj hclaim hc

theorem HostInv.step_process (h : s.HostInv device)
    (hstep : s.step device zone (.process d) = some t)
    : t.HostInv device := by
  have hsound := h.sound.step_process hstep
  obtain ⟨write, writes, hout, rfl⟩ := Lobby.step_process hstep
  have hmem : write ∈ s.outbox d := by simp [hout]
  refine ⟨hsound, ?_, ?_, ?_, ?_, h.unique⟩
  . intro i code hfree
    obtain ⟨hexists, hgame⟩ := h.free i code hfree
    refine ⟨h.not_gameExists_apply hout (hgame d write hmem) hexists, fun d' w hw => ?_⟩
    exact hgame d' w (mem_outbox_tail hout hw)
  . intro d' w hw code hgame
    obtain ⟨hexists, j, hj, hhosts⟩ := h.game d' w (mem_outbox_tail hout hw) code hgame
    refine ⟨h.not_gameExists_apply hout ?_ hexists, j, hj, hhosts⟩
    cases hwrite : write.isGame code with
    | false => rfl
    | true =>
      -- Two games with one code would be of one host, and so in one outbox.
      obtain ⟨-, k, hk, hhosts'⟩ := h.game d write hmem code hwrite
      have hjk := h.unique j k code (.inr hhosts) (.inr hhosts')
      have hd : d' = d := by rw [← hj, ← hk, hjk]
      subst hd
      have honce := h.once d'
      rw [hout, List.pairwise_cons] at honce
      dsimp only at hw
      rw [Function.update_self] at hw
      rw [honce.1 w hw code hwrite] at hgame
      contradiction
  . intro d'
    dsimp only
    by_cases hd : d' = d
    . subst hd
      rw [Function.update_self]
      have honce := h.once d'
      rw [hout, List.pairwise_cons] at honce
      exact honce.2
    . rw [Function.update_of_ne hd]
      exact h.once d'
  . intro i code hhosts
    rcases h.hosts i code hhosts with hhosted | ⟨w, hw, hgame⟩
    . exact .inl hhosted.apply
    . by_cases hd : device i = d
      . subst hd
        dsimp only
        rw [Function.update_self]
        rw [hout, List.mem_cons] at hw
        rcases hw with rfl | hw
        . exact .inl (hosted_of_isGame hgame)
        . exact .inr ⟨w, hw, hgame⟩
      . dsimp only
        rw [Function.update_of_ne hd]
        exact .inr ⟨w, hw, hgame⟩

theorem HostInv.step {a : Action ι δ} (h : s.HostInv device) (hok : HostAlone s a)
    (hstep : s.step device zone a = some t)
    : t.HostInv device := by
  cases a with
  | session i a => exact h.step_session hok hstep
  | process d => exact h.step_process hstep

/-- The entry of a player disappears only by the removal with which the player leaves. -/
def RemovesOwn (device : ι → δ) (s : Lobby ι δ) (a : Action ι δ) (t : Lobby ι δ) : Prop :=
  ∀ code key, (entry s.db code key).leaves ≠ [] → (entry t.db code key).leaves = [] →
    ∃ i tap,
      a = .process (device i)
        ∧ (s.outbox (device i)).head? = some (.removePlayer code tap.player.id)
        ∧ (s.sessions i).left = true
        ∧ (s.sessions i).tap = some tap
        ∧ tap.player.id.uuidString = key

theorem HostInv.removesOwn (h : s.HostInv device) {a : Action ι δ}
    (hstep : s.step device zone a = some t)
    : RemovesOwn device s a t := by
  intro code key hbefore hafter
  cases a with
  | session i a =>
    obtain ⟨-, c, ws, -, rfl⟩ := Lobby.step_session hstep
    exact absurd hafter hbefore
  | process d =>
    obtain ⟨write, writes, hout, rfl⟩ := Lobby.step_process hstep
    have hmem : write ∈ s.outbox d := by simp [hout]
    by_cases hremove : ∃ id, write = .removePlayer code id ∧ id.uuidString = key
    . obtain ⟨id, rfl, rfl⟩ := hremove
      obtain ⟨i, rfl, hleft, tap, htap, rfl⟩ := h.sound.outbox d _ hmem
      exact ⟨i, tap, rfl, by rw [hout]; rfl, hleft, htap, rfl⟩
    . apply absurd hafter
      apply h.entry_apply hmem hbefore
      intro id hwrite hkey
      exact hremove ⟨id, hwrite, hkey⟩

/--
If hosts do not look for one code at the same time, no game is overwritten, a game has one host, and
players stay until they leave.
-/
theorem hosting_keeps_games (device : ι → δ) (zone : TimeZone)
    (hist : List (Lobby ι δ × Action ι δ)) (s : Lobby ι δ)
    (hrun : (system device zone).Run HostAlone hist s)
    : (∀ i j code, (s.sessions i).Hosts code → (s.sessions j).Hosts code → i = j)
        ∧
      ∀ x ∈ hist, ∃ t,
        x.1.step device zone x.2 = some t ∧ HostsAnew x.1 x.2 ∧ RemovesOwn device x.1 x.2 t := by
  have hinv : ∀ hist s, (system device zone).Run HostAlone hist s → HostInv device s := by
    intro hist s hrun
    apply hrun.invariant
    . rintro s rfl
      exact .empty
    . intro s a t h hok hstep
      exact h.step hok hstep
  constructor
  . intro i j code hi hj
    exact (hinv hist s hrun).unique i j code (.inr hi) (.inr hj)
  . apply hrun.forall_mem (Q := fun s a t => HostsAnew s a ∧ RemovesOwn device s a t) hinv
    intro s a t h _ hstep
    exact ⟨h.hostsAnew a, h.removesOwn hstep⟩

end Step

abbrev Duo := Lobby Bool Bool

def tapHost (i : Bool) (code : Int) : Action Bool Bool :=
  .session i (.hostGame "" 3 1 "Host" code (.ofNat (if i then 2 else 1)) ⟨0⟩)

def tapJoin (i : Bool) (code : Int) : Action Bool Bool :=
  .session i (.joinGame "Player" code (.ofNat (if i then 2 else 1)) ⟨0⟩)

def finishCall (i : Bool) : List (Action Bool Bool) :=
  [.session i .answerCall, .session i .handleCall, .process i]

theorem hosting_keeps_games_duo
    : ∃ (hist : List (Duo × Action Bool Bool)) (s : Duo),
        (GameExists s.db 123456
          ∧ (s.sessions false).room.isSome = true
          ∧ (s.sessions true).room.isSome = true)
          ∧
        (∀ i j code, (s.sessions i).Hosts code → (s.sessions j).Hosts code → i = j)
          ∧
        ∀ x ∈ hist, ∃ t,
          x.1.step id .gmt x.2 = some t ∧ HostsAnew x.1 x.2 ∧ RemovesOwn id x.1 x.2 t := by
  obtain ⟨hist, s, hrun, hrooms⟩ := TransitionSystem.exists_run_of_exec HostAlone
    (S := system id .gmt)
    (P := fun _ (s : Duo) => GameExists s.db 123456
      ∧ (s.sessions false).room.isSome = true ∧ (s.sessions true).room.isSome = true)
    (s := {}) rfl
    ([tapHost false 123456] ++ finishCall false ++ [tapJoin true 123456] ++ finishCall true)
    (by decide +kernel)
  exact ⟨hist, s, hrooms, hosting_keeps_games id .gmt hist s hrun⟩

/-- Both hosts find no game under their code, and the second one overwrites the game of the first. -/
theorem not_hostsAnew_same_code
    : ¬∀ (hist : List (Duo × Action Bool Bool)) (s : Duo),
        (system id .gmt).Run (fun _ _ => True) hist s →
          (∀ i j code, (s.sessions i).Hosts code → (s.sessions j).Hosts code → i = j)
            ∧
          ∀ x ∈ hist, ∃ t,
            x.1.step id .gmt x.2 = some t ∧ HostsAnew x.1 x.2 ∧ RemovesOwn id x.1 x.2 t := by
  intro h
  obtain ⟨hist, s, hrun, hrooms, hcode⟩ := TransitionSystem.exists_run_of_exec (fun _ _ => True)
    (S := system id .gmt)
    (P := fun _ (s : Duo) => (∀ i, (s.sessions i).room.any (·.isHost) = true)
      ∧ ∀ i, (s.sessions i).code = 123456)
    (s := {}) rfl
    ([tapHost false 123456, tapHost true 123456, .session false .answerCall,
      .session true .answerCall, .session false .handleCall, .session true .handleCall,
      .process false, .process true])
    (by decide +kernel)
  have hosts : ∀ i, (s.sessions i).Hosts 123456 := by
    intro i
    have hroom := hrooms i
    rw [Option.any_eq_true] at hroom
    exact ⟨hcode i, hroom⟩
  exact absurd ((h hist s hrun).1 false true 123456 (hosts false) (hosts true)) (by decide)

end Lobby

end SCatCh
