import SCatCh.System.Ownership

/-!
This module contains `StateController_Root` of each device of the lobby: which of the device's
controllers is shown, and so which buttons can be tapped. One device may have several sessions, as
nothing keeps it from tapping Host or Join again while a call is under way, and from each of them it
may have an entry in the database.
-/

namespace SCatCh

/-- What a device shows. Of the controllers of its sessions the last one to be created is current. -/
inductive Root (ι : Type) where
  | home
  | waitingRoom (i : ι)
  | sheet (i : ι)
  deriving DecidableEq

namespace Session

def succeeds (zone : TimeZone) (c : Session) : Bool :=
  match c.tap, c.phase with
  | some tap, .answered snapshot => (tap.write zone snapshot).isSome
  | _, _ => false

def isLast (c : Session) (k : Nat) : Bool :=
  match c.room, c.replies[k]? with
  | some room, some ⟨⟨.players, code, _⟩, snapshot, order⟩ =>
    match StorageControllerWaitingRoom.getPlayers order snapshot code with
    | some (some players) => (room.handlePlayers players).isSome
    | _ => false
  | _, _ => false

/-- `moveToState_WaitingRoom`, `moveToState_Home` and `moveToState_Sheet` -/
def moves {ι : Type} (zone : TimeZone) (c : Session) (i : ι) : Input → Option (Root ι)
  | .handleCall => if c.succeeds zone = true then some (.waitingRoom i) else none
  | .leaveGame => some .home
  | .handle k => if c.isLast k = true then some (.sheet i) else none
  | _ => none

def removal (c : Session) : Option Write :=
  c.tap.map fun tap => StorageControllerWaitingRoom.removePlayer tap.code tap.player.id

end Session

structure Devices (ι δ : Type) where
  lobby : Lobby ι δ := {}
  root : δ → Root ι := fun _ => .home
  -- Has the removal of the session's entry taken effect?
  removed : ι → Bool := fun _ => false

namespace Devices

variable {ι δ : Type} [Fintype ι] [DecidableEq ι] [DecidableEq δ] (device : ι → δ) (zone : TimeZone)

/-- Is the button shown? All else happens whatever is shown. -/
def Shown (s : Devices ι δ) (i : ι) : Session.Input → Prop
  | .hostGame .. | .joinGame .. => s.root (device i) = .home
  | .leaveGame | .startGame => s.root (device i) = .waitingRoom i
  | .answerCall | .failCall | .handleCall | .answer .. | .fail .. | .handle .. | .raisePlayers
  | .deliverPlayers .. | .raiseRoundNum | .deliverRoundNum
    => True

instance (s : Devices ι δ) (i : ι) (a : Session.Input) : Decidable (s.Shown device i a) := by
  unfold Shown
  induction a using Session.Input.casesOn <;> infer_instance

def step (s : Devices ι δ) : Lobby.Action ι δ → Option (Devices ι δ)
  | .session i a =>
    if s.Shown device i a then
      match s.lobby.step device zone (.session i a) with
      | some lobby => some { s with
          lobby := lobby
          root := match (s.lobby.sessions i).moves zone i a with
            | some root => Function.update s.root (device i) root
            | none => s.root }
      | none => none
    else
      none
  | .process d =>
    match s.lobby.step device zone (.process d) with
    | some lobby => some { s with
        lobby := lobby
        removed := fun i => s.removed i
          || (decide (device i = d) && (s.lobby.sessions i).removal.any
            fun w => decide ((s.lobby.outbox d).head? = some w)) }
    | none => none

def system : TransitionSystem (Devices ι δ) (Lobby.Action ι δ) where
  init := fun s => s = {}
  step := step device zone

/-- `leaveGame` has sent the removal of the session's entry, whether or not it has taken effect. -/
def Leaves (s : Devices ι δ) (i : ι) : Prop :=
  s.removed i = true ∨ ∃ w ∈ (s.lobby.sessions i).removal, w ∈ s.lobby.outbox (device i)

instance (s : Devices ι δ) (i : ι) : Decidable (s.Leaves device i) :=
  inferInstanceAs (Decidable (_ ∨ _))

/-- The entry of the session is stored, and `leaveGame` has not removed it. -/
def Keeps (s : Devices ι δ) (i : ι) : Prop :=
  (s.lobby.sessions i).tap ≠ none
    ∧
  (entry s.lobby.db (s.lobby.sessions i).code (s.lobby.sessions i).key).leaves ≠ []
    ∧
  s.removed i = false

instance (s : Devices ι δ) (i : ι) : Decidable (s.Keeps i) :=
  inferInstanceAs (Decidable (_ ∧ _ ∧ _))

/--
A device gets into a waiting room only if it has left every waiting room that it has been in, knowing
the game that it was in.
-/
def EntersAlone (s : Devices ι δ) : Lobby.Action ι δ → Prop
  | .session i .handleCall => (s.lobby.sessions i).succeeds zone = true →
      ∀ j, j ≠ i → device j = device i → (s.lobby.sessions j).room ≠ none → s.Leaves device j
  | .session _ (.hostGame ..) | .session _ (.joinGame ..) | .session _ .answerCall
  | .session _ .failCall | .session _ (.answer ..) | .session _ (.fail ..)
  | .session _ (.handle ..) | .session _ .raisePlayers | .session _ (.deliverPlayers ..)
  | .session _ .raiseRoundNum | .session _ .deliverRoundNum | .session _ .leaveGame
  | .session _ .startGame | .process _
    => True

instance (s : Devices ι δ) (a : Lobby.Action ι δ) : Decidable (EntersAlone device zone s a) := by
  unfold EntersAlone
  induction a using Lobby.Action.casesOn with
  | session i a => induction a using Session.Input.casesOn <;> infer_instance
  | process d => infer_instance

end Devices

/-! # Steps -/

namespace Session

variable {zone : TimeZone} {db view : Database} {after : Nat} {c c' : Session} {a : Input}
  {ws : List Write}

theorem Next.of_new_room (h : Next zone db view after c a c' ws) (hnone : c.room = none)
    (hroom : c'.room ≠ none)
    : a = .handleCall ∧ c.succeeds zone = true ∧ ∃ w ∈ ws, w.Enters c'.code c'.key := by
  cases h with
  | handleCall tap snapshot write htap hphase hwrite =>
    refine ⟨rfl, by simp [succeeds, htap, hphase, hwrite], write, List.mem_singleton_self _, ?_⟩
    have hcode : (c.enter (after + 1) tap).code = tap.code := by simp [code, enter, htap]
    have hkey : (c.enter (after + 1) tap).key = tap.player.id.uuidString := by simp [key, enter, htap]
    rw [hcode, hkey]
    rcases Tap.write_cases hwrite with ⟨-, -, _, _, _, rfl⟩ | ⟨-, -, rfl⟩
    . exact ⟨rfl, rfl⟩
    . exact ⟨rfl, rfl⟩
  | gameSettings k room reply gameSettings hroom' =>
    rw [hnone] at hroom'
    contradiction
  | updatePlayers room node players ps hroom' =>
    rw [hnone] at hroom'
    contradiction
  | _ => exact absurd hnone hroom

theorem Next.removal_eq (h : Next zone db view after c a c' ws) {w : Write} (hw : c.removal = some w)
    : c'.removal = some w := by
  unfold removal at hw ⊢
  rw [Option.map_eq_some_iff] at hw ⊢
  obtain ⟨tap, htap, rfl⟩ := hw
  exact ⟨tap, h.tap_eq htap, rfl⟩

end Session

namespace Devices

variable {ι δ : Type} {device : ι → δ} {zone : TimeZone} {s t : Devices ι δ} {i j : ι} {d : δ}

section Step

variable [Fintype ι] [DecidableEq ι] [DecidableEq δ]

theorem step_session {a : Session.Input} (h : s.step device zone (.session i a) = some t)
    : ∃ lobby, s.lobby.step device zone (.session i a) = some lobby
        ∧
      t = { s with
        lobby := lobby
        root := match (s.lobby.sessions i).moves zone i a with
          | some root => Function.update s.root (device i) root
          | none => s.root } := by
  simp only [step] at h
  split at h
  . split at h
    . next lobby hlobby =>
      rw [Option.some.injEq] at h
      exact ⟨lobby, hlobby, h.symm⟩
    . contradiction
  . contradiction

theorem step_process (h : s.step device zone (.process d) = some t)
    : ∃ lobby, s.lobby.step device zone (.process d) = some lobby
        ∧
      t = { s with
        lobby := lobby
        removed := fun i => s.removed i
          || (decide (device i = d) && (s.lobby.sessions i).removal.any
            fun w => decide ((s.lobby.outbox d).head? = some w)) } := by
  simp only [step] at h
  split at h
  . next lobby hlobby =>
    rw [Option.some.injEq] at h
    exact ⟨lobby, hlobby, h.symm⟩
  . contradiction

end Step

theorem root_eq_waitingRoom [DecidableEq δ] {a : Session.Input} {c : Session} {root : δ → Root ι} {k : ι}
    (h : (match c.moves zone i a with
      | some r => Function.update root (device i) r
      | none => root) d = .waitingRoom k)
    : (k = i ∧ d = device i ∧ a = .handleCall ∧ c.succeeds zone = true)
        ∨
      (root d = .waitingRoom k ∧ (d = device i → a = .handleCall → c.succeeds zone = false)) := by
  by_cases hd : d = device i
  . subst hd
    cases a with
    | handleCall =>
      simp only [Session.moves] at h
      cases hsucceeds : c.succeeds zone with
      | true =>
        simp only [hsucceeds, if_true, Function.update_self, Root.waitingRoom.injEq] at h
        exact .inl ⟨h.symm, rfl, rfl, rfl⟩
      | false => exact .inr ⟨by simpa [hsucceeds] using h, fun _ _ => rfl⟩
    | leaveGame => simp [Session.moves] at h
    | handle n =>
      simp only [Session.moves] at h
      cases hlast : c.isLast n with
      | true => simp [hlast] at h
      | false => exact .inr ⟨by simpa [hlast] using h, fun _ ha => by contradiction⟩
    | _ => exact .inr ⟨h, fun _ ha => by contradiction⟩
  . refine .inr ⟨?_, fun hd' => absurd hd' hd⟩
    cases hmoves : c.moves zone i a with
    | some r =>
      rw [hmoves] at h
      dsimp only at h
      rwa [Function.update_of_ne hd] at h
    | none =>
      rw [hmoves] at h
      exact h

/-! # Runs -/

variable (device) in
structure Inv (s : Devices ι δ) : Prop where
  owned : s.lobby.Owned device
  left : ∀ i, s.Leaves device i → (s.lobby.sessions i).left = true
  alone : ∀ i j, i ≠ j → device i = device j → (s.lobby.sessions i).room ≠ none →
    (s.lobby.sessions j).room ≠ none → s.Leaves device i ∨ s.Leaves device j
  root : ∀ i k, s.root (device i) = .waitingRoom k → (s.lobby.sessions i).room ≠ none →
    i = k ∨ s.Leaves device i
  order : ∀ i j, i ≠ j → device i = device j → (s.lobby.sessions j).room ≠ none →
    ∀ w ∈ (s.lobby.sessions i).removal, ∀ pre post, s.lobby.outbox (device i) = pre ++ w :: post →
      s.removed j = true
        ∨ (∃ w' ∈ (s.lobby.sessions j).removal, w' ∈ pre)
        ∨ ∃ w' ∈ post, w'.Enters (s.lobby.sessions j).code (s.lobby.sessions j).key

theorem Inv.empty : Inv device ({} : Devices ι δ) where
  owned := .empty
  left := by simp [Leaves, Session.removal]
  alone := by simp
  root := by simp
  order := by simp

theorem Leaves.process [DecidableEq δ] {write : Write} {writes : List Write} {db : Database} {processed : δ → Nat}
    (hout : s.lobby.outbox d = write :: writes) (h : s.Leaves device j)
    : Leaves device { s with
        lobby := { s.lobby with
          db := db
          outbox := Function.update s.lobby.outbox d writes
          processed := processed }
        removed := fun i => s.removed i
          || (decide (device i = d) && (s.lobby.sessions i).removal.any
            fun w => decide ((s.lobby.outbox d).head? = some w)) } j := by
  rcases h with h | ⟨w, hw, hmem⟩
  . exact .inl (by simp [h])
  . by_cases hd : device j = d
    . subst hd
      rw [hout, List.mem_cons] at hmem
      rcases hmem with rfl | hmem
      . -- This is the write that takes effect now.
        rw [Option.mem_def] at hw
        exact .inl (by simp [hw, hout])
      . exact .inr ⟨w, hw, by simpa using hmem⟩
    . exact .inr ⟨w, hw, by simpa [hd] using hmem⟩

theorem left_of_removal (h : s.lobby.Sound device) {w : Write} (hw : w ∈ (s.lobby.sessions j).removal)
    (hmem : w ∈ s.lobby.outbox d)
    : (s.lobby.sessions j).left = true := by
  obtain ⟨tap, htap, rfl⟩ := Option.map_eq_some_iff.1 hw
  obtain ⟨k, -, hleft, tap', htap', hid⟩ := h.outbox d _ hmem
  obtain rfl := h.ids k j tap' tap htap' htap hid
  exact hleft

theorem Inv.not_keeps (h : s.Inv device) (hij : i ≠ j) (hd : device i = device j) (hi : s.Keeps i)
    (hj : s.Keeps j) {w : Write} (hw : w ∈ (s.lobby.sessions i).removal)
    (hmem : w ∈ s.lobby.outbox (device i))
    : False := by
  obtain ⟨hroom, henters⟩ := h.owned.of_entry hi.1 hi.2.1
  obtain ⟨hroom', henters'⟩ := h.owned.of_entry hj.1 hj.2.1
  -- The removals are looked for from the front of the queue.
  obtain ⟨pre, post, hout, hpre⟩ := List.eq_append_cons_of_mem hmem
  rcases h.order i j hij hd hroom' w hw pre post hout with hremoved | ⟨w', hw', hmem'⟩ | ⟨w', hw', hin⟩
  . rw [hj.2.2] at hremoved
    contradiction
  . obtain ⟨pre', post', rfl⟩ := List.append_of_mem hmem'
    rw [List.append_assoc, List.cons_append] at hout
    rcases h.order j i hij.symm hd.symm hroom w' hw' pre' _ (by rw [← hd, hout]) with hremoved
      | ⟨w'', hw'', hmem''⟩ | ⟨w'', hw'', hin⟩
    . rw [hi.2.2] at hremoved
      contradiction
    . obtain rfl := Option.some.inj (hw.symm.trans hw'')
      exact hpre (List.mem_append_left _ hmem'')
    . refine henters w'' ?_ _ hin
      rw [hout]
      exact List.mem_append_right _ (List.mem_cons_of_mem _ hw'')
  . refine henters' w' ?_ _ hin
    rw [← hd, hout]
    exact List.mem_append_right _ (List.mem_cons_of_mem _ hw')

section Session

variable [DecidableEq ι] {a : Session.Input} {c : Session} {ws : List Write} {view : Database}
  {after : Nat}

theorem removal_update
    (hnext : Session.Next zone s.lobby.db view after (s.lobby.sessions i) a c ws) {w : Write}
    (hw : w ∈ (s.lobby.sessions j).removal)
    : w ∈ (Function.update s.lobby.sessions i c j).removal := by
  by_cases hj : j = i
  . subst hj
    rw [Function.update_self]
    exact hnext.removal_eq hw
  . rwa [Function.update_of_ne hj]

theorem Leaves.session [DecidableEq δ] {numbering : Int → Option (List String)} {root : δ → Root ι}
    (h : s.Leaves device j)
    (hnext : Session.Next zone s.lobby.db view after (s.lobby.sessions i) a c ws)
    : Leaves device { s with
        lobby := { s.lobby with
          sessions := Function.update s.lobby.sessions i c
          outbox := Function.update s.lobby.outbox (device i) (s.lobby.outbox (device i) ++ ws)
          numbering := numbering }
        root := root } j := by
  rcases h with h | ⟨w, hw, hmem⟩
  . exact .inl h
  . refine .inr ⟨w, removal_update hnext hw, ?_⟩
    dsimp only
    rw [Lobby.mem_outbox_append]
    exact .inl hmem

theorem removal_of_mem {lobby : Lobby ι δ} (h : s.lobby.Sound device) (ht : lobby.Sound device)
    (hlobby : lobby.sessions = Function.update s.lobby.sessions i c)
    (hnext : Session.Next zone s.lobby.db view after (s.lobby.sessions i) a c ws) {w : Write}
    (hw : w ∈ (lobby.sessions j).removal) (hmem : w ∈ s.lobby.outbox d)
    : w ∈ (s.lobby.sessions j).removal := by
  obtain ⟨tap, htap, rfl⟩ := Option.map_eq_some_iff.1 hw
  obtain ⟨k, -, -, tap', htap', hid⟩ := h.outbox d _ hmem
  have hkeep : (lobby.sessions k).tap = some tap' := by
    rw [hlobby]
    by_cases hk : k = i
    . subst hk
      rw [Function.update_self]
      exact hnext.tap_eq htap'
    . rwa [Function.update_of_ne hk]
  obtain rfl := ht.ids k j tap' tap hkeep htap hid
  rw [hkeep, Option.some.injEq] at htap
  subst htap
  exact Option.map_eq_some_iff.2 ⟨tap', htap', rfl⟩

theorem EntersAlone.of_room (hok : EntersAlone device zone s (.session i a))
    (hnext : Session.Next zone s.lobby.db view after (s.lobby.sessions i) a c ws)
    (hroom : (Function.update s.lobby.sessions i c j).room ≠ none)
    : (s.lobby.sessions j).room ≠ none
        ∨
      (j = i
        ∧
      (∀ k, k ≠ i → device k = device i → (s.lobby.sessions k).room ≠ none → s.Leaves device k)
        ∧
      ∃ w ∈ ws, w.Enters c.code c.key) := by
  by_cases hj : j = i
  . subst hj
    rw [Function.update_self] at hroom
    by_cases hnone : (s.lobby.sessions j).room = none
    . obtain ⟨rfl, hsucceeds, henters⟩ := hnext.of_new_room hnone hroom
      exact .inr ⟨rfl, hok hsucceeds, henters⟩
    . exact .inl hnone
  . rw [Function.update_of_ne hj] at hroom
    exact .inl hroom

theorem room_ne_none_of_root (hnext : Session.Next zone s.lobby.db view after (s.lobby.sessions i) a c ws)
    (hroot : device j = device i → a = .handleCall → (s.lobby.sessions i).succeeds zone = false)
    (hroom : (Function.update s.lobby.sessions i c j).room ≠ none)
    : (s.lobby.sessions j).room ≠ none := by
  by_cases hj : j = i
  . subst hj
    rw [Function.update_self] at hroom
    intro hnone
    obtain ⟨rfl, hsucceeds, -⟩ := hnext.of_new_room hnone hroom
    rw [hroot rfl rfl] at hsucceeds
    contradiction
  . rwa [Function.update_of_ne hj] at hroom

theorem Inv.leaves_of_removes (h : s.Inv device) {lobby : Lobby ι δ} (ht : lobby.Sound device)
    (hlobby : lobby.sessions = Function.update s.lobby.sessions i c)
    (hnext : Session.Next zone s.lobby.db view after (s.lobby.sessions i) a c ws) {w : Write}
    (hw : w ∈ (lobby.sessions j).removal) (hmem : w ∈ ws) {k : ι} (hjk : j ≠ k)
    (hd : device j = device k) (hroom : (lobby.sessions k).room ≠ none)
    : s.Leaves device k := by
  obtain ⟨tap, htap, rfl⟩ := Option.map_eq_some_iff.1 hw
  obtain ⟨hleft, room, hroom', hid⟩ := hnext.of_removes hmem
  obtain ⟨tap', htap', hplayer, -⟩ := (h.owned.sound.sessions i).room room hroom'
  have hji : j = i := by
    apply ht.ids j i tap tap' htap
    . rw [hlobby, Function.update_self]
      exact hnext.tap_eq htap'
    . rw [hid, hplayer]
  subst hji
  rw [hlobby, Function.update_of_ne hjk.symm] at hroom
  rcases h.alone j k hjk hd (by simp [hroom']) hroom with hleaves | hleaves
  . rw [h.left j hleaves] at hleft
    contradiction
  . exact hleaves

theorem Inv.order_append (h : s.Inv device) (hok : EntersAlone device zone s (.session i a))
    (hnext : Session.Next zone s.lobby.db view after (s.lobby.sessions i) a c ws) {k : ι} (hjk : j ≠ k)
    (hd : device j = device k) (hroom : (Function.update s.lobby.sessions i c k).room ≠ none) {w : Write}
    (hw : w ∈ (s.lobby.sessions j).removal) {pre mid : List Write}
    (hout : s.lobby.outbox (device j) = pre ++ w :: mid)
    : s.removed k = true
        ∨
      (∃ w' ∈ (Function.update s.lobby.sessions i c k).removal, w' ∈ pre)
        ∨
      ∃ w' ∈ mid ++ ws, w'.Enters (Function.update s.lobby.sessions i c k).code
        (Function.update s.lobby.sessions i c k).key := by
  rcases hok.of_room hnext hroom with hroom' | ⟨rfl, -, w', hw', henters⟩
  . obtain ⟨hcode, hkey, -⟩ := h.owned.sound.session_eq hnext hroom'
    rcases h.order j k hjk hd hroom' w hw pre mid hout with hremoved | ⟨w', hw', hmem⟩
      | ⟨w', hw', henters⟩
    . exact .inl hremoved
    . exact .inr (.inl ⟨w', removal_update hnext hw', hmem⟩)
    . rw [hcode, hkey]
      exact .inr (.inr ⟨w', List.mem_append_left _ hw', henters⟩)
  . rw [Function.update_self]
    exact .inr (.inr ⟨w', List.mem_append_right _ hw', henters⟩)

end Session

section Step

variable [Fintype ι] [DecidableEq ι] [DecidableEq δ]

theorem Inv.step_session {a : Session.Input} (h : s.Inv device)
    (hok : EntersAlone device zone s (.session i a))
    (hstep : s.step device zone (.session i a) = some t)
    : t.Inv device := by
  obtain ⟨lobby, hlobby, rfl⟩ := Devices.step_session hstep
  have howned := h.owned.step_session hlobby
  obtain ⟨-, c, ws, hnext, rfl⟩ := Lobby.step_session hlobby
  refine ⟨howned, ?_, ?_, ?_, ?_⟩
  . intro j hleaves
    rcases hleaves with hremoved | ⟨w, hw, hmem⟩
    . exact Lobby.left_update hnext (h.left j (.inl hremoved))
    . exact left_of_removal howned.sound hw hmem
  . intro j k hjk hd hj hk
    rcases hok.of_room hnext hj with hj' | ⟨rfl, halone, -⟩
    . rcases hok.of_room hnext hk with hk' | ⟨rfl, halone, -⟩
      . rcases h.alone j k hjk hd hj' hk' with hleaves | hleaves
        . exact .inl (hleaves.session hnext)
        . exact .inr (hleaves.session hnext)
      . exact .inl ((halone j hjk hd hj').session hnext)
    . rcases hok.of_room hnext hk with hk' | ⟨rfl, -⟩
      . exact .inr ((halone k hjk.symm hd.symm hk').session hnext)
      . exact absurd rfl hjk
  . intro j k hroot hj
    rcases root_eq_waitingRoom hroot with ⟨rfl, hd, rfl, hsucceeds⟩ | ⟨hroot, hsame⟩
    . by_cases hjk : j = k
      . exact .inl hjk
      . rcases hok.of_room hnext hj with hj' | ⟨rfl, -⟩
        . exact .inr ((hok hsucceeds j hjk hd hj').session hnext)
        . exact absurd rfl hjk
    . rcases h.root j k hroot (room_ne_none_of_root hnext hsame hj) with hjk | hleaves
      . exact .inl hjk
      . exact .inr (hleaves.session hnext)
  . intro j k hjk hd hk w hw pre post hout
    dsimp only at hout
    by_cases hdi : device j = device i
    . rw [hdi, Function.update_self, ← hdi] at hout
      -- The removal has been sent before, or it is sent now.
      rcases List.append_eq_append_cons hout with ⟨mid, hout', rfl⟩ | ⟨mid, rfl, hws⟩
      . have hmem : w ∈ s.lobby.outbox (device j) := by simp [hout']
        exact h.order_append hok hnext hjk hd hk
          (removal_of_mem h.owned.sound howned.sound rfl hnext hw hmem) hout'
      . have hmem : w ∈ ws := by simp [hws]
        rcases h.leaves_of_removes howned.sound rfl hnext hw hmem hjk hd hk with hremoved | ⟨w', hw', hmem'⟩
        . exact .inl hremoved
        . refine .inr (.inl ⟨w', removal_update hnext hw', ?_⟩)
          rw [hd]
          exact List.mem_append_left _ hmem'
    . have hji : j ≠ i := fun hji => hdi (by rw [hji])
      have hki : k ≠ i := fun hki => hdi (by rw [hd, hki])
      dsimp only at hk hw ⊢
      rw [Function.update_of_ne hdi] at hout
      rw [Function.update_of_ne hki] at hk ⊢
      rw [Function.update_of_ne hji] at hw
      exact h.order j k hjk hd hk w hw pre post hout

theorem Inv.step_process (h : s.Inv device) (hstep : s.step device zone (.process d) = some t)
    : t.Inv device := by
  obtain ⟨lobby, hlobby, rfl⟩ := Devices.step_process hstep
  have howned := h.owned.step_process hlobby
  obtain ⟨write, writes, hout, rfl⟩ := Lobby.step_process hlobby
  refine ⟨howned, ?_, ?_, ?_, ?_⟩
  . intro j hleaves
    apply h.left j
    rcases hleaves with hremoved | ⟨w, hw, hmem⟩
    . dsimp only at hremoved
      rw [Bool.or_eq_true, Bool.and_eq_true, decide_eq_true_eq, Option.any_eq_true] at hremoved
      rcases hremoved with hremoved | ⟨rfl, w, hw, hhead⟩
      . exact .inl hremoved
      . exact .inr ⟨w, hw, List.mem_of_head? (of_decide_eq_true hhead)⟩
    . exact .inr ⟨w, hw, Lobby.mem_outbox_tail hout hmem⟩
  . intro j k hjk hd hj hk
    rcases h.alone j k hjk hd hj hk with hleaves | hleaves
    . exact .inl (hleaves.process hout)
    . exact .inr (hleaves.process hout)
  . intro j k hroot hj
    rcases h.root j k hroot hj with hjk | hleaves
    . exact .inl hjk
    . exact .inr (hleaves.process hout)
  . intro j k hjk hd hk w hw pre post hpost
    dsimp only at hpost ⊢
    by_cases hdj : device j = d
    . subst hdj
      rw [Function.update_self] at hpost
      rcases h.order j k hjk hd hk w hw (write :: pre) post (by rw [hout, hpost, List.cons_append])
        with hremoved | ⟨w', hw', hmem⟩ | henters
      . exact .inl (by simp [hremoved])
      . rcases List.mem_cons.1 hmem with rfl | hmem
        . -- The removal takes effect now.
          rw [Option.mem_def] at hw'
          exact .inl (by simp [hw', hout, ← hd])
        . exact .inr (.inl ⟨w', hw', hmem⟩)
      . exact .inr (.inr henters)
    . rw [Function.update_of_ne hdj] at hpost
      rcases h.order j k hjk hd hk w hw pre post hpost with hremoved | hpre | henters
      . exact .inl (by simp [hremoved])
      . exact .inr (.inl hpre)
      . exact .inr (.inr henters)

theorem Inv.step {a : Lobby.Action ι δ} (h : s.Inv device) (hok : EntersAlone device zone s a)
    (hstep : s.step device zone a = some t)
    : t.Inv device := by
  cases a with
  | session i a => exact h.step_session hok hstep
  | process d => exact h.step_process hstep

/--
At most one entry of a device is stored that it has not removed by leaving, and in a waiting room it
is that of the player who waits there, unless it is on its way out.
-/
theorem one_device_one_player (device : ι → δ) (zone : TimeZone)
    (hist : List (Devices ι δ × Lobby.Action ι δ)) (s : Devices ι δ)
    (hrun : (system device zone).Run (EntersAlone device zone) hist s)
    : (∀ i j, device i = device j → s.Keeps i → s.Keeps j → i = j)
        ∧
      ∀ i k, s.root (device i) = .waitingRoom k → s.Keeps i → ¬s.Leaves device i → i = k := by
  have h : s.Inv device := by
    apply hrun.invariant (I := fun s => s.Inv device)
    . rintro s rfl
      exact .empty
    . intro s a t hs hok hstep
      exact hs.step hok hstep
  constructor
  . intro i j hd hi hj
    by_contra hij
    obtain ⟨hroom, -⟩ := h.owned.of_entry hi.1 hi.2.1
    obtain ⟨hroom', -⟩ := h.owned.of_entry hj.1 hj.2.1
    rcases h.alone i j hij hd hroom hroom' with hleaves | hleaves
    . rcases hleaves with hremoved | ⟨w, hw, hmem⟩
      . rw [hi.2.2] at hremoved
        contradiction
      . exact h.not_keeps hij hd hi hj hw hmem
    . rcases hleaves with hremoved | ⟨w, hw, hmem⟩
      . rw [hj.2.2] at hremoved
        contradiction
      . exact h.not_keeps (Ne.symm hij) hd.symm hj hi hw hmem
  . intro i k hroot hi hleaves
    obtain ⟨hroom, -⟩ := h.owned.of_entry hi.1 hi.2.1
    rcases h.root i k hroot hroom with hik | hleaves'
    . exact hik
    . contradiction

end Step

abbrev Alone := Devices Bool Unit

def host (i : Bool) (code : Int) : List (Lobby.Action Bool Unit) :=
  [.session i (.hostGame "" 3 1 "Host" code (.ofNat (if i then 2 else 1)) ⟨0⟩),
    .session i .answerCall, .session i .handleCall]

theorem one_device_one_player_again
    : ∃ s : Alone,
        (s.root () = .waitingRoom true ∧ s.Keeps true)
          ∧
        (∀ i j, s.Keeps i → s.Keeps j → i = j)
          ∧
        ∀ i k, s.root () = .waitingRoom k → s.Keeps i → ¬s.Leaves (fun _ => ()) i → i = k := by
  obtain ⟨hist, s, hrun, hs⟩ := TransitionSystem.exists_run_of_exec (EntersAlone (fun _ => ()) .gmt)
    (S := system (fun _ : Bool => ()) .gmt)
    (P := fun _ (s : Alone) => s.root () = .waitingRoom true ∧ s.Keeps true)
    (s := {}) rfl
    (host false 123456 ++ [.process (), .session false (.answer 0 .listed), .session false (.handle 0),
      .session false .leaveGame] ++ host true 234567 ++ [.process (), .process ()])
    (by decide +kernel)
  obtain ⟨hone, hroot⟩ := one_device_one_player (fun _ => ()) .gmt hist s hrun
  exact ⟨s, hs, fun i j => hone i j rfl, hroot⟩

/-- A second tap on Host before the first one is answered enters a second player. -/
theorem not_one_device_one_player_two_taps
    : ¬∀ (hist : List (Alone × Lobby.Action Bool Unit)) (s : Alone),
        (system (fun _ => ()) .gmt).Run (fun _ _ => True) hist s →
          (∀ i j, s.Keeps i → s.Keeps j → i = j)
            ∧
          ∀ i k, s.root () = .waitingRoom k → s.Keeps i → ¬s.Leaves (fun _ => ()) i → i = k := by
  intro h
  obtain ⟨hist, s, hrun, hfirst, hsecond⟩ := TransitionSystem.exists_run_of_exec (fun _ _ => True)
    (S := system (fun _ : Bool => ()) .gmt)
    (P := fun _ (s : Alone) => s.Keeps false ∧ s.Keeps true)
    (s := {}) rfl
    [.session false (.hostGame "" 3 1 "Host" 123456 (.ofNat 1) ⟨0⟩),
      .session true (.hostGame "" 3 1 "Host" 234567 (.ofNat 2) ⟨0⟩),
      .session false .answerCall, .session true .answerCall,
      .session false .handleCall, .session true .handleCall, .process (), .process ()]
    (by decide +kernel)
  exact absurd ((h hist s hrun).1 false true hfirst hsecond) (by decide)

end Devices

end SCatCh
