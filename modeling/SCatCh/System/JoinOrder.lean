import SCatCh.Lib.Sorting
import SCatCh.State.WaitingRoom
import SCatCh.Storage.Players

/-!
This module contains the order in which the waiting room lists the players. The instant at which a
player joins is written as the local time of the player's device, without its zone and without
fractions of a second, and every device reads it as a local time of its own.
-/

namespace SCatCh

/-- `sort(by:)` with the comparison of `updatePlayers`. The order of equal dates is not specified. -/
structure SortByJoinDate where
  sort : List WaitingPlayer → List WaitingPlayer
  perm (players : List WaitingPlayer) : (sort players).Perm players
  ordered (players : List WaitingPlayer) : (sort players).Pairwise fun p q =>
    ¬q.joinDate.nanoseconds < p.joinDate.nanoseconds

namespace SortByJoinDate

theorem insertionSort_ordered (players : List WaitingPlayer)
    : (players.insertionSort fun p q => p.joinDate.nanoseconds ≤ q.joinDate.nanoseconds).Pairwise
        fun p q => ¬q.joinDate.nanoseconds < p.joinDate.nanoseconds := by
  have : Std.Total fun p q : WaitingPlayer => p.joinDate.nanoseconds ≤ q.joinDate.nanoseconds :=
    ⟨fun p q => Nat.le_total _ _⟩
  have : IsTrans WaitingPlayer fun p q => p.joinDate.nanoseconds ≤ q.joinDate.nanoseconds :=
    ⟨fun p q r => Nat.le_trans⟩
  exact (List.pairwise_insertionSort _ players).imp fun h => Nat.not_lt.2 h

def preferring (order : List WaitingPlayer) (hordered : order.Pairwise fun p q =>
      ¬q.joinDate.nanoseconds < p.joinDate.nanoseconds)
    : SortByJoinDate where
  sort := fun players => if order.Perm players then order else
    players.insertionSort fun p q => p.joinDate.nanoseconds ≤ q.joinDate.nanoseconds
  perm := by
    intro players
    split
    . next h => exact h
    . exact List.perm_insertionSort _ players
  ordered := by
    intro players
    split
    . exact hordered
    . exact insertionSort_ordered players

def stable : SortByJoinDate where
  sort := fun players => players.insertionSort fun p q => p.joinDate.nanoseconds ≤ q.joinDate.nanoseconds
  perm := List.perm_insertionSort _
  ordered := insertionSort_ordered

end SortByJoinDate

def StateControllerWaitingRoom.updatePlayersBy (sort : SortByJoinDate) (c : StateControllerWaitingRoom)
    (players : List WaitingPlayer)
    : StateControllerWaitingRoom :=
  { c with players := sort.sort players }

theorem StateControllerWaitingRoom.updatePlayersBy_stable (c : StateControllerWaitingRoom)
    (players : List WaitingPlayer)
    : c.updatePlayersBy .stable players = c.updatePlayers players := rfl

def WaitingPlayer.label (player : WaitingPlayer) : UUID × String := (player.id, player.nickname)

/-! # Entries -/

/-- A player of a game, and the zone of the device from which the player has joined. -/
structure Joined where
  player : WaitingPlayer
  zone : TimeZone

namespace Joined

def key (j : Joined) : String := j.player.id.uuidString

def localTime (j : Joined) : Int := j.zone.localTime j.player.joinDate

def read (viewer : TimeZone) (j : Joined) : Option Nat := viewer.instant? j.localTime

def shown (viewer : TimeZone) (j : Joined) : WaitingPlayer :=
  { j.player with joinDate := ⟨(j.read viewer).getD 0 * 1000000000⟩ }

/-- The entry is the player's. A start may have added a number. -/
def Wrote (j : Joined) (t : Database) : Prop :=
  toText (t.get [PlayerKeys.nickname.rawValue]) = j.player.nickname
    ∧
  toText (t.get [PlayerKeys.joinDate.rawValue]) = j.player.joinDate.toString j.zone

theorem wrote_playerDict (j : Joined)
    : j.Wrote (playerDict j.player.nickname (j.player.joinDate.toString j.zone)) :=
  ⟨rfl, rfl⟩

end Joined

structure Stores (db : Database) (code : Int) (joined : List Joined) : Prop where
  wrote : ∀ j ∈ joined, j.Wrote (entry db code j.key)
  only : ∀ key, (entry db code key).leaves ≠ [] → ∃ j ∈ joined, key = j.key

variable {db snapshot : Database} {code : Int} {joined joined' : List Joined} {j : Joined} {w : Write}

theorem Stores.host {topic : String} {maxNumOfRounds roundTime : Int}
    (hw : StorageControllerHome.hostGame snapshot j.zone code topic maxNumOfRounds roundTime j.player
      = some w)
    : Stores (w.apply db) code [j] := by
  simp only [StorageControllerHome.hostGame, Option.ite_none_left_eq_some, Option.some.injEq] at hw
  obtain ⟨-, rfl⟩ := hw
  constructor
  . intro k hk
    rw [List.mem_singleton] at hk
    subst hk
    rw [entry_game, Joined.key, Function.update_self]
    exact k.wrote_playerDict
  . intro key hentry
    rw [entry_game] at hentry
    refine ⟨j, by simp, ?_⟩
    by_contra hkey
    rw [Joined.key] at hkey
    rw [Function.update_of_ne hkey] at hentry
    exact hentry rfl

theorem Stores.join (h : Stores db code joined) (hnew : ∀ k ∈ joined, k.player.id ≠ j.player.id)
    (hw : StorageControllerHome.joinGame snapshot j.zone j.player code = some w)
    : Stores (w.apply db) code (j :: joined) := by
  simp only [StorageControllerHome.joinGame, Option.ite_none_right_eq_some, Option.some.injEq] at hw
  obtain ⟨-, rfl⟩ := hw
  constructor
  . intro k hk
    rw [entry_player]
    rw [List.mem_cons] at hk
    rcases hk with rfl | hk
    . rw [Joined.key, Function.update_self]
      exact k.wrote_playerDict
    . have hkey : k.key ≠ j.player.id.uuidString := fun heq => hnew k hk (UUID.uuidString_inj.1 heq)
      rw [Function.update_of_ne hkey]
      exact h.wrote k hk
  . intro key hentry
    rw [entry_player] at hentry
    by_cases hkey : key = j.player.id.uuidString
    . exact ⟨j, List.mem_cons_self, hkey⟩
    . rw [Function.update_of_ne hkey] at hentry
      obtain ⟨k, hk, heq⟩ := h.only key hentry
      exact ⟨k, List.mem_cons_of_mem j hk, heq⟩

theorem Stores.perm (h : Stores db code joined) (hperm : joined.Perm joined')
    : Stores db code joined' where
  wrote := fun j hj => h.wrote j (hperm.mem_iff.2 hj)
  only := by
    intro key hentry
    obtain ⟨j, hj, heq⟩ := h.only key hentry
    exact ⟨j, hperm.mem_iff.1 hj, heq⟩

/-! # Reading the entries -/

variable {viewer : TimeZone} {o : IterationOrder}

theorem Joined.Wrote.buildWaitingPlayer {t : Database} (h : j.Wrote t)
    : StorageController.buildWaitingPlayer viewer j.key t
        =
      (j.read viewer).map fun s => { j.player with joinDate := ⟨s * 1000000000⟩ } := by
  unfold StorageController.buildWaitingPlayer Joined.key
  rw [UUID.ofString?_uuidString, h.1, h.2, toDate_toString]
  unfold Joined.read Joined.localTime
  cases viewer.instant? (j.zone.localTime j.player.joinDate) <;> rfl

theorem Joined.Wrote.isSome_asDictionary {t : Database} (h : j.Wrote t)
    : (asDictionary t).isSome = true := by
  have hdate : (toDate (toText (t.get [PlayerKeys.joinDate.rawValue])) j.zone).isSome = true := by
    rw [h.2]
    exact isSome_toDate_toString ..
  exact isSome_asDictionary_entry hdate

theorem Stores.mem_keys (h : Stores db code joined) (hj : j ∈ joined)
    : j.key ∈ (db.get (playersPath code)).keys := by
  have hdict := (h.wrote j hj).isSome_asDictionary
  rw [mem_keys_players]
  intro hnil
  rw [PathTree.ext (s := entry db code j.key) (t := .empty) hnil] at hdict
  contradiction

theorem Stores.keys_perm (h : Stores db code joined)
    (hids : (joined.map fun j => j.player.id).Nodup)
    : (db.get (playersPath code)).keys.Perm (joined.map Joined.key) := by
  have hkeys : (joined.map Joined.key).Nodup := by
    have : joined.map Joined.key = (joined.map fun j => j.player.id).map UUID.uuidString := by
      rw [List.map_map]
      rfl
    rw [this]
    exact hids.map fun _ _ => UUID.uuidString_inj.1
  rw [List.perm_ext_iff_of_nodup (PathTree.nodup_keys _) hkeys]
  intro key
  rw [List.mem_map]
  constructor
  . intro hkey
    obtain ⟨j, hj, rfl⟩ := h.only key (mem_keys_players.1 hkey)
    exact ⟨j, hj, rfl⟩
  . rintro ⟨j, hj, rfl⟩
    exact h.mem_keys hj

theorem Stores.buildPlayersArray (h : Stores db code joined)
    (hids : (joined.map fun j => j.player.id).Nodup)
    (hread : ∀ j ∈ joined, (j.read viewer).isSome = true)
    : ∃ players,
        StorageController.buildPlayersArray (StorageController.buildWaitingPlayer viewer) o
            (db.get (playersPath code))
          = some players
          ∧
        players.Perm (joined.map (Joined.shown viewer)) := by
  have hperm := h.keys_perm hids
  have hbuild : ∀ j ∈ joined,
      StorageController.buildWaitingPlayer viewer j.key ((db.get (playersPath code)).get [j.key])
        = some (j.shown viewer) := by
    intro j hj
    obtain ⟨s, hs⟩ := Option.isSome_iff_exists.1 (hread j hj)
    rw [get_players, (h.wrote j hj).buildWaitingPlayer]
    simp [Joined.shown, hs]
  -- Every key has a player, although the function of the keys is total.
  let player (key : String) : WaitingPlayer :=
    (StorageController.buildWaitingPlayer viewer key ((db.get (playersPath code)).get [key])).getD
      ⟨.ofNat 0, "", ⟨0⟩⟩
  have hplayer : (joined.map Joined.key).map player = joined.map (Joined.shown viewer) := by
    rw [List.map_map]
    apply List.map_congr_left
    intro j hj
    simp [player, hbuild j hj]
  have hentry : ∀ key ∈ (db.get (playersPath code)).keys,
      (asDictionary ((db.get (playersPath code)).get [key])).isSome = true := by
    intro key hkey
    obtain ⟨j, hj, rfl⟩ := List.mem_map.1 (hperm.mem_iff.1 hkey)
    rw [get_players]
    exact (h.wrote j hj).isSome_asDictionary
  have hsome : ∀ key ∈ (db.get (playersPath code)).keys,
      StorageController.buildWaitingPlayer viewer key ((db.get (playersPath code)).get [key])
        = some (player key) := by
    intro key hkey
    obtain ⟨j, hj, rfl⟩ := List.mem_map.1 (hperm.mem_iff.1 hkey)
    simp [player, hbuild j hj]
  refine ⟨_, StorageController.buildPlayersArray_eq o hentry hsome, ?_⟩
  rw [← hplayer]
  exact ((o.perm _).trans hperm).map player

theorem Stores.isSome_read (h : Stores db code joined) {players : List WaitingPlayer}
    (hbuild : StorageController.buildPlayersArray (StorageController.buildWaitingPlayer viewer) o
      (db.get (playersPath code)) = some players)
    : ∀ j ∈ joined, (j.read viewer).isSome = true := by
  intro j hj
  have hdict := (h.wrote j hj).isSome_asDictionary
  have hkey := (o.perm _).mem_iff.2 (h.mem_keys hj)
  rw [buildPlayersArray_eq_map, Option.map_eq_some_iff] at hbuild
  obtain ⟨entries, hentries, -⟩ := hbuild
  have hentry := List.isSome_mapM.1 (by rw [hentries]; rfl) j.key hkey
  unfold buildEntry at hentry
  rw [get_players, if_pos hdict, (h.wrote j hj).buildWaitingPlayer] at hentry
  simpa using hentry

/-! # The list of players -/

/-- Whatever the dictionary's order and the sort: the list shows the players in the given order. -/
def Lists (viewer : TimeZone) (db : Database) (code : Int) (joined : List Joined) : Prop :=
  ∀ (o : IterationOrder) (sort : SortByJoinDate) (c : StateControllerWaitingRoom), ∃ players,
    StorageController.buildPlayersArray (StorageController.buildWaitingPlayer viewer) o
        (db.get (playersPath code))
      = some players
      ∧
    (c.updatePlayersBy sort players).players.map WaitingPlayer.label
      = joined.map fun j => j.player.label

theorem Stores.lists_iff (h : Stores db code joined)
    (hids : (joined.map fun j => j.player.id).Nodup)
    : Lists viewer db code joined
        ↔
      (∀ j ∈ joined, (j.read viewer).isSome = true)
        ∧
      (joined.map (Joined.shown viewer)).Pairwise fun p q =>
        p.joinDate.nanoseconds < q.joinDate.nanoseconds := by
  have hlabel : (joined.map (Joined.shown viewer)).map WaitingPlayer.label
      = joined.map fun j => j.player.label := by
    rw [List.map_map]
    rfl
  have hlabels : ((joined.map (Joined.shown viewer)).map WaitingPlayer.label).Nodup := by
    rw [hlabel]
    apply List.Nodup.of_map Prod.fst
    rw [List.map_map]
    exact hids
  constructor
  . intro hlists
    have hread : ∀ j ∈ joined, (j.read viewer).isSome = true := by
      obtain ⟨players, hplayers, -⟩ := hlists .listed .stable { player := ⟨.ofNat 0, "", ⟨0⟩⟩ }
      exact h.isSome_read hplayers
    refine ⟨hread, List.pairwise_of_forall_perm (.of_map _ hlabels) ?_⟩
    -- A sort may prefer any list that is ordered by the dates that were read.
    intro order hperm hordered
    obtain ⟨players, hplayers, hshown⟩ := hlists .listed
      (.preferring order (hordered.imp fun hle => Nat.not_lt.2 hle)) { player := ⟨.ofNat 0, "", ⟨0⟩⟩ }
    obtain ⟨players', hplayers', hperm'⟩ := h.buildPlayersArray (o := .listed) hids hread
    rw [hplayers, Option.some.injEq] at hplayers'
    subst hplayers'
    have hsort : (SortByJoinDate.preferring order (hordered.imp fun hle => Nat.not_lt.2 hle)).sort
        players = order := if_pos (hperm.trans hperm'.symm)
    apply hperm.eq_of_map_eq hlabels
    rw [hlabel, ← hshown, StateControllerWaitingRoom.updatePlayersBy, hsort]
  . rintro ⟨hread, hincreasing⟩ o sort c
    obtain ⟨players, hplayers, hperm⟩ := h.buildPlayersArray (o := o) hids hread
    have hsorted := (sort.ordered players).imp fun hnot => Nat.not_lt.1 hnot
    have hsort : sort.sort players = joined.map (Joined.shown viewer) :=
      hincreasing.eq_of_perm_of_sorted ((sort.perm players).trans hperm) hsorted
    exact ⟨players, hplayers, by rw [StateControllerWaitingRoom.updatePlayersBy, hsort, hlabel]⟩

def joinOrder (joined : List Joined) : List Joined :=
  joined.insertionSort fun a b => a.player.joinDate.nanoseconds ≤ b.player.joinDate.nanoseconds

theorem joinOrder_perm (joined : List Joined) : (joinOrder joined).Perm joined :=
  List.perm_insertionSort _ joined

theorem joinOrder_pairwise (h : (joined.map fun j => j.player.joinDate.nanoseconds).Nodup)
    : (joinOrder joined).Pairwise fun a b =>
        a.player.joinDate.nanoseconds < b.player.joinDate.nanoseconds := by
  have : Std.Total fun a b : Joined =>
      a.player.joinDate.nanoseconds ≤ b.player.joinDate.nanoseconds := ⟨fun a b => Nat.le_total _ _⟩
  have : IsTrans Joined fun a b => a.player.joinDate.nanoseconds ≤ b.player.joinDate.nanoseconds :=
    ⟨fun a b c => Nat.le_trans⟩
  have hsorted : (joinOrder joined).Pairwise fun a b =>
      a.player.joinDate.nanoseconds ≤ b.player.joinDate.nanoseconds := List.pairwise_insertionSort _ joined
  have hne : (joinOrder joined).Pairwise fun a b =>
      a.player.joinDate.nanoseconds ≠ b.player.joinDate.nanoseconds :=
    List.pairwise_map.1 (((joinOrder_perm joined).map _).nodup_iff.2 h)
  exact (hsorted.and hne).imp fun hab => Nat.lt_of_le_of_ne hab.1 hab.2

def InJoinOrder (viewer : TimeZone) (db : Database) (code : Int) (joined : List Joined) : Prop :=
  Lists viewer db code (joinOrder joined)

/--
The local time of every join is also shown by the clocks of the viewer's zone, and the local time of
an earlier join is read there as an earlier second.
-/
structure ReadInOrder (viewer : TimeZone) (joined : List Joined) : Prop where
  readable : ∀ j ∈ joined, ∃ t : Nat, t + viewer.secondsFromGMT t = j.localTime
  increasing : ∀ a ∈ joined, ∀ b ∈ joined,
    a.player.joinDate.nanoseconds < b.player.joinDate.nanoseconds →
      ∀ s ∈ a.read viewer, ∀ t ∈ b.read viewer, s < t

theorem readInOrder_iff (h : (joined.map fun j => j.player.joinDate.nanoseconds).Nodup)
    : ReadInOrder viewer joined
        ↔
      (∀ j ∈ joinOrder joined, (j.read viewer).isSome = true)
        ∧
      ((joinOrder joined).map (Joined.shown viewer)).Pairwise fun p q =>
        p.joinDate.nanoseconds < q.joinDate.nanoseconds := by
  have hmem : ∀ {j}, j ∈ joinOrder joined ↔ j ∈ joined := (joinOrder_perm joined).mem_iff
  rw [List.pairwise_map, (joinOrder_pairwise h).pairwise_iff_forall]
  constructor
  . intro hread
    have hsome : ∀ j ∈ joined, (j.read viewer).isSome = true :=
      fun j hj => TimeZone.isSome_instant?_iff.2 (hread.readable j hj)
    refine ⟨fun j hj => hsome j (hmem.1 hj), ?_⟩
    intro a ha b hb hlt
    obtain ⟨s, hs⟩ := Option.isSome_iff_exists.1 (hsome a (hmem.1 ha))
    obtain ⟨t, ht⟩ := Option.isSome_iff_exists.1 (hsome b (hmem.1 hb))
    have hst := hread.increasing a (hmem.1 ha) b (hmem.1 hb) hlt s hs t ht
    simp only [Joined.shown, hs, ht, Option.getD_some]
    omega
  . rintro ⟨hsome, hincreasing⟩
    refine ⟨fun j hj => TimeZone.isSome_instant?_iff.1 (hsome j (hmem.2 hj)), ?_⟩
    intro a ha b hb hlt s hs t ht
    rw [Option.mem_def] at hs ht
    have hst := hincreasing a (hmem.2 ha) b (hmem.2 hb) hlt
    simp only [Joined.shown, hs, ht, Option.getD_some] at hst
    omega

theorem InJoinOrder.readInOrder (h : InJoinOrder viewer db code joined) (hstores : Stores db code joined)
    (hids : (joined.map fun j => j.player.id).Nodup)
    (hinstants : (joined.map fun j => j.player.joinDate.nanoseconds).Nodup)
    : ReadInOrder viewer joined := by
  have hperm := (joinOrder_perm joined).symm
  rw [readInOrder_iff hinstants]
  exact ((hstores.perm hperm).lists_iff ((hperm.map _).nodup_iff.1 hids)).1 h

theorem ReadInOrder.inJoinOrder (h : ReadInOrder viewer joined) (hstores : Stores db code joined)
    (hids : (joined.map fun j => j.player.id).Nodup)
    (hinstants : (joined.map fun j => j.player.joinDate.nanoseconds).Nodup)
    : InJoinOrder viewer db code joined := by
  have hperm := (joinOrder_perm joined).symm
  rw [readInOrder_iff hinstants] at h
  exact ((hstores.perm hperm).lists_iff ((hperm.map _).nodup_iff.1 hids)).2 h

theorem readInOrder_fixed_iff {offset : Int} {lower : -86400 < offset} {upper : offset < 86400}
    : ReadInOrder (.fixed offset lower upper) joined
        ↔
      (∀ j ∈ joined, offset ≤ j.localTime)
        ∧
      ∀ a ∈ joined, ∀ b ∈ joined,
        a.player.joinDate.nanoseconds < b.player.joinDate.nanoseconds → a.localTime < b.localTime := by
  have hread : ∀ j : Joined, offset ≤ j.localTime →
      j.read (.fixed offset lower upper) = some (j.localTime - offset).toNat := fun j hj => if_pos hj
  constructor
  . intro h
    have hreadable : ∀ j ∈ joined, offset ≤ j.localTime := by
      intro j hj
      obtain ⟨t, ht⟩ := h.readable j hj
      simp only [TimeZone.fixed] at ht
      omega
    refine ⟨hreadable, ?_⟩
    intro a ha b hb hlt
    have := h.increasing a ha b hb hlt _ (hread a (hreadable a ha)) _ (hread b (hreadable b hb))
    omega
  . rintro ⟨hreadable, hincreasing⟩
    constructor
    . intro j hj
      have := hreadable j hj
      exact ⟨(j.localTime - offset).toNat, by simp only [TimeZone.fixed]; omega⟩
    . intro a ha b hb hlt s hs t ht
      have hle := hreadable a ha
      have hlt' := hincreasing a ha b hb hlt
      rw [Option.mem_def, hread a hle, Option.some.injEq] at hs
      rw [Option.mem_def, hread b (hreadable b hb), Option.some.injEq] at ht
      omega

/-- A device lists the players in the order of joining exactly if it reads their texts in that order. -/
theorem inJoinOrder_iff (viewer : TimeZone) (db : Database) (code : Int) (joined : List Joined)
    (hstores : Stores db code joined) (hids : (joined.map fun j => j.player.id).Nodup)
    (hinstants : (joined.map fun j => j.player.joinDate.nanoseconds).Nodup)
    : InJoinOrder viewer db code joined ↔ ReadInOrder viewer joined := by
  constructor
  . intro h
    exact h.readInOrder hstores hids hinstants
  . intro h
    exact h.inJoinOrder hstores hids hinstants

def joinsAt (n seconds : Nat) (zone : TimeZone) : Joined where
  player := ⟨.ofNat n, "Player", ⟨(63745056000 + seconds) * 1000000000⟩⟩
  zone := zone

def hostAndJoin (host other : Joined) : Database :=
  applyAll
    [.game 123456 "None" 3 60 host.player.id host.player.nickname
        (host.player.joinDate.toString host.zone),
      .player 123456 other.player.id other.player.nickname
        (other.player.joinDate.toString other.zone)]
    .empty

theorem stores_hostAndJoin {host other : Joined} (hids : host.player.id ≠ other.player.id)
    : Stores (hostAndJoin host other) 123456 [host, other] := by
  have hhost : StorageControllerHome.hostGame .empty host.zone 123456 "None" 3 60 host.player
      = some (.game 123456 "None" 3 60 host.player.id host.player.nickname
          (host.player.joinDate.toString host.zone)) := rfl
  have hjoin : StorageControllerHome.joinGame (Write.apply (.game 123456 "None" 3 60 host.player.id
        host.player.nickname (host.player.joinDate.toString host.zone)) .empty)
        other.zone other.player 123456
      = some (.player 123456 other.player.id other.player.nickname
          (other.player.joinDate.toString other.zone)) := if_pos (hosted_game ..).gameExists
  exact ((Stores.host hhost).join (by simpa using hids) hjoin).perm (.swap host other [])

theorem inJoinOrder_iff_one_zone
    : (Stores (hostAndJoin (joinsAt 1 0 .gmt) (joinsAt 2 1 .gmt)) 123456
          [joinsAt 1 0 .gmt, joinsAt 2 1 .gmt])
        ∧
      InJoinOrder .gmt (hostAndJoin (joinsAt 1 0 .gmt) (joinsAt 2 1 .gmt)) 123456
        [joinsAt 1 0 .gmt, joinsAt 2 1 .gmt] := by
  have hstores : Stores (hostAndJoin (joinsAt 1 0 .gmt) (joinsAt 2 1 .gmt)) 123456
      [joinsAt 1 0 .gmt, joinsAt 2 1 .gmt] := stores_hostAndJoin (by decide)
  refine ⟨hstores, (inJoinOrder_iff _ _ _ _ hstores (by decide) (by decide)).2 ?_⟩
  rw [TimeZone.gmt, readInOrder_fixed_iff]
  decide

def oneHourEast : TimeZone := .fixed 3600 (by decide) (by decide)

/-- The host joins first, but where it is one hour later. -/
theorem not_inJoinOrder_two_zones
    : Stores (hostAndJoin (joinsAt 1 0 oneHourEast) (joinsAt 2 1 .gmt)) 123456
          [joinsAt 1 0 oneHourEast, joinsAt 2 1 .gmt]
        ∧
      ([joinsAt 1 0 oneHourEast, joinsAt 2 1 .gmt].map fun j => j.player.id).Nodup
        ∧
      ([joinsAt 1 0 oneHourEast, joinsAt 2 1 .gmt].map fun j => j.player.joinDate.nanoseconds).Nodup
        ∧
      ¬InJoinOrder .gmt (hostAndJoin (joinsAt 1 0 oneHourEast) (joinsAt 2 1 .gmt)) 123456
        [joinsAt 1 0 oneHourEast, joinsAt 2 1 .gmt] := by
  have hstores : Stores (hostAndJoin (joinsAt 1 0 oneHourEast) (joinsAt 2 1 .gmt)) 123456
      [joinsAt 1 0 oneHourEast, joinsAt 2 1 .gmt] := stores_hostAndJoin (by decide)
  refine ⟨hstores, by decide, by decide, ?_⟩
  intro h
  have hread := h.readInOrder hstores (by decide) (by decide)
  rw [TimeZone.gmt, readInOrder_fixed_iff] at hread
  revert hread
  decide

end SCatCh
