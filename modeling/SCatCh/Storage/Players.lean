import SCatCh.Storage.Home
import SCatCh.Storage.WaitingRoom

/-!
This module contains what is stored of a game before it is played, and what the writes of the Home
state and of the waiting room do to it: the settings, the players' entries and the number of the
round.
-/

namespace SCatCh

/-! # Hosted games -/

def GameExists (db : Database) (code : Int) : Prop := dataExists (db.get [toString code]) = true

instance (db : Database) (code : Int) : Decidable (GameExists db code) :=
  inferInstanceAs (Decidable (_ = _))

def Hosted (db : Database) (code : Int) : Prop :=
  dataExists (db.get [toString code, GameKeys.topic.rawValue]) = true

def Write.isGame (code : Int) : Write → Bool
  | .game c .. => c = code
  | _ => false

def Write.InLobby : Write → Prop
  | .sheet .. => False
  | _ => True

variable {db : Database} {code : Int} {w : Write}

theorem dataExists_get_iff {t : Database} {p : List String}
    : dataExists (t.get p) = true ↔ ∃ q v, (p ++ q, v) ∈ t.leaves := by
  rw [dataExists_iff]
  constructor
  . intro h
    obtain ⟨⟨q, v⟩, h⟩ := List.exists_mem_of_ne_nil _ h
    exact ⟨q, v, by simpa using h⟩
  . rintro ⟨q, v, h⟩
    exact List.ne_nil_of_mem (a := (q, v)) (by simpa using h)

theorem Hosted.gameExists (h : Hosted db code) : GameExists db code := by
  obtain ⟨q, v, h⟩ := dataExists_get_iff.1 h
  exact dataExists_get_iff.2 ⟨GameKeys.topic.rawValue :: q, v, h⟩

theorem get_apply_of_code_ne (h : w.code ≠ code) (p : List String)
    : (w.apply db).get (toString code :: p) = db.get (toString code :: p) := by
  have hpath : ∃ q, w.path = toString w.code :: q := by
    cases w <;> exact ⟨_, rfl⟩
  obtain ⟨q, hq⟩ := hpath
  unfold Write.apply
  rw [hq]
  apply PathTree.get_set_of_ne
  rw [Ne, toString_inj]
  exact h

theorem get_field_apply (key : GameKeys) (hgame : w.isGame code = false)
    (hplayers : key ≠ .players) (hroundNum : key ≠ .roundNum) (hrounds : key ≠ .rounds)
    : (w.apply db).get [toString code, key.rawValue] = db.get [toString code, key.rawValue] := by
  by_cases hcode : w.code = code
  . subst hcode
    have hne₁ : GameKeys.players.rawValue ≠ key.rawValue := by
      cases key <;> first | exact absurd rfl hplayers | decide
    have hne₂ : GameKeys.roundNum.rawValue ≠ key.rawValue := by
      cases key <;> first | exact absurd rfl hroundNum | decide
    have hne₃ : GameKeys.rounds.rawValue ≠ key.rawValue := by
      cases key <;> first | exact absurd rfl hrounds | decide
    apply PathTree.get_set_of_not_prefix
    all_goals
      cases w with
      | game => simp [Write.isGame, Write.code] at hgame
      | player | removePlayer | number =>
        simp [Write.path, playerPath, Write.code, hne₁, hne₁.symm]
      | roundNum => simp [Write.path, Write.code, hne₂, hne₂.symm]
      | sheet => simp [Write.path, roundPath, Write.code, hne₃, hne₃.symm]
  . exact get_apply_of_code_ne hcode _

theorem get_game (topic : String) (maxNumOfRounds roundTime : Int) (id : UUID)
    (nickname joinDate : String) (p : List String)
    : ((Write.game code topic maxNumOfRounds roundTime id nickname joinDate).apply db).get
          (toString code :: p)
        =
      (gameDict topic maxNumOfRounds roundTime id.uuidString nickname joinDate).get p :=
  PathTree.get_set_append db _ [toString code] p

theorem hosted_game (topic : String) (maxNumOfRounds roundTime : Int) (id : UUID)
    (nickname joinDate : String)
    : Hosted ((Write.game code topic maxNumOfRounds roundTime id nickname joinDate).apply db) code := by
  unfold Hosted
  rw [get_game]
  rfl

theorem hosted_of_isGame (hgame : w.isGame code = true) : Hosted (w.apply db) code := by
  cases w with
  | game =>
    simp only [Write.isGame, decide_eq_true_eq] at hgame
    subst hgame
    exact hosted_game ..
  | _ => simp [Write.isGame] at hgame

theorem Hosted.apply (h : Hosted db code) : Hosted (w.apply db) code := by
  cases hgame : w.isGame code with
  | true => exact hosted_of_isGame hgame
  | false =>
    unfold Hosted
    rw [get_field_apply .topic hgame (by simp) (by simp) (by simp)]
    exact h

theorem not_hosted_empty : ¬Hosted .empty code := by
  simp [Hosted, dataExists]

theorem GameExists.of_apply (h : GameExists (w.apply db) code) (hgame : w.isGame code = false)
    (hother : w.code = code → (∀ id, w ≠ .removePlayer code id) → GameExists db code)
    : GameExists db code := by
  by_cases hcode : w.code = code
  . by_cases hremove : ∃ id, w = .removePlayer code id
    . obtain ⟨id, rfl⟩ := hremove
      obtain ⟨q, v, hleaf⟩ := dataExists_get_iff.1 h
      unfold Write.apply at hleaf
      rw [PathTree.mem_set] at hleaf
      rcases hleaf with ⟨hleaf, -⟩ | ⟨r, -, hr⟩
      . exact dataExists_get_iff.2 ⟨q, v, hleaf⟩
      . simp [Write.value] at hr
    . exact hother hcode fun id hw => hremove ⟨id, hw⟩
  . unfold GameExists at h
    rw [get_apply_of_code_ne hcode] at h
    exact h

/-! # Settings -/

theorem asDictionary_game_of_hosted (h : Hosted db code)
    : (asDictionary (db.get [toString code])).isSome = true := by
  have hmem : GameKeys.topic.rawValue ∈ (db.get [toString code]).keys := by
    rw [PathTree.mem_keys_iff_get, PathTree.get_get]
    exact dataExists_iff.1 h
  rw [asDictionary_of_mem_keys hmem]
  rfl

theorem getGameSettings_apply (h : Hosted db code) (hgame : w.isGame code = false)
    : StorageControllerWaitingRoom.getGameSettings (w.apply db) code
        =
      StorageControllerWaitingRoom.getGameSettings db code := by
  obtain ⟨keys, hkeys⟩ := Option.isSome_iff_exists.1 (asDictionary_game_of_hosted h)
  obtain ⟨keys', hkeys'⟩ := Option.isSome_iff_exists.1 (asDictionary_game_of_hosted (h.apply (w := w)))
  unfold StorageControllerWaitingRoom.getGameSettings
  simp only [hkeys, hkeys', PathTree.get_get, List.cons_append, List.nil_append]
  rw [get_field_apply .roundTime hgame (by simp) (by simp) (by simp),
    get_field_apply .topic hgame (by simp) (by simp) (by simp),
    get_field_apply .maxNumOfRounds hgame (by simp) (by simp) (by simp)]

theorem getGameSettings_code {gameSettings : GameSettings}
    (h : StorageControllerWaitingRoom.getGameSettings db code = some gameSettings)
    : gameSettings.code = code ∧ GameExists db code := by
  unfold StorageControllerWaitingRoom.getGameSettings at h
  dsimp only at h
  split at h
  . next keys hkeys =>
    rw [Option.some.injEq] at h
    subst h
    refine ⟨rfl, ?_⟩
    unfold asDictionary at hkeys
    split at hkeys
    . next hcond => exact (Bool.and_eq_true_iff.1 hcond).1
    . contradiction
  . contradiction

/-! # Players -/

def entry (db : Database) (code : Int) (key : String) : Database := db.get (playerPath code key)

theorem get_players (db : Database) (code : Int) (key : String)
    : (db.get (playersPath code)).get [key] = entry db code key := PathTree.get_get ..

theorem mem_keys_players {key : String}
    : key ∈ (db.get (playersPath code)).keys ↔ (entry db code key).leaves ≠ [] := by
  rw [PathTree.mem_keys_iff_get, get_players]

theorem gameExists_of_entry {key : String} (h : (entry db code key).leaves ≠ [])
    : GameExists db code := by
  obtain ⟨q, v, h⟩ := dataExists_get_iff.1 (dataExists_iff.2 h)
  exact dataExists_get_iff.2 ⟨GameKeys.players.rawValue :: key :: q, v, h⟩

theorem gameExists_of_asDictionary {keys : List String}
    (h : asDictionary (db.get (playersPath code)) = some keys)
    : GameExists db code := by
  have hne : keys ≠ [] := by
    rintro rfl
    rw [asDictionary_of_keys_eq_nil (asDictionary_eq_some h).symm] at h
    contradiction
  obtain ⟨key, hkey⟩ := List.exists_mem_of_ne_nil _ hne
  rw [asDictionary_eq_some h, mem_keys_players] at hkey
  exact gameExists_of_entry hkey

theorem entry_apply_of_code_ne (h : w.code ≠ code) (key : String)
    : entry (w.apply db) code key = entry db code key :=
  get_apply_of_code_ne h _

theorem entry_game {topic : String} {maxNumOfRounds roundTime : Int} {id : UUID}
    {nickname joinDate : String}
    : entry ((Write.game code topic maxNumOfRounds roundTime id nickname joinDate).apply db) code
        =
      Function.update (fun _ => .empty) id.uuidString (playerDict nickname joinDate) := by
  funext key
  refine (get_game ..).trans ?_
  by_cases hkey : key = id.uuidString
  . subst hkey
    rw [Function.update_self]
    apply PathTree.ext
    simp [PathTree.get, PathTree.strip, gameDict, playerDict, GameKeys.rawValue, PlayerKeys.rawValue]
  . rw [Function.update_of_ne hkey]
    apply PathTree.ext
    simp [PathTree.get, PathTree.strip, gameDict, GameKeys.rawValue, PlayerKeys.rawValue, hkey]

theorem entry_set (db t : Database) (code : Int) (key : String) (p : List String)
    : entry (db.set (playerPath code key ++ p) t) code
        =
      Function.update (entry db code) key ((entry db code key).set p t) := by
  funext key'
  by_cases hkey : key' = key
  . subst hkey
    rw [Function.update_self]
    exact PathTree.get_set_above ..
  . rw [Function.update_of_ne hkey]
    apply PathTree.get_set_of_not_prefix
    . simp [playerPath, Ne.symm hkey]
    . simp [playerPath, hkey]

theorem entry_player {id : UUID} {nickname joinDate : String}
    : entry ((Write.player code id nickname joinDate).apply db) code
        =
      Function.update (entry db code) id.uuidString (playerDict nickname joinDate) := by
  have h := entry_set db (playerDict nickname joinDate) code id.uuidString []
  rw [List.append_nil, PathTree.set_nil] at h
  exact h

theorem entry_removePlayer {id : UUID}
    : entry ((Write.removePlayer code id).apply db) code
        =
      Function.update (entry db code) id.uuidString .empty := by
  have h := entry_set db .empty code id.uuidString []
  rw [List.append_nil, PathTree.set_nil] at h
  exact h

theorem entry_number {key : String} {n : Int}
    : entry ((Write.number code key n).apply db) code
        =
      Function.update (entry db code) key
        ((entry db code key).set [PlayerKeys.number.rawValue] (.leaf (.int n))) :=
  entry_set ..

theorem entry_roundNum {n : Int} : entry ((Write.roundNum code n).apply db) code = entry db code := by
  funext key
  apply PathTree.get_set_of_not_prefix
  . simp [Write.path, playerPath, GameKeys.rawValue]
  . simp [Write.path, playerPath, GameKeys.rawValue]

theorem entry_sheet {sheet : Sheet} : entry ((Write.sheet code sheet).apply db) code = entry db code := by
  funext key
  apply PathTree.get_set_of_not_prefix
  . simp [Write.path, playerPath, roundPath, GameKeys.rawValue]
  . simp [Write.path, playerPath, roundPath, GameKeys.rawValue]

def Write.Enters (code : Int) (key : String) : Write → Prop
  | .game c _ _ _ id _ _ => c = code ∧ id.uuidString = key
  | .player c id _ _ => c = code ∧ id.uuidString = key
  | _ => False

inductive EntryNext (w : Write) (db : Database) (code : Int) (key : String) : Database → Prop
  | same : EntryNext w db code key (entry db code key)
  | host (topic : String) (maxNumOfRounds roundTime : Int) (id : UUID) (nickname joinDate : String)
      (hw : w = .game code topic maxNumOfRounds roundTime id nickname joinDate)
      (hkey : key = id.uuidString)
    : EntryNext w db code key (playerDict nickname joinDate)
  | player (id : UUID) (nickname joinDate : String) (hw : w = .player code id nickname joinDate)
      (hkey : key = id.uuidString)
    : EntryNext w db code key (playerDict nickname joinDate)
  | clear (hgame : w.isGame code = true) (henters : ¬w.Enters code key)
    : EntryNext w db code key .empty
  | remove (id : UUID) (hw : w = .removePlayer code id) (hkey : key = id.uuidString)
    : EntryNext w db code key .empty
  | number (n : Int) (hw : w = .number code key n)
    : EntryNext w db code key
        ((entry db code key).set [PlayerKeys.number.rawValue] (.leaf (.int n)))

theorem entryNext (w : Write) (db : Database) (code : Int) (key : String)
    : EntryNext w db code key (entry (w.apply db) code key) := by
  by_cases hcode : w.code = code
  . subst hcode
    cases w with
    | game code topic maxNumOfRounds roundTime id nickname joinDate =>
      rw [Write.code, entry_game]
      by_cases hkey : key = id.uuidString
      . subst hkey
        rw [Function.update_self]
        exact .host _ _ _ _ _ _ rfl rfl
      . rw [Function.update_of_ne hkey]
        exact .clear (by simp [Write.isGame]) fun henters => hkey henters.2.symm
    | player code id nickname joinDate =>
      rw [Write.code, entry_player]
      by_cases hkey : key = id.uuidString
      . subst hkey
        rw [Function.update_self]
        exact .player _ _ _ rfl rfl
      . rw [Function.update_of_ne hkey]
        exact .same
    | removePlayer code id =>
      rw [Write.code, entry_removePlayer]
      by_cases hkey : key = id.uuidString
      . subst hkey
        rw [Function.update_self]
        exact .remove _ rfl rfl
      . rw [Function.update_of_ne hkey]
        exact .same
    | number code key' n =>
      rw [Write.code, entry_number]
      by_cases hkey : key = key'
      . subst hkey
        rw [Function.update_self]
        exact .number n rfl
      . rw [Function.update_of_ne hkey]
        exact .same
    | roundNum code n =>
      rw [Write.code, entry_roundNum]
      exact .same
    | sheet code sheet =>
      rw [Write.code, entry_sheet]
      exact .same
  . rw [entry_apply_of_code_ne hcode]
    exact .same

theorem entry_apply_ne_nil {key : String} (hgame : w.isGame code = false)
    (hremove : ∀ id, w = .removePlayer code id → id.uuidString ≠ key)
    (h : (entry db code key).leaves ≠ [])
    : (entry (w.apply db) code key).leaves ≠ [] := by
  have hnext := entryNext w db code key
  generalize entry (w.apply db) code key = t at *
  cases hnext with
  | same => exact h
  | host | player => simp [playerDict]
  | clear hgame' =>
    rw [hgame] at hgame'
    contradiction
  | remove id hw hkey => exact absurd hkey.symm (hremove id hw)
  | number => simp [PathTree.set]

theorem entry_of_enters {key : String} (h : w.Enters code key)
    : (entry (w.apply db) code key).leaves ≠ [] := by
  cases w with
  | game c topic maxNumOfRounds roundTime id nickname joinDate =>
    obtain ⟨rfl, rfl⟩ := h
    rw [entry_game, Function.update_self]
    simp [playerDict]
  | player c id nickname joinDate =>
    obtain ⟨rfl, rfl⟩ := h
    rw [entry_player, Function.update_self]
    simp [playerDict]
  | _ => exact h.elim

theorem entry_apply_eq_nil {key : String} (henters : ¬w.Enters code key)
    (hnumber : ∀ n, w ≠ .number code key n) (h : (entry db code key).leaves = [])
    : (entry (w.apply db) code key).leaves = [] := by
  have hnext := entryNext w db code key
  generalize entry (w.apply db) code key = t at *
  cases hnext with
  | same => exact h
  | host topic maxNumOfRounds roundTime id nickname joinDate hw hkey =>
    subst hw
    exact absurd ⟨rfl, hkey.symm⟩ henters
  | player id nickname joinDate hw hkey =>
    subst hw
    exact absurd ⟨rfl, hkey.symm⟩ henters
  | clear | remove => rfl
  | number n hw => exact absurd hw (hnumber n)

theorem mem_startGame {o : IterationOrder}
    (h : w ∈ StorageControllerWaitingRoom.startGame o db code)
    : GameExists db code
        ∧
      ((∃ key n, w = .number code key n ∧ (entry db code key).leaves ≠ []) ∨ w = .roundNum code 1) := by
  unfold StorageControllerWaitingRoom.startGame at h
  split at h
  . next keys playersDict hgame hplayers =>
    have hexists : GameExists db code := by
      unfold asDictionary at hgame
      split at hgame
      . next hcond => exact (Bool.and_eq_true_iff.1 hcond).1
      . contradiction
    refine ⟨hexists, ?_⟩
    rw [List.mem_append, List.mem_mapIdx, List.mem_singleton] at h
    rcases h with ⟨k, hk, rfl⟩ | rfl
    . refine .inl ⟨_, _, rfl, ?_⟩
      rw [← mem_keys_players, ← asDictionary_eq_some hplayers]
      exact (o.perm _).mem_iff.1 (List.getElem_mem _)
    . exact .inr rfl
  . simp at h

/-! # Entries that can be read in the waiting room -/

theorem isSome_buildWaitingPlayer {zone : TimeZone} {key : String} {t : Database}
    : (StorageController.buildWaitingPlayer zone key t).isSome = true
        ↔
      (UUID.ofString? key).isSome = true
        ∧ (toDate (toText (t.get [PlayerKeys.joinDate.rawValue])) zone).isSome = true := by
  unfold StorageController.buildWaitingPlayer
  cases UUID.ofString? key <;> cases toDate _ zone <;> simp

/-- No entry of the game makes the waiting room trap. -/
def WellFormed (zone : TimeZone) (db : Database) (code : Int) : Prop :=
  ∀ key, (entry db code key).leaves ≠ [] →
    (StorageController.buildWaitingPlayer zone key (entry db code key)).isSome = true

def Write.Dated (zone : TimeZone) : Write → Prop
  | .game _ _ _ _ _ _ joinDate => (toDate joinDate zone).isSome = true
  | .player _ _ _ joinDate => (toDate joinDate zone).isSome = true
  | _ => True

def Write.isNumber (code : Int) (key : String) : Write → Bool
  | .number c k _ => c = code ∧ k = key
  | _ => false

def Write.Spares (w : Write) : Write → Prop
  | .removePlayer code id => w.isNumber code id.uuidString = false
  | _ => True

instance (w w' : Write) : Decidable (w.Spares w') :=
  match w' with
  | .removePlayer code id => inferInstanceAs (Decidable (w.isNumber code id.uuidString = false))
  | .game .. | .player .. | .number .. | .roundNum .. | .sheet .. => inferInstanceAs (Decidable True)

theorem buildWaitingPlayer_playerDict {zone : TimeZone} {id : UUID} {nickname joinDate : String}
    (h : (toDate joinDate zone).isSome = true)
    : (StorageController.buildWaitingPlayer zone id.uuidString
        (playerDict nickname joinDate)).isSome = true := by
  rw [isSome_buildWaitingPlayer, UUID.ofString?_uuidString]
  exact ⟨rfl, h⟩

theorem WellFormed.apply {zone : TimeZone} (h : WellFormed zone db code) (hdated : w.Dated zone)
    (hnumber : ∀ key, w.isNumber code key = true → (entry db code key).leaves ≠ [])
    : WellFormed zone (w.apply db) code := by
  intro key
  have hnext := entryNext w db code key
  generalize entry (w.apply db) code key = t at *
  cases hnext with
  | same => exact h key
  | host topic maxNumOfRounds roundTime id nickname joinDate hw hkey =>
    subst hw hkey
    exact fun _ => buildWaitingPlayer_playerDict hdated
  | player id nickname joinDate hw hkey =>
    subst hw hkey
    exact fun _ => buildWaitingPlayer_playerDict hdated
  | clear | remove => simp
  | number n hw =>
    have hold := h key (hnumber key (by simp [hw, Write.isNumber]))
    rw [isSome_buildWaitingPlayer] at hold ⊢
    rw [PathTree.get_set_of_ne _ _ (by decide)]
    exact fun _ => hold

theorem wellFormed_applyAll {zone : TimeZone} {ws : List Write}
    (h : ∀ code, WellFormed zone db code) (hdated : ∀ w ∈ ws, w.Dated zone)
    (hnumber : ∀ w ∈ ws, ∀ code key, w.isNumber code key = true → (entry db code key).leaves ≠ [])
    (hapart : ws.Pairwise fun w w' => w'.Spares w)
    (hgame : ∀ w ∈ ws, ∀ code key, w.isNumber code key = true → ∀ w' ∈ ws, w'.isGame code = false)
    : ∀ code, WellFormed zone (applyAll ws db) code := by
  induction ws generalizing db with
  | nil => exact h
  | cons w ws ih =>
    rw [List.forall_mem_cons] at hdated
    rw [List.pairwise_cons] at hapart
    rw [applyAll_cons]
    apply ih _ hdated.2 _ hapart.2
    . intro w₁ hw₁ code key hkey w₂ hw₂
      exact hgame w₁ (List.mem_cons_of_mem _ hw₁) code key hkey w₂ (List.mem_cons_of_mem _ hw₂)
    . intro code
      exact (h code).apply hdated.1 fun key => hnumber w List.mem_cons_self code key
    . intro w₁ hw₁ code key hkey
      have hmem := List.mem_cons_of_mem w hw₁
      apply entry_apply_ne_nil (hgame w₁ hmem code key hkey w List.mem_cons_self) _
        (hnumber w₁ hmem code key hkey)
      rintro id rfl rfl
      have hspares : w₁.isNumber code id.uuidString = false := hapart.1 w₁ hw₁
      rw [hspares] at hkey
      contradiction

/-! # Lists of players -/

section Build

variable {T : Type} {build : String → Database → Option T} {players : Database} {o : IterationOrder}

def buildEntry (build : String → Database → Option T) (players : Database) (key : String)
    : Option (List T) :=
  if (asDictionary (players.get [key])).isSome = true then
    (build key (players.get [key])).map fun player => [player]
  else
    some []

theorem buildPlayersArray_eq_map
    : StorageController.buildPlayersArray build o players
        =
      ((o.order players.keys).mapM (buildEntry build players)).map List.flatten := by
  have hturn : (fun key => do
        if (asDictionary (players.get [key])).isSome then
          let player ← build key (players.get [key])
          return [player]
        else
          return [])
      = buildEntry build players := by
    funext key
    unfold buildEntry
    split
    . cases build key (players.get [key]) <;> rfl
    . rfl
  unfold StorageController.buildPlayersArray
  rw [hturn]
  cases List.mapM (buildEntry build players) (o.order players.keys) <;> rfl

theorem isSome_buildPlayersArray
    (h : ∀ key ∈ players.keys, (build key (players.get [key])).isSome = true)
    : (StorageController.buildPlayersArray build o players).isSome = true := by
  rw [buildPlayersArray_eq_map, Option.isSome_map, List.isSome_mapM]
  intro key hkey
  unfold buildEntry
  split
  . rw [Option.isSome_map]
    exact h key ((o.perm _).mem_iff.1 hkey)
  . rfl

theorem mem_buildPlayersArray {l : List T} {player : T}
    (h : StorageController.buildPlayersArray build o players = some l)
    : player ∈ l
        ↔
      ∃ key ∈ players.keys,
        (asDictionary (players.get [key])).isSome = true
          ∧ build key (players.get [key]) = some player := by
  rw [buildPlayersArray_eq_map, Option.map_eq_some_iff] at h
  obtain ⟨entries, hentries, rfl⟩ := h
  have hmap := List.map_eq_of_mapM hentries
  rw [List.mem_flatten]
  constructor
  . rintro ⟨ps, hps, hplayer⟩
    obtain ⟨key, hkey, hturn⟩ := List.mem_of_mapM hentries ps hps
    refine ⟨key, (o.perm _).mem_iff.1 hkey, ?_⟩
    unfold buildEntry at hturn
    -- An entry that is not a dictionary gives no player.
    split at hturn
    . next hdict =>
      rw [Option.map_eq_some_iff] at hturn
      obtain ⟨p, hp, rfl⟩ := hturn
      rw [List.mem_singleton] at hplayer
      subst hplayer
      exact ⟨hdict, hp⟩
    . rw [Option.some.injEq] at hturn
      subst hturn
      simp at hplayer
  . rintro ⟨key, hkey, hdict, hplayer⟩
    have hturn : buildEntry build players key = some [player] := by
      unfold buildEntry
      rw [if_pos hdict, hplayer]
      rfl
    have hmem : some [player] ∈ entries.map some := by
      rw [← hmap, ← hturn]
      exact List.mem_map_of_mem ((o.perm _).mem_iff.2 hkey)
    exact ⟨[player], by simpa using hmem, List.mem_singleton_self _⟩

theorem length_buildPlayersArray {l : List T}
    (h : StorageController.buildPlayersArray build o players = some l)
    (hdict : ∀ key ∈ players.keys, (asDictionary (players.get [key])).isSome = true)
    : l.length = players.keys.length := by
  rw [buildPlayersArray_eq_map, Option.map_eq_some_iff] at h
  obtain ⟨entries, hentries, rfl⟩ := h
  have hone : ∀ ps ∈ entries, ps.length = 1 := by
    intro ps hps
    obtain ⟨key, hkey, hturn⟩ := List.mem_of_mapM hentries ps hps
    unfold buildEntry at hturn
    rw [if_pos (hdict key ((o.perm _).mem_iff.1 hkey)), Option.map_eq_some_iff] at hturn
    obtain ⟨p, -, rfl⟩ := hturn
    rfl
  have hlength : entries.length = players.keys.length := by
    have := congrArg List.length (List.map_eq_of_mapM hentries)
    rw [List.length_map, List.length_map, (o.perm _).length_eq] at this
    exact this.symm
  rw [List.length_flatten, List.map_congr_left hone, List.map_const', List.sum_replicate, hlength]
  simp

end Build

theorem buildPlayer_uuidString (id : UUID) (t : Database)
    : StorageController.buildPlayer id.uuidString t
        =
      some {
        id := id
        nickname := toText (t.get [PlayerKeys.nickname.rawValue])
        number := toInt (t.get [PlayerKeys.number.rawValue]) } := by
  unfold StorageController.buildPlayer
  rw [UUID.ofString?_uuidString]
  rfl

theorem isSome_asDictionary_entry {zone : TimeZone} {t : Database}
    (h : (toDate (toText (t.get [PlayerKeys.joinDate.rawValue])) zone).isSome = true)
    : (asDictionary t).isSome = true := by
  have hmem : PlayerKeys.joinDate.rawValue ∈ t.keys := by
    rw [PathTree.mem_keys_iff_get]
    intro hnil
    have hempty : t.get [PlayerKeys.joinDate.rawValue] = .empty := PathTree.ext hnil
    rw [hempty] at h
    simp [toText, toDate_empty] at h
  rw [asDictionary_of_mem_keys hmem]
  rfl

theorem WellFormed.isSome_observePlayers {zone : TimeZone} {o : IterationOrder} {node : Database}
    (h : ∀ key ∈ node.keys,
      (StorageController.buildWaitingPlayer zone key (node.get [key])).isSome = true)
    : (StorageControllerWaitingRoom.observePlayers o zone node).isSome = true := by
  unfold StorageControllerWaitingRoom.observePlayers
  split
  . obtain ⟨l, hl⟩ := Option.isSome_iff_exists.1 (isSome_buildPlayersArray (o := o) h)
    rw [hl]
    rfl
  . rfl

theorem WellFormed.getPlayers {zone : TimeZone} (h : WellFormed zone db code) (o : IterationOrder)
    : ∃ players, StorageControllerWaitingRoom.getPlayers o db code = some players
        ∧
      ∀ ps, players = some ps → GameExists db code
        ∧
      ∀ id : UUID, (entry db code id.uuidString).leaves ≠ [] → ∃ player ∈ ps, player.id = id := by
  have hbuild : ∀ key ∈ (db.get (playersPath code)).keys,
      (StorageController.buildPlayer key ((db.get (playersPath code)).get [key])).isSome = true := by
    intro key hkey
    have hsome := (isSome_buildWaitingPlayer.1 (h key (mem_keys_players.1 hkey))).1
    obtain ⟨id, hid⟩ := Option.isSome_iff_exists.1 hsome
    simp [StorageController.buildPlayer, hid]
  obtain ⟨l, hl⟩ := Option.isSome_iff_exists.1 (isSome_buildPlayersArray (o := o) hbuild)
  unfold StorageControllerWaitingRoom.getPlayers
  dsimp only
  split
  . next keys hkeys =>
    refine ⟨some l, by rw [hl]; rfl, ?_⟩
    intro ps hps
    rw [Option.some.injEq] at hps
    subst hps
    constructor
    . exact gameExists_of_asDictionary hkeys
    . intro id hentry
      have hkey := mem_keys_players.2 hentry
      have hgood := isSome_buildWaitingPlayer.1 (h _ hentry)
      have hdict : (asDictionary ((db.get (playersPath code)).get [id.uuidString])).isSome = true := by
        rw [get_players]
        exact isSome_asDictionary_entry hgood.2
      exact ⟨_, (mem_buildPlayersArray hl).2 ⟨_, hkey, hdict, buildPlayer_uuidString id _⟩, rfl⟩
  . exact ⟨none, rfl, fun ps hps => by contradiction⟩

/-! # Numbers of players -/

def HasNumber (db : Database) (code : Int) (key : String) (n : Int) : Prop :=
  (entry db code key).get [PlayerKeys.number.rawValue] = .leaf (.int n)

theorem HasNumber.isSome_asDictionary {key : String} {n : Int} (h : HasNumber db code key n)
    : (asDictionary (entry db code key)).isSome = true := by
  have hmem : PlayerKeys.number.rawValue ∈ (entry db code key).keys := by
    rw [PathTree.mem_keys_iff_get, h]
    simp
  rw [asDictionary_of_mem_keys hmem]
  rfl

theorem hasNumber_number {key : String} {n : Int}
    : HasNumber ((Write.number code key n).apply db) code key n := by
  unfold HasNumber
  rw [entry_number, Function.update_self, PathTree.get_set_self]

theorem HasNumber.apply {key : String} {n : Int} (h : HasNumber db code key n)
    (hgame : w.isGame code = false)
    (hplayer : ∀ id nickname joinDate, w ≠ .player code id nickname joinDate)
    (hremove : ∀ id, w ≠ .removePlayer code id)
    (hnumber : ∀ m, w = .number code key m → m = n)
    : HasNumber (w.apply db) code key n := by
  have hnext := entryNext w db code key
  unfold HasNumber
  generalize entry (w.apply db) code key = t at *
  cases hnext with
  | same => exact h
  | host topic maxNumOfRounds roundTime id nickname joinDate hw => simp [hw, Write.isGame] at hgame
  | player id nickname joinDate hw => exact absurd hw (hplayer id nickname joinDate)
  | clear hgame' =>
    rw [hgame] at hgame'
    contradiction
  | remove id hw => exact absurd hw (hremove id)
  | number m hw => rw [PathTree.get_set_self, hnumber m hw]

theorem startGame_eq_nil {o : IterationOrder} (h : asDictionary (db.get (playersPath code)) = none)
    : StorageControllerWaitingRoom.startGame o db code = [] := by
  unfold StorageControllerWaitingRoom.startGame
  rw [h]
  cases asDictionary (db.get [toString code]) <;> rfl

theorem startGame_eq {o : IterationOrder} {keys : List String}
    (h : asDictionary (db.get (playersPath code)) = some keys)
    : StorageControllerWaitingRoom.startGame o db code
        =
      (o.order keys).mapIdx (fun k key => .number code key (k + 1)) ++ [.roundNum code 1] := by
  have hplayers : GameKeys.players.rawValue ∈ (db.get [toString code]).keys := by
    rw [PathTree.mem_keys_iff_get, PathTree.get_get]
    unfold asDictionary at h
    split at h
    . next hcond => exact dataExists_iff.1 (Bool.and_eq_true_iff.1 hcond).1
    . contradiction
  unfold StorageControllerWaitingRoom.startGame
  rw [h, asDictionary_of_mem_keys hplayers]

/-! # The number of the round -/

theorem observeRoundNum_game {topic : String} {maxNumOfRounds roundTime : Int} {id : UUID}
    {nickname joinDate : String}
    : StorageControllerWaitingRoom.observeRoundNum
          ((Write.game code topic maxNumOfRounds roundTime id nickname joinDate).apply db) code
        =
      some 0 := by
  unfold StorageControllerWaitingRoom.observeRoundNum
  rw [get_game]
  rfl

theorem observeRoundNum_apply_of_ne (hlobby : w.InLobby) (hgame : w.isGame code = false)
    (hround : ∀ n, w ≠ .roundNum code n)
    : StorageControllerWaitingRoom.observeRoundNum (w.apply db) code
        =
      StorageControllerWaitingRoom.observeRoundNum db code := by
  unfold StorageControllerWaitingRoom.observeRoundNum
  by_cases hcode : w.code = code
  . subst hcode
    unfold Write.apply
    rw [PathTree.get_set_of_not_prefix]
    all_goals
      cases w with
      | game => simp [Write.isGame, Write.code] at hgame
      | player | removePlayer | number => simp [Write.path, Write.code, playerPath, GameKeys.rawValue]
      | roundNum code n => exact absurd rfl (hround n)
      | sheet => exact hlobby.elim
  . rw [get_apply_of_code_ne hcode]

end SCatCh
