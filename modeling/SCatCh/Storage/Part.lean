import SCatCh.Storage.Players

/-!
This module contains the part of the database that belongs to one game. Writes to other games leave it
as it is, and it is all that the reads and the observers of a game depend on.
-/

namespace SCatCh

def gamePart (code : Int) (db : Database) : Database := db.only (toString code == ·)

variable {code code' : Int} {db db' : Database} {w : Write}

theorem get_eq_of_gamePart (h : gamePart code db = gamePart code db')
    (hcode : code' = code ∨ (¬GameExists db code' ∧ ¬GameExists db' code')) (p : List String)
    : db.get (toString code' :: p) = db'.get (toString code' :: p) := by
  rcases hcode with rfl | ⟨hnot, hnot'⟩
  . have hkey : (toString code' == toString code') = true := beq_self_eq_true _
    unfold gamePart at h
    rw [← PathTree.get_only db (p := (toString code' == ·)) hkey, h, PathTree.get_only _ hkey]
  . have hempty : ∀ db : Database, ¬GameExists db code' → db.get (toString code' :: p) = .empty := by
      intro db hnot
      have hleaves : db.get [toString code'] = .empty := by
        apply PathTree.ext
        simpa [GameExists, dataExists_iff] using hnot
      rw [← List.singleton_append, ← PathTree.get_get, hleaves, PathTree.get_empty]
    rw [hempty db hnot, hempty db' hnot']

/-! # Writes -/

theorem Write.path_eq_cons (w : Write) : ∃ q, w.path = toString w.code :: q := by
  cases w <;> exact ⟨_, rfl⟩

theorem gamePart_apply (h : w.code = code) (db : Database)
    : gamePart code (w.apply db) = w.apply (gamePart code db) := by
  obtain ⟨q, hq⟩ := w.path_eq_cons
  unfold gamePart Write.apply
  rw [hq, h]
  exact PathTree.only_set _ _ (beq_self_eq_true _) q

theorem gamePart_apply_of_ne (h : w.code ≠ code) (db : Database)
    : gamePart code (w.apply db) = gamePart code db := by
  obtain ⟨q, hq⟩ := w.path_eq_cons
  unfold gamePart Write.apply
  rw [hq]
  apply PathTree.only_set_of_not
  rw [beq_eq_false_iff_ne, Ne, toString_inj]
  exact Ne.symm h

theorem gamePart_apply_congr (w : Write) (h : gamePart code db = gamePart code db')
    : gamePart code (w.apply db) = gamePart code (w.apply db') := by
  by_cases hcode : w.code = code
  . rw [gamePart_apply hcode, gamePart_apply hcode, h]
  . rw [gamePart_apply_of_ne hcode, gamePart_apply_of_ne hcode, h]

theorem gamePart_applyAll (code : Int) (ws : List Write) (db : Database)
    : gamePart code (applyAll ws db)
        =
      applyAll (ws.filter fun w => w.code = code) (gamePart code db) := by
  induction ws generalizing db with
  | nil => rfl
  | cons w ws ih =>
    rw [applyAll_cons, ih]
    by_cases hcode : w.code = code
    . rw [List.filter_cons_of_pos (by simpa using hcode), applyAll_cons, gamePart_apply hcode]
    . rw [List.filter_cons_of_neg (by simpa using hcode), gamePart_apply_of_ne hcode]

/-! # Reads -/

section Reads

variable (h : ∀ p, db.get (toString code :: p) = db'.get (toString code :: p))
include h

theorem hostGame_congr (zone : TimeZone) (topic : String) (maxNumOfRounds roundTime : Int)
    (player : WaitingPlayer)
    : StorageControllerHome.hostGame db zone code topic maxNumOfRounds roundTime player
        =
      StorageControllerHome.hostGame db' zone code topic maxNumOfRounds roundTime player := by
  unfold StorageControllerHome.hostGame
  rw [h]

theorem joinGame_congr (zone : TimeZone) (player : WaitingPlayer)
    : StorageControllerHome.joinGame db zone player code
        =
      StorageControllerHome.joinGame db' zone player code := by
  unfold StorageControllerHome.joinGame
  rw [h]

theorem getGameSettings_congr
    : StorageControllerWaitingRoom.getGameSettings db code
        =
      StorageControllerWaitingRoom.getGameSettings db' code := by
  unfold StorageControllerWaitingRoom.getGameSettings
  rw [h]

theorem getPlayers_congr (o : IterationOrder)
    : StorageControllerWaitingRoom.getPlayers o db code
        =
      StorageControllerWaitingRoom.getPlayers o db' code := by
  unfold StorageControllerWaitingRoom.getPlayers playersPath
  rw [h]

theorem startGame_congr (o : IterationOrder)
    : StorageControllerWaitingRoom.startGame o db code
        =
      StorageControllerWaitingRoom.startGame o db' code := by
  unfold StorageControllerWaitingRoom.startGame playersPath
  rw [h, h]

theorem observeRoundNum_congr
    : StorageControllerWaitingRoom.observeRoundNum db code
        =
      StorageControllerWaitingRoom.observeRoundNum db' code :=
  congrArg asInt (h _)

end Reads

end SCatCh
