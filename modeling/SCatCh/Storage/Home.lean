import SCatCh.Storage.Basic

/-!
This module contains `StorageController_Home`. Both functions read the game first and write in the
callback, which is what is defined here: `db` is the database that was read, and the data handler is
told whether there is a write.
-/

namespace SCatCh.StorageControllerHome

def hostGame (db : Database) (zone : TimeZone) (code : Int) (topic : String)
    (maxNumOfRounds roundTime : Int) (player : WaitingPlayer)
    : Option Write :=
  if dataExists (db.get [toString code]) then
    none
  else
    some (.game code topic maxNumOfRounds roundTime player.id player.nickname
      (player.joinDate.toString zone))

def joinGame (db : Database) (zone : TimeZone) (player : WaitingPlayer) (code : Int) : Option Write :=
  if dataExists (db.get [toString code]) then
    some (.player code player.id player.nickname (player.joinDate.toString zone))
  else
    none

end SCatCh.StorageControllerHome
