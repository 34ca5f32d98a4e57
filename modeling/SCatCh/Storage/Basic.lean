import SCatCh.Lib.List
import SCatCh.Lib.PathTree
import SCatCh.Storage.Keys

/-!
This module contains the Firebase services as the app sees them, the writes that its storage
controllers send to the database, and the class `StorageController` from which these inherit.

The database is one tree, with the games below their codes. Swift's runtime traps (a forced
unwrapping of `nil`, a failed forced cast) are modelled by `none`.
-/

namespace SCatCh

inductive Value where
  | int (n : Int)
  | string (s : String)
  deriving DecidableEq

/-- The content of the database, or of one of its nodes as a `DataSnapshot` hands it out. -/
abbrev Database := PathTree String Value

/-- `DataSnapshot.exists()` -/
def dataExists (t : Database) : Bool := !t.leaves.isEmpty

def asInt (t : Database) : Option Int :=
  match t.value? with
  | some (.int n) => some n
  | _ => none

def asString (t : Database) : Option String :=
  match t.value? with
  | some (.string s) => some s
  | _ => none

/-- The keys of `as? Dictionary<String, Any>`, whose values are the nodes below them. -/
def asDictionary (t : Database) : Option (List String) :=
  if dataExists t && t.value?.isNone then some t.keys else none

def toInt (t : Database) : Int := (asInt t).getD 0

/-- `toString` of an optional -/
def toText (t : Database) : String := (asString t).getD ""

@[simp]
theorem asInt_leaf (n : Int) : asInt (.leaf (.int n)) = some n := rfl

@[simp]
theorem asString_leaf (s : String) : asString (.leaf (.string s)) = some s := rfl

@[simp]
theorem asInt_empty : asInt .empty = none := rfl

@[simp]
theorem asString_empty : asString .empty = none := rfl

@[simp]
theorem asDictionary_empty : asDictionary .empty = none := rfl

theorem dataExists_iff {t : Database} : dataExists t = true ↔ t.leaves ≠ [] := by
  simp [dataExists]

theorem asDictionary_of_mem_keys {t : Database} {k : String} (h : k ∈ t.keys)
    : asDictionary t = some t.keys := by
  obtain ⟨q, v, h⟩ := PathTree.mem_keys.1 h
  have hexists : dataExists t = true := dataExists_iff.2 (List.ne_nil_of_mem h)
  have hvalue : t.value? = none := by
    rw [Option.eq_none_iff_forall_ne_some]
    intro w hw
    rw [PathTree.value?_eq_some] at hw
    subst hw
    simp at h
  simp [asDictionary, hexists, hvalue]

theorem asDictionary_of_keys_eq_nil {t : Database} (h : t.keys = []) : asDictionary t = none := by
  unfold asDictionary
  split
  . next hcond =>
    rw [Bool.and_eq_true, dataExists_iff, Option.isNone_iff_eq_none] at hcond
    exact absurd (PathTree.leaves_eq_nil_of_keys_eq_nil h hcond.2) hcond.1
  . rfl

theorem asDictionary_eq_some {t : Database} {keys : List String} (h : asDictionary t = some keys)
    : keys = t.keys := by
  unfold asDictionary at h
  split at h
  . simpa using h.symm
  . contradiction

/-- The order in which Swift goes through a dictionary is not specified. -/
structure IterationOrder where
  order : List String → List String
  perm (keys : List String) : (order keys).Perm keys

def IterationOrder.listed : IterationOrder := ⟨id, fun _ => .refl _⟩

/-- Firebase Storage: the data stored under a path. -/
abbrev Images := String → Option (List UInt8)

/-- `getData(maxSize:)`, which fails for larger data. -/
def Images.getData (images : Images) (path : String) (maxSize : Nat) : Option (List UInt8) :=
  match images path with
  | some data => if data.length ≤ maxSize then some data else none
  | none => none

def Images.putData (images : Images) (upload : String × List UInt8) : Images :=
  Function.update images upload.1 (some upload.2)

/-! # Writes -/

/-- The calls of `setValue` and `removeValue`, named after what they write. -/
inductive Write where
  | game (code : Int) (topic : String) (maxNumOfRounds roundTime : Int)
    (id : UUID) (nickname joinDate : String)
  | player (code : Int) (id : UUID) (nickname joinDate : String)
  | removePlayer (code : Int) (id : UUID)
  | number (code : Int) (key : String) (number : Int)
  | roundNum (code : Int) (roundNum : Int)
  | sheet (code : Int) (sheet : Sheet)
  deriving DecidableEq

def playerPath (code : Int) (key : String) : List String :=
  [toString code, GameKeys.players.rawValue, key]

def playersPath (code : Int) : List String := [toString code, GameKeys.players.rawValue]

def roundPath (code roundNum : Int) : List String :=
  [toString code, GameKeys.rounds.rawValue, roundKey roundNum]

def playerDict (nickname joinDate : String) : Database where
  leaves := [
    ([PlayerKeys.nickname.rawValue], .string nickname),
    ([PlayerKeys.joinDate.rawValue], .string joinDate)
  ]
  incomparable := by simp [PlayerKeys.rawValue]

def gameDict (topic : String) (maxNumOfRounds roundTime : Int) (id nickname joinDate : String)
    : Database where
  leaves := [
    ([GameKeys.topic.rawValue], .string topic),
    ([GameKeys.maxNumOfRounds.rawValue], .int maxNumOfRounds),
    ([GameKeys.roundTime.rawValue], .int roundTime),
    ([GameKeys.roundNum.rawValue], .int 0),
    ([GameKeys.players.rawValue, id, PlayerKeys.nickname.rawValue], .string nickname),
    ([GameKeys.players.rawValue, id, PlayerKeys.joinDate.rawValue], .string joinDate)
  ]
  incomparable := by simp [GameKeys.rawValue, PlayerKeys.rawValue]

/-- A sheet without content is a drawing, whose image is in Storage. -/
def sheetDict (authorNum : Int) : Content → Database
  | .guess content => {
      leaves := [
        ([SheetKeys.authorNum.rawValue], .int authorNum),
        ([SheetKeys.content.rawValue], .string content)
      ]
      incomparable := by simp [SheetKeys.rawValue]
    }
  | .drawing _ => {
      leaves := [([SheetKeys.authorNum.rawValue], .int authorNum)]
      incomparable := by simp
    }

namespace Write

def path : Write → List String
  | game code .. => [toString code]
  | player code id .. => playerPath code id.uuidString
  | removePlayer code id => playerPath code id.uuidString
  | number code key _ => playerPath code key ++ [PlayerKeys.number.rawValue]
  | roundNum code _ => [toString code, GameKeys.roundNum.rawValue]
  | sheet code s => roundPath code s.number ++ [s.id.uuidString]

def value : Write → Database
  | game _ topic maxNumOfRounds roundTime id nickname joinDate =>
    gameDict topic maxNumOfRounds roundTime id.uuidString nickname joinDate
  | player _ _ nickname joinDate => playerDict nickname joinDate
  | removePlayer .. => .empty
  | number _ _ n => .leaf (.int n)
  | roundNum _ n => .leaf (.int n)
  | sheet _ s => sheetDict s.author.number s.content

def apply (w : Write) (db : Database) : Database := db.set w.path w.value

def code : Write → Int
  | game code .. => code
  | player code .. => code
  | removePlayer code _ => code
  | number code .. => code
  | roundNum code _ => code
  | sheet code _ => code

end Write

def applyAll (ws : List Write) (db : Database) : Database := ws.foldl (fun db w => w.apply db) db

@[simp]
theorem applyAll_nil (db : Database) : applyAll [] db = db := rfl

@[simp]
theorem applyAll_cons (w : Write) (ws : List Write) (db : Database)
    : applyAll (w :: ws) db = applyAll ws (w.apply db) := rfl

/-! # Reading sheets and players -/

namespace StorageController

def getDrawingSheet (images : Images) (sheet : UUID × Player × Int) (imageId : String) : List Sheet :=
  match images.getData (drawingPath imageId) imageMaxSize with
  | some data => [⟨sheet.1, sheet.2.1, sheet.2.2, .drawing ⟨data⟩⟩]
  | none => []

/-- The sheets handed to the data handler, which are one or, after a failed download, none. -/
def getSheet (images : Images) (id : String) (author : Player) (roundNum : Int)
    (sheetValues : Database)
    : Option (List Sheet) :=
  match asString (sheetValues.get [SheetKeys.content.rawValue]) with
  | some content => do
    let uuid ← UUID.ofString? id
    return [⟨uuid, author, roundNum, .guess content⟩]
  | none => do
    let uuid ← UUID.ofString? id
    return getDrawingSheet images (uuid, author, roundNum) id

theorem mem_getSheet {images : Images} {id : String} {author : Player} {roundNum : Int}
    {sheetValues : Database} {sheets : List Sheet}
    (h : getSheet images id author roundNum sheetValues = some sheets)
    : ∀ s ∈ sheets, s.author = author ∧ s.number = roundNum := by
  unfold getSheet at h
  intro s hs
  split at h
  all_goals
    simp only [Option.bind_eq_bind, Option.bind_eq_some_iff, Option.pure_def, Option.some.injEq] at h
    obtain ⟨uuid, -, rfl⟩ := h
  . rw [List.mem_singleton] at hs
    subst hs
    exact ⟨rfl, rfl⟩
  . unfold getDrawingSheet at hs
    split at hs
    . rw [List.mem_singleton] at hs
      subst hs
      exact ⟨rfl, rfl⟩
    . simp at hs

def buildPlayer (key : String) (playerValues : Database) : Option Player := do
  let id ← UUID.ofString? key
  return {
    id := id
    nickname := toText (playerValues.get [PlayerKeys.nickname.rawValue])
    number := toInt (playerValues.get [PlayerKeys.number.rawValue])
  }

def buildWaitingPlayer (zone : TimeZone) (key : String) (playerValues : Database)
    : Option WaitingPlayer := do
  let id ← UUID.ofString? key
  let joinDate ← toDate (toText (playerValues.get [PlayerKeys.joinDate.rawValue])) zone
  return {
    id := id
    nickname := toText (playerValues.get [PlayerKeys.nickname.rawValue])
    joinDate := joinDate
  }

/--
`buildPlayersArray`, with the branch of the type switch as the argument `build`. Entries that are not
dictionaries are passed over.
-/
def buildPlayersArray {T : Type} (build : String → Database → Option T) (o : IterationOrder)
    (players : Database)
    : Option (List T) := do
  let entries ← (o.order players.keys).mapM fun key => do
    if (asDictionary (players.get [key])).isSome then
      let player ← build key (players.get [key])
      return [player]
    else
      return []
  return entries.flatten

theorem buildPlayersArray_eq {T : Type} {build : String → Database → Option T} {players : Database}
    {player : String → T} (o : IterationOrder)
    (hentry : ∀ k ∈ players.keys, (asDictionary (players.get [k])).isSome = true)
    (hbuild : ∀ k ∈ players.keys, build k (players.get [k]) = some (player k))
    : buildPlayersArray build o players = some ((o.order players.keys).map player) := by
  have hmapM : (o.order players.keys).mapM (fun key => do
        if (asDictionary (players.get [key])).isSome then
          let player ← build key (players.get [key])
          return [player]
        else
          return [])
      = some ((o.order players.keys).map fun k => [player k]) := by
    apply List.mapM_eq_some_map
    intro k hk
    have hk := (o.perm _).mem_iff.1 hk
    simp [hentry k hk, hbuild k hk]
  unfold buildPlayersArray
  rw [hmapM, Option.bind_eq_bind, Option.bind_some, ← List.flatMap_def, ← List.map_eq_flatMap]
  rfl

end StorageController

end SCatCh
