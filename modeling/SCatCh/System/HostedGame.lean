import SCatCh.System.Progress
import SCatCh.System.Seating
import SCatCh.System.Settings
import SCatCh.System.SummaryClient

/-!
This module contains what a game comes to from the tap on Host to the last swipe in the summary: the
results about the lobby, the play and the summary, put together.
-/

namespace SCatCh

namespace Lobby

variable {ι δ : Type} [Fintype ι] [DecidableEq ι] [DecidableEq δ] {device : ι → δ} {zone : TimeZone}
  {s : Lobby ι δ} {code : Int}

/-- Everyone listed has entered the Sheet state, the host among them, and nothing is on its way. -/
structure Gathered (s : Lobby ι δ) (code : Int) : Prop where
  host : ∃ i : s.Seat code, (s.controller code i).isHost = true
  all : ∀ key ∈ (s.db.get (playersPath code)).keys, ∃ i : s.Seat code, (s.sessions i).key = key
  sent : ∀ d, ∀ w ∈ s.outbox d, w.code ≠ code
  starts : ∀ i : s.Seat code, pendingStarts (s.sessions i) = 0

/-- The number of sheets in each stack. -/
def numOfRounds (s : Lobby ι δ) (code maxNumOfRounds : Int) : Int :=
  min (Fintype.card (s.Seat code) : Int) maxNumOfRounds

omit [Fintype ι] [DecidableEq ι] [DecidableEq δ] in
theorem gameSettings_table (h : s.SettingsInv device) (hseats : s.SeatInv device)
    (hgathered : s.Gathered code)
    : (s.table code).gameSettings.Playable
        ∧
      ∃ j player, (s.sessions j).tap = some (.host code (s.table code).gameSettings.topic
        (s.table code).gameSettings.maxNumOfRounds (s.table code).gameSettings.roundTime player) := by
  obtain ⟨i, -⟩ := hgathered.host
  obtain ⟨heq, hcode⟩ := hseats.controller_eq i
  have hsettings : (s.controller code i).gameSettings = (s.table code).gameSettings := by
    rw [heq]
    rfl
  obtain ⟨-, j, tap, htap, hchosen⟩ := h.sheet i _ (s.controller_mem code i)
  rw [hsettings] at hchosen
  refine ⟨h.playable j tap htap _ hchosen, j, ?_⟩
  cases tap with
  | host code' topic maxNumOfRounds roundTime player =>
    simp only [Tap.gameSettings?, Option.mem_def, Option.some.injEq] at hchosen
    rw [← hchosen] at hcode ⊢
    dsimp only at hcode ⊢
    subst hcode
    exact ⟨player, htap⟩
  | join => contradiction

def seated (s : Duo) (h : ∀ i, (s.sessions i).code = 123456 ∧ (s.sessions i).sheet.isSome = true)
    : Play.Action Bool → Play.Action (s.Seat 123456)
  | .device i a => .device ⟨i, h i⟩ a
  | .process i => .process ⟨i, h i⟩
  | .startGame i => .startGame ⟨i, h i⟩
  | .startReply i o => .startReply ⟨i, h i⟩ o
  | .enter i => .enter ⟨i, h i⟩

end Lobby

end SCatCh
