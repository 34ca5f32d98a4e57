import SCatCh.Lib.TransitionSystem
import SCatCh.Storage.RoundTrip
import SCatCh.System.SheetClientLemmas

/-!
This module contains the runs of a single device in the Sheet state, to which Firebase may deliver
any round numbers and any answers, and the reference sheet it shows.
-/

namespace SCatCh.SheetClient

open StateControllerSheet (getAuthorNumToGetRefSheet)

def system (gameSettings : GameSettings) (player : Player) (numOfPlayers : Int) (isHost : Bool)
    : TransitionSystem SheetClient Input where
  init := fun c => c = create gameSettings player numOfPlayers isHost
  step := step

/-- From round 2 on, the reference is a sheet of the round before by the author whose turn it was. -/
def ReferenceOfRound (numOfPlayers playerNum : Int) (c : SheetClient) : Prop :=
  2 ≤ c.controller.roundNum → ∀ sheet, c.controller.referenceSheet = some sheet →
    sheet.number = c.controller.roundNum - 1
      ∧
    getAuthorNumToGetRefSheet numOfPlayers playerNum = some sheet.author.number

/--
A reply is handled in the round in which it was asked for, unless no reference is expected, and the
game is not handed over to the summary with a reference.
-/
def Timely (c : SheetClient) : Input → Prop
  | .reply k =>
    match c.replies[k]? with
    | some ((roundNum, _), _) => c.controller.roundNum ≤ 1 ∨ roundNum + 1 = c.controller.roundNum
    | none => True
  | .deliverRoundNum =>
    match c.roundNum.queue with
    | v :: _ => v ≤ c.controller.numOfRounds ∨ v ≤ 1 ∨ v = c.controller.roundNum
        ∨ c.controller.referenceSheet = none
    | [] => True
  | _ => True

instance (c : SheetClient) (a : Input) : Decidable (c.Timely a) := by
  unfold Timely
  split
  . split <;> infer_instance
  . split <;> infer_instance
  . infer_instance

structure ReferenceInv (numOfPlayers playerNum : Int) (c : SheetClient) : Prop where
  num_players : c.controller.numOfPlayers = numOfPlayers
  player : c.controller.player.number = playerNum
  requests : ∀ r ∈ c.requests, getAuthorNumToGetRefSheet numOfPlayers playerNum = some r.2
  replies : ∀ r ∈ c.replies,
    getAuthorNumToGetRefSheet numOfPlayers playerNum = some r.1.2
      ∧ r.2.number = r.1.1 ∧ r.2.author.number = r.1.2
  reference : ReferenceOfRound numOfPlayers playerNum c

namespace ReferenceInv

variable {numOfPlayers playerNum : Int} {c c' : SheetClient}

theorem congr (h : ReferenceInv numOfPlayers playerNum c)
    (hcontroller : c'.controller = c.controller) (hrequests : c'.requests = c.requests)
    (hreplies : c'.replies = c.replies)
    : ReferenceInv numOfPlayers playerNum c' := by
  refine ⟨?_, ?_, ?_, ?_, ?_⟩
  . rw [hcontroller]
    exact h.num_players
  . rw [hcontroller]
    exact h.player
  . rw [hrequests]
    exact h.requests
  . rw [hreplies]
    exact h.replies
  . unfold ReferenceOfRound
    rw [hcontroller]
    exact h.reference

theorem replies_next (h : ReferenceInv numOfPlayers playerNum c) {a : Input} (hnext : Next c a c')
    : ∀ r ∈ c'.replies,
        getAuthorNumToGetRefSheet numOfPlayers playerNum = some r.1.2
          ∧ r.2.number = r.1.1 ∧ r.2.author.number = r.1.2 := by
  intro r hr
  rcases hnext.mem_replies hr with hr | ⟨_, _, _, _, _, sheets, -, hrequest, hsheets, hsheet⟩
  . exact h.replies r hr
  . exact ⟨h.requests _ hrequest, StorageControllerSheet.mem_getReferenceSheet hsheets r.2 hsheet⟩

/-- A reply is about the round before the one in which it is handled. -/
theorem reference_next (h : ReferenceInv numOfPlayers playerNum c) {a : Input} (hok : c.Timely a)
    (hnext : Next c a c')
    : ReferenceOfRound numOfPlayers playerNum c' := by
  intro hround sheet href
  rcases hnext.referenceSheet hround href with ⟨hsame, href⟩ | ⟨hsame, k, request, rfl, hk⟩
    | ⟨-, href, rfl, ⟨o, hdeliver⟩, hne, hlast⟩
  . rw [hsame] at hround ⊢
    exact h.reference hround sheet href
  . obtain ⟨hauthor, hnumber, hsheet⟩ := h.replies _ (List.mem_of_getElem? hk)
    simp only [Timely, hk] at hok
    dsimp only at hauthor hnumber hsheet
    refine ⟨by omega, ?_⟩
    rw [hsheet]
    exact hauthor
  . obtain ⟨queue, hqueue, -⟩ := Observer.deliver_eq_some.1 hdeliver
    simp only [Timely, hqueue, href, reduceCtorEq, or_false] at hok
    omega

theorem next (h : ReferenceInv numOfPlayers playerNum c) {a : Input} (hok : c.Timely a)
    (hnext : Next c a c')
    : ReferenceInv numOfPlayers playerNum c' := by
  obtain ⟨-, hplayer, hplayers⟩ := hnext.settings
  refine ⟨hplayers.trans h.num_players, ?_, ?_, h.replies_next hnext, h.reference_next hok hnext⟩
  . rw [hplayer]
    exact h.player
  . intro r hr
    rcases hnext.mem_requests hr with hr | ⟨-, -, -, hauthor, -⟩
    . exact h.requests r hr
    . rwa [h.num_players, h.player] at hauthor

end ReferenceInv

/-- A device that handles each reply in the round of its request shows the right reference. -/
theorem referenceOfRound_of_timely (gameSettings : GameSettings) (player : Player)
    (numOfPlayers : Int) (isHost : Bool) (hist : List (SheetClient × Input)) (c : SheetClient)
    (hrun : (system gameSettings player numOfPlayers isHost).Run Timely hist c)
    : ReferenceOfRound numOfPlayers player.number c := by
  have hinv : ReferenceInv numOfPlayers player.number c := by
    apply hrun.invariant
    . rintro c rfl
      refine ⟨rfl, rfl, ?_, ?_, ?_⟩ <;> simp [create, update, perform, ReferenceOfRound,
        StateControllerSheet.init]
    . intro c a c' h hok hstep
      exact h.next hok (next_of_step hstep)
  exact hinv.reference

def firstRound : Database := SCatCh.saved 123456 [guessSheet 11 2 1] .empty

def threeRounds : GameSettings where
  roundTime := 60
  code := 123456
  maxNumOfRounds := 3

theorem referenceOfRound_round_two
    : ∃ c : SheetClient,
        (c.controller.roundNum = 2 ∧ c.controller.referenceSheet.isSome = true)
          ∧
        ReferenceOfRound 3 1 c := by
  obtain ⟨hist, c, hrun, hc⟩ := TransitionSystem.exists_run_of_exec Timely
    (S := system threeRounds { id := .ofNat 1, number := 1 } 3 false)
    (P := fun _ c => c.controller.roundNum = 2 ∧ c.controller.referenceSheet.isSome = true)
    rfl
    [.raiseRoundNum 1, .deliverRoundNum, .raiseRoundNum 2, .deliverRoundNum, .appear,
      .tick (.ofNat 20), .answer 0 .listed firstRound (fun _ => none) (.ofNat 21), .reply 0]
    (by decide +kernel)
  exact ⟨c, hc, referenceOfRound_of_timely threeRounds { id := .ofNat 1, number := 1 } 3 false hist c hrun⟩

/-- The reply to a request of round 2 is shown in round 3 if it arrives only then. -/
theorem not_referenceOfRound_late_reply
    : ¬∀ (hist : List (SheetClient × Input)) (c : SheetClient),
        (system threeRounds { id := .ofNat 1, number := 1 } 3 false).Run (fun _ _ => True) hist c →
          ReferenceOfRound 3 1 c := by
  intro h
  obtain ⟨hist, c, hrun, hround, href⟩ := TransitionSystem.exists_run_of_exec (fun _ _ => True)
    (S := system threeRounds { id := .ofNat 1, number := 1 } 3 false)
    (P := fun _ c => c.controller.roundNum = 3
      ∧ c.controller.referenceSheet.any (fun sheet => sheet.number = 1) = true)
    rfl
    [.raiseRoundNum 1, .deliverRoundNum, .raiseRoundNum 2, .deliverRoundNum, .appear,
      .tick (.ofNat 20), .answer 0 .listed firstRound (fun _ => none) (.ofNat 21),
      .raiseRoundNum 3, .deliverRoundNum, .reply 0]
    (by decide +kernel)
  rw [Option.any_eq_true] at href
  obtain ⟨sheet, hsheet, hnumber⟩ := href
  have hsame := (h hist c hrun (by omega) sheet hsheet).1
  have hnumber := of_decide_eq_true hnumber
  omega

end SCatCh.SheetClient
