import SCatCh.Foundation.Numeral
import SCatCh.Lib.TransitionSystem
import SCatCh.State.Home

/-!
This module contains the screens of the Home state: `HomeView`, and `OperationView` around the forms
`HostView` and `JoinView`.
-/

namespace SCatCh

namespace StepperView

/-- A button is disabled at its end of the range. -/
def minus (value minimumValue : Int) : Option Int := if value ≤ minimumValue then none else some (value - 1)

def plus (value maximumValue : Int) : Option Int := if value ≥ maximumValue then none else some (value + 1)

end StepperView

structure HostView where
  topic : String := ""
  maxNumOfRounds : Int := 3
  roundTime : String := "60"
  nickname : String := ""
  deriving DecidableEq

namespace HostView

inductive Input where
  | topic (text : String)
  | minus
  | plus
  | roundTime (text : String)
  | nickname (text : String)

def step (v : HostView) : Input → Option HostView
  | .topic text => some { v with topic := text }
  | .minus => do
    let maxNumOfRounds ← StepperView.minus v.maxNumOfRounds minimumNumOfRounds
    return { v with maxNumOfRounds := maxNumOfRounds }
  | .plus => do
    let maxNumOfRounds ← StepperView.plus v.maxNumOfRounds maximumNumOfRounds
    return { v with maxNumOfRounds := maxNumOfRounds }
  | .roundTime text => some { v with roundTime := text }
  | .nickname text => some { v with nickname := text }

def InStepper (v : HostView) : Prop :=
  minimumNumOfRounds ≤ v.maxNumOfRounds ∧ v.maxNumOfRounds ≤ maximumNumOfRounds

theorem inStepper_default : InStepper {} := ⟨by decide, by decide⟩

theorem InStepper.step {v v' : HostView} {a : Input} (h : v.InStepper) (hstep : v.step a = some v')
    : v'.InStepper := by
  cases a with
  | minus =>
    simp only [HostView.step, StepperView.minus, Option.bind_eq_bind, Option.bind_eq_some_iff,
      Option.ite_none_left_eq_some, Option.some.injEq, Option.pure_def] at hstep
    obtain ⟨_, ⟨hmin, rfl⟩, rfl⟩ := hstep
    have := h.2
    exact ⟨by dsimp only; omega, by dsimp only; omega⟩
  | plus =>
    simp only [HostView.step, StepperView.plus, Option.bind_eq_bind, Option.bind_eq_some_iff,
      Option.ite_none_left_eq_some, Option.some.injEq, Option.pure_def] at hstep
    obtain ⟨_, ⟨hmax, rfl⟩, rfl⟩ := hstep
    have := h.1
    exact ⟨by dsimp only; omega, by dsimp only; omega⟩
  | _ =>
    cases hstep
    exact h

end HostView

structure JoinView where
  nickname : String := ""
  code : String := ""
  deriving DecidableEq

namespace JoinView

inductive Input where
  | nickname (text : String)
  | code (text : String)

def step (v : JoinView) : Input → JoinView
  | .nickname text => { v with nickname := text }
  | .code text => { v with code := text }

end JoinView

/-- `SubRootView_Home` with the state of the form that it shows. -/
structure HomeScreen where
  controller : StateControllerHome := {}
  host : HostView := {}
  join : JoinView := {}
  deriving DecidableEq

namespace HomeScreen

/-- Under the alert of `OperationView` nothing else can be tapped. -/
def Shows (s : HomeScreen) (viewType : SubRootViewHome.ViewType) : Prop :=
  s.controller.shownView = viewType ∧ (viewType = .home ∨ s.controller.isOperationSuccessful = true)

instance (s : HomeScreen) (viewType : SubRootViewHome.ViewType) : Decidable (s.Shows viewType) :=
  inferInstanceAs (Decidable (_ ∧ _))

inductive Input where
  | goToHost
  | goToJoin
  | back
  | alertOk
  | editHost (a : HostView.Input)
  | editJoin (a : JoinView.Input)
  | host (code : Int) (newId : UUID) (date : Date)
  | join (newId : UUID) (date : Date)
  | handleDBDataHost (code : Int) (player : WaitingPlayer) (isSuccessful : Bool)
  | handleDBDataJoin (code : Int) (player : WaitingPlayer) (isSuccessful : Bool)

def update (s : HomeScreen) (result : StateControllerHome × List StateControllerHome.Effect)
    : HomeScreen × List StateControllerHome.Effect :=
  ({ s with controller := result.1 }, result.2)

/-- A form is empty when it comes into view. -/
def step (s : HomeScreen) : Input → Option (HomeScreen × List StateControllerHome.Effect)
  | .goToHost =>
    if s.Shows .home then some ({ controller := s.controller.setShownView .host }, []) else none
  | .goToJoin =>
    if s.Shows .home then some ({ controller := s.controller.setShownView .join }, []) else none
  | .back =>
    if s.Shows .host ∨ s.Shows .join then
      some ({ s with controller := s.controller.setShownView .home }, [])
    else
      none
  | .alertOk =>
    if s.controller.shownView ≠ .home ∧ s.controller.isOperationSuccessful = false then
      some ({ s with controller := s.controller.resetIsOperationSuccessful }, [])
    else
      none
  | .editHost a =>
    if s.Shows .host then do
      let host ← s.host.step a
      return ({ s with host := host }, [])
    else
      none
  | .editJoin a => if s.Shows .join then some ({ s with join := s.join.step a }, []) else none
  | .host code newId date =>
    if s.Shows .host ∧ 100000 ≤ code ∧ code < 1000000 then
      some (s.update (s.controller.hostGame s.host.topic s.host.maxNumOfRounds
        (textToInt s.host.roundTime) s.host.nickname code newId date))
    else
      none
  | .join newId date =>
    if s.Shows .join then
      some (s.update (s.controller.joinGame s.join.nickname (textToInt s.join.code) newId date))
    else
      none
  | .handleDBDataHost code player isSuccessful =>
    some (s.update (s.controller.handleDBDataHost code player isSuccessful))
  | .handleDBDataJoin code player isSuccessful =>
    some (s.update (s.controller.handleDBDataJoin code player isSuccessful))

def system : TransitionSystem HomeScreen Input where
  init := fun s => s = {}
  step := fun s a => (s.step a).map Prod.fst

/-! # What leaves the screen -/

def calls (hist : List (HomeScreen × Input)) : List StateControllerHome.Effect :=
  hist.flatMap fun x => ((x.1.step x.2).map Prod.snd).getD []

/-- `Proper` calls have passed the checks of the views and of the controller. -/
def Proper : StateControllerHome.Effect → Prop
  | .hostGame code topic maxNumOfRounds roundTime player =>
    (100000 ≤ code ∧ code < 1000000)
      ∧ topic ≠ ""
      ∧ (minimumNumOfRounds ≤ maxNumOfRounds ∧ maxNumOfRounds ≤ maximumNumOfRounds)
      ∧ (0 < roundTime ∧ InInt roundTime)
      ∧ player.nickname ≠ ""
  | .joinGame player code => player.nickname ≠ "" ∧ InInt code
  | .moveToStateWaitingRoom .. => True

variable {s t : HomeScreen} {a : Input} {effects : List StateControllerHome.Effect}

theorem inStepper_step (h : s.host.InStepper) (hstep : s.step a = some (t, effects))
    : t.host.InStepper := by
  cases a with
  | goToHost | goToJoin =>
    simp only [step, Option.ite_none_right_eq_some, Option.some.injEq, Prod.mk.injEq] at hstep
    obtain ⟨-, rfl, -⟩ := hstep
    exact HostView.inStepper_default
  | editHost a =>
    simp only [step, Option.ite_none_right_eq_some, Option.bind_eq_bind, Option.bind_eq_some_iff,
      Option.pure_def, Option.some.injEq, Prod.mk.injEq] at hstep
    obtain ⟨-, host, hhost, rfl, -⟩ := hstep
    exact h.step hhost
  | handleDBDataHost | handleDBDataJoin =>
    cases hstep
    exact h
  | _ =>
    simp only [step, update, Option.ite_none_right_eq_some, Option.some.injEq, Prod.mk.injEq] at hstep
    obtain ⟨-, rfl, -⟩ := hstep
    exact h

theorem proper_of_step (h : s.host.InStepper) (hstep : s.step a = some (t, effects))
    : ∀ effect ∈ effects, Proper effect := by
  cases a with
  | host code newId date =>
    simp only [step, update, Option.ite_none_right_eq_some, Option.some.injEq, Prod.mk.injEq] at hstep
    obtain ⟨⟨-, hcode⟩, -, rfl⟩ := hstep
    unfold StateControllerHome.hostGame
    split
    . next hcheck =>
      rintro effect (_ | ⟨_, ⟨⟩⟩)
      refine ⟨hcode, ?_, h, ⟨hcheck.1, inInt_textToInt _⟩, by simpa using hcheck.2⟩
      split
      . decide
      . next hempty => simpa using hempty
    . simp
  | join newId date =>
    simp only [step, update, Option.ite_none_right_eq_some, Option.some.injEq, Prod.mk.injEq] at hstep
    obtain ⟨-, -, rfl⟩ := hstep
    unfold StateControllerHome.joinGame
    split
    . next hcheck =>
      rintro effect (_ | ⟨_, ⟨⟩⟩)
      exact ⟨by simpa using hcheck, inInt_textToInt _⟩
    . simp
  | handleDBDataHost code player isSuccessful | handleDBDataJoin code player isSuccessful =>
    cases hstep
    cases isSuccessful <;> simp [StateControllerHome.handleDBDataHost,
      StateControllerHome.handleDBDataJoin, StateControllerHome.handleDBData, Proper]
  | editHost a =>
    simp only [step, Option.ite_none_right_eq_some, Option.bind_eq_bind, Option.bind_eq_some_iff,
      Option.pure_def, Option.some.injEq, Prod.mk.injEq] at hstep
    obtain ⟨-, _, -, -, rfl⟩ := hstep
    simp
  | _ =>
    simp only [step, Option.ite_none_right_eq_some, Option.some.injEq, Prod.mk.injEq] at hstep
    obtain ⟨-, -, rfl⟩ := hstep
    simp

/-- Whatever a player types and taps, the games that are hosted and joined have proper values. -/
theorem proper_of_mem_calls (hist : List (HomeScreen × Input)) (s : HomeScreen)
    (hrun : system.Run (fun _ _ => True) hist s)
    : ∀ effect ∈ calls hist, Proper effect := by
  have hinv : s.host.InStepper ∧ ∀ effect ∈ calls hist, Proper effect := by
    apply hrun.induct (I := fun hist s => s.host.InStepper ∧ ∀ effect ∈ calls hist, Proper effect)
    . rintro s rfl
      exact ⟨HostView.inStepper_default, by simp [calls]⟩
    . rintro hist s a t ⟨h, hcalls⟩ - hstep
      simp only [system, Option.map_eq_some_iff] at hstep
      obtain ⟨⟨t, effects⟩, hstep, rfl⟩ := hstep
      refine ⟨inStepper_step h hstep, ?_⟩
      intro effect heffect
      rw [calls, List.flatMap_cons, List.mem_append, hstep] at heffect
      rcases heffect with heffect | heffect
      . exact proper_of_step h hstep effect heffect
      . exact hcalls effect heffect
  exact hinv.2

/-- The first tap is refused, as no nickname has been typed. -/
theorem proper_of_mem_calls_second_tap
    : ∃ hist,
        calls hist = [.hostGame 123456 "None" 4 45 ⟨.ofNat 2, "Ann", ⟨0⟩⟩]
          ∧
        ∀ effect ∈ calls hist, Proper effect := by
  obtain ⟨hist, s, hrun, hcalls⟩ := TransitionSystem.exists_run_of_exec (fun _ _ => True)
    (S := system)
    (P := fun hist _ => calls hist = [.hostGame 123456 "None" 4 45 ⟨.ofNat 2, "Ann", ⟨0⟩⟩])
    rfl
    [.goToHost, .editHost .plus, .editHost (.roundTime "+045"), .host 222222 (.ofNat 1) ⟨0⟩, .alertOk,
      .editHost (.nickname "Ann"), .host 123456 (.ofNat 2) ⟨0⟩]
    (by decide +kernel)
  exact ⟨hist, hcalls, proper_of_mem_calls hist s hrun⟩

end HomeScreen

end SCatCh
