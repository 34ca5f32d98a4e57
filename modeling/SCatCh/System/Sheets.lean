import SCatCh.System.Activity
import SCatCh.System.Board
import SCatCh.System.RoundEnd

/-!
This module contains what becomes of the sheets of a game, whatever the devices do and in whatever
order: none is lost, altered or made up on its way into the database.
-/

namespace SCatCh

theorem not_sheet_mem_startGame {o : IterationOrder} {db : Database} {code c : Int} {x : Sheet}
    : .sheet c x ∉ StorageControllerWaitingRoom.startGame o db code := by
  rcases startGame_eq_nil_or o db code with hnil | ⟨keys, heq⟩
  . simp [hnil]
  . simp [heq]

namespace Core

variable {k k' : Core} {a : SheetClient.Input}

theorem Next.saves (h : k.Next k' a)
    : (∃ newId content,
        (a = .tick newId ∨ a = .done newId) ∧ k' = k.save ⟨newId, k.player, k.roundNum, content⟩)
        ∨
      (k'.saved = k.saved
        ∧ ∃ ws, k'.outbox = k.outbox ++ ws
            ∧ ∀ w ∈ ws, ∃ v, w = .roundNum k.gameSettings.code v) := by
  have hquiet : k'.saved = k.saved → k'.outbox = k.outbox → k'.saved = k.saved
      ∧ ∃ ws, k'.outbox = k.outbox ++ ws
          ∧ ∀ w ∈ ws, ∃ v, w = .roundNum k.gameSettings.code v := by
    intro hsaved hout
    exact ⟨hsaved, [], by rw [hout, List.append_nil], by simp⟩
  cases a with
  | tick newId =>
    rcases h with rfl | ⟨-, content, hk'⟩
    . exact .inr (hquiet rfl rfl)
    . exact .inl ⟨newId, content, .inl rfl, hk'⟩
  | done newId =>
    rcases h with rfl | ⟨-, content, hk'⟩
    . exact .inr (hquiet rfl rfl)
    . exact .inl ⟨newId, content, .inr rfl, hk'⟩
  | force =>
    obtain ⟨-, rfl⟩ := h
    exact .inr ⟨rfl, [_], rfl, by simp⟩
  | raiseRoundNum v =>
    obtain ⟨o, -, rfl⟩ := h
    exact .inr (hquiet rfl rfl)
  | deliverRoundNum =>
    obtain ⟨v, o, -, ⟨-, rfl⟩ | ⟨-, rfl⟩⟩ := h
    . exact .inr (hquiet rfl rfl)
    . exact .inr (hquiet (moveTo_saved ..) (moveTo_outbox ..))
  | raiseRoundSheets n v =>
    obtain ⟨o, -, rfl⟩ := h
    exact .inr (hquiet rfl rfl)
  | deliverRoundSheets n =>
    obtain ⟨v, o, -, ⟨-, -, rfl⟩ | ⟨-, rfl⟩⟩ := h
    . exact .inr ⟨rfl, [_], rfl, by simp [setSheetsEvents]⟩
    . exact .inr (hquiet rfl rfl)
  | appear | type _ | draw _ | answer _ _ _ _ _ | reply _ =>
    have hk : k' = k := h
    exact .inr (hquiet (by rw [hk]) (by rw [hk]))

end Core

namespace Play

variable {ι : Type} [Fintype ι] [DecidableEq ι] {T : Table ι} {s t : Play ι} {a : Action ι}

/-! # The devices as machines -/

/-- A device takes a step, or no more than the writes on their way change. -/
theorem step_cases (hstep : s.step T a = some t)
    : (∃ i b c, a = .device i b ∧ s.Admissible T i b ∧ (s.clients i).step b = some c
        ∧ t.db = s.db ∧ t.clients = Function.update s.clients i c)
        ∨
      ∀ j, ∃ ws, t.clients j = { s.clients j with outbox := ws } := by
  have hsame : t.clients = s.clients → ∀ j, ∃ ws, t.clients j = { s.clients j with outbox := ws } := by
    intro h j
    exact ⟨(s.clients j).outbox, by rw [h]⟩
  have hupdate : ∀ i ws, t.clients = Function.update s.clients i { s.clients i with outbox := ws } →
      ∀ j, ∃ ws, t.clients j = { s.clients j with outbox := ws } := by
    intro i ws h j
    rw [h]
    by_cases hj : j = i
    . subst hj
      exact ⟨ws, Function.update_self ..⟩
    . exact ⟨(s.clients j).outbox, by simp [hj]⟩
  cases a with
  | device i b =>
    simp only [step] at hstep
    split at hstep
    . next hguard =>
      split at hstep
      . next c hc =>
        rw [Option.some.injEq] at hstep
        subst hstep
        exact .inl ⟨i, b, c, rfl, hguard.2, hc, rfl, rfl⟩
      . contradiction
    . contradiction
  | process i =>
    simp only [step] at hstep
    split at hstep
    . rw [Option.some.injEq] at hstep
      subst hstep
      exact .inr (hupdate i _ rfl)
    . contradiction
  | startGame i =>
    simp only [step, Option.ite_none_right_eq_some, Option.some.injEq] at hstep
    obtain ⟨-, rfl⟩ := hstep
    exact .inr (hsame rfl)
  | startReply i o =>
    simp only [step, Option.ite_none_right_eq_some, Option.some.injEq] at hstep
    obtain ⟨-, rfl⟩ := hstep
    exact .inr (hupdate i _ rfl)
  | enter i =>
    simp only [step, Option.ite_none_right_eq_some, Option.some.injEq] at hstep
    obtain ⟨-, rfl⟩ := hstep
    exact .inr (hsame rfl)

theorem clients_of_step (hstep : s.step T a = some t) (j : ι)
    : (∃ ws, t.clients j = { s.clients j with outbox := ws })
        ∨
      ∃ b, (s.clients j).step b = some (t.clients j) := by
  rcases step_cases hstep with ⟨i, b, c, -, -, hc, -, hclients⟩ | hout
  . rw [hclients]
    by_cases hj : j = i
    . subst hj
      exact .inr ⟨b, by simpa using hc⟩
    . exact .inl ⟨(s.clients j).outbox, by simp [hj]⟩
  . exact .inl (hout j)

/-- The machine as which a device was created. -/
def machine (T : Table ι) (i : ι) : TransitionSystem SheetMachine SheetMachine.Input :=
  SheetMachine.system T.gameSettings (T.player i) (T.numOfPlayers i) (T.isHost i)

omit [Fintype ι] [DecidableEq ι] in
theorem simulates_create (i : ι)
    : SheetMachine.Simulates (T.create i)
        (.create T.gameSettings (T.player i) (T.numOfPlayers i) (T.isHost i)) :=
  ⟨rfl, rfl, rfl, rfl⟩

/-- Whatever the other devices do, each device goes through a run of its machine. -/
theorem exists_machine {init : Play ι → Prop} {ok : Play ι → Action ι → Prop}
    {hist : List (Play ι × Action ι)} (hinit : ∀ s, init s → ∀ i, s.clients i = T.create i)
    (hrun : (system T init).Run ok hist s) (i : ι)
    : ∃ hist' m,
        (machine T i).Run (fun _ _ => True) hist' m ∧ SheetMachine.Simulates (s.clients i) m := by
  apply hrun.invariant (I := fun s => ∃ hist' m,
    (machine T i).Run (fun _ _ => True) hist' m ∧ SheetMachine.Simulates (s.clients i) m)
  . intro s hs
    rw [hinit s hs i]
    exact ⟨[], _, .init rfl, simulates_create i⟩
  . rintro s a t ⟨hist', m, hrun', hm⟩ - hstep
    rcases clients_of_step hstep i with ⟨ws, heq⟩ | ⟨b, hb⟩
    . rw [heq]
      exact ⟨hist', m, hrun', hm.controller, hm.saved, hm.timer, hm.moved⟩
    . obtain ⟨m', hm', rfl | ⟨b', hb'⟩⟩ := hm.step hb
      . exact ⟨hist', m', hrun', hm'⟩
      . exact ⟨_, m', hrun'.step trivial hb', hm'⟩

/-! # The way of the sheets -/

/-- The game has no sheets yet, and no device has done anything in the Sheet state. -/
structure Fresh (T : Table ι) (s : Play ι) : Prop where
  clients : ∀ i, s.clients i = T.create i
  roundNum : (StorageControllerSheet.observeRoundNum s.db T.code).any (fun v => 0 ≤ v) = true
  rounds : s.db.get (roundsPath T.code) = .empty

omit [Fintype ι] [DecidableEq ι] in
theorem Playing.fresh (h : Playing T s) : Fresh T s :=
  ⟨h.clients, by simp [h.roundNum], h.rounds⟩

/-- A device saves a sheet, or it does something that has nothing to do with the sheets. -/
theorem step_sheets (hseated : ∀ i, Seated T i (s.core i)) (hprocess : ∀ i, a ≠ .process i)
    (hstep : s.step T a = some t)
    : (∃ i newId content,
        (∀ j, ∀ x ∈ (s.core j).saved, x.id ≠ newId)
          ∧ t.db = s.db
          ∧ t.core = Function.update s.core i
              ((s.core i).save ⟨newId, T.player i, (s.core i).roundNum, content⟩))
        ∨
      (t.db = s.db
        ∧ ∀ j,
            (t.core j).saved = (s.core j).saved
              ∧
            ∃ ws, (t.core j).outbox = (s.core j).outbox ++ ws
              ∧ ∀ w ∈ ws, w.InGame T.code ∧ ∀ c x, w ≠ .sheet c x) := by
  have hquiet : t.db = s.db → t.core = s.core → t.db = s.db
      ∧ ∀ j, (t.core j).saved = (s.core j).saved
          ∧ ∃ ws, (t.core j).outbox = (s.core j).outbox ++ ws
              ∧ ∀ w ∈ ws, w.InGame T.code ∧ ∀ c x, w ≠ .sheet c x := by
    intro hdb hcore
    exact ⟨hdb, fun j => ⟨by rw [hcore], [], by rw [hcore, List.append_nil], by simp⟩⟩
  cases a with
  | device i b =>
    obtain ⟨-, hadm, hdb, -, -, k, hnext, hcore⟩ := step_device hstep
    rcases hnext.saves with ⟨newId, content, ha, rfl⟩ | ⟨hsaved, ws, hout, hws⟩
    . refine .inl ⟨i, newId, content, ?_, hdb, ?_⟩
      . rcases ha with rfl | rfl
        all_goals
          intro j x hx hid
          exact hadm j (List.mem_map.2 ⟨x, hx, hid⟩)
      . rw [hcore, (hseated i).player]
    . refine .inr ⟨hdb, ?_⟩
      intro j
      rw [hcore]
      by_cases hj : j = i
      . subst hj
        rw [Function.update_self]
        refine ⟨hsaved, ws, hout, ?_⟩
        intro w hw
        obtain ⟨v, rfl⟩ := hws w hw
        rw [(hseated j).gameSettings]
        exact ⟨rfl, by simp⟩
      . rw [Function.update_of_ne hj]
        exact ⟨rfl, [], by simp, by simp⟩
  | process i => exact absurd rfl (hprocess i)
  | startGame i =>
    obtain ⟨-, hdb, hcore, -⟩ := step_startGame hstep
    exact .inr (hquiet hdb hcore)
  | startReply i o =>
    obtain ⟨-, hdb, -, hcore⟩ := step_startReply hstep
    refine .inr ⟨hdb, ?_⟩
    intro j
    rw [hcore]
    by_cases hj : j = i
    . subst hj
      rw [Function.update_self]
      refine ⟨rfl, _, rfl, ?_⟩
      intro w hw
      refine ⟨inGame_of_mem_startGame hw, ?_⟩
      rintro c x rfl
      exact not_sheet_mem_startGame hw
    . rw [Function.update_of_ne hj]
      exact ⟨rfl, [], by simp, by simp⟩
  | enter i =>
    obtain ⟨-, hdb, hcore, -⟩ := step_enter hstep
    exact .inr (hquiet hdb hcore)

variable (T) in
structure SheetsInv (s : Play ι) (b : Board) : Prop where
  seated : ∀ i, Seated T i (s.core i)
  represents : Board.Represents s.db T.code b
  author : ∀ i, ∀ x ∈ (s.core i).saved, x.author = T.player i
  ids : ∀ i j, ∀ x ∈ (s.core i).saved, ∀ y ∈ (s.core j).saved, x.id = y.id → x = y
  stored : ∀ x ∈ b.sheets, ∃ i, x ∈ (s.core i).saved
  outbox : ∀ i, ∀ w ∈ (s.core i).outbox,
    w.InGame T.code ∧ ∀ c x, w = .sheet c x → x ∈ (s.core i).saved
  kept : ∀ i, ∀ x ∈ (s.core i).saved, x ∈ b.sheets ∨ .sheet T.code x ∈ (s.core i).outbox

namespace SheetsInv

variable {b : Board}

omit [Fintype ι] [DecidableEq ι] in
theorem fresh (h : Fresh T s) : ∃ b, SheetsInv T s b := by
  have hcore : ∀ i, s.core i = (T.create i).core := by
    intro i
    rw [core, h.clients]
  have hsaved : ∀ i, (s.core i).saved = [] := by
    intro i
    rw [hcore]
    rfl
  have houtbox : ∀ i, (s.core i).outbox = [] := by
    intro i
    rw [hcore]
    rfl
  obtain ⟨v, hv, -⟩ := (Option.any_eq_true _ _).1 h.roundNum
  refine ⟨⟨v, []⟩, ?_, ⟨Stored.of_empty h.rounds, hv⟩, ?_, ?_, ?_, ?_, ?_⟩
  . intro i
    rw [hcore]
    exact Seated.create i
  all_goals simp [hsaved, houtbox]

omit [Fintype ι] in
theorem process (h : SheetsInv T s b) (hseated : ∀ i, Seated T i (t.core i)) {i : ι} {w : Write}
    {ws : List Write} (hw : (s.core i).outbox = w :: ws) (hdb : t.db = w.apply s.db)
    (hcore : t.core = Function.update s.core i { s.core i with outbox := ws })
    : SheetsInv T t (b.apply w) := by
  have hsaved : ∀ j, (t.core j).saved = (s.core j).saved := by
    intro j
    rw [hcore]
    by_cases hj : j = i
    . subst hj
      simp
    . simp [hj]
  have hout : ∀ j, (t.core j).outbox = if j = i then ws else (s.core j).outbox := by
    intro j
    rw [hcore]
    by_cases hj : j = i
    . subst hj
      simp
    . simp [hj]
  have hwrite := h.outbox i w (by simp [hw])
  refine ⟨hseated, ?_, ?_, ?_, ?_, ?_, ?_⟩
  . rw [hdb]
    apply h.represents.apply hwrite.1
    intro x hx y hy hid
    obtain ⟨j, hy⟩ := h.stored y hy
    exact h.ids j i y hy x (hwrite.2 _ x hx) hid
  . intro j
    rw [hsaved]
    exact h.author j
  . intro j j'
    rw [hsaved, hsaved]
    exact h.ids j j'
  . intro x hx
    simp only [hsaved]
    rcases Board.mem_apply_sheets.1 hx with hx | ⟨c, hx⟩
    . exact h.stored x hx
    . exact ⟨i, hwrite.2 c x hx⟩
  . intro j w' hw'
    rw [hsaved]
    rw [hout] at hw'
    split at hw'
    . next hj =>
      subst hj
      exact h.outbox j w' (by rw [hw]; exact List.mem_cons_of_mem _ hw')
    . exact h.outbox j w' hw'
  . intro j x hx
    rw [hsaved] at hx
    rw [Board.mem_apply_sheets, hout]
    rcases h.kept j x hx with hstored | hsent
    . exact .inl (.inl hstored)
    . split
      . next hj =>
        subst hj
        rw [hw, List.mem_cons] at hsent
        rcases hsent with hsent | hsent
        . exact .inl (.inr ⟨_, hsent.symm⟩)
        . exact .inr hsent
      . exact .inr hsent

omit [Fintype ι] in
theorem save (h : SheetsInv T s b) (hseated : ∀ i, Seated T i (t.core i)) {i : ι} {newId : UUID}
    {content : Content} (hnew : ∀ j, ∀ x ∈ (s.core j).saved, x.id ≠ newId) (hdb : t.db = s.db)
    (hcore : t.core = Function.update s.core i
      ((s.core i).save ⟨newId, T.player i, (s.core i).roundNum, content⟩))
    : SheetsInv T t b := by
  have hcode : (s.core i).gameSettings.code = T.code := by
    rw [(h.seated i).gameSettings]
    rfl
  generalize hx : (⟨newId, T.player i, (s.core i).roundNum, content⟩ : Sheet) = x at hcore
  have hid : x.id = newId := by rw [← hx]
  have hauthor : x.author = T.player i := by rw [← hx]
  have hsaved : ∀ j y, y ∈ (t.core j).saved ↔ y ∈ (s.core j).saved ∨ (j = i ∧ y = x) := by
    intro j y
    rw [hcore]
    by_cases hj : j = i
    . subst hj
      simp [Core.save, or_comm]
    . simp [hj]
  have hout : ∀ j w, w ∈ (t.core j).outbox
      ↔ w ∈ (s.core j).outbox ∨ (j = i ∧ w = .sheet T.code x) := by
    intro j w
    rw [hcore]
    by_cases hj : j = i
    . subst hj
      simp [Core.save, hcode]
    . simp [hj]
  refine ⟨hseated, by rw [hdb]; exact h.represents, ?_, ?_, ?_, ?_, ?_⟩
  . intro j y hy
    rw [hsaved] at hy
    rcases hy with hy | ⟨rfl, rfl⟩
    . exact h.author j y hy
    . exact hauthor
  . -- The identifier of the new sheet is that of no other.
    intro j j' y hy z hz heq
    rw [hsaved] at hy hz
    rcases hy with hy | ⟨-, rfl⟩
    . rcases hz with hz | ⟨-, rfl⟩
      . exact h.ids j j' y hy z hz heq
      . exact absurd (heq.trans hid) (hnew j y hy)
    . rcases hz with hz | ⟨-, rfl⟩
      . exact absurd (heq.symm.trans hid) (hnew j' z hz)
      . rfl
  . intro y hy
    obtain ⟨j, hy⟩ := h.stored y hy
    exact ⟨j, (hsaved j y).2 (.inl hy)⟩
  . intro j w hw
    rw [hout] at hw
    rcases hw with hw | ⟨rfl, rfl⟩
    . refine ⟨(h.outbox j w hw).1, ?_⟩
      intro c y hy
      exact (hsaved j y).2 (.inl ((h.outbox j w hw).2 c y hy))
    . refine ⟨rfl, ?_⟩
      intro c y hy
      rw [Write.sheet.injEq] at hy
      exact (hsaved j y).2 (.inr ⟨rfl, hy.2.symm⟩)
  . intro j y hy
    rw [hsaved] at hy
    rw [hout]
    rcases hy with hy | ⟨rfl, rfl⟩
    . exact (h.kept j y hy).imp_right .inl
    . exact .inr (.inr ⟨rfl, rfl⟩)

omit [Fintype ι] [DecidableEq ι] in
theorem quiet (h : SheetsInv T s b) (hseated : ∀ i, Seated T i (t.core i)) (hdb : t.db = s.db)
    (hcore : ∀ j,
      (t.core j).saved = (s.core j).saved
        ∧
      ∃ ws, (t.core j).outbox = (s.core j).outbox ++ ws
        ∧ ∀ w ∈ ws, w.InGame T.code ∧ ∀ c x, w ≠ .sheet c x)
    : SheetsInv T t b := by
  refine ⟨hseated, by rw [hdb]; exact h.represents, ?_, ?_, ?_, ?_, ?_⟩
  . intro j
    rw [(hcore j).1]
    exact h.author j
  . intro j j'
    rw [(hcore j).1, (hcore j').1]
    exact h.ids j j'
  . intro x hx
    obtain ⟨j, hx⟩ := h.stored x hx
    exact ⟨j, by rwa [(hcore j).1]⟩
  . intro j w hw
    obtain ⟨hsaved, ws, hout, hws⟩ := hcore j
    rw [hsaved]
    rw [hout, List.mem_append] at hw
    rcases hw with hw | hw
    . exact h.outbox j w hw
    . exact ⟨(hws w hw).1, fun c x heq => absurd heq ((hws w hw).2 c x)⟩
  . intro j x hx
    obtain ⟨hsaved, ws, hout, -⟩ := hcore j
    rw [hsaved] at hx
    rw [hout, List.mem_append]
    exact (h.kept j x hx).imp_right .inl

theorem step_of_ne (h : SheetsInv T s b) (hprocess : ∀ i, a ≠ .process i)
    (hstep : s.step T a = some t)
    : SheetsInv T t b := by
  have hseated := seated_step h.seated hstep
  rcases step_sheets h.seated hprocess hstep with
    ⟨i, newId, content, hnew, hdb, hcore⟩ | ⟨hdb, hcore⟩
  . exact h.save hseated hnew hdb hcore
  . exact h.quiet hseated hdb hcore

theorem step (h : SheetsInv T s b) (hstep : s.step T a = some t) : ∃ b', SheetsInv T t b' := by
  by_cases hprocess : ∃ i, a = .process i
  . obtain ⟨i, rfl⟩ := hprocess
    have hseated := seated_step h.seated hstep
    obtain ⟨w, ws, hw, hdb, -, -, hcore⟩ := step_process hstep
    exact ⟨_, h.process hseated hw hdb hcore⟩
  . exact ⟨b, h.step_of_ne (fun i hi => hprocess ⟨i, hi⟩) hstep⟩

theorem run {ok : Play ι → Action ι → Prop} {hist : List (Play ι × Action ι)}
    {init : Play ι → Prop} (hinit : ∀ s, init s → Fresh T s) (hrun : (system T init).Run ok hist s)
    : ∃ b, SheetsInv T s b := by
  apply hrun.invariant
  . intro s hs
    exact fresh (hinit s hs)
  . rintro s a t ⟨b, h⟩ - hstep
    exact h.step hstep

end SheetsInv

section Saved

variable {init : Play ι → Prop} {ok : Play ι → Action ι → Prop} {hist : List (Play ι × Action ι)}
  {i : ι} {x : Sheet}

omit [Fintype ι] [DecidableEq ι] in
theorem kindInv_of_run {hist : List (SheetMachine × SheetMachine.Input)} {m : SheetMachine}
    (hrun : (machine T i).Run (fun _ _ => True) hist m)
    : SheetMachine.KindInv m := by
  apply hrun.invariant
  . rintro m rfl
    exact SheetMachine.kindInv_create
  . intro m b m' h _ hstep
    exact h.step (SheetMachine.next_of_step hstep)

theorem kind_of_mem_saved (hinit : ∀ s, init s → ∀ i, s.clients i = T.create i)
    (hrun : (system T init).Run ok hist s) (hx : x ∈ (s.clients i).saved)
    : SheetMachine.kind x = SheetMachine.activity x.number := by
  obtain ⟨hist', m, hrun', hm⟩ := exists_machine hinit hrun i
  exact (kindInv_of_run hrun').kinds x (by rwa [hm.saved])

theorem number_of_mem_saved (hinit : ∀ s, init s → ∀ i, s.clients i = T.create i)
    (hrun : (system T init).Run ok hist s) (hseated : ∀ i, Seated T i (s.core i))
    (hx : x ∈ (s.clients i).saved)
    : x.number = 0 ∨ (1 ≤ x.number ∧ x.number ≤ T.numOfRounds i) := by
  obtain ⟨hist', m, hrun', hm⟩ := exists_machine hinit hrun i
  have hinv : SheetMachine.NumberInv m := by
    apply hrun'.invariant
    . rintro m rfl
      exact SheetMachine.numberInv_create
    . intro m b m' h _ hstep
      exact h.step (SheetMachine.next_of_step hstep)
  have hrounds : m.controller.numOfRounds = T.numOfRounds i := by
    rw [hm.controller]
    exact (hseated i).numOfRounds
  rcases hinv.numbers x (by rwa [hm.saved]) with hzero | hheld
  . exact .inl hzero
  . rw [← hrounds]
    exact .inr hheld.1

end Saved

/--
Whatever the devices do, Force Ending and repeated starts included, every entry of a round is a sheet
that one of them has saved, with its author and content, of a round of the game and of the kind of
that round. A saved sheet is stored unless it is still on its way.
-/
theorem sheets_arrive (T : Table ι) (hist : List (Play ι × Action ι)) (s : Play ι)
    (hrun : (system T (Fresh T)).Run (fun _ _ => True) hist s)
    : (∀ n key, key ∈ (s.db.get (roundPath T.code n)).keys →
        ∃ i, ∃ sheet ∈ (s.clients i).saved,
          sheet.number = n
            ∧ sheet.id.uuidString = key
            ∧ sheet.author = T.player i
            ∧ s.db.get (roundPath T.code n ++ [key]) = sheetDict (T.player i).number sheet.content
            ∧ (n = 0 ∨ (1 ≤ n ∧ n ≤ T.numOfRounds i))
            ∧ SheetMachine.kind sheet = SheetMachine.activity n)
        ∧
      ∀ i, ∀ sheet ∈ (s.clients i).saved,
        s.db.get (sheetPath T.code sheet) = sheetDict (T.player i).number sheet.content
          ∨
        .sheet T.code sheet ∈ (s.clients i).outbox := by
  obtain ⟨b, h⟩ := SheetsInv.run (fun _ => id) hrun
  have hget : ∀ i, ∀ x ∈ (s.clients i).saved, x ∈ b.sheets →
      s.db.get (sheetPath T.code x) = sheetDict (T.player i).number x.content := by
    intro i x hx hmem
    rw [h.represents.stored.get_sheet x hmem, h.author i x hx]
  constructor
  . intro n key hkey
    rw [h.represents.stored.mem_sheet] at hkey
    obtain ⟨x, hmem, rfl, rfl⟩ := hkey
    obtain ⟨i, hx⟩ := h.stored x hmem
    exact ⟨i, x, hx, rfl, rfl, h.author i x hx, hget i x hx hmem,
      number_of_mem_saved (fun _ hs => hs.clients) hrun h.seated hx,
      kind_of_mem_saved (fun _ hs => hs.clients) hrun hx⟩
  . intro i x hx
    exact (h.kept i x hx).imp_left (hget i x hx)

theorem sheets_arrive_forceFirst
    : ∃ s : Play Bool,
        ((s.db.get (roundPath 123456 1)).keys ≠ []
          ∧ StorageControllerSheet.observeRoundNum s.db 123456 = some 2)
          ∧
        ∀ n key, key ∈ (s.db.get (roundPath 123456 n)).keys →
          ∃ i, ∃ sheet ∈ (s.clients i).saved,
            sheet.number = n
              ∧ sheet.id.uuidString = key
              ∧ sheet.author = duoTable.player i
              ∧ s.db.get (roundPath 123456 n ++ [key]) = sheetDict (duoTable.player i).number sheet.content
              ∧ (n = 0 ∨ (1 ≤ n ∧ n ≤ duoTable.numOfRounds i))
              ∧ SheetMachine.kind sheet = SheetMachine.activity n := by
  obtain ⟨hist, s, hrun, hs⟩ := TransitionSystem.exists_run_of_exec (fun _ _ => True)
    (S := system duoTable (Fresh duoTable))
    (P := fun _ s => (s.db.get (roundPath 123456 1)).keys ≠ []
      ∧ StorageControllerSheet.observeRoundNum s.db 123456 = some 2)
    playing_duo.fresh forceFirst (by decide +kernel)
  exact ⟨s, hs, (sheets_arrive duoTable hist s hrun).1⟩

end Play

end SCatCh
