import SCatCh.System.Complete
import SCatCh.System.Sheets

/-!
This module contains the games whose round never goes back in the database, Force Ending included. Every
device goes through the rounds upwards, unless it has a write on its way that can never take effect. So
of each device at most one sheet for a round gets to the database.
-/

namespace SCatCh

namespace Board

variable {b b' : Board} {ws ws' : List Write}

/-- The writes can take effect, each after the other, without setting the round back. -/
def Ascends : Board → List Write → Prop
  | _, [] => True
  | b, w :: ws => b.roundNum ≤ (b.apply w).roundNum ∧ Ascends (b.apply w) ws

/-- What the writes make of the board until one of them would set the round back. -/
def advance (b : Board) : List Write → Board
  | [] => b
  | w :: ws => if b.roundNum ≤ (b.apply w).roundNum then (b.apply w).advance ws else b

theorem apply_roundNum_mono (h : b.roundNum ≤ b'.roundNum) (w : Write)
    : (b.apply w).roundNum ≤ (b'.apply w).roundNum := by
  cases w with
  | roundNum code v => exact le_refl v
  | game | player | removePlayer | number | sheet => exact h

theorem applyAll_roundNum_mono (h : b.roundNum ≤ b'.roundNum)
    : (b.applyAll ws).roundNum ≤ (b'.applyAll ws).roundNum := by
  induction ws generalizing b b' with
  | nil => exact h
  | cons w ws ih => exact ih (apply_roundNum_mono h w)

/-- A later round allows no more writes. -/
theorem le_apply_of_le (hle : b.roundNum ≤ b'.roundNum) {w : Write}
    (h : b'.roundNum ≤ (b'.apply w).roundNum)
    : b.roundNum ≤ (b.apply w).roundNum := by
  cases w with
  | roundNum code v => exact hle.trans h
  | game | player | removePlayer | number | sheet => exact le_refl _

theorem Ascends.of_le (h : b'.Ascends ws) (hle : b.roundNum ≤ b'.roundNum) : b.Ascends ws := by
  induction ws generalizing b b' with
  | nil => trivial
  | cons w ws ih => exact ⟨le_apply_of_le hle h.1, ih h.2 (apply_roundNum_mono hle w)⟩

theorem Ascends.le (h : b.Ascends ws) : b.roundNum ≤ (b.applyAll ws).roundNum := by
  induction ws generalizing b with
  | nil => exact le_refl _
  | cons w ws ih => exact h.1.trans (ih h.2)

theorem ascends_append : b.Ascends (ws ++ ws') ↔ b.Ascends ws ∧ (b.applyAll ws).Ascends ws' := by
  induction ws generalizing b with
  | nil => simp [Ascends]
  | cons w ws ih =>
    rw [List.cons_append, Ascends, Ascends, ih, applyAll_cons, and_assoc]

theorem Ascends.le_append (h : b.Ascends (ws ++ ws'))
    : (b.applyAll ws).roundNum ≤ (b.applyAll (ws ++ ws')).roundNum := by
  have happend : b.applyAll (ws ++ ws') = (b.applyAll ws).applyAll ws' := List.foldl_append
  rw [happend]
  exact (ascends_append.1 h).2.le

/-- What is sent after a write that cannot take effect cannot do so either. -/
theorem advance_append (h : ¬b.Ascends ws) : b.advance (ws ++ ws') = b.advance ws := by
  induction ws generalizing b with
  | nil => exact absurd trivial h
  | cons w ws ih =>
    rw [List.cons_append, advance, advance]
    split
    . next hle => exact ih fun hws => h ⟨hle, hws⟩
    . rfl

theorem subset_advance {x : Sheet} (hx : x ∈ b.sheets) : x ∈ (b.advance ws).sheets := by
  induction ws generalizing b with
  | nil => exact hx
  | cons w ws ih =>
    rw [advance]
    split
    . exact ih (mem_apply_sheets.2 (.inl hx))
    . exact hx

theorem mem_of_mem_advance {x : Sheet} (hx : x ∈ (b.advance ws).sheets)
    : x ∈ b.sheets ∨ ∃ code, .sheet code x ∈ ws := by
  rw [← mem_applyAll_sheets]
  induction ws generalizing b with
  | nil => exact hx
  | cons w ws ih =>
    rw [advance] at hx
    split at hx
    . exact ih hx
    . rw [mem_applyAll_sheets]
      exact .inl hx

theorem mem_advance_of_le (hle : b.roundNum ≤ b'.roundNum) {x : Sheet} (hx : x ∈ (b'.advance ws).sheets)
    : x ∈ b'.sheets ∨ x ∈ (b.advance ws).sheets := by
  induction ws generalizing b b' with
  | nil => exact .inl hx
  | cons w ws ih =>
    rw [advance] at hx
    split at hx
    . next hallowed =>
      rw [advance, if_pos (le_apply_of_le hle hallowed)]
      rcases ih (apply_roundNum_mono hle w) hx with hx | hx
      . rcases mem_apply_sheets.1 hx with hx | hwrite
        . exact .inl hx
        . exact .inr (subset_advance (mem_apply_sheets.2 (.inr hwrite)))
      . exact .inr hx
    . exact .inl hx

end Board

namespace Core

variable {k k' : Core} {a : SheetClient.Input} {seen : Int}

theorem Ascending.congr (h : k.Ascending seen) (hround : k'.roundNum = k.roundNum)
    (hqueue : k'.roundNumEvents.queue = k.roundNumEvents.queue)
    : k'.Ascending seen := by
  unfold Ascending
  rw [hround, hqueue]
  exact h

theorem Own.congr (h : k.Own) (hplayer : k'.player = k.player) (hround : k'.roundNum = k.roundNum)
    (hsaved : k'.saved = k.saved) (hcontent : k'.isContentSaved = k.isContentSaved)
    : k'.Own := by
  refine ⟨?_, ?_, ?_, ?_⟩
  . rw [hsaved, hplayer]
    exact h.author
  . rw [hsaved, hround]
    exact h.le_round
  . rw [hsaved, hround, hcontent]
    exact h.unsaved
  . rw [hsaved]
    exact h.once

/-- A device that is told the rounds upwards hands in one sheet for each of them. -/
theorem Next.paced (hnext : k.Next k' a) (hraise : ∀ v, a = .raiseRoundNum v → v = seen)
    (hascending : k.Ascending seen) (hown : k.Own)
    : k'.Ascending seen ∧ k'.Own := by
  cases a with
  | tick newId =>
    rcases hnext with rfl | ⟨hunsaved, content, rfl⟩
    . exact ⟨hascending, hown⟩
    . exact ⟨hascending.congr rfl rfl, hown.save hunsaved newId content⟩
  | done newId =>
    rcases hnext with rfl | ⟨hunsaved, content, rfl⟩
    . exact ⟨hascending, hown⟩
    . exact ⟨hascending.congr rfl rfl, hown.save hunsaved newId content⟩
  | force =>
    obtain ⟨-, rfl⟩ := hnext
    exact ⟨hascending.congr rfl rfl, hown.congr rfl rfl rfl rfl⟩
  | raiseRoundNum v =>
    obtain rfl := hraise v rfl
    obtain ⟨o, ho, rfl⟩ := hnext
    exact ⟨hascending.raise ho, hown.congr rfl rfl rfl rfl⟩
  | deliverRoundNum =>
    obtain ⟨v, o, hdeliver, ⟨rfl, rfl⟩ | ⟨hne, rfl⟩⟩ := hnext
    . exact ⟨(hascending.deliver hdeliver).2.2, hown.congr rfl rfl rfl rfl⟩
    . obtain ⟨hlow, -, hrest⟩ := hascending.deliver hdeliver
      have hown' : Own { k with roundNumEvents := o } := hown.congr rfl rfl rfl rfl
      refine ⟨?_, hown'.moveTo (by show k.roundNum < v; omega)⟩
      unfold Ascending
      rw [moveTo_roundNum, moveTo_roundNumEvents_queue]
      exact hrest
  | raiseRoundSheets n v =>
    obtain ⟨o, -, rfl⟩ := hnext
    exact ⟨hascending.congr rfl rfl, hown.congr rfl rfl rfl rfl⟩
  | deliverRoundSheets n =>
    obtain ⟨v, o, -, ⟨-, -, rfl⟩ | ⟨-, rfl⟩⟩ := hnext
    . exact ⟨hascending.congr rfl rfl, hown.congr rfl rfl rfl rfl⟩
    . exact ⟨hascending.congr rfl rfl, hown.congr rfl rfl rfl rfl⟩
  | appear | type _ | draw _ | answer _ _ _ _ _ | reply _ =>
    have hk : k' = k := hnext
    rw [hk]
    exact ⟨hascending, hown⟩

end Core

namespace Play

variable {ι : Type} [Fintype ι] [DecidableEq ι] {T : Table ι} {s t : Play ι} {a : Action ι}
  {b : Board}

/-- No write that takes effect sets the number of the round back. -/
def Forward (T : Table ι) (s : Play ι) : Action ι → Prop
  | .process i => ∀ w ∈ (s.core i).outbox.head?,
      ∀ n ∈ StorageControllerSheet.observeRoundNum s.db T.code,
        ∀ v ∈ StorageControllerSheet.observeRoundNum (w.apply s.db) T.code, n ≤ v
  | _ => True

instance (s : Play ι) (a : Action ι) : Decidable (Forward T s a) := by
  unfold Forward
  induction a using Action.casesOn <;> infer_instance

variable (T) in
structure PaceInv (s : Play ι) (b : Board) : Prop where
  sheets : SheetsInv T s b
  paced : ∀ i, b.Ascends (s.core i).outbox →
    (s.core i).Ascending (b.applyAll (s.core i).outbox).roundNum ∧ (s.core i).Own
  once : ∀ i, ∀ x ∈ (s.core i).saved, ∀ y ∈ (s.core i).saved,
    x ∈ (b.advance (s.core i).outbox).sheets → y ∈ (b.advance (s.core i).outbox).sheets →
      x.number = y.number → x = y

namespace PaceInv

omit [Fintype ι] [DecidableEq ι] in
theorem represents_view (h : SheetsInv T s b) (i : ι)
    : Board.Represents (s.view i) T.code (b.applyAll (s.core i).outbox) := by
  apply h.represents.applyAll (S := fun x => ∃ j, x ∈ (s.core j).saved)
  . rintro x y ⟨i, hx⟩ ⟨j, hy⟩ hid
    exact h.ids i j x hx y hy hid
  . exact h.stored
  . intro w hw
    exact ⟨(h.outbox i w hw).1, fun x hx => ⟨i, (h.outbox i w hw).2 _ x hx⟩⟩

omit [Fintype ι] [DecidableEq ι] in
theorem fresh (h : Fresh T s) : ∃ b, PaceInv T s b := by
  obtain ⟨b, hb⟩ := SheetsInv.fresh h
  have hcore : ∀ i, s.core i = (T.create i).core := by
    intro i
    rw [core, h.clients]
  have hsaved : ∀ i, (s.core i).saved = [] := by
    intro i
    rw [hcore]
    rfl
  have houtbox : ∀ i, (s.core i).outbox = [] := by
    intro i
    rw [hcore]
    rfl
  have hpos : 0 ≤ b.roundNum := by
    simpa [hb.represents.roundNum] using h.roundNum
  refine ⟨b, hb, ?_, by simp [hsaved]⟩
  intro i _
  have hqueue : (s.core i).roundNumEvents.queue = [] := by
    rw [hcore]
    rfl
  have hround : (s.core i).roundNum = 0 := by
    rw [hcore]
    rfl
  refine ⟨by simpa [Core.Ascending, hqueue, hround, houtbox] using hpos, ?_⟩
  refine ⟨?_, ?_, ?_, ?_⟩ <;> simp [hsaved]

omit [Fintype ι] [DecidableEq ι] in
/-- A write of another player makes no room for a sheet of this one. -/
theorem mem_advance_of_other (h : PaceInv T s b)
    (hinj : ∀ i j, (T.player i).number = (T.player j).number → i = j) {i j : ι} (hj : j ≠ i) {w : Write}
    (hw : w ∈ (s.core i).outbox) (hle : b.roundNum ≤ (b.apply w).roundNum) {x : Sheet}
    (hx : x ∈ (s.core j).saved) (hadvance : x ∈ ((b.apply w).advance (s.core j).outbox).sheets)
    : x ∈ (b.advance (s.core j).outbox).sheets := by
  rcases Board.mem_advance_of_le hle hadvance with hstored | hmem
  . rcases Board.mem_apply_sheets.1 hstored with hstored | ⟨code, hwrite⟩
    . exact Board.subset_advance hstored
    . -- The sheet that is written is that of another player.
      have hsaved := (h.sheets.outbox i w hw).2 code x hwrite
      have hauthor := (h.sheets.author j x hx).symm.trans (h.sheets.author i x hsaved)
      exact absurd (hinj j i (by rw [hauthor])) hj
  . exact hmem

theorem process (h : PaceInv T s b) (hinj : ∀ i j, (T.player i).number = (T.player j).number → i = j)
    {i : ι} (hok : Forward T s (.process i)) (hstep : s.step T (.process i) = some t)
    : ∃ b', PaceInv T t b' := by
  have hseated := seated_step h.sheets.seated hstep
  obtain ⟨w, ws, hw, hdb, -, -, hcore⟩ := step_process hstep
  have hsheets := h.sheets.process hseated hw hdb hcore
  have hle : b.roundNum ≤ (b.apply w).roundNum := by
    have hround := hsheets.represents.roundNum
    rw [hdb] at hround
    exact hok w (by simp [hw]) _ h.sheets.represents.roundNum _ hround
  have hself : b.advance (s.core i).outbox = (b.apply w).advance ws := by
    rw [hw, Board.advance, if_pos hle]
  refine ⟨b.apply w, hsheets, ?_, ?_⟩
  . intro j hascends
    rw [hcore] at hascends ⊢
    by_cases hj : j = i
    . -- The device itself has seen its write before.
      subst hj
      rw [Function.update_self] at hascends ⊢
      obtain ⟨hascending, hown⟩ := h.paced j (by rw [hw]; exact ⟨hle, hascends⟩)
      rw [hw, Board.applyAll_cons] at hascending
      exact ⟨hascending.congr rfl rfl, hown.congr rfl rfl rfl rfl⟩
    . rw [Function.update_of_ne hj] at hascends ⊢
      obtain ⟨hascending, hown⟩ := h.paced j (hascends.of_le hle)
      exact ⟨hascending.mono (Board.applyAll_roundNum_mono hle), hown⟩
  . intro j x hx y hy
    rw [hcore] at hx hy ⊢
    by_cases hj : j = i
    . subst hj
      rw [Function.update_self] at hx hy ⊢
      dsimp only at hx hy ⊢
      rw [← hself]
      exact h.once j x hx y hy
    . rw [Function.update_of_ne hj] at hx hy ⊢
      have hbefore : ∀ x ∈ (s.core j).saved, x ∈ ((b.apply w).advance (s.core j).outbox).sheets →
          x ∈ (b.advance (s.core j).outbox).sheets := by
        intro x hx hadvance
        exact h.mem_advance_of_other hinj hj (by simp [hw]) hle hx hadvance
      intro hx' hy'
      exact h.once j x hx y hy (hbefore x hx hx') (hbefore y hy hy')

/-- As long as nothing on its way sets the round back, a device goes through the rounds upwards. -/
theorem paced_step (h : PaceInv T s b) (hprocess : ∀ i, a ≠ .process i) (hstep : s.step T a = some t)
    (j : ι) (hascends : b.Ascends (t.core j).outbox)
    : (t.core j).Ascending (b.applyAll (t.core j).outbox).roundNum ∧ (t.core j).Own := by
  have hgrown : ∃ ws, (t.core j).outbox = (s.core j).outbox ++ ws := by
    rcases step_outbox h.sheets.seated hstep with ⟨i, _, _, ha, -⟩ | ⟨-, i, ws, hout, -⟩
    . exact absurd ha (hprocess i)
    . exact ⟨_, hout j⟩
  obtain ⟨ws, hgrown⟩ := hgrown
  rw [hgrown] at hascends
  obtain ⟨hascending, hown⟩ := h.paced j (Board.ascends_append.1 hascends).1
  -- What a device sees of its own writes only grows.
  have hseen := hascends.le_append
  rw [← hgrown] at hseen
  have hpaced : (t.core j).Ascending (b.applyAll (s.core j).outbox).roundNum ∧ (t.core j).Own := by
    cases a with
    | device i b' =>
      obtain ⟨-, hadm, -, -, -, k, hnext, hcore⟩ := step_device hstep
      rw [hcore]
      by_cases hj : j = i
      . subst hj
        rw [Function.update_self]
        apply hnext.paced _ hascending hown
        rintro v rfl
        have hview := (represents_view h.sheets j).roundNum
        rw [show StorageControllerSheet.observeRoundNum (s.view j) T.code = some v from hadm,
          Option.some.injEq] at hview
        exact hview
      . rw [Function.update_of_ne hj]
        exact ⟨hascending, hown⟩
    | process i => exact absurd rfl (hprocess i)
    | startGame i =>
      rw [(step_startGame hstep).2.2.1]
      exact ⟨hascending, hown⟩
    | startReply i o =>
      obtain ⟨-, -, -, hcore⟩ := step_startReply hstep
      rw [hcore]
      by_cases hj : j = i
      . subst hj
        rw [Function.update_self]
        exact ⟨hascending.congr rfl rfl, hown.congr rfl rfl rfl rfl⟩
      . rw [Function.update_of_ne hj]
        exact ⟨hascending, hown⟩
    | enter i =>
      rw [(step_enter hstep).2.2.1]
      exact ⟨hascending, hown⟩
  exact ⟨hpaced.1.mono hseen, hpaced.2⟩

/-- Of the sheets that a device saves after a write that cannot take effect none gets to the database. -/
theorem once_step (h : PaceInv T s b) (hprocess : ∀ i, a ≠ .process i) (hstep : s.step T a = some t)
    (j : ι)
    : ∀ x ∈ (t.core j).saved, ∀ y ∈ (t.core j).saved,
        x ∈ (b.advance (t.core j).outbox).sheets → y ∈ (b.advance (t.core j).outbox).sheets →
          x.number = y.number → x = y := by
  by_cases hascends : b.Ascends (t.core j).outbox
  . intro x hx y hy _ _
    exact (h.paced_step hprocess hstep j hascends).2.once x hx y hy
  rcases step_sheets h.sheets.seated hprocess hstep with ⟨i, newId, content, hnew, -, hcore⟩ | ⟨-, hquiet⟩
  . by_cases hj : j = i
    . subst hj
      rw [hcore, Function.update_self] at hascends ⊢
      have hblocked : ¬b.Ascends (s.core j).outbox := by
        intro hbefore
        exact hascends (Board.ascends_append.2 ⟨hbefore, le_refl _, trivial⟩)
      have hold : ∀ x ∈ (b.advance (s.core j).outbox).sheets, x.id ≠ newId := by
        intro x hx
        rcases Board.mem_of_mem_advance hx with hx | ⟨code, hx⟩
        . obtain ⟨i, hx⟩ := h.sheets.stored x hx
          exact hnew i x hx
        . exact hnew j x ((h.sheets.outbox j _ hx).2 code x rfl)
      simp only [Core.save, Board.advance_append hblocked, List.mem_cons]
      rintro x (rfl | hx) y (rfl | hy) hx' hy'
      . exact fun _ => rfl
      . exact absurd rfl (hold _ hx')
      . exact absurd rfl (hold _ hy')
      . exact h.once j x hx y hy hx' hy'
    . rw [hcore, Function.update_of_ne hj]
      exact h.once j
  . obtain ⟨hsaved, ws, hout, -⟩ := hquiet j
    rw [hsaved]
    by_cases hbefore : b.Ascends (s.core j).outbox
    . intro x hx y hy _ _
      exact (h.paced j hbefore).2.once x hx y hy
    . rw [hout, Board.advance_append hbefore]
      exact h.once j

theorem step (h : PaceInv T s b) (hinj : ∀ i j, (T.player i).number = (T.player j).number → i = j)
    (hok : Forward T s a) (hstep : s.step T a = some t)
    : ∃ b', PaceInv T t b' := by
  by_cases hprocess : ∃ i, a = .process i
  . obtain ⟨i, rfl⟩ := hprocess
    exact h.process hinj hok hstep
  . have hne : ∀ i, a ≠ .process i := fun i hi => hprocess ⟨i, hi⟩
    exact ⟨b, h.sheets.step_of_ne hne hstep, h.paced_step hne hstep, h.once_step hne hstep⟩

theorem run {hist : List (Play ι × Action ι)} {init : Play ι → Prop}
    (hinj : ∀ i j, (T.player i).number = (T.player j).number → i = j)
    (hinit : ∀ s, init s → Fresh T s) (hrun : (system T init).Run (Forward T) hist s)
    : ∃ b, PaceInv T s b := by
  apply hrun.invariant
  . intro s hs
    exact fresh (hinit s hs)
  . rintro s a t ⟨b, h⟩ hok hstep
    exact h.step hinj hok hstep

omit [Fintype ι] [DecidableEq ι] in
theorem oncePerRound (h : PaceInv T s b) {numOfPlayers : Int}
    (hnumber : ∀ i, 1 ≤ (T.player i).number ∧ (T.player i).number ≤ numOfPlayers)
    (hinj : ∀ i j, (T.player i).number = (T.player j).number → i = j)
    : b.OncePerRound numOfPlayers := by
  refine ⟨?_, ?_, ?_⟩
  . intro x hx y hy hid
    obtain ⟨i, hx⟩ := h.sheets.stored x hx
    obtain ⟨j, hy⟩ := h.sheets.stored y hy
    exact h.sheets.ids i j x hx y hy hid
  . intro x hx y hy hround hauthor
    obtain ⟨i, hx'⟩ := h.sheets.stored x hx
    obtain ⟨j, hy'⟩ := h.sheets.stored y hy
    rw [h.sheets.author i x hx', h.sheets.author j y hy'] at hauthor
    obtain rfl := hinj i j hauthor
    exact h.once i x hx' y hy' (Board.subset_advance hx) (Board.subset_advance hy) hround
  . intro x hx
    obtain ⟨i, hx⟩ := h.sheets.stored x hx
    rw [h.sheets.author i x hx]
    exact hnumber i

end PaceInv

/--
In a game whose round never goes back in the database no round ever holds two sheets of one player,
however many rounds are ended by force and however late the sheets come in.
-/
theorem nodup_authors_of_forward (T : Table ι) (numOfPlayers : Int)
    (hnumber : ∀ i, 1 ≤ (T.player i).number ∧ (T.player i).number ≤ numOfPlayers)
    (hinj : ∀ i j, (T.player i).number = (T.player j).number → i = j)
    (hist : List (Play ι × Action ι)) (s : Play ι)
    (hrun : (system T (Fresh T)).Run (Forward T) hist s)
    : ∀ n,
        (authors s.db T.code n).Nodup
          ∧
        ∀ authorNum ∈ authors s.db T.code n, ∃ i, (T.player i).number = authorNum := by
  obtain ⟨b, h⟩ := PaceInv.run hinj (fun _ => id) hrun
  have hb := h.oncePerRound hnumber hinj
  intro n
  have hperm := h.sheets.represents.authors_perm hb n
  refine ⟨hperm.nodup_iff.2 (hb.nodup_authors n), ?_⟩
  intro authorNum hmem
  rw [hperm.mem_iff, Board.mem_authors_iff] at hmem
  obtain ⟨x, hx, hauthor, -⟩ := hmem
  obtain ⟨i, hx⟩ := h.sheets.stored x hx
  refine ⟨i, ?_⟩
  rw [← hauthor, h.sheets.author i x hx]

/-- The host hands in its sheet of round 1 after the other device has ended the round. -/
theorem nodup_authors_of_forward_late_sheet
    : ∃ s : Play Bool,
        (StorageControllerSheet.observeRoundNum s.db 123456 = some 2
          ∧ (authors s.db 123456 1).length = 2)
          ∧
        ∀ n,
          (authors s.db 123456 n).Nodup
            ∧
          ∀ authorNum ∈ authors s.db 123456 n, ∃ i, (duoTable.player i).number = authorNum := by
  obtain ⟨hist, s, hrun, hs⟩ := TransitionSystem.exists_run_of_exec (Forward duoTable)
    (S := system duoTable (Fresh duoTable))
    (P := fun _ s => StorageControllerSheet.observeRoundNum s.db 123456 = some 2
      ∧ (authors s.db 123456 1).length = 2)
    playing_duo.fresh (forceFirst ++ [.device false (.done (.ofNat 40)), .process false])
    (by decide +kernel)
  exact ⟨s, hs, nodup_authors_of_forward duoTable 2 (by decide) (by decide) hist s hrun⟩

end Play

end SCatCh
