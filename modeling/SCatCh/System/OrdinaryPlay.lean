import SCatCh.System.Complete

/-!
This module contains the runs of a game in which no one forces the end of a round.
-/

namespace SCatCh

/-- The players are numbered from 1 to `numOfPlayers`, all know how many they are, and one is the host. -/
structure Table.FixedRoster {ι : Type} [Fintype ι] (T : Table ι) (host : ι) (numOfPlayers : Int)
    : Prop where
  card : (Fintype.card ι : Int) = numOfPlayers
  num_players : ∀ i, T.numOfPlayers i = numOfPlayers
  number : ∀ i, 1 ≤ (T.player i).number ∧ (T.player i).number ≤ numOfPlayers
  number_inj : ∀ i j, (T.player i).number = (T.player j).number → i = j
  isHost : ∀ i, T.isHost i = true ↔ i = host

namespace Play

variable {ι : Type} [Fintype ι] [DecidableEq ι] {T : Table ι} {host : ι} {numOfPlayers : Int}
  {s t : Play ι} {b : Board}

variable (T host numOfPlayers) in
structure PlayInv (s : Play ι) (b : Board) : Prop where
  entered : ∀ i, s.entered i = true
  starts : ∀ i, s.starts i = 0
  seated : ∀ i, Seated T i (s.core i)
  inRange : ∀ i, (s.core i).InRange
  represents : Board.Represents s.db T.code b
  own : ∀ i, (s.core i).Own
  ids : ∀ i j, ∀ x ∈ (s.core i).saved, ∀ y ∈ (s.core j).saved, x.id = y.id → x = y
  stored : ∀ x ∈ b.sheets, ∃ i, x ∈ (s.core i).saved
  outbox : ∀ i, ∀ w ∈ (s.core i).outbox,
    (∃ x ∈ (s.core i).saved, w = .sheet T.code x) ∨ (i = host ∧ ∃ v, w = .roundNum T.code v)
  good : b.Good numOfPlayers (s.core host).outbox
  ascending : ∀ i, (s.core i).Ascending (b.applyAll (s.core i).outbox).roundNum
  bound : (b.applyAll (s.core host).outbox).roundNum ≤ (s.core host).roundNum + 1
  bound_rounds : (b.applyAll (s.core host).outbox).roundNum ≤ T.numOfRounds host + 1
  idle : ∀ i, i ≠ host → ∀ n,
    ((s.core i).sheetsEvents n).active = false ∧ ((s.core i).sheetsEvents n).queue = []
  counting : Counting numOfPlayers (s.core host) (b.applyAll (s.core host).outbox)

section Update

variable {i : ι} {k : Core}

omit [Fintype ι] in
theorem forall_core {P : ι → Core → Prop} (hcore : t.core = Function.update s.core i k) (hk : P i k)
    (hs : ∀ j, P j (s.core j))
    : ∀ j, P j (t.core j) := by
  rw [hcore]
  exact (Function.forall_update_iff s.core P).2 ⟨hk, fun j _ => hs j⟩

omit [Fintype ι] in
theorem core_host {P : Core → Prop} (hcore : t.core = Function.update s.core i k)
    (hk : i = host → P k) (hs : P (s.core host))
    : P (t.core host) := by
  rw [hcore]
  by_cases hi : i = host
  . subst hi
    rw [Function.update_self]
    exact hk rfl
  . rw [Function.update_of_ne (Ne.symm hi)]
    exact hs

end Update

namespace PlayInv

section Derived

variable (h : PlayInv T host numOfPlayers s b)
include h

omit [Fintype ι] [DecidableEq ι] in
theorem saved_of_mem_view {i : ι} {x : Sheet} (hx : x ∈ (b.applyAll (s.core i).outbox).sheets)
    : ∃ j, x ∈ (s.core j).saved := by
  rw [Board.mem_applyAll_sheets] at hx
  rcases hx with hx | ⟨code, hx⟩
  . exact h.stored x hx
  . rcases h.outbox i _ hx with ⟨y, hy, heq⟩ | ⟨-, v, heq⟩
    . rw [Write.sheet.injEq] at heq
      rw [heq.2]
      exact ⟨i, hy⟩
    . contradiction

omit [DecidableEq ι] in
theorem oncePerRound (hroster : T.FixedRoster host numOfPlayers) {b' : Board}
    (hb' : ∀ x ∈ b'.sheets, ∃ j, x ∈ (s.core j).saved)
    : b'.OncePerRound numOfPlayers := by
  have hauthor : ∀ j, ∀ x ∈ (s.core j).saved, x.author.number = (T.player j).number := by
    intro j x hx
    rw [(h.own j).author x hx, (h.seated j).player]
  refine ⟨?_, ?_, ?_⟩
  . intro x hx y hy hid
    obtain ⟨i, hx⟩ := hb' x hx
    obtain ⟨j, hy⟩ := hb' y hy
    exact h.ids i j x hx y hy hid
  . intro x hx y hy hnumber hsame
    obtain ⟨i, hx⟩ := hb' x hx
    obtain ⟨j, hy⟩ := hb' y hy
    rw [hauthor i x hx, hauthor j y hy] at hsame
    obtain rfl := hroster.number_inj i j hsame
    exact (h.own i).once x hx y hy hnumber
  . intro x hx
    obtain ⟨i, hx⟩ := hb' x hx
    rw [hauthor i x hx]
    exact hroster.number i

omit [Fintype ι] [DecidableEq ι] in
theorem represents_view (i : ι)
    : Board.Represents (s.view i) T.code (b.applyAll (s.core i).outbox) := by
  apply h.represents.applyAll (S := fun x => ∃ j, x ∈ (s.core j).saved)
  . rintro x y ⟨i, hx⟩ ⟨j, hy⟩ hid
    exact h.ids i j x hx y hy hid
  . exact h.stored
  . intro w hw
    rcases h.outbox i w hw with ⟨x, hx, rfl⟩ | ⟨-, v, rfl⟩
    . refine ⟨rfl, ?_⟩
      intro y hy
      rw [Write.sheet.injEq] at hy
      rw [← hy.2]
      exact ⟨i, hx⟩
    . exact ⟨rfl, by simp⟩

omit [Fintype ι] [DecidableEq ι] in
theorem roundNums_eq_nil {i : ι} (hi : i ≠ host) : roundNums (s.core i).outbox = [] := by
  unfold roundNums
  rw [List.filterMap_eq_nil_iff]
  intro w hw
  rcases h.outbox i w hw with ⟨x, -, rfl⟩ | ⟨heq, -⟩
  . rfl
  . contradiction

omit [Fintype ι] [DecidableEq ι] in
theorem view_roundNum {i : ι} (hi : i ≠ host)
    : (b.applyAll (s.core i).outbox).roundNum = b.roundNum :=
  Board.applyAll_roundNum_of_eq_nil (h.roundNums_eq_nil hi)

omit [Fintype ι] [DecidableEq ι] in
theorem complete_view (i : ι) : (b.applyAll (s.core i).outbox).Complete numOfPlayers := by
  by_cases hi : i = host
  . subst hi
    exact h.good.complete_applyAll
  . apply h.good.complete.mono
    refine ⟨h.view_roundNum hi, ?_⟩
    intro x hx
    rw [Board.mem_applyAll_sheets]
    exact .inl hx

omit [Fintype ι] [DecidableEq ι] in
theorem represents_apply {i : ι} {w : Write} (hw : w ∈ (s.core i).outbox)
    : Board.Represents (w.apply s.db) T.code (b.apply w) := by
  have hwrite := h.outbox i w hw
  apply h.represents.apply
  . rcases hwrite with ⟨x, -, rfl⟩ | ⟨-, v, rfl⟩ <;> exact rfl
  . rintro x rfl y hy hid
    obtain ⟨j, hy⟩ := h.stored y hy
    rcases hwrite with ⟨x', hx', heq⟩ | ⟨-, v, heq⟩
    . rw [Write.sheet.injEq] at heq
      rw [← heq.2] at hx'
      exact h.ids j i y hy x hx' hid
    . contradiction

omit [Fintype ι] [DecidableEq ι] in
theorem le_apply {i : ι} {w : Write} (hw : w ∈ (s.core i).outbox) (hi : i ≠ host)
    : Board.Le b (b.apply w) := by
  rcases h.outbox i w hw with ⟨x, -, rfl⟩ | ⟨heq, -⟩
  . exact Board.Le.sheet _ _ _
  . contradiction

omit [Fintype ι] [DecidableEq ι] in
theorem ascending_apply {i j : ι} {w : Write} {ws : List Write} (hw : (s.core i).outbox = w :: ws)
    (hj : j ≠ i)
    : (s.core j).Ascending ((b.apply w).applyAll (s.core j).outbox).roundNum := by
  apply (h.ascending j).mono
  by_cases hi : i = host
  . -- Only the host's writes change the number that the others see.
    subst hi
    have hgood := h.good
    rw [hw] at hgood
    rw [h.view_roundNum hj, Board.applyAll_roundNum_of_eq_nil (h.roundNums_eq_nil hj)]
    exact Board.apply_roundNum_le hgood.2.1
  . exact ((h.le_apply (by simp [hw]) hi).applyAll _).roundNum.ge

end Derived

omit [Fintype ι] in
theorem update (h : PlayInv T host numOfPlayers s b) (hdb : t.db = s.db)
    (hentered : t.entered = s.entered) (hstarts : t.starts = s.starts) {i : ι} {k : Core}
    (hcore : t.core = Function.update s.core i k)
    (hseated : Seated T i k) (hinRange : k.InRange) (hown : k.Own)
    (hsaved : ∀ x ∈ (s.core i).saved, x ∈ k.saved)
    (hids : ∀ x ∈ k.saved, ∀ y ∈ k.saved, x.id = y.id → x = y)
    (hothers : ∀ j, j ≠ i → ∀ x ∈ k.saved, ∀ y ∈ (s.core j).saved, x.id = y.id → x = y)
    (houtbox : ∀ w ∈ k.outbox, w ∈ (s.core i).outbox ∨ (∃ x ∈ k.saved, w = .sheet T.code x)
      ∨ (i = host ∧ ∃ v, w = .roundNum T.code v))
    (hgood : i = host → b.Good numOfPlayers k.outbox)
    (hascending : k.Ascending (b.applyAll k.outbox).roundNum)
    (hbound : i = host → (b.applyAll k.outbox).roundNum ≤ k.roundNum + 1)
    (hbound_rounds : i = host → (b.applyAll k.outbox).roundNum ≤ T.numOfRounds host + 1)
    (hidle : i ≠ host → ∀ n, (k.sheetsEvents n).active = false ∧ (k.sheetsEvents n).queue = [])
    (hcounting : i = host → Counting numOfPlayers k (b.applyAll k.outbox))
    : PlayInv T host numOfPlayers t b := by
  exact {
    entered := by
      rw [hentered]
      exact h.entered
    starts := by
      rw [hstarts]
      exact h.starts
    seated := forall_core hcore hseated h.seated
    inRange := forall_core hcore (P := fun _ k => k.InRange) hinRange h.inRange
    represents := by
      rw [hdb]
      exact h.represents
    own := forall_core hcore (P := fun _ k => k.Own) hown h.own
    ids := by
      rw [hcore]
      intro j j' x hx y hy hid
      by_cases hj : j = i <;> by_cases hj' : j' = i
      . rw [hj, Function.update_self] at hx
        rw [hj', Function.update_self] at hy
        exact hids x hx y hy hid
      . rw [hj, Function.update_self] at hx
        rw [Function.update_of_ne hj'] at hy
        exact hothers j' hj' x hx y hy hid
      . rw [Function.update_of_ne hj] at hx
        rw [hj', Function.update_self] at hy
        exact (hothers j hj y hy x hx hid.symm).symm
      . rw [Function.update_of_ne hj] at hx
        rw [Function.update_of_ne hj'] at hy
        exact h.ids j j' x hx y hy hid
    stored := by
      intro x hx
      obtain ⟨j, hj⟩ := h.stored x hx
      exact ⟨j, forall_core hcore (P := fun j k => ∀ x ∈ (s.core j).saved, x ∈ k.saved) hsaved
        (fun _ _ => id) j x hj⟩
    outbox := by
      apply forall_core hcore (P := fun j k => ∀ w ∈ k.outbox,
        (∃ x ∈ k.saved, w = .sheet T.code x) ∨ (j = host ∧ ∃ v, w = .roundNum T.code v)) _ h.outbox
      intro w hw
      rcases houtbox w hw with hw | hw
      . rcases h.outbox i w hw with ⟨x, hx, heq⟩ | hround
        . exact .inl ⟨x, hsaved x hx, heq⟩
        . exact .inr hround
      . exact hw
    good := core_host hcore (P := fun k => b.Good numOfPlayers k.outbox) hgood h.good
    ascending :=
      forall_core hcore (P := fun _ k => k.Ascending (b.applyAll k.outbox).roundNum) hascending h.ascending
    bound := core_host hcore (P := fun k => (b.applyAll k.outbox).roundNum ≤ k.roundNum + 1) hbound h.bound
    bound_rounds :=
      core_host hcore (P := fun k => (b.applyAll k.outbox).roundNum ≤ T.numOfRounds host + 1) hbound_rounds
        h.bound_rounds
    idle := forall_core hcore (P := fun j k => j ≠ host → ∀ n, (k.sheetsEvents n).active = false
      ∧ (k.sheetsEvents n).queue = []) hidle h.idle
    counting :=
      core_host hcore (P := fun k => Counting numOfPlayers k (b.applyAll k.outbox)) hcounting h.counting
  }

omit [Fintype ι] in
theorem device (h : PlayInv T host numOfPlayers s b) (hdb : t.db = s.db)
    (hentered : t.entered = s.entered) (hstarts : t.starts = s.starts) {i : ι} {k : Core}
    (hcore : t.core = Function.update s.core i k)
    (hseated : Seated T i k) (hinRange : k.InRange) (hown : k.Own)
    (hsaved : k.saved = (s.core i).saved)
    (houtbox : ∀ w ∈ k.outbox, w ∈ (s.core i).outbox ∨ (i = host ∧ ∃ v, w = .roundNum T.code v))
    (hgood : i = host → b.Good numOfPlayers k.outbox)
    (hascending : k.Ascending (b.applyAll k.outbox).roundNum)
    (hbound : i = host → (b.applyAll k.outbox).roundNum ≤ k.roundNum + 1)
    (hbound_rounds : i = host → (b.applyAll k.outbox).roundNum ≤ T.numOfRounds host + 1)
    (hidle : i ≠ host → ∀ n, (k.sheetsEvents n).active = false ∧ (k.sheetsEvents n).queue = [])
    (hcounting : i = host → Counting numOfPlayers k (b.applyAll k.outbox))
    : PlayInv T host numOfPlayers t b := by
  refine h.update hdb hentered hstarts hcore hseated hinRange hown ?_ ?_ ?_ ?_ hgood hascending
    hbound hbound_rounds hidle hcounting
  . rw [hsaved]
    exact fun _ => id
  . rw [hsaved]
    exact h.ids i i
  . intro j _
    rw [hsaved]
    exact h.ids i j
  . intro w hw
    rcases houtbox w hw with hw | hw
    . exact .inl hw
    . exact .inr (.inr hw)

omit [Fintype ι] in
theorem save (h : PlayInv T host numOfPlayers s b) (hdb : t.db = s.db)
    (hentered : t.entered = s.entered) (hstarts : t.starts = s.starts) {i : ι} {newId : UUID}
    {content : Content} (hunsaved : (s.core i).isContentSaved = false)
    (hnew : ∀ j, newId ∉ (s.core j).saved.map Sheet.id)
    (hcore : t.core = Function.update s.core i
      ((s.core i).save ⟨newId, (s.core i).player, (s.core i).roundNum, content⟩))
    : PlayInv T host numOfPlayers t b := by
  have hown := (h.own i).save hunsaved newId content
  have hid : ∀ j, ∀ y ∈ (s.core j).saved, y.id ≠ newId :=
    fun j y hy heq => hnew j (heq ▸ List.mem_map_of_mem hy)
  generalize hx : (⟨newId, (s.core i).player, (s.core i).roundNum, content⟩ : Sheet) = x at hcore hown
  have hxid : x.id = newId := by rw [← hx]
  have hcode : (s.core i).gameSettings.code = T.code := by
    rw [(h.seated i).gameSettings]
    rfl
  have hview : b.applyAll ((s.core i).save x).outbox
      = (b.applyAll (s.core i).outbox).apply (.sheet (s.core i).gameSettings.code x) :=
    Board.applyAll_concat _ _ _
  have hothers : ∀ j, ∀ y ∈ ((s.core i).save x).saved, ∀ z ∈ (s.core j).saved, y.id = z.id → y = z := by
    intro j y hy z hz heq
    rcases List.mem_cons.1 hy with rfl | hy
    . exact absurd (heq.symm.trans hxid) (hid j z hz)
    . exact h.ids i j y hy z hz heq
  obtain ⟨h₁, h₂, h₃, h₄, h₅⟩ := h.seated i
  obtain ⟨h₆, h₇, h₈⟩ := h.inRange i
  refine h.update hdb hentered hstarts hcore ⟨h₁, h₂, h₃, h₄, h₅⟩ ⟨h₆, h₇, h₈⟩ hown
    (fun y => List.mem_cons_of_mem _) ?_ (fun j _ => hothers j) ?_ ?_ ?_ ?_ ?_ (h.idle i) ?_
  . intro y hy z hz heq
    rcases List.mem_cons.1 hz with rfl | hz
    . rcases List.mem_cons.1 hy with rfl | hy
      . rfl
      . exact absurd (heq.trans hxid) (hid i y hy)
    . exact hothers i y hy z hz heq
  . intro w hw
    simp only [Core.save, List.mem_append, List.mem_singleton] at hw ⊢
    rcases hw with hw | rfl
    . exact .inl hw
    . exact .inr (.inl ⟨x, List.mem_cons_self, by rw [hcode]⟩)
  . rintro rfl
    apply h.good.concat
    . simp
    . exact h.good.complete_applyAll.mono (Board.Le.sheet _ _ _)
  . rw [hview]
    exact h.ascending i
  . rintro rfl
    rw [hview]
    exact h.bound
  . rintro rfl
    rw [hview]
    exact h.bound_rounds
  . rintro rfl
    rw [hview]
    have hcounting := h.counting.mono (Board.Le.sheet _ (s.core i).gameSettings.code x)
    exact hcounting.congr rfl rfl

section Inputs

variable (h : PlayInv T host numOfPlayers s b) (hdb : t.db = s.db)
  (hentered : t.entered = s.entered) (hstarts : t.starts = s.starts) {i : ι} {k : Core}
  (hcore : t.core = Function.update s.core i k)
include h hdb hentered hstarts hcore

omit [Fintype ι] in
theorem quiet (hk : k = s.core i) : PlayInv T host numOfPlayers t b := by
  subst hk
  exact h.device hdb hentered hstarts hcore (h.seated i) (h.inRange i) (h.own i) rfl
    (fun w => .inl) (by rintro rfl; exact h.good) (h.ascending i) (by rintro rfl; exact h.bound)
    (by rintro rfl; exact h.bound_rounds) (h.idle i) (by rintro rfl; exact h.counting)

omit [Fintype ι] in
theorem raiseRoundNum {v : Int}
    (hseen : StorageControllerSheet.observeRoundNum (s.view i) T.code = some v)
    (hnext : (s.core i).Next k (.raiseRoundNum v))
    : PlayInv T host numOfPlayers t b := by
  have hseated := (h.seated i).next hnext
  have hinRange := (h.inRange i).next hnext
  obtain ⟨o, hraise, rfl⟩ := hnext
  have hv : v = (b.applyAll (s.core i).outbox).roundNum := by
    rw [(h.represents_view i).roundNum, Option.some.injEq] at hseen
    exact hseen.symm
  obtain ⟨h₁, h₂, h₃, h₄⟩ := h.own i
  refine h.device hdb hentered hstarts hcore hseated hinRange ⟨h₁, h₂, h₃, h₄⟩ rfl (fun w => .inl)
    (by rintro rfl; exact h.good) ?_ (by rintro rfl; exact h.bound)
    (by rintro rfl; exact h.bound_rounds) (h.idle i) ?_
  . rw [hv] at hraise
    exact (h.ascending i).raise hraise
  . rintro rfl
    exact h.counting.congr rfl rfl

theorem deliverRoundNum (hroster : T.FixedRoster host numOfPlayers)
    (hnext : (s.core i).Next k .deliverRoundNum)
    : PlayInv T host numOfPlayers t b := by
  have hseated := (h.seated i).next hnext
  have hinRange := (h.inRange i).next hnext
  obtain ⟨v, o, hdeliver, ⟨rfl, rfl⟩ | ⟨hne, rfl⟩⟩ := hnext
  . obtain ⟨-, -, hascending⟩ := (h.ascending i).deliver hdeliver
    obtain ⟨h₁, h₂, h₃, h₄⟩ := h.own i
    refine h.device hdb hentered hstarts hcore hseated hinRange ⟨h₁, h₂, h₃, h₄⟩ rfl (fun w => .inl)
      (by rintro rfl; exact h.good) hascending (by rintro rfl; exact h.bound)
      (by rintro rfl; exact h.bound_rounds) (h.idle i) ?_
    rintro rfl
    exact h.counting.congr rfl rfl
  . obtain ⟨hlow, hhigh, hascending⟩ := (h.ascending i).deliver hdeliver
    have hlt : (s.core i).roundNum < v := by omega
    have hown : Core.Own { s.core i with roundNumEvents := o } := by
      obtain ⟨h₁, h₂, h₃, h₄⟩ := h.own i
      exact ⟨h₁, h₂, h₃, h₄⟩
    refine h.device hdb hentered hstarts hcore hseated hinRange (hown.moveTo hlt) ?_ ?_ ?_ ?_ ?_ ?_ ?_ ?_
    . exact Core.moveTo_saved ..
    . intro w hw
      rw [Core.moveTo_outbox] at hw
      exact .inl hw
    . rintro rfl
      rw [Core.moveTo_outbox]
      exact h.good
    . simpa [Core.Ascending] using hascending
    . rintro rfl
      rw [Core.moveTo_outbox, Core.moveTo_roundNum]
      have := h.bound
      dsimp only
      omega
    . rintro rfl
      rw [Core.moveTo_outbox]
      exact h.bound_rounds
    . intro hi n
      have hhost : { s.core i with roundNumEvents := o }.isHost = false := by
        dsimp only
        rw [(h.seated i).isHost, Bool.eq_false_iff, Ne, hroster.isHost]
        exact hi
      rw [Core.moveTo_sheetsEvents hhost]
      exact h.idle i hi n
    . rintro rfl
      -- The host is at most one round behind what it sees.
      have hseen : v = (b.applyAll (s.core i).outbox).roundNum := by
        have := h.bound
        omega
      have hhost : (s.core i).isHost = true := by
        rw [(h.seated i).isHost, hroster.isHost]
      have hcounting : Counting numOfPlayers { s.core i with roundNumEvents := o }
          (b.applyAll (s.core i).outbox) := h.counting.congr rfl rfl
      rw [Core.moveTo_outbox, hseen]
      exact hcounting.moveTo hhost (by rw [← hseen]; exact hlt)

theorem raiseRoundSheets (hroster : T.FixedRoster host numOfPlayers) (hpos : 1 ≤ numOfPlayers)
    {n v : Int} (hseen : StorageControllerSheet.observeRoundSheets (s.view i) T.code n = some v)
    (hnext : (s.core i).Next k (.raiseRoundSheets n v))
    : PlayInv T host numOfPlayers t b := by
  have hseated := (h.seated i).next hnext
  have hinRange := (h.inRange i).next hnext
  obtain ⟨o, hraise, rfl⟩ := hnext
  have hactive := (Observer.raise_eq_some.1 hraise).1
  by_cases hi : i = host
  . subst hi
    have hn := (h.inRange i).active n hactive
    have hb := h.oncePerRound hroster (fun x => h.saved_of_mem_view (i := i))
    have hlen := eq_length_authors hseen
    have hv : v = numOfPlayers ↔ ∀ a, 1 ≤ a → a ≤ numOfPlayers →
        (b.applyAll (s.core i).outbox).Has a n := by
      constructor
      . rintro rfl
        exact (h.represents_view i).has_of_length_eq hb hlen
      . intro hall
        have hperm := ((h.represents_view i).authors_perm_closedRange hb hall).length_eq
        rw [length_closedRange] at hperm
        omega
    obtain ⟨h₁, h₂, h₃, h₄⟩ := h.own i
    exact h.device hdb hentered hstarts hcore hseated hinRange ⟨h₁, h₂, h₃, h₄⟩ rfl (fun w => .inl)
      (fun _ => h.good) (h.ascending i) (fun _ => h.bound) (fun _ => h.bound_rounds)
      (fun hne => absurd rfl hne)
      (fun _ => h.counting.raise (h.complete_view i) (h.ascending i).le hn.1 hraise hv)
  . rw [(h.idle i hi n).1] at hactive
    contradiction

theorem deliverRoundSheets (hroster : T.FixedRoster host numOfPlayers) {n : Int}
    (hnext : (s.core i).Next k (.deliverRoundSheets n))
    : PlayInv T host numOfPlayers t b := by
  have hseated := (h.seated i).next hnext
  have hinRange := (h.inRange i).next hnext
  obtain ⟨v, o, hdeliver, hk⟩ := hnext
  obtain ⟨queue, hqueue, -⟩ := Observer.deliver_eq_some.1 hdeliver
  by_cases hi : i = host
  . subst hi
    rw [(h.seated i).isHost, (h.seated i).numOfPlayers, hroster.num_players] at hk
    have hcode : (s.core i).gameSettings.code = T.code := by
      rw [(h.seated i).gameSettings]
      rfl
    obtain ⟨h₁, h₂, h₃, h₄⟩ := h.own i
    rcases hk with ⟨-, rfl, rfl⟩ | ⟨hnot, rfl⟩
    . -- All players have a sheet in the round that the host ends.
      have hn := (h.inRange i).queue n (by simp [hqueue])
      obtain ⟨rfl, hround, hall, -⟩ := h.counting.full n (by simp [hqueue])
      rw [(h.seated i).numOfRounds] at hn
      have hview : b.applyAll ((s.core i).setSheetsEvents (s.core i).roundNum o).endRound.outbox
          = (b.applyAll (s.core i).outbox).apply
              (.roundNum (s.core i).gameSettings.code ((s.core i).roundNum + 1)) :=
        Board.applyAll_concat _ _ _
      have hnew : (b.applyAll ((s.core i).setSheetsEvents (s.core i).roundNum o).endRound.outbox).roundNum
          = (s.core i).roundNum + 1 := by
        rw [hview]
        rfl
      refine h.device hdb hentered hstarts hcore hseated hinRange ⟨h₁, h₂, h₃, h₄⟩ rfl ?_ ?_ ?_ ?_ ?_
        (fun hne => absurd rfl hne) ?_
      . intro w hw
        simp only [Core.endRound, Core.setSheetsEvents, List.mem_append, List.mem_singleton] at hw
        rcases hw with hw | rfl
        . exact .inl hw
        . exact .inr ⟨rfl, _, by rw [hcode]⟩
      . intro _
        apply h.good.concat
        . intro code v heq
          rw [Write.roundNum.injEq] at heq
          rw [← heq.2, ← hround]
          rfl
        . intro m hm hlt
          have hlt : m < (s.core i).roundNum + 1 := hlt
          by_cases hpast : m < (s.core i).roundNum
          . exact h.complete_view i m hm (by omega)
          . obtain rfl : m = (s.core i).roundNum := by omega
            exact hall
      . rw [hnew]
        have hascending := h.ascending i
        rw [← hround] at hascending
        apply hascending.mono
        omega
      . intro _
        rw [hnew]
        exact le_refl _
      . intro _
        rw [hnew]
        omega
      . intro _
        rw [hview]
        exact h.counting.deliver_end hdeliver _
    . have hv : v ≠ numOfPlayers := fun hv => hnot ⟨(hroster.isHost i).2 rfl, hv⟩
      exact h.device hdb hentered hstarts hcore hseated hinRange ⟨h₁, h₂, h₃, h₄⟩ rfl (fun w => .inl)
        (fun _ => h.good) (h.ascending i) (fun _ => h.bound) (fun _ => h.bound_rounds)
        (fun hne => absurd rfl hne) (fun _ => h.counting.deliver_of_ne hdeliver hv)
  . rw [(h.idle i hi n).2] at hqueue
    contradiction

end Inputs

omit [Fintype ι] in
theorem process (h : PlayInv T host numOfPlayers s b) {i : ι} {w : Write} {ws : List Write}
    (hw : (s.core i).outbox = w :: ws) (hdb : t.db = w.apply s.db)
    (hentered : t.entered = s.entered) (hstarts : t.starts = s.starts)
    (hcore : t.core = Function.update s.core i { s.core i with outbox := ws })
    : PlayInv T host numOfPlayers t (b.apply w) := by
  have hmem : w ∈ (s.core i).outbox := by simp [hw]
  -- The device itself has seen its write before.
  have hview : (b.apply w).applyAll ws = b.applyAll (s.core i).outbox := by rw [hw, Board.applyAll_cons]
  have hsaved : ∀ j, (t.core j).saved = (s.core j).saved :=
    forall_core hcore (P := fun j k => k.saved = (s.core j).saved) rfl fun _ => rfl
  have hgood : i = host → b.Good numOfPlayers (w :: ws) := by
    rintro rfl
    rw [← hw]
    exact h.good
  have hother : i ≠ host → t.core host = s.core host := by
    intro hi
    rw [hcore, Function.update_of_ne (Ne.symm hi)]
  have hself : i = host → t.core host = { s.core host with outbox := ws } := by
    rintro rfl
    rw [hcore, Function.update_self]
  exact {
    entered := by
      rw [hentered]
      exact h.entered
    starts := by
      rw [hstarts]
      exact h.starts
    seated := by
      apply forall_core hcore (P := fun i k => Seated T i k) _ h.seated
      obtain ⟨h₁, h₂, h₃, h₄, h₅⟩ := h.seated i
      exact ⟨h₁, h₂, h₃, h₄, h₅⟩
    inRange := by
      apply forall_core hcore (P := fun _ k => k.InRange) _ h.inRange
      obtain ⟨h₁, h₂, h₃⟩ := h.inRange i
      exact ⟨h₁, h₂, h₃⟩
    represents := by
      rw [hdb]
      exact h.represents_apply hmem
    own := by
      apply forall_core hcore (P := fun _ k => k.Own) _ h.own
      obtain ⟨h₁, h₂, h₃, h₄⟩ := h.own i
      exact ⟨h₁, h₂, h₃, h₄⟩
    ids := by
      intro j j'
      rw [hsaved, hsaved]
      exact h.ids j j'
    stored := by
      intro x hx
      have hx : x ∈ (b.applyAll (s.core i).outbox).sheets := by
        rw [hw, Board.applyAll_cons, Board.mem_applyAll_sheets]
        exact .inl hx
      obtain ⟨j, hj⟩ := h.saved_of_mem_view hx
      exact ⟨j, by rwa [hsaved]⟩
    outbox := by
      apply forall_core hcore (P := fun j k => ∀ w ∈ k.outbox,
        (∃ x ∈ k.saved, w = .sheet T.code x) ∨ (j = host ∧ ∃ v, w = .roundNum T.code v)) _ h.outbox
      intro w' hw'
      exact h.outbox i w' (by rw [hw]; exact List.mem_cons_of_mem _ hw')
    good := by
      by_cases hi : i = host
      . rw [hself hi]
        exact (hgood hi).2.2
      . rw [hother hi]
        exact h.good.mono (h.le_apply hmem hi)
    ascending := by
      intro j
      rw [hcore]
      by_cases hj : j = i
      . subst hj
        rw [Function.update_self, hview]
        exact h.ascending j
      . rw [Function.update_of_ne hj]
        exact h.ascending_apply hw hj
    bound := by
      by_cases hi : i = host
      . rw [hself hi]
        subst hi
        rw [hview]
        exact h.bound
      . rw [hother hi, ((h.le_apply hmem hi).applyAll _).roundNum]
        exact h.bound
    bound_rounds := by
      by_cases hi : i = host
      . rw [hself hi]
        subst hi
        rw [hview]
        exact h.bound_rounds
      . rw [hother hi, ((h.le_apply hmem hi).applyAll _).roundNum]
        exact h.bound_rounds
    idle := forall_core hcore (P := fun j k => j ≠ host → ∀ n, (k.sheetsEvents n).active = false
      ∧ (k.sheetsEvents n).queue = []) (h.idle i) h.idle
    counting := by
      by_cases hi : i = host
      . rw [hself hi]
        subst hi
        rw [hview]
        exact h.counting.congr rfl rfl
      . rw [hother hi]
        exact h.counting.mono ((h.le_apply hmem hi).applyAll _)
  }

omit [DecidableEq ι] in
theorem playing (hroster : T.FixedRoster host numOfPlayers)
    (hrounds : 1 ≤ T.numOfRounds host) (h : Playing T s)
    : PlayInv T host numOfPlayers s ⟨1, []⟩ := by
  have hcore : ∀ i, s.core i = (T.create i).core := by
    intro i
    rw [core, h.clients]
  have hsame : ∀ i, T.numOfRounds i = T.numOfRounds host := by
    intro i
    unfold Table.numOfRounds
    rw [hroster.num_players, hroster.num_players]
  have hend := EndInv.playing hsame hrounds h
  have hsaved : ∀ i, (s.core i).saved = [] := by
    intro i
    rw [hcore]
    rfl
  have houtbox : ∀ i, (s.core i).outbox = [] := by
    intro i
    rw [hcore]
    rfl
  have hround : ∀ i, (s.core i).roundNum = 0 := by
    intro i
    rw [hcore]
    rfl
  have hevents : ∀ i n, (s.core i).sheetsEvents n = {} := by
    intro i n
    rw [hcore]
    rfl
  exact {
    entered := h.entered
    starts := h.starts
    seated := hend.seated
    inRange := hend.inRange
    represents := ⟨Stored.of_empty h.rounds, h.roundNum⟩
    own := by
      intro i
      refine ⟨?_, ?_, ?_, ?_⟩ <;> simp [hsaved]
    ids := by simp [hsaved]
    stored := by simp
    outbox := by simp [houtbox]
    good := by
      rw [houtbox]
      intro n hn hlt
      simp only at hlt
      omega
    ascending := by
      intro i
      have hqueue : (s.core i).roundNumEvents.queue = [] := by
        rw [hcore]
        rfl
      simp [Core.Ascending, hqueue, hround, houtbox]
    bound := by simp [houtbox, hround]
    bound_rounds := by
      rw [houtbox, Board.applyAll_nil]
      dsimp only
      omega
    idle := by simp [hevents]
    counting := by
      refine ⟨?_, ?_, ?_, ?_⟩ <;> simp [hevents]
  }

end PlayInv

def NoForce (_ : Play ι) : Action ι → Prop
  | .device _ .force => False
  | _ => True

instance (s : Play ι) (a : Action ι) : Decidable (NoForce s a) := by
  unfold NoForce
  induction a using Action.casesOn with
  | device j a => induction a using SheetClient.Input.casesOn <;> infer_instance
  | _ => infer_instance

theorem PlayInv.step (h : PlayInv T host numOfPlayers s b) (hroster : T.FixedRoster host numOfPlayers)
    (hpos : 1 ≤ numOfPlayers) {a : Action ι} (hok : NoForce s a) (hstep : s.step T a = some t)
    : ∃ b', PlayInv T host numOfPlayers t b' ∧ (b'.roundNum = b.roundNum ∨ b'.roundNum = b.roundNum + 1) := by
  cases a with
  | device i a =>
    obtain ⟨-, hadmissible, hdb, hentered, hstarts, k, hnext, hcore⟩ := step_device hstep
    refine ⟨b, ?_, .inl rfl⟩
    cases a with
    | tick newId =>
      rcases hnext with hk | ⟨hunsaved, content, rfl⟩
      . exact h.quiet hdb hentered hstarts hcore hk
      . exact h.save hdb hentered hstarts hunsaved hadmissible hcore
    | done newId =>
      rcases hnext with hk | ⟨hunsaved, content, rfl⟩
      . exact h.quiet hdb hentered hstarts hcore hk
      . exact h.save hdb hentered hstarts hunsaved hadmissible hcore
    | force => exact hok.elim
    | raiseRoundNum v => exact h.raiseRoundNum hdb hentered hstarts hcore hadmissible hnext
    | deliverRoundNum => exact h.deliverRoundNum hdb hentered hstarts hcore hroster hnext
    | raiseRoundSheets n v =>
      exact h.raiseRoundSheets hdb hentered hstarts hcore hroster hpos hadmissible hnext
    | deliverRoundSheets n => exact h.deliverRoundSheets hdb hentered hstarts hcore hroster hnext
    | appear | type _ | draw _ | answer _ _ _ _ _ | reply _ =>
      exact h.quiet hdb hentered hstarts hcore hnext
  | process i =>
    obtain ⟨w, ws, hw, hdb, hentered, hstarts, hcore⟩ := step_process hstep
    refine ⟨b.apply w, h.process hw hdb hentered hstarts hcore, ?_⟩
    rcases h.outbox i w (by simp [hw]) with ⟨x, -, rfl⟩ | ⟨rfl, v, rfl⟩
    . exact .inl rfl
    . have hgood := h.good
      rw [hw] at hgood
      exact .inr (hgood.2.1 _ _ rfl)
  | startGame i =>
    have hnot := (step_startGame hstep).1
    rw [h.entered i] at hnot
    contradiction
  | startReply i o =>
    have hnot := (step_startReply hstep).1
    rw [h.starts i] at hnot
    contradiction
  | enter i =>
    have hnot := (step_enter hstep).1
    rw [h.entered i] at hnot
    contradiction

def OneRoundOn (T : Table ι) (s t : Play ι) : Prop :=
  ∃ m n,
    StorageControllerSheet.observeRoundNum s.db T.code = some m
      ∧ StorageControllerSheet.observeRoundNum t.db T.code = some n
      ∧ (n = m ∨ n = m + 1)

def WrittenBeforeLeaving (T : Table ι) (s t : Play ι) : Prop :=
  ∀ i, 1 ≤ (s.core i).roundNum → (t.core i).roundNum ≠ (s.core i).roundNum →
    (T.player i).number ∈ authors (s.view i) T.code (s.core i).roundNum

theorem PlayInv.writtenBeforeLeaving (h : PlayInv T host numOfPlayers s b)
    (hroster : T.FixedRoster host numOfPlayers) {a : Action ι} (hstep : s.step T a = some t)
    : WrittenBeforeLeaving T s t := by
  intro i hround hne
  -- A device leaves its round only for a later one that it has seen.
  have hlater : (s.core i).roundNum < (b.applyAll (s.core i).outbox).roundNum := by
    cases a with
    | device j a =>
      obtain ⟨-, -, -, -, -, k, hnext, hcore⟩ := step_device hstep
      rw [hcore] at hne
      by_cases hj : i = j
      . subst hj
        rw [Function.update_self] at hne
        obtain ⟨v, o, hdeliver, hv⟩ := hnext.of_roundNum_ne hne
        obtain ⟨hlow, hhigh, -⟩ := (h.ascending i).deliver hdeliver
        omega
      . rw [Function.update_of_ne hj] at hne
        contradiction
    | process j =>
      obtain ⟨w, ws, -, -, -, -, hcore⟩ := step_process hstep
      apply absurd _ hne
      exact forall_core hcore (P := fun i k => k.roundNum = (s.core i).roundNum) rfl (fun _ => rfl) i
    | startGame j =>
      rw [(step_startGame hstep).2.2.1] at hne
      contradiction
    | startReply j o =>
      obtain ⟨-, -, -, hcore⟩ := step_startReply hstep
      apply absurd _ hne
      exact forall_core hcore (P := fun i k => k.roundNum = (s.core i).roundNum) rfl (fun _ => rfl) i
    | enter j =>
      rw [(step_enter hstep).2.2.1] at hne
      contradiction
  have hhas := h.complete_view i _ hround hlater _ (hroster.number i).1 (hroster.number i).2
  have hb := h.oncePerRound hroster (fun x => h.saved_of_mem_view (i := i))
  rw [((h.represents_view i).authors_perm hb _).mem_iff, Board.mem_authors_iff]
  exact hhas

/--
In ordinary play all rounds before the present one hold one sheet of each player and no other sheet,
no round is skipped, and no one leaves a round without having written a sheet in it.
-/
theorem ordinary_play_complete (T : Table ι) (host : ι) (numOfPlayers : Int)
    (hroster : T.FixedRoster host numOfPlayers) (hmax : 1 ≤ T.gameSettings.maxNumOfRounds)
    (hist : List (Play ι × Action ι)) (s : Play ι)
    (hrun : (system T (Playing T)).Run NoForce hist s)
    : (∃ v,
        StorageControllerSheet.observeRoundNum s.db T.code = some v
          ∧ v ≤ T.numOfRounds host + 1
          ∧ ∀ n, 1 ≤ n → n < v → (authors s.db T.code n).Perm (closedRange 1 numOfPlayers))
        ∧
      ∀ x ∈ hist, ∃ t,
        x.1.step T x.2 = some t ∧ OneRoundOn T x.1 t ∧ WrittenBeforeLeaving T x.1 t := by
  have hpos : 1 ≤ numOfPlayers := by
    have hcard : 0 < Fintype.card ι := Fintype.card_pos_iff.2 ⟨host⟩
    have := hroster.card
    omega
  have hrounds : 1 ≤ T.numOfRounds host := by
    unfold Table.numOfRounds
    rw [hroster.num_players]
    omega
  -- The board that represents the database changes along the run.
  have hinv : ∀ hist s, (system T (Playing T)).Run NoForce hist s →
      ∃ b, PlayInv T host numOfPlayers s b := by
    intro hist s hrun
    apply hrun.invariant
    . intro s hplaying
      exact ⟨_, PlayInv.playing hroster hrounds hplaying⟩
    . rintro s a t ⟨b, h⟩ hok hstep
      obtain ⟨b', h', -⟩ := h.step hroster hpos hok hstep
      exact ⟨b', h'⟩
  constructor
  . obtain ⟨b, h⟩ := hinv hist s hrun
    refine ⟨b.roundNum, h.represents.roundNum, h.good.roundNum_le.trans h.bound_rounds, ?_⟩
    intro n hn hlt
    exact h.represents.authors_perm_closedRange (h.oncePerRound hroster h.stored)
      (h.good.complete n hn hlt)
  . apply hrun.forall_mem (I := fun s => ∃ b, PlayInv T host numOfPlayers s b)
      (Q := fun s _ t => OneRoundOn T s t ∧ WrittenBeforeLeaving T s t) hinv
    rintro s a t ⟨b, h⟩ hok hstep
    obtain ⟨b', h', hround⟩ := h.step hroster hpos hok hstep
    exact ⟨⟨_, _, h.represents.roundNum, h'.represents.roundNum, hround⟩,
      h.writtenBeforeLeaving hroster hstep⟩

theorem fixedRoster_duoTable : duoTable.FixedRoster false 2 where
  card := by decide
  num_players := by decide
  number := by decide
  number_inj := by decide
  isHost := by decide

def finishFirst : List (Action Bool) :=
  openSheet false 10 ++ openSheet true 20
    ++ [.device false (.done (.ofNat 40)), .device true (.done (.ofNat 41)), .process false,
      .process true, .device false (.raiseRoundSheets 1 2), .device false (.deliverRoundSheets 1),
      .process false]

theorem ordinary_play_complete_finishFirst
    : ∃ (hist : List (Play Bool × Action Bool)) (s : Play Bool),
        StorageControllerSheet.observeRoundNum s.db 123456 = some 2
          ∧
        (∃ v,
          StorageControllerSheet.observeRoundNum s.db 123456 = some v
            ∧ v ≤ 2 + 1
            ∧ ∀ n, 1 ≤ n → n < v → (authors s.db 123456 n).Perm (closedRange 1 2))
          ∧
        ∀ x ∈ hist, ∃ t,
          x.1.step duoTable x.2 = some t
            ∧ OneRoundOn duoTable x.1 t
            ∧ WrittenBeforeLeaving duoTable x.1 t := by
  obtain ⟨hist, s, hrun, hround⟩ := TransitionSystem.exists_run_of_exec NoForce
    (S := system duoTable (Playing duoTable))
    (P := fun _ s => StorageControllerSheet.observeRoundNum s.db 123456 = some 2)
    playing_duo finishFirst (by decide +kernel)
  exact ⟨hist, s, hround,
    ordinary_play_complete duoTable false 2 fixedRoster_duoTable (by decide) hist s hrun⟩

end Play

end SCatCh
