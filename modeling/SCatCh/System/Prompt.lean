import SCatCh.System.Ending
import SCatCh.System.Reference

/-!
This module contains what the players of a game are shown to draw or to guess from: the sheet that
another device has saved in the round before, on its way through the database and the image store.
-/

namespace SCatCh

open SubRootViewSheet

/-- A device never goes back to a round before its own. -/
theorem Core.Next.roundNum_le {k k' : Core} {a : SheetClient.Input} {seen : Int} (hnext : k.Next k' a)
    (hascending : k.Ascending seen)
    : k.roundNum ≤ k'.roundNum := by
  cases a with
  | tick newId => rcases hnext with rfl | ⟨-, content, rfl⟩ <;> exact le_refl _
  | done newId => rcases hnext with rfl | ⟨-, content, rfl⟩ <;> exact le_refl _
  | force =>
    obtain ⟨-, rfl⟩ := hnext
    exact le_refl _
  | raiseRoundNum v =>
    obtain ⟨o, -, rfl⟩ := hnext
    exact le_refl _
  | deliverRoundNum =>
    obtain ⟨v, o, hdeliver, ⟨-, rfl⟩ | ⟨-, rfl⟩⟩ := hnext
    . exact le_refl _
    . rw [moveTo_roundNum]
      exact (hascending.deliver hdeliver).1
  | raiseRoundSheets n v =>
    obtain ⟨o, -, rfl⟩ := hnext
    exact le_refl _
  | deliverRoundSheets n =>
    obtain ⟨v, o, -, ⟨-, -, rfl⟩ | ⟨-, rfl⟩⟩ := hnext <;> exact le_refl _
  | appear | type _ | draw _ | answer _ _ _ _ _ | reply _ =>
    have hk : k' = k := hnext
    rw [hk]

namespace SheetClient

variable {c c' : SheetClient} {a : Input}

/-! # Where the reference comes from -/

/-- The reference of a later round was a reply, and all replies are of a kind. -/
structure ShownInv (Q : Sheet → Prop) (c : SheetClient) : Prop where
  replies : ∀ r ∈ c.replies, Q r.2
  reference : 2 ≤ c.controller.roundNum → ∀ sheet, c.controller.referenceSheet = some sheet → Q sheet

namespace ShownInv

variable {Q Q' : Sheet → Prop}

theorem mono (h : ShownInv Q c) (hQ : ∀ x, Q x → Q' x) : ShownInv Q' c :=
  ⟨fun r hr => hQ _ (h.replies r hr), fun hround x hx => hQ x (h.reference hround x hx)⟩

theorem congr (h : ShownInv Q c) (hcontroller : c'.controller = c.controller)
    (hreplies : c'.replies = c.replies)
    : ShownInv Q c' := by
  refine ⟨?_, ?_⟩
  . rw [hreplies]
    exact h.replies
  . rw [hcontroller]
    exact h.reference

theorem next (h : ShownInv Q c) (hsummary : c'.summary = none)
    (hread : ∀ k o db images authorId, a = .answer k o db images authorId →
      ∀ r ∈ c.requests, ∀ sheets,
        StorageControllerSheet.getReferenceSheet o db images c.controller.gameSettings.code r.1 r.2 authorId
            = some sheets →
          ∀ x ∈ sheets, Q x)
    (hnext : Next c a c')
    : ShownInv Q c' := by
  refine ⟨?_, ?_⟩
  . intro r hr
    rcases hnext.mem_replies hr with hr | ⟨k, o, db, images, authorId, sheets, ha, hrequest, hsheets, hsheet⟩
    . exact h.replies r hr
    . exact hread k o db images authorId ha r.1 hrequest sheets hsheets r.2 hsheet
  . intro hround sheet href
    rcases hnext.referenceSheet hround href with ⟨hsame, href⟩ | ⟨-, k, request, -, hk⟩ | ⟨hleft, -⟩
    . exact h.reference (by omega) sheet href
    . exact h.replies _ (List.mem_of_getElem? hk)
    . contradiction

end ShownInv

/-- Until the device gets to the summary, only replies can come out of time. -/
theorem timely_of_next (hnext : Next c a c') (hsummary : c'.summary = none)
    (hreply : ∀ k, a = .reply k → c.Timely (.reply k))
    : c.Timely a := by
  cases hnext with
  | reply k => exact hreply k rfl
  | sameRound o hdeliver =>
    obtain ⟨queue, hqueue, -⟩ := Observer.deliver_eq_some.1 hdeliver
    simp [Timely, hqueue]
  | begin v o hdeliver _ hmem =>
    obtain ⟨queue, hqueue, -⟩ := Observer.deliver_eq_some.1 hdeliver
    simp [Timely, hqueue, hmem.2]
  | handOver => simp [update] at hsummary
  | _ => trivial

/-! # What a device uploads -/

/-- Every uploaded image is the drawing of a saved sheet, under the name of the sheet. -/
def OwnUploads (c : SheetClient) : Prop :=
  ∀ u ∈ c.uploads, ∃ x ∈ c.saved, ∃ image,
    x.content = .drawing image ∧ u = (drawingPath x.id.uuidString, image.jpegData)

namespace OwnUploads

theorem save (h : c.OwnUploads) (k : StateControllerSheet) (code : Int) (sheet : Sheet)
    : (c.update (k, [.saveSheet code sheet])).OwnUploads := by
  intro u hu
  simp only [update, List.foldl_cons, List.foldl_nil, perform, refresh_saved, refresh_uploads,
    List.mem_append, Option.mem_toList, List.mem_cons] at hu ⊢
  rcases hu with hu | hu
  . obtain ⟨x, hx, hupload⟩ := h u hu
    exact ⟨x, .inr hx, hupload⟩
  . exact ⟨sheet, .inl rfl, StorageControllerSheet.saveSheet_snd_eq_some.1 hu⟩

theorem next (h : c.OwnUploads) (hnext : Next c a c') : c'.OwnUploads := by
  cases hnext with
  | timeOut => exact h.save _ _ _
  | handIn =>
    have hdone : OwnUploads { c with isDone := true } := h
    exact hdone.save _ _ _
  | _ => simpa [OwnUploads, update, perform] using h

end OwnUploads

end SheetClient

/-! # What is shown and what is read as a reference -/

/-- The reference of a round is of the other kind, and is shown in the view that asks for it. -/
theorem getInteractView_reference {c : StateControllerSheet} {sheet : Sheet} {n : Int}
    (href : c.referenceSheet = some sheet) (hkind : SheetMachine.kind sheet = SheetMachine.activity (n - 1))
    (hview : c.shownView = SheetMachine.activity n)
    : (∃ guess, sheet.content = .guess guess ∧ getInteractView c = .drawingView c.canvasView guess)
        ∨
      (∃ drawing, sheet.content = .drawing drawing ∧ getInteractView c = .guessingView c.guess drawing) := by
  obtain ⟨id, author, number, content⟩ := sheet
  unfold getInteractView StateControllerSheet.getReferenceSheetContentString
    StateControllerSheet.getReferenceSheetContentImage
  rw [href, hview]
  unfold SheetMachine.activity SheetMachine.kind at *
  by_cases heven : n % 2 = 0
  . have hodd : (n - 1) % 2 ≠ 0 := by omega
    cases content with
    | guess guess => exact .inl ⟨guess, rfl, by simp [heven]⟩
    | drawing drawing => simp [hodd] at hkind
  . have hprev : (n - 1) % 2 = 0 := by omega
    cases content with
    | guess guess => simp [hprev] at hkind
    | drawing drawing => exact .inr ⟨drawing, rfl, by simp [heven]⟩

theorem mem_readReferenceSheet {images : Images} {n authorNum : Int} {authorId : UUID} {x : Sheet}
    {out : List Sheet}
    (himages : ∀ image, x.content = .drawing image →
      ∀ data ∈ images.getData (drawingPath x.id.uuidString) imageMaxSize, data = image.jpegData)
    (h : StorageControllerSheet.readReferenceSheet images n authorNum authorId x.id.uuidString
      (sheetDict x.author.number x.content) = some out)
    : ∀ y ∈ out,
        y.id = x.id ∧ x.author.number = authorNum ∧ y.author.number = authorNum
          ∧ y.number = n ∧ y.content = x.content := by
  unfold StorageControllerSheet.readReferenceSheet at h
  simp only [asDictionary_sheetDict, get_authorNum_sheetDict, toInt, asInt_leaf, Option.getD_some,
    true_and] at h
  intro y hy
  split at h
  . next hauthor =>
    unfold StorageController.getSheet at h
    cases hc : x.content with
    | guess content =>
      have hstring : asString ((sheetDict x.author.number (.guess content)).get [SheetKeys.content.rawValue])
          = some content := rfl
      simp only [hc, hstring, UUID.ofString?_uuidString, Option.bind_eq_bind, Option.bind_some,
        Option.pure_def, Option.some.injEq] at h
      subst h
      rw [List.mem_singleton] at hy
      subst hy
      exact ⟨rfl, hauthor, rfl, rfl, rfl⟩
    | drawing image =>
      have hstring : asString ((sheetDict x.author.number (.drawing image)).get [SheetKeys.content.rawValue])
          = none := rfl
      simp only [hc, hstring, UUID.ofString?_uuidString, Option.bind_eq_bind, Option.bind_some,
        Option.pure_def, Option.some.injEq] at h
      subst h
      unfold StorageController.getDrawingSheet at hy
      split at hy
      . next data hdata =>
        rw [List.mem_singleton] at hy
        subst hy
        rw [himages image hc data hdata]
        exact ⟨rfl, hauthor, rfl, rfl, rfl⟩
      . simp at hy
  . rw [Option.some.injEq] at h
    subst h
    simp at hy

/-- A reference that is read is a sheet that is stored. -/
theorem record_of_mem_getReferenceSheet {o : IterationOrder} {db : Database} {images : Images}
    {code n authorNum : Int} {authorId : UUID} {sheets out : List Sheet} (hs : Stored db code sheets)
    (himages : ∀ x ∈ sheets, ∀ image, x.content = .drawing image →
      ∀ data ∈ images.getData (drawingPath x.id.uuidString) imageMaxSize, data = image.jpegData)
    (h : StorageControllerSheet.getReferenceSheet o db images code n authorNum authorId = some out)
    : ∀ y ∈ out, ∃ x ∈ sheets, x.record = y.record := by
  unfold StorageControllerSheet.getReferenceSheet at h
  dsimp only at h
  intro y hy
  split at h
  . next keys hkeys =>
    simp only [Option.bind_eq_bind, Option.bind_eq_some_iff, Option.pure_def, Option.some.injEq] at h
    obtain ⟨reads, hreads, rfl⟩ := h
    rw [List.mem_flatten] at hy
    obtain ⟨read, hread, hy⟩ := hy
    obtain ⟨key, hkey, hread⟩ := List.mem_of_mapM hreads read hread
    rw [(o.perm keys).mem_iff, asDictionary_eq_some hkeys, hs.mem_sheet] at hkey
    obtain ⟨x, hx, rfl, rfl⟩ := hkey
    rw [PathTree.get_get, ← sheetPath, hs.get_sheet x hx] at hread
    obtain ⟨hid, hauthor, hauthor', hnumber, hcontent⟩ :=
      mem_readReferenceSheet (himages x hx) hread y hy
    refine ⟨x, hx, ?_⟩
    rw [Sheet.record_inj]
    exact ⟨hid.symm, hauthor.trans hauthor'.symm, hnumber.symm, hcontent.symm⟩
  . rw [Option.some.injEq] at h
    subst h
    simp at hy

/-- One sheet of a round is by a player, and it is read whatever the order of the round's sheets is. -/
theorem getReferenceSheet_board {o : IterationOrder} {db : Database} {images : Images}
    {code numOfPlayers : Int} {b : Board} (hrep : Board.Represents db code b)
    (hb : b.OncePerRound numOfPlayers) (himages : Downloadable images b.sheets) {x : Sheet}
    (hx : x ∈ b.sheets) (authorId : UUID)
    : StorageControllerSheet.getReferenceSheet o db images code x.number x.author.number authorId
        =
      some [⟨x.id, { id := authorId, number := x.author.number }, x.number, x.content⟩] := by
  have hmem : ∀ y, y ∈ b.sheets.dedup ↔ y ∈ b.sheets := fun _ => List.mem_dedup
  have hids : (b.sheets.dedup.map Sheet.id).Nodup := by
    apply List.Nodup.map_on _ (List.nodup_dedup _)
    intro y hy z hz hid
    exact hb.ids y ((hmem y).1 hy) z ((hmem z).1 hz) hid
  have hone : ((b.sheets.dedup.filter fun y => y.number = x.number).filter fun y =>
      y.author.number = x.author.number).Perm [x] := by
    rw [List.perm_ext_iff_of_nodup (((List.nodup_dedup _).filter _).filter _) (List.nodup_singleton x)]
    intro y
    simp only [List.mem_filter, hmem, decide_eq_true_eq, List.mem_singleton]
    constructor
    . rintro ⟨⟨hy, hnumber⟩, hauthor⟩
      exact hb.once y hy x hx hnumber hauthor
    . rintro rfl
      exact ⟨⟨hx, rfl⟩, rfl⟩
  obtain ⟨out, hout, hperm⟩ := getReferenceSheet_stored o (hrep.stored.of_mem_iff hmem) hids
    (fun y hy => himages y ((hmem y).1 hy)) x.number x.author.number authorId
  have hout' := List.perm_singleton.1 (hperm.trans (hone.map _))
  rw [hout, hout']

namespace Play

variable {ι : Type} [Fintype ι] [DecidableEq ι] {T : Table ι} {s t : Play ι} {a : Action ι}

/-- A sheet that some device has saved. -/
def Recorded (s : Play ι) (x : Sheet) : Prop := ∃ j, ∃ y ∈ (s.clients j).saved, y.record = x.record

/-- What is found under the name of a sheet is what was uploaded under it. -/
def Genuine (s : Play ι) (images : Images) : Prop :=
  ∀ j, ∀ x ∈ (s.clients j).saved,
    ∀ data ∈ images.getData (drawingPath x.id.uuidString) imageMaxSize,
      ∃ k, (drawingPath x.id.uuidString, data) ∈ (s.clients k).uploads

instance (s : Play ι) (images : Images) : Decidable (s.Genuine images) :=
  inferInstanceAs (Decidable (∀ j, ∀ x ∈ (s.clients j).saved,
    ∀ data ∈ images.getData (drawingPath x.id.uuidString) imageMaxSize,
      ∃ k, (drawingPath x.id.uuidString, data) ∈ (s.clients k).uploads))

/-- The device handles replies in the round of their requests, and reads images as they were uploaded. -/
def TimelyReads (i : ι) (s : Play ι) : Action ι → Prop
  | .device j (.answer _ _ _ images _) => j = i → s.Genuine images
  | .device j (.reply k) => j = i → (s.clients j).Timely (.reply k)
  | _ => True

instance (i : ι) (s : Play ι) (a : Action ι) : Decidable (TimelyReads i s a) := by
  unfold TimelyReads
  induction a using Action.casesOn with
  | device j a => induction a using SheetClient.Input.casesOn <;> infer_instance
  | _ => infer_instance

theorem saved_of_step (hstep : s.step T a = some t) (j : ι)
    : ∀ x ∈ (s.clients j).saved, x ∈ (t.clients j).saved := by
  intro x hx
  rcases clients_of_step hstep j with ⟨ws, heq⟩ | ⟨b, hb⟩
  . rw [heq]
    exact hx
  . rcases (SheetClient.core_step hb).saves with ⟨newId, content, -, hk⟩ | ⟨hsaved, -⟩
    . have hx' : x ∈ (t.clients j).core.saved := by
        rw [hk]
        exact List.mem_cons_of_mem _ hx
      exact hx'
    . have hx' : x ∈ (t.clients j).core.saved := by
        rw [hsaved]
        exact hx
      exact hx'

omit [Fintype ι] [DecidableEq ι] in
theorem Recorded.mono {x : Sheet} (h : s.Recorded x)
    (hsaved : ∀ j, ∀ x ∈ (s.clients j).saved, x ∈ (t.clients j).saved)
    : t.Recorded x := by
  obtain ⟨j, y, hy, hrecord⟩ := h
  exact ⟨j, y, hsaved j y hy, hrecord⟩

variable (T) in
structure PromptInv (i : ι) (s : Play ι) : Prop where
  sheets : ∃ b, SheetsInv T s b
  uploads : ∀ j, (s.clients j).OwnUploads
  reference : (s.clients i).summary = none →
    SheetClient.ReferenceInv (T.numOfPlayers i) (T.player i).number (s.clients i)
  shown : (s.clients i).summary = none → SheetClient.ShownInv s.Recorded (s.clients i)

namespace PromptInv

variable {i : ι}

omit [Fintype ι] [DecidableEq ι] in
theorem fresh (hs : Fresh T s) : PromptInv T i s := by
  have hrequests : (T.create i).requests = [] := rfl
  have hreplies : (T.create i).replies = [] := rfl
  have huploads : ∀ j, (T.create j).uploads = [] := fun _ => rfl
  have href : (T.create i).controller.referenceSheet = none := rfl
  refine ⟨SheetsInv.fresh hs, ?_, ?_, ?_⟩
  . intro j
    rw [hs.clients]
    simp [SheetClient.OwnUploads, huploads]
  . intro _
    rw [hs.clients]
    exact ⟨rfl, rfl, by simp [hrequests], by simp [hreplies], by simp [SheetClient.ReferenceOfRound, href]⟩
  . intro _
    rw [hs.clients]
    exact ⟨by simp [hreplies], by simp [href]⟩

omit [Fintype ι] [DecidableEq ι] in
/-- A device that asks for a reference gets a sheet that was saved. -/
theorem recorded_of_read (h : PromptInv T i s) {o : IterationOrder} {images : Images}
    {authorId : UUID} (himages : s.Genuine images) {r : Int × Int} {out : List Sheet}
    (hout : StorageControllerSheet.getReferenceSheet o s.db images (s.clients i).controller.gameSettings.code
      r.1 r.2 authorId = some out)
    : ∀ x ∈ out, s.Recorded x := by
  obtain ⟨b, hb⟩ := h.sheets
  rw [show (s.clients i).controller.gameSettings = _ from (hb.seated i).gameSettings] at hout
  intro x hx
  obtain ⟨y, hy, hrecord⟩ := record_of_mem_getReferenceSheet hb.represents.stored
    (by
      intro z hz image hcontent data hdata
      obtain ⟨j, hj⟩ := hb.stored z hz
      obtain ⟨k, hk⟩ := himages j z hj data hdata
      obtain ⟨z', hz', image', hcontent', hupload⟩ := h.uploads k _ hk
      rw [Prod.mk.injEq, drawingPath_inj, UUID.uuidString_inj] at hupload
      obtain rfl := hb.ids j k z hj z' hz' hupload.1
      rw [hcontent, Content.drawing.injEq] at hcontent'
      rw [hupload.2, hcontent'])
    hout x hx
  obtain ⟨j, hj⟩ := hb.stored y hy
  exact ⟨j, y, hj, hrecord⟩

theorem uploads_step (h : PromptInv T i s) (hstep : s.step T a = some t) (j : ι)
    : (t.clients j).OwnUploads := by
  rcases clients_of_step hstep j with ⟨ws, heq⟩ | ⟨b, hb⟩
  . rw [heq]
    exact h.uploads j
  . exact (h.uploads j).next (SheetClient.next_of_step hb)

theorem step (h : PromptInv T i s) (hok : TimelyReads i s a) (hstep : s.step T a = some t)
    : PromptInv T i t := by
  obtain ⟨b, hb⟩ := h.sheets
  have hmono : ∀ x, s.Recorded x → t.Recorded x := fun x hx => hx.mono (saved_of_step hstep)
  have hself : (∃ ws, t.clients i = { s.clients i with outbox := ws }) ∨
      ∃ d, SheetClient.Next (s.clients i) d (t.clients i) ∧ a = .device i d ∧ s.Admissible T i d := by
    rcases step_cases hstep with ⟨j, d, c, rfl, hadmissible, hc, -, hclients⟩ | hout
    . by_cases hj : j = i
      . subst hj
        rw [hclients, Function.update_self]
        exact .inr ⟨d, SheetClient.next_of_step hc, rfl, hadmissible⟩
      . refine .inl ⟨(s.clients i).outbox, ?_⟩
        rw [hclients, Function.update_of_ne (Ne.symm hj)]
    . exact .inl (hout i)
  refine ⟨hb.step hstep, h.uploads_step hstep, ?_, ?_⟩
  all_goals
    intro hsummary
    rcases hself with ⟨ws, heq⟩ | ⟨d, hnext, rfl, hadmissible⟩
  . rw [heq] at hsummary ⊢
    exact (h.reference hsummary).congr rfl rfl rfl
  . apply (h.reference (hnext.summary_eq_none hsummary)).next _ hnext
    apply SheetClient.timely_of_next hnext hsummary
    rintro k rfl
    exact hok rfl
  . rw [heq] at hsummary ⊢
    exact ((h.shown hsummary).mono hmono).congr rfl rfl
  . apply ((h.shown (hnext.summary_eq_none hsummary)).next hsummary _ hnext).mono hmono
    rintro k o db images authorId rfl r - out hout
    obtain rfl : db = s.db := hadmissible
    exact h.recorded_of_read (hok rfl) hout

end PromptInv

theorem view_of_run {init : Play ι → Prop} {ok : Play ι → Action ι → Prop}
    {hist : List (Play ι × Action ι)} (hinit : ∀ s, init s → ∀ i, s.clients i = T.create i)
    (hrun : (system T init).Run ok hist s) {i : ι} (hsummary : (s.clients i).summary = none)
    (hview : (s.clients i).controller.shownView ≠ .getReady)
    : (s.clients i).controller.shownView = SheetMachine.activity (s.clients i).controller.roundNum := by
  obtain ⟨hist', m, hrun', hm⟩ := exists_machine hinit hrun i
  have hmoved := hm.moved_eq hsummary
  rw [← hm.controller] at hview ⊢
  exact (kindInv_of_run hrun').view hmoved hview

/--
In every round but the first, a device whose replies come in time shows the very sheet that the
player before it in the chain has saved in the round before: the words to draw, or the drawing to
guess. As long as no reply has come it has no reference.
-/
theorem prompt_of_timelyReads (T : Table ι) (hist : List (Play ι × Action ι)) (s : Play ι)
    (i : ι) (hrun : (system T (Fresh T)).Run (TimelyReads i) hist s)
    (hsummary : (s.clients i).summary = none) (hround : 2 ≤ (s.clients i).controller.roundNum)
    (hview : (s.clients i).controller.shownView ≠ .getReady)
    : (s.clients i).controller.referenceSheet = none
        ∨
      ∃ j, ∃ x ∈ (s.clients j).saved,
        StateControllerSheet.getAuthorNumToGetRefSheet (T.numOfPlayers i) (T.player i).number
            = some (T.player j).number
          ∧ x.number = (s.clients i).controller.roundNum - 1
          ∧ ((∃ guess, x.content = .guess guess
                ∧ getInteractView (s.clients i).controller
                    = .drawingView (s.clients i).controller.canvasView guess)
              ∨
            (∃ drawing, x.content = .drawing drawing
                ∧ getInteractView (s.clients i).controller
                    = .guessingView (s.clients i).controller.guess drawing)) := by
  have h : PromptInv T i s := by
    apply hrun.invariant
    . intro s hs
      exact .fresh hs
    . intro s a t hs hok hstep
      exact hs.step hok hstep
  cases href : (s.clients i).controller.referenceSheet with
  | none => exact .inl rfl
  | some sheet =>
    right
    obtain ⟨b, hb⟩ := h.sheets
    obtain ⟨hnumber, hauthor⟩ := (h.reference hsummary).reference hround sheet href
    obtain ⟨j, x, hx, hrecord⟩ := (h.shown hsummary).reference hround sheet href
    obtain ⟨-, hauthor', hnumber', hcontent⟩ := Sheet.record_inj.1 hrecord
    refine ⟨j, x, hx, ?_, hnumber'.trans hnumber, ?_⟩
    . rw [hauthor, ← hauthor', hb.author j x hx]
    . have hkind := kind_of_mem_saved (fun s hs => hs.clients) hrun hx
      have hshown := view_of_run (fun s hs => hs.clients) hrun hsummary hview
      rw [hnumber', hnumber] at hkind
      rw [hcontent]
      have hkind : SheetMachine.kind sheet
          = SheetMachine.activity ((s.clients i).controller.roundNum - 1) := by
        unfold SheetMachine.kind at hkind ⊢
        rwa [← hcontent]
      exact getInteractView_reference href hkind hshown

def writeFirst : List (Action Bool) :=
  openSheet false 10 ++ openSheet true 20
    ++ [.device false .appear, .device false (.type "cat"), .device false (.done (.ofNat 40)),
      .device true (.done (.ofNat 41)), .process false, .process true,
      .device false (.raiseRoundSheets 1 2), .device false (.deliverRoundSheets 1), .process false]

def afterFirst : Database :=
  applyAll [.sheet 123456 ⟨.ofNat 40, duoTable.player false, 1, .guess "cat"⟩,
    .sheet 123456 ⟨.ofNat 41, duoTable.player true, 1, .guess ""⟩, .roundNum 123456 2] duo.db

def drawSecond : List (Action Bool) :=
  [.device true (.raiseRoundNum 2), .device true .deliverRoundNum, .device true .appear,
    .device true (.tick (.ofNat 60)),
    .device true (.answer 0 .listed afterFirst (fun _ => none) (.ofNat 61)),
    .device true (.reply 0)] ++ ticks true 62 3

theorem prompt_of_timelyReads_cat
    : ∃ s : Play Bool,
        getInteractView (s.clients true).controller = .drawingView .blank "cat"
          ∧
        ∃ j, ∃ x ∈ (s.clients j).saved, x.number = 1 ∧ x.content = .guess "cat" := by
  obtain ⟨hist, s, hrun, hshown, hsummary, hround, hview, href⟩ := TransitionSystem.exists_run_of_exec
    (TimelyReads true) (S := system duoTable (Fresh duoTable))
    (P := fun _ s => getInteractView (s.clients true).controller = .drawingView .blank "cat"
      ∧ (s.clients true).summary = none
      ∧ (s.clients true).controller.roundNum = 2
      ∧ (s.clients true).controller.shownView ≠ .getReady
      ∧ (s.clients true).controller.referenceSheet ≠ none)
    playing_duo.fresh (writeFirst ++ drawSecond) (by decide +kernel)
  refine ⟨s, hshown, ?_⟩
  rcases prompt_of_timelyReads duoTable hist s true hrun hsummary hround.ge hview with
    hnone | ⟨j, x, hx, -, hnumber, ⟨guess, hcontent, hguess⟩ | ⟨drawing, -, hdrawing⟩⟩
  . exact absurd hnone href
  . rw [hshown, InteractView.drawingView.injEq] at hguess
    exact ⟨j, x, hx, by omega, by rw [hcontent, hguess.2]⟩
  . rw [hshown] at hdrawing
    contradiction

/-! # Requests are answered -/

variable {host : ι} {numOfPlayers : Int} {b : Board}

variable (T) in
/-- A device asks for sheets of rounds before its own, of which there is another one to come. -/
def Asked (s : Play ι) : Prop :=
  ∀ i, ∀ r ∈ (s.clients i).requests,
    1 ≤ r.1 ∧ r.1 + 1 ≤ T.numOfRounds i ∧ r.1 < (s.core i).roundNum
      ∧ StateControllerSheet.getAuthorNumToGetRefSheet (T.numOfPlayers i) (T.player i).number = some r.2

theorem roundNum_le_step (h : PlayInv T host numOfPlayers s b) (hstep : s.step T a = some t) (i : ι)
    : (s.core i).roundNum ≤ (t.core i).roundNum := by
  rcases clients_of_step hstep i with ⟨ws, heq⟩ | ⟨c, hc⟩
  . rw [core, core, heq]
    exact le_refl _
  . exact (SheetClient.core_step hc).roundNum_le (h.ascending i)

theorem summary_of_timer {init : Play ι → Prop} {ok : Play ι → Action ι → Prop}
    {hist : List (Play ι × Action ι)} (hinit : ∀ s, init s → ∀ i, s.clients i = T.create i)
    (hrun : (system T init).Run ok hist s) {i : ι} (htimer : (s.clients i).timer = true)
    : (s.clients i).summary = none := by
  obtain ⟨hist', m, hrun', hm⟩ := exists_machine hinit hrun i
  have hmoved := (kindInv_of_run hrun').timer (by rw [hm.timer, htimer])
  rw [hm.moved] at hmoved
  simpa using hmoved

theorem Asked.step {hist : List (Play ι × Action ι)} {init : Play ι → Prop} (h : Asked T s)
    (hplay : PlayInv T host numOfPlayers s b) (hinit : ∀ s, init s → ∀ i, s.clients i = T.create i)
    (hrun : (system T init).Run NoForce hist s) (hstep : s.step T a = some t)
    : Asked T t := by
  intro i r hr
  have hle := roundNum_le_step hplay hstep i
  rcases clients_of_step hstep i with ⟨ws, heq⟩ | ⟨c, hc⟩
  . rw [heq] at hr
    obtain ⟨h₁, h₂, h₃, h₄⟩ := h i r hr
    exact ⟨h₁, h₂, by omega, h₄⟩
  . rcases (SheetClient.next_of_step hc).mem_requests hr with hr | ⟨htimer, hround, hr, hauthor, -⟩
    . obtain ⟨h₁, h₂, h₃, h₄⟩ := h i r hr
      exact ⟨h₁, h₂, by omega, h₄⟩
    . -- The timer runs until the device gets to the summary.
      have hsummary := summary_of_timer hinit hrun htimer
      have hround : 1 < (s.core i).roundNum := hround
      have hr : r.1 = (s.core i).roundNum - 1 := hr
      have hin := (hplay.inRange i).roundNum (by simp [core, SheetClient.core, hsummary])
      rw [(hplay.seated i).numOfRounds] at hin
      have hplayers : (s.clients i).controller.numOfPlayers = _ := (hplay.seated i).numOfPlayers
      have hplayer : (s.clients i).controller.player = _ := (hplay.seated i).player
      rw [hplayers, hplayer] at hauthor
      exact ⟨by omega, by omega, by omega, hauthor⟩

theorem Asked.run {hist : List (Play ι × Action ι)} (hroster : T.FixedRoster host numOfPlayers)
    (hmax : 1 ≤ T.gameSettings.maxNumOfRounds)
    (hrun : (system T (Numbered T numOfPlayers)).Run NoForce hist s)
    : Asked T s := by
  have hboth : (system T (Numbered T numOfPlayers)).Run NoForce hist s ∧ Asked T s := by
    apply hrun.induct (I := fun hist s => (system T (Numbered T numOfPlayers)).Run NoForce hist s ∧ Asked T s)
    . intro s hs
      refine ⟨.init hs, ?_⟩
      intro i r hr
      rw [hs.playing.clients, show (T.create i).requests = [] from rfl] at hr
      simp at hr
    . rintro hist s a t ⟨hrun, h⟩ hok hstep
      obtain ⟨b, hplay, -⟩ := PlayInv.run (fun _ hs => hs.playing) hroster hmax hrun
      exact ⟨hrun.step hok hstep, h.step hplay (fun _ hs => hs.playing.clients) hrun hstep⟩
  exact hboth.2

theorem getAuthorNumToGetRefSheet_ne {playerNum : Int} (htwo : 2 ≤ numOfPlayers)
    (hplayer : 1 ≤ playerNum ∧ playerNum ≤ numOfPlayers)
    : StateControllerSheet.getAuthorNumToGetRefSheet numOfPlayers playerNum ≠ some playerNum := by
  unfold StateControllerSheet.getAuthorNumToGetRefSheet
  rw [remainder_of_nonneg (by omega) (by omega)]
  simp only [Option.bind_eq_bind, Option.bind_some, Option.pure_def, ne_eq, Option.some.injEq]
  rcases lt_trichotomy (playerNum + 1) numOfPlayers with hlt | heq | hgt
  . rw [Int.emod_eq_of_lt (by omega) hlt]
    split <;> omega
  . rw [heq, Int.emod_self]
    simp only [if_true]
    omega
  . obtain rfl : playerNum = numOfPlayers := by omega
    rw [Int.add_emod_left, Int.emod_eq_of_lt (by omega) (by omega)]
    simp only [one_ne_zero, if_false]
    omega

/--
In ordinary play a request for a reference is always answered with one sheet, in whatever order the
database lists the sheets of the round and whenever it answers: the sheet that the player whose turn
it was has handed in.
-/
theorem reference_answered (T : Table ι) (host : ι) (numOfPlayers : Int)
    (hroster : T.FixedRoster host numOfPlayers) (hmax : 1 ≤ T.gameSettings.maxNumOfRounds)
    (hist : List (Play ι × Action ι)) (s : Play ι)
    (hrun : (system T (Numbered T numOfPlayers)).Run NoForce hist s)
    (i : ι) (r : Int × Int) (hr : r ∈ (s.clients i).requests) (o : IterationOrder) (images : Images)
    (himages : ∀ j, ∀ u ∈ (s.clients j).uploads, images.getData u.1 imageMaxSize = some u.2)
    (authorId : UUID)
    : ∃ j, ∃ x ∈ (s.clients j).saved,
        StateControllerSheet.getAuthorNumToGetRefSheet (T.numOfPlayers i) (T.player i).number
            = some (T.player j).number
          ∧ x.number = r.1
          ∧ StorageControllerSheet.getReferenceSheet o s.db images T.code r.1 r.2 authorId
              =
            some [⟨x.id, { id := authorId, number := (T.player j).number }, r.1, x.content⟩] := by
  obtain ⟨b, h, -⟩ := PlayInv.run (fun _ hs => hs.playing) hroster hmax hrun
  obtain ⟨hsame, hpos, -, hle⟩ := rounds_of_roster hroster hmax i
  obtain ⟨hlow, hlast, hpast, hauthor⟩ := (Asked.run hroster hmax hrun) i r hr
  rw [hroster.num_players] at hauthor ⊢
  -- There is a second round, so that the author is another player.
  have hother := getAuthorNumToGetRefSheet_ne (by omega) (hroster.number i)
  obtain ⟨authorNum, hauthor', hbounds⟩ := StateControllerSheet.getAuthorNumToGetRefSheet_bounds hpos
    (show 0 ≤ (T.player i).number by have := hroster.number i; omega)
  rw [hauthor, Option.some.injEq] at hauthor'
  have hseen := (h.ascending i).le
  obtain ⟨x, hx, hnum, hround⟩ := h.complete_view i r.1 hlow (by omega) r.2
    (by omega) (by omega)
  have hstored : x ∈ b.sheets := by
    rw [Board.mem_applyAll_sheets] at hx
    rcases hx with hx | ⟨code, hx⟩
    . exact hx
    . rcases h.outbox i _ hx with ⟨y, hy, heq⟩ | ⟨-, v, heq⟩
      . rw [Write.sheet.injEq] at heq
        rw [heq.2, (h.own i).author y hy, (h.seated i).player] at hnum
        rw [hauthor, ← hnum] at hother
        contradiction
      . contradiction
  obtain ⟨j, hj⟩ := h.stored x hstored
  have hplayer : x.author.number = (T.player j).number := by
    rw [(h.own j).author x hj, (h.seated j).player]
  have hdownloadable := (OutcomeInv.run hrun).downloadable h.stored himages
  refine ⟨j, x, hj, ?_, hround, ?_⟩
  . rw [hauthor, ← hnum, hplayer]
  . rw [← hround, ← hnum, getReferenceSheet_board h.represents (h.oncePerRound hroster h.stored)
      hdownloadable hstored, hplayer]

theorem reference_answered_cat
    : ∃ (s : Play Bool) (j : Bool), ∃ x ∈ (s.clients j).saved,
        (s.clients true).requests = [(1, 1)]
          ∧ x.number = 1
          ∧ StorageControllerSheet.getReferenceSheet .listed s.db (fun _ => none) 123456 1 1 (.ofNat 61)
              =
            some [⟨x.id, { id := .ofNat 61, number := (duoTable.player j).number }, 1, x.content⟩] := by
  obtain ⟨hist, s, hrun, hrequests, himages⟩ := TransitionSystem.exists_run_of_exec NoForce
    (S := system duoTable (Numbered duoTable 2))
    (P := fun _ s => (s.clients true).requests = [(1, 1)]
      ∧ ∀ j, ∀ u ∈ (s.clients j).uploads, Images.getData (fun _ => none) u.1 imageMaxSize = some u.2)
    numbered_duo (writeFirst ++ drawSecond.take 4) (by decide +kernel)
  obtain ⟨j, x, hx, -, hnumber, hread⟩ := reference_answered duoTable false 2 fixedRoster_duoTable
    (by decide) hist s hrun true (1, 1) (by simp [hrequests]) .listed _ himages (.ofNat 61)
  exact ⟨s, j, x, hx, hrequests, hnumber, hread⟩

end Play

end SCatCh
