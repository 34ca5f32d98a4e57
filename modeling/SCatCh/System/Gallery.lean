import SCatCh.Lib.TransitionSystem
import SCatCh.Storage.RoundTrip

/-!
This module contains the sheets of one game on their way into the two stores. A client sends its
writes to the database in order, and the uploads to Storage finish at any time and in any order.
-/

namespace SCatCh

structure Gallery (ι : Type) where
  db : Database
  images : Images
  -- The writes of each client that have not taken effect.
  outbox : ι → List Write
  -- The uploads that are not finished.
  uploads : List (String × List UInt8)
  saved : List Sheet

namespace Gallery

variable {ι : Type} [DecidableEq ι]

inductive Action (ι : Type) where
  | saveSheet (i : ι) (sheet : Sheet)
  | process (i : ι)
  | upload (k : Nat)

/-- A sheet has a new identifier, and its author is one of the players. -/
def step (code numOfPlayers : Int) (s : Gallery ι) : Action ι → Option (Gallery ι)
  | .saveSheet i sheet =>
    if sheet.id ∉ s.saved.map Sheet.id ∧ 1 ≤ sheet.author.number
        ∧ sheet.author.number ≤ numOfPlayers ∧ 0 ≤ sheet.number then
      let (write, upload) := StorageControllerSheet.saveSheet code sheet
      some { s with
        outbox := Function.update s.outbox i (s.outbox i ++ [write])
        uploads := s.uploads ++ upload.toList
        saved := sheet :: s.saved }
    else
      none
  | .process i =>
    match s.outbox i with
    | write :: writes => some { s with
        db := write.apply s.db
        outbox := Function.update s.outbox i writes }
    | [] => none
  | .upload k =>
    match s.uploads[k]? with
    | some upload => some { s with
        images := s.images.putData upload
        uploads := s.uploads.eraseIdx k }
    | none => none

structure Init (code numOfPlayers : Int) (s : Gallery ι) : Prop where
  rounds : s.db.get (roundsPath code) = .empty
  roster : Roster s.db code numOfPlayers
  outbox : ∀ i, s.outbox i = []
  uploads : s.uploads = []
  saved : s.saved = []

def system (code numOfPlayers : Int) : TransitionSystem (Gallery ι) (Action ι) where
  init := Init code numOfPlayers
  step := step code numOfPlayers

/-- An image can be downloaded, and an entry is written only after its image has been stored. -/
def UploadFirst (s : Gallery ι) : Action ι → Prop
  | .saveSheet _ sheet =>
    match sheet.content with
    | .drawing image => image.jpegData.length ≤ imageMaxSize
    | .guess _ => True
  | .process i =>
    match (s.outbox i).head? with
    | some (.sheet _ sheet) => drawingPath sheet.id.uuidString ∉ s.uploads.map Prod.fst
    | _ => True
  | .upload _ => True

instance (s : Gallery ι) (a : Action ι) : Decidable (UploadFirst s a) := by
  unfold UploadFirst
  split
  . split <;> infer_instance
  . split <;> infer_instance
  . infer_instance

/-- An entry with an author and no content. -/
def DrawingEntry (db : Database) (code roundNum : Int) (key : String) : Prop :=
  (asInt (db.get (roundPath code roundNum ++ [key, SheetKeys.authorNum.rawValue]))).isSome = true
    ∧
  asString (db.get (roundPath code roundNum ++ [key, SheetKeys.content.rawValue])) = none

instance (db : Database) (code roundNum : Int) (key : String)
    : Decidable (DrawingEntry db code roundNum key) :=
  inferInstanceAs (Decidable (_ ∧ _))

/-- The image of every drawing entry is there, and a summary read hands on every drawing. -/
structure Readable (code : Int) (s : Gallery ι) : Prop where
  image : ∀ roundNum key, DrawingEntry s.db code roundNum key →
    (s.images (drawingPath key)).isSome = true
  summary : ∀ o, ∃ out,
    StorageControllerSummary.getAllSheets o s.db s.images code = some out
      ∧
    ∀ roundNum key, DrawingEntry s.db code roundNum key →
      ∃ sheet ∈ out, sheet.id.uuidString = key ∧ ∃ image, sheet.content = .drawing image

/-! # The invariant -/

def HasImage (images : Images) (sheet : Sheet) : Prop :=
  ∀ image, sheet.content = .drawing image →
    images (drawingPath sheet.id.uuidString) = some image.jpegData

structure Inv (code numOfPlayers : Int) (s : Gallery ι) (sheets : List Sheet) : Prop where
  roster : Roster s.db code numOfPlayers
  stored : Stored s.db code sheets
  ids : (s.saved.map Sheet.id).Nodup
  saved : ∀ sheet ∈ s.saved,
    (1 ≤ sheet.author.number ∧ sheet.author.number ≤ numOfPlayers) ∧ 0 ≤ sheet.number
  size : ∀ sheet ∈ s.saved, ∀ image, sheet.content = .drawing image →
    image.jpegData.length ≤ imageMaxSize
  stored_saved : ∀ sheet ∈ sheets, sheet ∈ s.saved
  pending : ∀ i, ∀ w ∈ s.outbox i, ∃ sheet ∈ s.saved, w = .sheet code sheet
  uploads : ∀ u ∈ s.uploads, ∃ sheet ∈ s.saved, (StorageControllerSheet.saveSheet code sheet).2 = some u
  image : ∀ sheet ∈ sheets, HasImage s.images sheet
  image_or_upload : ∀ sheet ∈ s.saved,
    HasImage s.images sheet ∨ drawingPath sheet.id.uuidString ∈ s.uploads.map Prod.fst

variable {code numOfPlayers : Int} {s t : Gallery ι} {sheets : List Sheet}

omit [DecidableEq ι] in
theorem Inv.init (h : Init code numOfPlayers s) : Inv code numOfPlayers s [] where
  roster := h.roster
  stored := Stored.of_empty h.rounds
  ids := by simp [h.saved]
  saved := by simp [h.saved]
  size := by simp [h.saved]
  stored_saved := by simp
  pending := by simp [h.outbox]
  uploads := by simp [h.uploads]
  image := by simp
  image_or_upload := by simp [h.saved]

theorem Inv.saveSheet (h : Inv code numOfPlayers s sheets) {i : ι} {sheet : Sheet}
    (hok : UploadFirst s (.saveSheet i sheet))
    (hstep : step code numOfPlayers s (.saveSheet i sheet) = some t)
    : Inv code numOfPlayers t sheets := by
  simp only [step] at hstep
  split at hstep
  . next hguard =>
    obtain ⟨hid, hlow, hhigh, hnumber⟩ := hguard
    rw [Option.some.injEq] at hstep
    subst hstep
    exact {
      roster := h.roster
      stored := h.stored
      ids := by
        rw [List.map_cons, List.nodup_cons]
        exact ⟨hid, h.ids⟩
      saved := by
        intro sheet' hmem
        rw [List.mem_cons] at hmem
        rcases hmem with rfl | hmem
        . exact ⟨⟨hlow, hhigh⟩, hnumber⟩
        . exact h.saved sheet' hmem
      size := by
        intro sheet' hmem image himage
        rw [List.mem_cons] at hmem
        rcases hmem with rfl | hmem
        . simpa [UploadFirst, himage] using hok
        . exact h.size sheet' hmem image himage
      stored_saved := by
        intro sheet' hmem
        exact List.mem_cons_of_mem _ (h.stored_saved sheet' hmem)
      pending := by
        intro j w hw
        dsimp only at hw
        by_cases hj : j = i
        . subst hj
          rw [Function.update_self, List.mem_append, List.mem_singleton] at hw
          rcases hw with hw | rfl
          . obtain ⟨sheet', hmem, rfl⟩ := h.pending j w hw
            exact ⟨sheet', List.mem_cons_of_mem _ hmem, rfl⟩
          . exact ⟨sheet, by simp, StorageControllerSheet.saveSheet_fst code sheet⟩
        . rw [Function.update_of_ne hj] at hw
          obtain ⟨sheet', hmem, rfl⟩ := h.pending j w hw
          exact ⟨sheet', List.mem_cons_of_mem _ hmem, rfl⟩
      uploads := by
        intro u hu
        rw [List.mem_append, Option.mem_toList] at hu
        rcases hu with hu | hu
        . obtain ⟨sheet', hmem, heq⟩ := h.uploads u hu
          exact ⟨sheet', List.mem_cons_of_mem _ hmem, heq⟩
        . exact ⟨sheet, by simp, hu⟩
      image := h.image
      image_or_upload := by
        intro sheet' hmem
        rw [List.mem_cons] at hmem
        rcases hmem with rfl | hmem
        . unfold HasImage
          cases hc : sheet'.content with
          | guess content => simp
          | drawing image =>
            right
            have hup : (StorageControllerSheet.saveSheet code sheet').2
                = some (drawingPath sheet'.id.uuidString, image.jpegData) :=
              StorageControllerSheet.saveSheet_snd_eq_some.2 ⟨image, hc, rfl⟩
            simp [hup]
        . refine (h.image_or_upload sheet' hmem).imp_right ?_
          intro hup
          rw [List.map_append]
          exact List.mem_append_left _ hup
    }
  . contradiction

theorem get_players_apply_sheet (code : Int) (sheet : Sheet) (db : Database)
    : ((Write.sheet code sheet).apply db).get (playersPath code) = db.get (playersPath code) :=
  get_players_applyAll_sheet code [sheet] db

theorem Inv.process (h : Inv code numOfPlayers s sheets) {i : ι}
    (hok : UploadFirst s (.process i))
    (hstep : step code numOfPlayers s (.process i) = some t)
    : ∃ sheet, Inv code numOfPlayers t (sheet :: sheets) := by
  simp only [step] at hstep
  split at hstep
  . next w ws hout =>
    rw [Option.some.injEq] at hstep
    subst hstep
    obtain ⟨sheet, hmem, rfl⟩ := h.pending i w (by simp [hout])
    -- The entry of a drawing whose upload is not finished is not written yet.
    have himage : HasImage s.images sheet := by
      rcases h.image_or_upload sheet hmem with himage | hup
      . exact himage
      . simp only [UploadFirst, hout, List.head?_cons] at hok
        contradiction
    exact ⟨sheet, {
      roster := h.roster.congr (get_players_apply_sheet code sheet s.db)
      stored := by
        apply h.stored.save
        intro sheet' hmem' heq
        exact List.inj_on_of_nodup_map h.ids (h.stored_saved sheet' hmem') hmem heq
      ids := h.ids
      saved := h.saved
      size := h.size
      stored_saved := by
        intro sheet' hmem'
        rw [List.mem_cons] at hmem'
        rcases hmem' with rfl | hmem'
        . exact hmem
        . exact h.stored_saved sheet' hmem'
      pending := by
        intro j w hw
        dsimp only at hw
        by_cases hj : j = i
        . subst hj
          rw [Function.update_self] at hw
          exact h.pending j w (by simp [hout, hw])
        . rw [Function.update_of_ne hj] at hw
          exact h.pending j w hw
      uploads := h.uploads
      image := by
        intro sheet' hmem'
        rw [List.mem_cons] at hmem'
        rcases hmem' with rfl | hmem'
        . exact himage
        . exact h.image sheet' hmem'
      image_or_upload := h.image_or_upload
    }⟩
  . contradiction

omit [DecidableEq ι] in
theorem Inv.hasImage_putData (h : Inv code numOfPlayers s sheets) {u : String × List UInt8}
    (hu : u ∈ s.uploads) {sheet : Sheet} (hmem : sheet ∈ s.saved)
    (himage : HasImage s.images sheet ∨ drawingPath sheet.id.uuidString = u.1)
    : HasImage (s.images.putData u) sheet := by
  intro image hc
  obtain ⟨sheet', hmem', heq⟩ := h.uploads u hu
  obtain ⟨image', hc', rfl⟩ := StorageControllerSheet.saveSheet_snd_eq_some.1 heq
  by_cases hpath : drawingPath sheet.id.uuidString = drawingPath sheet'.id.uuidString
  . -- Only the upload of the sheet itself has its path.
    have hsame : sheet = sheet' := by
      rw [drawingPath_inj, UUID.uuidString_inj] at hpath
      exact List.inj_on_of_nodup_map h.ids hmem hmem' hpath
    subst hsame
    rw [hc, Content.drawing.injEq] at hc'
    subst hc'
    exact Function.update_self ..
  . rcases himage with himage | himage
    . unfold Images.putData
      rw [Function.update_of_ne hpath]
      exact himage image hc
    . exact absurd himage hpath

theorem Inv.upload (h : Inv code numOfPlayers s sheets) {k : Nat}
    (hstep : step code numOfPlayers s (.upload k) = some t)
    : Inv code numOfPlayers t sheets := by
  simp only [step] at hstep
  split at hstep
  . next u hu =>
    rw [Option.some.injEq] at hstep
    subst hstep
    obtain ⟨hk, hget⟩ := List.getElem?_eq_some_iff.1 hu
    have hperm : (u :: s.uploads.eraseIdx k).Perm s.uploads := by
      rw [← hget]
      exact List.getElem_cons_eraseIdx_perm hk
    have hmemu : u ∈ s.uploads := hperm.mem_iff.1 (by simp)
    exact {
      roster := h.roster
      stored := h.stored
      ids := h.ids
      saved := h.saved
      size := h.size
      stored_saved := h.stored_saved
      pending := h.pending
      uploads := by
        intro u' hu'
        exact h.uploads u' (List.mem_of_mem_eraseIdx hu')
      image := by
        intro sheet hmem
        exact h.hasImage_putData hmemu (h.stored_saved sheet hmem) (.inl (h.image sheet hmem))
      image_or_upload := by
        intro sheet hmem
        rcases h.image_or_upload sheet hmem with himage | hup
        . exact .inl (h.hasImage_putData hmemu hmem (.inl himage))
        . rw [List.mem_map] at hup
          obtain ⟨u', hu', hpath⟩ := hup
          rw [← hperm.mem_iff, List.mem_cons] at hu'
          rcases hu' with rfl | hu'
          . exact .inl (h.hasImage_putData hmemu hmem (.inr hpath.symm))
          . right
            rw [← hpath]
            exact List.mem_map_of_mem hu'
    }
  . contradiction

theorem Inv.run {hist : List (Gallery ι × Action ι)}
    (hrun : (system code numOfPlayers).Run UploadFirst hist s)
    : ∃ sheets, Inv code numOfPlayers s sheets := by
  apply hrun.invariant
  . intro s hinit
    exact ⟨[], Inv.init hinit⟩
  . rintro s a t ⟨sheets, h⟩ hok hstep
    cases a with
    | saveSheet i sheet => exact ⟨sheets, h.saveSheet hok hstep⟩
    | process i =>
      obtain ⟨sheet, h⟩ := h.process hok hstep
      exact ⟨_, h⟩
    | upload k => exact ⟨sheets, h.upload hstep⟩

omit [DecidableEq ι] in
theorem Inv.drawing_of_entry (h : Inv code numOfPlayers s sheets) {roundNum : Int} {key : String}
    (hentry : DrawingEntry s.db code roundNum key)
    : ∃ sheet ∈ sheets, sheet.id.uuidString = key ∧ ∃ image, sheet.content = .drawing image := by
  obtain ⟨hauthor, hcontent⟩ := hentry
  have hkey : key ∈ (s.db.get (roundPath code roundNum)).keys := by
    by_contra hkey
    have hempty := PathTree.get_eq_empty_of_not_mem_keys hkey
    have hget : s.db.get (roundPath code roundNum ++ [key, SheetKeys.authorNum.rawValue])
        = ((s.db.get (roundPath code roundNum)).get [key]).get [SheetKeys.authorNum.rawValue] := by
      simp [PathTree.get_get]
    rw [hget, hempty] at hauthor
    simp at hauthor
  rw [h.stored.mem_sheet] at hkey
  obtain ⟨sheet, hmem, rfl, rfl⟩ := hkey
  refine ⟨sheet, hmem, rfl, ?_⟩
  have hget : s.db.get (roundPath code sheet.number
      ++ [sheet.id.uuidString, SheetKeys.content.rawValue])
      = (sheetDict sheet.author.number sheet.content).get [SheetKeys.content.rawValue] := by
    rw [← h.stored.get_sheet sheet hmem, sheetPath, PathTree.get_get]
    simp
  rw [hget] at hcontent
  cases hc : sheet.content with
  | drawing image => exact ⟨image, rfl⟩
  | guess content =>
    rw [hc] at hcontent
    have : asString ((sheetDict sheet.author.number (.guess content)).get [SheetKeys.content.rawValue])
        = some content := rfl
    rw [this] at hcontent
    contradiction

omit [DecidableEq ι] in
theorem Inv.downloadable (h : Inv code numOfPlayers s sheets) : Downloadable s.images sheets := by
  intro sheet hmem image hc
  unfold Images.getData
  rw [h.image sheet hmem image hc]
  simp [h.size sheet (h.stored_saved sheet hmem) image hc]

omit [DecidableEq ι] in
theorem Inv.readable (h : Inv code numOfPlayers s sheets) (hpos : 1 ≤ numOfPlayers)
    : Readable code s where
  image := by
    intro roundNum key hentry
    obtain ⟨sheet, hmem, rfl, image, hc⟩ := h.drawing_of_entry hentry
    rw [h.image sheet hmem image hc]
    rfl
  summary := by
    intro o
    have hmem : ∀ sheet, sheet ∈ sheets.dedup ↔ sheet ∈ sheets := fun _ => List.mem_dedup
    have hids : (sheets.dedup.map Sheet.id).Nodup := by
      apply List.Nodup.map_on _ (List.nodup_dedup _)
      intro sheet hs sheet' hs' heq
      rw [hmem] at hs hs'
      exact List.inj_on_of_nodup_map h.ids (h.stored_saved _ hs) (h.stored_saved _ hs') heq
    obtain ⟨out, players, hout, hperm, -⟩ := getAllSheets_stored o hpos h.roster
      (h.stored.of_mem_iff hmem) hids
      (fun sheet hs => h.downloadable sheet ((hmem sheet).1 hs))
      (fun sheet hs => (h.saved sheet (h.stored_saved sheet ((hmem sheet).1 hs))).1)
      (fun sheet hs => (h.saved sheet (h.stored_saved sheet ((hmem sheet).1 hs))).2)
    refine ⟨out, hout, ?_⟩
    intro roundNum key hentry
    obtain ⟨sheet, hs, rfl, image, hc⟩ := h.drawing_of_entry hentry
    refine ⟨readBack players sheet, ?_, rfl, image, hc⟩
    rw [hperm.mem_iff]
    exact List.mem_map_of_mem ((hmem sheet).2 hs)

/--
If no drawing is larger than what can be downloaded and each one is stored before its entry is
written, then all published drawings are readable.
-/
theorem readable_of_uploadFirst (code numOfPlayers : Int) (hpos : 1 ≤ numOfPlayers)
    (hist : List (Gallery ι × Action ι)) (s : Gallery ι)
    (hrun : (system code numOfPlayers).Run UploadFirst hist s)
    : Readable code s := by
  obtain ⟨sheets, h⟩ := Inv.run hrun
  exact h.readable hpos

def twoPlayers : Gallery Unit where
  db := numberedGame 123456 3 2
  images := fun _ => none
  outbox := fun _ => []
  uploads := []
  saved := []

theorem init_twoPlayers : Init 123456 2 twoPlayers where
  rounds := get_rounds_numberedGame _ _ _
  roster := by decide +kernel
  outbox := fun _ => rfl
  uploads := rfl
  saved := rfl

theorem readable_of_uploadFirst_one_drawing
    : ∃ s : Gallery Unit,
        DrawingEntry s.db 123456 2 (UUID.ofNat 12).uuidString ∧ Readable 123456 s := by
  obtain ⟨hist, s, hrun, hentry⟩ := TransitionSystem.exists_run_of_exec UploadFirst
    (S := system 123456 2) (P := fun _ s => DrawingEntry s.db 123456 2 (UUID.ofNat 12).uuidString)
    init_twoPlayers [.saveSheet () (drawingSheet 12 1 2), .upload 0, .process ()] (by decide +kernel)
  exact ⟨s, hentry, readable_of_uploadFirst 123456 2 (by decide) hist s hrun⟩

/-- `saveSheet` does not wait for the upload, so that the entry can be there without its image. -/
theorem not_readable_before_upload
    : ¬∀ (hist : List (Gallery Unit × Action Unit)) (s : Gallery Unit),
        (system 123456 2).Run (fun _ _ => True) hist s → Readable 123456 s := by
  intro h
  obtain ⟨hist, s, hrun, hentry, himage⟩ := TransitionSystem.exists_run_of_exec
    (fun _ _ => True) (S := system 123456 2)
    (P := fun _ s => DrawingEntry s.db 123456 2 (UUID.ofNat 12).uuidString
      ∧ s.images (drawingPath (UUID.ofNat 12).uuidString) = none)
    init_twoPlayers [.saveSheet () (drawingSheet 12 1 2), .process ()] (by decide +kernel)
  have hread := (h hist s hrun).image 2 _ hentry
  rw [himage] at hread
  contradiction

end Gallery

end SCatCh
