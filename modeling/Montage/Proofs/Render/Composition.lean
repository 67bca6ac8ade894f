import Montage.Font.Service
import Montage.Proofs.Graph.Telling
import Montage.Proofs.Render.Notice
import Montage.Proofs.Request.Timeline
import Montage.Proofs.Subtitle.Document

namespace Montage

/-!
# Compositions of accepted segments

Whether a composition is made depends on its subtitles only, which have to be
written. What is made tells each segment: which file it is read from, where it
is cut, when it is heard.
-/

variable {State : Type} {surroundings : Surroundings State}

/-! ## Surroundings that serve -/

/-- Files can be written, and families are those of fonts on a shelf. -/
structure Surroundings.Serves
    (surroundings : Surroundings State)
    (shelf : FontShelf) :
    Prop where
  writes :
    ∀ {before : State} {path : Path} {content : Bytes} {answer : Outcome Unit}
      {after : State},
      surroundings.answers before (.writeFile path content) answer after →
      answer = .ok ()
  families :
    ∀ {before : State} {name family : String} {after : State},
      surroundings.answers before (.fontFamily name) family after →
      ∃ disk, family = shelf.family disk name

/-- The families of all fonts can be written. -/
theorem FontShelf.family_writable
    (shelf : FontShelf)
    (disk : Disk)
    (name : String) :
    IsWritable (shelf.family disk name).toList := by
  have families :
      ∀ font ∈ CatalogFont.catalog, IsWritable font.family.toList := by
    decide +kernel
  unfold family
  split
  · rename_i font isChosen
    obtain ⟨candidate, _, isFound⟩ := List.exists_of_findSome?_eq_some isChosen
    have inCatalog : font ∈ CatalogFont.catalog := by
      obtain ⟨isFound, _⟩ := Option.filter_eq_some_iff.mp isFound
      exact List.mem_of_find?_eq_some isFound
    exact families font inCatalog
  · decide +kernel

/-! ## Subtitles that are written -/

namespace JobProgram.EndsIn

variable {shelf : FontShelf}

/-- Bytes are always written. -/
theorem writeBytes
    (serves : surroundings.Serves shelf)
    (path : Path)
    (content : Bytes) :
    EndsIn surroundings (Outcome.Succeeds fun _ => True)
      (attempt (Program.perform (.writeFile path content))) := by
  refine ⟨fun run => ?_⟩
  cases run with
  | step _ answered rest =>
      cases rest
      rw [serves.writes answered]
      exact .ok trivial

theorem fontFamily
    (serves : surroundings.Serves shelf)
    (name : String) :
    EndsIn surroundings
      (Outcome.Succeeds fun family : String => IsWritable family.toList)
      (JobProgram.ofProgram (Program.perform (.fontFamily name))) := by
  refine ⟨fun run => ?_⟩
  cases run with
  | step _ answered rest =>
      cases rest
      obtain ⟨disk, isFamily⟩ := serves.families answered
      rw [isFamily]
      exact .ok (shelf.family_writable disk name)

/-- A text is written if it can be. -/
theorem writeText
    (serves : surroundings.Serves shelf)
    (path : Path)
    (text : String) :
    EndsIn surroundings
      (fun outcome => outcome.isOk = true ↔ IsWritable text.toList)
      (Montage.writeText path text) := by
  unfold Montage.writeText
  split
  · rename_i noSurrogates
    have writable := firstSurrogates?_eq_none_iff.mp noSurrogates
    refine ⟨fun run => ?_⟩
    obtain ⟨_, rfl, _⟩ := (writeBytes serves path (bytesOf text)).of_run run
    exact iff_of_true rfl writable
  · rename_i surrogates found
    have notWritable : ¬ IsWritable text.toList := by
      intro writable
      rw [firstSurrogates?_eq_none_iff.mpr writable] at found
      cases found
    refine (writeBytes serves path []).bind fun _ _ => ?_
    exact .ofOutcome (iff_of_false Bool.false_ne_true notWritable)

/-- Subtitles are burnt in if all of their times and texts can be written. -/
theorem subtitleStages
    (serves : surroundings.Serves shelf)
    {plan : SubtitlePlan}
    (regular :
      ∀ family : String, IsWritable family.toList →
        (plan.setting family).IsRegular)
    (cues : List Cue) :
    EndsIn surroundings
      (fun outcome =>
        outcome.isOk = true ↔
          ∀ cue ∈ cues,
            cue.IsTimed (plan.setting "").timeScale ∧
              IsWritable cue.text.toList)
      (Montage.subtitleStages plan cues) := by
  unfold Montage.subtitleStages
  split
  · rename_i isEmpty
    rw [List.isEmpty_iff.mp isEmpty]
    exact ofOutcome (iff_of_true rfl (by simp))
  · rename_i notEmpty
    refine (reserve "_subs.ass").bind fun file _ => ?_
    refine (fontFamily serves _).bind fun family isFamily => ?_
    unfold burnStages
    rw [if_neg notEmpty]
    have isWritten := (regular family isFamily).document_writable_iff cues
    have scale :
        (plan.setting family).timeScale = (plan.setting "").timeScale := rfl
    rw [scale] at isWritten
    rw [← isWritten]
    cases (plan.setting family).document cues with
    | error failure => exact ofOutcome (iff_of_false Bool.false_ne_true (by simp))
    | ok text =>
        have written :
            EndsIn surroundings
              (fun outcome =>
                outcome.isOk = true ↔
                  ∃ other, Except.ok text = (.ok other : Outcome String) ∧
                    IsWritable other.toList)
              (Montage.writeText file text) := by
          simpa using writeText serves file text
        exact written.bindSucceeding fun _ => ofOutcome (.ok trivial)

end JobProgram.EndsIn

/-! ## Accepted segments -/

namespace TimelineEntry

/-- The times of a segment are at most some seconds. -/
structure IsTimely (entry : TimelineEntry) : Prop where
  start : entry.start.atMost 1000000000 = true
  stop : ∀ stop ∈ entry.stop, stop.atMost 1000000000 = true

variable {entry : TimelineEntry}

theorem within_of_atMost
    {time : Binary64}
    (nonnegative : Binary64.atMost 0 time = true)
    (bounded : time.atMost 1000000000 = true) :
    time.Within 1000000000 :=
  .of_atMost nonnegative bounded
    (Binary64.position_natural 1000000000 (by decide))
    (lt_powerOfTwo_of_short (by decide) (by decide))

/-- The delay of a sound can be computed. -/
theorem delayOf_eq_ok
    (complete : entry.IsComplete)
    (timely : entry.IsTimely) :
    ∃ delay, delayOf entry = .ok delay := by
  have thousand : (1000 : Binary64).Within 1000 :=
    Binary64.within_natural 1000 (by decide)
  have start := within_of_atMost complete.start timely.start
  have product :=
    start.multiply thousand (lt_powerOfTwo_of_short (by decide) (by decide))
  obtain ⟨rounded, isRounded⟩ := Binary64.round_eq_ok product.isFinite
  refine ⟨rounded, ?_⟩
  rw [delayOf, isRounded]
  rfl

/-- The cue of a segment has its times. -/
theorem cue_isShort
    (complete : entry.IsComplete)
    (timely : entry.IsTimely)
    {cue : Cue}
    (isCue : entry.cue? = some cue) :
    cue.IsShort := by
  unfold cue? at isCue
  split at isCue
  · rename_i stop text isStop _
    cases isCue
    exact {
      start := within_of_atMost complete.start timely.start
      stop :=
        within_of_atMost (complete.stop stop isStop) (timely.stop stop isStop) }
  · cases isCue

end TimelineEntry

namespace Composition

/-- A composition of accepted segments whose files are there, in a frame of
whole numbers; what is written of the height has not too many digits. -/
structure IsAccepted
    (composition : Composition)
    (width height : Int) :
    Prop where
  entries : ∀ entry ∈ composition.entries, entry.IsAccepted
  times : ∀ entry ∈ composition.entries, entry.IsTimely
  covered :
    ∀ entry ∈ composition.videos ++ composition.sounds,
      ∀ url ∈ entry.url, ∃ path, getField? url composition.assets = some path
  isWidth : composition.width = .integer width
  isHeight : composition.height = .integer height
  fits : ∃ converted, Binary64.ofInteger width = .ok converted
  short : height.natAbs + 50 < 10 ^ digitLimit

/-- A composition of accepted segments at whatever times, whose files are
there, in a frame of whole numbers. -/
structure IsCovered
    (composition : Composition)
    (width height : Int) :
    Prop where
  entries : ∀ entry ∈ composition.entries, entry.IsAccepted
  covered :
    ∀ entry ∈ composition.videos ++ composition.sounds,
      ∀ url ∈ entry.url, ∃ path, getField? url composition.assets = some path
  isWidth : composition.width = .integer width
  isHeight : composition.height = .integer height
  fits : ∃ converted, Binary64.ofInteger width = .ok converted
  short : height.natAbs + 50 < 10 ^ digitLimit

variable {composition : Composition} {width height : Int}

theorem mem_of_mem_entriesOf
    {kind : EntryKind}
    {entry : TimelineEntry}
    {entries : List TimelineEntry}
    (member : entry ∈ entriesOf kind entries) :
    entry ∈ entries ∧ entry.kind = kind := by
  simpa [entriesOf] using member

namespace IsCovered

/-- The remote segments are complete, and have the address of a file. -/
theorem remote
    (covered : composition.IsCovered width height)
    {entry : TimelineEntry}
    (member : entry ∈ composition.videos ++ composition.sounds) :
    entry.IsComplete ∧
      entry.url = some entry.address ∧
      ∃ path, getField? entry.address composition.assets = some path := by
  have parts : entry ∈ composition.entries ∧ entry.kind ≠ .subtitle := by
    rcases List.mem_append.mp member with isVideo | isSound
    · obtain ⟨inEntries, isKind⟩ := mem_of_mem_entriesOf isVideo
      exact ⟨inEntries, by simp [isKind]⟩
    · obtain ⟨inEntries, isKind⟩ := mem_of_mem_entriesOf isSound
      exact ⟨inEntries, by simp [isKind]⟩
  obtain ⟨inEntries, isRemote⟩ := parts
  have complete := (covered.entries entry inEntries).isComplete
  obtain ⟨url, isUrl⟩ := complete.hasAddress isRemote
  have isAddress : entry.address = url := by
    simp [TimelineEntry.address, isUrl]
  rw [isAddress]
  exact ⟨complete, isUrl, covered.covered entry member url isUrl⟩

/-- The graph that is made tells the segments of the composition. -/
theorem compile_tells
    (covered : composition.IsCovered width height)
    (fontDirectory : String) :
    (composition.compile fontDirectory).Yields fun graph =>
      ∃ addresses, composition.IsToldBy graph addresses := by
  refine composition.compile_tells fontDirectory ?_ ?_
  · intro entry member
    exact (covered.remote member).2.1
  · intro entry isVideo
    obtain ⟨_, isKind⟩ := mem_of_mem_entriesOf isVideo
    exact (covered.remote (List.mem_append_left _ isVideo)).1.ends isKind

end IsCovered

namespace IsAccepted

theorem isCovered
    (accepted : composition.IsAccepted width height) :
    composition.IsCovered width height where
  entries := accepted.entries
  covered := accepted.covered
  isWidth := accepted.isWidth
  isHeight := accepted.isHeight
  fits := accepted.fits
  short := accepted.short

/-- The times of the cues can be counted in hundredths. -/
theorem cues_areTimed
    (accepted : composition.IsAccepted width height) :
    ∀ cue ∈ segmentCues composition.subtitles, cue.IsTimed 1 := by
  intro cue member
  obtain ⟨entry, isSubtitle, isCue⟩ := List.mem_filterMap.mp member
  obtain ⟨inEntries, _⟩ := mem_of_mem_entriesOf isSubtitle
  have isShort : cue.IsShort :=
    TimelineEntry.cue_isShort (accepted.entries entry inEntries).isComplete
      (accepted.times entry inEntries) isCue
  have one : (1 : Binary64).Within 9 :=
    (Binary64.within_natural 1 (by decide)).mono (by decide)
  exact isShort.isTimed one

end IsAccepted

section Making

variable {shelf : FontShelf}

/-- The subtitles of a composition are made for a frame of whole numbers, in
letters of the standard size. -/
theorem IsCovered.setting_isRegular
    (covered : composition.IsCovered width height)
    (fontDirectory : String)
    {family : String}
    (isFamily : IsWritable family.toList) :
    ((composition.subtitlePlan fontDirectory).setting family).IsRegular where
  width := by
    obtain ⟨converted, isConverted⟩ := covered.fits
    exact ⟨width, converted, covered.isWidth, isConverted⟩
  height := ⟨height, covered.isHeight⟩
  least := by
    change 10 ≤ SubtitleStyle.standard.fontSize
    decide
  greatest := by
    change SubtitleStyle.standard.fontSize ≤ 100
    decide
  family := isFamily

/-- The subtitles of a composition are shown at the speed of the clip. -/
theorem timeScale_eq_one
    (composition : Composition)
    (fontDirectory family : String) :
    ((composition.subtitlePlan fontDirectory).setting family).timeScale =
      1 := by
  have speed :
      ((composition.subtitlePlan fontDirectory).setting family).speed = 1 := rfl
  rw [DocumentSetting.timeScale, speed]
  decide +kernel

theorem finalStages_ends
    (serves : surroundings.Serves shelf)
    (covered : composition.IsCovered width height)
    (fontDirectory : String) :
    (composition.finalStages fontDirectory).EndsIn surroundings fun outcome =>
      (outcome.isOk = true ↔
        composition.videos ≠ [] →
          ∀ cue ∈ segmentCues composition.subtitles,
            cue.IsTimed 1 ∧ IsWritable cue.text.toList) := by
  unfold finalStages
  split
  · rename_i isEmpty
    have noVideos := List.isEmpty_iff.mp isEmpty
    exact .ofOutcome (iff_of_true rfl fun hasVideos => absurd noVideos hasVideos)
  · rename_i notEmpty
    have hasVideos : composition.videos ≠ [] := by
      simpa using notEmpty
    have stages :=
      JobProgram.EndsIn.subtitleStages serves
        (fun _ isFamily => covered.setting_isRegular fontDirectory isFamily)
        (segmentCues composition.subtitles)
    rw [timeScale_eq_one] at stages
    simpa only [hasVideos, ne_eq, not_false_eq_true, true_imp_iff] using stages

/-- A composition is made exactly if its sounds can be delayed and its
subtitles, where it has videos, can be written. -/
theorem IsCovered.compile_ends
    (serves : surroundings.Serves shelf)
    (covered : composition.IsCovered width height)
    (fontDirectory : String) :
    (composition.compile fontDirectory).EndsIn surroundings fun outcome =>
      (outcome.isOk = true ↔
        (composition.videos ≠ [] →
          ∀ cue ∈ segmentCues composition.subtitles,
            cue.IsTimed 1 ∧ IsWritable cue.text.toList) ∧
        ∀ entry ∈ composition.sounds, ∃ delay, delayOf entry = .ok delay) := by
  have parts :=
    trimChains_succeeds
      (fun entry isVideo =>
        (covered.remote (List.mem_append_left _ isVideo)).2.2) 0 {}
  have sounds :=
    delayChains_isOk_iff
      (fun entry isSound =>
        (covered.remote (List.mem_append_right _ isSound)).2.2) 0
  unfold compile
  refine (JobProgram.EndsIn.ofOutcome parts).bind fun made _ => ?_
  refine (finalStages_ends serves covered fontDirectory).bind_iff ?_
  intro stages
  rw [← sounds made.2]
  cases delayChains composition.assets 0 composition.sounds made.2 with
  | error failure =>
      exact .ofOutcome (iff_of_false Bool.false_ne_true (by simp))
  | ok heard => exact .ofOutcome (iff_of_true rfl ⟨heard, rfl⟩)

/-- At times that are not large only the texts of the subtitles matter. -/
theorem compile_ends
    (serves : surroundings.Serves shelf)
    (accepted : composition.IsAccepted width height)
    (fontDirectory : String) :
    (composition.compile fontDirectory).EndsIn surroundings fun outcome =>
      (outcome.isOk = true ↔
        composition.videos ≠ [] →
          ∀ cue ∈ segmentCues composition.subtitles,
            IsWritable cue.text.toList) := by
  have timed :
      (∀ cue ∈ segmentCues composition.subtitles,
          cue.IsTimed 1 ∧ IsWritable cue.text.toList) ↔
        ∀ cue ∈ segmentCues composition.subtitles,
          IsWritable cue.text.toList :=
    forall₂_congr fun cue member =>
      and_iff_right (accepted.cues_areTimed cue member)
  have delayed :
      ∀ entry ∈ composition.sounds, ∃ delay, delayOf entry = .ok delay := by
    intro entry isSound
    obtain ⟨inEntries, _⟩ := mem_of_mem_entriesOf isSound
    exact TimelineEntry.delayOf_eq_ok
      (accepted.entries entry inEntries).isComplete
      (accepted.times entry inEntries)
  have ends := accepted.isCovered.compile_ends serves fontDirectory
  simpa only [timed, and_iff_left delayed] using ends

/--
A composition of accepted segments is made if its subtitles, where it has
videos, can be written. The graph that is made tells the videos and the sounds
in their order, and nothing but the orders within the kinds matters: not even
the written subtitles change with the order of segments of different kinds.
-/
theorem compile_of_accepted
    (accepted : composition.IsAccepted width height)
    (serves : surroundings.Serves shelf)
    (fontDirectory : String)
    {state final : State}
    {events : List (Event State)}
    {files after : JobFiles}
    {outcome : Outcome Graph}
    (run :
      Run surroundings state
        ((composition.compile fontDirectory).start files) events
        (outcome, after) final) :
    ((composition.videos ≠ [] →
        ∀ cue ∈ segmentCues composition.subtitles,
          IsWritable cue.text.toList) →
      outcome.isOk = true) ∧
    (∀ graph, outcome = .ok graph →
      ∃ addresses, composition.IsToldBy graph addresses) ∧
    ∀ others : List TimelineEntry,
      (∀ kind, entriesOf kind others = entriesOf kind composition.entries) →
      { composition with entries := others }.compile fontDirectory =
        composition.compile fontDirectory := by
  refine ⟨((compile_ends serves accepted fontDirectory).of_run run).mpr, ?_,
    ?_⟩
  · rintro graph rfl
    exact (accepted.isCovered.compile_tells fontDirectory).of_run run
  · intro others same
    unfold compile finalStages subtitlePlan videos sounds subtitles
    simp only [same]

end Making

end Composition

/-! ## A composition with a subtitle -/

/-- A shelf without a font, but for that of the system. -/
def FontShelf.bare : FontShelf where
  directory := .ofText "/fonts"
  systemFont := "/system/Default.ttf"

/-- Answers of surroundings where everything is written, and no font is
there. -/
def FontShelf.serve (shelf : FontShelf) : (call : Call) → call.Answer
  | .fontFamily name => shelf.family {} name
  | call => call.favourable

/-- Surroundings that answer so. -/
def Surroundings.ofShelf (shelf : FontShelf) : Surroundings Unit where
  meanwhile _ _ := True
  answers _ call answer _ := answer = shelf.serve call

theorem Surroundings.ofShelf_serves
    (shelf : FontShelf) :
    (Surroundings.ofShelf shelf).Serves shelf where
  writes := id
  families isFamily := ⟨{}, isFamily⟩

/-- Every program runs to its end there. -/
theorem Surroundings.exists_run_ofShelf
    {α : Type}
    (shelf : FontShelf)
    (program : Program α) :
    ∃ events value, Run (ofShelf shelf) () program events value () := by
  have possible :
      ∀ state call,
        (ofShelf shelf).answers state call (shelf.serve call) () :=
    fun _ _ => rfl
  obtain ⟨events, run⟩ :=
    Run.of_answers (fun _ call => (shelf.serve call, ())) (fun _ => trivial)
      possible () program
  exact ⟨events, _, run⟩

namespace Composition

variable {width height : Int}

/-- A video that is heard as well, with a text over it. -/
def captioned (text : String) : Composition where
  entries := [
    { segment .video 0 2 with url := some "u" },
    { segment .subtitle 0 1 with text := some text },
    { segment .audio 0.5 2 with url := some "u" }]
  assets := [("u", "/in/u.mp4")]
  width := .integer 1080
  height := .integer 1920
where
  segment (kind : EntryKind) (start stop : Binary64) : TimelineEntry := {
    kind, url := none, start, stop, text := none, style := none }

/-- Whether the segments of a composition are read as they are, have short
times, and have the files that they need. -/
def hasAcceptedEntries (composition : Composition) : Bool :=
  composition.entries.all fun entry =>
    (TimelineEntry.read entry.toJson).toOption == some entry &&
      entry.start.atMost 1000000000 &&
      entry.stop.all (·.atMost 1000000000) &&
      entry.url.all fun url => (getField? url composition.assets).isSome

theorem isAccepted_of_hasAcceptedEntries
    {composition : Composition}
    (isWidth : composition.width = .integer width)
    (isHeight : composition.height = .integer height)
    (small : width.natAbs < powerOfTwo 1023)
    (low : height.natAbs + 50 < 10 ^ 4)
    (checked : composition.hasAcceptedEntries = true) :
    composition.IsAccepted width height := by
  simp only [hasAcceptedEntries, List.all_eq_true, Bool.and_eq_true,
    beq_iff_eq] at checked
  refine ⟨?_, ?_, ?_, isWidth, isHeight, ?_,
    low.trans_le (Nat.pow_le_pow_right (by decide) (by decide))⟩
  · intro entry member
    obtain ⟨⟨⟨isRead, _⟩, _⟩, _⟩ := checked entry member
    cases read : TimelineEntry.read entry.toJson with
    | valid other =>
        rw [read] at isRead
        cases isRead
        exact ⟨_, read⟩
    | invalid issues =>
        rw [read] at isRead
        cases isRead
  · intro entry member
    obtain ⟨⟨⟨_, start⟩, stop⟩, _⟩ := checked entry member
    refine ⟨start, ?_⟩
    intro time isStop
    rw [isStop] at stop
    exact stop
  · intro entry member url isUrl
    have inEntries : entry ∈ composition.entries := by
      rcases List.mem_append.mp member with isVideo | isSound
      · exact (mem_of_mem_entriesOf isVideo).1
      · exact (mem_of_mem_entriesOf isSound).1
    obtain ⟨_, hasFile⟩ := checked entry inEntries
    rw [isUrl] at hasFile
    exact Option.isSome_iff_exists.mp hasFile
  · obtain ⟨converted, isConverted, _⟩ := Binary64.ofInteger_eq_ok small
    exact ⟨converted, isConverted⟩

/-- The segments are accepted, in a frame of the standard size. -/
theorem captioned_isAccepted
    {text : String}
    (checked : (captioned text).hasAcceptedEntries = true) :
    (captioned text).IsAccepted 1080 1920 :=
  isAccepted_of_hasAcceptedEntries rfl rfl (by decide +kernel) (by decide)
    checked

/-- With a text that can be written, the video and its sound are told, in
whatever order the segments come. A text with a lone surrogate, as a document
may hold it, is accepted, and yet no graph is made. -/
theorem captioned_isTold :
    ((captioned "it's").IsAccepted 1080 1920 ∧
      (Surroundings.ofShelf .bare).Serves .bare ∧
      ∃ events graph after addresses,
        Run (Surroundings.ofShelf .bare) ()
          (((captioned "it's").compile "/fonts").start noFiles)
          events (.ok graph, after) () ∧
        (captioned "it's").IsToldBy graph addresses ∧
        { captioned "it's" with
            entries := (captioned "it's").entries.reverse }.compile "/fonts" =
          (captioned "it's").compile "/fonts") ∧
    ∃ text,
      (Json.read "\"a\\ud800b\"").toOption.bind Json.text? = some text ∧
      (captioned text).IsAccepted 1080 1920 ∧
      ∃ events failure after,
        Run (Surroundings.ofShelf .bare) ()
          (((captioned text).compile "/fonts").start noFiles)
          events (.error failure, after) () := by
  have serves := Surroundings.ofShelf_serves .bare
  constructor
  case left =>
    have accepted : (captioned "it's").IsAccepted 1080 1920 :=
      captioned_isAccepted (by decide +kernel)
    refine ⟨accepted, serves, ?_⟩
    obtain ⟨events, ⟨outcome, after⟩, run⟩ :=
      Surroundings.exists_run_ofShelf .bare
        (((captioned "it's").compile "/fonts").start noFiles)
    obtain ⟨isOk, tells, orders⟩ :=
      compile_of_accepted accepted serves "/fonts" run
    have writable :
        ∀ cue ∈ segmentCues (captioned "it's").subtitles,
          IsWritable cue.text.toList := by
      decide +kernel
    cases outcome with
    | error failure => cases isOk fun _ => writable
    | ok graph =>
        obtain ⟨addresses, isTold⟩ := tells graph rfl
        have same :
            ∀ kind,
              entriesOf kind (captioned "it's").entries.reverse =
                entriesOf kind (captioned "it's").entries := by
          intro kind
          cases kind <;> decide +kernel
        exact ⟨events, graph, after, addresses, run, isTold, orders _ same⟩
  case right =>
    refine ⟨String.ofList ['a', characterOf 0xD800, 'b'], by decide +kernel, ?_⟩
    generalize isText : String.ofList ['a', characterOf 0xD800, 'b'] = text
    have accepted : (captioned text).IsAccepted 1080 1920 := by
      rw [← isText]
      exact captioned_isAccepted (by decide +kernel)
    have notWritable :
        ¬ ∀ cue ∈ segmentCues (captioned text).subtitles,
          IsWritable cue.text.toList := by
      rw [← isText]
      decide +kernel
    have hasVideos : (captioned text).videos ≠ [] := List.cons_ne_nil _ _
    refine ⟨accepted, ?_⟩
    obtain ⟨events, ⟨outcome, after⟩, run⟩ :=
      Surroundings.exists_run_ofShelf .bare
        (((captioned text).compile "/fonts").start noFiles)
    have isOk_iff := (compile_ends serves accepted "/fonts").of_run run
    cases outcome with
    | ok graph => exact absurd (isOk_iff.mp rfl hasVideos) notWritable
    | error failure => exact ⟨events, failure, after, run⟩

end Composition

end Montage
