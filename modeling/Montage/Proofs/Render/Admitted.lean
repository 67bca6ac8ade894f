import Montage.Proofs.Effect.Ranges
import Montage.Proofs.Render.Composition
import Montage.Request.Render

namespace Montage

/-!
# Compositions of admitted requests

Admission asks for some segment, the encoder for something to see or to hear.
Between the two stand subtitles alone, which make an empty graph, and numbers
too large to count milliseconds with.
-/

/-! ## Requests -/

theorem forall_of_readItemsFrom
    {α : Type}
    {read : Json → Checked α}
    {index : Nat}
    {items : List Json}
    {results : List α}
    (isRead : readItemsFrom read index items = .valid results) :
    ∀ result ∈ results, ∃ value, read value = .valid result := by
  induction items generalizing index results with
  | nil =>
      cases isRead
      simp
  | cons item rest inductionHypothesis =>
      obtain ⟨_, others, isFirst, isOthers, isWhole⟩ :=
        Checked.seq_eq_valid isRead
      obtain ⟨first, isItem, byFirst⟩ := Checked.map_eq_valid isFirst
      subst byFirst isWhole
      rw [List.forall_mem_cons]
      exact ⟨⟨item, Checked.within_eq_valid isItem⟩,
        inductionHypothesis isOthers⟩

namespace RenderRequest

variable {request : RenderRequest} {submission : Submission}

/-- The segments of a request were all accepted. -/
theorem entries_areAccepted
    {value : Json}
    (isRead : read value = .valid request) :
    ∀ entry ∈ request.entries, entry.IsAccepted := by
  obtain ⟨fields, isRest⟩ := readObject_eq_valid isRead
  obtain ⟨_, _, isRest, _, byContent⟩ := Checked.seq_eq_valid isRest
  obtain ⟨_, _, isRest, _, byAddress⟩ := Checked.seq_eq_valid isRest
  obtain ⟨_, _, isRest, _, byText⟩ := Checked.seq_eq_valid isRest
  obtain ⟨_, _, isRest, _, byEffects⟩ := Checked.seq_eq_valid isRest
  obtain ⟨_, _, isRest, _, byAudio⟩ := Checked.seq_eq_valid isRest
  obtain ⟨_, _, isRest, _, byVideo⟩ := Checked.seq_eq_valid isRest
  obtain ⟨_, _, isRest, _, byOutput⟩ := Checked.seq_eq_valid isRest
  obtain ⟨_, timeline, isRest, isTimeline, byTimeline⟩ :=
    Checked.seq_eq_valid isRest
  obtain ⟨_, _, isRest, _, byCallback⟩ := Checked.seq_eq_valid isRest
  obtain ⟨_, _, isRest, _, byProject⟩ := Checked.seq_eq_valid isRest
  obtain ⟨_, _, byId⟩ := Checked.map_eq_valid isRest
  subst byId byProject byCallback byTimeline byOutput byVideo byAudio byEffects
    byText byAddress byContent
  cases timeline with
  | none => simp [entries]
  | some segments =>
      obtain ⟨sent, isList⟩ := Fields.optional_eq_valid isTimeline
      cases sent with
      | array items => exact forall_of_readItemsFrom isList
      | _ => cases isList

/-- What is taken in is the request as it was read. -/
theorem request_of_submission
    (taken : request.submission = .ok submission) :
    submission.request = request := by
  unfold RenderRequest.submission at taken
  split at taken
  · cases taken
  · split at taken
    · cases taken
    · split at taken
      · cases taken
        rfl
      · split at taken
        · cases taken
        · cases taken
          rfl

end RenderRequest

/-! ## Targets and inputs -/

namespace Graph

variable (graph : Graph)

/-- Stages and images neither add a target nor take one away. -/
theorem wiring_video_isSome :
    graph.wiring.video.isSome = graph.videoMap.isSome := by
  unfold wiring
  split
  · unfold flatWiring wireStages wireWatermark
    cases graph.videoMap with
    | none => rfl
    | some source =>
        cases graph.watermark <;> cases graph.videoFilters.isEmpty <;> rfl
  · rfl

theorem wiring_audio_isSome :
    graph.wiring.audio.isSome = graph.audioMap.isSome := by
  unfold wiring
  split
  · unfold flatWiring wireStages
    cases graph.audioMap with
    | none => rfl
    | some source => cases graph.soundStages.isEmpty <;> rfl
  · rfl

theorem maps_ne_nil_iff :
    graph.maps ≠ [] ↔
      graph.videoMap.isSome = true ∨ graph.audioMap.isSome = true := by
  rw [← wiring_video_isSome, ← wiring_audio_isSome, maps, ne_eq,
    List.map_eq_nil_iff]
  cases graph.wiring.video <;> cases graph.wiring.audio <;> simp

end Graph

namespace Composition

variable {composition : Composition} {width height : Int} {graph : Graph}
  {addresses : List String}

/-- There is something to see or to hear. -/
def IsPerceptible (composition : Composition) : Prop :=
  composition.videos ++ composition.sounds ≠ []

namespace IsToldBy

theorem maps_ne_nil_iff
    (told : composition.IsToldBy graph addresses) :
    graph.maps ≠ [] ↔ composition.IsPerceptible := by
  rw [graph.maps_ne_nil_iff, told.videoMap, told.audioMap, IsPerceptible]
  simp only [ne_eq, List.append_eq_nil_iff, not_and_or]

theorem inputs_ne_nil_iff
    (covered : composition.IsCovered width height)
    (told : composition.IsToldBy graph addresses) :
    graph.inputs ≠ [] ↔ composition.IsPerceptible := by
  have sameLength := told.files.length_eq
  rw [IsPerceptible, ← List.length_pos_iff, ← sameLength, List.length_pos_iff]
  constructor
  · intro hasAddress
    obtain ⟨address, member⟩ := List.exists_mem_of_ne_nil addresses hasAddress
    obtain ⟨entry, isRemote, _⟩ := (told.mem_iff address).mp member
    exact List.ne_nil_of_mem isRemote
  · intro hasRemote
    obtain ⟨entry, isRemote⟩ := List.exists_mem_of_ne_nil _ hasRemote
    obtain ⟨_, isUrl, _⟩ := covered.remote isRemote
    exact List.ne_nil_of_mem <|
      (told.mem_iff entry.address).mpr ⟨entry, isRemote, isUrl⟩

end IsToldBy

/-! ## Numbers that are not too large -/

/-- The starts of sounds can be counted in milliseconds, and, where they are
shown over a picture, the cues can be timed and written; what is written of the
height of the picture has not too many digits. -/
structure IsRepresentable (composition : Composition) : Prop where
  framed :
    ∀ height,
      composition.height = .integer height →
      height.natAbs + 50 < 10 ^ digitLimit
  heard :
    ∀ entry ∈ composition.sounds,
      (entry.start * 1000 : Binary64).isFinite = true
  shown :
    composition.videos ≠ [] →
      ∀ cue ∈ segmentCues composition.subtitles,
        cue.IsTimed 1 ∧ IsWritable cue.text.toList

/-- The sounds of such a composition can be delayed. -/
theorem IsRepresentable.delayed
    (representable : composition.IsRepresentable) :
    ∀ entry ∈ composition.sounds, ∃ delay, delayOf entry = .ok delay := by
  intro entry isSound
  obtain ⟨delay, isDelay⟩ :=
    Binary64.round_eq_ok (representable.heard entry isSound)
  refine ⟨delay, ?_⟩
  rw [delayOf, isDelay]
  rfl

/--
The composition of an admitted request is made if its numbers are not too
large. The command of what is made has inputs and targets exactly if there is
something to see or to hear.
-/
theorem command_of_admitted
    {State : Type}
    {surroundings : Surroundings State}
    {shelf : FontShelf}
    {value : Json}
    {request : RenderRequest}
    {submission : Submission}
    (isRead : RenderRequest.read value = .valid request)
    (taken : request.submission = .ok submission)
    (isTimeline : composition.entries = submission.request.entries)
    (covered :
      ∀ entry ∈ composition.videos ++ composition.sounds,
        ∀ url ∈ entry.url,
          ∃ path, getField? url composition.assets = some path)
    (isWidth : composition.width = .integer width)
    (isHeight : composition.height = .integer height)
    (fits : ∃ converted, Binary64.ofInteger width = .ok converted)
    (representable : composition.IsRepresentable)
    (serves : surroundings.Serves shelf)
    (fontDirectory : String)
    {state final : State}
    {events : List (Event State)}
    {files after : JobFiles}
    {outcome : Outcome Graph}
    (run :
      Run surroundings state
        ((composition.compile fontDirectory).start files) events
        (outcome, after) final) :
    ∃ graph,
      outcome = .ok graph ∧
      ∀ (encoder : Encoder) (options : Option OutputOptions)
        (outputFile : String),
        ∃ line,
          readCommand (encoder.command graph options outputFile) = some line ∧
          (line.inputs ≠ [] ↔ composition.IsPerceptible) ∧
          (line.maps ≠ [] ↔ composition.IsPerceptible) := by
  have isCovered : composition.IsCovered width height := {
    entries := by
      rw [isTimeline, RenderRequest.request_of_submission taken]
      exact RenderRequest.entries_areAccepted isRead
    covered, isWidth, isHeight, fits
    short := representable.framed height isHeight }
  have isOk : outcome.isOk = true :=
    ((isCovered.compile_ends serves fontDirectory).of_run run).mpr
      ⟨representable.shown, representable.delayed⟩
  cases outcome with
  | error failure => cases isOk
  | ok graph =>
      obtain ⟨addresses, told⟩ :=
        (isCovered.compile_tells fontDirectory).of_run run
      refine ⟨graph, rfl, fun encoder options outputFile => ?_⟩
      refine ⟨_, readCommand_command encoder graph options outputFile, ?_,
        told.maps_ne_nil_iff⟩
      rw [ne_eq, List.map_eq_nil_iff]
      exact told.inputs_ne_nil_iff isCovered

/-- The composition of a request, in a frame of the standard size. -/
def ofRequest
    (request : RenderRequest)
    (assets : List (String × String)) :
    Composition where
  entries := request.entries
  assets := assets
  width := .integer 1080
  height := .integer 1920

/-- A request for a composition of segments. -/
def requestOf (entries : List TimelineEntry) : RenderRequest :=
  { RenderRequest.silent with timeline := some entries }

/-- What is read as it was written is accepted. -/
theorem read_requestOf
    {entries : List TimelineEntry}
    (isRead :
      (RenderRequest.read (requestOf entries).toJson).toOption =
        some (requestOf entries)) :
    RenderRequest.read (requestOf entries).toJson =
      .valid (requestOf entries) := by
  cases read : RenderRequest.read (requestOf entries).toJson with
  | invalid issues =>
      rw [read] at isRead
      cases isRead
  | valid request =>
      rw [read] at isRead
      rw [Option.some.inj isRead]

/-- A video with a sound and a text over it makes a command with inputs and
targets. -/
theorem command_of_captioned :
    let request := requestOf (captioned "it's").entries
    let composition := ofRequest request [("u", "/in/u.mp4")]
    composition.IsRepresentable ∧
    ∃ events graph after line,
      Run (Surroundings.ofShelf .bare) ()
        ((composition.compile "/fonts").start noFiles) events
        (.ok graph, after) () ∧
      readCommand (Encoder.command {} graph none "/out.mp4") = some line ∧
      line.inputs ≠ [] ∧
      line.maps ≠ [] := by
  intro request composition
  have isRead : RenderRequest.read request.toJson = .valid request :=
    read_requestOf (by decide +kernel)
  have taken : request.submission = .ok { jobId := "a", request } := by
    rfl
  have accepted : composition.IsAccepted 1080 1920 :=
    isAccepted_of_hasAcceptedEntries rfl rfl (by decide +kernel) (by decide)
      (by decide +kernel)
  have writable :
      ∀ cue ∈ segmentCues composition.subtitles,
        IsWritable cue.text.toList := by
    decide +kernel
  have representable : composition.IsRepresentable := {
    framed := by
      rintro height ⟨⟩
      exact accepted.short
    heard := by decide +kernel
    shown := fun _ cue member =>
      ⟨accepted.cues_areTimed cue member, writable cue member⟩ }
  refine ⟨representable, ?_⟩
  obtain ⟨events, ⟨outcome, after⟩, run⟩ :=
    Surroundings.exists_run_ofShelf .bare
      ((composition.compile "/fonts").start noFiles)
  obtain ⟨graph, rfl, isCommand⟩ :=
    command_of_admitted isRead taken rfl accepted.covered rfl rfl accepted.fits
      representable (Surroundings.ofShelf_serves .bare) "/fonts" run
  obtain ⟨line, isLine, inputs, maps⟩ := isCommand {} none "/out.mp4"
  have perceptible : composition.IsPerceptible := by
    unfold IsPerceptible
    decide +kernel
  exact ⟨events, graph, after, line, run, isLine, inputs.mpr perceptible,
    maps.mpr perceptible⟩

/-- A text alone is admitted, and makes a command without inputs and
targets. -/
theorem command_of_text_alone :
    let request :=
      requestOf [
        { captioned.segment .subtitle 0 1 with text := some "it's" }]
    let composition := ofRequest request []
    RenderRequest.read request.toJson = .valid request ∧
    request.submission = .ok { jobId := "a", request } ∧
    ∃ graph after line,
      Run (Surroundings.ofShelf .bare) ()
        ((composition.compile "/fonts").start noFiles) []
        (.ok graph, after) () ∧
      readCommand (Encoder.command {} graph none "/out.mp4") = some line ∧
      line.inputs = [] ∧
      line.maps = [] := by
  intro request composition
  refine ⟨read_requestOf (by decide +kernel), rfl, ?_⟩
  have isMade :
      (composition.compile "/fonts").start noFiles =
        .done (.ok (graph [] [] [] []), noFiles) := by
    rfl
  rw [isMade]
  exact ⟨graph [] [] [] [], noFiles, _, .done _ _,
    readCommand_command _ _ _ _, rfl, rfl⟩

end Composition

end Montage
