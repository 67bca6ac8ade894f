import Montage.Proofs.Graph.Composed
import Montage.Proofs.Graph.Flat

namespace Montage

/-!
# Compiled graphs

Whatever a job is rendered by, a flat graph or a composed one, the encoder is
told a well-wired graph: no label dangles or is used twice, and every stream
is one of an input of the same command.
-/

/-- The programs by which jobs make their graphs. -/
inductive Compiles : JobProgram Graph → Prop
  | flat
      (source : FlatSource)
      (fontDirectory : String) :
      Compiles (source.compile fontDirectory)
  | composed
      (composition : Composition)
      (fontDirectory : String) :
      Compiles (composition.compile fontDirectory)

theorem Compiles.yields
    {program : JobProgram Graph}
    (compiles : Compiles program) :
    program.Yields Graph.IsRenderable := by
  cases compiles with
  | flat source fontDirectory => exact source.compile_yields fontDirectory
  | composed composition fontDirectory =>
      exact composition.compile_yields fontDirectory

/-- The value of a program that makes no call. -/
def Program.value? {α : Type} : Program α → Option α
  | .done value => some value
  | .step _ _ => none

theorem Program.eq_done_of_value?
    {α : Type}
    {program : Program α}
    {check : α → Bool}
    (checked : program.value?.any check = true) :
    ∃ value, program = .done value ∧ check value = true := by
  cases program with
  | done value => exact ⟨value, rfl, checked⟩
  | step call next => cases checked

namespace Graph

/-- What the encoder is told of a graph: its inputs in their order, the chains
that it denotes, well wired with the targets, and the output at the end. -/
structure CommandIsWired
    (graph : Graph)
    (outputFile : String)
    (command : List String)
    (line : CommandLine)
    (chains : List WrittenChain) :
    Prop where
  isCommand : readCommand command = some line
  inputs : line.inputs = graph.inputs.map InputFile.path
  isGraph : readGraph line.graphText = some chains
  denoted : chains = graph.wiring.chains.map Chain.written
  wired : WellWired line.inputs.length chains line.maps
  isOutput : line.output = outputFile
  outputIsLast : command.getLast? = some outputFile

/--
Every graph that a job makes is well wired in its command, whatever the
effects, segments, media, cues and texts are, and whatever is answered while
its files are made.
-/
theorem command_of_compiled
    {program : JobProgram Graph}
    (compiles : Compiles program)
    {State : Type}
    {surroundings : Surroundings State}
    {state final : State}
    {events : List (Event State)}
    {files after : JobFiles}
    {graph : Graph}
    (run :
      Run surroundings state (program.start files) events (.ok graph, after)
        final)
    (encoder : Encoder)
    (options : Option OutputOptions)
    (outputFile : String) :
    ∃ line chains,
      graph.CommandIsWired outputFile
        (encoder.command graph options outputFile) line chains := by
  obtain ⟨legible, pictures, sounds, wired⟩ := compiles.yields.of_run run
  refine ⟨_, graph.wiring.chains.map Chain.written, {
    isCommand := readCommand_command encoder graph options outputFile
    inputs := rfl
    isGraph := readGraph_of_chains (wiring_legible legible)
    denoted := rfl
    wired := ?_
    isOutput := rfl
    outputIsLast := List.getLast?_concat }⟩
  simpa using wired.wellWired

/-- A composition of two videos, whose sounds are those of one of them and of
a file of its own. -/
def duet : Composition where
  entries := [
    segment .video "u" 0 2, segment .audio "u" 0.5 2,
    segment .video "w" 1 3, segment .audio "s" 1 4, segment .video "u" 2 4]
  assets := [("u", "/in/u.mp4"), ("w", "/in/w.mp4"), ("s", "/in/s.mp3")]
  width := .null
  height := .null
where
  segment (kind : EntryKind) (url : String) (start stop : Binary64) :
      TimelineEntry := {
    kind, url, start, stop, text := none, style := none }

/-- The videos share their inputs with a sound, and the command is wired. -/
theorem command_of_duet :
    ∃ (after : JobFiles) (graph : Graph) (line : CommandLine)
        (chains : List WrittenChain),
      (duet.compile "/fonts").start noFiles = .done (.ok graph, after) ∧
      graph.CommandIsWired "/out.mp4"
        (({} : Encoder).command graph none "/out.mp4") line chains ∧
      line.inputs = ["/in/u.mp4", "/in/w.mp4", "/in/s.mp3"] ∧
      graph.maps = ["[vfinal]", "[outa]"] := by
  let alone : Surroundings Unit := {
    meanwhile := fun _ _ => True
    answers := fun _ _ _ _ => True }
  have compiled :
      ((duet.compile "/fonts").start noFiles).value?.any (fun ended =>
        ended.1.toOption.any fun graph =>
          graph.inputs.map InputFile.path =
              ["/in/u.mp4", "/in/w.mp4", "/in/s.mp3"] ∧
            graph.maps = ["[vfinal]", "[outa]"]) = true := by
    decide +kernel
  obtain ⟨⟨outcome, after⟩, isValue, isDone⟩ :=
    Program.eq_done_of_value? compiled
  cases outcome with
  | error failure => cases isDone
  | ok graph =>
      have run :
          Run alone () ((duet.compile "/fonts").start noFiles) []
            (.ok graph, after) () := by
        rw [isValue]
        exact .done () _
      obtain ⟨line, chains, wired⟩ :=
        command_of_compiled (.composed duet "/fonts") run {} none "/out.mp4"
      have isGraph := of_decide_eq_true isDone
      exact ⟨after, graph, line, chains, isValue, wired,
        wired.inputs.trans isGraph.1, isGraph.2⟩

end Graph

end Montage
