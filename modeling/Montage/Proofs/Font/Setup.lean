import Mathlib.Data.List.Nodup
import Montage.Font.Setup
import Montage.Proofs.Asset.Download
import Montage.Proofs.Work.Values

namespace Montage

/-!
# Setups of fonts

A setup asks for every font of the catalogue that is not there, batch by batch,
and counts how the downloads ended. A font is asked for at its own address, and
the whole body of a successful answer is written into its own file, however
short the body is. The downloads of a batch go on side by side; since each
writes its own file only, each goes as if it were alone.

A download counts when a body was written; a font is there when its file is
large enough. The two agree exactly if no written body is too short to be a
font.
-/

/-! ## Fonts of the catalogue -/

namespace CatalogFont

theorem nodup_names : names.Nodup := by
  decide +kernel

theorem nodup_catalog : catalog.Nodup :=
  List.Nodup.of_map _ nodup_names

/-- The name of a font and an ending make the name of a file. -/
theorem isPart_of_mem
    {font : CatalogFont}
    (member : font ∈ catalog) :
    Path.IsPart (font.name ++ ".ttf") := by
  have noSlashes : ∀ name ∈ names, '/' ∉ name.toList := by
    decide +kernel
  have point : 't' ∈ (font.name ++ ".ttf").toList := by
    simp
  refine ⟨List.ne_nil_of_mem point, ?_, ?_⟩
  · intro isDot
    rw [isDot] at point
    exact absurd point (by decide)
  · rw [String.toList_append, List.mem_append, not_or]
    exact ⟨noSlashes _ (List.mem_map_of_mem member), by decide⟩

end CatalogFont

/-- A short text without strange characters is read for its parts. -/
theorem Address.read_eq_ofWritten
    {text : String}
    (short : text.toList.length ≤ lengthLimit)
    (printable : text.toList.find? isUnprintable = none) :
    read text = ofWritten (.ofText text.toList) := by
  unfold read
  dsimp only
  rw [if_neg (Nat.not_lt.mpr short), printable]

/-- Every font has an address that can be asked. -/
theorem CatalogFont.exists_target
    {font : CatalogFont}
    (member : font ∈ catalog) :
    ∃ target, Address.readRequested font.address = .ok target := by
  have computed :
      ∀ other ∈ catalog,
        let text := collection.toList ++ '/' :: other.file.toList
        text.length ≤ Address.lengthLimit ∧
          text.find? Address.isUnprintable = none ∧
          ((Address.ofWritten (.ofText text)).bind Address.requested).isOk =
            true := by
    decide +kernel
  obtain ⟨short, printable, isRead⟩ := computed font member
  have spelled :
      font.address.toList = collection.toList ++ '/' :: font.file.toList := by
    rw [address, String.toList_append, String.toList_append]
    exact List.append_assoc _ _ _
  rw [← spelled] at short printable isRead
  rw [Address.readRequested, Address.read_eq_ofWritten short printable]
  generalize (Address.ofWritten (.ofText font.address.toList)).bind
    Address.requested = found at isRead ⊢
  cases found with
  | error cause => cases isRead
  | ok target => exact ⟨target, rfl⟩

/-! ## Files of fonts -/

namespace FontShelf

variable (shelf : FontShelf) {font other : CatalogFont}

theorem file_eq_child
    (member : font ∈ CatalogFont.catalog) :
    shelf.file font.name = shelf.directory.child (font.name ++ ".ttf") :=
  Path.join_of_isPart shelf.directory (CatalogFont.isPart_of_mem member)

theorem file_isIn
    (member : font ∈ CatalogFont.catalog) :
    (shelf.file font.name).IsIn shelf.directory := by
  refine ⟨font.name ++ ".ttf", ?_, shelf.file_eq_child member⟩
  intro isUp
  have point : 't' ∈ (font.name ++ ".ttf").toList := by
    simp
  rw [isUp] at point
  exact absurd point (by decide)

/-- Different fonts have different files. -/
theorem file_ne
    (member : font ∈ CatalogFont.catalog)
    (otherMember : other ∈ CatalogFont.catalog)
    (different : other ≠ font) :
    shelf.file other.name ≠ shelf.file font.name := by
  intro same
  rw [shelf.file_eq_child member, shelf.file_eq_child otherMember] at same
  have texts := congrArg String.toList (Path.child_injective same)
  rw [String.toList_append, String.toList_append] at texts
  have names : other.name = font.name :=
    String.toList_inj.mp (List.append_cancel_right texts)
  exact different
    (List.inj_on_of_nodup_map CatalogFont.nodup_names otherMember member names)

/-- A font is there if its file is larger than the least size; a directory of
this name counts, too, where directories are as large. -/
theorem holdsFont_iff
    {disk : Disk}
    {name : String} :
    shelf.holdsFont disk name = true ↔
      (∃ content,
        disk.fileAt? (shelf.file name) = some content ∧
          leastSize < content.length) ∨
      disk.isDirectory (shelf.file name) = true ∧
        leastSize < disk.directorySize := by
  unfold holdsFont Disk.size Disk.fileAt? Disk.isDirectory Disk.about
  cases usable : (shelf.file name).isUsable with
  | false =>
      obtain ⟨failure, refused, -⟩ := Path.refusal?_of_not_isUsable usable
      simp [refused]
  | true =>
      rw [Path.refusal?_of_isUsable usable]
      cases disk.status (shelf.file name) with
      | error cause => simp [Bind.bind, Except.bind, Except.mapError]
      | ok found =>
          obtain ⟨place, entry⟩ := found
          cases entry <;> simp [Bind.bind, Except.bind, Except.mapError]

end FontShelf

/-! ## What downloads have around them -/

/-- How a disk answers the calls of a setup. A request leaves the disk, whatever
its answer is; of other calls nothing is known. -/
def Disk.Answers (before : Disk) : (call : Call) → call.Answer → Disk → Prop
  | .makeDirectories path, answer, after =>
      before.makeDirectories path = (answer, after)
  | .fileSize path, answer, after =>
      before.size path = answer ∧ after = before
  | .writeFile path content, .ok _, after =>
      before.write path content = .ok after
  | .writeFile path content, .error failure, after =>
      before.write path content = .error failure ∧ after = before
  | .request _, _, after => after = before
  | .schedule, _, after => after = before
  | _, _, _ => True

/-- A disk that nobody else uses. -/
def Disk.surroundings : Surroundings Disk where
  meanwhile before after := after = before
  answers := Disk.Answers

/-- Directories are where they were, and as large. -/
structure Disk.SameFolders (before after : Disk) : Prop where
  folders : ∀ path, after.isDirectory path = before.isDirectory path
  size : after.directorySize = before.directorySize

namespace Disk.SameFolders

variable {before between after : Disk}

theorem refl (disk : Disk) : disk.SameFolders disk :=
  ⟨fun _ => rfl, rfl⟩

theorem trans
    (first : before.SameFolders between)
    (second : between.SameFolders after) :
    before.SameFolders after where
  folders path := (second.folders path).trans (first.folders path)
  size := second.size.trans first.size

theorem of_eq (same : after = before) : before.SameFolders after :=
  same ▸ refl before

end Disk.SameFolders

namespace FontShelf

/-- Calls of the downloads of other fonts. -/
inductive Spares
    (shelf : FontShelf)
    (font : CatalogFont) :
    Call → Prop
  | schedule : Spares shelf font .schedule
  | request (address : String) : Spares shelf font (.request address)
  | writeFile
      {other : CatalogFont}
      (member : other ∈ CatalogFont.catalog)
      (different : other ≠ font)
      (content : Bytes) :
      Spares shelf font (.writeFile (shelf.file other.name) content)

variable {shelf : FontShelf} {font other : CatalogFont}

/-- The file of a font stays as it is where other fonts are downloaded. -/
theorem Spares.fileAt?_eq
    {call : Call}
    (spares : shelf.Spares font call)
    (member : font ∈ CatalogFont.catalog)
    {before after : Disk}
    {answer : call.Answer}
    (answered : Disk.surroundings.answers before call answer after) :
    after.fileAt? (shelf.file font.name) =
      before.fileAt? (shelf.file font.name) := by
  cases spares with
  | schedule => exact congrArg (Disk.fileAt? · _) answered
  | request address => exact congrArg (Disk.fileAt? · _) answered
  | writeFile otherMember different content =>
      cases answer with
      | error failure => exact congrArg (Disk.fileAt? · _) answered.2
      | ok value =>
          exact Disk.fileAt?_write_of_ne (shelf.file_isIn otherMember)
            (shelf.file_isIn member)
            (shelf.file_ne member otherMember different).symm answered

/-- Calls of downloads. -/
inductive Loads (shelf : FontShelf) : Call → Prop
  | schedule : Loads shelf .schedule
  | request (address : String) : Loads shelf (.request address)
  | writeFile
      (name : String)
      (content : Bytes) :
      Loads shelf (.writeFile (shelf.file name) content)

/-- No directory comes or goes with a call of a download. -/
theorem Loads.sameFolders
    {call : Call}
    (loads : shelf.Loads call)
    {before after : Disk}
    {answer : call.Answer}
    (answered : Disk.surroundings.answers before call answer after) :
    before.SameFolders after := by
  cases loads with
  | schedule => exact .of_eq answered
  | request address => exact .of_eq answered
  | writeFile name content =>
      cases answer with
      | error failure => exact .of_eq answered.2
      | ok value =>
          obtain ⟨place, -, changed, -⟩ := Disk.changedAt_of_write answered
          exact ⟨changed.isDirectory_eq, changed.directorySize⟩

theorem sameFolders_of_meanwhile
    {before after : Disk}
    (passes :
      (Disk.surroundings.sharedWith shelf.Loads).meanwhile before after) :
    before.SameFolders after := by
  induction passes with
  | refl => exact .refl before
  | tail _ stirred inductionHypothesis =>
      refine inductionHypothesis.trans ?_
      rcases stirred with passed | ⟨call, answer, loads, answered⟩
      · exact .of_eq passed
      · exact loads.sameFolders answered

theorem fileAt?_of_meanwhile
    (member : font ∈ CatalogFont.catalog)
    {before after : Disk}
    (passes :
      (Disk.surroundings.sharedWith (shelf.Spares font)).meanwhile before
        after) :
    after.fileAt? (shelf.file font.name) =
      before.fileAt? (shelf.file font.name) := by
  induction passes with
  | refl => rfl
  | tail _ stirred inductionHypothesis =>
      rw [← inductionHypothesis]
      rcases stirred with passed | ⟨call, answer, spares, answered⟩
      · exact congrArg (Disk.fileAt? · _) passed
      · exact spares.fileAt?_eq member answered

theorem downloadFont_limited
    {permitted : Call → Prop}
    (requests : ∀ address, permitted (.request address))
    (writes :
      ∀ content, permitted (.writeFile (shelf.file font.name) content)) :
    (shelf.downloadFont font).Limited permitted := by
  apply (askSuccessfully_limited requests font.address).andThen
  intro answered
  cases answered with
  | error failure => exact .done _
  | ok reply =>
      dsimp only
      split
      · exact .done _
      · exact .step (writes _) fun _ => .done _

/-- The download of a font spares all others. -/
theorem downloadFont_spares
    (member : other ∈ CatalogFont.catalog)
    (different : other ≠ font) :
    (shelf.downloadFont other).Limited (shelf.Spares font) :=
  downloadFont_limited .request (.writeFile member different)

end FontShelf

/-! ## The course of a download -/

/-- A file that was to be written as a whole. -/
abbrev Event.wrote
    {State : Type}
    (before after : State)
    (path : Path)
    (content : Bytes)
    (answer : Outcome Unit) :
    Event State :=
  { before, call := .writeFile path content, answer, after }

/-- How a font is downloaded. -/
inductive FontCourse
    (shelf : FontShelf)
    (font : CatalogFont) :
    List (Event Disk) → Outcome Unit → Prop
  /-- A request fails, or no further one can be sent. -/
  | unanswered
      {target : Address}
      {requests : List (Event Disk)}
      {failure : Failure}
      (isTarget : Address.readRequested font.address = .ok target)
      (asked : Asked (redirectLimit + 1) target requests (.error failure)) :
      FontCourse shelf font requests (.error failure)
  /-- The reply tells of no success. -/
  | refused
      {target source : Address}
      {requests : List (Event Disk)}
      {reply : Reply}
      (isTarget : Address.readRequested font.address = .ok target)
      (asked : Asked (redirectLimit + 1) target requests (.ok (source, reply)))
      (fails : isSuccess reply.status = false) :
      FontCourse shelf font requests
        (.error (.transport (.badStatus reply.status source.toText)))
  /-- The body breaks off, and nothing of it is written. -/
  | broken
      {target source : Address}
      {requests : List (Event Disk)}
      {reply : Reply}
      {failure : Failure}
      (led : LedTo font.address requests target source reply)
      (breaks : reply.broken = some failure) :
      FontCourse shelf font requests (.error failure)
  /-- The whole body is to be written, which may fail. -/
  | answered
      {target source : Address}
      {requests : List (Event Disk)}
      {reply : Reply}
      {before after : Disk}
      {outcome : Outcome Unit}
      (led : LedTo font.address requests target source reply)
      (whole : reply.broken = none) :
      FontCourse shelf font
        (requests ++
          [.wrote before after (shelf.file font.name) reply.body outcome])
        outcome

/-- The content that a call wrote into a file. -/
def Event.writtenBody? : Event Disk → Option Bytes
  | { call := .writeFile _ content, answer := .ok _, .. } => some content
  | _ => none

/-- The content that a download wrote into a file, if it wrote one. -/
def writtenBody? (events : List (Event Disk)) : Option Bytes :=
  events.findSome? Event.writtenBody?

theorem writtenBody?_nil :
    writtenBody? [] = none :=
  rfl

theorem writtenBody?_wrote
    (before after : Disk)
    (path : Path)
    (content : Bytes)
    (answer : Outcome Unit) :
    writtenBody? [.wrote before after path content answer] =
      if answer.isOk then some content else none := by
  cases answer <;> rfl

/-- Requests write nothing. -/
theorem Asked.writtenBody?_append
    {remaining : Nat}
    {address : Address}
    {requests : List (Event Disk)}
    {found : Outcome (Address × Reply)}
    (asked : Asked remaining address requests found)
    (rest : List (Event Disk)) :
    writtenBody? (requests ++ rest) = writtenBody? rest := by
  have nothing : requests.findSome? Event.writtenBody? = none := by
    rw [List.findSome?_eq_none_iff]
    rintro ⟨before, call, answer, after⟩ member
    obtain ⟨text, isRequest⟩ := asked.isRequest _ member
    dsimp only at isRequest
    subst isRequest
    rfl
  rw [writtenBody?, List.findSome?_append, nothing, Option.none_or]
  rfl

namespace FontCourse

variable {shelf : FontShelf} {font : CatalogFont}
  {events : List (Event Disk)} {outcome : Outcome Unit}

/-- A download succeeds exactly if it wrote a body. -/
theorem isOk_eq
    (course : FontCourse shelf font events outcome) :
    outcome.isOk = (writtenBody? events).isSome := by
  cases course with
  | unanswered isTarget asked =>
      rw [← List.append_nil events, asked.writtenBody?_append,
        writtenBody?_nil]
      rfl
  | refused isTarget asked fails =>
      rw [← List.append_nil events, asked.writtenBody?_append,
        writtenBody?_nil]
      rfl
  | broken led breaks =>
      rw [← List.append_nil events, led.asked.writtenBody?_append,
        writtenBody?_nil]
      rfl
  | answered led whole =>
      rw [led.asked.writtenBody?_append, writtenBody?_wrote]
      cases outcome <;> rfl

/-- Whatever is answered, and whatever others download, a font is downloaded in
one of these ways, and its file holds what was written or is as it was. -/
theorem of_run
    {state final : Disk}
    (member : font ∈ CatalogFont.catalog)
    (run :
      Run (Disk.surroundings.sharedWith (shelf.Spares font)) state
        (shelf.downloadFont font) events outcome final) :
    FontCourse shelf font events outcome ∧
      final.fileAt? (shelf.file font.name) =
        (writtenBody? events).or (state.fileAt? (shelf.file font.name)) := by
  obtain ⟨asking, writing, answered, middle, rfl, asks, goesOn⟩ :=
    run.andThen_cases
  have kept :
      middle.fileAt? (shelf.file font.name) =
        state.fileAt? (shelf.file font.name) :=
    FontShelf.fileAt?_of_meanwhile member
      (Surroundings.sharedWith_sharedWith (fun _ => id)
        (asks.passes (askSuccessfully_limited .request font.address)))
  obtain ⟨target, isTarget⟩ := CatalogFont.exists_target member
  simp only [askSuccessfully, isTarget] at asks
  obtain ⟨requests, none, found, reached, rfl, asks, accepts⟩ :=
    asks.andThen_cases
  cases accepts
  have asked := Asked.of_run asks
  rw [List.append_nil, asked.writtenBody?_append, ← kept]
  cases found with
  | error failure =>
      cases goesOn
      rw [List.append_nil]
      rw [writtenBody?_nil, Option.none_or]
      exact ⟨.unanswered isTarget asked, rfl⟩
  | ok found =>
      obtain ⟨source, reply⟩ := found
      cases succeeds : isSuccess reply.status with
      | false =>
          simp only [Except.bind, accepted, succeeds] at goesOn
          cases goesOn
          rw [List.append_nil]
          rw [writtenBody?_nil, Option.none_or]
          exact ⟨.refused isTarget asked succeeds, rfl⟩
      | true =>
          simp only [Except.bind, accepted, succeeds, ↓reduceIte] at goesOn
          have led : LedTo font.address requests target source reply :=
            ⟨isTarget, asked, succeeds⟩
          cases breaks : reply.broken with
          | some failure =>
              simp only [breaks] at goesOn
              cases goesOn
              rw [List.append_nil]
              rw [writtenBody?_nil, Option.none_or]
              exact ⟨.broken led breaks, rfl⟩
          | none =>
              simp only [breaks] at goesOn
              cases goesOn with
              | step meanwhile written rest =>
              cases rest
              refine ⟨.answered led breaks, ?_⟩
              rw [writtenBody?_wrote]
              cases outcome with
              | ok value =>
                  obtain ⟨_, _, _, stands⟩ := Disk.changedAt_of_write written
                  rw [stands]
                  rfl
              | error failure =>
                  rw [written.2, FontShelf.fileAt?_of_meanwhile member meanwhile]
                  rfl

end FontCourse

/-! ## Downloads between two states of the disk -/

/-- The download of a font: its calls, and how it ended. -/
abbrev FontDownload :=
  Strand CatalogFont Disk (Outcome Unit)

/-- Whether a call asks for something remote, or writes a whole file. -/
def Call.isTransfer : Call → Bool
  | .request _
  | .writeFile _ _ => true
  | _ => false

/-- A download sends requests and writes its own file. -/
theorem FontCourse.call_cases
    {shelf : FontShelf}
    {font : CatalogFont}
    {events : List (Event Disk)}
    {outcome : Outcome Unit}
    (course : FontCourse shelf font events outcome) :
    ∀ event ∈ events,
      event.IsRequest ∨
        ∃ content, event.call = .writeFile (shelf.file font.name) content := by
  cases course with
  | unanswered isTarget asked =>
      exact fun event member => .inl (asked.isRequest event member)
  | refused isTarget asked fails =>
      exact fun event member => .inl (asked.isRequest event member)
  | broken led breaks =>
      exact fun event member => .inl (led.asked.isRequest event member)
  | answered led whole =>
      rw [List.forall_mem_append, List.forall_mem_singleton]
      exact ⟨fun event member => .inl (led.asked.isRequest event member),
        .inr ⟨_, rfl⟩⟩

theorem FontCourse.isTransfer
    {shelf : FontShelf}
    {font : CatalogFont}
    {events : List (Event Disk)}
    {outcome : Outcome Unit}
    (course : FontCourse shelf font events outcome) :
    ∀ event ∈ events, event.call.isTransfer = true := by
  intro event member
  rcases course.call_cases event member with
    ⟨address, isRequest⟩ | ⟨content, isWrite⟩
  · rw [isRequest]
    rfl
  · rw [isWrite]
    rfl

/--
Downloads of fonts, one for each, between two states of the disk. All requests
that were sent and all files that were written belong to one of them; each file
holds what was written, or is as it was, and so are the files of all other
fonts and all directories.
-/
structure FontDownloads
    (shelf : FontShelf)
    (fonts : List CatalogFont)
    (events : List (Event Disk))
    (before after : Disk)
    (downloads : List FontDownload) :
    Prop where
  items : downloads.map Strand.item = fonts
  transfers :
    (events.filter fun event => event.call.isTransfer).Perm
      (downloads.flatMap Strand.events)
  courses :
    ∀ download ∈ downloads,
      FontCourse shelf download.item download.events download.value
  files :
    ∀ download ∈ downloads,
      after.fileAt? (shelf.file download.item.name) =
        (writtenBody? download.events).or
          (before.fileAt? (shelf.file download.item.name))
  others :
    ∀ font ∈ CatalogFont.catalog,
      font ∉ fonts →
      after.fileAt? (shelf.file font.name) =
        before.fileAt? (shelf.file font.name)
  folders : before.SameFolders after

namespace FontDownloads

variable {shelf : FontShelf} {fonts otherFonts : List CatalogFont}
  {events idle otherEvents : List (Event Disk)} {before between after : Disk}
  {downloads otherDownloads : List FontDownload}

theorem none (disk : Disk) : FontDownloads shelf [] [] disk disk [] where
  items := rfl
  transfers := .nil
  courses := by simp
  files := by simp
  others := by simp
  folders := .refl disk

/-- Calls that transfer nothing do not count. -/
theorem after_idle
    (made : FontDownloads shelf fonts events before after downloads)
    (nothing : ∀ event ∈ idle, event.call.isTransfer = false) :
    FontDownloads shelf fonts (idle ++ events) before after downloads := by
  have noTransfer :
      (idle.filter fun event => event.call.isTransfer) = [] := by
    simpa using nothing
  exact
    { made with
      transfers := by
        rw [List.filter_append, noTransfer, List.nil_append]
        exact made.transfers }

/-- Downloads of some fonts and then of others. -/
theorem append
    (made : FontDownloads shelf fonts events before between downloads)
    (madeThen :
      FontDownloads shelf otherFonts otherEvents between after otherDownloads)
    (members : ∀ font ∈ fonts ++ otherFonts, font ∈ CatalogFont.catalog)
    (different : (fonts ++ otherFonts).Nodup) :
    FontDownloads shelf (fonts ++ otherFonts) (events ++ otherEvents) before
      after (downloads ++ otherDownloads) where
  items := by
    rw [List.map_append, made.items, madeThen.items]
  transfers := by
    rw [List.filter_append, List.flatMap_append]
    exact made.transfers.append madeThen.transfers
  courses := List.forall_mem_append.mpr ⟨made.courses, madeThen.courses⟩
  files := by
    have apart := List.disjoint_of_nodup_append different
    rw [List.forall_mem_append]
    constructor
    · intro download member
      have isFont : download.item ∈ fonts :=
        made.items ▸ List.mem_map_of_mem member
      rw [madeThen.others _ (members _ (List.mem_append_left _ isFont))
        (apart isFont), made.files download member]
    · intro download member
      have isFont : download.item ∈ otherFonts :=
        madeThen.items ▸ List.mem_map_of_mem member
      rw [madeThen.files download member,
        made.others _ (members _ (List.mem_append_right _ isFont))
          fun isEarlier => apart isEarlier isFont]
  others := by
    intro font member isOther
    rw [List.mem_append, not_or] at isOther
    rw [madeThen.others font member isOther.2,
      made.others font member isOther.1]
  folders := made.folders.trans madeThen.folders

/-- Fonts that are downloaded side by side. -/
theorem of_gather
    {values : List (Outcome Unit)}
    (members : ∀ font ∈ fonts, font ∈ CatalogFont.catalog)
    (different : fonts.Nodup)
    (run :
      Run Disk.surroundings before
        (Program.gather (fonts.map shelf.downloadFont)) events values after) :
    ∃ downloads,
      FontDownloads shelf fonts events before after downloads ∧
        downloads.map Strand.value = values := by
  have spares
      (font : CatalogFont)
      (isOther : font ∉ fonts) :
      (Program.gather (fonts.map shelf.downloadFont)).Limited
        (shelf.Spares font) := by
    refine .gather .schedule ?_
    rw [List.forall_mem_map]
    intro other member
    exact FontShelf.downloadFont_spares (members other member)
      (ne_of_mem_of_not_mem member isOther)
  have loads :
      (Program.gather (fonts.map shelf.downloadFont)).Limited shelf.Loads := by
    refine .gather .schedule ?_
    rw [List.forall_mem_map]
    exact fun font _ => FontShelf.downloadFont_limited .request (.writeFile _)
  obtain ⟨strands, areFonts, areValues, all, each⟩ :=
    run.gather_cases (fun _ => .schedule) different
      fun _ _ other member isOther =>
        FontShelf.downloadFont_spares (members other member) isOther
  have isFont
      (strand : FontDownload)
      (member : strand ∈ strands) :
      strand.item ∈ CatalogFont.catalog :=
    members _ (areFonts ▸ List.mem_map_of_mem member)
  have courses :
      ∀ strand ∈ strands,
        FontCourse shelf strand.item strand.events strand.value ∧
          after.fileAt? (shelf.file strand.item.name) =
            (writtenBody? strand.events).or
              (before.fileAt? (shelf.file strand.item.name)) := by
    intro strand member
    obtain ⟨-, ended, alone, later⟩ := each strand member
    rw [FontShelf.fileAt?_of_meanwhile (isFont strand member) later]
    exact FontCourse.of_run (isFont strand member) alone
  have areTransfers :
      ((strands.flatMap Strand.events).filter
        fun event => event.call.isTransfer) =
      strands.flatMap Strand.events := by
    rw [List.filter_eq_self]
    intro event member
    obtain ⟨strand, isStrand, isEvent⟩ := List.mem_flatMap.mp member
    exact (courses strand isStrand).1.isTransfer event isEvent
  have ofOwn (list : List (Event Disk)) :
      ((list.filter fun event => event.call.isOwn).filter
        fun event => event.call.isTransfer) =
      list.filter fun event => event.call.isTransfer := by
    rw [List.filter_filter]
    congr 1
    funext event
    cases event.call <;> rfl
  refine ⟨strands, ?_, areValues⟩
  exact
    { items := areFonts
      transfers := by
        have perm := all.filter fun event => event.call.isTransfer
        rwa [ofOwn, ofOwn, areTransfers] at perm
      courses := fun strand member => (courses strand member).1
      files := fun strand member => (courses strand member).2
      others := fun font member isOther =>
        FontShelf.fileAt?_of_meanwhile member
          (run.passes (spares font isOther))
      folders := FontShelf.sameFolders_of_meanwhile (run.passes loads) }

/-- Batches of fonts, one after another. -/
theorem of_batches
    {batches : List (List CatalogFont)}
    {values : List (Outcome Unit)}
    (members : ∀ font ∈ batches.flatten, font ∈ CatalogFont.catalog)
    (different : batches.flatten.Nodup)
    (run :
      Run Disk.surroundings before (shelf.downloadBatches batches) events
        values after) :
    ∃ downloads,
      FontDownloads shelf batches.flatten events before after downloads ∧
        downloads.map Strand.value = values := by
  induction batches generalizing before events values with
  | nil =>
      cases run
      exact ⟨[], .none _, rfl⟩
  | cons batch rest inductionHypothesis =>
      rw [List.flatten_cons] at members different ⊢
      obtain ⟨first, later, outcomes, between, rfl, gathers, goesOn⟩ :=
        run.andThen_cases
      obtain ⟨second, last, others, ended, rfl, continues, ends⟩ :=
        goesOn.andThen_cases
      cases ends
      rw [List.append_nil]
      obtain ⟨downloads, made, rfl⟩ :=
        of_gather
          (fun font member => members font (List.mem_append_left _ member))
          different.of_append_left gathers
      obtain ⟨moreDownloads, madeThen, rfl⟩ :=
        inductionHypothesis
          (fun font member => members font (List.mem_append_right _ member))
          different.of_append_right continues
      exact ⟨downloads ++ moreDownloads,
        made.append madeThen members different, List.map_append⟩

end FontDownloads

/-! ## The course of a setup -/

/-- Batches leave no item out, and keep the order. -/
theorem FontShelf.flatten_batches
    {α : Type}
    {size count : Nat}
    {items : List α}
    (positive : 0 < size)
    (enough : items.length ≤ count) :
    (batches size count items).flatten = items := by
  induction count generalizing items with
  | zero =>
      rw [List.length_eq_zero_iff.mp (Nat.le_zero.mp enough)]
      rfl
  | succ count inductionHypothesis =>
      cases items with
      | nil => rfl
      | cons item rest =>
          have fewer : ((item :: rest).drop size).length ≤ count := by
            rw [List.length_drop]
            omega
          rw [batches, List.flatten_cons, inductionHypothesis fewer,
            List.take_append_drop]
          exact List.cons_ne_nil _ _

namespace FontShelf

variable {shelf : FontShelf} {disk before opened final : Disk}
  {events : List (Event Disk)}

/-- The fonts of the catalogue that are not there. -/
def missingFonts (shelf : FontShelf) (disk : Disk) : List CatalogFont :=
  CatalogFont.catalog.filter fun font => !shelf.holdsFont disk font.name

/-- How many fonts of the catalogue are there. -/
def heldCount (shelf : FontShelf) (disk : Disk) : Nat :=
  CatalogFont.catalog.countP fun font => shelf.holdsFont disk font.name

theorem askCached_course
    {name : String}
    {cached : Bool}
    (run :
      Run Disk.surroundings disk (shelf.askCached name) events cached final) :
    cached = shelf.holdsFont disk name ∧
      final = disk ∧
      ∀ event ∈ events, event.call.isTransfer = false := by
  cases run with
  | @step _ _ _ _ _ _ answer _ _ idle answered rest =>
  obtain ⟨isSize, rfl⟩ := answered
  cases idle
  unfold holdsFont
  rw [isSize]
  cases answer with
  | ok bytes =>
      cases rest
      exact ⟨rfl, rfl, List.forall_mem_singleton.mpr rfl⟩
  | error failure =>
      cases rest
      exact ⟨rfl, rfl, List.forall_mem_singleton.mpr rfl⟩

/-- To ask which fonts are missing transfers nothing. -/
theorem askMissing_course
    {fonts missing : List CatalogFont}
    (run :
      Run Disk.surroundings disk (shelf.askMissing fonts) events missing
        final) :
    missing = (fonts.filter fun font => !shelf.holdsFont disk font.name) ∧
      final = disk ∧
      ∀ event ∈ events, event.call.isTransfer = false := by
  induction fonts generalizing disk events missing with
  | nil =>
      cases run
      exact ⟨rfl, rfl, by simp⟩
  | cons font rest inductionHypothesis =>
      obtain ⟨first, later, cached, between, rfl, asks, goesOn⟩ :=
        run.andThen_cases
      obtain ⟨rfl, rfl, quiet⟩ := askCached_course asks
      obtain ⟨second, last, others, ended, rfl, asksRest, ends⟩ :=
        goesOn.andThen_cases
      cases ends
      obtain ⟨rfl, rfl, quietRest⟩ := inductionHypothesis asksRest
      refine ⟨?_, rfl, ?_⟩
      · rw [List.filter_cons]
        cases shelf.holdsFont final font.name <;> rfl
      · rw [List.append_nil]
        exact List.forall_mem_append.mpr ⟨quiet, quietRest⟩

/-- A setup downloads each font that is missing, and no other one. -/
theorem setUp_course
    {batchSize : Int}
    {outcome : Outcome FontCounts}
    (positive : 1 ≤ batchSize)
    (made : before.makeDirectories shelf.directory = (.ok (), opened))
    (run :
      Run Disk.surroundings before (shelf.setUp batchSize) events outcome
        final) :
    ∃ downloads,
      FontDownloads shelf (shelf.missingFonts opened) events opened final
          downloads ∧
        outcome =
          .ok
            (countsOf (shelf.missingFonts opened)
              (downloads.map Strand.value)) := by
  cases run with
  | @step _ _ after _ _ _ answer _ _ idle answered rest =>
  cases idle
  obtain ⟨rfl, rfl⟩ := Prod.mk.inj (made.symm.trans answered)
  obtain ⟨asking, loading, missing, between, rfl, asks, goesOn⟩ :=
    rest.andThen_cases
  obtain ⟨isMissing, rfl, quiet⟩ := askMissing_course asks
  change missing = shelf.missingFonts between at isMissing
  subst isMissing
  have nothing :
      ∀ event ∈
        ({ before, call := .makeDirectories shelf.directory, answer := .ok (),
           after := between } :: asking : List (Event Disk)),
        event.call.isTransfer = false :=
    List.forall_mem_cons.mpr ⟨rfl, quiet⟩
  rw [← List.cons_append]
  unfold downloadMissing at goesOn
  split at goesOn
  · rename_i noneMissing
    cases goesOn
    rw [List.isEmpty_iff.mp noneMissing]
    exact ⟨[], .after_idle (.none _) nothing, rfl⟩
  · rw [if_neg (by omega), if_neg (by omega)] at goesOn
    obtain ⟨transfers, last, outcomes, ended, rfl, loads, ends⟩ :=
      goesOn.andThen_cases
    cases ends
    rw [List.append_nil]
    have size : 0 < batchSize.toNat := by omega
    have isWhole :=
      flatten_batches size (Nat.le_refl (shelf.missingFonts between).length)
    obtain ⟨downloads, made, rfl⟩ :=
      FontDownloads.of_batches
        (by
          rw [isWhole]
          exact fun font member => List.mem_of_mem_filter member)
        (by
          rw [isWhole]
          exact CatalogFont.nodup_catalog.filter _)
        loads
    rw [isWhole] at made
    exact ⟨downloads, made.after_idle nothing, rfl⟩

end FontShelf

/-! ## What is counted and what is there -/

/-- Of items that are chosen, as many are chosen more strictly only if all
are. -/
theorem countP_eq_countP_iff
    {α : Type}
    {chosen chosenStrictly : α → Bool}
    (included : ∀ item, chosenStrictly item = true → chosen item = true)
    (items : List α) :
    items.countP chosen = items.countP chosenStrictly ↔
      ∀ item ∈ items, chosen item = true → chosenStrictly item = true := by
  induction items with
  | nil => simp
  | cons item rest inductionHypothesis =>
      have fewer : rest.countP chosenStrictly ≤ rest.countP chosen :=
        List.countP_mono_left fun other _ => included other
      rw [List.forall_mem_cons, ← inductionHypothesis, List.countP_cons,
        List.countP_cons]
      cases isChosen : chosen item with
      | false =>
          have isNot : chosenStrictly item = false := by
            rw [Bool.eq_false_iff]
            intro isStrict
            rw [included item isStrict] at isChosen
            cases isChosen
          simp [isNot]
      | true =>
          cases isStrict : chosenStrictly item with
          | true => simp
          | false =>
              simp only [↓reduceIte, Bool.false_eq_true, imp_false,
                not_true_eq_false, false_and, iff_false]
              omega

/-- Whether a download wrote a content that is large enough for a font. -/
def FontDownload.writesFont (download : FontDownload) : Bool :=
  (writtenBody? download.events).any (FontShelf.leastSize < ·.length)

namespace FontDownloads

variable {shelf : FontShelf} {fonts : List CatalogFont}
  {events : List (Event Disk)} {before after : Disk}
  {downloads : List FontDownload}

/-- What is written is written into the files of the fonts. -/
theorem exists_of_writeFile
    (made : FontDownloads shelf fonts events before after downloads)
    {event : Event Disk}
    (member : event ∈ events)
    {path : Path}
    {content : Bytes}
    (writes : event.call = .writeFile path content) :
    ∃ font ∈ fonts, path = shelf.file font.name := by
  have isTransfer :
      event ∈ events.filter fun event => event.call.isTransfer := by
    rw [List.mem_filter, writes]
    exact ⟨member, rfl⟩
  obtain ⟨download, isDownload, isOwn⟩ :=
    List.mem_flatMap.mp (made.transfers.mem_iff.mp isTransfer)
  refine ⟨download.item, made.items ▸ List.mem_map_of_mem isDownload, ?_⟩
  rcases (made.courses download isDownload).call_cases event isOwn with
    ⟨address, isRequest⟩ | ⟨written, isWrite⟩
  · rw [writes] at isRequest
    cases isRequest
  · rw [writes] at isWrite
    exact (Call.writeFile.inj isWrite).1

theorem countP_isOk
    (made : FontDownloads shelf fonts events before after downloads) :
    (downloads.map Strand.value).countP Except.isOk =
      downloads.countP fun download =>
        (writtenBody? download.events).isSome := by
  rw [List.countP_map]
  refine List.countP_congr fun download member => ?_
  rw [Function.comp_apply, (made.courses download member).isOk_eq]

theorem holdsFont_of_not_mem
    (made : FontDownloads shelf fonts events before after downloads)
    {font : CatalogFont}
    (member : font ∈ CatalogFont.catalog)
    (isOther : font ∉ fonts) :
    shelf.holdsFont after font.name = shelf.holdsFont before font.name := by
  rw [Bool.eq_iff_iff, shelf.holdsFont_iff, shelf.holdsFont_iff,
    made.others font member isOther, made.folders.folders, made.folders.size]

/-- A font that was missing is there if a font was written. -/
theorem holdsFont_of_mem
    (made :
      FontDownloads shelf (shelf.missingFonts before) events before after
        downloads)
    {download : FontDownload}
    (member : download ∈ downloads) :
    shelf.holdsFont after download.item.name = download.writesFont := by
  have isMissing : download.item ∈ shelf.missingFonts before :=
    made.items ▸ List.mem_map_of_mem member
  have notBefore : shelf.holdsFont before download.item.name = false := by
    simpa using (List.mem_filter.mp isMissing).2
  have notHeld := Bool.eq_false_iff.mp notBefore
  rw [ne_eq, shelf.holdsFont_iff, not_or] at notHeld
  rw [Bool.eq_iff_iff, shelf.holdsFont_iff, made.files download member,
    made.folders.folders, made.folders.size, or_iff_left notHeld.2,
    FontDownload.writesFont]
  cases writtenBody? download.events with
  | some body => simp
  | none => simpa using notHeld.1

/-- The fonts that are there afterwards were there, or were written. -/
theorem heldCount_eq
    (made :
      FontDownloads shelf (shelf.missingFonts before) events before after
        downloads) :
    shelf.heldCount after =
      shelf.heldCount before +
        downloads.countP FontDownload.writesFont := by
  have split :=
    List.countP_eq_countP_filter_add CatalogFont.catalog
      (fun font => shelf.holdsFont after font.name)
      (fun font => shelf.holdsFont before font.name)
  have ofHeld :
      (CatalogFont.catalog.filter fun font =>
          shelf.holdsFont before font.name).countP
        (fun font => shelf.holdsFont after font.name) =
      shelf.heldCount before := by
    refine (List.countP_eq_length.mpr ?_).trans
      List.countP_eq_length_filter.symm
    intro font member
    obtain ⟨inCatalog, isHeld⟩ := List.mem_filter.mp member
    rw [made.holdsFont_of_not_mem inCatalog]
    · exact isHeld
    · intro isMissing
      simpa [isHeld] using (List.mem_filter.mp isMissing).2
  have ofMissing :
      (shelf.missingFonts before).countP
        (fun font => shelf.holdsFont after font.name) =
      downloads.countP FontDownload.writesFont := by
    rw [← made.items, List.countP_map]
    refine List.countP_congr fun download member => ?_
    rw [Function.comp_apply, made.holdsFont_of_mem member]
  rw [FontShelf.heldCount, split, ofHeld]
  exact congrArg _ ofMissing

end FontDownloads

namespace FontShelf

variable {shelf : FontShelf} {before opened final : Disk}
  {events : List (Event Disk)}

theorem heldCount_add_length (shelf : FontShelf) (disk : Disk) :
    shelf.heldCount disk + (shelf.missingFonts disk).length =
      CatalogFont.catalog.length := by
  rw [heldCount, missingFonts, List.countP_eq_length_filter]
  exact (List.length_eq_length_filter_add _).symm

/--
A setup with batches of any size comes to counts, whatever is answered. It
downloads each font once that is not there, with requests of its own, and
neither asks for a font that is there nor writes into its file. All fonts are
counted; those that were there are cached, and those whose body was written are
downloaded. Afterwards those fonts are there that were there or whose body is
large enough: so the counts agree with the disk exactly if every body that was
written is.
-/
theorem counts_of_setUp
    {batchSize : Int}
    {outcome : Outcome FontCounts}
    (positive : 1 ≤ batchSize)
    (made : before.makeDirectories shelf.directory = (.ok (), opened))
    (run :
      Run Disk.surroundings before (shelf.setUp batchSize) events outcome
        final) :
    ∃ (counts : FontCounts) (downloads : List FontDownload),
      outcome = .ok counts ∧
      FontDownloads shelf (shelf.missingFonts opened) events opened final
        downloads ∧
      (∀ font ∈ CatalogFont.catalog,
        shelf.holdsFont opened font.name = true →
        final.fileAt? (shelf.file font.name) =
            opened.fileAt? (shelf.file font.name) ∧
          ∀ event ∈ events, ∀ content,
            event.call ≠ .writeFile (shelf.file font.name) content) ∧
      counts.downloaded + counts.cached + counts.failed =
        CatalogFont.catalog.length ∧
      counts.cached = shelf.heldCount opened ∧
      counts.downloaded =
        (downloads.countP fun download =>
          (writtenBody? download.events).isSome) ∧
      shelf.heldCount final =
        counts.cached + downloads.countP FontDownload.writesFont ∧
      (counts.downloaded + counts.cached = shelf.heldCount final ↔
        ∀ download ∈ downloads, ∀ body,
          writtenBody? download.events = some body →
          leastSize < body.length) := by
  obtain ⟨downloads, loaded, rfl⟩ := setUp_course positive made run
  have lengths : downloads.length = (shelf.missingFonts opened).length := by
    rw [← loaded.items, List.length_map]
  have whole := heldCount_add_length shelf opened
  have isDownloaded := loaded.countP_isOk
  have ends :
      (downloads.map Strand.value).length =
        (downloads.map Strand.value).countP Except.isOk +
          (downloads.map Strand.value).countP fun outcome => !outcome.isOk := by
    rw [List.length_eq_countP_add_countP Except.isOk]
    exact congrArg _ (List.countP_congr fun outcome _ => by simp)
  rw [List.length_map, isDownloaded] at ends
  have cached :
      CatalogFont.catalog.length - (shelf.missingFonts opened).length =
        shelf.heldCount opened := by
    omega
  have held := loaded.heldCount_eq
  refine ⟨_, downloads, rfl, loaded, ?kept, ?total, cached, isDownloaded, ?held,
    ?agree⟩
  case kept =>
    intro font member isHeld
    have isOther : font ∉ shelf.missingFonts opened := by
      intro isMissing
      simpa [isHeld] using (List.mem_filter.mp isMissing).2
    refine ⟨loaded.others font member isOther, ?_⟩
    intro event isEvent content writes
    obtain ⟨other, isMissing, same⟩ := loaded.exists_of_writeFile isEvent writes
    refine shelf.file_ne (List.mem_of_mem_filter isMissing) member ?_ same
    rintro rfl
    exact isOther isMissing
  case total =>
    simp only [countsOf, isDownloaded, cached]
    omega
  case held =>
    simp only [countsOf, cached, held]
  case agree =>
    have included (download : FontDownload) :
        download.writesFont = true →
        (writtenBody? download.events).isSome = true := by
      unfold FontDownload.writesFont
      cases writtenBody? download.events <;> simp
    simp only [countsOf, isDownloaded, cached, held]
    rw [Nat.add_comm, Nat.add_left_cancel_iff,
      countP_eq_countP_iff included]
    refine forall₂_congr fun download member => ?_
    unfold FontDownload.writesFont
    cases writtenBody? download.events <;> simp

end FontShelf

/-! ## A font with an empty body -/

/-- What is written is kept, and a failure leaves the disk. -/
def Disk.keep (disk : Disk) : Outcome Disk → Outcome Unit × Disk
  | .ok written => (.ok (), written)
  | .error failure => (.error failure, disk)

/-- A disk that answers for itself, where all else succeeds: every address has
an empty body. -/
def Disk.answer (disk : Disk) : (call : Call) → call.Answer × Disk
  | .makeDirectories path => disk.makeDirectories path
  | .fileSize path => (disk.size path, disk)
  | .writeFile path content => disk.keep (disk.write path content)
  | call => (call.favourable, disk)

theorem Disk.answer_possible (disk : Disk) (call : Call) :
    Disk.surroundings.answers disk call (disk.answer call).1
      (disk.answer call).2 := by
  cases call with
  | makeDirectories path => rfl
  | fileSize path => exact ⟨rfl, rfl⟩
  | writeFile path content =>
      change
        Disk.Answers disk (.writeFile path content)
          (disk.keep (disk.write path content)).1
          (disk.keep (disk.write path content)).2
      cases isWritten : disk.write path content with
      | ok written => exact isWritten
      | error failure => exact ⟨isWritten, rfl⟩
  | request address => rfl
  | schedule => rfl
  | _ => trivial

namespace FontShelf

/-- A shelf in a directory of its own. -/
def ofRoot : FontShelf where
  directory := .ofText "/fonts"
  systemFont := ""

/-- A disk with all fonts but one. -/
def withoutAnton : Disk where
  entries :=
    (["fonts"], .directory) ::
      (CatalogFont.catalog.filter fun font => font.name ≠ "anton").map
        fun font =>
          (["fonts", font.name ++ ".ttf"],
            .file (List.replicate (leastSize + 1) 0))

/-- The font that is missing is counted as downloaded, and is still missing. -/
theorem empty_body_counts_as_download :
    ∃ events final,
      Run Disk.surroundings withoutAnton (ofRoot.setUp 5) events
        (.ok { downloaded := 1, cached := 27 }) final ∧
      ofRoot.heldCount final = 27 ∧
      ∃ download : FontDownload, ∃ body,
        writtenBody? download.events = some body ∧
          body.length ≤ leastSize := by
  have made :
      withoutAnton.makeDirectories ofRoot.directory = (.ok (), withoutAnton) :=
    Disk.makeDirectories_of_isDirectory (by decide +kernel)
  obtain ⟨events, run⟩ :=
    Run.of_answers Disk.answer (fun _ => rfl) Disk.answer_possible withoutAnton
      (ofRoot.setUp 5)
  have computed :
      ((ofRoot.setUp 5).run Disk.answer withoutAnton).1.toOption =
          some { downloaded := 1, cached := 27 } ∧
        ofRoot.heldCount ((ofRoot.setUp 5).run Disk.answer withoutAnton).2 =
          27 := by
    decide +kernel
  -- Nothing of the disk is needed from here on.
  generalize withoutAnton = disk at made run computed ⊢
  generalize ofRoot = shelf at made run computed ⊢
  generalize (shelf.setUp 5).run Disk.answer disk = ended at run computed
  obtain ⟨outcome, final⟩ := ended
  obtain ⟨isCounts, isHeld⟩ := computed
  cases outcome with
  | error failure => cases isCounts
  | ok counts =>
      cases isCounts
      refine ⟨events, final, run, isHeld, ?_⟩
      obtain ⟨counts, downloads, same, -, -, -, -, -, -, agree⟩ :=
        counts_of_setUp (by decide) made run
      cases same
      rw [isHeld] at agree
      by_contra noShort
      refine absurd (agree.mpr ?_) (by decide)
      intro download member body written
      by_contra short
      exact noShort ⟨download, body, written, Nat.not_lt.mp short⟩

end FontShelf

end Montage
