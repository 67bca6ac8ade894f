import Montage.Proofs.Disk.Files
import Montage.Proofs.Render.Names
import Montage.Proofs.Storage.Key
import Montage.Server.Answer

namespace Montage

/-!
# Downloads

What is asked for by a name that needs no escapes is the name as it is written.
If a file of that name stands in the directory of files in work, and the name
is none that is kept back, the file is handed out.
-/

/-! ## Targets without escapes -/

/-- A name after a separator is the last piece. -/
theorem getLast?_splitAtChar_append
    {separator : Char}
    {piece : List Char}
    (free : separator ∉ piece)
    (before : List Char) :
    (splitAtChar separator (before ++ separator :: piece)).getLast? =
      some piece := by
  rw [splitAtChar_append, splitAtChar_of_not_mem free, List.getLast?_concat]

/-- A name of characters that a job id may have. -/
structure IsSimpleName (name : String) : Prop where
  notEmpty : name.toList ≠ []
  notHidden : name.toList.head? ≠ some '.'
  characters : ∀ character ∈ name.toList, isJobIdCharacter character = true

namespace IsSimpleName

variable {name : String}

/-- A character that no job id has is not in the name. -/
theorem not_mem
    (simple : IsSimpleName name)
    {character : Char}
    (rejected : isJobIdCharacter character = false) :
    character ∉ name.toList := by
  intro member
  rw [simple.characters character member] at rejected
  cases rejected

theorem isPart
    (simple : IsSimpleName name) :
    Path.IsPart name where
  notEmpty := simple.notEmpty
  notDot := by
    intro isDot
    have notHidden := simple.notHidden
    rw [isDot] at notHidden
    exact notHidden rfl
  noSlash := simple.not_mem (by decide)

/-- The target that asks for a name leads to the download of the name. -/
theorem ofTarget_download
    (simple : IsSimpleName name)
    (servesStorage : Bool) :
    Destination.ofTarget servesStorage ("/download/" ++ name) =
      .endpoint (.download name) := by
  have written :
      ("/download/" ++ name).toList =
        '/' :: ("download".toList ++ '/' :: name.toList) := by
    rw [String.toList_append]
    rfl
  have free :
      ∀ character, isJobIdCharacter character = false → character ≠ '/' →
        character ∉ ("/download/" ++ name).toList := by
    intro character rejected notSlash member
    rw [written, List.mem_cons, List.mem_append, List.mem_cons] at member
    rcases member with isSlash | inWord | isSlash | inName
    · exact notSlash isSlash
    · have accepted :
          ("download".toList.all isJobIdCharacter) = true := by decide
      rw [List.all_eq_true.mp accepted character inWord] at rejected
      cases rejected
    · exact notSlash isSlash
    · exact simple.not_mem rejected inName
  have noEscape : ¬HasEscape ("/download/" ++ name).toList :=
    fun escaped => free '%' (by decide) (by decide) escaped.mem
  have noWord : '/' ∉ "download".toList := by decide
  have notEmpty : name.toList.isEmpty = false := by
    simpa using simple.notEmpty
  have found :
      Endpoint.ofPath? servesStorage ("/download/" ++ name).toList =
        some (.download name) := by
    rw [written]
    simp only [Endpoint.ofPath?]
    rw [splitAtChar_append_cons noWord,
      splitAtChar_of_not_mem (simple.not_mem (by decide))]
    simp [Endpoint.ofSegments?, notEmpty]
  unfold Destination.ofTarget
  rw [beforeChar_of_not_mem (free '#' (by decide) (by decide)),
    beforeChar_of_not_mem (free '?' (by decide) (by decide)),
    percentDecode_of_noEscape noEscape]
  simp only [found]

end IsSimpleName

/-! ## The file of a download -/

namespace Disk

/-- A file that stands is found and read. -/
theorem holds_of_fileAt?
    {disk : Disk}
    {path : Path}
    {content : Bytes}
    (stands : disk.fileAt? path = some content) :
    disk.holds path = .ok true := by
  obtain ⟨usable, place, located, isFile⟩ := fileAt?_eq_some_iff.mp stands
  have found := status_eq_ok_iff.mpr ⟨located, isFile⟩
  simp [holds, usable, found]

end Disk

namespace Server

/-- The file of a simple name is handed out whole if no part is asked for. -/
theorem download_of_file
    (server : Server)
    {request : HttpRequest}
    (whole : HttpResponse.askedRanges? request = none)
    {name : String}
    (simple : IsSimpleName name)
    {content : Bytes}
    (stands :
      server.world.disk.fileAt? (server.tempDirectory.child name) =
        some content) :
    server.download request name =
      (fileResponse "video/mp4" content).withHeader "content-disposition"
        (attachment name) := by
  have isLast : (Path.ofText name).name = name := by
    rw [Path.ofText_of_isPart simple.isPart]
    rfl
  have file :
      server.tempDirectory.join name = server.tempDirectory.child name :=
    Path.join_of_isPart _ simple.isPart
  have notEmpty : name.isEmpty = false := by
    simpa using simple.notEmpty
  unfold download
  simp only [isLast, file, notEmpty, simple.notHidden, Bool.false_or,
    decide_false, Bool.false_eq_true, ↓reduceIte,
    Disk.holds_of_fileAt? stands, Disk.read_eq_ok_iff.mpr stands]
  simp [HttpResponse.inParts, whole]

/-- Who asks for a file of a simple name gets all of it. -/
theorem answer_download
    (server : Server)
    {name : String}
    (simple : IsSimpleName name)
    {content : Bytes}
    (stands :
      server.world.disk.fileAt? (server.tempDirectory.child name) =
        some content)
    {headers : List (String × String)}
    (noRange : getField? "range" headers = none) :
    let request : HttpRequest := {
      method := "GET"
      target := "/download/" ++ name
      headers }
    (server.answer request).response.status = 200 ∧
    (server.answer request).response.body = .bytes content := by
  intro request
  have whole : HttpResponse.askedRanges? request = none := by
    simp [HttpResponse.askedRanges?, HttpRequest.header?, request, noRange]
  have routed :
      (server.route request).response =
        (fileResponse "video/mp4" content).withHeader "content-disposition"
          (attachment name) := by
    rw [← server.download_of_file whole simple stands]
    simp [route, request, simple.ofTarget_download, visit, look,
      Endpoint.method]
  have noQuestion : OriginPolicy.question? request = none := by
    simp [OriginPolicy.question?, request]
  have notHead : request.method ≠ "HEAD" := by
    simp [request]
  unfold answer
  simp only [noQuestion, routed, if_neg notHead]
  unfold OriginPolicy.admitResponse
  split <;> exact ⟨rfl, rfl⟩

end Server

end Montage
