import Landscape.Proofs.Render.Abort
import Landscape.Proofs.Render.Course
import Landscape.Proofs.Render.Knowledge
import Landscape.Proofs.Text.Lossy

/-!
# The image of the archive, in its file

The archive gives an image as bytes. A drawing takes them for a text, looks at it, and stores the bytes of the text: from
the archive to the file, an image is decoded once and encoded once. So the file holds what the archive gave, byte for
byte, if that was the encoding of a text; and if it was not, the file holds the encoding of its characters with one
U+FFFD for each part that is none (`Landscape.PlantUml.draw_of_image`). Nothing of this asks the server.
-/

namespace Landscape.PlantUml

variable {k : Renderer} {w : Host} {S : Settings} {text : String} {output errors : List UInt8} {target : FilePath}

/-- If the archive gives an image, a drawing comes to the text of it, and asks nobody else. -/
theorem svgIn_of_image (hS : k.settingsIn w = .ok S) (hruns : k.RunsJar w S text)
    (houtput : w.runs = .ended 0 output errors)
    (himage : looksLikeSvg (spelled (Utf8.decodeLossy output)) = true) :
    k.svgIn w text = .ok (String.ofList (spelled (Utf8.decodeLossy output))) ∧
      ∃ probes, k.requestsIn w text =
          probes ++ [.run (jarCommand S.jar.toString) (k.layoutIn w text) S.timeout] ∧
        ∀ q ∈ probes, ∃ program, q = .find program := by
  have hgives : w.runs.Gives (String.ofList (spelled (Utf8.decodeLossy output))) := by
    rw [houtput]
    exact ⟨rfl, rfl, by rwa [String.toList_ofList]⟩
  obtain ⟨probes, runs, fetches, hparts, hprobes, hcourse⟩ := exists_course hS text
  refine ⟨(hcourse.gives _).mpr (.inl ⟨hruns, hgives⟩), probes, ?_, hprobes⟩
  have hneedsNot : ¬k.NeedsServer w S text := by
    rintro ⟨-, hnot | ⟨-, hfails⟩⟩
    · exact hnot hruns.1
    · exact not_gives_of_fails hfails _ hgives
  obtain ⟨_, ⟨-, hneeds, -⟩, -⟩ | ⟨-, rfl⟩ := hcourse.fetch
  · exact absurd hneeds hneedsNot
  obtain ⟨-, rfl⟩ | ⟨hnot, -⟩ := hcourse.run
  · rw [hparts, List.append_nil]
  · exact absurd hruns hnot

/-- The image of a text that has been drawn is stored as it is. -/
theorem run_draw_of_svg {cs : List Char} {s₁ s : Renderer × Host} {r : Except Fault FilePath}
    (hdraw : (drawSvg text).run (k, w) = (.ok (String.ofList (spelled cs)), s₁))
    (hstore : (onHost (storeImage target (Utf8.encode cs))).run s₁ = (r, s)) :
    (draw text .svg target).run (k, w) = (r, s) := by
  have hbytes : (bytesOf (String.ofList (spelled cs)) : Drawing _).run s₁ = (.ok (Utf8.encode cs), s₁) := by
    have hanswers : (bytesOf (String.ofList (spelled cs)) : Drawing _).Answers id s₁ _ s₁ := Step.answers_bytesOf _
    rw [charsIn_spelled] at hanswers
    obtain ⟨hr, hs⟩ := hanswers s₁ rfl
    exact Prod.ext hr hs
  have himage : (image text .svg).run (k, w) = (.ok (Utf8.encode cs), s₁) :=
    (Step.run_bind_of_ok (Step.run_pure () _) _).trans ((Step.run_bind_of_ok hdraw _).trans hbytes)
  exact (Step.run_bind_of_ok himage _).trans hstore

/-- **The image of the archive reaches the file unchanged.** If the archive is there, ends well on a text, and its output
looks like an image once decoded, drawing the text into a writable place succeeds. Programs are looked for and the archive
is run, and nothing else is asked, no server in particular. The one file that changes holds the encoding of the text of
the output, each invalid part of which is replaced; and if the output is the encoding of any text, the file holds the
output. -/
theorem draw_of_image (hS : k.settingsIn w = .ok S) (hruns : k.RunsJar w S text)
    (houtput : w.runs = .ended 0 output errors)
    (himage : looksLikeSvg (spelled (Utf8.decodeLossy output)) = true) (htarget : w.Writable target) :
    ∃ s probes q image, (draw text .svg target).run (k, w) = (.ok target, s) ∧
      s.2.requests = w.requests ++
        (probes ++ [.run (jarCommand S.jar.toString) (k.layoutIn w text) S.timeout]) ∧
      (∀ r ∈ probes, ∃ program, r = .find program) ∧
      s.2.files.Leads w.here target q ∧ s.2.files.file? q = some image ∧
      (∀ q', q' ≠ q → s.2.files.file? q' = w.files.file? q') ∧
      (∃ cs, Utf8.LossyText output cs ∧ image = Utf8.encode cs) ∧
      ((∃ cs, Utf8.encode cs = output) → image = output) := by
  obtain ⟨hsvg, probes, hasked, hprobes⟩ := svgIn_of_image hS hruns houtput himage
  obtain ⟨k₁, w₁, hdraw, hworld, hrequests, -⟩ := (findsBy_drawSvg k w text).exists_run
  rw [hsvg] at hdraw
  have hfiles := Host.files_eq_of_world hworld
  have hhere := Host.here_eq_of_world hworld
  -- the drawing has left the files as they were, so that what was writable before still is
  obtain ⟨r, fs, w₂, hstores, hworld', hstore⟩ :=
    exists_run_storeImage w₁ target (Utf8.encode (Utf8.decodeLossy output))
  rw [hfiles, hhere] at hstores
  obtain ⟨fs', hstores'⟩ := htarget.exists_stores (Utf8.encode (Utf8.decodeLossy output))
  obtain ⟨rfl, rfl⟩ := hstores.unique hstores'
  obtain ⟨q, hleads, hfile, -, hothers⟩ := hstores.exists_leads
  have hfs : w₂.files = fs := congrArg Host.files hworld'
  have hquiet : w₂.requests = w₁.requests := by
    have := quiet_storeImage target (Utf8.encode (Utf8.decodeLossy output)) w₁
    rwa [hstore] at this
  refine ⟨(k₁, w₂), probes, q, Utf8.encode (Utf8.decodeLossy output), run_draw_of_svg hdraw ?_, ?_, hprobes, ?_, ?_, ?_,
    ⟨_, Utf8.lossyText_iff.mpr rfl, rfl⟩, ?_⟩
  · rw [onHost, Step.run_within, hstore]
    rfl
  · rw [hquiet, hrequests, hasked]
  · rw [hfs]
    exact hleads
  · rw [hfs]
    exact hfile
  · rw [hfs]
    exact hothers
  · rintro ⟨cs, rfl⟩
    rw [Utf8.decodeLossy_encode]

/-- An image with a character that breaks off after two of its three bytes. -/
def brokenImage : List UInt8 :=
  Utf8.encode "<svg>".toList ++ [0xe2, 0x82] ++ Utf8.encode "</svg>".toList

/-- A host whose archive gives this image. -/
def breaking : Host :=
  { runs := .ended 0 brokenImage [] }

/-- Of an image with a character that breaks off, the file holds the rest, with one replacement for the two bytes. -/
theorem draw_of_image_breaking :
    ∃ s probes, (draw "@startuml\n@enduml\n" .svg ⟨.none, ["a.svg"]⟩).run (jarFinder, breaking) =
        (.ok ⟨.none, ["a.svg"]⟩, s) ∧
      s.2.requests = probes ++ [.run (jarCommand "/tools/plantuml/plantuml.jar")
        "@startuml\n!pragma layout smetana\n@enduml\n" (.int 60)] ∧
      s.2.files.fileOf? [] ⟨.none, ["a.svg"]⟩ = some (Utf8.encode "<svg>\ufffd</svg>".toList) := by
  have hmade : FileSystem.ensureDirectory {} [] (FilePath.parent ⟨.none, ["a.svg"]⟩) = ({}, none) := by decide +kernel
  have hwrite : FileSystem.write {} [] ⟨.none, ["a.svg"]⟩ [] = .ok ⟨[(["a.svg"], .file [])]⟩ := by decide +kernel
  have hstores := Host.Stores.written (Host.unusable?_eq_none (by decide +kernel) (by decide +kernel)) hmade
    (Host.unusable?_eq_none (by decide +kernel) (by decide +kernel)) hwrite
  have hwritable : breaking.Writable ⟨.none, ["a.svg"]⟩ := Host.Stores.writable hstores
  have hdecoded : Utf8.decodeLossy brokenImage = "<svg>\ufffd</svg>".toList := by decide +kernel
  have hS : jarFinder.settingsIn breaking = .ok (Settings.usual ⟨.single, []⟩) := rfl
  have hruns : jarFinder.RunsJar breaking (Settings.usual ⟨.single, []⟩) "@startuml\n@enduml\n" :=
    ⟨.inl rfl, by decide⟩
  have hjar : (Settings.usual ⟨.single, []⟩).jar.toString = "/tools/plantuml/plantuml.jar" := by decide
  have hlayout : jarFinder.layoutIn breaking "@startuml\n@enduml\n" =
    "@startuml\n!pragma layout smetana\n@enduml\n" := by decide
  obtain ⟨s, probes, q, image, hrun, hrequests, -, hleads, hfile, -, ⟨cs, hcs, rfl⟩, -⟩ :=
    draw_of_image hS hruns rfl (by rw [hdecoded]; decide +kernel) hwritable
  rw [hjar, hlayout] at hrequests
  obtain rfl := hdecoded.symm.trans (Utf8.lossyText_iff.mp hcs)
  have hparts : FilePath.parts ⟨.none, ["a.svg"]⟩ = [] ++ ["a.svg"] := rfl
  exact ⟨s, probes, hrun, hrequests, (FileSystem.fileOf?_of_leads hparts (by decide) hleads).trans hfile⟩

end Landscape.PlantUml
