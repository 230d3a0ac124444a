import ContainerCert.Proofs.ArtifactFiles
import ContainerCert.Proofs.Cancellation
import ContainerCert.Proofs.MeasuredTimes
import ContainerCert.Proofs.ProjectRequest
import ContainerCert.Proofs.ReferenceDocuments

/-!
# What a run does to files

A run touches files in an order that its outcome tells. Before its artifacts directory is made it
touches nothing; then it puts the reference of the image into this directory, and after it the
documents of its results, each under a name of its own; the submission that comes last only reads
them. So every way to end leaves the directory with the first of these files.
-/

namespace ContainerCert.Run

open Check (withOptionsMade)
open Config (RunConfiguration Settings)
open Files
open Files.FileTree (AddsDirectories)
open Files.Path (IsName join)
open Report (Format Results)

/-- The artifacts directory of a run: the configuration that names it, its path, the tree once it is
made, and where it stands in this tree. -/
structure ArtifactsDirectory (settings : Settings) (before : FileTree) where
  config : RunConfiguration
  path : String
  tree : FileTree
  location : Location
  renders : RunConfiguration.ofSettings settings = .ok config
  made : Artifacts.makeDirectory config.artifacts before = (.ok path, tree)
  stands : tree.find path = .ok (location, .directory)
  adds : AddsDirectories before tree

/-- What a run does besides writing its results, once the options of the engine are made. -/
def extrasFor (config : RunConfiguration) : Extras :=
  ⟨config.junit, (withOptionsMade config).submit⟩

/-- The file that holds the reference of the image. -/
def referenceFile (reference : Image.Reference) : String × ByteArray :=
  ("image-reference.json", reference.toJson.prettyText.toUTF8)

/-- The name of the file that holds the output of a run. -/
def outputName : Format → String
  | .json => "results.json"
  | .junit => "results.xml"
  | .table => "results.txt"

/-- The documents of a run: their names, and the formats that they show the results in. -/
def resultDocuments (format : Format) (extras : Extras) : List (String × Format) :=
  (outputName format, format) ::
    ((if extras.submit = true ∧ format ≠ .json then [("results.json", .json)] else []) ++
      if extras.junit then [("results-junit.xml", .junit)] else [])

/-- The files that hold the documents of a run, for the texts of its results in each format. -/
def resultFiles (format : Format) (extras : Extras) (texts : Format → String) :
    List (String × ByteArray) :=
  (resultDocuments format extras).map fun document => (document.1, (texts document.2).toUTF8)

section Names

variable (format : Format) (extras : Extras) (texts : Format → String)

/-- The files of a run have names, and no two of them the same. -/
theorem resultDocuments_names :
    (∀ name ∈ "image-reference.json" :: (resultDocuments format extras).map Prod.fst,
      IsName name) ∧
    ("image-reference.json" :: (resultDocuments format extras).map Prod.fst).Nodup := by
  rcases extras with ⟨_ | _, _ | _⟩ <;> cases format <;> decide +kernel

/-- The results as JUnit XML are a document of their own exactly if they are asked for. -/
theorem resultDocuments_junit : if extras.junit then
      ("results-junit.xml", .junit) ∈ resultDocuments format extras
    else "results-junit.xml" ∉
      "image-reference.json" :: (resultDocuments format extras).map Prod.fst := by
  rcases extras with ⟨_ | _, _ | _⟩ <;> cases format <;> decide +kernel

/-- Results that are shown in another format are written as JSON exactly if they are submitted. -/
theorem resultDocuments_json (hformat : format ≠ .json) : if extras.submit then
      ("results.json", .json) ∈ resultDocuments format extras
    else "results.json" ∉
      "image-reference.json" :: (resultDocuments format extras).map Prod.fst := by
  cases format with
  | json => exact absurd rfl hformat
  | junit | table => rcases extras with ⟨_ | _, _ | _⟩ <;> decide +kernel

theorem map_fst_resultFiles :
    (resultFiles format extras texts).map Prod.fst =
      (resultDocuments format extras).map Prod.fst :=
  List.map_map

theorem mem_resultFiles {name : String} {shown : Format}
    (h : (name, shown) ∈ resultDocuments format extras) :
    (name, (texts shown).toUTF8) ∈ resultFiles format extras texts :=
  List.mem_map.mpr ⟨(name, shown), h, rfl⟩

theorem isName_of_mem_resultFiles {file : String × ByteArray}
    (hfile : file ∈ resultFiles format extras texts) : IsName file.1 := by
  refine (resultDocuments_names format extras).1 _ (List.mem_cons_of_mem _ ?_)
  rw [← map_fst_resultFiles format extras texts]
  exact List.mem_map_of_mem hfile

theorem outputName_eq : outputName format = "results." ++ format.extension := by
  cases format <;> rfl

/-- Where the times of the checks can be added up, results have a text in each format. -/
theorem exists_texts {results : Results} (hfits : results.groups.Addable) :
    ∃ texts : Format → String, ∀ format : Format, format.render results = some (texts format) := by
  obtain ⟨document, hdocument⟩ := Report.Junit.exists_render_iff.mpr hfits
  refine ⟨fun
    | .json => Format.renderJson results
    | .junit => document
    | .table => Report.Table.render results, fun format => ?_⟩
  cases format with
  | junit => exact hdocument
  | json | table => rfl

theorem formatter_render {results : Results}
    (htexts : ∀ format : Format, format.render results = some (texts format)) :
    format.formatter.render results = .ok (texts format).toUTF8 := by
  simp only [Format.formatter, htexts]

/-- Saving the documents of a run is writing them under their names. -/
theorem forM_documents {results : Results}
    (htexts : ∀ format : Format, format.render results = some (texts format)) (artifacts : String) :
    (documents artifacts format.formatter extras).forM (Document.save machineWriter results) =
      persistAll artifacts (resultFiles format extras texts) := by
  have hdocuments : documents artifacts format.formatter extras =
      (resultDocuments format extras).map fun document =>
        ⟨join artifacts document.1, document.2.formatter⟩ := by
    unfold documents resultDocuments
    cases extras.submit <;> cases extras.junit <;> cases format <;> rfl
  rw [hdocuments, persistAll, resultFiles]
  induction resultDocuments format extras with
  | nil => rfl
  | cons document rest ih =>
    rw [List.map_cons, List.map_cons, Action.forM_cons, Action.forM_cons, ih,
      Document.save_of_render (formatter_render document.2 texts htexts)]

end Names

/-- The directory of artifacts that was made has a path that leads to it. -/
theorem exists_artifactsDirectory {settings : Settings} {before tree : FileTree}
    {config : RunConfiguration} {path : String}
    (hrenders : RunConfiguration.ofSettings settings = .ok config)
    (hmade : Artifacts.makeDirectory config.artifacts before = (.ok path, tree)) :
    ∃ directory : ArtifactsDirectory settings before,
      directory.config = config ∧ directory.path = path ∧ directory.tree = tree := by
  obtain ⟨location, hstands⟩ := Artifacts.find_of_makeDirectory hmade
  have hadds :=
    (Artifacts.makeDirectory_preserves config.artifacts before).of_run hmade (.refl before)
  exact ⟨⟨config, path, tree, location, hrenders, hmade, hstands, hadds⟩, rfl, rfl, rfl⟩

variable {context : Context Machine} {image : String} {settings : Settings} {before : FileTree}

/-- The files once the reference of the image was written into the artifacts directory. -/
structure HoldsReference (directory : ArtifactsDirectory settings before) (image : String)
    (reference : Image.Reference) (files : FileTree) : Prop where
  parses : Image.Reference.parse image = .ok reference
  free : directory.tree.node? (directory.location ++ ["image-reference.json"]) ≠ some .directory
  eq : files = directory.tree.withFiles directory.location [referenceFile reference]
  holds : files.Holds (join directory.path "image-reference.json")
    reference.toJson.prettyText.toUTF8

/-- The machine has the given files and network. -/
def Machine.HasBoth (files : FileTree) (network : Pyxis.Network) (machine : Machine) : Prop :=
  machine.files = files ∧ machine.network = network

/-- The engine fails before it has written anything, or writes the reference of the image. -/
theorem engine_cases {directory : ArtifactsDirectory settings before} {machine after : Machine}
    {result : Except Check.CheckError Results}
    (h : engineFor image directory.config (directoryScope context directory.path)
      { machine with files := directory.tree } = (result, after)) :
    after.network = machine.network ∧
      ((∃ cause, result = .error cause) ∧ after.files = directory.tree ∨
        ∃ reference, HoldsReference directory image reference after.files) := by
  let bound := context.withArtifacts (Machine.directoryWriter directory.path)
  let started : Machine :=
    { machine with files := directory.tree, signals := machine.signals.advance }
  have hlook := @Check.checkpoint_apply bound { machine with files := directory.tree }
  rw [engineFor, Check.engine, directoryScope] at h
  split at hlook
  · rw [Action.bind_of_error hlook, Action.ending_inj] at h
    obtain ⟨rfl, rfl⟩ := h
    exact ⟨rfl, .inl ⟨⟨_, rfl⟩, rfl⟩⟩
  · rw [Action.bind_of_ok hlook] at h
    cases hparse : Image.Reference.parse image with
    | error cause =>
      rw [hparse, Action.mapError_error, Action.bind_of_error (Action.ofExcept_apply _ _),
        Action.ending_inj] at h
      obtain ⟨rfl, rfl⟩ := h
      exact ⟨rfl, .inl ⟨⟨_, rfl⟩, rfl⟩⟩
    | ok reference =>
      rw [hparse, Action.mapError_ok, Action.bind_of_ok (Action.ofExcept_apply _ _)] at h
      have hname : IsName "image-reference.json" := by decide +kernel
      have hwrite := Check.writeReference_apply context directory.path reference started
      rw [Check.referenceArtifact] at hwrite
      obtain ⟨cause, hfails⟩ | ⟨hfree, hholds, hwrites⟩ :=
        Artifacts.writeFile_cases directory.stands hname reference.toJson.prettyText.toUTF8
      · rw [hfails] at hwrite
        rw [Action.bind_of_error hwrite, Action.ending_inj] at h
        obtain ⟨rfl, rfl⟩ := h
        exact ⟨rfl, .inl ⟨⟨_, rfl⟩, rfl⟩⟩
      · rw [hwrites] at hwrite
        rw [Action.bind_of_ok hwrite] at h
        have hrest := @Check.evaluation_preserves bound (Machine.HasBoth
          (directory.tree.withFiles directory.location [referenceFile reference]) machine.network)
          (fun _ _ hboth => hboth) image
            ⟨reference, Check.EngineSettings.ofOptions (Check.optionsFor directory.config)⟩
        obtain ⟨hfiles, hnetwork⟩ := hrest.of_run h ⟨rfl, rfl⟩
        refine ⟨hnetwork, .inr ⟨reference, hparse, hfree, hfiles, ?_⟩⟩
        rw [hfiles]
        exact hholds

/-- Only the name of a format can be at fault. -/
theorem eq_unknown_of_ofName {name : String} {cause : Report.FormatError}
    (h : Format.ofName name = .error cause) : cause = .unknown name := by
  unfold Format.ofName at h
  split at h <;> cases h
  rfl

/-- A run that is not made ready was refused before it touched anything, or its directory could not
be made, or this was made and the format is unknown. -/
theorem prepare_error_cases {machine started : Machine} {cause : RunError}
    (h : prepare context image settings machine = (.error cause, started)) :
    (((∃ reason, cause = .context reason) ∨ ∃ told, cause = .configuration told) ∧
        started = machine) ∨
      (∃ path told files, cause = .artifacts path told ∧ AddsDirectories machine.files files ∧
        started = { machine with files }) ∨
      ∃ name, ∃ directory : ArtifactsDirectory settings machine.files,
        cause = .formatter (.unknown name) ∧
          started = { machine with files := directory.tree } := by
  cases hlogger : context.logger with
  | none =>
    simp only [prepare, hlogger, Option.isNone_none, if_true] at h
    obtain ⟨hcause, rfl⟩ := Action.ending_inj.mp h
    exact .inl ⟨.inl ⟨_, (Except.error.inj hcause).symm⟩, rfl⟩
  | some logger =>
    simp only [prepare, hlogger, Option.isNone_some, Bool.false_eq_true, if_false] at h
    rcases Action.bind_eq_error.mp h with hrefused | ⟨config, _, hconfig, hrest⟩
    · obtain ⟨hcause, rfl⟩ := Action.ending_inj.mp hrefused
      obtain ⟨told, -, rfl⟩ := Action.mapError_eq_error.mp hcause
      exact .inl ⟨.inr ⟨told, rfl⟩, rfl⟩
    · obtain ⟨hrenders, rfl⟩ := Action.ending_inj.mp hconfig
      rcases Action.bind_eq_error.mp hrest with hfails | ⟨path, between, hmake, hlater⟩
      · simp only [Machine.onFiles, Action.within_apply, Action.mapError_apply,
          Action.ending_inj, Action.mapError_eq_error] at hfails
        obtain ⟨⟨told, -, rfl⟩, rfl⟩ := hfails
        exact .inr (.inl ⟨_, told, _, rfl,
          Artifacts.makeDirectory_preserves config.artifacts machine.files _ (.refl _), rfl⟩)
      · simp only [Machine.onFiles, Action.within_apply, Action.mapError_apply,
          Action.ending_inj, Action.mapError_eq_ok] at hmake
        obtain ⟨hmade, rfl⟩ := hmake
        obtain ⟨directory, -, -, htree⟩ := exists_artifactsDirectory
          (Action.mapError_eq_ok.mp hrenders) (Prod.ext hmade rfl)
        rcases Action.bind_eq_error.mp hlater with hunknown | ⟨format, _, -, hlast⟩
        · obtain ⟨hcause, rfl⟩ := Action.ending_inj.mp hunknown
          obtain ⟨told, htold, rfl⟩ := Action.mapError_eq_error.mp hcause
          obtain rfl := eq_unknown_of_ofName htold
          exact .inr (.inr ⟨_, directory, rfl, by rw [htree]⟩)
        · obtain ⟨hfails, -⟩ := Action.ending_inj.mp hlast
          cases hfails

/-- A run whose engine gave results: its artifacts directory, the format, the results and their
texts in each format, and the machine by then, with the reference of the image in the directory. -/
structure CheckedRun (context : Context Machine) (image : String) (settings : Settings)
    (machine : Machine) where
  directory : ArtifactsDirectory settings machine.files
  format : Format
  results : Results
  texts : Format → String
  reference : Image.Reference
  checked : Machine
  known : Format.ofName directory.config.responseFormat = .ok format
  gives : engineFor image directory.config (directoryScope context directory.path)
    { machine with files := directory.tree } = (.ok results, checked)
  renders : ∀ format : Format, format.render results = some (texts format)
  written : HoldsReference directory image reference checked.files

namespace CheckedRun

variable {machine : Machine} (run : CheckedRun context image settings machine)

/-- The documents of the run. -/
def documents : List (String × ByteArray) :=
  resultFiles run.format (extrasFor run.directory.config) run.texts

/-- The path of a name in the artifacts directory. -/
def pathOf (name : String) : String :=
  join run.directory.path name

/-- The files once some documents were written. -/
def filesWith (written : List (String × ByteArray)) : FileTree :=
  run.checked.files.withFiles run.directory.location written

/-- What a run that goes through gives back. -/
def outcome : Outcome where
  output := (run.texts run.format).toUTF8
  resultsPath := run.pathOf (outputName run.format)
  passed := run.results.passed

/-- What the run does once its engine gave results. -/
def goOn : Action Machine RunError Unit :=
  (stages run.directory.path run.format.formatter (extrasFor run.directory.config)).forM
    (Stage.run (directoryScope context run.directory.path)
      (workFor image run.directory.config run.format) run.results)

/-- All files of a run stand where they were written. -/
structure IsComplete (files : FileTree) : Prop where
  eq : files = run.filesWith run.documents
  reference : files.Holds (run.pathOf "image-reference.json")
    run.reference.toJson.prettyText.toUTF8
  documents : ∀ file ∈ run.documents, files.Holds (run.pathOf file.1) file.2

end CheckedRun

/-- How a run for an image ends, and the machine that it leaves. -/
inductive Leaves (context : Context Machine) (image : String) (settings : Settings)
    (machine : Machine) : Except RunError Outcome → Machine → Prop
  | contextFails {reason : String} :
      Leaves context image settings machine (.error (.context reason)) machine
  | configurationFails {cause : Config.ConfigurationError} :
      Leaves context image settings machine (.error (.configuration cause)) machine
  | directoryFails {path : String} {cause : IoError} {files : FileTree}
      (hadds : AddsDirectories machine.files files) :
      Leaves context image settings machine (.error (.artifacts path cause)) { machine with files }
  | formatUnknown {name : String} (directory : ArtifactsDirectory settings machine.files) :
      Leaves context image settings machine (.error (.formatter (.unknown name)))
        { machine with files := directory.tree }
  | isCancelled {after : Machine} (directory : ArtifactsDirectory settings machine.files)
      (hfiles : after.files = directory.tree ∨
        ∃ reference, HoldsReference directory image reference after.files) :
      Leaves context image settings machine (.error .cancelled) after
  | engineFails {cause : Check.CheckError} {after : Machine}
      (directory : ArtifactsDirectory settings machine.files)
      (hfiles : after.files = directory.tree ∨
        ∃ reference, HoldsReference directory image reference after.files) :
      Leaves context image settings machine (.error (.checkExecution cause)) after
  | documentFails {path : String} {cause : IoError} {after : Machine}
      {written : List (String × ByteArray)} (run : CheckedRun context image settings machine)
      (hwritten : written <+: run.documents) (hfiles : after.files = run.filesWith written)
      (hnetwork : after.network = machine.network) :
      Leaves context image settings machine (.error (.persistence path cause)) after
  | submissionFails {cause : SubmitError} {after : Machine}
      (run : CheckedRun context image settings machine) (hcomplete : run.IsComplete after.files) :
      Leaves context image settings machine (.error (.submission cause)) after
  | finishes {after : Machine} (run : CheckedRun context image settings machine)
      (hcomplete : run.IsComplete after.files) :
      Leaves context image settings machine (.ok run.outcome) after

/-- A check that fails does so with an error of the engine, and leaves its files as the engine
does. -/
theorem check_error_cases {artifacts : String} {engine : Check.Engine Machine}
    {machine after : Machine} {cause : RunError}
    (h : check (directoryScope context artifacts) engine machine = (.error cause, after)) :
    cause.OfEngine ∧ ∃ told failed,
      engine (directoryScope context artifacts) machine = (.error told, failed) ∧
        after.files = failed.files := by
  rcases hengine : engine (directoryScope context artifacts) machine with ⟨told | results, failed⟩
  · by_cases hcancelled : told = .cancelled
    · subst hcancelled
      rw [check_of_cancelled hengine, Action.ending_inj] at h
      obtain ⟨hcause, rfl⟩ := h
      cases hcause
      exact ⟨trivial, _, _, rfl, rfl⟩
    · rw [check_of_error hcancelled hengine, Action.ending_inj] at h
      obtain ⟨hcause, rfl⟩ := h
      refine ⟨?_, _, _, rfl, rfl⟩
      split at hcause <;> cases hcause <;> exact trivial
  · rw [check_eq_ok_iff.mpr hengine] at h
    cases h

/-- A submission only reads the files. -/
theorem submit_preserves_files (submission : Submission) (scope : Check.Scope Machine)
    (files : FileTree) :
    (submission.submitter.submit scope).Preserves fun machine => machine.files = files := by
  cases submission with
  | nothing told => exact .pure ()
  | service submission =>
    cases hbound : scope.artifacts with
    | none =>
      intro machine hmachine
      simpa [Submission.submitter, hbound] using hmachine
    | some place =>
      intro machine hmachine
      obtain ⟨made, result, hrun, -⟩ := submission.exists_sends place.path machine
      rw [Submission.submit_of_bound hbound, hrun]
      exact hmachine

namespace CheckedRun

variable {machine : Machine} (run : CheckedRun context image settings machine)

/-- The directory is still there once the engine is done. -/
theorem find_directory : run.checked.files.find run.directory.path =
    .ok (run.directory.location, .directory) := by
  rw [run.written.eq]
  exact FileTree.find_directory_withFiles (by simpa [referenceFile] using run.written.free)
    run.directory.stands

/-- Once its engine gave results, a run goes through its stages. -/
theorem perform_eq {result : Except RunError Unit} {after : Machine}
    (h : run.goOn run.checked = (result, after)) :
    perform (directoryScope context run.directory.path)
        (workFor image run.directory.config run.format) (extrasFor run.directory.config)
        { machine with files := run.directory.tree } =
      (result.map fun _ => run.outcome, after) := by
  have hcheck : check (directoryScope context run.directory.path)
      (workFor image run.directory.config run.format).engine
      { machine with files := run.directory.tree } = (.ok run.results, run.checked) :=
    check_eq_ok_iff.mpr run.gives
  have hgoes : (stages (Machine.directoryWriter run.directory.path).path
      (workFor image run.directory.config run.format).formatter
      (extrasFor run.directory.config)).forM (Stage.run (directoryScope context run.directory.path)
        (workFor image run.directory.config run.format) run.results) run.checked =
          (result, after) := h
  have hrender : (workFor image run.directory.config run.format).formatter.render run.results =
      .ok (run.texts run.format).toUTF8 := formatter_render run.format run.texts run.renders
  rw [perform_apply (directoryScope_artifacts _ _), hcheck]
  simp only [hgoes]
  cases result with
  | error cause => rfl
  | ok _ =>
    have hname : "results." ++ (workFor image run.directory.config run.format).formatter.extension =
        outputName run.format := (outputName_eq run.format).symm
    simp only [hrender, hname]
    rfl

theorem isName_of_mem_documents : ∀ file ∈ run.documents, IsName file.1 :=
  fun _ => isName_of_mem_resultFiles _ _ run.texts

/-- Once its engine gave results, a run writes its documents and then submits. -/
theorem goOn_eq : run.goOn = persistAll run.directory.path run.documents >>= fun _ =>
    if (extrasFor run.directory.config).submit then
      ((workFor image run.directory.config run.format).submitter.submit
        (directoryScope context run.directory.path)).mapError .submission
    else pure () := by
  rw [goOn, forM_stages, show (workFor image run.directory.config run.format).writer =
    machineWriter from rfl, forM_documents _ _ _ run.renders]
  rfl

/-- Once all documents are written, all files of the run stand. -/
theorem isComplete_of_persistAll {saved : Machine}
    (h : persistAll run.directory.path run.documents run.checked = (.ok (), saved)) :
    run.IsComplete saved.files := by
  obtain ⟨-, hdistinct⟩ := resultDocuments_names run.format (extrasFor run.directory.config)
  rw [← map_fst_resultFiles _ _ run.texts, List.nodup_cons] at hdistinct
  refine ⟨?_, ?_, holds_of_persistAll run.isName_of_mem_documents hdistinct.2 h⟩
  · rcases persistAll_cases run.find_directory run.isName_of_mem_documents with
      hall | ⟨_, _, _, _, -, hfails⟩
    · have hsaved := h.symm.trans hall
      rw [(Action.ending_inj.mp hsaved).2]
      rfl
    · cases h.symm.trans hfails
  · refine (persistAll_preserves_holds (by decide +kernel) fun file hfile => ?_).of_run h
      run.written.holds
    exact ⟨(run.isName_of_mem_documents file hfile).1, fun hsame =>
      hdistinct.1 (hsame ▸ List.mem_map_of_mem hfile)⟩

end CheckedRun

variable {machine : Machine}

/-- Once its engine gave results, a run fails with a document or with its submission, or it goes
through. -/
theorem leaves_of_goOn (run : CheckedRun context image settings machine)
    (hnetwork : run.checked.network = machine.network) {after : Machine}
    {result : Except RunError Unit} (h : run.goOn run.checked = (result, after)) :
    Leaves context image settings machine (result.map fun _ => run.outcome) after := by
  rw [run.goOn_eq] at h
  rcases persistAll_cases run.find_directory run.isName_of_mem_documents with
    hall | ⟨written, file, left, cause, hsplit, hfails⟩
  · have hcomplete := run.isComplete_of_persistAll hall
    rw [Action.bind_of_ok hall] at h
    split at h
    · have hread : after.files = _ := ((submit_preserves_files (Submission.resolve
        (Submission.clientFor (withOptionsMade run.directory.config))
        (withOptionsMade run.directory.config)) (directoryScope context run.directory.path)
        (run.filesWith run.documents)).mapError RunError.submission).of_run h rfl
      rw [workFor, Action.mapError_apply, Action.ending_inj] at h
      rw [← h.1]
      cases Prod.fst (α := Except SubmitError Unit) (β := Machine) _ with
      | error cause => exact .submissionFails run (hread ▸ hcomplete)
      | ok _ => exact .finishes run (hread ▸ hcomplete)
    · obtain ⟨rfl, rfl⟩ := Action.ending_inj.mp h
      exact .finishes run hcomplete
  · rw [Action.bind_of_error hfails, Action.ending_inj] at h
    obtain ⟨rfl, rfl⟩ := h
    exact .documentFails run ⟨_, hsplit.symm⟩ rfl hnetwork

/-- A run that is not made ready ends in one of the ways before its engine. -/
theorem leaves_of_prepare_error {cause : RunError} {started : Machine}
    (h : prepare context image settings machine = (.error cause, started)) :
    Leaves context image settings machine (.error cause) started := by
  rcases prepare_error_cases h with ⟨⟨reason, rfl⟩ | ⟨told, rfl⟩, rfl⟩ |
    ⟨path, told, files, rfl, hadds, rfl⟩ | ⟨told, directory, rfl, rfl⟩
  · exact .contextFails
  · exact .configurationFails
  · exact .directoryFails hadds
  · exact .formatUnknown directory

/-- A run whose engine fails leaves its artifacts directory, with at most the reference in it. -/
theorem leaves_of_check_error (directory : ArtifactsDirectory settings machine.files)
    {cause : RunError} {checked : Machine}
    (h : check (directoryScope context directory.path) (engineFor image directory.config)
      { machine with files := directory.tree } = (.error cause, checked)) :
    Leaves context image settings machine (.error cause) checked := by
  obtain ⟨hcause, told, failed, hengine, hfiles⟩ := check_error_cases h
  have hleft : checked.files = directory.tree ∨
      ∃ reference, HoldsReference directory image reference checked.files := by
    obtain ⟨-, ⟨-, hleft⟩ | hwritten⟩ := engine_cases hengine
    · exact .inl (hfiles.trans hleft)
    · exact .inr (hfiles ▸ hwritten)
  cases cause with
  | cancelled => exact .isCancelled directory hleft
  | checkExecution told => exact .engineFails directory hleft
  | context | configuration | artifacts | formatter | persistence | submission => exact hcause.elim

/-- Every run for an image ends in one of these ways. -/
theorem exists_leaves (context : Context Machine) (image : String) (settings : Settings)
    (machine : Machine) :
    ∃ outcome after, checkContainer context image settings machine = (outcome, after) ∧
      Leaves context image settings machine outcome after := by
  rcases hprepare : prepare context image settings machine with ⟨cause | prepared, started⟩
  · exact ⟨.error cause, started, Action.bind_of_error hprepare _, leaves_of_prepare_error hprepare⟩
  · obtain ⟨-, config, path, files, format, hrenders, hmade, hknown, rfl, rfl⟩ :=
      (prepare_eq_ok_iff image).mp hprepare
    obtain ⟨directory, rfl, rfl, rfl⟩ := exists_artifactsDirectory hrenders hmade
    rw [checkContainer, Action.bind_of_ok hprepare]
    rcases hcheck : check (directoryScope context directory.path)
      (engineFor image directory.config) { machine with files := directory.tree } with
      ⟨cause | results, checked⟩
    · have hperform : perform (directoryScope context directory.path)
          (workFor image directory.config format) (extrasFor directory.config)
          { machine with files := directory.tree } = (.error cause, checked) := by
        rw [perform_apply (directoryScope_artifacts _ _), workFor, hcheck]
      exact ⟨_, _, hperform, leaves_of_check_error directory hcheck⟩
    · have hgives := check_eq_ok_iff.mp hcheck
      obtain ⟨hnetwork, ⟨⟨_, hfails⟩, -⟩ | ⟨reference, hwritten⟩⟩ := engine_cases hgives
      · cases hfails
      · obtain ⟨texts, htexts⟩ :=
          exists_texts (Check.addable_of_engine Check.looksOnly_builtin hgives)
        let run : CheckedRun context image settings machine :=
          ⟨directory, format, results, texts, reference, checked, hknown, hgives, htexts, hwritten⟩
        rcases hgoes : run.goOn run.checked with ⟨result, after⟩
        exact ⟨_, _, run.perform_eq hgoes, leaves_of_goOn run hnetwork hgoes⟩

/-- No sum overflows in a run for an image. -/
theorem checkContainer_ne_overflow {machine after : Machine} {cause : RunError}
    (h : checkContainer context image settings machine = (.error cause, after)) :
    cause ≠ .formatter .overflow := by
  obtain ⟨outcome, left, hrun, hleaves⟩ := exists_leaves context image settings machine
  obtain ⟨rfl, rfl⟩ := Action.ending_inj.mp (hrun.symm.trans h)
  rintro rfl
  cases hleaves

/-- Where something else stands after files were put into the artifacts directory of a run, there is
a directory where nothing stood, or the place is a name of the artifacts directory. -/
theorem ArtifactsDirectory.changes (directory : ArtifactsDirectory settings before)
    {files : FileTree} {written : List (String × ByteArray)} {place : Location}
    (hfiles : files = directory.tree.withFiles directory.location written)
    (hplace : files.node? place ≠ before.node? place) :
    before.node? place = none ∧ files.node? place = some .directory ∨
      ∃ directory : ArtifactsDirectory settings before,
        ∃ name, place = directory.location ++ [name] := by
  subst hfiles
  rcases FileTree.node?_withFiles directory.tree directory.location place written with
    hsame | ⟨name, -, hname⟩
  · rw [hsame] at hplace ⊢
    exact .inl ((directory.adds.places place).resolve_left hplace)
  · exact .inr ⟨directory, name, hname⟩

namespace CheckedRun

variable (run : CheckedRun context image settings machine)

theorem filesWith_eq (written : List (String × ByteArray)) : run.filesWith written =
    run.directory.tree.withFiles run.directory.location
      (referenceFile run.reference :: written) := by
  rw [filesWith, run.written.eq, ← FileTree.withFiles_append]
  rfl

/-- The results are shown under a name of the artifacts directory where this is asked for, and what
stood there before is kept where it is not. -/
def Shows (files : FileTree) (name : String) (shown : Format) (asked : Bool) : Prop :=
  if asked then files.Holds (run.pathOf name) (run.texts shown).toUTF8
  else files.node? (run.directory.location ++ [name]) =
    run.directory.tree.node? (run.directory.location ++ [name])

/-- A complete run shows its results under the names of its documents and keeps all other names. -/
theorem IsComplete.shows {run : CheckedRun context image settings machine} {files : FileTree}
    (h : run.IsComplete files) {name : String} {shown : Format} {asked : Bool}
    (hdocuments : if asked then
        (name, shown) ∈ resultDocuments run.format (extrasFor run.directory.config)
      else name ∉ "image-reference.json" ::
        (resultDocuments run.format (extrasFor run.directory.config)).map Prod.fst) :
    run.Shows files name shown asked := by
  cases asked with
  | true =>
    rw [if_pos rfl] at hdocuments
    rw [Shows, if_pos rfl]
    exact h.documents (name, (run.texts shown).toUTF8)
      (mem_resultFiles _ _ run.texts hdocuments)
  | false =>
    rw [Shows, if_neg Bool.false_ne_true]
    rw [if_neg Bool.false_ne_true] at hdocuments
    rcases FileTree.node?_withFiles run.directory.tree run.directory.location
      (run.directory.location ++ [name]) (referenceFile run.reference :: run.documents) with
      hsame | ⟨other, hmem, hplace⟩
    · rw [← filesWith_eq, ← h.eq] at hsame
      exact hsame
    · obtain rfl : name = other := by simpa using hplace
      rw [List.map_cons, CheckedRun.documents, map_fst_resultFiles] at hmem
      exact absurd hmem hdocuments

end CheckedRun

/-- The outcome of a run for an image tells what it did to files. Where its context or its
configuration is at fault, it did nothing at all, and where its artifacts directory could not be
made, no file was changed. Where the format is unknown there is the artifacts directory that was
made and nothing else, and where the engine failed at most the reference of the image in it. Where a
document could not be written nothing was asked for over the network, and where the submission
failed all documents stand as they should. A run that goes through leaves the reference, its output
where it says, the results as JUnit XML exactly if this is asked for, and as JSON in any case where
it is submitted; what stood under these names otherwise is kept. Outside the artifacts directory no
file is ever made or changed. -/
theorem files_of_outcome (context : Context Machine) (image : String) (settings : Settings)
    (machine : Machine) :
    ∃ outcome after, checkContainer context image settings machine = (outcome, after) ∧
      (∀ reason, outcome = .error (.context reason) → after = machine) ∧
      (∀ cause, outcome = .error (.configuration cause) → after = machine) ∧
      (∀ path cause, outcome = .error (.artifacts path cause) →
        AddsDirectories machine.files after.files) ∧
      (∀ cause, outcome = .error (.formatter cause) →
        ∃ directory : ArtifactsDirectory settings machine.files, after.files = directory.tree) ∧
      (∀ cause, outcome = .error cause → cause.OfEngine →
        ∃ directory : ArtifactsDirectory settings machine.files, after.files = directory.tree ∨
          ∃ reference, HoldsReference directory image reference after.files) ∧
      (∀ path cause, outcome = .error (.persistence path cause) →
        after.network = machine.network) ∧
      (∀ cause, outcome = .error (.submission cause) →
        ∃ run : CheckedRun context image settings machine,
          ∀ file ∈ run.documents, after.files.Holds (run.pathOf file.1) file.2) ∧
      (∀ done, outcome = .ok done → ∃ run : CheckedRun context image settings machine,
        done = run.outcome ∧
        (∃ content, after.files.Holds (run.pathOf "image-reference.json") content ∧
          content = run.reference.toJson.prettyText.toUTF8 ∧
          Image.Reference.ofFile? content = some run.reference ∧
          Image.Reference.parse image = .ok run.reference) ∧
        after.files.Holds done.resultsPath done.output ∧
        done.resultsPath = run.pathOf (outputName run.format) ∧
        run.Shows after.files "results-junit.xml" .junit run.directory.config.junit ∧
        (run.format ≠ .json → run.Shows after.files "results.json" .json
          (withOptionsMade run.directory.config).submit)) ∧
      ∀ place, after.files.node? place ≠ machine.files.node? place →
        machine.files.node? place = none ∧ after.files.node? place = some .directory ∨
          ∃ directory : ArtifactsDirectory settings machine.files,
            ∃ name, place = directory.location ++ [name] := by
  obtain ⟨outcome, after, hrun, hleaves⟩ := exists_leaves context image settings machine
  refine ⟨outcome, after, hrun, ?_, ?_, ?_, ?_, ?_, ?_, ?_, ?_, fun place hplace => ?_⟩
  · rintro reason rfl
    cases hleaves
    rfl
  · rintro cause rfl
    cases hleaves
    rfl
  · rintro path cause rfl
    cases hleaves with
    | directoryFails hadds => exact hadds
  · rintro cause rfl
    cases hleaves with
    | formatUnknown directory => exact ⟨directory, rfl⟩
  · rintro cause rfl hengine
    cases hleaves with
    | isCancelled directory hfiles | engineFails directory hfiles => exact ⟨directory, hfiles⟩
    | _ => exact hengine.elim
  · rintro path cause rfl
    cases hleaves with
    | documentFails run hwritten hfiles hnetwork => exact hnetwork
  · rintro cause rfl
    cases hleaves with
    | submissionFails run hcomplete => exact ⟨run, hcomplete.documents⟩
  · rintro done rfl
    cases hleaves with
    | finishes run hcomplete =>
      have hjunit := resultDocuments_junit run.format (extrasFor run.directory.config)
      have hjson := resultDocuments_json run.format (extrasFor run.directory.config)
      have hreference := Image.Reference.ofFile?_prettyText run.reference
      refine ⟨run, rfl, ⟨_, hcomplete.reference, rfl, hreference, run.written.parses⟩, ?_, rfl,
        hcomplete.shows hjunit, fun hformat => hcomplete.shows (hjson hformat)⟩
      exact hcomplete.documents (outputName run.format, run.outcome.output)
        (mem_resultFiles _ _ run.texts List.mem_cons_self)
  · cases hleaves with
    | contextFails | configurationFails => exact absurd rfl hplace
    | directoryFails hadds => exact .inl ((hadds.places place).resolve_left hplace)
    | formatUnknown directory =>
      exact directory.changes (show _ = directory.tree.withFiles _ [] from rfl) hplace
    | isCancelled directory hfiles | engineFails directory hfiles =>
      rcases hfiles with hfiles | ⟨reference, hreference⟩
      · exact directory.changes (show _ = directory.tree.withFiles _ [] from hfiles) hplace
      · exact directory.changes hreference.eq hplace
    | documentFails run hwritten hfiles =>
      exact run.directory.changes (hfiles.trans (run.filesWith_eq _)) hplace
    | submissionFails run hcomplete | finishes run hcomplete =>
      exact run.directory.changes (hcomplete.eq.trans (run.filesWith_eq _)) hplace

end ContainerCert.Run
