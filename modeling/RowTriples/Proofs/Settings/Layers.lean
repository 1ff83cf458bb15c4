import RowTriples.Program
import RowTriples.Proofs.Document.Records
import RowTriples.Proofs.Text.Bytes
/-!
# Layers of settings

Settings are given in layers: by the command line, by the environment and by a file, and where none
of them says anything there is a default. A higher layer replaces what a lower one says. The rules
are checked twice, below the command line and with it, so a value that the command line replaces
still has to keep its rule.
-/

namespace RowTriples

/-! ### The rules -/

namespace Settings

/-- The rules for settings. -/
structure IsValid (settings : Settings) : Prop where
  jobs : settings.jobs ≠ []
  paths : ∀ job ∈ settings.jobs, job.table ≠ "" ∧ job.template ≠ ""
  outputDirectory : settings.outputDirectory ≠ ""
  chunkSize : 1 ≤ settings.chunkSize ∧ settings.chunkSize ≤ 10000000
  namespaceName : isAbsolute settings.namespaceName = true
  geocoder : isWebAddress settings.geocoder = true

variable {settings : Settings}

theorem violations_eq_nil_iff : settings.violations = [] ↔ settings.IsValid := by
  have each : (∀ entry ∈ settings.jobs.zipIdx, entry.1.table ≠ "" ∧ entry.1.template ≠ "") ↔
      ∀ job ∈ settings.jobs, job.table ≠ "" ∧ job.template ≠ "" := by
    conv => rhs; rw [← List.zipIdx_map_fst 0 settings.jobs, List.forall_mem_map]
  have rules : settings.violations = [] ↔ settings.jobs ≠ [] ∧
      (∀ entry ∈ settings.jobs.zipIdx, entry.1.table ≠ "" ∧ entry.1.template ≠ "") ∧
      settings.outputDirectory ≠ "" ∧ (1 ≤ settings.chunkSize ∧ settings.chunkSize ≤ 10000000) ∧
      isAbsolute settings.namespaceName = true ∧ isWebAddress settings.geocoder = true := by
    have size : ¬settings.chunkSize < 1 ∧ ¬maxChunkSize < settings.chunkSize ↔
        1 ≤ settings.chunkSize ∧ settings.chunkSize ≤ 10000000 := by
      rw [maxChunkSize]
      omega
    rw [← size]
    simp [violations]
  rw [rules, each]
  constructor
  · rintro ⟨jobs, paths, outputDirectory, chunkSize, namespaceName, geocoder⟩
    exact ⟨jobs, paths, outputDirectory, chunkSize, namespaceName, geocoder⟩
  · rintro ⟨jobs, paths, outputDirectory, chunkSize, namespaceName, geocoder⟩
    exact ⟨jobs, paths, outputDirectory, chunkSize, namespaceName, geocoder⟩

theorem check_eq_ok_iff : settings.check = .ok () ↔ settings.IsValid := by
  rw [← violations_eq_nil_iff, check]
  cases settings.violations <;> simp

end Settings

/-! ### The layers -/

/-- What one source says about settings. It may say nothing about any of them. -/
structure Layer where
  jobs : Option (List Job) := none
  outputDirectory : Option String := none
  chunkSize : Option Nat := none
  schema : Option String := none
  mode : Option Mode := none
  namespaceName : Option String := none
  geocoder : Option String := none

/-- What can be read from the environment can be used. -/
structure Environment.IsReadable (environment : Environment) : Prop where
  chunkSize : ∀ text, environment.value? Environment.chunkSize = some text →
    ∃ n, Decimal.readCount (Text.trimmed text) = .ok n
  mode : ∀ text, environment.value? Environment.mode = some text →
    ∃ mode, Mode.read text = .ok mode

/-- The document in the file that a path leads to, and whether its records may be sequences. -/
def Settings.document? (tree : FileTree) (path : String) : Option (Bool × Document) :=
  (tree.readText? path).bind fun text =>
    if Path.extension? path = some "json" then (Json.Text.document? text).map (true, ·)
    else (Document.ofYaml? text).map (false, ·)

namespace Layer

/-- A layer on top of another one, which counts where the upper one says nothing. -/
def above (upper lower : Layer) : Layer where
  jobs := upper.jobs.or lower.jobs
  outputDirectory := upper.outputDirectory.or lower.outputDirectory
  chunkSize := upper.chunkSize.or lower.chunkSize
  schema := upper.schema.or lower.schema
  mode := upper.mode.or lower.mode
  namespaceName := upper.namespaceName.or lower.namespaceName
  geocoder := upper.geocoder.or lower.geocoder

/-- The settings of a layer, with defaults where it says nothing. -/
def settings (layer : Layer) : Settings where
  jobs := layer.jobs.getD []
  outputDirectory := layer.outputDirectory.getD "output"
  chunkSize := layer.chunkSize.getD 100000
  schema := layer.schema
  mode := layer.mode.getD .none
  namespaceName := layer.namespaceName.getD defaultNamespace
  geocoder := layer.geocoder.getD defaultGeocoder

def ofOverrides (o : Overrides) : Layer where
  outputDirectory := o.outputDirectory
  chunkSize := o.chunkSize
  mode := o.mode

/-- What the variables of the environment that are not blank say. -/
def ofEnvironment (environment : Environment) : Layer where
  outputDirectory := environment.value? Environment.outputDirectory
  chunkSize := (environment.value? Environment.chunkSize).bind fun text =>
    (Decimal.readCount (Text.trimmed text)).toOption
  schema := environment.value? Environment.schema
  mode := (environment.value? Environment.mode).bind fun text => (Mode.read text).toOption
  namespaceName := environment.value? Environment.namespaceName
  geocoder := environment.value? Environment.geocoder

/-- What is read for the setting with the given number from the part of a document that is written
for it, if there is one. -/
def written {α : Type} (document : Document) (i : Nat) (read : Document → Decoded α) : Option α :=
  (Settings.shape.part? document i).bind fun part => (read part).toOption

def ofDocument (positional : Bool) (document : Document) : Layer where
  jobs := written document 0 (Document.asList (Job.ofDocument positional))
  outputDirectory := written document 1 Document.asText
  chunkSize := written document 2 Document.asCount
  schema := (written document 3 (Document.asOption Document.asText)).join
  mode := written document 4 (Document.asMode positional)
  namespaceName := written document 5 Document.asText
  geocoder := written document 6 Document.asText

def ofFile (tree : FileTree) (path : String) : Layer :=
  match Settings.document? tree path with
  | some (positional, document) => ofDocument positional document
  | none => {}

/-! ### Reading documents -/

section Documents

variable {positional : Bool} {document : Document} {settings : Settings}

/-- What is read for a setting changes it and no other one. -/
structure Sets (positional : Bool) (i : Nat) (d : Document) (settings settings' : Settings) :
    Prop where
  jobs : if i = 0 then d.asList (Job.ofDocument positional) = .ok settings'.jobs
    else settings'.jobs = settings.jobs
  outputDirectory : if i = 1 then d.asText = .ok settings'.outputDirectory
    else settings'.outputDirectory = settings.outputDirectory
  chunkSize : if i = 2 then d.asCount = .ok settings'.chunkSize
    else settings'.chunkSize = settings.chunkSize
  schema : if i = 3 then d.asOption Document.asText = .ok settings'.schema
    else settings'.schema = settings.schema
  mode : if i = 4 then d.asMode positional = .ok settings'.mode else settings'.mode = settings.mode
  namespaceName : if i = 5 then d.asText = .ok settings'.namespaceName
    else settings'.namespaceName = settings.namespaceName
  geocoder : if i = 6 then d.asText = .ok settings'.geocoder
    else settings'.geocoder = settings.geocoder

theorem exists_step (decoded : Settings.ofDocument positional document = .ok settings) :
    ∃ step, (∀ i d acc acc', i < Settings.shape.fields.length → step i d acc = .ok acc' →
        Sets positional i d acc acc') ∧
      document.asRecord positional Settings.shape step {} = .ok settings := by
  refine ⟨_, ?_, decoded⟩
  intro i d acc acc' bound stepped
  have places : i = 0 ∨ i = 1 ∨ i = 2 ∨ i = 3 ∨ i = 4 ∨ i = 5 ∨ i = 6 := by
    change i < 7 at bound
    omega
  rcases places with rfl | rfl | rfl | rfl | rfl | rfl | rfl
  all_goals
    obtain ⟨_, read, same⟩ := bind_eq_ok_iff.mp stepped
    cases same
    constructor <;> first | exact read | rfl

theorem getD_written {α : Type} {field : RecordField} {i : Nat} {read : Document → Decoded α}
    {start value : α}
    (kept : field.Keeps read start (Settings.shape.part? document i) value) :
    (written document i read).getD start = value := by
  rw [written]
  cases part : Settings.shape.part? document i with
  | none =>
      rw [part] at kept
      exact kept.2.symm
  | some part' =>
      rw [part] at kept
      have read : read part' = .ok value := kept
      rw [Option.bind_some, read]
      rfl

/-- The settings in a document are those of its layer. -/
theorem settings_ofDocument (decoded : Settings.ofDocument positional document = .ok settings) :
    (ofDocument positional document).settings = settings := by
  obtain ⟨step, sets, decoded⟩ := exists_step decoded
  have jobs := Document.keeps_of_asRecord (j := 0) rfl
    (fun i d acc acc' bound stepped => (sets i d acc acc' bound stepped).jobs) decoded
  have outputDirectory := Document.keeps_of_asRecord (j := 1) rfl
    (fun i d acc acc' bound stepped => (sets i d acc acc' bound stepped).outputDirectory) decoded
  have chunkSize := Document.keeps_of_asRecord (j := 2) rfl
    (fun i d acc acc' bound stepped => (sets i d acc acc' bound stepped).chunkSize) decoded
  have schema := Document.keeps_of_asRecord (j := 3) rfl
    (fun i d acc acc' bound stepped => (sets i d acc acc' bound stepped).schema) decoded
  have mode := Document.keeps_of_asRecord (j := 4) rfl
    (fun i d acc acc' bound stepped => (sets i d acc acc' bound stepped).mode) decoded
  have namespaceName := Document.keeps_of_asRecord (j := 5) rfl
    (fun i d acc acc' bound stepped => (sets i d acc acc' bound stepped).namespaceName) decoded
  have geocoder := Document.keeps_of_asRecord (j := 6) rfl
    (fun i d acc acc' bound stepped => (sets i d acc acc' bound stepped).geocoder) decoded
  have joined (said : Option (Option String)) : said.join = said.getD none := by cases said <;> rfl
  simp only [Layer.settings, ofDocument, joined]
  obtain ⟨_, _, _, _, _, _, _⟩ := settings
  congr
  exacts [getD_written jobs, getD_written outputDirectory, getD_written chunkSize,
    getD_written schema, getD_written mode, getD_written namespaceName, getD_written geocoder]

theorem exists_document_of_read {tree : FileTree} {path : String}
    (decoded : Settings.read tree path = .ok settings) :
    ∃ positional document, Settings.document? tree path = some (positional, document) ∧
      Settings.ofDocument positional document = .ok settings := by
  have exists_of_bind {positional : Bool} {parsed? : Option Document}
      (parsed : (parsed?.bind fun d => (Settings.ofDocument positional d).toOption) =
        some settings) :
      ∃ document, parsed? = some document ∧
        Settings.ofDocument positional document = .ok settings := by
    obtain ⟨document, same, read⟩ := Option.bind_eq_some_iff.mp parsed
    cases outcome : Settings.ofDocument positional document with
    | error cause => rw [outcome] at read; cases read
    | ok settings' =>
        rw [outcome] at read
        exact ⟨document, same, outcome.trans (congrArg Except.ok (Option.some.inj read))⟩
  rw [Settings.read] at decoded
  split at decoded
  next => cases decoded
  next text found =>
    rw [Settings.document?, found, Option.bind_some]
    split at decoded
    next json =>
      split at decoded
      next settings' parsed =>
        cases decoded
        obtain ⟨document, parsed, read⟩ := exists_of_bind parsed
        exact ⟨true, document, by rw [if_pos json, parsed]; rfl, read⟩
      next => cases decoded
    next yaml =>
      split at decoded
      next settings' parsed =>
        cases decoded
        obtain ⟨document, parsed, read⟩ := exists_of_bind parsed
        exact ⟨false, document, by rw [if_neg yaml, parsed]; rfl, read⟩
      next => cases decoded

/-- The settings in a file are those of its layer. -/
theorem settings_ofFile {tree : FileTree} {path : String}
    (decoded : Settings.read tree path = .ok settings) :
    (ofFile tree path).settings = settings := by
  obtain ⟨positional, document, found, read⟩ := exists_document_of_read decoded
  rw [ofFile, found]
  exact settings_ofDocument read

end Documents

/-! ### Layers on top of each other -/

section Above

variable (lower : Layer)

theorem settings_ofOverrides_above (o : Overrides) :
    ((ofOverrides o).above lower).settings = lower.settings.override o := by
  simp only [Layer.settings, above, ofOverrides, Settings.override, Option.getD_or, Option.none_or]

theorem settings_ofEnvironment_above (environment : Environment) :
    ((ofEnvironment environment).above lower).settings =
      { lower.settings with
        outputDirectory :=
          (environment.value? Environment.outputDirectory).getD lower.settings.outputDirectory
        chunkSize := (ofEnvironment environment).chunkSize.getD lower.settings.chunkSize
        schema := (environment.value? Environment.schema).or lower.settings.schema
        mode := (ofEnvironment environment).mode.getD lower.settings.mode
        namespaceName :=
          (environment.value? Environment.namespaceName).getD lower.settings.namespaceName
        geocoder := (environment.value? Environment.geocoder).getD lower.settings.geocoder } := by
  simp only [Layer.settings, above, ofEnvironment, Option.getD_or, Option.none_or]

/-- Variables of the environment that can be read are a layer. -/
theorem layer_settings {environment : Environment} (readable : environment.IsReadable) :
    lower.settings.layer environment = .ok ((ofEnvironment environment).above lower).settings := by
  have unset_or_read {ε α : Type} {value? : Option String} {read : String → Except ε α}
      (usable : ∀ text, value? = some text → ∃ x, read text = .ok x) :
      value? = none ∨ ∃ text x, value? = some text ∧ read text = .ok x := by
    cases value? with
    | none => exact .inl rfl
    | some text =>
        obtain ⟨x, read⟩ := usable text rfl
        exact .inr ⟨text, x, rfl, read⟩
  rw [settings_ofEnvironment_above]
  rcases unset_or_read readable.chunkSize with unset | ⟨text, n, given, read⟩
  · rcases unset_or_read readable.mode with unset' | ⟨text', mode, given', read'⟩
    · simp only [Settings.layer, ofEnvironment, unset, unset']
      rfl
    · simp only [Settings.layer, ofEnvironment, unset, given', read', Option.bind_some]
      rfl
  · rcases unset_or_read readable.mode with unset' | ⟨text', mode, given', read'⟩
    · simp only [Settings.layer, ofEnvironment, given, read, unset', Option.bind_some]
      rfl
    · simp only [Settings.layer, ofEnvironment, given, read, given', read', Option.bind_some]
      rfl

end Above

end Layer

/-! ### The command line on top -/

namespace Overrides

/-- The command line replaces a value that breaks its rule. -/
def Mends (o : Overrides) (settings : Settings) : Prop :=
  (o.outputDirectory ≠ none ∧ settings.outputDirectory = "") ∨
    (o.chunkSize ≠ none ∧ ¬(1 ≤ settings.chunkSize ∧ settings.chunkSize ≤ 10000000))

/-- Below settings that keep the rules there is no broken one exactly if the command line mends
none. -/
theorem isValid_iff_not_mends {o : Overrides} {settings : Settings}
    (valid : (settings.override o).IsValid) : settings.IsValid ↔ ¬o.Mends settings := by
  constructor
  · rintro below (⟨_, empty⟩ | ⟨_, outside⟩)
    · exact below.outputDirectory empty
    · exact outside below.chunkSize
  · intro intact
    obtain ⟨kept, kept'⟩ := not_or.mp intact
    refine ⟨valid.jobs, valid.paths, fun empty => ?_, ?_, valid.namespaceName, valid.geocoder⟩
    · cases given : o.outputDirectory with
      | some directory => exact kept ⟨by simp [given], empty⟩
      | none =>
          have same : (settings.override o).outputDirectory = settings.outputDirectory := by
            rw [Settings.override, given, Option.getD_none]
          exact valid.outputDirectory (same.trans empty)
    · cases given : o.chunkSize with
      | some n => exact not_not.mp fun outside => kept' ⟨by simp [given], outside⟩
      | none =>
          have same : (settings.override o).chunkSize = settings.chunkSize := by
            rw [Settings.override, given, Option.getD_none]
          exact same ▸ valid.chunkSize

end Overrides

def Layer.belowCommandLine (tree : FileTree) (environment : Environment) (path : String) : Layer :=
  (Layer.ofEnvironment environment).above (Layer.ofFile tree path)

def Layer.ofRun (tree : FileTree) (environment : Environment) (invocation : Invocation) : Layer :=
  (Layer.ofOverrides invocation.overrides).above
    (Layer.belowCommandLine tree environment invocation.settings)

/-- A run is told by what its layers say together: these are the settings, as long as they keep the
rules. -/
def FollowsLayers (tree : FileTree) (environment : Environment) (invocation : Invocation) : Prop :=
  ∀ settings, Program.settings tree environment invocation = .ok settings ↔
    settings = (Layer.ofRun tree environment invocation).settings ∧ settings.IsValid

section Runs

variable {tree : FileTree} {environment : Environment} {invocation : Invocation}

theorem layer_eq_belowCommandLine {path : String} {file : Settings}
    (read : Settings.read tree path = .ok file) (readable : environment.IsReadable) :
    file.layer environment = .ok (Layer.belowCommandLine tree environment path).settings := by
  conv => lhs; rw [← Layer.settings_ofFile read]
  exact Layer.layer_settings _ readable

/-- The rules are checked for what is below the command line and then for all layers. -/
theorem settings_eq_of_layers
    (decodable : ∃ file, Settings.read tree invocation.settings = .ok file)
    (readable : environment.IsReadable) :
    Program.settings tree environment invocation = do
      (Layer.belowCommandLine tree environment invocation.settings).settings.check
      (Layer.ofRun tree environment invocation).settings.check
      return (Layer.ofRun tree environment invocation).settings := by
  obtain ⟨file, read⟩ := decodable
  have layered := layer_eq_belowCommandLine read readable
  rw [Program.settings, Settings.load, read, Layer.ofRun, Layer.settings_ofOverrides_above]
  simp only [bind, Except.bind, layered]
  cases (Layer.belowCommandLine tree environment invocation.settings).settings.check <;> rfl

theorem settings_eq_ok_iff
    (decodable : ∃ file, Settings.read tree invocation.settings = .ok file)
    (readable : environment.IsReadable) {settings : Settings} :
    Program.settings tree environment invocation = .ok settings ↔
      settings = (Layer.ofRun tree environment invocation).settings ∧
      (Layer.ofRun tree environment invocation).settings.IsValid ∧
      (Layer.belowCommandLine tree environment invocation.settings).settings.IsValid := by
  rw [settings_eq_of_layers decodable readable, bind_eq_ok_iff]
  simp only [bind_eq_ok_iff, ← Settings.check_eq_ok_iff]
  constructor
  · rintro ⟨_, below, _, given, same⟩
    cases same
    exact ⟨rfl, given, below⟩
  · rintro ⟨rfl, given, below⟩
    exact ⟨_, below, _, given, rfl⟩

end Runs

/-- The settings of a run are those that its layers say together, and there are settings exactly if
these keep the rules and those below the command line do so as well. What a higher layer replaces
has no other part in the outcome than by the rules that are broken below the command line. The run
follows its layers exactly if the command line mends none of these. -/
theorem follows_layers_iff (tree : FileTree) (environment : Environment) (invocation : Invocation)
    (decodable : ∃ file, Settings.read tree invocation.settings = .ok file)
    (readable : environment.IsReadable) :
    let below := (Layer.belowCommandLine tree environment invocation.settings).settings
    let given := (Layer.ofRun tree environment invocation).settings
    let outcome := Program.settings tree environment invocation
    (outcome = do below.check; given.check; return given) ∧
    (∀ settings, outcome = .ok settings ↔
      settings = given ∧ given.IsValid ∧ below.IsValid) ∧
    (∀ tree' environment' invocation',
      (∃ file, Settings.read tree' invocation'.settings = .ok file) → environment'.IsReadable →
      (Layer.ofRun tree' environment' invocation').settings = given →
      ((Layer.belowCommandLine tree' environment' invocation'.settings).settings.IsValid ↔
        below.IsValid) →
      ∀ settings, Program.settings tree' environment' invocation' = .ok settings ↔
        outcome = .ok settings) ∧
    (FollowsLayers tree environment invocation ↔
      (given.IsValid → ¬invocation.overrides.Mends below)) := by
  intro below given outcome
  have same : given = below.override invocation.overrides := Layer.settings_ofOverrides_above _ _
  have succeeds (settings : Settings) : outcome = .ok settings ↔
      settings = given ∧ given.IsValid ∧ below.IsValid := settings_eq_ok_iff decodable readable
  refine ⟨settings_eq_of_layers decodable readable, succeeds, ?_, ?_, ?_⟩
  · intro tree' environment' invocation' decodable' readable' alike alike' settings
    rw [settings_eq_ok_iff decodable' readable', alike, alike', succeeds]
  · intro follows valid
    obtain ⟨_, _, sound⟩ := (succeeds given).mp ((follows given).mpr ⟨rfl, valid⟩)
    exact (Overrides.isValid_iff_not_mends (same ▸ valid)).mp sound
  · intro intact settings
    rw [succeeds]
    constructor
    · rintro ⟨rfl, valid, _⟩
      exact ⟨rfl, valid⟩
    · rintro ⟨rfl, valid⟩
      exact ⟨rfl, valid, (Overrides.isValid_iff_not_mends (same ▸ valid)).mpr (intact valid)⟩

/-! ### A file with a chunk size -/

/-- Settings with one job and the given chunk size, as they are written in a file. -/
def chunkedText (size : Nat) : String :=
  Json.compact (.object [("files", .array [.object [("file", .string "people.csv"),
    ("spec", .string "people.json")]]), ("chunk_size", .ofCount size)])

def chunkedTree (size : Nat) : FileTree :=
  { files := [(["run.json"], Digest.utf8 (chunkedText size))] }

def chunkedSettings (size : Nat) : Settings :=
  { jobs := [⟨"people.csv", "people.json"⟩], chunkSize := size }

theorem read_chunkedTree {size : Nat}
    (written : Settings.ofJsonText? (chunkedText size) = some (chunkedSettings size)) :
    Settings.read (chunkedTree size) "run.json" = .ok (chunkedSettings size) := by
  have found : (chunkedTree size).read? "run.json" = some (Digest.utf8 (chunkedText size)) := rfl
  have json : Path.extension? "run.json" = some "json" := rfl
  rw [Settings.read, FileTree.readText?, found, Option.bind_some, Text.fromUTF8?_utf8]
  simp only [if_pos json, written]

/-- The environment mends what the file says, and its blank variable says nothing. -/
theorem follows_layers_iff_chunked :
    let environment : Environment :=
      [("TABLEGRAPH_CHUNK_SIZE", " 7 "), ("TABLEGRAPH_NAMESPACE", " ")]
    let invocation : Invocation := { settings := "run.json", overrides := { mode := some .file } }
    (∃ file, Settings.read (chunkedTree 0) invocation.settings = .ok file) ∧
    environment.IsReadable ∧
    Program.settings (chunkedTree 0) environment invocation =
      .ok { chunkedSettings 7 with mode := .file } ∧
    FollowsLayers (chunkedTree 0) environment invocation := by
  intro environment invocation
  have read : Settings.read (chunkedTree 0) "run.json" = .ok (chunkedSettings 0) :=
    read_chunkedTree rfl
  have readable : environment.IsReadable :=
    ⟨fun _ same => by cases same; exact ⟨7, rfl⟩, fun _ same => by cases same⟩
  obtain ⟨_, succeeds, _, follows⟩ :=
    follows_layers_iff (chunkedTree 0) environment invocation ⟨_, read⟩ readable
  have below : (Layer.belowCommandLine (chunkedTree 0) environment "run.json").settings =
      chunkedSettings 7 :=
    Except.ok.inj ((layer_eq_belowCommandLine read readable).symm.trans rfl)
  have given : (Layer.ofRun (chunkedTree 0) environment invocation).settings =
      { chunkedSettings 7 with mode := .file } := by
    rw [Layer.ofRun, Layer.settings_ofOverrides_above, below]
    rfl
  have sound : (chunkedSettings 7).IsValid := Settings.violations_eq_nil_iff.mp (by decide)
  have sound' : ({ chunkedSettings 7 with mode := .file } : Settings).IsValid :=
    Settings.violations_eq_nil_iff.mp (by decide)
  refine ⟨⟨_, read⟩, readable, (succeeds _).mpr ⟨given.symm, given ▸ sound', below ▸ sound⟩, ?_⟩
  refine follows.mpr fun _ mends => ?_
  rw [below] at mends
  rcases mends with ⟨set, _⟩ | ⟨set, _⟩
  · exact set rfl
  · exact set rfl

/-- The command line gives a chunk size, and that in the file is refused all the same. It does have
a part in the outcome: with another one in the file there are settings. -/
theorem not_followsLayers_chunked :
    let invocation : Invocation := { settings := "run.json", overrides := { chunkSize := some 5 } }
    (∃ file, Settings.read (chunkedTree 0) invocation.settings = .ok file) ∧
    Environment.IsReadable [] ∧
    ¬FollowsLayers (chunkedTree 0) [] invocation ∧
    (Layer.ofRun (chunkedTree 0) [] invocation).settings =
      (Layer.ofRun (chunkedTree 1) [] invocation).settings ∧
    Program.settings (chunkedTree 0) [] invocation = .error (.invalid [.chunkSize]) ∧
    Program.settings (chunkedTree 1) [] invocation = .ok (chunkedSettings 5) := by
  intro invocation
  have readable : Environment.IsReadable [] := ⟨nofun, nofun⟩
  have read : Settings.read (chunkedTree 0) "run.json" = .ok (chunkedSettings 0) :=
    read_chunkedTree rfl
  have read' : Settings.read (chunkedTree 1) "run.json" = .ok (chunkedSettings 1) :=
    read_chunkedTree rfl
  have below {size : Nat}
      (read : Settings.read (chunkedTree size) "run.json" = .ok (chunkedSettings size)) :
      (Layer.belowCommandLine (chunkedTree size) [] "run.json").settings = chunkedSettings size :=
    (Except.ok.inj (layer_eq_belowCommandLine read readable)).symm
  have given {size : Nat}
      (read : Settings.read (chunkedTree size) "run.json" = .ok (chunkedSettings size)) :
      (Layer.ofRun (chunkedTree size) [] invocation).settings = chunkedSettings 5 := by
    rw [Layer.ofRun, Layer.settings_ofOverrides_above, below read]
    rfl
  have sound : (chunkedSettings 5).IsValid := Settings.violations_eq_nil_iff.mp (by decide)
  have sound' : (chunkedSettings 1).IsValid := Settings.violations_eq_nil_iff.mp (by decide)
  have refused : Program.settings (chunkedTree 0) [] invocation =
      .error (.invalid [.chunkSize]) := by
    rw [Program.settings, Settings.load, read]
    rfl
  have accepted : Program.settings (chunkedTree 1) [] invocation = .ok (chunkedSettings 5) := by
    rw [settings_eq_ok_iff ⟨_, read'⟩ readable, given read', below read']
    exact ⟨rfl, sound, sound'⟩
  refine ⟨⟨_, read⟩, readable, fun follows => ?_, (given read).trans (given read').symm, refused,
    accepted⟩
  have succeeds := (follows (chunkedSettings 5)).mpr ⟨(given read).symm, sound⟩
  rw [refused] at succeeds
  cases succeeds

end RowTriples
