import Mathlib.Data.List.Induction
import Mathlib.Data.List.Nodup
import RowTriples.Conversion.Run
import RowTriples.Proofs.Conversion.Chunks
/-!
# Reports and files

A report tells of every chunk its path, the digest of its text and the number of its statements.
When the chunk is stored all of this is true of the file. It stays true until another chunk is
stored at the same path, and that happens if and only if two tables have the same stem: the chunks
of a table have different names, but the directories of the tables do not show in them.
-/

namespace RowTriples

/-- The report tells the truth about the file at its path: there is one, it has the digest, and it
has as many lines as there are statements. -/
def ChunkReport.Describes (tree : FileTree) (report : ChunkReport) : Prop :=
  ∃ bytes, tree.read? report.path = some bytes ∧
    String.ofList (Digest.hex (Digest.sha256 bytes)) = report.checksum ∧
    (Text.linesOf Text.newlineByte bytes).length = report.statements

/-- The last report about each path describes the file there. -/
def Agrees (tree : FileTree) (reports : List ChunkReport) : Prop :=
  ∀ before report after, reports = before ++ report :: after →
    (∀ later ∈ after, later.path ≠ report.path) → report.Describes tree

/-- The beginning of the names of the chunks of a table. -/
def chunkStem (source : String) : String :=
  (Path.stem? source).getD "output"

/-! ### Stems -/

theorem Path.slash_notMem_fst_splitName {name : String} (whole : '/' ∉ name.toList) :
    '/' ∉ (splitName name).1.toList := by
  simp only [splitName]
  split
  next stem cut =>
    split
    · exact whole
    · intro member
      rw [String.toList_ofList, List.mem_reverse] at member
      have inside : '/' ∈ name.toList.reverse.dropWhile (· ≠ '.') :=
        cut ▸ List.mem_cons_of_mem _ member
      exact whole (List.mem_reverse.mp ((List.dropWhile_sublist _).subset inside))
  next => exact whole

theorem slash_notMem_chunkStem (source : String) : '/' ∉ (chunkStem source).toList := by
  unfold chunkStem Path.stem?
  cases found : Path.fileName? source with
  | none => decide
  | some name =>
      have member : name ∈ Path.parts source := by
        obtain ⟨last, _⟩ := Option.filter_eq_some_iff.mp found
        exact (List.mem_filter.mp (List.mem_of_getLast? last)).1
      exact Path.slash_notMem_fst_splitName (Path.slash_notMem_of_mem_parts member)

/-! ### Storing chunks -/

section Store

variable {tree written : FileTree} {reports : List ChunkReport} {directory : String}
variable {chunk : Chunk}

/-- The report of a chunk describes the file that the chunk has been stored in. -/
theorem Chunk.IsWhole.describes (whole : chunk.IsWhole)
    (done : tree.write? (Path.join directory chunk.name) (Digest.utf8 chunk.text) = some written) :
    (chunk.report directory).Describes written :=
  ⟨Digest.utf8 chunk.text, FileTree.read?_of_write? done, rfl, whole.length_linesOf⟩

/-- Storing a chunk makes its report the last one about its path and leaves the files at other paths
as they are. -/
theorem Agrees.write (agrees : Agrees tree reports)
    (named : ∀ report ∈ reports, ∃ name, Path.IsName name ∧ report.path = Path.join directory name)
    (ordinary : Path.IsName chunk.name) (whole : chunk.IsWhole)
    (done : tree.write? (Path.join directory chunk.name) (Digest.utf8 chunk.text) = some written) :
    Agrees written (reports ++ [chunk.report directory]) := by
  intro before report after split later
  rcases List.eq_nil_or_concat after with rfl | ⟨between, last, rfl⟩
  · obtain ⟨_, same⟩ := List.append_inj' split rfl
    obtain rfl := (List.cons.inj same).1
    exact whole.describes done
  · rw [List.concat_eq_append, ← List.cons_append, ← List.append_assoc] at split
    obtain ⟨rfl, same⟩ := List.append_inj' split rfl
    obtain rfl := (List.cons.inj same).1
    have between (other : ChunkReport) (member : other ∈ between) : other.path ≠ report.path :=
      later other (by simp [member])
    obtain ⟨bytes, stored, digest, count⟩ := agrees before report _ rfl between
    obtain ⟨name, ordinary', path⟩ := named report (by simp)
    have different : name ≠ chunk.name := by
      rintro rfl
      exact later (chunk.report directory) (by simp) path.symm
    have kept := FileTree.read?_of_write?_ne ordinary ordinary' different done
    rw [← path] at kept
    exact ⟨bytes, kept.trans stored, digest, count⟩

/-- The same of several chunks, each of which can be created. -/
theorem Agrees.store {chunks : List Chunk} (agrees : Agrees tree reports)
    (named : ∀ report ∈ reports, ∃ name, Path.IsName name ∧ report.path = Path.join directory name)
    (ordinary : ∀ chunk ∈ chunks, Path.IsName chunk.name)
    (whole : ∀ chunk ∈ chunks, chunk.IsWhole)
    (accepted : ∀ chunk ∈ chunks,
      (tree.write? (Path.join directory chunk.name) []).isSome = true) :
    Agrees (Run.store directory tree chunks) (reports ++ chunks.map (Chunk.report directory)) := by
  induction chunks generalizing tree reports with
  | nil =>
      rw [List.map_nil, List.append_nil]
      exact agrees
  | cons chunk chunks ih =>
      rw [List.forall_mem_cons] at ordinary whole accepted
      obtain ⟨written, done⟩ : ∃ written, tree.write? (Path.join directory chunk.name)
          (Digest.utf8 chunk.text) = some written := by
        rw [← Option.isSome_iff_exists, FileTree.isSome_write?_iff]
        exact FileTree.isSome_write?_iff.mp accepted.1
      have stored : Run.store directory tree (chunk :: chunks) =
          Run.store directory written chunks := by
        simp [Run.store, done]
      rw [stored, List.map_cons, List.append_cons]
      apply ih (agrees.write named ordinary.1 whole.1 done) ?_ ordinary.2 whole.2
      · intro other member
        exact FileTree.isSome_write?_of_write? done (accepted.2 other member)
      · rw [List.forall_mem_append, List.forall_mem_singleton]
        exact ⟨named, chunk.name, ordinary.1, rfl⟩

end Store

/-! ### Jobs that end without an error -/

/-- The run goes on after a table has been converted: its chunks are stored and reported. -/
structure Run.Converts (directory : String) (run : Run) (source : String) (plan : Plan)
    (chunks : List Chunk) (next : Run) : Prop where
  stem : plan.stem = chunkStem source
  refuses : ∀ name,
    plan.refuses name = (run.tree.write? (Path.join directory name) []).isNone
  sound : AreSound plan chunks
  stored : next.tree = Run.store directory run.tree chunks
  reported : ∃ unreadable, next.report.tables =
    run.report.tables ++ [⟨source, chunks.map (Chunk.report directory), unreadable⟩]

section Done

variable {settings : Settings} {surroundings : Surroundings} {language : Language}
variable {run next : Run}

theorem Run.exists_converts {source : String} {content : List UInt8} {template : Template}
    (done : run.convert settings surroundings language source content template = (next, none)) :
    ∃ plan chunks, run.Converts settings.outputDirectory source plan chunks next := by
  simp only [Run.convert] at done
  split at done
  next => cases done
  next table _ =>
    have sound := areSound_convertRecords
      (Run.plan settings surroundings language run.tree template source table.header) run.progress
      table.records
    split at done
    next =>
      cases done
      exact ⟨_, _, rfl, fun _ => rfl, sound, rfl, _, rfl⟩
    next => cases done
    next => cases done

/-- A job that ends without an error has its table converted or is skipped. -/
theorem Run.step_cases {job : Job}
    (done : run.step settings surroundings language job = (next, none)) :
    (∃ plan chunks, run.Converts settings.outputDirectory job.table plan chunks next) ∨
      next.tree = run.tree ∧ next.report.tables = run.report.tables := by
  unfold Run.step at done
  split at done
  next content _ _ =>
    split at done
    next => cases done
    next template _ => exact .inl (Run.exists_converts done)
  next =>
    cases done
    exact .inr ⟨rfl, rfl⟩

end Done

/-! ### Runs -/

/-- The last report about each path describes the file there, and the reports of a table are about
the chunks of its stem in their order. -/
structure Run.Sound (directory : String) (run : Run) : Prop where
  agrees : Agrees run.tree run.report.chunks
  named : ∀ table ∈ run.report.tables, table.chunks.map ChunkReport.path =
    (List.range table.chunks.length).map fun number =>
      Path.join directory (Chunk.nameOf (chunkStem table.source) number)

namespace Run.Sound

variable {settings : Settings} {surroundings : Surroundings} {language : Language}
variable {directory : String} {run next : Run}

theorem exists_number (h : run.Sound directory) {table : TableReport}
    (member : table ∈ run.report.tables) {path : String}
    (reported : path ∈ table.chunks.map ChunkReport.path) :
    ∃ number, path = Path.join directory (Chunk.nameOf (chunkStem table.source) number) := by
  rw [h.named table member] at reported
  obtain ⟨number, _, same⟩ := List.mem_map.mp reported
  exact ⟨number, same.symm⟩

/-- Every report is about a file of the directory. -/
theorem exists_name (h : run.Sound directory) {report : ChunkReport}
    (member : report ∈ run.report.chunks) :
    ∃ name, Path.IsName name ∧ report.path = Path.join directory name := by
  obtain ⟨table, tableMember, member⟩ := List.mem_flatMap.mp member
  obtain ⟨number, path⟩ := h.exists_number tableMember (List.mem_map_of_mem member)
  exact ⟨_, Chunk.isName_nameOf (slash_notMem_chunkStem table.source) number, path⟩

/-- Converting a table keeps a run sound. -/
theorem convert (h : run.Sound directory) {source : String} {plan : Plan} {chunks : List Chunk}
    (converts : run.Converts directory source plan chunks next) : next.Sound directory := by
  have ordinary : ∀ chunk ∈ chunks, Path.IsName chunk.name := by
    intro chunk member
    have name : chunk.name ∈ chunks.map Chunk.name := List.mem_map_of_mem member
    rw [converts.sound.named, converts.stem] at name
    obtain ⟨number, _, same⟩ := List.mem_map.mp name
    rw [← same]
    exact Chunk.isName_nameOf (slash_notMem_chunkStem source) number
  have accepted : ∀ chunk ∈ chunks,
      (run.tree.write? (Path.join directory chunk.name) []).isSome = true := by
    intro chunk member
    have accept := converts.sound.accepted chunk member
    rw [converts.refuses] at accept
    simpa [← Option.not_isSome] using accept
  obtain ⟨unreadable, tables⟩ := converts.reported
  refine ⟨?_, ?_⟩
  · have all : next.report.chunks = run.report.chunks ++ chunks.map (Chunk.report directory) := by
      simp [Report.chunks, tables]
    rw [converts.stored, all]
    exact h.agrees.store (fun report member => h.exists_name member) ordinary
      converts.sound.whole accepted
  · rw [tables, List.forall_mem_append, List.forall_mem_singleton]
    refine ⟨h.named, ?_⟩
    have paths : (chunks.map (Chunk.report directory)).map ChunkReport.path =
        (chunks.map Chunk.name).map (Path.join directory) := by
      simp [Function.comp_def, Chunk.report]
    rw [paths, converts.sound.named, List.length_map, List.map_map, converts.stem]
    rfl

theorem step (h : run.Sound settings.outputDirectory) {job : Job}
    (done : run.step settings surroundings language job = (next, none)) :
    next.Sound settings.outputDirectory := by
  rcases Run.step_cases done with ⟨plan, chunks, converts⟩ | ⟨tree, tables⟩
  · exact h.convert converts
  · have chunks : next.report.chunks = run.report.chunks := by
      rw [Report.chunks, tables, Report.chunks]
    refine ⟨?_, ?_⟩
    · rw [tree, chunks]
      exact h.agrees
    · rw [tables]
      exact h.named

theorem steps (h : run.Sound settings.outputDirectory) {jobs : List Job}
    (done : run.steps settings surroundings language jobs = (next, none)) :
    next.Sound settings.outputDirectory := by
  induction jobs generalizing run with
  | nil =>
      cases done
      exact h
  | cons job jobs ih =>
      rw [Run.steps] at done
      split at done
      next stepped same => exact ih (h.step same) done
      next => cases done

end Run.Sound

/-! ### Tables of a run -/

section Sources

variable {settings : Settings} {surroundings : Surroundings} {language : Language}
variable {run next : Run}

/-- The tables that are reported are those of some of the jobs, in their order. -/
theorem Run.sources_steps {jobs : List Job}
    (done : run.steps settings surroundings language jobs = (next, none)) :
    ∃ sources, next.report.tables.map TableReport.source =
        run.report.tables.map TableReport.source ++ sources ∧
      List.Sublist sources (jobs.map Job.table) := by
  induction jobs generalizing run with
  | nil =>
      cases done
      exact ⟨[], (List.append_nil _).symm, .slnil⟩
  | cons job jobs ih =>
      rw [Run.steps] at done
      split at done
      next stepped first =>
        obtain ⟨sources, rest, sublist⟩ := ih done
        rcases Run.step_cases first with ⟨_, _, converts⟩ | ⟨_, tables⟩
        · obtain ⟨_, tables⟩ := converts.reported
          refine ⟨job.table :: sources, ?_, sublist.cons_cons job.table⟩
          rw [rest, tables, List.map_append, List.map_singleton, List.append_assoc,
            List.singleton_append]
        · exact ⟨sources, by rw [rest, tables], sublist.cons job.table⟩
      next => cases done

/-- If the tables of the jobs have different stems, so have those that are reported. -/
theorem Run.nodup_stems {tree : FileTree}
    (done : runJobs settings surroundings tree = (run, none))
    (different : (settings.jobs.map fun job => chunkStem job.table).Nodup) :
    (run.report.tables.map fun table => chunkStem table.source).Nodup := by
  unfold runJobs at done
  split at done
  next => cases done
  next start _ =>
    obtain ⟨sources, same, sublist⟩ := Run.sources_steps done
    have stems : run.report.tables.map (fun table => chunkStem table.source) =
        sources.map chunkStem := by
      have all : run.report.tables.map TableReport.source = sources := same
      rw [← all, List.map_map]
      rfl
    have jobs : settings.jobs.map (fun job => chunkStem job.table) =
        (settings.jobs.map Job.table).map chunkStem := by
      rw [List.map_map]
      rfl
    rw [jobs] at different
    rw [stems]
    exact different.sublist (sublist.map chunkStem)

end Sources

/-- A run begins without reports. -/
theorem Run.Sound.start (directory : String) (tree : FileTree) : Run.Sound directory { tree } := by
  have none : ({ tree } : Run).report.chunks = [] := rfl
  refine ⟨?_, fun table member => by cases member⟩
  rw [none]
  intro before report after split
  simp at split

theorem Run.Sound.of_runJobs {settings : Settings} {surroundings : Surroundings} {tree : FileTree}
    {run : Run} (done : runJobs settings surroundings tree = (run, none)) :
    run.Sound settings.outputDirectory := by
  unfold runJobs at done
  split at done
  next => cases done
  next start _ => exact (Run.Sound.start settings.outputDirectory start).steps done

/-! ### Reports of one path -/

section Paths

variable {tree : FileTree} {reports : List ChunkReport} {report : ChunkReport}

/-- Reports that describe one file say the same. -/
theorem ChunkReport.Describes.same {other : ChunkReport} (h : report.Describes tree)
    (h' : other.Describes tree) (path : report.path = other.path) :
    report.checksum = other.checksum ∧ report.statements = other.statements := by
  obtain ⟨bytes, stored, digest, count⟩ := h
  obtain ⟨bytes', stored', digest', count'⟩ := h'
  rw [path, stored'] at stored
  obtain rfl := Option.some.inj stored
  exact ⟨digest.symm.trans digest', count.symm.trans count'⟩

/-- Among the reports about a path there is a last one. -/
theorem exists_last_report (member : report ∈ reports) :
    ∃ before last after, reports = before ++ last :: after ∧ last.path = report.path ∧
      ∀ later ∈ after, later.path ≠ last.path := by
  induction reports using List.reverseRecOn with
  | nil => cases member
  | append_singleton reports other ih =>
      by_cases same : other.path = report.path
      · exact ⟨reports, other, [], rfl, same, nofun⟩
      · have member : report ∈ reports := by
          rcases List.mem_append.mp member with member | member
          · exact member
          · exact absurd (congrArg ChunkReport.path (List.mem_singleton.mp member).symm) same
        obtain ⟨before, last, after, rfl, path, later⟩ := ih member
        refine ⟨before, last, after ++ [other], by simp, path, ?_⟩
        rw [List.forall_mem_append, List.forall_mem_singleton]
        exact ⟨later, fun again => same (again.trans path)⟩

/-- Where reports about one path say the same, the last one stands for all of them. -/
theorem Agrees.describes (agrees : Agrees tree reports)
    (same : ∀ report ∈ reports, ∀ other ∈ reports, report.path = other.path →
      report.checksum = other.checksum ∧ report.statements = other.statements)
    (member : report ∈ reports) : report.Describes tree := by
  obtain ⟨before, last, after, split, path, later⟩ := exists_last_report member
  have lastMember : last ∈ reports := by simp [split]
  obtain ⟨bytes, stored, digest, count⟩ := agrees before last after split later
  obtain ⟨checksum, statements⟩ := same last lastMember report member path
  exact ⟨bytes, path ▸ stored, digest.trans checksum, count.trans statements⟩

/-- The paths of the chunks of tables with different stems are different. -/
theorem Run.Sound.nodup_paths {directory : String} {run : Run} (h : run.Sound directory)
    (different : (run.report.tables.map fun table => chunkStem table.source).Nodup) :
    (run.report.chunks.map ChunkReport.path).Nodup := by
  have injective (stem : String) : Function.Injective fun number =>
      Path.join directory (Chunk.nameOf stem number) :=
    fun _ _ same => (Chunk.nameOf_injective (Path.join_injective same)).2
  rw [Report.chunks, List.map_flatMap, List.nodup_flatMap]
  constructor
  · intro table member
    rw [h.named table member]
    exact List.nodup_range.map (injective (chunkStem table.source))
  · refine (List.pairwise_map.mp different).imp_of_mem ?_
    intro table other member otherMember apart path inside inside'
    obtain ⟨number, same⟩ := h.exists_number member inside
    obtain ⟨number', same'⟩ := h.exists_number otherMember inside'
    exact apart (Chunk.nameOf_injective (Path.join_injective (same.symm.trans same'))).1

end Paths

/-! ### The reports of a run -/

/-- After a run that comes to its end, the last report about each path describes the file there. So
all reports describe their files if and only if reports about one path say the same, and they do if
the tables of the jobs have different stems. -/
theorem reports_describe_files (settings : Settings) (surroundings : Surroundings) (tree : FileTree)
    (run : Run) (done : runJobs settings surroundings tree = (run, none)) :
    Agrees run.tree run.report.chunks ∧
    ((∀ report ∈ run.report.chunks, report.Describes run.tree) ↔
      ∀ report ∈ run.report.chunks, ∀ other ∈ run.report.chunks, report.path = other.path →
        report.checksum = other.checksum ∧ report.statements = other.statements) ∧
    ((settings.jobs.map fun job => chunkStem job.table).Nodup →
      ∀ report ∈ run.report.chunks, report.Describes run.tree) := by
  have sound : run.Sound settings.outputDirectory := .of_runJobs done
  refine ⟨sound.agrees, ⟨?_, fun same report => sound.agrees.describes same⟩, ?_⟩
  · intro describes report member other otherMember path
    exact (describes report member).same (describes other otherMember) path
  · intro different report
    apply sound.agrees.describes
    intro first member second secondMember path
    have apart := sound.nodup_paths (Run.nodup_stems done different)
    obtain rfl := List.inj_on_of_nodup_map apart member secondMember path
    exact ⟨rfl, rfl⟩

/-! ### Tables of the same name -/

/-- A tree with a template of persons and three tables, two of which have the same name. -/
def peopleTree : FileTree where
  files := [
    (["a", "x.csv"], Digest.utf8 "name\nAda\n"),
    (["b", "x.csv"], Digest.utf8 "name\nBob\nCid\n"),
    (["b", "y.csv"], Digest.utf8 "name\nBob\nCid\n"),
    (["person.json"], Digest.utf8
      "\x7b\"TEMPLATE\":[[\"Person\",\x7b\"GENSYM\":\"person\"\x7d]]\x7d")]
  directories := [["a"], ["b"]]

def peopleSettings (first second : String) : Settings where
  jobs := [⟨first, "person.json"⟩, ⟨second, "person.json"⟩]
  outputDirectory := "out"

/-- Decimal numbers as random identifiers. -/
def peopleSurroundings : Surroundings where
  fresh := toString

/-- A run with the settings comes to its end if it does so when it is evaluated. -/
theorem exists_people_run (first second : String) (chunks : List (String × Nat))
    (evaluated :
      (runJobs (peopleSettings first second) peopleSurroundings peopleTree).2.isNone = true ∧
      (runJobs (peopleSettings first second) peopleSurroundings peopleTree).1.report.chunks.map
        (fun report => (report.path, report.statements)) = chunks) :
    ∃ run, runJobs (peopleSettings first second) peopleSurroundings peopleTree = (run, none) ∧
      run.report.chunks.map (fun report => (report.path, report.statements)) = chunks :=
  ⟨_, Prod.ext rfl (Option.isNone_iff_eq_none.mp evaluated.1), evaluated.2⟩

theorem reports_describe_files_people :
    ∃ run,
      runJobs (peopleSettings "a/x.csv" "b/y.csv") peopleSurroundings peopleTree = (run, none) ∧
      run.report.chunks.map (fun report => (report.path, report.statements)) =
        [("out/x_0.nt", 1), ("out/y_0.nt", 2)] ∧
      ∀ report ∈ run.report.chunks, report.Describes run.tree := by
  obtain ⟨run, finished, chunks⟩ := exists_people_run "a/x.csv" "b/y.csv"
    [("out/x_0.nt", 1), ("out/y_0.nt", 2)] (by decide +kernel)
  obtain ⟨_, _, describe⟩ := reports_describe_files _ _ _ run finished
  exact ⟨run, finished, chunks, describe (by decide +kernel)⟩

/-- Where both tables have the same name, the second chunk replaces the first one, whose report then
does not describe the file any more. -/
theorem not_describes_people :
    ∃ run,
      runJobs (peopleSettings "a/x.csv" "b/x.csv") peopleSurroundings peopleTree = (run, none) ∧
      ∃ report ∈ run.report.chunks, ¬report.Describes run.tree := by
  obtain ⟨run, finished, chunks⟩ := exists_people_run "a/x.csv" "b/x.csv"
    [("out/x_0.nt", 1), ("out/x_0.nt", 2)] (by decide +kernel)
  refine ⟨run, finished, ?_⟩
  by_contra all
  have describe : ∀ report ∈ run.report.chunks, report.Describes run.tree := by
    simpa using all
  have two : run.report.chunks.length = 2 := by
    simpa using congrArg List.length chunks
  obtain ⟨first, second, reports⟩ := List.length_eq_two.mp two
  rw [reports] at chunks describe
  simp only [List.map_cons, List.map_nil, List.cons.injEq, Prod.mk.injEq, and_true] at chunks
  obtain ⟨⟨path, count⟩, path', count'⟩ := chunks
  have same := (describe first (by simp)).same (describe second (by simp)) (path.trans path'.symm)
  omega

end RowTriples
