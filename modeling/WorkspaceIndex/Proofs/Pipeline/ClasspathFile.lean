import WorkspaceIndex.Proofs.Compiler.Arguments
import WorkspaceIndex.Proofs.Pipeline.Kept
import WorkspaceIndex.Proofs.Text.Words
/-!
# The classpath file

Every call of the indexer finds a file next to the semantic output, in which the run has written its
classpath right before. Whatever stood in that file is gone, so it is the classpath of this run and
of no earlier one, and nothing else stands there.

The compiler is not called at all with an entry that could not be told from two (`joinPaths?`). The
classpath file has no such guard, and it holds the paths as they are shown. So with some classpaths
it cannot be read back. Which ones these are is said exactly by `readsAs_classpathText_iff`, and
with any others it says all there is to know about the paths (`paths_eq_of_classpathText_eq`). The
empty classpath is apart: its file is that of a single empty path.
-/

namespace WorkspaceIndex

namespace IndexRequest

/-! ### Reading the file back -/

/-- A text reads as some paths: it has the option, one line, and an end of line, and the spellings
of the paths stand in that line between colons. -/
def ReadsAs (text : String) (paths : List Path) : Prop :=
  ∃ line, text.toList.splitOn '\n' = ["-classpath".toList, line, []] ∧
    (line.splitOn ':').map (·.map .char) = paths.map Path.letters

/-- A path that can be read off a line between colons: it is a text, and it has no colon and no end
of line in it. -/
structure Legible (path : Path) : Prop where
  isText : ∃ text, path.text? = some text
  no_colon : .char ':' ∉ path.letters
  no_newline : .char '\n' ∉ path.letters

variable {classpath classpath' : List ClasspathEntry} {text : String} {paths paths' : List Path}

theorem legible_mk (hcolon : ':' ∉ text.toList) (hnewline : '\n' ∉ text.toList) :
    Legible ⟨text⟩ where
  isText := ⟨text, OsText.text?_eq_some_iff.2 rfl⟩
  no_colon := mt OsText.mem_ofText_iff.1 hcolon
  no_newline := mt OsText.mem_ofText_iff.1 hnewline

/-- Pieces of a line are paths if the paths are texts and are shown as these pieces. -/
theorem map_char_eq_letters_iff {pieces : List (List Char)} :
    pieces.map (·.map .char) = paths.map Path.letters ↔
      (∀ path ∈ paths, ∃ text, path.text? = some text) ∧
        pieces = paths.map fun path ↦ path.text.toList := by
  constructor
  · intro h
    refine ⟨fun path hpath ↦ ?_, ?_⟩
    · obtain ⟨piece, -, hpiece⟩ := List.mem_map.1 (h ▸ List.mem_map_of_mem hpath)
      refine ⟨String.ofList piece, OsText.text?_eq_some_iff.2 ?_⟩
      rw [← hpiece, OsText.ofText, String.toList_ofList]
    · calc pieces = (pieces.map (·.map .char)).map (·.map Letter.shown) := by
            simp [Function.comp_def, Letter.shown]
        _ = paths.map fun path ↦ path.text.toList := by
            rw [h, List.map_map]
            exact List.map_congr_left fun path _ ↦ (OsText.toList_text _).symm
  · rintro ⟨htext, rfl⟩
    rw [List.map_map]
    exact List.map_congr_left fun path hpath ↦ OsText.ofText_text_eq_iff.2 (htext path hpath)

theorem toList_classpathText (classpath : List ClasspathEntry) :
    (classpathText classpath).toList = ['\n'].intercalate
      ["-classpath".toList,
        [':'].intercalate ((classpath.map ClasspathEntry.path).map fun path ↦ path.text.toList),
        []] := by
  show ("-classpath\n" ++ ":".intercalate (classpath.map fun entry ↦ entry.path.text) ++
    "\n").toList = _
  rw [String.toList_append, String.toList_append, String.toList_intercalate, List.map_map,
    List.map_map]
  simp [Function.comp_def]

/-- There is one way to read a text at most. -/
theorem ReadsAs.unique (h : ReadsAs text paths) (h' : ReadsAs text paths') : paths = paths' := by
  obtain ⟨line, hlines, hline⟩ := h
  obtain ⟨line', hlines', hline'⟩ := h'
  obtain rfl : line = line' := by simpa using hlines.symm.trans hlines'
  exact List.map_injective_iff.2 Path.letters_injective (hline.symm.trans hline')

/-- **A classpath is read back from its file exactly if its paths are texts, and no colon and no end
of line stands in one.** -/
theorem readsAs_classpathText_iff (hne : classpath ≠ []) :
    ReadsAs (classpathText classpath) (classpath.map ClasspathEntry.path) ↔
      ∀ entry ∈ classpath, Legible entry.path := by
  set pieces := (classpath.map ClasspathEntry.path).map fun path ↦ path.text.toList with hpieces
  have hpieces_ne : pieces ≠ [] := by simpa [hpieces] using hne
  have hlegible : (∀ entry ∈ classpath, Legible entry.path) ↔
      (∀ path ∈ classpath.map ClasspathEntry.path, ∃ text, path.text? = some text) ∧
        (∀ piece ∈ pieces, ':' ∉ piece) ∧ '\n' ∉ [':'].intercalate pieces := by
    rw [Text.mem_intercalate_iff (by decide), not_exists, hpieces]
    simp only [not_and, List.forall_mem_map, ← forall₂_and]
    refine forall₂_congr fun entry _ ↦ ?_
    rw [Path.text, OsText.mem_toList_text_iff (by decide), OsText.mem_toList_text_iff (by decide)]
    exact ⟨fun h ↦ ⟨h.isText, h.no_colon, h.no_newline⟩, fun h ↦ ⟨h.1, h.2.1, h.2.2⟩⟩
  simp only [hlegible, ReadsAs, toList_classpathText, map_char_eq_letters_iff, ← hpieces]
  constructor
  · rintro ⟨line, hlines, htext, hline⟩
    obtain ⟨-, hnone, hjoined⟩ := Text.splitOn_eq_iff.1 hlines
    obtain ⟨-, hcolons, rfl⟩ := Text.splitOn_eq_iff.1 hline
    exact ⟨htext, hcolons, hnone _ (by simp)⟩
  · rintro ⟨htext, hcolons, hline⟩
    refine ⟨[':'].intercalate pieces, (Text.splitOn_intercalate_eq_iff (by simp)).2 ?_, htext,
      (Text.splitOn_intercalate_eq_iff hpieces_ne).2 hcolons⟩
    simpa using hline

/-- **The file tells the paths**: classpaths that are read back from the same file are the same. -/
theorem paths_eq_of_classpathText_eq (hne : classpath ≠ []) (hne' : classpath' ≠ [])
    (hlegible : ∀ entry ∈ classpath, Legible entry.path)
    (hlegible' : ∀ entry ∈ classpath', Legible entry.path)
    (h : classpathText classpath = classpathText classpath') :
    classpath.map ClasspathEntry.path = classpath'.map ClasspathEntry.path :=
  ((readsAs_classpathText_iff hne).2 hlegible).unique
    (h ▸ (readsAs_classpathText_iff hne').2 hlegible')

end IndexRequest

/-! ### The file in a run -/

/-- A call of the indexer that finds the file of a classpath, and nothing else in it, in the one
directory that it is to index. -/
def Event.FindsClasspath (call : Event) (destination : Path) (classpath : List ClasspathEntry) :
    Prop :=
  ∃ request, call = .indexed request (some (IndexRequest.classpathText classpath)) ∧
    request.targetroots = [destination]

namespace Pipeline

variable {ε : Type}

/-- **The indexer finds the classpath of this run, in a form that can be read back.**

From wherever the last built-in phase starts, each of its calls finds the file of the classpath in
the context. If hooks and added phases do not call the indexer, there are no other calls of it in a
run, and if they leave options and classpath alone as well, that classpath is the one which the run
has aggregated and leaves in its context. The files that were there before do not matter.

A classpath that is not empty is read back from its file exactly if its paths are texts and none has
a colon or an end of line in it, so two of these with the same file have the same paths. -/
theorem classpathFile_of_run (p : Pipeline ε) (services : Services ε) (options : GenerateOptions)
    (world : World ε) :
    (∀ t : Session ε,
      ∃ calls, (leaves ((Phase.index services).run t)).world.calls = t.world.calls ++ calls ∧
        ∀ call ∈ calls, ∃ classpath, t.context.classpath = some classpath ∧
          call.FindsClasspath t.context.options.destination classpath) ∧
    (p.Keeps (fun s ↦ s.world.indexCalls) →
      ∃ calls, (leaves (p.run services options world)).world.indexCalls =
          world.indexCalls ++ calls ∧
        ∀ call ∈ calls, ∃ t classpath, p.toIndex services (start options world) = .ok () t ∧
          t.context.classpath = some classpath ∧
          call.FindsClasspath t.context.options.destination classpath ∧
          (p.Keeps (fun s ↦ (s.context.options, s.context.classpath)) →
            t.context.options = options ∧
            (leaves (p.run services options world)).context.classpath = some classpath ∧
            ∃ u, p.toAggregate services (start options world) = .ok () u ∧
              classpath = Classpath.aggregate u.world.files options.dedupClasspath
                services.host.modules)) ∧
    (∀ classpath : List ClasspathEntry, classpath ≠ [] →
      (IndexRequest.ReadsAs (IndexRequest.classpathText classpath)
          (classpath.map ClasspathEntry.path) ↔
        ∀ entry ∈ classpath, IndexRequest.Legible entry.path)) ∧
    ∀ classpath classpath' : List ClasspathEntry, classpath ≠ [] → classpath' ≠ [] →
      (∀ entry ∈ classpath ++ classpath', IndexRequest.Legible entry.path) →
      IndexRequest.classpathText classpath = IndexRequest.classpathText classpath' →
      classpath.map ClasspathEntry.path = classpath'.map ClasspathEntry.path := by
  refine ⟨fun t ↦ ?_, fun hp ↦ ?_, fun classpath hne ↦ IndexRequest.readsAs_classpathText_iff hne,
    fun classpath classpath' hne hne' hclear hfile ↦ ?_⟩
  · obtain ⟨calls, hcalls, -, hindexed⟩ := Phase.calls_index services t
    refine ⟨calls, hcalls, fun call hcall ↦ ?_⟩
    obtain ⟨format, classpath, -, hclasspath, rfl⟩ := hindexed call hcall
    exact ⟨classpath, hclasspath, _, rfl, rfl⟩
  · obtain ⟨calls, hcalls, -, hindexed⟩ := indexCalls_run hp
    refine ⟨calls, hcalls, fun call hcall ↦ ?_⟩
    obtain ⟨t, format, classpath, hto, -, hclasspath, rfl⟩ := hindexed call hcall
    refine ⟨t, classpath, hto, hclasspath, ⟨_, rfl, rfl⟩, fun hkept ↦ ?_⟩
    obtain ⟨hoptions, u, hu, haggregate⟩ := classpath_of_toIndex hkept hto
    rw [classpath_run hkept hto]
    exact ⟨hoptions, hclasspath, u, hu, Option.some.inj (hclasspath.symm.trans haggregate)⟩
  · rw [List.forall_mem_append] at hclear
    exact IndexRequest.paths_eq_of_classpathText_eq hne hne' hclear.1 hclear.2 hfile

/-- A world with the classpath file of an earlier run. -/
def staleWorkspace : World Unit where
  files := ⟨[(["ws"], .directory), (["ws", "out"], .directory),
    (["ws", "out", "javacopts.txt"], .file (.text "-classpath\n/deps/old.jar\n"))], ["ws"]⟩
  outside := ()

/-- Collaborators that do what they are asked for, over a build with two dependencies. -/
def dependentBuild : Services Unit :=
  .stateless { root := ⟨"/ws"⟩
               modules := [{ name := "core", variant := .scala3
                             dependencies := [⟨"/deps/a.jar"⟩, ⟨"/deps/b.jar"⟩] }] }
    (fun _ ↦ .ok []) (fun _ ↦ {}) fun _ ↦ {}

/-- The run of `dependentBuild` over `staleWorkspace`. -/
def staleRun : EStateM.Result Failure (Session Unit) Unit :=
  ({} : Pipeline Unit).run dependentBuild ⟨⟨"index.scip"⟩, ⟨"/ws/out"⟩, false⟩ staleWorkspace

/-- The file of the earlier run is replaced: the indexer finds the two dependencies. -/
theorem classpathFile_of_staleRun :
    ({} : Pipeline Unit).Keeps (fun s ↦ s.world.indexCalls) ∧
      ({} : Pipeline Unit).Keeps (fun s ↦ (s.context.options, s.context.classpath)) ∧
      ∃ call classpath, (leaves staleRun).world.indexCalls = [call] ∧
        (leaves staleRun).context.classpath = some classpath ∧
        call.FindsClasspath ⟨"/ws/out"⟩ classpath ∧
        IndexRequest.ReadsAs (IndexRequest.classpathText classpath)
          [⟨"/deps/a.jar"⟩, ⟨"/deps/b.jar"⟩] := by
  obtain ⟨-, hrun, hreads, -⟩ := classpathFile_of_run {} dependentBuild
    ⟨⟨"index.scip"⟩, ⟨"/ws/out"⟩, false⟩ staleWorkspace
  obtain ⟨calls, hcalls, hfind⟩ := hrun (keeps_plain _)
  rw [← staleRun] at hcalls hfind
  have hclasspath : (leaves staleRun).context.classpath =
      some [⟨⟨"/deps/a.jar"⟩, none⟩, ⟨⟨"/deps/b.jar"⟩, none⟩] := by decide +kernel
  have hone : (leaves staleRun).world.indexCalls.length = 1 := by decide +kernel
  obtain ⟨call, hcall⟩ := List.length_eq_one_iff.1 hone
  rw [hcall] at hcalls
  obtain rfl : [call] = calls := hcalls
  obtain ⟨t, classpath, -, -, hfinds, hkept⟩ := hfind call List.mem_cons_self
  obtain ⟨hoptions, hleft, -⟩ := hkept (keeps_plain _)
  rw [hoptions] at hfinds
  obtain rfl := Option.some.inj (hclasspath.symm.trans hleft)
  have hlegible : ∀ entry ∈ [(⟨⟨"/deps/a.jar"⟩, none⟩ : ClasspathEntry), ⟨⟨"/deps/b.jar"⟩, none⟩],
      IndexRequest.Legible entry.path :=
    List.forall_mem_cons.2 ⟨IndexRequest.legible_mk (by decide) (by decide),
      List.forall_mem_singleton.2 (IndexRequest.legible_mk (by decide) (by decide))⟩
  exact ⟨keeps_plain _, keeps_plain _, call, _, hcall, hclasspath, hfinds,
    (hreads _ (List.cons_ne_nil _ _)).2 hlegible⟩

/-- A jar with a single byte for its name that belongs to no character. -/
def strayJar (byte : UInt8) : Path :=
  ⟨OsText.ofText "/d/" ++ .stray [byte] :: OsText.ofText ".jar"⟩

/-- Two paths without colons and ends of line that are no texts: they are shown alike, so neither
can be read back, and nothing tells the file of the one from that of the other. -/
theorem not_readsAs_strayJar :
    Text.Utf8.decode [0x2f, 0x64, 0x2f, 0xfe, 0x2e, 0x6a, 0x61, 0x72] = (strayJar 0xfe).letters ∧
      Text.Utf8.decode [0x2f, 0x64, 0x2f, 0xff, 0x2e, 0x6a, 0x61, 0x72] = (strayJar 0xff).letters ∧
      (∀ byte ∈ [0xfe, 0xff], .char ':' ∉ (strayJar byte).letters ∧
        .char '\n' ∉ (strayJar byte).letters ∧
        ¬IndexRequest.ReadsAs (IndexRequest.classpathText [⟨strayJar byte, none⟩])
          [strayJar byte]) ∧
      IndexRequest.classpathText [⟨strayJar 0xfe, none⟩] =
        IndexRequest.classpathText [⟨strayJar 0xff, none⟩] ∧
      strayJar 0xfe ≠ strayJar 0xff := by
  refine ⟨by decide +kernel, by decide +kernel, fun byte hbyte ↦ ?_, by decide +kernel, by decide⟩
  have hclear : ∀ byte ∈ [0xfe, 0xff], .char ':' ∉ (strayJar byte).letters ∧
      .char '\n' ∉ (strayJar byte).letters ∧ (strayJar byte).text? = none := by decide +kernel
  obtain ⟨hcolon, hnewline, hnone⟩ := hclear byte hbyte
  refine ⟨hcolon, hnewline, fun hreads ↦ ?_⟩
  obtain ⟨text, htext⟩ := ((IndexRequest.readsAs_classpathText_iff (List.cons_ne_nil _ _)).1 hreads
    _ List.mem_cons_self).isText
  rw [hnone] at htext
  cases htext

end Pipeline

end WorkspaceIndex
