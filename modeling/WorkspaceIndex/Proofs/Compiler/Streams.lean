import WorkspaceIndex.Proofs.Compiler.JavacStyle
import WorkspaceIndex.Proofs.Compiler.Verdict
/-!
# Two streams read as one text

A compiler writes an output and errors, and both are read for reports as one text, the errors right
after the output. As long as the output does not stop within a line, that is to read the one and
then the other, and no report is lost. Otherwise the last line of the output and the first line of
the errors are read as one line, in which at most one report is found (`compile_streams`). So a
report can be lost, and with the only error of a module its failure (`error_lost_between_streams`).
-/

namespace WorkspaceIndex

open Text

theorem Diagnostic.errorCount_append (ds es : List Diagnostic) :
    errorCount (ds ++ es) = errorCount ds + errorCount es := List.countP_append

namespace CompilerPrograms

/-! ### Diagnostics in the name of a module -/

/-- A diagnostic in the name of a module. -/
def named (module : String) (d : Diagnostic) : Diagnostic := { d with origin := module }

theorem errorCount_map_named (module : String) (ds : List Diagnostic) :
    Diagnostic.errorCount (ds.map (named module)) = Diagnostic.errorCount ds := by
  rw [Diagnostic.errorCount, List.countP_map]
  rfl

/-- Diagnostics of one origin are known again when they have got that origin back. -/
theorem map_named_map_named (module : String) {origin : String} {ds : List Diagnostic}
    (h : ∀ d ∈ ds, d.origin = origin) : (ds.map (named module)).map (named origin) = ds := by
  rw [List.map_map]
  conv_rhs => rw [← List.map_id ds]
  exact List.map_congr_left fun d hd ↦ by rw [← h d hd]; rfl

theorem map_named_inj {module origin : String} {ds es : List Diagnostic}
    (hds : ∀ d ∈ ds, d.origin = origin) (hes : ∀ d ∈ es, d.origin = origin) :
    ds.map (named module) = es.map (named module) ↔ ds = es := by
  refine ⟨fun h ↦ ?_, congrArg _⟩
  rw [← map_named_map_named module hds, h, map_named_map_named module hes]

/-! ### Where the streams meet -/

/-- The reports of two texts that are read apart. -/
def readApart (output errors : List Char) : List Diagnostic :=
  JavacStyle.reports output ++ JavacStyle.reports errors

theorem origin_of_mem_readApart {output errors : List Char} {d : Diagnostic}
    (h : d ∈ readApart output errors) : d.origin = JavacStyle.compilerOrigin := by
  rcases List.mem_append.1 h with h | h <;> exact JavacStyle.origin_of_mem_reports h

theorem diagnostics_eq {request : CompileRequest} (hvariant : request.variant ≠ .scala3)
    (run : ProgramRun) :
    diagnostics request run =
      (JavacStyle.reports (run.output.lenientText.toList ++ run.errors.lenientText.toList)).map
        (named request.module) := by
  have hreports : reports request.variant = JavacStyle.reports := by
    rcases hv : request.variant with - | - | -
    · exact absurd hv hvariant
    · rfl
    · rfl
  rw [diagnostics, hreports, writtenText]
  rfl

/-- **What a compiler of Scala 2 or Java is found to report.**

If its output does not stop within a line, or if there are no errors, the reports are those of its
output and after them those of its errors, only in the name of the module, and the numbers of errors
add up. In any case the output is a number of whole lines and perhaps the beginning of one more.
What is read apart is the whole lines, and after them the rest of the output together with the
errors. So nothing is lost exactly if reading these two as one finds what is found by reading them
apart. -/
theorem compile_streams {programs : CompilerPrograms} {call : CompileCall} {files : FileStore}
    {machine after : Machine} {command : Command} {run : ProgramRun}
    (hvariant : call.request.variant ≠ .scala3) (hcommand : programs.command call = .ok command)
    (hstart : machine.start files command = (.ok run, after)) :
    let output := run.output.lenientText.toList
    let errors := run.errors.lenientText.toList
    let found := (programs.compile call files machine).1.diagnostics
    let apart := readApart output errors
    (IsEnded output ∨ errors = [] →
        found = apart.map (named call.request.module) ∧
        Diagnostic.errorCount found =
          Diagnostic.errorCount (JavacStyle.reports output) +
            Diagnostic.errorCount (JavacStyle.reports errors)) ∧
      ∃ lines rest, output = lines ++ rest ∧ IsEnded lines ∧ '\n' ∉ rest ∧
        found = (readApart lines (rest ++ errors)).map (named call.request.module) ∧
        (found = apart.map (named call.request.module) ↔
          JavacStyle.reports (rest ++ errors) = readApart rest errors) := by
  intro output errors found apart
  have hfound :
      found = (JavacStyle.reports (output ++ errors)).map (named call.request.module) := by
    rw [← diagnostics_eq hvariant]
    exact congrArg (fun answer ↦ answer.1.diagnostics) (compile_of_start hcommand hstart)
  refine ⟨fun h ↦ ?_, ?_⟩
  · have happart : JavacStyle.reports (output ++ errors) = apart := by
      rcases h with hended | hnil
      · exact JavacStyle.reports_append hended
      · simp [apart, readApart, hnil, JavacStyle.reports, lines]
    rw [hfound, happart, errorCount_map_named]
    exact ⟨rfl, Diagnostic.errorCount_append _ _⟩
  · -- whole lines are read in the same way, so only the line where the streams meet matters
    obtain ⟨lines, rest, hsplit, hended, hrest⟩ := exists_isEnded_append output
    have hread : JavacStyle.reports (output ++ errors) = readApart lines (rest ++ errors) := by
      rw [hsplit, List.append_assoc, JavacStyle.reports_append hended, readApart]
    have hapart : apart = JavacStyle.reports lines ++ readApart rest errors := by
      simp only [apart, readApart, hsplit, JavacStyle.reports_append hended, List.append_assoc]
    refine ⟨lines, rest, hsplit, hended, hrest, by rw [hfound, hread], ?_⟩
    rw [hfound, hread, map_named_inj (fun _ ↦ origin_of_mem_readApart)
      (fun _ ↦ origin_of_mem_readApart)]
    show _ = apart ↔ _
    rw [hapart, readApart, List.append_cancel_left_eq]

/-- The call for a module with one Java source. -/
def javaCall : CompileCall :=
  ⟨.java, { Outcome.oneSource with variant := .java, sources := [⟨"/ws/A.java"⟩] }, none⟩

/-- A workspace without files. -/
def bareStore : FileStore := ⟨[(["ws"], .directory)], ["ws"]⟩

/-- A run of a compiler that writes whole lines to both streams. -/
def endedRun : ProgramRun where
  output := .text "A.java:1: warning: old\n"
  errors := .text "B.java:2: error: bad\n1 error\n"
  status := 1

theorem compile_streams_endedRun :
    let found := (compile ⟨"scalac", "javac"⟩ javaCall bareStore
      { programs := [("javac", .runs [endedRun])] }).1.diagnostics
    IsEnded endedRun.output.lenientText.toList ∧
      found =
        [⟨.warning, "core", "old", some ⟨⟨"A.java"⟩, 1, none⟩⟩,
          ⟨.error, "core", "bad", some ⟨⟨"B.java"⟩, 2, none⟩⟩] ∧
      Diagnostic.errorCount found = 1 := by
  intro found
  have hended : IsEnded endedRun.output.lenientText.toList := Or.inr (by decide)
  obtain ⟨hdiagnostics, hcount⟩ :=
    (@compile_streams ⟨"scalac", "javac"⟩ javaCall bareStore
      { programs := [("javac", .runs [endedRun])] } _ _ endedRun (by decide) rfl rfl).1
      (Or.inl hended)
  refine ⟨hended, hdiagnostics.trans ?_, hcount.trans ?_⟩ <;> decide

/-- A run whose output stops within a line that looks like a report. -/
def unendedRun : ProgramRun where
  output := .text "done: error: none"
  errors := .text "B.java:2: error: bad\n"

/-- The only error of a module is lost where the streams meet, and the module counts as compiled. -/
theorem error_lost_between_streams :
    let answer := (compile ⟨"scalac", "javac"⟩ javaCall bareStore
      { programs := [("javac", .runs [unendedRun])] }).1
    Diagnostic.errorCount (readApart unendedRun.output.lenientText.toList
        unendedRun.errors.lenientText.toList) = 1 ∧
      answer.diagnostics = [] ∧ Outcome.ofAnswer "core" answer = .ok .compiled := by
  decide +kernel

end CompilerPrograms

end WorkspaceIndex
