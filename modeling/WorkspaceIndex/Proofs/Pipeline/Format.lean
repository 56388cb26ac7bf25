import WorkspaceIndex.Proofs.OutputFormat.FileName
import WorkspaceIndex.Proofs.Pipeline.Kept
/-!
# The format of the index in a run

The format is resolved from the name that was asked for, in the first phase of a run. The indexer is
called in the last one, with the format and with the path of the index inside the destination, and
it may go by either of them. They agree: what is joined in front of a name changes nothing about its
extension, and compiling and aggregating leave the format as it was resolved (`Phase.keeps_format`).
-/

namespace WorkspaceIndex

variable {ε : Type} {services : Services ε} {options : GenerateOptions} {world : World ε}

namespace Phase

theorem resolvedFormat_eq_ok_iff {output : Path} {format : OutputFormat} :
    resolvedFormat output = .ok format ↔
      format = OutputFormat.ofFileName output.text ∧ format.isKnown = true := by
  simp only [resolvedFormat]
  split
  · rename_i hknown
    rw [Except.ok.injEq, eq_comm]
    exact ⟨fun h ↦ ⟨h, h ▸ hknown⟩, And.left⟩
  · rename_i hunknown
    refine iff_of_false (by simp) ?_
    rintro ⟨rfl, hknown⟩
    exact hunknown hknown

/-- Between the first and the last phase nothing touches options and format. -/
theorem keeps_format (services : Services ε) {phase : Phase ε}
    (h : phase ∈ [compile services, aggregate services]) :
    SessionM.Keeps (fun s : Session ε ↦ (s.context.options, s.context.format)) phase.run := by
  intro s
  simp only [List.mem_cons, List.not_mem_nil, or_false] at h
  rcases h with rfl | rfl
  · let kept (c : Context) := (c.options, c.format)
    obtain ⟨_, _, _, hcontext⟩ := Stage.context_leave_compile services s
    exact (congrArg kept hcontext).trans rfl
  · rfl

end Phase

namespace Pipeline

variable {p : Pipeline ε}

/-- All that a run does between the format and the index: the modules, the aggregation and the
hooks. -/
def betweenFormatAndIndex (p : Pipeline ε) (services : Services ε) : SessionM ε Unit := do
  SessionM.all (p.hooks.map fun hook ↦ hook.after (Phase.resolveFormat : Phase ε).name)
  p.runPhase (Phase.compile services)
  SessionM.all (p.hooks.map fun hook ↦ hook.before (Phase.aggregate services).name)
  (Phase.aggregate services).run
  p.betweenAggregateAndIndex services

/-- A run up to the index begins with the format. -/
theorem toIndex_eq (p : Pipeline ε) (services : Services ε) :
    p.toIndex services =
      SessionM.all (p.hooks.map fun hook ↦ hook.before (Phase.resolveFormat : Phase ε).name) >>=
        fun _ ↦ Phase.resolveFormat.run >>= fun _ ↦ p.betweenFormatAndIndex services := by
  simp only [toIndex, toAggregate, runPhases, betweenFormatAndIndex, runPhase, bind_assoc,
    pure_bind]

/-- **The format with which a run gets to the index is that of the name which was asked for**, and
it is known, if hooks and added phases leave options and format alone. -/
theorem format_of_toIndex (hp : p.Keeps fun s ↦ (s.context.options, s.context.format))
    {t : Session ε} (h : p.toIndex services (start options world) = .ok () t) :
    t.context.options = options ∧
      t.context.format = some (OutputFormat.ofFileName options.output.text) ∧
      (OutputFormat.ofFileName options.output.text).isKnown = true := by
  rw [toIndex_eq] at h
  obtain ⟨⟨⟩, u, hbefore, hrest⟩ := bind_eq_ok.1 h
  obtain ⟨⟨⟩, v, hformat, hbetween⟩ := bind_eq_ok.1 hrest
  have hu := hp.all_before (Phase.resolveFormat : Phase ε).name (start options world)
  rw [hbefore] at hu
  obtain ⟨hoptions, -⟩ := Prod.mk.inj hu
  have hkept : SessionM.Keeps _ (p.betweenFormatAndIndex services) :=
    (hp.all_after _).bind fun _ ↦ (hp.runPhase (Phase.keeps_format services (by simp))).bind fun _ ↦
      (hp.all_before _).bind fun _ ↦ (Phase.keeps_format services (by simp)).bind fun _ ↦
        hp.betweenAggregateAndIndex
  have ht := hkept v
  rw [hbetween] at ht
  obtain ⟨htoptions, htformat⟩ := Prod.mk.inj ht
  obtain ⟨format, hresolved, rfl⟩ := Phase.resolveFormat_eq_ok hformat
  rw [leaves_ok] at hoptions htoptions htformat
  obtain ⟨rfl, hknown⟩ := Phase.resolvedFormat_eq_ok_iff.1 hresolved
  rw [hoptions] at hknown htformat
  exact ⟨htoptions.trans hoptions, htformat, hknown⟩

/-- **The name that was asked for, the format and the path of the index agree.**

About every name: it has one supported extension at most, so the order in which extensions are tried
makes no difference, and its format is known exactly if there is one, which then decides. A stem
that is not empty asks for the format of the extension behind it, in every directory. And a name
that is joined to a destination asks for what it asks for alone.

About every run whose hooks and added phases leave options and format alone and do not call the
indexer: each call of the indexer is for the path of the name in the destination, with the known
format of the name, and this is also the format for which the path asks. -/
theorem format_of_run (p : Pipeline ε) (services : Services ε) (options : GenerateOptions)
    (world : World ε) :
    (∀ name : String,
      (∀ extension ∈ OutputFormat.supported, ∀ extension' ∈ OutputFormat.supported,
        OutputFormat.EndsIn name.toList extension.toList →
        OutputFormat.EndsIn name.toList extension'.toList → extension = extension') ∧
      (∀ table, table.Perm OutputFormat.extensions →
        OutputFormat.ofTable table name = OutputFormat.ofFileName name) ∧
      ((OutputFormat.ofFileName name).isKnown = true ↔
        ∃ extension ∈ OutputFormat.supported, OutputFormat.EndsIn name.toList extension.toList) ∧
      ∀ entry ∈ OutputFormat.extensions, OutputFormat.EndsIn name.toList entry.1.toList →
        OutputFormat.ofFileName name = entry.2) ∧
    (∀ entry ∈ OutputFormat.extensions, ∀ directory stem : List Char,
      OutputFormat.IsDirectoryPart directory → stem ≠ [] → OutputFormat.IsComponent stem →
      OutputFormat.ofFileName (String.ofList (directory ++ stem ++ entry.1.toList)) = entry.2) ∧
    (∀ destination output : Path,
      OutputFormat.ofFileName (destination.join output).text =
        OutputFormat.ofFileName output.text) ∧
    (p.Keeps (fun s ↦ (s.context.options, s.context.format)) →
      p.Keeps (fun s ↦ s.world.indexCalls) →
      ∃ calls, (leaves (p.run services options world)).world.indexCalls =
          world.indexCalls ++ calls ∧
        ∀ call ∈ calls, ∃ request, call.indexRequest? = some request ∧
          request.output = options.destination.join options.output ∧
          request.format = OutputFormat.ofFileName options.output.text ∧
          request.format.isKnown = true ∧
          OutputFormat.ofFileName request.output.text = request.format) := by
  refine ⟨fun name ↦ ⟨?_, fun table hperm ↦ ?_, OutputFormat.isKnown_ofFileName_iff,
    fun entry hentry hends ↦ ?_⟩, fun entry hentry directory stem hdirectory hne hstem ↦ ?_,
    OutputFormat.ofFileName_join, fun hkept hcalls ↦ ?_⟩
  · exact fun extension h extension' h' ↦ OutputFormat.supported_unique h h'
  · exact OutputFormat.extensions_apart.ofTable_perm hperm name
  · exact OutputFormat.ofFileName_of_endsIn hentry hends
  · refine OutputFormat.ofFileName_of_endsIn hentry ?_
    rw [String.toList_ofList]
    exact OutputFormat.endsIn_of_stem hentry hdirectory hne hstem
  · obtain ⟨calls, hrun, -, hindexed⟩ := indexCalls_run hcalls
    refine ⟨calls, hrun, fun call hcall ↦ ?_⟩
    obtain ⟨t, format, classpath, hto, hformat, -, rfl⟩ := hindexed call hcall
    obtain ⟨hoptions, hresolved, hknown⟩ := format_of_toIndex hkept hto
    have hnamed := Option.some.inj (hformat.symm.trans hresolved)
    rw [← hnamed] at hknown ⊢
    refine ⟨_, rfl, ?_, rfl, hknown, ?_⟩
    · show t.context.options.destination.join t.context.options.output = _
      rw [hoptions]
    · show OutputFormat.ofFileName
        (t.context.options.destination.join t.context.options.output).text = format
      rw [OutputFormat.ofFileName_join, hoptions, hnamed]

/-- Collaborators that do what they are asked for, over a build with one module. -/
def singleBuild : Services Unit :=
  .stateless { root := ⟨"/ws"⟩, modules := [{ name := "core", variant := .scala3 }] }
    (fun _ ↦ .ok []) (fun _ ↦ {}) fun _ ↦ {}

/-- The run of `singleBuild` for an index below a directory with an extension of its own. -/
def nestedRun : EStateM.Result Failure (Session Unit) Unit :=
  ({} : Pipeline Unit).run singleBuild ⟨⟨"index.lsif/all.scip.ndjson"⟩, ⟨"/ws/out.scip/"⟩, false⟩
    { files := ⟨[(["ws"], .directory)], ["ws"]⟩, outside := () }

/-- Neither the directory nor the destination counts, and of the two extensions that overlap the
name has one. -/
theorem format_of_nestedRun :
    ({} : Pipeline Unit).Keeps (fun s ↦ (s.context.options, s.context.format)) ∧
      ({} : Pipeline Unit).Keeps (fun s ↦ s.world.indexCalls) ∧
      ("all".toList ≠ [] ∧ OutputFormat.IsComponent "all".toList ∧
        OutputFormat.IsDirectoryPart "index.lsif/".toList) ∧
      ∃ call request, (leaves nestedRun).world.indexCalls = [call] ∧
        call.indexRequest? = some request ∧
        request.output = ⟨"/ws/out.scip/index.lsif/all.scip.ndjson"⟩ ∧
        request.format = .scipNdjson ∧
        OutputFormat.ofFileName request.output.text = .scipNdjson := by
  obtain ⟨-, hstems, -, hrun⟩ := format_of_run {} singleBuild
    ⟨⟨"index.lsif/all.scip.ndjson"⟩, ⟨"/ws/out.scip/"⟩, false⟩
    { files := ⟨[(["ws"], .directory)], ["ws"]⟩, outside := () }
  have hstem : "all".toList ≠ [] ∧ OutputFormat.IsComponent "all".toList ∧
      OutputFormat.IsDirectoryPart "index.lsif/".toList := by decide
  have hname : OutputFormat.ofFileName "index.lsif/all.scip.ndjson" = .scipNdjson := by
    have htext : "index.lsif/all.scip.ndjson" =
        String.ofList ("index.lsif/".toList ++ "all".toList ++ ".scip.ndjson".toList) := by decide
    rw [htext]
    exact hstems (".scip.ndjson", .scipNdjson) (by decide) _ _ hstem.2.2 hstem.1 hstem.2.1
  have hone : (leaves nestedRun).world.indexCalls.length = 1 := by decide +kernel
  obtain ⟨call, hcall⟩ := List.length_eq_one_iff.1 hone
  obtain ⟨calls, hcalls, hindexed⟩ := hrun (keeps_plain _) (keeps_plain _)
  rw [← nestedRun, hcall] at hcalls
  obtain rfl : [call] = calls := hcalls
  obtain ⟨request, hrequest, houtput, hformat, -, hagrees⟩ := hindexed call List.mem_cons_self
  have hresolved : request.format = .scipNdjson := hformat.trans hname
  refine ⟨keeps_plain _, keeps_plain _, hstem, call, request, hcall, hrequest, ?_, hresolved,
    hagrees.trans hresolved⟩
  rw [houtput]
  decide +kernel

end Pipeline

end WorkspaceIndex
