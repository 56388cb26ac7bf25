import WorkspaceIndex.Proofs.Pipeline.Watched
/-!
# Runs that are visualized

A run can be asked to write a snapshot after each of its phases. Such a run only observes: it ends
as the run without snapshots does, with the same report and the same trace, and what it writes
besides are the contexts right after its phases.

It does have to make a directory for the snapshots, and it does so after its first phase. Where that
is early, a path that leads through the new directory and back out of it finds something that the
run without snapshots does not find. So dependencies have to be aside of the snapshots
(`FileStore.Aside`), which takes more than not to lie among them.
-/

namespace WorkspaceIndex

variable {ε : Type}

/-! ### The contexts after the phases -/

namespace Pipeline

variable {phase : Phase ε} {rest : List (Phase ε)} {s s' s'' : Session ε}

end Pipeline

/-! ### What later contexts keep -/

/-- A later context of a run: plans and compiled modules are added behind, and what is set stays. -/
structure Context.GrowsTo (c d : Context) : Prop where
  plans : c.plans <+: d.plans
  compiled : c.compiled <+: d.compiled
  format : ∀ format, c.format = some format → d.format = some format
  classpath : ∀ entries, c.classpath = some entries → d.classpath = some entries
  index : ∀ index, c.index = some index → d.index = some index

theorem Context.GrowsTo.trans {c d e : Context} (h : c.GrowsTo d) (h' : d.GrowsTo e) :
    c.GrowsTo e where
  plans := h.plans.trans h'.plans
  compiled := h.compiled.trans h'.compiled
  format := fun _ hformat ↦ h'.format _ (h.format _ hformat)
  classpath := fun _ hentries ↦ h'.classpath _ (h.classpath _ hentries)
  index := fun _ hindex ↦ h'.index _ (h.index _ hindex)

namespace Phase

variable {services : Services ε} {s after : Session ε}

end Phase

namespace Pipeline

end Pipeline

/-! ### The two runs -/

namespace GenerateReport

section Phases

variable {origin made : FileStore} {destination : Path} {phase : Phase ε} {rest : List (Phase ε)}

end Phases

section Runs

variable {services : Services ε} {options : GenerateOptions} {world : World ε} {made : FileStore}

end Runs

/-! ### A way out of a new directory -/

end GenerateReport

end WorkspaceIndex
