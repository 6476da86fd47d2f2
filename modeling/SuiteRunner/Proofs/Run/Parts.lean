import SuiteRunner.Proofs.Outside.Transcript
import SuiteRunner.Report.Entry

/-!
  SuiteRunner.Proofs.Run.Parts
  ────────────────────────────────
  **A RUN CUT INTO PARTS, ONE FOR EACH ENTRY.**

  A part of a run leaves one entry.  It has the questions that were asked for it and the states
  before and after it.  The parts of a run follow one another without gaps: each begins in the
  state that the one before it left, and the log of the run is their logs in a row.  `Cuts` says all
  of this of a run; `Cuts.cons` and `Cuts.append` put runs that are cut into parts together.
-/

namespace SuiteRunner

/-- Two entries are about the same unit of work. -/
def Entry.SameUnit (a b : Entry) : Prop :=
  a.suiteId = b.suiteId ∧ a.suiteName = b.suiteName ∧ a.caseId = b.caseId ∧
    a.caseName = b.caseName ∧ a.kind = b.kind ∧ a.index = b.index ∧ a.name = b.name

/-- A part of a run. -/
structure Part (σ : Type) where
  entry : Entry
  log : Log
  before : σ
  after : σ

namespace Part

variable {σ : Type}

/-- The questions of parts in order. -/
def logs (parts : List (Part σ)) : Log := parts.flatMap Part.log

/-- The entries of parts in order. -/
def entries (parts : List (Part σ)) : List Entry := parts.map Part.entry

/-- **Parts follow one another** from one state to another. -/
def Follow : σ → List (Part σ) → σ → Prop
  | s, [], s' => s' = s
  | s, p :: rest, s' => p.before = s ∧ Follow p.after rest s'

/-- The log of parts in a row is the log of the first and then that of the others. -/
theorem logs_append (ps qs : List (Part σ)) : logs (ps ++ qs) = logs ps ++ logs qs :=
  List.flatMap_append

/-- Their entries are those of the first and then those of the others. -/
theorem entries_append (ps qs : List (Part σ)) : entries (ps ++ qs) = entries ps ++ entries qs :=
  List.map_append

/-- Parts follow one another across the place where two rows of them meet. -/
theorem follow_append {s m s' : σ} {ps qs : List (Part σ)} (hp : Follow s ps m)
    (hq : Follow m qs s') : Follow s (ps ++ qs) s' := by
  induction ps generalizing s with
  | nil =>
    have hm : m = s := hp
    rw [← hm]
    exact hq
  | cons p rest ih => exact ⟨hp.1, ih hp.2⟩

/-- **A run that is cut into parts:** its result is their entries, its log is their logs, and they
follow one another from its first state to its last. -/
structure Cuts (parts : List (Part σ)) (s : σ) (log : Log) (r : Except Failure (List Entry))
    (s' : σ) : Prop where
  result_eq : r = .ok (entries parts)
  log_eq : log = logs parts
  follow : Follow s parts s'

/-- A run that leaves no entries and asks nothing has no parts. -/
theorem cuts_of_runs_nil {s s' : σ} {log : Log} {r : Except Failure (List Entry)}
    (h : (pure [] : Task σ (List Entry)).Runs s log r s') : Cuts [] s log r s' := by
  obtain ⟨rfl, rfl, rfl⟩ := Task.runs_pure_iff.mp h
  exact ⟨rfl, rfl, rfl⟩

/-- **One more part in front:** what was asked for it is asked first, and the others begin where it
ends. -/
theorem Cuts.cons {parts : List (Part σ)} {s m s' : σ} {first last : Log} {es : List Entry}
    (e : Entry) (h : Cuts parts m last (.ok es) s') :
    Cuts (⟨e, first, s, m⟩ :: parts) s (first ++ last) (.ok (e :: es)) s' := by
  obtain ⟨hes, rfl, hfollow⟩ := h
  cases hes
  exact ⟨rfl, rfl, rfl, hfollow⟩

/-- **Two runs in a row:** their parts in a row are the parts of both. -/
theorem Cuts.append {ps qs : List (Part σ)} {s m s' : σ} {first last : Log} {es fs : List Entry}
    (hp : Cuts ps s first (.ok es) m) (hq : Cuts qs m last (.ok fs) s') :
    Cuts (ps ++ qs) s (first ++ last) (.ok (es ++ fs)) s' := by
  obtain ⟨hes, rfl, hps⟩ := hp
  obtain ⟨hfs, rfl, hqs⟩ := hq
  cases hes
  cases hfs
  exact ⟨by rw [entries_append], by rw [logs_append], follow_append hps hqs⟩

end Part

end SuiteRunner
