import SuiteRunner.Proofs.Outside.Transcript
import SuiteRunner.Proofs.Variables.Lookups
import SuiteRunner.Run.Execution

/-!
  SuiteRunner.Proofs.Run.Closing
  ────────────────────────────────
  **HOW A RUN CLOSES, AND WHAT IS LEFT OF ITS VARIABLES.**

  In a store that was swept no owner has anything of its own, so a name stands for the same global
  variable whoever looks it up, and however often.  `Store.Recalls` says of a store that it is swept
  and which global variables it has, in memory or in its registry:

    • `Store.recalls_cleanupLocals` — the sweep leaves the global variables there were,
    • `Store.Recalls.looks` — whoever only looks into the store reads them,
    • `Store.Recalls.apply` — no look-up changes what the next one reads.

  Whatever an address names, and whatever comes of it, a run goes on to its end: local variables are
  forgotten and totals are printed.

    • `run_play` — a run is what the address asks for, then the sweep, then the totals,
    • `forgets_cleanupLocals` — what can be read after a sweep,
    • `run_forgets_locals` — what can be read after a run.
-/

namespace SuiteRunner

open Registry

namespace Store

/-! ## §1. Global variables. -/

/-- The value of a global variable: the one in memory, or else the one in the registry. -/
def globalValue (s : Store) (n : String) : Option String :=
  (s.getGlobal n).or (s.rowValue (globalKey n))

/-- No local variable is left, neither in memory nor in the registry. -/
structure Swept (s : Store) : Prop where
  locals : s.locals = []
  rows : ∀ o n, s.rowValue (localKey o n) = none

/-- **A swept store with certain global variables.** -/
structure Recalls (g : String → Option String) (s : Store) : Prop where
  swept : s.Swept
  value : ∀ n, s.globalValue n = g n

variable {g : String → Option String} {s s' : Store} {o : Owner} {n : String}

/-- **A name stands for the global variable** to an owner who has no local one. -/
theorem get_eq_globalValue (hlocal : s.getLocal o n = none)
    (hrow : s.rowValue (localKey o n) = none) : (s.get o n).1 = s.globalValue n := by
  rw [get_value, inMemory_eq, hlocal, hrow]
  rfl

theorem Swept.getLocal (h : s.Swept) : s.getLocal o n = none := by
  unfold Store.getLocal
  rw [h.locals]
  rfl

theorem Recalls.reads (h : Recalls g s) (o : Owner) : s.reads o = g :=
  funext fun n =>
    (get_eq_globalValue h.swept.getLocal (h.swept.rows o n)).trans (h.value n)

/-- **A swept store into which an owner has looked** is swept, and recalls the same variables. -/
theorem Recalls.remembers (h : Recalls g s) (hs : Remembers o s s') : Recalls g s' where
  swept := by
    refine ⟨?_, fun p n => (hs.rowValue (localKey p n)).trans (h.swept.rows p n)⟩
    have hnone : ∀ p n, s'.getLocal p n = none := fun p n => by
      obtain hl | ⟨-, hl⟩ := hs.locals p n
      · exact hl.trans h.swept.getLocal
      · exact hl.trans (h.swept.rows p n)
    refine List.eq_nil_iff_forall_not_mem.mpr fun entry hmem => ?_
    exact Assoc.get?_eq_none_iff.mp (hnone entry.1.1 entry.1.2) (List.mem_map_of_mem hmem)
  value n := by
    rw [← h.value n]
    unfold globalValue
    rw [hs.rowValue]
    -- what comes into memory is the value that the registry has
    obtain hg | ⟨hnone, hg⟩ := hs.globals n
    · rw [hg]
    · rw [hg, hnone, Option.or_self]
      rfl

/-! ## §2. Names, texts and documents. -/

/-- **Whoever only looks into a swept store** finds global variables, and leaves them as they
are. -/
theorem Recalls.looks {α : Type} {f : Store → α × Store} {v : (String → Option String) → α}
    (h : Recalls g s) (hf : Looks o f v) : (f s).1 = v g ∧ Recalls g (f s).2 :=
  ⟨(hf.value s).trans (congrArg v (h.reads o)), h.remembers (hf.remembers s)⟩

/-- A look-up finds a global variable. -/
theorem Recalls.get (h : Recalls g s) (o : Owner) (n : String) :
    (s.get o n).1 = g n ∧ Recalls g (s.get o n).2 :=
  h.looks (.get n)

/-- A text is filled with global variables. -/
theorem Recalls.inject (h : Recalls g s) (o : Owner) (text : String) :
    (s.inject o text).1 = Template.injectBy g text ∧ Recalls g (s.inject o text).2 :=
  h.looks (looks_inject o text)

/-- A document is filled with global variables. -/
theorem Recalls.injectJson (o : Owner) (v : Json) (h : Recalls g s) :
    (Store.injectJson o v s).1 = Template.injectJsonBy g v ∧
      Recalls g (Store.injectJson o v s).2 :=
  h.looks (looks_injectJson o v)

/-! ## §3. The sweep. -/

/-- The sweep empties the local addresses, and no others. -/
theorem rowValue_cleanupLocals (s : Store) (k : RowKey) :
    s.cleanupLocals.2.rowValue k = if k.scope == .perCase then none else s.rowValue k := by
  show (s.registry.map fun r => r.deleteAllLocal.2).bind (fun r => r.valueAt k) = _
  unfold rowValue
  cases s.registry with
  | none =>
    show none = if _ then none else none
    rw [ite_self]
  | some r => exact valueAt_deleteAllLocal r k

/-- **The sweep leaves no local variable,** and the global ones as they were. -/
theorem recalls_cleanupLocals (s : Store) : Recalls s.globalValue s.cleanupLocals.2 where
  swept := ⟨rfl, fun o n => rowValue_cleanupLocals s (localKey o n)⟩
  value n := by
    show (s.getGlobal n).or (s.cleanupLocals.2.rowValue (globalKey n)) = _
    rw [rowValue_cleanupLocals]
    rfl

/-- A fresh store over a registry that was swept reads the global variables of that registry. -/
theorem recalls_fresh (s : Store) :
    Recalls (ofRegistry s.registry).globalValue (ofRegistry s.cleanupLocals.2.registry) :=
  recalls_cleanupLocals (ofRegistry s.registry)

end Store

/-! ## §4. Any number of look-ups. -/

/-- An operation only reads variables. -/
def StoreOp.Reads : StoreOp → Prop
  | .setGlobal _ _ => False
  | .setLocal _ _ _ => False
  | .get _ _ => True
  | .inject _ _ => True
  | .clearGlobal => False
  | .cleanupLocals => False

namespace Store

variable {g : String → Option String} {s : Store}

theorem Recalls.apply (h : Recalls g s) {op : StoreOp} (hop : op.Reads) :
    Recalls g (op.apply s) := by
  cases op with
  | get o n => exact (h.get o n).2
  | inject o text => exact (h.inject o text).2
  | setGlobal name value => exact hop.elim
  | setLocal o name value => exact hop.elim
  | clearGlobal => exact hop.elim
  | cleanupLocals => exact hop.elim

/-- **No look-up changes what the next one reads.** -/
theorem Recalls.run (h : Recalls g s) (ops : List StoreOp) (hops : ∀ op ∈ ops, op.Reads) :
    Recalls g (ops.foldl StoreOp.apply s) := by
  induction ops generalizing s with
  | nil => exact h
  | cons op rest ih =>
    obtain ⟨hop, hrest⟩ := List.forall_mem_cons.mp hops
    exact ih (h.apply hop) hrest

end Store

/-! ## §5. The end of a run. -/

namespace Run

/-- **A run on its way to its end:** `log` is what was asked for the address, `m` the store that
this left, and `q` what came of it. -/
theorem run_play (r : RunSetup) (address : Option String) (b : Behaviour outside) (s : Store)
    (past : Log) :
    ∃ (started finished : Int) (log : Log) (q : Except Failure RunOutcome) (m : Store),
      let totals := RunOutcome.totals q (finished - started).toNat
      Task.Runs (runAddress r address) s log q m ∧
      Task.play b (run r address) s past =
        ((q.map fun outcome => { outcome with summary := totals }, m.cleanupLocals.2),
          past ++ ⟨.clock, started⟩ :: (log ++
            [⟨.clock, finished⟩, ⟨.print (totals.render ++ "\n"), ()⟩])) := by
  obtain ⟨log, result, s', hplay, hruns⟩ := Task.exists_play b (run r address) s past
  obtain ⟨started, _, rfl, haddress⟩ := Task.runs_ask_bind_iff.mp hruns
  obtain ⟨log, _, q, m, rfl, hran, hsweep⟩ := Task.runs_result_bind_iff.mp haddress
  have hswept := Task.runs_update_bind_iff.mp hsweep
  obtain ⟨finished, _, rfl, hprint⟩ := Task.runs_ask_bind_iff.mp hswept
  obtain ⟨printed, _, rfl, hend⟩ := Task.runs_ask_bind_iff.mp hprint
  refine ⟨started, finished, log, q, m, hran, ?_⟩
  rw [hplay]
  -- what comes of the address decides the result, after everything else was done
  obtain ⟨e, rfl, rfl, rfl, rfl⟩ | ⟨outcome, rfl, hpure⟩ := Task.runs_ofExcept_bind_iff.mp hend
  · rfl
  · obtain ⟨rfl, rfl, rfl⟩ := Task.runs_pure_iff.mp hpure
    rfl

/-- What every owner reads in a store: the values of `g`, alone and in texts and documents. -/
structure Reads (g : String → Option String) (s : Store) : Prop where
  get : ∀ o n, (s.get o n).1 = g n
  inject : ∀ o text, (s.inject o text).1 = Template.injectBy g text
  injectJson : ∀ o v, (Store.injectJson o v s).1 = Template.injectJsonBy g v

theorem reads_of_recalls {g : String → Option String} {s : Store} (h : Store.Recalls g s) :
    Reads g s where
  get o n := (h.get o n).1
  inject o text := (h.inject o text).1
  injectJson o v := (Store.Recalls.injectJson o v h).1

/-- **Local variables are forgotten, and nothing else is:** `m` is a store before a sweep, and
`after` is the store after it. -/
structure Forgets (m after : Store) : Prop where
  globals : ∀ n, after.getGlobal n = m.getGlobal n
  /-- An owner who had no local variable of a name reads what it read before. -/
  unshadowed : ∀ o n, m.getLocal o n = none → m.rowValue (Registry.localKey o n) = none →
    (after.get o n).1 = (m.get o n).1
  /-- After any number of look-ups every owner reads the global variables and nothing else. -/
  reads : ∀ later : List StoreOp, (∀ op ∈ later, op.Reads) →
    Reads m.globalValue (later.foldl StoreOp.apply after)
  /-- So it is in a fresh store over the registry, with the global variables of the registry. -/
  fresh : ∀ later : List StoreOp, (∀ op ∈ later, op.Reads) →
    Reads (Store.ofRegistry m.registry).globalValue
      (later.foldl StoreOp.apply (Store.ofRegistry after.registry))

/-- The sweep forgets local variables, whatever store it is made on. -/
theorem forgets_cleanupLocals (m : Store) : Forgets m m.cleanupLocals.2 where
  globals _ := rfl
  unshadowed o n hlocal hrow := by
    rw [Store.get_eq_globalValue hlocal hrow]
    exact ((Store.recalls_cleanupLocals m).get o n).1
  reads later hlater := reads_of_recalls ((Store.recalls_cleanupLocals m).run later hlater)
  fresh later hlater := reads_of_recalls ((Store.recalls_fresh m).run later hlater)

/-- **NO LOCAL VARIABLE OUTLIVES A RUN.**  Whatever is run, without an address or with any text as
one, and whether it succeeds or fails, let `m` be the store that this left, just before the closing
sweep.  After the run every owner reads the global variables of `m` and nothing else, in the store
of the run and in a fresh one over its registry.  The sweep does this to every store, so also to one
that suites have written to in turns. -/
theorem run_forgets_locals (r : RunSetup) (address : Option String) (b : Behaviour outside)
    (s : Store) (past : Log) :
    (∃ (started finished : Int) (log : Log) (q : Except Failure RunOutcome) (m after : Store),
      let totals := RunOutcome.totals q (finished - started).toNat
      Task.Runs (runAddress r address) s log q m ∧
      Task.play b (run r address) s past =
        ((q.map fun outcome => { outcome with summary := totals }, after),
          past ++ ⟨.clock, started⟩ :: (log ++
            [⟨.clock, finished⟩, ⟨.print (totals.render ++ "\n"), ()⟩])) ∧
      Forgets m after) ∧
    ∀ m : Store, Forgets m m.cleanupLocals.2 := by
  obtain ⟨started, finished, log, q, m, hran, hplay⟩ := run_play r address b s past
  exact ⟨⟨started, finished, log, q, m, _, hran, hplay, forgets_cleanupLocals m⟩,
    forgets_cleanupLocals⟩

/-- A store in which one owner has a local variable of the name of a global one. -/
def shadowing : Store :=
  { globals := [("user", "guest")], locals := [((⟨"shop", "login"⟩, "user"), "root")],
    registry := none, clock := 0 }

/-- An address with too few colons: nothing is run, and the local variable is forgotten all the
same. -/
theorem run_forgets_locals_malformed :
    (shadowing.get ⟨"shop", "login"⟩ "user").1 = some "root" ∧
      ∃ result after past',
        Task.play (idle default) (run {} (some "shop")) shadowing []
          = ((result, after), past') ∧
        (after.get ⟨"shop", "login"⟩ "user").1 = some "guest" ∧
        (after.get ⟨"shop", "logout"⟩ "user").1 = (shadowing.get ⟨"shop", "logout"⟩ "user").1 := by
  obtain ⟨⟨started, finished, log, q, m, after, hran, hplay, hforgets⟩, -⟩ :=
    run_forgets_locals {} (some "shop") (idle default) shadowing []
  have hmalformed : (Target.parse "shop").toOption = none := rfl
  -- the address is not read, so the store before the sweep is the first one
  obtain ⟨e, -, -, -, rfl⟩ | ⟨t, ht, -⟩ := Task.runs_ofExcept_bind_iff.mp hran
  · exact ⟨rfl, _, after, _, hplay,
      (hforgets.reads [] fun _ hnil => absurd hnil List.not_mem_nil).get _ _,
      hforgets.unshadowed _ _ rfl rfl⟩
  · rw [ht] at hmalformed
    cases hmalformed

end Run

end SuiteRunner
