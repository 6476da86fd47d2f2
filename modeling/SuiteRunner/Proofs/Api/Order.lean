import SuiteRunner.Proofs.Api.Stages
import SuiteRunner.Proofs.Assertion.Verdicts
import SuiteRunner.Proofs.PreProcess.Steps

/-!
  SuiteRunner.Proofs.Api.Order
  ────────────────────────────────
  **WHICH VARIABLES THE PARTS OF AN ITEM ARE FILLED WITH.**

  The variables of an item change twice: its functions write some before the request, and values of
  the response are stored at its end.  In between everything only looks them up.  So there are two
  stores that count: the one that the item begins in, which the address is filled from, and the one
  that its functions leave, which everything else is filled from.  `Course` says what an item does,
  with its parts as functions of what the owner reads in these two:

    • `bodyFrom_of_runs`, `schemaFrom_of_runs` — what becomes of the files of an item,
    • `looks_judge` — a response is judged without changing a variable,
    • `requests_send` — the first request that is sent is the one that was made,
    • `Fails.not_ready` — what failed before a request did not also go through,
    • `course_of_ends` — however an exchange ends, the item takes its course,
    • `runItem_in_order` — so it does under every behaviour of the outside.
-/

namespace SuiteRunner

namespace Api

open Store (Remembers Looks looks_inject looks_injectJson)
open Template (injectBy injectJsonBy)

/-! ## §1. Requests. -/

/-- The requests that were sent, in order. -/
def requests (log : Log) : List Http.Request :=
  log.filterMap fun
    | ⟨.exchange r, _⟩ => some r
    | _ => none

/-- The requests of two logs in a row are those of each. -/
theorem requests_append (first last : Log) :
    requests (first ++ last) = requests first ++ requests last :=
  List.filterMap_append

/-- **What functions ask is no request.** -/
theorem requests_of_forFunctions {log : Log} (h : ∀ e ∈ log, e.1.forFunctions = true) :
    requests log = [] := by
  refine List.filterMap_eq_nil_iff.mpr fun ⟨q, a⟩ he => ?_
  have hq := h _ he
  cases q <;> first | rfl | cases hq

/-- **What is sent first is the request that was made;** others are those it is sent on to. -/
theorem requests_send {m : Http.Outgoing} {log : Log} {r : Except Failure Http.Response}
    (h : (Http.send m).Runs log r) : ∃ more, requests log = m.sent :: more := by
  unfold Http.send Http.Outgoing.follow at h
  obtain ⟨answer, rest, rfl, -⟩ := Program.runs_ask_iff.mp h
  exact ⟨requests rest, rfl⟩

/-! ## §2. Files. -/

/-- What the answer to a request for a file stands for. -/
def fileText (path : String) : Except String String → Except Failure String
  | .ok text => .ok text
  | .error reason => .error (.suiteLoad ("cannot read " ++ path ++ ": " ++ reason))

/-- A file of an item was asked for. -/
def FileRead (setup : ApiSetup) (file : String) (log : Log) (r : Except Failure String) : Prop :=
  ∃ answer : Except String String,
    log = [⟨.readText (Path.join setup.baseDir file), answer⟩] ∧
      r = fileText (Path.join setup.baseDir file) answer

/-- The body that an item states, before it is filled.  In SOAP a string is sent as it is. -/
def statedBody (soap : Bool) : Option Json → Body
  | none => .none
  | some .null => .none
  | some (.str text) => if soap then .text text else .document (.str text)
  | some v => .document v

/-- **What may be in a file or stated:** the file is asked for, if there is one, and what it is is
made of its text; else nothing is asked. -/
def FileOrStated {α : Type} (setup : ApiSetup) (file : Option String)
    (make : String → String → Except Failure α) (stated : α) (log : Log) (r : Except Failure α) :
    Prop :=
  match file with
  | none => log = [] ∧ r = .ok stated
  | some file => ∃ t, FileRead setup file log t ∧ r = t.bind (make file)

/-- The body that a file has: in SOAP its text as it is, and else the document that the text is. -/
def bodyInFile (soap : Bool) (file text : String) : Except Failure Body :=
  if soap then .ok (.text text) else (documentOf ("body file " ++ file) text).map .document

/-- The schema that a file has. -/
def schemaInFile (file text : String) : Except Failure (Option Json) :=
  (documentOf ("schema file " ++ file) text).map some

/-- **The body of an item, before it is filled:** its file, or else what it states. -/
def BodyFrom (setup : ApiSetup) (item : DataItem) (soap : Bool) :
    Log → Except Failure Body → Prop :=
  FileOrStated setup item.bodyFile (bodyInFile soap) (statedBody soap item.body)

/-- **The schema of an item:** its file, or else the one it states; none in SOAP, where the file is
not even asked for. -/
def SchemaFrom (setup : ApiSetup) (item : DataItem) (soap : Bool) :
    Log → Except Failure (Option Json) → Prop :=
  FileOrStated setup (if soap then none else item.responseSchemaFile) schemaInFile
    (if soap then none else item.responseSchema)

/-- A body with its placeholders filled. -/
def Body.fillBy (g : String → Option String) : Body → Body
  | .none => .none
  | .document v => .document (injectJsonBy g v)
  | .text t => .text (injectBy g t)

section

variable {setup : ApiSetup} {o : Owner} {item : DataItem} {soap : Bool} {file : String}
  {s s' : Store} {log : Log}

/-- Reading a file is one question, and its answer decides. -/
theorem runs_readFile_iff {r : Except Failure String} :
    (readFile setup file).Runs s log r s' ↔ FileRead setup file log r ∧ s' = s := by
  unfold readFile FileRead
  constructor
  · intro h
    obtain ⟨answer, rest, rfl, hrest⟩ := Task.runs_ask_bind_iff.mp h
    cases answer with
    | ok text =>
      obtain ⟨rfl, rfl, rfl⟩ := Task.runs_pure_iff.mp hrest
      exact ⟨⟨.ok text, rfl, rfl⟩, rfl⟩
    | error reason =>
      obtain ⟨rfl, rfl, rfl⟩ := Task.runs_throw_iff.mp hrest
      exact ⟨⟨.error reason, rfl, rfl⟩, rfl⟩
  · rintro ⟨⟨answer, rfl, rfl⟩, rfl⟩
    refine Task.runs_ask_bind_iff.mpr ⟨answer, [], rfl, ?_⟩
    cases answer with
    | ok text => exact Task.runs_pure_iff.mpr ⟨rfl, rfl, rfl⟩
    | error reason => exact Task.runs_throw_iff.mpr ⟨rfl, rfl, rfl⟩

/-- A file that is read, and what follows it. -/
theorem readFile_bind_of_runs {β : Type} {k : String → Task Store β} {r : Except Failure β}
    (h : (readFile setup file >>= k).Runs s log r s') :
    (∃ f, FileRead setup file log (.error f) ∧ r = .error f ∧ s' = s) ∨
      ∃ first last text, log = first ++ last ∧ FileRead setup file first (.ok text) ∧
        (k text).Runs s last r s' := by
  obtain ⟨f, rfl, hfails⟩ | ⟨first, last, text, m, rfl, hgoes, hrest⟩ :=
    (Task.runs_bind_iff _ _).mp h
  · obtain ⟨hread, rfl⟩ := runs_readFile_iff.mp hfails
    exact .inl ⟨f, hread, rfl, rfl⟩
  · obtain ⟨hread, rfl⟩ := runs_readFile_iff.mp hgoes
    exact .inr ⟨first, last, text, rfl, hread, hrest⟩

/-- A file that is read as a document, of which something is made, and what follows it. -/
theorem readDocument_bind_of_runs {β γ : Type} {what : String} (made : Json → γ)
    {k : Json → Task Store β} {r : Except Failure β}
    (h : (do let text ← readFile setup file; let v ← Task.ofExcept (documentOf what text); k v
      : Task Store β).Runs s log r s') :
    (∃ t f, FileRead setup file log t ∧
      (t.bind fun text => (documentOf what text).map made) = .error f ∧ r = .error f ∧ s' = s) ∨
      ∃ first last t v, log = first ++ last ∧ FileRead setup file first t ∧
        (t.bind fun text => (documentOf what text).map made) = .ok (made v) ∧
        (k v).Runs s last r s' := by
  obtain ⟨f, hread, rfl, rfl⟩ | ⟨first, last, text, rfl, hread, hrest⟩ := readFile_bind_of_runs h
  · exact .inl ⟨_, f, hread, rfl, rfl, rfl⟩
  obtain ⟨f, hparse, rfl, rfl, rfl⟩ | ⟨v, hparse, hrest⟩ := Task.runs_ofExcept_bind_iff.mp hrest
  · rw [List.append_nil]
    exact .inl ⟨_, f, hread, congrArg (Except.map made) hparse, rfl, rfl⟩
  · exact .inr ⟨first, last, _, v, rfl, hread, congrArg (Except.map made) hparse, hrest⟩

/-- What is filled asks nothing, and changes no variable. -/
theorem filled_of_runs {α β : Type} {f : Store → α × Store} {v : (String → Option String) → α}
    (hf : Looks o f v) {k : α → β} {r : Except Failure β}
    (h : (do let a ← Task.update f; return k a : Task Store β).Runs s log r s') :
    log = [] ∧ r = .ok (k (v (s.reads o))) ∧ Remembers o s s' := by
  have h := Task.runs_update_bind_iff.mp h
  obtain ⟨rfl, rfl, rfl⟩ := Task.runs_pure_iff.mp h
  exact ⟨rfl, by rw [hf.value], hf.remembers s⟩

/-- A body that is stated is filled with what the owner reads. -/
theorem stated_of_runs {r : Except Failure Body} (hfile : item.bodyFile = none)
    (h : (bodyOf setup o item soap).Runs s log r s') :
    log = [] ∧ r = .ok ((statedBody soap item.body).fillBy (s.reads o)) ∧ Remembers o s s' := by
  have hnothing {b : Body} (h : (pure b : Task Store Body).Runs s log r s') :
      log = [] ∧ r = .ok b ∧ Remembers o s s' := by
    obtain ⟨rfl, rfl, rfl⟩ := Task.runs_pure_iff.mp h
    exact ⟨rfl, rfl, .refl o s'⟩
  unfold bodyOf at h
  rw [hfile] at h
  cases hbody : item.body with
  | none =>
    rw [hbody] at h
    exact hnothing h
  | some v =>
    rw [hbody] at h
    cases v with
    | null => exact hnothing h
    | str text =>
      cases soap with
      | true => exact filled_of_runs (looks_inject o text) h
      | false => exact filled_of_runs (looks_injectJson o (.str text)) h
    | _ => exact filled_of_runs (looks_injectJson o _) h

/-- **The body is filled with what the owner reads,** wherever it is from. -/
theorem bodyFrom_of_runs {r : Except Failure Body}
    (h : (bodyOf setup o item soap).Runs s log r s') :
    ∃ raw, BodyFrom setup item soap log raw ∧ r = raw.map (Body.fillBy (s.reads o)) ∧
      Remembers o s s' := by
  unfold BodyFrom FileOrStated
  cases hfile : item.bodyFile with
  | none =>
    obtain ⟨rfl, rfl, hs⟩ := stated_of_runs hfile h
    exact ⟨_, ⟨rfl, rfl⟩, rfl, hs⟩
  | some file =>
    unfold bodyOf at h
    rw [hfile] at h
    cases soap with
    | true =>
      obtain ⟨f, hread, rfl, rfl⟩ | ⟨first, last, text, rfl, hread, hrest⟩ :=
        readFile_bind_of_runs h
      · exact ⟨.error f, ⟨_, hread, rfl⟩, rfl, .refl o s'⟩
      · obtain ⟨rfl, rfl, hs⟩ := filled_of_runs (looks_inject o text) hrest
        rw [List.append_nil]
        exact ⟨.ok (.text text), ⟨_, hread, rfl⟩, rfl, hs⟩
    | false =>
      obtain ⟨t, f, hread, hfails, rfl, rfl⟩ | ⟨first, last, t, v, rfl, hread, hmade, hfill⟩ :=
        readDocument_bind_of_runs Body.document h
      · exact ⟨.error f, ⟨t, hread, hfails.symm⟩, rfl, .refl o s'⟩
      · obtain ⟨rfl, rfl, hs⟩ := filled_of_runs (looks_injectJson o v) hfill
        rw [List.append_nil]
        exact ⟨.ok (.document v), ⟨t, hread, hmade.symm⟩, rfl, hs⟩

/-- The schema comes from where the item says, and the variables are as before. -/
theorem schemaFrom_of_runs {r : Except Failure (Option Json)}
    (h : (schemaOf setup item soap).Runs s log r s') :
    SchemaFrom setup item soap log r ∧ s' = s := by
  unfold schemaOf at h
  unfold SchemaFrom FileOrStated
  cases soap with
  | true =>
    obtain ⟨rfl, rfl, rfl⟩ := Task.runs_pure_iff.mp h
    exact ⟨⟨rfl, rfl⟩, rfl⟩
  | false =>
    cases hfile : item.responseSchemaFile with
    | none =>
      rw [hfile] at h
      obtain ⟨rfl, rfl, rfl⟩ := Task.runs_pure_iff.mp h
      exact ⟨⟨rfl, rfl⟩, rfl⟩
    | some file =>
      rw [hfile] at h
      obtain ⟨t, f, hread, hfails, rfl, rfl⟩ | ⟨first, last, t, v, rfl, hread, hmade, hend⟩ :=
        readDocument_bind_of_runs some h
      · exact ⟨⟨t, hread, hfails.symm⟩, rfl⟩
      · obtain ⟨rfl, rfl, rfl⟩ := Task.runs_pure_iff.mp hend
        rw [List.append_nil]
        exact ⟨⟨t, hread, hmade.symm⟩, rfl⟩

end

/-! Files are no requests, and what comes of them is in the log. -/

section

variable {α : Type} {setup : ApiSetup} {file : Option String} {stated : α}
  {make : String → String → Except Failure α} {log : Log} {r : Except Failure α}

/-- To read a file is no request. -/
theorem FileOrStated.requests_eq (h : FileOrStated setup file make stated log r) :
    requests log = [] := by
  cases file with
  | none =>
    rw [h.1]
    rfl
  | some file =>
    obtain ⟨_, ⟨answer, rfl, -⟩, -⟩ := h
    rfl

/-- The answers decide what is read, and how much of the log it takes. -/
theorem FileOrStated.unique {log' rest rest' : Log} {r' : Except Failure α}
    (h : FileOrStated setup file make stated log r)
    (h' : FileOrStated setup file make stated log' r') (hlog : log ++ rest = log' ++ rest') :
    log' = log ∧ rest' = rest ∧ r' = r := by
  cases file with
  | none =>
    obtain ⟨rfl, rfl⟩ := h
    obtain ⟨rfl, rfl⟩ := h'
    exact ⟨rfl, hlog.symm, rfl⟩
  | some file =>
    obtain ⟨_, ⟨answer, rfl, rfl⟩, rfl⟩ := h
    obtain ⟨_, ⟨answer', rfl, rfl⟩, rfl⟩ := h'
    cases hlog
    exact ⟨rfl, rfl, rfl⟩

end

/-! ## §3. Headers and verdicts. -/

/-- The headers of an item, by the values that names have. -/
def headersBy (item : DataItem) (g : String → Option String) : TextMap :=
  .ofList (item.headers.entries.map fun header => (header.1, injectBy g header.2))

/-- **Whether an item is one of SOAP:** its case is, or its headers say so once they are filled. -/
def soapBy (c : TestCase) (item : DataItem) (g : String → Option String) : Bool :=
  isSoapItem c (headersBy item g)

theorem looks_headed (o : Owner) (item : DataItem) : Looks o (headed o item) (headersBy item) := by
  have hfill (headers : List (String × String)) : Looks o (fillHeaders o headers) fun g =>
      headers.map fun header => (header.1, injectBy g header.2) := by
    induction headers with
    | nil => exact .give []
    | cons header rest ih =>
      exact (looks_inject o header.2).bind fun v => ih.map fun more => (header.1, v) :: more
  exact (hfill item.headers.entries).map TextMap.ofList

/-- **The outcome of a response before anything of it is stored,** by the values that names have.
In SOAP it is that of the assertions on XML; else it is that of the schema, and of the assertions on
JSON. -/
def outcomeBy (item : DataItem) (x : Exchange) (g : String → Option String) : Outcome :=
  if x.soap then
    .ofVerdicts (Assertion.malformed (Xml.Document.ofText? x.text) ++ item.assertions.map
      (Assertion.verdictOnXmlBy x.response.status (Xml.Document.ofText? x.text) g))
  else
    (schemaOutcome x).merge
      (.ofVerdicts (item.assertions.map (Assertion.verdictBy x.response.status x.document? g)))

/-- **A response is judged by what the owner reads,** and judging changes no variable. -/
theorem looks_judge (o : Owner) (item : DataItem) (x : Exchange) :
    Looks o (judge o item x) (outcomeBy item x) := by
  unfold judge outcomeBy
  cases x.soap with
  | true => exact Assertion.looks_evaluateOnXml o x.response.status x.text item.assertions
  | false =>
    exact (Assertion.looks_evaluateOnJson o x.response.status x.document? item.assertions).map
      (schemaOutcome x).merge

/-! ## §4. The course of an item. -/

section

variable (setup : ApiSetup) (suite : Suite) (c : TestCase) (index : Nat) (item : DataItem)

/-- The owner of the variables of a case. -/
abbrev ownerOf : Owner := ⟨suite.id, c.id⟩

/-- The functions of an item went through, once its address was looked up, and left a store. -/
def FunctionsRun (s : Store) (log : Log) (r : Except Failure Unit) (m : Store) : Prop :=
  PreProcess.Pipeline setup.preProcess (ownerOf suite c) item.preProcess
    (addressed suite (ownerOf suite c) item s).2 log r m

/-- **What fails before a request:** a function, the file of the body, or the file of the schema. -/
inductive Fails (s : Store) : Log → Failure → Store → Prop
  | functions {log : Log} {f : Failure} {m : Store}
      (hfunctions : FunctionsRun setup suite c item s log (.error f) m) : Fails s log f m
  | body {first files : Log} {f : Failure} {m s' : Store}
      (hfunctions : FunctionsRun setup suite c item s first (.ok ()) m)
      (hbody : BodyFrom setup item (soapBy c item (m.reads (ownerOf suite c))) files (.error f))
      (hm : Remembers (ownerOf suite c) m s') : Fails s (first ++ files) f s'
  | schema {first files more : Log} {body : Body} {f : Failure} {m s' : Store}
      (hfunctions : FunctionsRun setup suite c item s first (.ok ()) m)
      (hbody : BodyFrom setup item (soapBy c item (m.reads (ownerOf suite c))) files (.ok body))
      (hschema : SchemaFrom setup item (soapBy c item (m.reads (ownerOf suite c))) more (.error f))
      (hm : Remembers (ownerOf suite c) m s') : Fails s (first ++ (files ++ more)) f s'

/-- **Nothing failed before a request:** the functions left `m`, and the body, not filled yet, and
the schema are there. -/
inductive Ready (s : Store) : Log → Store → Body → Option Json → Store → Prop
  | intro {first files more : Log} {body : Body} {schema : Option Json} {m s' : Store}
      (hfunctions : FunctionsRun setup suite c item s first (.ok ()) m)
      (hbody : BodyFrom setup item (soapBy c item (m.reads (ownerOf suite c))) files (.ok body))
      (hschema : SchemaFrom setup item (soapBy c item (m.reads (ownerOf suite c))) more
        (.ok schema))
      (hm : Remembers (ownerOf suite c) m s') :
      Ready s (first ++ (files ++ more)) m body schema s'

/-- **The request of an item:** its address by what its owner reads at first, and its headers and
its body by what the owner reads after the functions. -/
def requestBy (body : Body) (atFirst after : String → Option String) :
    Except Failure Http.Outgoing :=
  requestOf item.method (injectBy atFirst (suite.baseUrl ++ item.endpoint)) (headersBy item after)
    (body.fillBy after)

/-- **The course of an item that begins in a store:** what is asked between its two looks at the
clock, its entry, and the store it leaves.  Nothing is requested unless all that comes before went
through.  A response is judged by what the owner reads after the functions, and then its values are
stored, which adds errors to the outcome and takes nothing from it. -/
inductive Course (s : Store) : Log → Entry → Store → Prop
  | failed {log : Log} {f : Failure} {s' : Store} (hfails : Fails setup suite c item s log f s')
      (hnone : requests log = []) :
      Course s log (failed (newEntry suite c index item) f) s'
  | unsent {log : Log} {body : Body} {schema : Option Json} {f : Failure} {m s' : Store}
      (hready : Ready setup suite c item s log m body schema s')
      (hrequest : requestBy suite item body (s.reads (ownerOf suite c))
        (m.reads (ownerOf suite c)) = .error f)
      (hnone : requests log = []) :
      Course s log (failed (newEntry suite c index item) f) s'
  | unanswered {before sent : Log} {body : Body} {schema : Option Json} {request : Http.Outgoing}
      {more : List Http.Request} {f : Failure} {m s' : Store}
      (hready : Ready setup suite c item s before m body schema s')
      (hrequest : requestBy suite item body (s.reads (ownerOf suite c))
        (m.reads (ownerOf suite c)) = .ok request)
      (hsend : (Http.send request).Runs sent (.error f))
      (hrequests : requests (before ++ sent) = request.sent :: more) :
      Course s (before ++ sent) (failed (newEntry suite c index item) f) s'
  | answered {before sent : Log} {body : Body} {schema : Option Json} {request : Http.Outgoing}
      {more : List Http.Request} {response : Http.Response} {x : Exchange} {outcome : Outcome}
      {errors : List String} {m m' m'' s' : Store}
      (hready : Ready setup suite c item s before m body schema m')
      (hrequest : requestBy suite item body (s.reads (ownerOf suite c))
        (m.reads (ownerOf suite c)) = .ok request)
      (hsend : (Http.send request).Runs sent (.ok response))
      (hrequests : requests (before ++ sent) = request.sent :: more)
      (hx : x = ⟨soapBy c item (m.reads (ownerOf suite c)), schema, response⟩)
      (hjudged : Remembers (ownerOf suite c) m m'')
      (hstored : storeAll (ownerOf suite c) x.document? item.store.entries
        (outcomeBy item x (m.reads (ownerOf suite c))) m'' = (outcome, s'))
      (hadded : outcome = (outcomeBy item x (m.reads (ownerOf suite c))).merge
        { failed := errors.length, errors := errors }) :
      Course s (before ++ sent) (judged (newEntry suite c index item) x outcome) s'

end

section

variable {setup : ApiSetup} {suite : Suite} {c : TestCase} {item : DataItem} {s s' m : Store}
  {log : Log}

/-- The functions of an item send no request. -/
theorem FunctionsRun.requests_eq {r : Except Failure Unit}
    (h : FunctionsRun setup suite c item s log r m) : requests log = [] :=
  requests_of_forFunctions
    (PreProcess.asks_runAll _ _ _ _ _ _ _ (PreProcess.runs_runAll_iff.mpr h))

/-- **What fails before the request sends none.** -/
theorem Fails.requests_eq {f : Failure} (h : Fails setup suite c item s log f s') :
    requests log = [] := by
  cases h with
  | functions hfunctions => exact hfunctions.requests_eq
  | body hfunctions hbody hm =>
    rw [requests_append, hfunctions.requests_eq, hbody.requests_eq]
    rfl
  | schema hfunctions hbody hschema hm =>
    rw [requests_append, requests_append, hfunctions.requests_eq, hbody.requests_eq,
      hschema.requests_eq]
    rfl

/-- To make an item ready sends none either. -/
theorem Ready.requests_eq {body : Body} {schema : Option Json}
    (h : Ready setup suite c item s log m body schema s') : requests log = [] := by
  cases h with
  | intro hfunctions hbody hschema hm =>
    rw [requests_append, requests_append, hfunctions.requests_eq, hbody.requests_eq,
      hschema.requests_eq]
    rfl

/-- An item that is ready has looked variables up and written none. -/
theorem Ready.remembers {body : Body} {schema : Option Json}
    (h : Ready setup suite c item s log m body schema s') :
    Remembers (ownerOf suite c) m s' := by
  cases h with
  | intro hfunctions hbody hschema hm => exact hm

/-- The answers decide how the functions of an item go. -/
theorem FunctionsRun.unique {log' rest rest' : Log} {r r' : Except Failure Unit} {m' : Store}
    (h : FunctionsRun setup suite c item s log r m)
    (h' : FunctionsRun setup suite c item s log' r' m') (hlog : log ++ rest = log' ++ rest') :
    log' = log ∧ rest' = rest ∧ r' = r ∧ m' = m :=
  Task.Runs.unique (PreProcess.runs_runAll_iff.mpr h) (PreProcess.runs_runAll_iff.mpr h') hlog

/-- What failed before a request did not go through: along one log it is one or the other. -/
theorem Fails.not_ready {log' rest rest' : Log} {f : Failure} {body : Body} {schema : Option Json}
    {m' : Store} (h : Fails setup suite c item s log f m')
    (h' : Ready setup suite c item s log' m body schema s') : log ++ rest ≠ log' ++ rest' := by
  intro hlog
  obtain ⟨hfunctions', hbody', hschema', -⟩ := h'
  rw [List.append_assoc] at hlog
  cases h with
  | functions hfunctions =>
    obtain ⟨-, -, hr, -⟩ := hfunctions.unique hfunctions' hlog
    cases hr
  | body hfunctions hbody =>
    rw [List.append_assoc] at hlog
    obtain ⟨-, hrest, -, rfl⟩ := hfunctions.unique hfunctions' hlog
    rw [List.append_assoc] at hrest
    obtain ⟨-, -, hr⟩ := hbody.unique hbody' hrest.symm
    cases hr
  | schema hfunctions hbody hschema =>
    rw [List.append_assoc] at hlog
    obtain ⟨-, hrest, -, rfl⟩ := hfunctions.unique hfunctions' hlog
    rw [List.append_assoc, List.append_assoc] at hrest
    obtain ⟨-, hrest, -⟩ := hbody.unique hbody' hrest.symm
    obtain ⟨-, -, hr⟩ := hschema.unique hschema' hrest.symm
    cases hr

/-- A request goes to the address that was filled. -/
theorem requestOf_url {method address : String} {headers : TextMap} {body : Body}
    {request : Http.Outgoing} (h : requestOf method address headers body = .ok request) :
    ∃ u, Http.Url.ofText? address = some u ∧ request.url = u.anonymous := by
  unfold requestOf at h
  cases hmethod : Http.methodOf method with
  | error f =>
    rw [hmethod] at h
    cases h
  | ok known =>
    cases hheaders : Http.headersOf headers with
    | error f =>
      rw [hmethod, hheaders] at h
      cases h
    | ok sent =>
      rw [hmethod, hheaders] at h
      simp only [bind, Except.bind, Http.outgoing] at h
      cases hurl : Http.Url.ofText? address with
      | none =>
        rw [hurl] at h
        cases h
      | some u =>
        rw [hurl] at h
        cases h
        exact ⟨u, rfl, rfl⟩

/-- **Storing only adds errors:** one for each value that is not there. -/
theorem storeAll_adds (o : Owner) (document : Option Json) (directives : List (String × String))
    (outcome : Outcome) (s : Store) :
    ∃ errors, (storeAll o document directives outcome s).1
      = outcome.merge { failed := errors.length, errors := errors } := by
  induction directives generalizing outcome s with
  | nil => exact ⟨[], by simp [storeAll, Outcome.merge]⟩
  | cons directive rest ih =>
    obtain ⟨name, path⟩ := directive
    unfold storeAll storeOne
    cases hfound : stored name (s.inject o path).1 document with
    | ok v =>
      simp only [hfound]
      exact ih outcome _
    | error e =>
      obtain ⟨errors, herrors⟩ := ih (outcome.fail e) (s.inject o path).2
      simp only [hfound]
      refine ⟨e :: errors, herrors.trans ?_⟩
      simp only [Outcome.merge, Outcome.fail, List.append_assoc, List.length_cons, Nat.add_assoc,
        Nat.add_comm 1, List.cons_append, List.nil_append]

/-- An item is opened by its functions and its headers, filled with what the functions left. -/
theorem opened {headers : TextMap}
    (h : Opened setup suite (ownerOf suite c) item s log headers s') :
    ∃ m, FunctionsRun setup suite c item s log (.ok ()) m ∧
      headers = headersBy item (m.reads (ownerOf suite c)) ∧
      Remembers (ownerOf suite c) m s' := by
  obtain ⟨m, hruns, hheaded⟩ := h
  have hlooks := looks_headed (ownerOf suite c) item
  refine ⟨m, PreProcess.runs_runAll_iff.mp hruns, ?_, ?_⟩
  · rw [← hlooks.value m, hheaded]
  · have hm := hlooks.remembers m
    rwa [hheaded] at hm

/-- What is loaded is there, and makes the request of the item. -/
theorem loaded {headers : TextMap} {body : Body} {schema : Option Json}
    (h : Loaded setup suite c (ownerOf suite c) item s log headers body schema s') :
    ∃ m raw, Ready setup suite c item s log m raw schema s' ∧
      isSoapItem c headers = soapBy c item (m.reads (ownerOf suite c)) ∧
      requestOf item.method (addressed suite (ownerOf suite c) item s).1 headers body
        = requestBy suite item raw (s.reads (ownerOf suite c)) (m.reads (ownerOf suite c)) := by
  obtain ⟨first, files, more, m₁, m₂, rfl, hopened, hbody, hschema⟩ := h
  obtain ⟨m, hfunctions, rfl, hm⟩ := opened hopened
  obtain ⟨raw, hraw, hfilled, hm'⟩ := bodyFrom_of_runs hbody
  obtain ⟨hfrom, rfl⟩ := schemaFrom_of_runs hschema
  have haddress := (looks_inject (ownerOf suite c) (suite.baseUrl ++ item.endpoint)).value s
  cases raw with
  | error f => cases hfilled
  | ok raw =>
    cases hfilled
    refine ⟨m, raw, .intro hfunctions hraw hfrom (hm.trans hm'), rfl, ?_⟩
    rw [addressed, haddress, hm.reads]
    rfl

/-- A request that cannot be made is not sent. -/
theorem course_of_unsent {index : Nat} {headers : TextMap} {body : Body} {schema : Option Json}
    {f : Failure}
    (hloaded : Loaded setup suite c (ownerOf suite c) item s log headers body schema s')
    (hrequest : requestOf item.method (addressed suite (ownerOf suite c) item s).1 headers body
      = .error f) :
    Course setup suite c index item s log (failed (newEntry suite c index item) f) s' := by
  obtain ⟨m, raw, hready, -, hmade⟩ := loaded hloaded
  exact .unsent hready (hmade.symm.trans hrequest) hready.requests_eq

/-- A response is judged and then stored. -/
theorem course_of_answered {index : Nat} {before sent : Log} {raw : Body} {schema : Option Json}
    {request : Http.Outgoing} {more : List Http.Request} {response : Http.Response} {x : Exchange}
    (hready : Ready setup suite c item s before m raw schema s')
    (hrequest : requestBy suite item raw (s.reads (ownerOf suite c)) (m.reads (ownerOf suite c))
      = .ok request)
    (hsend : (Http.send request).Runs sent (.ok response))
    (hrequests : requests (before ++ sent) = request.sent :: more)
    (hx : x = ⟨soapBy c item (m.reads (ownerOf suite c)), schema, response⟩) :
    Course setup suite c index item s (before ++ sent)
      (judged (newEntry suite c index item) x (conclude (ownerOf suite c) item x s').1)
      (conclude (ownerOf suite c) item x s').2 := by
  have hjudge := looks_judge (ownerOf suite c) item x
  have hm := hready.remembers
  have houtcome : (judge (ownerOf suite c) item x s').1
      = outcomeBy item x (m.reads (ownerOf suite c)) := by
    rw [hjudge.value, hm.reads]
  have hstored : storeAll (ownerOf suite c) x.document? item.store.entries
      (outcomeBy item x (m.reads (ownerOf suite c))) (judge (ownerOf suite c) item x s').2
      = conclude (ownerOf suite c) item x s' := by
    rw [← houtcome]
    rfl
  obtain ⟨errors, hadded⟩ := storeAll_adds (ownerOf suite c) x.document? item.store.entries
    (outcomeBy item x (m.reads (ownerOf suite c))) (judge (ownerOf suite c) item x s').2
  rw [hstored] at hadded
  exact .answered hready hrequest hsend hrequests hx (hm.trans (hjudge.remembers s')) hstored hadded

/-- **However an exchange ends, the item takes its course.** -/
theorem course_of_ends {index : Nat} {q : Except Failure Exchange} {m : Store}
    (h : Ends setup suite c (ownerOf suite c) item s log q m) :
    Course setup suite c index item s log
      (concluded (ownerOf suite c) item (newEntry suite c index item) q m).1
      (concluded (ownerOf suite c) item (newEntry suite c index item) q m).2 := by
  -- whatever follows the exchange, the first thing that it sends is the request
  have hsent {before sent : Log} {m m' : Store} {body : Body} {schema : Option Json}
      {request : Http.Outgoing} {r : Except Failure Http.Response}
      (hready : Ready setup suite c item s before m body schema m')
      (hsend : (Http.send request).Runs sent r) :
      ∃ more, requests (before ++ sent) = request.sent :: more := by
    rw [requests_append, hready.requests_eq]
    exact requests_send hsend
  -- how the exchange ended decides which course it took
  cases h with
  | atFunctions hfunctions =>
    have hfails : Fails setup suite c item s _ _ m :=
      .functions (PreProcess.runs_runAll_iff.mp hfunctions)
    exact .failed hfails hfails.requests_eq
  | atBody hopened hbody =>
    obtain ⟨m₁, hfunctions, rfl, hm⟩ := opened hopened
    obtain ⟨raw, hraw, hfilled, hm'⟩ := bodyFrom_of_runs hbody
    cases raw with
    | ok raw => cases hfilled
    | error f =>
      cases hfilled
      have hfails := Fails.body hfunctions hraw (hm.trans hm')
      exact .failed hfails hfails.requests_eq
  | atSchema hopened hbody hschema =>
    obtain ⟨m₁, hfunctions, rfl, hm⟩ := opened hopened
    obtain ⟨raw, hraw, hfilled, hm'⟩ := bodyFrom_of_runs hbody
    obtain ⟨hfrom, rfl⟩ := schemaFrom_of_runs hschema
    cases raw with
    | error f => cases hfilled
    | ok raw =>
      have hfails := Fails.schema hfunctions hraw hfrom (hm.trans hm')
      exact .failed hfails hfails.requests_eq
  -- from here on the item is ready, and no request can be made of it
  | atMethod hloaded hmethod =>
    refine course_of_unsent hloaded ?_
    simp only [requestOf, hmethod, bind, Except.bind]
  | atHeaders hloaded hmethod hheaders =>
    refine course_of_unsent hloaded ?_
    simp only [requestOf, hmethod, hheaders, bind, Except.bind]
  | atAddress hloaded hmethod hheaders haddress =>
    refine course_of_unsent hloaded ?_
    simp only [requestOf, hmethod, hheaders, bind, Except.bind, haddress]
  | atRequest hloaded hrequest hsend =>
    obtain ⟨m₁, raw, hready, -, hmade⟩ := loaded hloaded
    obtain ⟨more, hmore⟩ := hsent hready hsend
    exact .unanswered hready (hmade.symm.trans hrequest) hsend hmore
  | answered hloaded hrequest hsend =>
    obtain ⟨m₁, raw, hready, hsoap, hmade⟩ := loaded hloaded
    obtain ⟨more, hmore⟩ := hsent hready hsend
    exact course_of_answered hready (hmade.symm.trans hrequest) hsend hmore (by rw [hsoap])

/-- What an item requests first is at its address, filled from the store it begins in. -/
theorem Course.url_of_first {index : Nat} {e : Entry} {first : Http.Request}
    {more : List Http.Request} (h : Course setup suite c index item s log e s')
    (hfirst : requests log = first :: more) :
    ∃ u, Http.Url.ofText? (injectBy (s.reads (ownerOf suite c)) (suite.baseUrl ++ item.endpoint))
      = some u ∧ first.url = u.anonymous.render := by
  have hsent {body : Body} {m : Store} {request : Http.Outgoing} {log : Log}
      {more' : List Http.Request}
      (hrequest : requestBy suite item body (s.reads (ownerOf suite c))
        (m.reads (ownerOf suite c)) = .ok request)
      (hrequests : requests log = request.sent :: more') (hfirst : requests log = first :: more) :
      ∃ u, Http.Url.ofText?
        (injectBy (s.reads (ownerOf suite c)) (suite.baseUrl ++ item.endpoint)) = some u ∧
          first.url = u.anonymous.render := by
    rw [hrequests] at hfirst
    cases hfirst
    obtain ⟨u, hu, hurl⟩ := requestOf_url hrequest
    exact ⟨u, hu, congrArg Http.Url.render hurl⟩
  cases h with
  | failed _ hnone => exact nomatch hnone.symm.trans hfirst
  | unsent _ _ hnone => exact nomatch hnone.symm.trans hfirst
  | unanswered _ hrequest _ hrequests => exact hsent hrequest hrequests hfirst
  | answered _ hrequest _ hrequests => exact hsent hrequest hrequests hfirst

/-- An item that fails at some point before a request makes none. -/
theorem Course.requests_of_fails {index : Nat} {e : Entry} {before rest : Log} {f : Failure}
    (h : Course setup suite c index item s log e s') (hlog : before ++ rest = log)
    (hfails : Fails setup suite c item s before f m) : requests log = [] := by
  cases h with
  | failed _ hnone => exact hnone
  | unsent _ _ hnone => exact hnone
  | unanswered hready => exact absurd hlog (hfails.not_ready hready)
  | answered hready => exact absurd hlog (hfails.not_ready hready)

end

/-- **AN ITEM IS FILLED FROM TWO STORES.**  Whatever the server, the databases, the files, the clock
and chance do, an item that begins in `s` takes its course:

  1. what it requests first is at the address that `baseUrl` and `endpoint` make in `s`;
  2. its headers and its body are filled from the store that its functions left, and so are the
     expected values of its assertions, whatever it stores of the response afterwards;
  3. it requests nothing if a function fails, or the file of its body, or that of its schema, at
     whatever point of its log;
  4. it is one of SOAP if its case is, or if its headers say so in the store that its functions
     left.  Then its body is sent as a text, it has no schema, and its assertions are on XML. -/
theorem runItem_in_order (setup : ApiSetup) (suite : Suite) (c : TestCase) (index : Nat)
    (item : DataItem) (b : Behaviour outside) (s : Store) (past : Log) :
    ∃ (started finished : Int) (log : Log) (e : Entry) (s' : Store) (duration : Nat),
      Task.play b (runItem setup suite c index item) s past
        = ((.ok { e with duration := duration }, s'),
          past ++ ⟨.clock, started⟩ :: (log ++ [⟨.clock, finished⟩])) ∧
      Course setup suite c index item s log e s' ∧
      (∀ first more, requests log = first :: more →
        ∃ u, Http.Url.ofText?
          (injectBy (s.reads ⟨suite.id, c.id⟩) (suite.baseUrl ++ item.endpoint)) = some u ∧
            first.url = u.anonymous.render) ∧
      ∀ before rest f m, before ++ rest = log → Fails setup suite c item s before f m →
        requests log = [] := by
  obtain ⟨log, r, s', hplay, hruns⟩ :=
    Task.exists_play b (runItem setup suite c index item) s past
  -- between two looks at the clock stands the exchange
  obtain ⟨started, finished, middle, q, m, duration, rfl, hexchange, rfl, rfl⟩ :=
    runs_runItem hruns
  have hcourse : Course setup suite c index item s middle _ _ :=
    course_of_ends (exchange_ends hexchange)
  exact ⟨started, finished, middle, _, _, duration, hplay, hcourse,
    fun first more hfirst => hcourse.url_of_first hfirst,
    fun before rest f m hlog hfails => hcourse.requests_of_fails hlog hfails⟩

end Api

end SuiteRunner
