import SuiteRunner.Api.Run
import SuiteRunner.Proofs.Outside.Transcript

/-!
  SuiteRunner.Proofs.Api.Stages
  ────────────────────────────────
  **HOW THE EXCHANGE OF AN ITEM CAN END.**

  An exchange goes through stages: the functions before the item, its body, its schema, its method,
  its headers, its address, and the requests that are sent.  Each can fail, and then the exchange
  has that failure.  `Ends` lists the ways in which it can end, one for each stage and one for a
  response; `exchange_ends` proves that there is no other.
-/

namespace SuiteRunner

namespace Api

section

variable (setup : ApiSetup) (suite : Suite) (c : TestCase) (o : Owner) (item : DataItem)
  (s : Store)

/-! ## §1. Stages. -/

/-- The address of an item with its placeholders filled. -/
def addressed : String × Store := s.inject o (suite.baseUrl ++ item.endpoint)

/-- The headers of an item with their placeholders filled. -/
def headed : TextMap × Store :=
  let (headers, s) := fillHeaders o item.headers.entries s
  (TextMap.ofList headers, s)

/-- Whether an item is one of SOAP: its case is, or its headers say so. -/
def isSoapItem (headers : TextMap) : Bool := c.kind == .soap || isSoap headers

/-- Whether a schema is stated for an item. -/
def hasSchema : Bool := item.responseSchemaFile.isSome || item.responseSchema.isSome

/-- The functions before an item went through, and its headers are filled. -/
def Opened (log : Log) (headers : TextMap) (s' : Store) : Prop :=
  ∃ m, (PreProcess.runAll setup.preProcess o item.preProcess).Runs (addressed suite o item s).2
      log (.ok ()) m ∧ headed o item m = (headers, s')

/-- Its body and its schema are there too. -/
def Loaded (log : Log) (headers : TextMap) (body : Body) (schema : Option Json) (s' : Store) :
    Prop :=
  ∃ log₁ log₂ log₃ m m', log = log₁ ++ (log₂ ++ log₃) ∧
    Opened setup suite o item s log₁ headers m ∧
    (bodyOf setup o item (isSoapItem c headers)).Runs m log₂ (.ok body) m' ∧
    (schemaOf setup item (isSoapItem c headers)).Runs m' log₃ (.ok schema) s'

/-- **The ways in which an exchange can end:** with the failure of a stage after which nothing more
is done, or with a response. -/
inductive Ends : Log → Except Failure Exchange → Store → Prop where
  | atFunctions {log : Log} {f : Failure} {s' : Store}
      (hfunctions : (PreProcess.runAll setup.preProcess o item.preProcess).Runs
        (addressed suite o item s).2 log (.error f) s') :
      Ends log (.error f) s'
  | atBody {log₁ log₂ : Log} {headers : TextMap} {f : Failure} {m s' : Store}
      (hopened : Opened setup suite o item s log₁ headers m)
      (hbody : (bodyOf setup o item (isSoapItem c headers)).Runs m log₂ (.error f) s') :
      Ends (log₁ ++ log₂) (.error f) s'
  | atSchema {log₁ log₂ log₃ : Log} {headers : TextMap} {body : Body} {f : Failure}
      {m m' s' : Store} (hopened : Opened setup suite o item s log₁ headers m)
      (hbody : (bodyOf setup o item (isSoapItem c headers)).Runs m log₂ (.ok body) m')
      (hschema : (schemaOf setup item (isSoapItem c headers)).Runs m' log₃ (.error f) s') :
      Ends (log₁ ++ (log₂ ++ log₃)) (.error f) s'
  | atMethod {log : Log} {headers : TextMap} {body : Body} {schema : Option Json} {f : Failure}
      {s' : Store} (hloaded : Loaded setup suite c o item s log headers body schema s')
      (hmethod : Http.methodOf item.method = .error f) :
      Ends log (.error f) s'
  | atHeaders {log : Log} {headers : TextMap} {body : Body} {schema : Option Json}
      {method : String} {f : Failure} {s' : Store}
      (hloaded : Loaded setup suite c o item s log headers body schema s')
      (hmethod : Http.methodOf item.method = .ok method)
      (hheaders : Http.headersOf headers = .error f) :
      Ends log (.error f) s'
  | atAddress {log : Log} {headers sent : TextMap} {body : Body} {schema : Option Json}
      {method : String} {f : Failure} {s' : Store}
      (hloaded : Loaded setup suite c o item s log headers body schema s')
      (hmethod : Http.methodOf item.method = .ok method)
      (hheaders : Http.headersOf headers = .ok sent)
      (haddress : Http.outgoing method (addressed suite o item s).1 (body.completing sent)
        body.text? = .error f) :
      Ends log (.error f) s'
  | atRequest {log₁ log₂ : Log} {headers : TextMap} {body : Body} {schema : Option Json}
      {request : Http.Outgoing} {f : Failure} {s' : Store}
      (hloaded : Loaded setup suite c o item s log₁ headers body schema s')
      (hrequest : requestOf item.method (addressed suite o item s).1 headers body = .ok request)
      (hsend : (Http.send request).Runs log₂ (.error f)) :
      Ends (log₁ ++ log₂) (.error f) s'
  | answered {log₁ log₂ : Log} {headers : TextMap} {body : Body} {schema : Option Json}
      {request : Http.Outgoing} {response : Http.Response} {s' : Store}
      (hloaded : Loaded setup suite c o item s log₁ headers body schema s')
      (hrequest : requestOf item.method (addressed suite o item s).1 headers body = .ok request)
      (hsend : (Http.send request).Runs log₂ (.ok response)) :
      Ends (log₁ ++ log₂) (.ok ⟨isSoapItem c headers, schema, response⟩) s'

end

variable {setup : ApiSetup} {suite : Suite} {c : TestCase} {o : Owner} {item : DataItem}
  {s s' : Store} {log : Log}

/-! ## §2. There are no other ends. -/

/-- A request that cannot be made has a wrong method, a wrong header or a wrong address. -/
theorem ends_of_requestOf_error {headers : TextMap} {body : Body} {schema : Option Json}
    {f : Failure} (hloaded : Loaded setup suite c o item s log headers body schema s')
    (h : requestOf item.method (addressed suite o item s).1 headers body = .error f) :
    Ends setup suite c o item s log (.error f) s' := by
  unfold requestOf at h
  cases hmethod : Http.methodOf item.method with
  | error e =>
    rw [hmethod] at h
    cases h
    exact .atMethod hloaded hmethod
  | ok method =>
    rw [hmethod] at h
    cases hheaders : Http.headersOf headers with
    | error e =>
      rw [hheaders] at h
      cases h
      exact .atHeaders hloaded hmethod hheaders
    | ok sent =>
      rw [hheaders] at h
      simp only [bind, Except.bind] at h
      exact .atAddress hloaded hmethod hheaders h

/-- **Every run of an exchange ends in one of the ways.** -/
theorem exchange_ends {r : Except Failure Exchange}
    (h : (exchange setup suite c o item).Runs s log r s') :
    Ends setup suite c o item s log r s' := by
  unfold exchange at h
  -- the address is filled whatever happens, and then the functions before the item run
  have h := Task.runs_update_bind_iff.mp h
  obtain (⟨f, rfl, hfunctions⟩ | ⟨log₁, _, _, m, rfl, hfunctions, h⟩) :=
    (Task.runs_bind_iff _ _).mp h
  · exact .atFunctions hfunctions
  have hopened : Opened setup suite o item s log₁ (headed o item m).1 (headed o item m).2 :=
    ⟨m, hfunctions, rfl⟩
  -- the headers cannot fail; what they say decides how body and schema are read
  have h := Task.runs_update_bind_iff.mp h
  obtain (⟨f, rfl, hbody⟩ | ⟨log₂, _, body, m₁, rfl, hbody, h⟩) := (Task.runs_bind_iff _ _).mp h
  · exact .atBody hopened hbody
  obtain (⟨f, rfl, hschema⟩ | ⟨log₃, _, schema, m₂, rfl, hschema, h⟩) :=
    (Task.runs_bind_iff _ _).mp h
  · exact .atSchema hopened hbody hschema
  have hloaded : Loaded setup suite c o item s (log₁ ++ (log₂ ++ log₃)) (headed o item m).1
      body schema m₂ := ⟨_, _, _, _, _, rfl, hopened, hbody, hschema⟩
  -- making the request asks nothing of the outside, so it adds nothing to the log
  obtain (⟨f, hrequest, rfl, rfl, rfl⟩ | ⟨request, hrequest, h⟩) := Task.runs_ofExcept_bind_iff.mp h
  · rw [List.append_nil]
    exact ends_of_requestOf_error hloaded hrequest
  obtain ⟨log₄, _, answer, rfl, hsend, h⟩ := Task.runs_errand_bind_iff.mp h
  have hlogs : log₁ ++ (log₂ ++ (log₃ ++ log₄)) = log₁ ++ (log₂ ++ log₃) ++ log₄ := by
    simp only [List.append_assoc]
  obtain (⟨f, rfl, rfl, rfl, rfl⟩ | ⟨response, rfl, h⟩) := Task.runs_ofExcept_bind_iff.mp h
  · rw [List.append_nil, hlogs]
    exact .atRequest hloaded hrequest hsend
  · obtain ⟨rfl, rfl, rfl⟩ := Task.runs_pure_iff.mp h
    rw [List.append_nil, hlogs]
    exact .answered hloaded hrequest hsend

/-! ## §3. What a response is judged by. -/

/-- A schema that can be had is there exactly if one is stated; SOAP items have none. -/
theorem schemaOf_isSome {soap : Bool} {schema : Option Json}
    (h : (schemaOf setup item soap).Runs s log (.ok schema) s') :
    schema.isSome = (!soap && hasSchema item) := by
  unfold schemaOf at h
  -- SOAP has no schema; without it a file goes before what is stated
  cases soap with
  | true =>
    obtain ⟨-, hschema, -⟩ := Task.runs_pure_iff.mp h
    cases hschema
    rfl
  | false =>
    unfold hasSchema
    show schema.isSome = (item.responseSchemaFile.isSome || item.responseSchema.isSome)
    cases hfile : item.responseSchemaFile with
    | none =>
      rw [hfile] at h
      obtain ⟨-, hschema, -⟩ := Task.runs_pure_iff.mp h
      cases hschema
      rfl
    | some file =>
      rw [hfile] at h
      obtain (⟨_, hr, -⟩ | ⟨_, _, text, _, -, -, h⟩) := (Task.runs_bind_iff _ _).mp h
      · cases hr
      · obtain (⟨_, -, -, hr, -⟩ | ⟨v, -, h⟩) := Task.runs_ofExcept_bind_iff.mp h
        · cases hr
        · obtain ⟨-, hschema, -⟩ := Task.runs_pure_iff.mp h
          cases hschema
          rfl

/-- A response is held against a schema exactly if one is stated and the item is none of SOAP. -/
theorem Ends.schema_isSome {x : Exchange} (h : Ends setup suite c o item s log (.ok x) s') :
    x.schema.isSome = (!x.soap && hasSchema item) := by
  cases h with
  | answered hloaded hrequest hsend =>
    obtain ⟨_, _, _, _, _, -, -, -, hschema⟩ := hloaded
    exact schemaOf_isSome hschema

/-! ## §4. The entry of an item. -/

/-- The entry and the store that an exchange leads to. -/
def concluded (o : Owner) (item : DataItem) (e : Entry) :
    Except Failure Exchange → Store → Entry × Store
  | .ok x, m => (judged e x (conclude o item x m).1, (conclude o item x m).2)
  | .error f, m => (failed e f, m)

/-- **A run of an item is an exchange between two looks at the clock,** and always leaves an
entry. -/
theorem runs_runItem {index : Nat} {r : Except Failure Entry}
    (h : (runItem setup suite c index item).Runs s log r s') :
    ∃ (started finished : Int) (middle : Log) (q : Except Failure Exchange) (m : Store)
      (duration : Nat),
      log = ⟨.clock, started⟩ :: (middle ++ [⟨.clock, finished⟩]) ∧
      (exchange setup suite c ⟨suite.id, c.id⟩ item).Runs s middle q m ∧
      r = .ok { (concluded ⟨suite.id, c.id⟩ item (newEntry suite c index item) q m).1 with
        duration := duration } ∧
      s' = (concluded ⟨suite.id, c.id⟩ item (newEntry suite c index item) q m).2 := by
  unfold runItem at h
  obtain ⟨started, _, rfl, hrest⟩ := Task.runs_ask_bind_iff.mp h
  obtain ⟨middle, _, q, m, rfl, hexchange, hrest⟩ := Task.runs_result_bind_iff.mp hrest
  cases q with
  | ok x =>
    have hrest := Task.runs_update_bind_iff.mp hrest
    obtain ⟨finished, _, rfl, hend⟩ := Task.runs_ask_bind_iff.mp hrest
    obtain ⟨rfl, rfl, rfl⟩ := Task.runs_pure_iff.mp hend
    exact ⟨started, finished, middle, .ok x, m, _, rfl, hexchange, rfl, rfl⟩
  | error f =>
    obtain ⟨finished, _, rfl, hend⟩ := Task.runs_ask_bind_iff.mp hrest
    obtain ⟨rfl, rfl, rfl⟩ := Task.runs_pure_iff.mp hend
    exact ⟨started, finished, middle, .error f, _, _, rfl, hexchange, rfl, rfl⟩

end Api

end SuiteRunner
