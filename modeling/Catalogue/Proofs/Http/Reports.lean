import Catalogue.Proofs.Http.Discretion

/-!
# Errors are reported

A response with a status of 400 or more is meant to carry a report that a client can read
(`Catalogue.Http.Response.Reports`): a message, a word for the kind of the error, and the status
once more. Every request about books that is answered at all keeps to that, whatever the database
says (`Catalogue.Http.errors_are_reported`).

Two responses do so in another form. What tells of the state of the database has a document of its
own, and says in there that the database does not answer
(`Catalogue.Http.readiness_has_its_own_form`). And who asks for the headers only gets those of the
report, without the report.
-/

namespace Catalogue

namespace Http

/-! ### Reports -/

/-- A response **reports** an error: its content is a report as JSON, and the report has the same
status. -/
def Response.Reports (response : Response) : Prop :=
  ∃ report : Service.Report, report.status = response.status ∧
    response.body = report.toJson.compact ∧
    response.header? "content-type" = some "application/json"

/-- The response to a fault reports it. -/
theorem reports_ofFault (f : Service.Fault) : (Response.ofFault f).Reports :=
  ⟨f.report, rfl, rfl, rfl⟩

/-- A response that **is none of an error, or reports it**. -/
def Fair (response : Response) : Prop := 400 ≤ response.status → response.Reports

/-- A response of success is none of an error. -/
theorem not_le_success : ¬(400 : UInt16) ≤ 200 := by decide

theorem fair_json (j : Json) : Fair (.json 200 j) := fun h => absurd h not_le_success

/-- **The answer of a request is fair**, whatever the request. -/
theorem comesTo_answer {α : Type} (encode : α → Json) (r : Service.Request α) :
    (answer encode r).ComesTo Fair := by
  refine (Store.Process.keepsTo_true _).bind fun x _ => ?_
  rcases x with f | a
  · exact .done fun _ => reports_ofFault f
  · exact .done (fair_json _)

variable {d : Dialect} {settings : Settings}

/-- A search in a body is answered fairly if the body is read. -/
theorem comesTo_findBooks {limit : Nat} {r : Request} (h : r.body.length ≤ limit) :
    (findBooks d settings limit r).ComesTo Fair := by
  rw [findBooks, if_neg (Nat.not_lt.mpr h)]
  exact comesTo_answer _ _

/-- What tells of the state of the database says in its own form that it does not answer. -/
theorem comesTo_readiness : (readiness d settings).ComesTo fun response =>
    400 ≤ response.status → response = readinessOf d settings false := by
  refine (Store.Process.keepsTo_true _).bind fun x _ => ?_
  rcases x with f | a
  · exact .done fun _ => rfl
  · exact .done fun h => absurd h not_le_success

/-- What the response to a resource **is like**, if it is one of an error: a report, or what is said
of the state of the database. -/
def ErrorOf (d : Dialect) (settings : Settings) (resource : Resource) (response : Response) :
    Prop :=
  400 ≤ response.status →
    if resource = .readiness then response = readinessOf d settings false else response.Reports

/-- **Whatever answers, answers with reports**, or with what is said of the state of the
database. -/
theorem Handles.comesTo {limit : Nat} {resource : Resource} {r : Request} {a : Answer}
    (h : Handles d settings limit r resource a)
    (hbody : r.method = "POST" → r.body.length ≤ limit) :
    a.ComesTo (ErrorOf d settings resource) := by
  cases h with
  | health => exact .done (fair_json _)
  | readiness => exact comesTo_readiness
  | list => exact comesTo_answer _ _
  | find hmethod => exact comesTo_findBooks (hbody hmethod)
  | create => exact comesTo_answer _ _
  | get raw => exact comesTo_answer _ _
  | update raw => exact comesTo_answer _ _
  | delete raw => exact comesTo_answer _ _

/-- The last touch adds nothing to a response whose request was answered, and takes away no more
than the content. -/
theorem finish_nil (r : Request) (response : Response) :
    finish r [] response =
      if r.method = "HEAD" then { response with body := "" } else response := by
  have hsame : response.withHeaders [] = response := by
    rw [Response.withHeaders, List.append_nil]
  rw [finish, hsame]

/-- A request that is answered gets what answers it, with the last touch. -/
theorem respond_eq {r : Request} {resource : Resource} {a : Answer}
    (hpath : Resource.ofPath? r.path = some resource)
    (ha : handle? d settings bodyLimit resource r = some a) :
    respond d settings r = a.bind fun response => .done (finish r [] response) := by
  rw [respond, endpoint, hpath]
  simp only [ha]

/-- **Errors are reported.** Let a request ask for something that there is, by a method that is
known for it, and let its body be read. If it is answered by a status of 400 or more, whatever the
database says to the statements put, then the response reports the error: its content is a report
with the same status. What tells of the state of the database says in its own form that the database
does not answer. To a request for the headers only, these are the response. -/
theorem errors_are_reported {r : Request} {resource : Resource} {a : Answer}
    (hpath : Resource.ofPath? r.path = some resource)
    (ha : handle? d settings bodyLimit resource r = some a)
    (hbody : r.method = "POST" → r.body.length ≤ bodyLimit) :
    (respond d settings r).ComesTo fun response => 400 ≤ response.status →
      ∃ full : Response, (resource ≠ .readiness → full.Reports) ∧
        (resource = .readiness → full = readinessOf d settings false) ∧
        response = if r.method = "HEAD" then { full with body := "" } else full := by
  rw [respond_eq hpath ha]
  refine ((handles_of_handle? ha).comesTo hbody).bind fun full hfull => .done ?_
  rw [finish_nil]
  intro hstatus
  have herror : 400 ≤ full.status := by
    split at hstatus
    · exact hstatus
    · exact hstatus
  have hform := hfull herror
  refine ⟨full, fun hother => ?_, fun hready => ?_, rfl⟩
  · rwa [if_neg hother] at hform
  · rwa [if_pos hready] at hform

/-- There is no table yet when a client asks for all books. -/
theorem errors_are_reported_early :
    Resource.ofPath? askingForAll.path = some .books ∧
      (askingForAll.method = "POST" → askingForAll.body.length ≤ bodyLimit) ∧
      ∃ response,
        ((respond .sqlite Settings.default askingForAll).run (.fresh .sqlite)).1 = response ∧
          response.status = 500 ∧ response.Reports := by
  have hpath : Resource.ofPath? askingForAll.path = some .books := by decide
  have hbody : askingForAll.method = "POST" → askingForAll.body.length ≤ bodyLimit := by decide
  have hget : askingForAll.method ≠ "HEAD" := by decide
  have hstatus :
      ((respond .sqlite Settings.default askingForAll).run (.fresh .sqlite)).1.status = 500 := rfl
  have herror :
      400 ≤ ((respond .sqlite Settings.default askingForAll).run (.fresh .sqlite)).1.status := by
    rw [hstatus]
    decide
  obtain ⟨full, hreports, -, hfull⟩ :=
    (errors_are_reported hpath rfl hbody).run (.fresh .sqlite) herror
  rw [if_neg hget] at hfull
  refine ⟨hpath, hbody, full, hfull, ?_, hreports nofun⟩
  rw [← hfull]
  exact hstatus

/-- The session after its connections are closed. -/
def closedSession : Store.Session := { Store.Session.fresh .sqlite with availability := .closed }

/-- The text of a report begins with the name of its message. -/
theorem getElem?_compact_report (report : Service.Report) :
    report.toJson.compact.toList[2]? = some 'e' := by
  rw [Json.compact, String.toList_ofList, Service.Report.toJson]
  rcases report.code with _ | code
  · rfl
  · rfl

/-- **What tells of the state of the database is no report** when the database does not answer: the
status is that of an error, but the document has members of its own. -/
theorem readiness_has_its_own_form :
    ∃ response, ((respond .sqlite Settings.default ⟨"GET", "/ready", [], []⟩).run closedSession).1 =
        response ∧ response.status = 503 ∧
      ∀ report : Service.Report, response.body ≠ report.toJson.compact := by
  refine ⟨readinessOf .sqlite Settings.default false, by decide, rfl, fun report heq => ?_⟩
  -- the names of the first members differ in their first letters
  have hready : (readinessOf .sqlite Settings.default false).body.toList[2]? = some 'r' := by
    rw [readinessOf, Response.json, Json.compact, String.toList_ofList]
    rfl
  rw [heq, getElem?_compact_report] at hready
  exact absurd hready (by decide)

end Http

end Catalogue
