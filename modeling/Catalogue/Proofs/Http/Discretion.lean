import Catalogue.Http.Routes

/-!
# What a client learns of a failure

A failure of the database has a text that is meant for the log. On its way to the client it becomes
a fault of the store, then a fault of the service, and then a response. This file says what is left
of it: no more than its kind (`Catalogue.Failure.Kind`), which decides the response
(`Catalogue.Failure.Kind.response`) and every word in it
(`Catalogue.Failure.Kind.status_body_response`).

Every statement of a request may be the one that fails. A process ends at its first failure
(`Catalogue.Store.Process.EndsAt`), whatever was answered before, so that it is enough to look at
the places that it may come to (`Catalogue.Store.Process.MayCome`).
-/

namespace Catalogue

/-! ### Reports -/

/-- The text of a report that has a word for the kind of the error. -/
theorem Service.Report.toList_compact (error code : String) (status : UInt16) :
    (toJson ⟨error, some code, status⟩).compact.toList =
      "\x7b\"error\":".toList ++ (Json.stringChars error ++ (",\"code\":".toList ++
        (Json.stringChars code ++ (",\"status\":".toList ++
          (Json.integerChars status.toNat ++ ['\x7d']))))) := by
  have herror : Json.stringChars "error" = "\"error\"".toList := by decide
  have hcode : Json.stringChars "code" = "\"code\"".toList := by decide
  have hstatus : Json.stringChars "status" = "\"status\"".toList := by decide
  rw [Json.compact, String.toList_ofList, toJson, Option.map_some, Option.toList_some]
  simp only [Json.chars, Json.memberChars, List.cons_append, List.nil_append, herror, hcode,
    hstatus, List.append_assoc]
  rfl

/-! ### Kinds of failures -/

namespace Failure

/-- The **kinds of failures** that are told apart. -/
inductive Kind where
  /-- The database refused the statement, and not because of a value that is there already. -/
  | refused
  /-- There is a row already with the same value in a column. -/
  | taken (column : String)
  /-- No connection came free in time. -/
  | timedOut
  /-- There is no connection. -/
  | disconnected
  /-- Anything else. -/
  | other
  deriving DecidableEq

/-- The kind of a failure. Of a refusal it is asked whether it is about a value that is there
already. -/
def kind (d : Dialect) : Failure → Kind
  | .refused message unique constraint =>
    match Store.Fault.duplicateColumn? d message unique constraint with
    | some column => .taken column
    | none => .refused
  | .timedOut => .timedOut
  | .disconnected _ => .disconnected
  | .other _ => .other

namespace Kind

open Http (Response)

/-- The response to a **failure of the service itself**. -/
def internalError : Response :=
  .json 500 (Service.Report.toJson ⟨"An internal error occurred", some "INTERNAL_ERROR", 500⟩)

/-- The response of a service that **cannot work now**. -/
def unavailable : Response :=
  .json 503
    (Service.Report.toJson ⟨"Service temporarily unavailable", some "SERVICE_UNAVAILABLE", 503⟩)

/-- The response when a value **is there already**. -/
def alreadyExists (column : String) : Response :=
  .json 409 (Service.Report.toJson ⟨"Duplicate value " ++ column, some "ALREADY_EXISTS", 409⟩)

/-- What a client **is told** of a failure. -/
def response : Kind → Response
  | .refused => internalError
  | .taken column => alreadyExists column
  | .timedOut => unavailable
  | .disconnected => unavailable
  | .other => internalError

/-- **The words of what a client is told**, and the status. The only thing in them that comes from
the failure is the column of a value that is there already. -/
theorem status_body_response (k : Kind) :
    (k.response.status, k.response.body) =
      match k with
      | .refused | .other =>
        (500, "\x7b\"error\":\"An internal error occurred\"," ++
          "\"code\":\"INTERNAL_ERROR\",\"status\":500\x7d")
      | .timedOut | .disconnected =>
        (503, "\x7b\"error\":\"Service temporarily unavailable\"," ++
          "\"code\":\"SERVICE_UNAVAILABLE\",\"status\":503\x7d")
      | .taken column =>
        (409, "\x7b\"error\":" ++ String.ofList (Json.stringChars ("Duplicate value " ++ column)) ++
          ",\"code\":\"ALREADY_EXISTS\",\"status\":409\x7d") := by
  cases k with
  | refused | other =>
    refine Prod.ext rfl (String.toList_injective ?_)
    simp only [response, internalError, Http.Response.json, Service.Report.toList_compact]
    decide
  | timedOut | disconnected =>
    refine Prod.ext rfl (String.toList_injective ?_)
    simp only [response, unavailable, Http.Response.json, Service.Report.toList_compact]
    decide
  | taken column =>
    refine Prod.ext rfl (String.toList_injective ?_)
    have hrest : ",\"code\":".toList ++ (Json.stringChars "ALREADY_EXISTS" ++
        (",\"status\":".toList ++ (Json.integerChars (UInt16.toNat 409) ++ ['\x7d']))) =
        ",\"code\":\"ALREADY_EXISTS\",\"status\":409\x7d".toList := by decide
    simp only [response, alreadyExists, Http.Response.json, Service.Report.toList_compact, hrest,
      String.toList_append, String.toList_ofList, List.append_assoc]

end Kind

variable (d : Dialect)

/-- **Nothing but its kind** is left of a failure when it has become a response. The operation that
failed is not told either. -/
theorem response_kind (op : Store.Operation) (f : Failure) :
    Http.Response.ofFault (.ofStore (.ofFailure d op f)) = (f.kind d).response := by
  cases f with
  | refused message unique constraint =>
    rw [Store.Fault.ofFailure, kind]
    rcases Store.Fault.duplicateColumn? d message unique constraint with _ | column
    · rfl
    · rfl
  | timedOut => rfl
  | disconnected message => rfl
  | other message => rfl

/-- SQLite tells in its message that a value is there already, and where. -/
theorem kind_unique (rest : String) (unique : Bool) (constraint : Option String) :
    (refused ("UNIQUE constraint failed: " ++ rest) unique constraint).kind .sqlite =
      .taken rest := by
  rw [kind, Store.Fault.duplicateColumn?, String.toList_append, Text.past?_append, Option.map_some,
    String.ofList_toList]

end Failure

/-! ### Processes that end at failures -/

namespace Store

variable {α β ε ε' : Type}

/-- A process **may come to** another, which is what is left of it when some of its statements have
been answered, in whatever way. -/
inductive Process.MayCome : Process α → Process α → Prop where
  /-- It is there. -/
  | here (p : Process α) : MayCome p p
  /-- It comes there when its first statement has been answered. -/
  | later {statement : Statement} {next : Except Failure statement.Answer → Process α}
      {q : Process α} (answer : Except Failure statement.Answer) (h : MayCome (next answer) q) :
      MayCome (.ask statement next) q

/-- A process **ends at failures**: whichever statement fails, it puts no other one, and what it
comes to is of a kind that the failure decides on. -/
inductive Process.EndsAt (R : Failure → α → Prop) : Process α → Prop where
  /-- It has ended. -/
  | done (a : α) : EndsAt R (.done a)
  /-- It ends if its statement fails, and later otherwise. -/
  | ask {statement : Statement} {next : Except Failure statement.Answer → Process α}
      (failed : ∀ f, ∃ a, next (.error f) = .done a ∧ R f a)
      (rest : ∀ a, EndsAt R (next (.ok a))) : EndsAt R (.ask statement next)

section Ends

variable {R : Failure → α → Prop} {S : Failure → β → Prop}

/-- A process that ends at failures does so wherever it may come to. -/
theorem Process.EndsAt.of_mayCome {p q : Process α} (h : p.EndsAt R) (hq : p.MayCome q) :
    q.EndsAt R := by
  induction hq with
  | here p => exact h
  | later answer _ ih =>
    cases h with
    | ask failed rest =>
      refine ih ?_
      rcases answer with f | a
      · obtain ⟨a, ha, -⟩ := failed f
        rw [ha]
        exact .done a
      · exact rest a

/-- A statement that fails is the last one. -/
theorem Process.EndsAt.exists_done {p : Process α} (h : p.EndsAt R) {statement : Statement}
    {next : Except Failure statement.Answer → Process α} (hp : p.MayCome (.ask statement next))
    (f : Failure) : ∃ a, next (.error f) = .done a ∧ R f a := by
  have hask := h.of_mayCome hp
  cases hask with
  | ask failed rest => exact failed f

/-- A process ends at failures if it goes on as one that does, but not after a failure. -/
theorem Process.EndsAt.bind {p : Process α} {g : α → Process β} (hp : p.EndsAt R)
    (hg : ∀ a, (g a).EndsAt S) (hfailed : ∀ f a, R f a → ∃ b, g a = .done b ∧ S f b) :
    (p.bind g).EndsAt S := by
  induction hp with
  | done a => exact hg a
  | @ask statement next failed rest ih =>
    refine .ask (fun f => ?_) ih
    obtain ⟨a, ha, hR⟩ := failed f
    obtain ⟨b, hb, hS⟩ := hfailed f a hR
    refine ⟨b, ?_, hS⟩
    rw [ha]
    exact hb

end Ends

/-! ### Requests -/

/-- A request **blames** a failure if it comes to an error that the failure decides on. -/
def Blames (E : Failure → ε → Prop) (f : Failure) (x : Except ε α) : Prop :=
  ∃ e, x = .error e ∧ E f e

section Requests

variable {E : Failure → ε → Prop} {E' : Failure → ε' → Prop}

/-- A request that goes on after another does not go on after a failure. -/
theorem endsAt_bind {r : ExceptT ε Process α} {g : α → ExceptT ε Process β}
    (hr : (ExceptT.run r).EndsAt (Blames E)) (hg : ∀ a, (ExceptT.run (g a)).EndsAt (Blames E)) :
    (ExceptT.run (r >>= g)).EndsAt (Blames E) := by
  refine Process.EndsAt.bind (g := ExceptT.bindCont g) hr (fun x => ?_) ?_
  · rcases x with e | a
    · exact .done _
    · exact hg a
  · rintro f x ⟨e, rfl, hE⟩
    exact ⟨.error e, rfl, e, rfl, hE⟩

/-- The errors of a request may be put in other words. -/
theorem endsAt_adapt {r : ExceptT ε Process α} {translate : ε → ε'}
    (htranslate : ∀ f e, E f e → E' f (translate e))
    (hr : (ExceptT.run r).EndsAt (Blames E)) :
    (ExceptT.run (r.adapt translate)).EndsAt (Blames E') := by
  refine Process.EndsAt.bind hr (fun x => .done _) ?_
  rintro f x ⟨e, rfl, hE⟩
  exact ⟨.error (translate e), rfl, translate e, rfl, htranslate f e hE⟩

end Requests

namespace Request

variable (d : Dialect)

/-- A fault of the store that **comes of a failure**, whatever was asked for. -/
def ComesOf (f : Failure) (e : Fault) : Prop := ∃ op, e = .ofFailure d op f

theorem endsAt_perform (op : Operation) (s : Statement) :
    (ExceptT.run (perform d op s)).EndsAt (Blames (ComesOf d)) :=
  .ask (fun f => ⟨.error (.ofFailure d op f), rfl, _, rfl, op, rfl⟩) fun _ => .done _

theorem endsAt_checkColumns (op : Operation) (names : List String) :
    (ExceptT.run (checkColumns op names)).EndsAt (Blames (ComesOf d)) := by
  rw [checkColumns]
  split
  · exact .done _
  · exact .done _

theorem endsAt_books (s : Search) (w : Window) :
    (ExceptT.run (books d s w)).EndsAt (Blames (ComesOf d)) :=
  endsAt_bind (endsAt_checkColumns d .findAll s.columns) fun _ =>
    endsAt_perform d .findAll (.books s w)

theorem endsAt_count (c : Condition) : (ExceptT.run (count d c)).EndsAt (Blames (ComesOf d)) :=
  endsAt_bind (endsAt_checkColumns d .count c.fields) fun _ =>
    endsAt_perform d .count (.count c)

theorem endsAt_create (x : Draft) : (ExceptT.run (create d x)).EndsAt (Blames (ComesOf d)) := by
  by_cases hmissing : x.missing.isEmpty = true
  · have hput : create d x = perform d .create (.insert x) := if_pos hmissing
    rw [hput]
    exact endsAt_perform d .create (.insert x)
  · have hrefused : create d x = throw _ := if_neg hmissing
    rw [hrefused]
    exact .done _

theorem endsAt_update (id : Int64) (r : Revision) :
    (ExceptT.run (update d id r)).EndsAt (Blames (ComesOf d)) := by
  refine endsAt_bind (endsAt_perform d .findById (.book id)) fun found => ?_
  rcases found with _ | b
  · exact .done _
  · exact endsAt_bind (endsAt_perform d .update (.update (r.apply b))) fun _ => .done _

end Request

end Store

/-! ### The service -/

namespace Service.Request

open Store (Blames endsAt_bind endsAt_adapt)

variable (d : Dialect)

/-- A fault of the service that **comes of a failure**, whatever was asked for. -/
def ComesOf (f : Failure) (e : Fault) : Prop := ∃ op, e = .ofStore (.ofFailure d op f)

variable {d}

theorem endsAt_ofStore {α : Type} {r : Store.Request α}
    (hr : (ExceptT.run r).EndsAt (Blames (Store.Request.ComesOf d))) :
    (ExceptT.run (ofStore r)).EndsAt (Blames (ComesOf d)) := by
  refine endsAt_adapt ?_ hr
  rintro f e ⟨op, rfl⟩
  exact ⟨op, rfl⟩

variable (d)

theorem endsAt_list (s : Search) (w : Window) :
    (ExceptT.run (list d s w)).EndsAt (Blames (ComesOf d)) := by
  refine endsAt_bind (endsAt_ofStore (Store.Request.endsAt_count d s.condition)) fun count => ?_
  exact endsAt_bind (endsAt_ofStore (Store.Request.endsAt_books d s w)) fun data => .done _

theorem endsAt_get (id : Int64) : (ExceptT.run (get d id)).EndsAt (Blames (ComesOf d)) := by
  refine endsAt_bind (endsAt_ofStore (Store.Request.endsAt_perform d .findById (.book id)))
    fun found => ?_
  rcases found with _ | b
  · exact .done _
  · exact .done _

theorem endsAt_create (x : Draft) : (ExceptT.run (create d x)).EndsAt (Blames (ComesOf d)) :=
  endsAt_bind (endsAt_ofStore (Store.Request.endsAt_create d x)) fun _ => .done _

theorem endsAt_update (id : Int64) (r : Revision) :
    (ExceptT.run (update d id r)).EndsAt (Blames (ComesOf d)) :=
  endsAt_bind (endsAt_ofStore (Store.Request.endsAt_update d id r)) fun _ => .done _

theorem endsAt_delete (id : Int64) : (ExceptT.run (delete d id)).EndsAt (Blames (ComesOf d)) := by
  refine endsAt_bind (endsAt_ofStore (Store.Request.endsAt_perform d .delete (.delete id)))
    fun gone => ?_
  split
  · exact .done _
  · exact .done _

/-- What was read before puts no statement. -/
theorem endsAt_ofExcept_bind {α β : Type} (e : Except Fault α) {g : α → Request β}
    (hg : ∀ a, (ExceptT.run (g a)).EndsAt (Blames (ComesOf d))) :
    (ExceptT.run (ofExcept e >>= g)).EndsAt (Blames (ComesOf d)) :=
  endsAt_bind (.done e) hg

end Service.Request

/-! ### Handlers -/

namespace Http

/-- What **answers** a request, by the resource and the method. -/
inductive Handles (d : Dialect) (settings : Settings) (limit : Nat) (r : Request) :
    Resource → Answer → Prop where
  /-- The state of the service. -/
  | health : Handles d settings limit r .health (.done (health settings))
  /-- The state of what the service needs. -/
  | readiness : Handles d settings limit r .readiness (readiness d settings)
  /-- A list, for a search in the query. -/
  | list : Handles d settings limit r .books (listBooks d settings r)
  /-- A list, for a search in the body. -/
  | find (hmethod : r.method = "POST") :
    Handles d settings limit r .books (findBooks d settings limit r)
  /-- A new book. -/
  | create : Handles d settings limit r .books (createBook d limit r)
  /-- A book. -/
  | get (raw : List Char) : Handles d settings limit r (.book raw) (getBook d raw)
  /-- A change of a book. -/
  | update (raw : List Char) : Handles d settings limit r (.book raw) (updateBook d limit raw r)
  /-- The end of a book. -/
  | delete (raw : List Char) : Handles d settings limit r (.book raw) (deleteBook d raw)

/-- **Nothing else answers** a request. -/
theorem handles_of_handle? {d : Dialect} {settings : Settings} {limit : Nat} {resource : Resource}
    {r : Request} {a : Answer} (h : handle? d settings limit resource r = some a) :
    Handles d settings limit r resource a := by
  cases resource with
  | health =>
    rw [handle?] at h
    split at h
    · obtain rfl := Option.some.inj h
      exact .health
    · cases h
  | readiness =>
    rw [handle?] at h
    split at h
    · obtain rfl := Option.some.inj h
      exact .readiness
    · cases h
  | books =>
    rw [handle?] at h
    split at h
    · obtain rfl := Option.some.inj h
      exact .list
    · split at h
      · obtain rfl := Option.some.inj h
        exact .find ‹_›
      · split at h
        · obtain rfl := Option.some.inj h
          exact .create
        · cases h
  | book raw =>
    rw [handle?] at h
    split at h
    · obtain rfl := Option.some.inj h
      exact .get raw
    · split at h
      · obtain rfl := Option.some.inj h
        exact .update raw
      · split at h
        · obtain rfl := Option.some.inj h
          exact .delete raw
        · cases h

/-! ### Discretion -/

section Discretion

open Service.Request

variable (d : Dialect)

/-- A response that **tells no more than the kind** of a failure. -/
def Discreet (f : Failure) (response : Response) : Prop := response = (f.kind d).response

variable {d}

/-- An answer is discreet if its request ends at failures. -/
theorem endsAt_answer {α : Type} (encode : α → Json) {r : Service.Request α}
    (hr : (ExceptT.run r).EndsAt (Store.Blames (ComesOf d))) :
    (answer encode r).EndsAt (Discreet d) := by
  refine Store.Process.EndsAt.bind hr (fun x => ?_) ?_
  · rcases x with e | a
    · exact .done _
    · exact .done _
  · rintro f x ⟨e, rfl, op, rfl⟩
    exact ⟨_, rfl, Failure.response_kind d op f⟩

section Handlers

variable (d) (settings : Settings) (limit : Nat) (raw : List Char) (r : Request)

theorem endsAt_listBooks : (listBooks d settings r).EndsAt (Discreet d) := by
  refine endsAt_answer _ (endsAt_ofExcept_bind d _ fun params => ?_)
  refine endsAt_ofExcept_bind d _ fun window => endsAt_ofExcept_bind d _ fun search => ?_
  exact endsAt_list d search window

theorem endsAt_findBooks : (findBooks d settings limit r).EndsAt (Discreet d) := by
  by_cases hlong : limit < r.body.length
  · rw [findBooks, if_pos hlong]
    exact .done _
  · rw [findBooks, if_neg hlong]
    refine endsAt_answer _ (endsAt_ofExcept_bind d _ fun params => ?_)
    refine endsAt_ofExcept_bind d _ fun window => endsAt_ofExcept_bind d _ fun search => ?_
    exact endsAt_list d search window

theorem endsAt_createBook : (createBook d limit r).EndsAt (Discreet d) :=
  endsAt_answer _ (endsAt_ofExcept_bind d _ fun draft => endsAt_create d draft)

theorem endsAt_getBook : (getBook d raw).EndsAt (Discreet d) :=
  endsAt_answer _ (endsAt_ofExcept_bind d _ fun id => endsAt_get d id)

theorem endsAt_updateBook : (updateBook d limit raw r).EndsAt (Discreet d) := by
  refine endsAt_answer _ (endsAt_ofExcept_bind d _ fun id => ?_)
  exact endsAt_ofExcept_bind d _ fun revision => endsAt_update d id revision

theorem endsAt_deleteBook : (deleteBook d raw).EndsAt (Discreet d) :=
  endsAt_answer _ (endsAt_ofExcept_bind d _ fun id => endsAt_delete d id)

end Handlers

/-- **Whatever answers is discreet**, but for what tells of the state of the database. -/
theorem Handles.endsAt {settings : Settings} {limit : Nat} {resource : Resource} {r : Request}
    {a : Answer} (h : Handles d settings limit r resource a) (hresource : resource ≠ .readiness) :
    a.EndsAt (Discreet d) := by
  cases h with
  | health => exact .done _
  | readiness => exact absurd rfl hresource
  | list => exact endsAt_listBooks d settings r
  | find hmethod => exact endsAt_findBooks d settings limit r
  | create => exact endsAt_createBook d limit r
  | get raw => exact endsAt_getBook d raw
  | update raw => exact endsAt_updateBook d limit raw r
  | delete raw => exact endsAt_deleteBook d raw

end Discretion

/-- **Failures look alike.** Whichever statement of a request about books fails, whatever was
answered to those before, the client is told of the kind of the failure and of nothing else: two
failures of a kind get the same response. If a value is there already, then the kind has a column,
which SQLite takes from the text behind the first words of its message. -/
theorem failures_look_alike {d : Dialect} {settings : Settings} {limit : Nat}
    {resource : Resource} {r : Request} {a : Answer} {statement : Store.Statement}
    {next : Except Failure statement.Answer → Answer}
    (hresource : resource ≠ .readiness) (ha : handle? d settings limit resource r = some a)
    (h : a.MayCome (.ask statement next)) :
    (∀ f, next (.error f) = .done (f.kind d).response) ∧
    (∀ f g, f.kind d = g.kind d → next (.error f) = next (.error g)) ∧
    (d = .sqlite → ∀ rest unique constraint,
      next (.error (.refused ("UNIQUE constraint failed: " ++ rest) unique constraint)) =
        .done (Failure.Kind.alreadyExists rest)) := by
  have htold : ∀ f, next (.error f) = .done (f.kind d).response := by
    intro f
    have hends := (handles_of_handle? ha).endsAt hresource
    obtain ⟨response, hdone, hdiscreet⟩ := hends.exists_done h f
    rw [hdone, hdiscreet]
  refine ⟨htold, fun f g hkind => ?_, ?_⟩
  · rw [htold f, htold g, hkind]
  · rintro rfl rest unique constraint
    rw [htold, Failure.kind_unique, Failure.Kind.response]

/-- A request for all books. -/
def askingForAll : Request := ⟨"GET", "/books", [], []⟩

/-- The books were counted, and then the database is gone. -/
theorem failures_look_alike_fetching :
    ∃ a next, handle? .sqlite Settings.default bodyLimit .books askingForAll = some a ∧
      a.MayCome (.ask (.books .everything ⟨0, 1000⟩) next) ∧
      next (.error (.disconnected "connection reset by 10.0.0.7")) =
        .done Failure.Kind.unavailable := by
  have hcome : (listBooks .sqlite Settings.default askingForAll).MayCome
      (.ask (.books .everything ⟨0, 1000⟩) _) :=
    @Store.Process.MayCome.later _ (.count .empty) _ _ (.ok (3 : Nat)) (.here _)
  have hhandle : handle? .sqlite Settings.default bodyLimit .books askingForAll =
      some (listBooks .sqlite Settings.default askingForAll) := rfl
  have hresource : Resource.books ≠ .readiness := nofun
  refine ⟨_, _, hhandle, hcome, ?_⟩
  exact (failures_look_alike hresource hhandle hcome).1
    (.disconnected "connection reset by 10.0.0.7")

end Http

end Catalogue
