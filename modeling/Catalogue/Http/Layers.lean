import Catalogue.Http.Routes

/-!
# What stands around the service

`Catalogue.Http.respondWithin` is the service with everything around it that can be switched on:
a limit to the size of bodies, compression, permissions for other sites, and an identifier that
every response carries. A request meets them in this order from outside, so that a body that is
announced as too long is refused before anything else, and a response from the inside is given its
permissions first and compressed then.
-/

namespace Catalogue

namespace Http

/-! ### Sizes of bodies -/

/-- The **greatest size of a body**, in bytes; the product is kept in 64 bits. -/
def Middleware.bodyLimit (m : Settings.Middleware) : UInt64 := m.bodyLimit * 1024 * 1024

/-- The size of the body that a request announces. -/
def Request.announced? (r : Request) : Option Nat :=
  ((r.text? "content-length").bind Numeral.nat?).filter (· < UInt64.size)

/-- How much of a body is read: none of it if too much is announced. -/
def readable? (limit : Nat) (r : Request) : Option Nat :=
  match r.announced? with
  | none => some (min limit bodyLimit)
  | some n => if limit < n then none else some (min n bodyLimit)

/-- The response to a body that is announced as too long. -/
def tooLong : Response := .plain 413 "length limit exceeded"

/-! ### Compression -/

/-- The **weight** of a coding in thousandths, from what follows its name. -/
def weight? (s : String) : Option Nat :=
  match s.toList with
  | q :: '=' :: d :: rest =>
    if (q = 'q' ∨ q = 'Q') ∧ (d = '0' ∨ d = '1') then
      let whole := if d = '1' then 1000 else 0
      match rest with
      | [] => some whole
      | '.' :: ds =>
        let n := whole + Numeral.value 0 (ds ++ List.replicate (3 - ds.length) '0')
        if ds.length ≤ 3 ∧ ds.all Numeral.isDigit ∧ n ≤ 1000 then some n else none
      | _ => none
    else none
  | _ => none

/-- A **coding** that a client can be sent. -/
inductive Coding where
  /-- The content as it is. -/
  | identity
  /-- The content compressed. -/
  | gzip
  deriving DecidableEq

/-- The coding of a name. -/
def Coding.ofName? (s : String) : Option Coding :=
  let name := lowered s
  if name = "gzip" ∨ name = "x-gzip" then some .gzip
  else if name = "identity" then some .identity
  else none

/-- A coding that a client accepts, and its weight. -/
def accepted? (part : List Char) : Option (Coding × Nat) :=
  let (name, weight) := match Text.cut? ';' part with
    | some (name, w) => (name, weight? (Text.trim (String.ofList w)))
    | none => (part, some 1000)
  match Coding.ofName? (Text.trim (String.ofList name)), weight with
  | some c, some w => if w = 0 then none else some (c, w)
  | _, _ => none

/-- The greatest weight of a coding; zero if it is not accepted. -/
def weightOf (c : Coding) (accepted : List (Coding × Nat)) : Nat :=
  (accepted.filter (·.1 = c)).foldl (fun most a => max most a.2) 0

/-- A client **prefers its content compressed**: it accepts that, and gives no more weight to the
content as it is. -/
def prefersGzip (r : Request) : Bool :=
  let texts := (r.headerValues "accept-encoding").filter fun s => s.toList.all isVisible
  let accepted := texts.flatMap fun s => (Text.split ',' s.toList).filterMap accepted?
  let weight := weightOf .gzip accepted
  0 < weight && weightOf .identity accepted ≤ weight

/-- The least size of a content that is compressed. -/
def leastCompressed : Nat := 32

/-- The response, compressed if the client prefers that and there is enough of it. -/
def compress (m : Settings.Middleware) (r : Request) (response : Response) : Response :=
  if m.compression ∧ prefersGzip r ∧ leastCompressed ≤ response.body.utf8ByteSize then
    response.withHeaders [("content-encoding", "gzip")]
  else response

/-! ### Permissions for other sites -/

/-- What **other sites** may do. -/
inductive Permission where
  /-- Everything. -/
  | permissive
  /-- Nothing. -/
  | restrictive
  /-- They are not told. -/
  | disabled
  deriving DecidableEq

/-- The permission of a name; every unknown name permits everything. -/
def Permission.ofName (s : String) : Permission :=
  if s = "restrictive" then .restrictive else if s = "disabled" then .disabled else .permissive

/-- What other sites are told in a response. -/
def Permission.headers : Permission → List (String × String)
  | .permissive =>
    [("access-control-allow-origin", "*"), ("access-control-expose-headers", "*")]
  | _ => []

/-- What other sites are told when they ask beforehand. -/
def Permission.preflight : Permission → List (String × String)
  | .permissive =>
    [("access-control-allow-origin", "*"), ("access-control-allow-methods", "*"),
      ("access-control-allow-headers", "*")]
  | _ => []

/-- An answer **with permissions**. Who asks beforehand gets no further. -/
def permit (m : Settings.Middleware) (r : Request) (a : Answer) : Answer :=
  let permission := Permission.ofName m.corsMode
  if r.method = "OPTIONS" ∧ permission ≠ .disabled then
    .done ((Response.empty 200).withHeaders permission.preflight)
  else a.bind fun response => .done (response.withHeaders permission.headers)

/-! ### Identifiers -/

/-- The identifier of a request that brought none. -/
def generatedId : String := "<generated>"

/-- The **identifier** that the response to a request carries. -/
def identity (r : Request) : List (String × String) :=
  [("x-request-id", (r.header? "x-request-id").getD generatedId)]

/-! ### Everything -/

/-- The **service with everything around it**. -/
def respondWithin (d : Dialect) (settings : Settings) (r : Request) : Answer :=
  let m := settings.middleware
  match readable? (Middleware.bodyLimit m).toNat r with
  | none =>
    let (_, extra) := endpoint d settings bodyLimit r
    .done (finish r extra (tooLong.withHeaders (identity r)))
  | some limit =>
    let (a, extra) := endpoint d settings limit r
    (permit m r a).bind fun response =>
      .done (finish r extra ((compress m r response).withHeaders (identity r)))

end Http

end Catalogue
