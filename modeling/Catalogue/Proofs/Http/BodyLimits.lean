import Catalogue.Http.Layers
import Catalogue.Proofs.Http.Reports

/-!
# How long a body may be

A client may send a search in a body, and the settings say in megabytes how long a body may be. That
limit is not the only one: whatever the settings say, no more than `Catalogue.Http.bodyLimit` is
ever read. The lesser of the two decides (`Catalogue.Http.lesser_limit_decides`), so that the
settings have their way up to two megabytes and no further. Besides, the limit of the settings is
counted in bytes in a word of 64 bits, and goes around.

A body may be refused in two places: where its length is announced, before anything else is looked
at, and where it is read. Both tell the client the same status.
-/

namespace Catalogue

namespace Http

/-! ### Limits -/

/-- The limit that the settings **ask for**, in bytes. -/
def Middleware.askedLimit (m : Settings.Middleware) : Nat := m.bodyLimit.toNat * 1048576

/-- The limit **in force**, in bytes: what is left of the one asked for, unless it is more than is
ever read. -/
def Middleware.limitInForce (m : Settings.Middleware) : Nat :=
  min (askedLimit m % UInt64.size) Http.bodyLimit

/-- The limit that the settings ask for goes around. -/
theorem Middleware.toNat_bodyLimit (m : Settings.Middleware) :
    (bodyLimit m).toNat = askedLimit m % UInt64.size := by
  rw [bodyLimit, UInt64.toNat_mul, UInt64.toNat_mul, Nat.mod_mul_mod, askedLimit, Nat.mul_assoc]
  rfl

/-- **The settings have their way up to two megabytes** and no further. -/
theorem Middleware.limitInForce_eq_iff (m : Settings.Middleware) :
    limitInForce m = askedLimit m ↔ m.bodyLimit ≤ 2 := by
  have hword : m.bodyLimit ≤ 2 ↔ m.bodyLimit.toNat ≤ 2 := UInt64.le_iff_toNat_le
  have hsize : UInt64.size = 18446744073709551616 := rfl
  have hmost : Http.bodyLimit = 2097152 := rfl
  rw [hword, limitInForce, askedLimit, hsize, hmost]
  omega

/-! ### Searches in bodies -/

/-- A request **brings a search** in a body of a length: that is how long its body is, and it
announces no other length. -/
structure Request.Brings (r : Request) (n : Nat) : Prop where
  /-- Its method is the one for searches. -/
  method : r.method = "POST"
  /-- Its path leads to the books. -/
  path : r.path = "/books".toList
  /-- Its body has the length. -/
  length : r.body.length = n
  /-- If a length is announced, it is this one. -/
  announced : ∀ m, r.announced? = some m → m = n

variable {d : Dialect} {settings : Settings} {r : Request} {n : Nat}

/-- Nothing of a body is read only if it is **too long**. -/
theorem Request.Brings.lt_of_readable? (h : r.Brings n) {limit : Nat}
    (hnone : readable? limit r = none) : limit < n := by
  rw [readable?] at hnone
  cases hannounced : r.announced? with
  | none =>
    rw [hannounced] at hnone
    cases hnone
  | some m =>
    obtain rfl := h.announced m hannounced
    rw [hannounced] at hnone
    refine Nat.lt_of_not_le fun hle => ?_
    simp only [if_neg (Nat.not_lt.mpr hle), reduceCtorEq] at hnone

/-- A body is longer than what is read of it if it is longer **than the lesser of the two
limits**. -/
theorem Request.Brings.readable?_lt_iff (h : r.Brings n) {limit k : Nat}
    (hsome : readable? limit r = some k) : k < n ↔ min limit bodyLimit < n := by
  rw [readable?] at hsome
  cases hannounced : r.announced? with
  | none =>
    rw [hannounced] at hsome
    obtain rfl := Option.some.inj hsome
    rfl
  | some m =>
    obtain rfl := h.announced m hannounced
    rw [hannounced] at hsome
    by_cases hlt : limit < m
    · simp only [if_pos hlt, reduceCtorEq] at hsome
    · simp only [if_neg hlt, Option.some.injEq] at hsome
      omega

/-- A search in a body is answered by **what finds books**. -/
theorem Request.Brings.endpoint_eq (h : r.Brings n) (limit : Nat) :
    endpoint d settings limit r = (findBooks d settings limit r, []) := by
  have hbooks : Resource.ofPath? "/books".toList = some .books := by decide
  have hreads : ¬(("POST" : String) = "GET" ∨ ("POST" : String) = "HEAD") := by decide
  rw [endpoint, h.path, hbooks]
  simp only [handle?, h.method, if_neg hreads, if_true]

/-! ### Answers -/

/-- The last touch leaves the status alone. -/
@[simp] theorem finish_status (r : Request) (extra : List (String × String)) (response : Response) :
    (finish r extra response).status = response.status := by
  rw [finish]
  split
  · rfl
  · rfl

/-- So does compression. -/
@[simp] theorem compress_status (m : Settings.Middleware) (r : Request) (response : Response) :
    (compress m r response).status = response.status := by
  rw [compress]
  split
  · rfl
  · rfl

@[simp] theorem withHeaders_status (response : Response) (headers : List (String × String)) :
    (response.withHeaders headers).status = response.status := rfl

/-- A body that **announces too much** is answered at once. -/
theorem Request.Brings.respondWithin_of_none (h : r.Brings n)
    (hnone : readable? (Middleware.bodyLimit settings.middleware).toNat r = none) :
    respondWithin d settings r = .done (finish r [] (tooLong.withHeaders (identity r))) := by
  simp only [respondWithin, hnone, h.endpoint_eq]

/-- A body that is read is answered by what finds books, with the touches of **what stands
around**. -/
theorem Request.Brings.respondWithin_of_some (h : r.Brings n) {k : Nat}
    (hsome : readable? (Middleware.bodyLimit settings.middleware).toNat r = some k) :
    respondWithin d settings r =
      ((findBooks d settings k r).bind fun response =>
        .done (response.withHeaders (Permission.ofName settings.middleware.corsMode).headers)).bind
          fun response => .done (finish r []
            ((compress settings.middleware r response).withHeaders (identity r))) := by
  have hother : r.method ≠ "OPTIONS" := by
    rw [h.method]
    decide
  simp only [respondWithin, hsome, h.endpoint_eq, permit, hother, false_and, if_false]

/-- A body that is longer than the limit in force is **refused at once**. -/
theorem Request.Brings.refused (h : r.Brings n)
    (hlt : Middleware.limitInForce settings.middleware < n) :
    ∃ response, respondWithin d settings r = .done response ∧ response.status = 413 := by
  cases hread : readable? (Middleware.bodyLimit settings.middleware).toNat r with
  | none => exact ⟨_, h.respondWithin_of_none hread, by rw [finish_status]; rfl⟩
  | some k =>
    have hk : k < r.body.length := by
      rw [h.length, h.readable?_lt_iff hread, Middleware.toNat_bodyLimit]
      exact hlt
    have hfind : findBooks d settings k r = .done (.plain 413 bodyTooLong) := if_pos hk
    rw [h.respondWithin_of_some hread, hfind]
    exact ⟨_, rfl, by simp only [finish_status, withHeaders_status, compress_status]; rfl⟩

/-- No kind of trouble is reported by the status for bodies that are too long. -/
theorem trouble_status_ne (t : Service.Trouble) : t.status ≠ 413 := by
  cases t <;> decide

/-- **The answer of a request** is not that a body is too long. -/
theorem comesTo_answer_status {α : Type} (encode : α → Json) (request : Service.Request α) :
    (answer encode request).ComesTo fun response => response.status ≠ 413 := by
  refine (Store.Process.keepsTo_true _).bind fun x _ => ?_
  rcases x with f | a
  · exact .done (trouble_status_ne f.trouble)
  · have hsuccess : (200 : UInt16) ≠ 413 := by decide
    exact .done hsuccess

/-- A body that is no longer than the limit in force is **not refused for its length**, whatever the
database says to the statements put. -/
theorem Request.Brings.accepted (h : r.Brings n)
    (hle : n ≤ Middleware.limitInForce settings.middleware) :
    (respondWithin d settings r).ComesTo fun response => response.status ≠ 413 := by
  rw [Middleware.limitInForce, ← Middleware.toNat_bodyLimit] at hle
  cases hread : readable? (Middleware.bodyLimit settings.middleware).toNat r with
  | none =>
    have hlt := h.lt_of_readable? hread
    omega
  | some k =>
    have hk : ¬k < r.body.length := by
      rw [h.length, h.readable?_lt_iff hread]
      exact Nat.not_lt.mpr hle
    have hfind : (findBooks d settings k r).ComesTo fun response => response.status ≠ 413 := by
      rw [findBooks, if_neg hk]
      exact comesTo_answer_status _ _
    rw [h.respondWithin_of_some hread]
    refine (hfind.bind (Q := fun response => response.status ≠ 413) fun response hne =>
      .done hne).bind fun response hne => .done ?_
    rwa [finish_status, withHeaders_status, compress_status]

/-- **The lesser limit decides.** A search that is brought in a body is refused for its length, and
that at once, if the body is longer than the limit in force. Otherwise it is not, whatever the
database says to the statements put. The limit in force is the one that the settings ask for if they
ask for two megabytes at most. -/
theorem lesser_limit_decides (h : r.Brings n) :
    (Middleware.limitInForce settings.middleware < n →
      ∃ response, respondWithin d settings r = .done response ∧ response.status = 413) ∧
    (n ≤ Middleware.limitInForce settings.middleware →
      (respondWithin d settings r).ComesTo fun response => response.status ≠ 413) ∧
    (Middleware.limitInForce settings.middleware = Middleware.askedLimit settings.middleware ↔
      settings.middleware.bodyLimit ≤ 2) :=
  ⟨h.refused, h.accepted, Middleware.limitInForce_eq_iff settings.middleware⟩

/-- A search that is so many spaces. -/
def spaces (n : Nat) : Request := ⟨"POST", "/books", [], List.replicate n 0x20⟩

theorem spaces_brings (n : Nat) : (spaces n).Brings n where
  method := rfl
  path := by
    have hpath : Request.path ⟨"POST", "/books", [], []⟩ = "/books".toList := by decide
    exact hpath
  length := List.length_replicate
  announced := nofun

/-- A search of five spaces. -/
theorem lesser_limit_decides_five :
    (spaces 5).Brings 5 ∧ Middleware.limitInForce Settings.default.middleware = 2097152 ∧
      (respondWithin .sqlite Settings.default (spaces 5)).ComesTo
        fun response => response.status ≠ 413 := by
  have hlimit : Middleware.limitInForce Settings.default.middleware = 2097152 := by decide
  refine ⟨spaces_brings 5, hlimit, (lesser_limit_decides (spaces_brings 5)).2.1 ?_⟩
  rw [hlimit]
  decide

/-- **The settings do not have their way**: where nothing is set they ask for ten megabytes, and a
body of a byte more than two is refused. -/
theorem short_body_is_refused :
    Settings.default.middleware.bodyLimit = 10 ∧ (spaces 2097153).Brings 2097153 ∧
      2097153 ≤ 10 * 1048576 ∧
      ∃ response, respondWithin .sqlite Settings.default (spaces 2097153) = .done response ∧
        response.status = 413 := by
  refine ⟨rfl, spaces_brings 2097153, by decide, (spaces_brings 2097153).refused ?_⟩
  have hlimit : Middleware.limitInForce Settings.default.middleware = 2097152 := by decide
  rw [hlimit]
  decide

end Http

end Catalogue
