import Catalogue.Settings.Members
import Mathlib.Data.List.Basic
import Mathlib.Tactic.SplitIfs

/-!
# What becomes of a section that is read

A section is read from a tree by the names of its settings or by their positions, and what is read
for a setting is what stands in the tree for it (`Catalogue.Settings.Section.lookup_readMembers`,
`Catalogue.Settings.Section.lookup_readItems`). When all settings are put together from their
sections, each has the value that was read for it, or else the one that holds where nothing is set
(`Catalogue.Settings.value?_of_ofTree?`).
-/

namespace Catalogue

namespace Settings

/-! ### Results -/

section Results

variable {ε α β : Type} {x : Except ε α}

/-- What comes of two steps came of both. -/
theorem exists_of_bind_eq_ok {f : α → Except ε β} {b : β} (h : x >>= f = .ok b) :
    ∃ a, x = .ok a ∧ f a = .ok b := by
  cases x with
  | error e => cases h
  | ok a => exact ⟨a, rfl, h⟩

theorem exists_of_map_eq_ok {f : α → β} {b : β} (h : x.map f = .ok b) :
    ∃ a, x = .ok a ∧ f a = b := by
  cases x with
  | error e => cases h
  | ok a => exact ⟨a, rfl, Except.ok.inj h⟩

/-- A fault that is reported in another way is a fault still. -/
theorem eq_ok_of_mapError {ε' : Type} {f : ε → ε'} {a : α} (h : x.mapError f = .ok a) :
    x = .ok a := by
  cases x with
  | error e => cases h
  | ok b => exact congrArg _ (Except.ok.inj h)

end Results

/-! ### Reading a section -/

namespace Section

variable {key : String} {kind : Kind} {plains : List (String × Plain)}

/-- A member is passed over, or **read and put first**. -/
theorem readMembers_cons_eq_ok {sh : Section} {name : String} {t : Tree}
    {members : List (String × Tree)} (h : sh.readMembers ((name, t) :: members) = .ok plains) :
    sh.fields.lookup name = none ∧ sh.readMembers members = .ok plains ∨
      ∃ k v rest, sh.fields.lookup name = some k ∧ k.read t = .ok v ∧
        sh.readMembers members = .ok rest ∧ plains = (name, v) :: rest := by
  rw [readMembers] at h
  split at h
  · rename_i hname
    exact .inl ⟨hname, h⟩
  · rename_i k hname
    split at h
    · cases h
    · rename_i v hread
      obtain ⟨rest, hrest, rfl⟩ := exists_of_map_eq_ok h
      exact .inr ⟨k, v, rest, hname, hread, hrest, rfl⟩

/-- An item is **read and put first**. -/
theorem readItems_cons_eq_ok {name : String} {k : Kind} {fields : List (String × Kind)} {j : Nat}
    {t : Tree} {items : List Tree}
    (h : readItems j ((name, k) :: fields) (t :: items) = .ok plains) :
    ∃ v rest, k.read t = .ok v ∧ readItems (j + 1) fields items = .ok rest ∧
      plains = (name, v) :: rest := by
  rw [readItems] at h
  split at h
  · cases h
  · rename_i v hread
    obtain ⟨rest, hrest, rfl⟩ := exists_of_map_eq_ok h
    exact ⟨v, rest, hread, hrest, rfl⟩

/-- What is **read by name** is what stands for the name. -/
theorem lookup_readMembers {sh : Section} (hkey : sh.fields.lookup key = some kind)
    {members : List (String × Tree)} (h : sh.readMembers members = .ok plains) :
    Option.Rel (fun t v => kind.read t = .ok v) (members.lookup key) (plains.lookup key) := by
  induction members generalizing plains with
  | nil =>
    obtain rfl := Except.ok.inj h
    exact .none
  | cons m members ih =>
    obtain ⟨name, t⟩ := m
    rw [Tree.lookup_member]
    obtain ⟨hname, hrest⟩ | ⟨k, v, rest, hname, hread, hrest, rfl⟩ := readMembers_cons_eq_ok h
    · have hne : key ≠ name := by
        rintro rfl
        rw [hkey] at hname
        cases hname
      rw [if_neg hne]
      exact ih hrest
    · rw [Tree.lookup_member]
      by_cases heq : key = name
      · subst heq
        obtain rfl := Option.some.inj (hkey.symm.trans hname)
        rw [if_pos rfl, if_pos rfl]
        exact .some hread
      · rw [if_neg heq, if_neg heq]
        exact ih hrest

/-- What is **read by position** is what stands there. -/
theorem lookup_readItems {fields : List (String × Kind)} (hnames : (fields.map (·.1)).Nodup)
    {i : Nat} (hfield : fields[i]? = some (key, kind)) {j : Nat} {items : List Tree}
    (h : readItems j fields items = .ok plains) :
    Option.Rel (fun t v => kind.read t = .ok v) items[i]? (plains.lookup key) := by
  induction fields generalizing i j items plains with
  | nil => cases hfield
  | cons field fields ih =>
    obtain ⟨name, k⟩ := field
    rw [List.map_cons, List.nodup_cons] at hnames
    cases items with
    | nil =>
      obtain rfl := Except.ok.inj h
      exact .none
    | cons t items =>
      obtain ⟨v, rest, hread, hrest, rfl⟩ := readItems_cons_eq_ok h
      rw [Tree.lookup_member]
      cases i with
      | zero =>
        obtain ⟨rfl, rfl⟩ := Prod.mk.inj (Option.some.inj hfield)
        rw [if_pos rfl]
        exact .some hread
      | succ i =>
        have hne : key ≠ name := fun heq => hnames.1 <|
          List.mem_map.mpr ⟨_, List.mem_of_getElem? hfield, heq⟩
        rw [if_neg hne]
        exact ih hnames.2 hfield hrest

/-- A field has the kind that stands for its name. -/
theorem lookup_of_getElem? {fields : List (String × Kind)} (hnames : (fields.map (·.1)).Nodup)
    {i : Nat} (hfield : fields[i]? = some (key, kind)) : fields.lookup key = some kind := by
  induction fields generalizing i with
  | nil => cases hfield
  | cons field fields ih =>
    rw [List.map_cons, List.nodup_cons] at hnames
    rw [Tree.lookup_member]
    cases i with
    | zero =>
      obtain rfl := Option.some.inj hfield
      exact if_pos rfl
    | succ i =>
      have hne : key ≠ field.1 := fun heq => hnames.1 <|
        List.mem_map.mpr ⟨_, List.mem_of_getElem? hfield, heq⟩
      rw [if_neg hne]
      exact ih hnames.2 hfield

end Section

/-! ### Kinds -/

namespace Kind

variable {kind : Kind} {t : Tree} {v : Plain} {size n : Nat}

/-- A number below the size of a word is read as it is. -/
theorem read_number (h : n < size) (name : String) :
    (word size name).read (.unsigned n) = .ok (.number n) := by
  have hn : (0 : Int) ≤ n ∧ (n : Int) < size := ⟨Int.natCast_nonneg n, Int.ofNat_lt.mpr h⟩
  rw [read, bounded, if_pos hn, Int.toNat_natCast]

theorem read_of_bounded {name : String} {m : Int} {found : Tree}
    (h : (word size name).bounded size m found = .ok v) :
    (word size name).read v.tree = .ok v := by
  rw [bounded] at h
  split_ifs at h with hm
  obtain rfl := Except.ok.inj h
  exact read_number (by omega) name

/-- What was read of a kind is **of that kind**. -/
theorem read_tree (h : kind.read t = .ok v) : kind.read v.tree = .ok v := by
  cases kind with
  | text =>
    cases t with
    | text s =>
      obtain rfl := Except.ok.inj h
      rfl
    | _ => cases h
  | boolean =>
    cases t with
    | boolean b =>
      obtain rfl := Except.ok.inj h
      rfl
    | _ => cases h
  | word size name =>
    cases t with
    | signed m => exact read_of_bounded h
    | unsigned m => exact read_of_bounded h
    | _ => cases h

end Kind

/-! ### Looking settings up -/

section Lookup

variable {plains : List (String × Plain)} {key : String}

/-- A text is what was read, or what holds otherwise. -/
theorem some_textOr (h : ∀ v, plains.lookup key = some v → Kind.text.read v.tree = .ok v)
    (otherwise : String) :
    some (.text (textOr plains key otherwise)) =
      (plains.lookup key).or (some (.text otherwise)) := by
  rw [textOr]
  cases hkey : plains.lookup key with
  | none => rfl
  | some v =>
    have hv := h v hkey
    cases v with
    | text s => rfl
    | _ => cases hv

theorem some_booleanOr (h : ∀ v, plains.lookup key = some v → Kind.boolean.read v.tree = .ok v)
    (otherwise : Bool) :
    some (.boolean (booleanOr plains key otherwise)) =
      (plains.lookup key).or (some (.boolean otherwise)) := by
  rw [booleanOr]
  cases hkey : plains.lookup key with
  | none => rfl
  | some v =>
    have hv := h v hkey
    cases v with
    | boolean b => rfl
    | _ => cases hv

/-- A number is what was read, or what holds otherwise, and **fits its word** if that does. -/
theorem some_numberOr {size : Nat} {name : String}
    (h : ∀ v, plains.lookup key = some v → (Kind.word size name).read v.tree = .ok v)
    {otherwise : Nat} (hsize : otherwise < size) :
    some (.number (numberOr plains key otherwise)) =
      (plains.lookup key).or (some (.number otherwise)) ∧ numberOr plains key otherwise < size := by
  rw [numberOr]
  cases hkey : plains.lookup key with
  | none => exact ⟨rfl, hsize⟩
  | some v =>
    have hv := h v hkey
    cases v with
    | number n =>
      refine ⟨rfl, ?_⟩
      rw [Plain.tree, Kind.read, Kind.bounded] at hv
      split_ifs at hv with hn
      exact Int.ofNat_lt.mp hn.2
    | _ => cases hv

variable {name : String}

theorem some_word16
    (h : ∀ v, plains.lookup key = some v → (Kind.word UInt16.size name).read v.tree = .ok v)
    (otherwise : UInt16) :
    some (.number (UInt16.ofNat (numberOr plains key otherwise.toNat)).toNat) =
      (plains.lookup key).or (some (.number otherwise.toNat)) := by
  obtain ⟨hvalue, hlt⟩ := some_numberOr h otherwise.toNat_lt
  rw [UInt16.toNat_ofNat_of_lt' hlt, hvalue]

theorem some_word32
    (h : ∀ v, plains.lookup key = some v → (Kind.word UInt32.size name).read v.tree = .ok v)
    (otherwise : UInt32) :
    some (.number (UInt32.ofNat (numberOr plains key otherwise.toNat)).toNat) =
      (plains.lookup key).or (some (.number otherwise.toNat)) := by
  obtain ⟨hvalue, hlt⟩ := some_numberOr h otherwise.toNat_lt
  rw [UInt32.toNat_ofNat_of_lt' hlt, hvalue]

theorem some_word64
    (h : ∀ v, plains.lookup key = some v → (Kind.word UInt64.size name).read v.tree = .ok v)
    (otherwise : UInt64) :
    some (.number (UInt64.ofNat (numberOr plains key otherwise.toNat)).toNat) =
      (plains.lookup key).or (some (.number otherwise.toNat)) := by
  obtain ⟨hvalue, hlt⟩ := some_numberOr h otherwise.toNat_lt
  rw [UInt64.toNat_ofNat_of_lt' hlt, hvalue]

end Lookup

/-! ### The four sections -/

section Sections

variable {plains : List (String × Plain)} {key : String} {kind : Kind}

/-- **A setting of the service** is what was read for it, or what holds otherwise. -/
theorem Service.lookup_ofMembers (hkey : (key, kind) ∈ shape.fields)
    (h : ∀ v, plains.lookup key = some v → kind.read v.tree = .ok v) (otherwise : Service) :
    (ofMembers otherwise plains).members.lookup key =
      (plains.lookup key).or (otherwise.members.lookup key) := by
  simp only [shape, List.mem_cons, Prod.mk.injEq, List.not_mem_nil, or_false] at hkey
  obtain ⟨rfl, rfl⟩ | ⟨rfl, rfl⟩ | ⟨rfl, rfl⟩ | ⟨rfl, rfl⟩ | ⟨rfl, rfl⟩ := hkey
  · exact some_textOr h otherwise.name
  · exact some_word16 h otherwise.port
  · exact some_textOr h otherwise.logLevel
  · exact some_word64 h otherwise.timeout
  · exact some_textOr h otherwise.environment

/-- **A setting of the database** is what was read for it, or what holds otherwise. -/
theorem Database.lookup_ofMembers (hkey : (key, kind) ∈ shape.fields)
    (h : ∀ v, plains.lookup key = some v → kind.read v.tree = .ok v) (otherwise : Database) :
    (ofMembers otherwise plains).members.lookup key =
      (plains.lookup key).or (otherwise.members.lookup key) := by
  simp only [shape, List.mem_cons, Prod.mk.injEq, List.not_mem_nil, or_false] at hkey
  obtain ⟨rfl, rfl⟩ | ⟨rfl, rfl⟩ | ⟨rfl, rfl⟩ | ⟨rfl, rfl⟩ | ⟨rfl, rfl⟩ | ⟨rfl, rfl⟩ | ⟨rfl, rfl⟩ :=
    hkey
  · exact some_textOr h otherwise.address
  · exact some_word32 h otherwise.maxConnections
  · exact some_word32 h otherwise.minConnections
  · exact some_word64 h otherwise.connectionTimeout
  · exact some_word32 h otherwise.maxRetries
  · exact some_word64 h otherwise.retryDelay
  · exact some_booleanOr h otherwise.autoMigrate

/-- **A setting of searches** is what was read for it, or what holds otherwise. -/
theorem lookup_ofMembers_limits (hkey : (key, kind) ∈ Service.Limits.shape.fields)
    (h : ∀ v, plains.lookup key = some v → kind.read v.tree = .ok v) (otherwise : Service.Limits) :
    (Service.Limits.ofMembers otherwise plains).members.lookup key =
      (plains.lookup key).or (otherwise.members.lookup key) := by
  simp only [Service.Limits.shape, List.mem_cons, Prod.mk.injEq, List.not_mem_nil, or_false] at hkey
  obtain ⟨rfl, rfl⟩ | ⟨rfl, rfl⟩ := hkey
  · exact some_word64 h otherwise.standard
  · exact some_word64 h otherwise.most

/-- **A setting of what stands around the service** is what was read for it, or what holds
otherwise. -/
theorem Middleware.lookup_ofMembers (hkey : (key, kind) ∈ shape.fields)
    (h : ∀ v, plains.lookup key = some v → kind.read v.tree = .ok v) (otherwise : Middleware) :
    (ofMembers otherwise plains).members.lookup key =
      (plains.lookup key).or (otherwise.members.lookup key) := by
  simp only [shape, List.mem_cons, Prod.mk.injEq, List.not_mem_nil, or_false] at hkey
  obtain ⟨rfl, rfl⟩ | ⟨rfl, rfl⟩ | ⟨rfl, rfl⟩ | ⟨rfl, rfl⟩ := hkey
  · exact some_word64 h otherwise.bodyLimit
  · exact some_booleanOr h otherwise.catchPanic
  · exact some_booleanOr h otherwise.compression
  · exact some_textOr h otherwise.corsMode

end Sections

/-! ### All settings -/

/-- The **sections** by their names. -/
def shapes : List (String × Section) :=
  [("database", Database.shape), ("middleware", Middleware.shape),
    ("query", Service.Limits.shape), ("service", Service.shape)]

/-- The **value** of a setting of a section. -/
def value? (settings : Settings) (s key : String) : Option Plain :=
  (settings.sections.lookup s).bind (·.lookup key)

variable {settings : Settings} {members : List (String × Tree)} {s key : String} {sh : Section}
  {kind : Kind}

/-- No section has two settings of one name. -/
theorem nodup_fields (hs : (s, sh) ∈ shapes) : (sh.fields.map (·.1)).Nodup := by
  have hall : ∀ section_ ∈ shapes, (section_.2.fields.map (·.1)).Nodup := by decide
  exact hall _ hs

/-- **Every setting is of its kind.** -/
theorem exists_value? (hs : (s, sh) ∈ shapes) (hkey : (key, kind) ∈ sh.fields)
    (settings : Settings) :
    ∃ v, settings.value? s key = some v ∧ kind.read v.tree = .ok v := by
  simp only [shapes, List.mem_cons, Prod.mk.injEq, List.not_mem_nil, or_false] at hs
  obtain ⟨rfl, rfl⟩ | ⟨rfl, rfl⟩ | ⟨rfl, rfl⟩ | ⟨rfl, rfl⟩ := hs
  · simp only [Database.shape, List.mem_cons, Prod.mk.injEq, List.not_mem_nil, or_false] at hkey
    obtain ⟨rfl, rfl⟩ | ⟨rfl, rfl⟩ | ⟨rfl, rfl⟩ | ⟨rfl, rfl⟩ | ⟨rfl, rfl⟩ | ⟨rfl, rfl⟩ |
      ⟨rfl, rfl⟩ := hkey
    · exact ⟨_, rfl, rfl⟩
    · exact ⟨_, rfl, Kind.read_number settings.database.maxConnections.toNat_lt _⟩
    · exact ⟨_, rfl, Kind.read_number settings.database.minConnections.toNat_lt _⟩
    · exact ⟨_, rfl, Kind.read_number settings.database.connectionTimeout.toNat_lt _⟩
    · exact ⟨_, rfl, Kind.read_number settings.database.maxRetries.toNat_lt _⟩
    · exact ⟨_, rfl, Kind.read_number settings.database.retryDelay.toNat_lt _⟩
    · exact ⟨_, rfl, rfl⟩
  · simp only [Middleware.shape, List.mem_cons, Prod.mk.injEq, List.not_mem_nil, or_false] at hkey
    obtain ⟨rfl, rfl⟩ | ⟨rfl, rfl⟩ | ⟨rfl, rfl⟩ | ⟨rfl, rfl⟩ := hkey
    · exact ⟨_, rfl, Kind.read_number settings.middleware.bodyLimit.toNat_lt _⟩
    · exact ⟨_, rfl, rfl⟩
    · exact ⟨_, rfl, rfl⟩
    · exact ⟨_, rfl, rfl⟩
  · simp only [Service.Limits.shape, List.mem_cons, Prod.mk.injEq, List.not_mem_nil,
      or_false] at hkey
    obtain ⟨rfl, rfl⟩ | ⟨rfl, rfl⟩ := hkey
    · exact ⟨_, rfl, Kind.read_number settings.query.standard.toNat_lt _⟩
    · exact ⟨_, rfl, Kind.read_number settings.query.most.toNat_lt _⟩
  · simp only [Service.shape, List.mem_cons, Prod.mk.injEq, List.not_mem_nil, or_false] at hkey
    obtain ⟨rfl, rfl⟩ | ⟨rfl, rfl⟩ | ⟨rfl, rfl⟩ | ⟨rfl, rfl⟩ | ⟨rfl, rfl⟩ := hkey
    · exact ⟨_, rfl, rfl⟩
    · exact ⟨_, rfl, Kind.read_number settings.service.port.toNat_lt _⟩
    · exact ⟨_, rfl, rfl⟩
    · exact ⟨_, rfl, Kind.read_number settings.service.timeout.toNat_lt _⟩
    · exact ⟨_, rfl, rfl⟩

/-- Settings are read from a table, **section by section**. -/
theorem ofTree?_table_eq_ok (h : ofTree? (.table members) = .ok settings) :
    ∃ database middleware query service,
      said "database" Database.shape members = .ok database ∧
      said "middleware" Middleware.shape members = .ok middleware ∧
      said "query" Service.Limits.shape members = .ok query ∧
      said "service" Service.shape members = .ok service ∧
      settings = ⟨.ofMembers default.service service, .ofMembers default.database database,
        .ofMembers default.query query, .ofMembers default.middleware middleware⟩ := by
  rw [ofTree?] at h
  obtain ⟨database, hdatabase, h⟩ := exists_of_bind_eq_ok h
  obtain ⟨middleware, hmiddleware, h⟩ := exists_of_bind_eq_ok h
  obtain ⟨query, hquery, h⟩ := exists_of_bind_eq_ok h
  obtain ⟨service, hservice, h⟩ := exists_of_bind_eq_ok h
  exact ⟨database, middleware, query, service, hdatabase, hmiddleware, hquery, hservice,
    (Except.ok.inj h).symm⟩

/-- **A setting has the value that was read for it**, or the one that holds where nothing is set. -/
theorem value?_of_ofTree? (h : ofTree? (.table members) = .ok settings) (hs : (s, sh) ∈ shapes)
    (hkey : (key, kind) ∈ sh.fields) :
    ∃ plains, said s sh members = .ok plains ∧
      ((∀ v, plains.lookup key = some v → kind.read v.tree = .ok v) →
        settings.value? s key = (plains.lookup key).or (default.value? s key)) := by
  obtain ⟨database, middleware, query, service, hdatabase, hmiddleware, hquery, hservice, rfl⟩ :=
    ofTree?_table_eq_ok h
  simp only [shapes, List.mem_cons, Prod.mk.injEq, List.not_mem_nil, or_false] at hs
  obtain ⟨rfl, rfl⟩ | ⟨rfl, rfl⟩ | ⟨rfl, rfl⟩ | ⟨rfl, rfl⟩ := hs
  · exact ⟨database, hdatabase, fun hread => Database.lookup_ofMembers hkey hread _⟩
  · exact ⟨middleware, hmiddleware, fun hread => Middleware.lookup_ofMembers hkey hread _⟩
  · exact ⟨query, hquery, fun hread => lookup_ofMembers_limits hkey hread _⟩
  · exact ⟨service, hservice, fun hread => Service.lookup_ofMembers hkey hread _⟩

end Settings

end Catalogue
