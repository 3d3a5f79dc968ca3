import Catalogue.Store.Request
import Mathlib.Data.List.Basic
import Mathlib.Logic.Function.Basic
import Mathlib.Order.Defs.LinearOrder

/-!
# Shelves

A `Catalogue.Store.Shelf` is what a store of books is to those who use it: a map from identifiers to
the texts of books, and the identifier that was given last. `Catalogue.Store.Shelf.perform` says
what becomes of it, and what is answered, when a book is added, changed, removed or looked for.
Nothing in it speaks of statements and tables, and every call takes effect at once or not at all.

On a shelf that began without books no two books have the same title
(`Catalogue.Store.Shelf.Sound.course`), and the identifiers that are given in the course of any
calls are greater than all before (`Catalogue.Store.Shelf.pairwise_given`): removing a book does not
free its identifier. There are finitely many identifiers, and when the last one has been given no
book can be added; that takes as many calls (`Catalogue.Store.Shelf.le_length_of_exhausted`).
-/

namespace Catalogue

namespace Store

/-! ### Calls and their courses -/

/-- What a client may **call for**, one book at a time. -/
inductive Call where
  /-- Add a book. -/
  | create (d : Draft)
  /-- Change a book. -/
  | update (id : Int64) (r : Revision)
  /-- Remove a book. -/
  | delete (id : Int64)
  /-- Look for a book. -/
  | find (id : Int64)

/-- What is **answered** to a call. -/
inductive Reply where
  /-- The book that was added or changed. -/
  | book (b : Book)
  /-- There was a book to be removed. -/
  | removed (was : Bool)
  /-- The book that was looked for, if there is one. -/
  | found (b : Option Book)

/-- One **turn** of a course: a call, and what it did. -/
structure Turn (σ : Type) where
  /-- The state before. -/
  before : σ
  /-- The call. -/
  call : Call
  /-- What was answered. -/
  reply : Except Fault Reply
  /-- The state after. -/
  after : σ

section Course

variable {σ : Type} (perform : σ → Call → Except Fault Reply × σ)

/-- The turn that a call makes. -/
def turn (s : σ) (c : Call) : Turn σ := ⟨s, c, (perform s c).1, (perform s c).2⟩

/-- The **course** of some calls, one after another. -/
def course : σ → List Call → List (Turn σ)
  | _, [] => []
  | s, c :: cs => turn perform s c :: course (perform s c).2 cs

end Course

namespace Turn

variable {σ τ : Type}

/-- The same turn, with its states seen in another way. -/
def map (f : σ → τ) (t : Turn σ) : Turn τ := ⟨f t.before, t.call, t.reply, f t.after⟩

/-- The identifier that was **given** in a turn, if a book was added. -/
def given? (t : Turn σ) : Option Int64 :=
  match t.call, t.reply with
  | .create _, .ok (.book b) => some b.id
  | _, _ => none

/-- What is given does not depend on how states are seen. -/
theorem given?_map (f : σ → τ) (t : Turn σ) : (t.map f).given? = t.given? := rfl

end Turn

/-! ### Shelves -/

/-- A **shelf** of books. -/
structure Shelf where
  /-- The texts of the book of an identifier, if there is one. -/
  texts : Int64 → Option Draft
  /-- The identifier that was given last. -/
  lastId : Int64

/-- The book of an identifier and texts. -/
def bookOf (id : Int64) (x : Draft) : Book := ⟨id, x.title, x.author, x.summary⟩

/-- A text after a change: the new one if there is a new one and it is not empty. -/
def revisedText (old : String) (change : Option String) : String :=
  (change.filter (· ≠ "")).getD old

/-- The texts of a book after a change. -/
def revised (r : Revision) (x : Draft) : Draft :=
  ⟨revisedText x.title r.title, revisedText x.author r.author, revisedText x.summary r.summary⟩

namespace Shelf

/-- A shelf **without books**. -/
def empty : Shelf := ⟨fun _ => none, 0⟩

/-- The title **belongs to a book** whose identifier is not the one given. -/
def HasTitle (s : Shelf) (title : String) (except? : Option Int64) : Prop :=
  ∃ id x, s.texts id = some x ∧ x.title = title ∧ except? ≠ some id

/-- The shelf with other texts under an identifier, or with none. -/
def put (s : Shelf) (id : Int64) (x : Option Draft) : Shelf :=
  { s with texts := Function.update s.texts id x }

/-- Only the texts under that identifier are other ones. -/
theorem texts_put (s : Shelf) (id : Int64) (x : Option Draft) (id' : Int64) :
    (s.put id x).texts id' = if id' = id then x else s.texts id' :=
  Function.update_apply s.texts id x id'

/-! ### Faults -/

/-- The title and the author of a draft may not be empty when blanks are trimmed off. -/
def incomplete (d : Draft) : Fault :=
  .general .create .validationFailed <| "missing required field(s): " ++ ", ".intercalate
    (([("title", d.title), ("author", d.author)].filter fun f => Text.trim f.2 = "").map Prod.fst)

/-- The title belongs to another book. -/
def titleTaken (op : Operation) : Fault := .general op .alreadyExists "Duplicate value books.title"

/-- There is no book of that identifier. -/
def notThere (id : Int64) : Fault :=
  ⟨.update, .notFound, "record not found", some ("Book", Request.idText id)⟩

/-- All identifiers have been given. -/
def exhausted : Fault := .general .create .databaseError "database or disk is full"

/-! ### What calls do -/

open Classical in
/-- What a **call** does to a shelf, and what is answered. -/
noncomputable def perform (s : Shelf) : Call → Except Fault Reply × Shelf
  | .create d =>
    if Text.trim d.title = "" ∨ Text.trim d.author = "" then (.error (incomplete d), s)
    else if s.lastId = Int64.maxValue then (.error exhausted, s)
    else if s.HasTitle d.title none then (.error (titleTaken .create), s)
    else
      (.ok (.book (bookOf (s.lastId + 1) d)),
        { s.put (s.lastId + 1) (some d) with lastId := s.lastId + 1 })
  | .update id r =>
    match s.texts id with
    | none => (.error (notThere id), s)
    | some x =>
      if s.HasTitle (revised r x).title (some id) then (.error (titleTaken .update), s)
      else (.ok (.book (bookOf id (revised r x))), s.put id (some (revised r x)))
  | .delete id => (.ok (.removed (s.texts id).isSome), s.put id none)
  | .find id => (.ok (.found ((s.texts id).map (bookOf id))), s)

/-! ### What a shelf keeps -/

/-- **Titles belong to one book** each. -/
def TitlesDiffer (texts : Int64 → Option Draft) : Prop :=
  ∀ id id' x x', texts id = some x → texts id' = some x' → x.title = x'.title → id = id'

/-- A shelf is **sound** if its books have identifiers that were given, and titles of their own. -/
structure Sound (s : Shelf) : Prop where
  /-- Identifiers have been given. -/
  given : ∀ id x, s.texts id = some x → id ≤ s.lastId
  /-- Titles belong to one book. -/
  titles : TitlesDiffer s.texts

theorem sound_empty : Sound empty := ⟨nofun, nofun⟩

/-- Behind every identifier but the greatest comes the next one. -/
theorem toInt_next {id : Int64} (h : id ≠ Int64.maxValue) : (id + 1).toInt = id.toInt + 1 := by
  have hne : id.toInt ≠ Int64.maxValue.toInt := fun heq => h (Int64.toInt_inj.mp heq)
  have hlow := id.le_toInt
  have hhigh := id.toInt_lt
  rw [Int64.toInt_maxValue] at hne
  rw [Int64.toInt_add, Int64.toInt_one, Int.bmod_eq_of_le] <;> omega

/-- The next identifier is greater. -/
theorem lt_next {id : Int64} (h : id ≠ Int64.maxValue) : id < id + 1 := by
  rw [Int64.lt_iff_toInt_lt, toInt_next h]
  omega

variable {s : Shelf}

/-- Titles belong to one book each if a book takes one that belongs to no other. -/
theorem titlesDiffer_put (h : TitlesDiffer s.texts) {id : Int64} {x : Draft}
    (hx : ¬s.HasTitle x.title (some id)) : TitlesDiffer (s.put id (some x)).texts := by
  -- only the book that is put there could share its title with another
  have hother : ∀ i y, i ≠ id → s.texts i = some y → y.title ≠ x.title := fun i y hi hy heq =>
    hx ⟨i, y, hy, heq, fun hid => hi (Option.some.inj hid).symm⟩
  intro i j y z hy hz htitle
  rw [texts_put] at hy hz
  split_ifs at hy hz with hi hj hj
  · rw [hi, hj]
  · exact absurd (Option.some.inj hy ▸ htitle).symm (hother j z hj hz)
  · exact absurd (Option.some.inj hz ▸ htitle) (hother i y hi hy)
  · exact h i j y z hy hz htitle

/-- A shelf stays sound when a book is added. -/
theorem Sound.add (h : s.Sound) {x : Draft} (hid : s.lastId ≠ Int64.maxValue)
    (hx : ¬s.HasTitle x.title none) :
    Sound { s.put (s.lastId + 1) (some x) with lastId := s.lastId + 1 } := by
  refine ⟨fun i y hy => ?_, titlesDiffer_put h.titles fun ⟨i, y, hy, heq, _⟩ => ?_⟩
  · rw [texts_put] at hy
    split_ifs at hy with hi
    · rw [hi]
      exact Int64.le_refl _
    · exact Int64.le_trans (h.given i y hy) (Int64.le_of_lt (lt_next hid))
  · exact hx ⟨i, y, hy, heq, nofun⟩

/-- A shelf stays sound when a book is changed. -/
theorem Sound.change (h : s.Sound) {id : Int64} {x y : Draft} (hid : s.texts id = some x)
    (hy : ¬s.HasTitle y.title (some id)) : (s.put id (some y)).Sound := by
  refine ⟨fun i z hz => ?_, titlesDiffer_put h.titles hy⟩
  rw [texts_put] at hz
  split_ifs at hz with hi
  · rw [hi]
    exact h.given id x hid
  · exact h.given i z hz

/-- A shelf stays sound when a book is removed. -/
theorem Sound.remove (h : s.Sound) (id : Int64) : (s.put id none).Sound := by
  have hold : ∀ i y, (s.put id none).texts i = some y → s.texts i = some y := by
    intro i y hy
    rw [texts_put] at hy
    split_ifs at hy
    exact hy
  exact ⟨fun i y hy => h.given i y (hold i y hy),
    fun i j y z hy hz => h.titles i j y z (hold i y hy) (hold j z hz)⟩

/-- **A call keeps a shelf sound.** -/
theorem Sound.perform (h : s.Sound) (c : Call) : (s.perform c).2.Sound := by
  cases c with
  | create d =>
    rw [Shelf.perform]
    split_ifs with hblank hid htitle
    · exact h
    · exact h
    · exact h
    · exact h.add hid htitle
  | update id r =>
    rw [Shelf.perform]
    split
    · exact h
    · rename_i x hx
      split_ifs with htitle
      · exact h
      · exact h.change hx htitle
  | delete id => exact h.remove id
  | find id => exact h

/-- **A shelf is sound at every turn** of a course, if it is before the first. -/
theorem Sound.course (h : s.Sound) (calls : List Call) :
    ∀ t ∈ Store.course Shelf.perform s calls, t.before.Sound ∧ t.after.Sound := by
  induction calls generalizing s with
  | nil => exact fun _ ht => absurd ht List.not_mem_nil
  | cons c calls ih => exact List.forall_mem_cons.mpr ⟨⟨h, h.perform c⟩, ih (h.perform c)⟩

/-! ### What is never given again -/

/-- No call takes a given identifier back. -/
theorem lastId_le_perform (s : Shelf) (c : Call) : s.lastId ≤ (s.perform c).2.lastId := by
  cases c with
  | create d =>
    rw [perform]
    split_ifs with hblank hid htitle
    · exact Int64.le_refl _
    · exact Int64.le_refl _
    · exact Int64.le_refl _
    · exact Int64.le_of_lt (lt_next hid)
  | update id r =>
    rw [perform]
    split
    · exact Int64.le_refl _
    · split_ifs
      · exact Int64.le_refl _
      · exact Int64.le_refl _
  | delete id => exact Int64.le_refl _
  | find id => exact Int64.le_refl _

/-- The identifier that a turn gives is greater than the one given last, and takes its place. -/
theorem given?_turn {c : Call} {id : Int64} (h : (turn perform s c).given? = some id) :
    s.lastId < id ∧ (s.perform c).2.lastId = id := by
  cases c with
  | create d =>
    rw [turn, Turn.given?] at h
    dsimp only at h
    rw [perform] at h ⊢
    split_ifs at h ⊢ with hblank hid htitle
    obtain rfl : s.lastId + 1 = id := Option.some.inj h
    exact ⟨lt_next hid, rfl⟩
  | update id r => exact nomatch h
  | delete id => exact nomatch h
  | find id => exact nomatch h

/-- What is given in a course is greater than what was given before it. -/
theorem lt_of_mem_given (calls : List Call) :
    ∀ id ∈ (Store.course perform s calls).filterMap Turn.given?, s.lastId < id := by
  induction calls generalizing s with
  | nil => exact fun _ hid => absurd hid List.not_mem_nil
  | cons c calls ih =>
    have hle := s.lastId_le_perform c
    intro id hid
    rw [Store.course, List.filterMap_cons] at hid
    cases hgiven : (turn perform s c).given? with
    | none =>
      rw [hgiven] at hid
      exact Int64.lt_of_le_of_lt hle (ih id hid)
    | some id' =>
      rw [hgiven] at hid
      rcases List.mem_cons.mp hid with rfl | hid
      · exact (given?_turn hgiven).1
      · exact Int64.lt_of_le_of_lt hle (ih id hid)

/-- **No identifier is given twice**: each is greater than all that were given before. -/
theorem pairwise_given (s : Shelf) (calls : List Call) :
    ((Store.course perform s calls).filterMap Turn.given?).Pairwise (· < ·) := by
  induction calls generalizing s with
  | nil => exact List.Pairwise.nil
  | cons c calls ih =>
    rw [Store.course, List.filterMap_cons]
    cases hgiven : (turn perform s c).given? with
    | none => exact ih _
    | some id =>
      -- the identifier is the one given last when the rest of the course begins
      refine List.pairwise_cons.mpr ⟨fun id' hid' => ?_, ih _⟩
      have hlast := lt_of_mem_given calls id' hid'
      rwa [(given?_turn hgiven).2] at hlast

/-! ### When there is nothing left to give -/

/-- A call gives at most one identifier. -/
theorem lastId_perform_le (s : Shelf) (c : Call) :
    (s.perform c).2.lastId.toInt ≤ s.lastId.toInt + 1 := by
  have hstay : s.lastId.toInt ≤ s.lastId.toInt + 1 := by omega
  cases c with
  | create d =>
    rw [perform]
    split_ifs with hblank hid htitle
    · exact hstay
    · exact hstay
    · exact hstay
    · exact Int.le_of_eq (toInt_next hid)
  | update id r =>
    rw [perform]
    split
    · exact hstay
    · split_ifs
      · exact hstay
      · exact hstay
  | delete id => exact hstay
  | find id => exact hstay

/-- Nothing is left to give only if the greatest identifier has been given. -/
theorem lastId_of_exhausted {c : Call} (h : (s.perform c).1 = .error exhausted) :
    s.lastId = Int64.maxValue := by
  cases c with
  | create d =>
    rw [perform] at h
    split_ifs at h with hblank hid htitle
    · exact nomatch congrArg Fault.trouble (Except.error.inj h)
    · exact hid
    · exact nomatch congrArg Fault.trouble (Except.error.inj h)
  | update id r =>
    rw [perform] at h
    split at h
    · exact nomatch congrArg Fault.trouble (Except.error.inj h)
    · split_ifs at h
      exact nomatch congrArg Fault.trouble (Except.error.inj h)
  | delete id => exact nomatch h
  | find id => exact nomatch h

/-- **Identifiers are not used up** by fewer calls than there are identifiers. -/
theorem le_length_of_exhausted (calls : List Call) :
    ∀ t ∈ Store.course perform s calls, t.reply = .error exhausted →
      Int64.maxValue.toInt ≤ s.lastId.toInt + calls.length := by
  induction calls generalizing s with
  | nil => exact fun _ ht => absurd ht List.not_mem_nil
  | cons c calls ih =>
    intro t ht hreply
    rw [List.length_cons]
    rcases List.mem_cons.mp ht with rfl | ht
    · rw [lastId_of_exhausted hreply]
      omega
    · have hnext := lastId_perform_le s c
      have hrest := ih t ht hreply
      omega

end Shelf

end Store

end Catalogue
