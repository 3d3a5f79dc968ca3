import Catalogue.Proofs.Store.Interleaving

/-!
# Where the texts of the store come from

The store makes up no text. What stands in a column was put there by a request
(`Catalogue.Store.Call.Puts`): as the text of a draft that misses nothing, or as a change. That is
kept by every call (`Catalogue.Store.Shelf.Drawn.perform`), and so by any number of them
(`Catalogue.Store.Shelf.drawn_left`).

The title and the author of a book are required, but not in the same sense everywhere. A draft is
refused if one of them is blank, whereas a change is taken for none only if it is empty. So no title
is ever empty, and a title that is blank all the same was put there by a change
(`Catalogue.Store.required_texts_stay`).
-/

namespace Catalogue

/-- No text is changed to an empty one. -/
theorem Revision.ne_empty_of_text? {r : Revision} {column : Column} {text : String}
    (h : r.text? column = some text) : text ≠ "" := by
  have hfilter : ∀ change : Option String, change.filter (· ≠ "") = some text → text ≠ "" := by
    intro change hchange
    rw [Option.filter_eq_some_iff] at hchange
    exact of_decide_eq_true hchange.2
  cases column with
  | id => exact nomatch h
  | title => exact hfilter r.title h
  | author => exact hfilter r.author h
  | summary => exact hfilter r.summary h

namespace Store

/-! ### What is left -/

/-- What is **left** after some calls, one after another. -/
def left {σ : Type} (perform : σ → Call → Except Fault Reply × σ) (s : σ) (calls : List Call) : σ :=
  calls.foldl (fun s c => (perform s c).2) s

/-- What is left on a table is a kept table, seen as what is left on the shelf. -/
theorem Session.left_onto {t : Table} (h : t.Kept) (hs : t.shelf.Sound) (calls : List Call) :
    ∃ t', left perform (onto t) calls = onto t' ∧ t'.Kept ∧
      t'.shelf = left Shelf.perform t.shelf calls := by
  induction calls generalizing t with
  | nil => exact ⟨t, rfl, h, rfl⟩
  | cons c calls ih =>
    obtain ⟨t₁, hstep, hshelf, hkept, -⟩ := exists_perform_onto h hs c
    have hsound : t₁.shelf.Sound := hshelf ▸ hs.perform c
    obtain ⟨t', hleft, hkept', hshelf'⟩ := ih hkept hsound
    refine ⟨t', ?_, hkept', ?_⟩
    · rw [left, List.foldl_cons, hstep]
      exact hleft
    · rw [hshelf', hshelf]
      rfl

/-! ### Texts and the calls that put them -/

/-- A text that a call **puts** into a column: one of a draft that misses nothing, or a change. -/
def Call.Puts (column : Column) (text : String) : Call → Prop
  | .create x => x.text? column = some text ∧ Text.trim x.title ≠ "" ∧ Text.trim x.author ≠ ""
  | .update _ r => r.text? column = some text
  | .delete _ => False
  | .find _ => False

namespace Shelf

/-- The texts of a shelf are **drawn** from those of a kind. -/
def Drawn (P : Column → String → Prop) (s : Shelf) : Prop :=
  ∀ id x, s.texts id = some x → ∀ column text, x.text? column = some text → P column text

variable {P : Column → String → Prop} {s : Shelf}

/-- Texts are drawn from a kind if those that are put are. -/
theorem Drawn.put (h : s.Drawn P) {id : Int64} {x : Option Draft}
    (hx : ∀ y ∈ x, ∀ column text, y.text? column = some text → P column text) :
    (s.put id x).Drawn P := by
  intro id' y hy
  rw [texts_put] at hy
  split_ifs at hy with hid
  · exact hx y hy
  · exact h id' y hy

/-- **A call draws on what it puts** and on what was there. -/
theorem Drawn.perform (h : s.Drawn P) {c : Call}
    (hc : ∀ column text, c.Puts column text → P column text) : (s.perform c).2.Drawn P := by
  cases c with
  | create d =>
    rw [Shelf.perform]
    split_ifs with hblank hid htitle
    · exact h
    · exact h
    · exact h
    · rw [not_or] at hblank
      have hput : (s.put (s.lastId + 1) (some d)).Drawn P := by
        refine h.put fun y hy column text htext => hc column text ⟨?_, hblank⟩
        rwa [Option.some.inj hy]
      exact hput
  | update id r =>
    rw [Shelf.perform]
    split
    · exact h
    · rename_i x hx
      split_ifs with htitle
      · exact h
      · refine h.put fun y hy column text htext => ?_
        obtain rfl := Option.some.inj hy
        -- a column has the text of the change, or the one that it had
        rw [text?_revised, Option.or_eq_some_iff] at htext
        rcases htext with hnew | ⟨-, hold⟩
        · exact hc column text hnew
        · exact h id x hx column text hold
  | delete id =>
    refine h.put fun y hy => ?_
    cases hy
  | find id => exact h

/-- **Every text was put there** by one of the calls. -/
theorem drawn_left (calls : List Call) :
    (left perform empty calls).Drawn fun column text => ∃ c ∈ calls, c.Puts column text := by
  -- the calls that are left change from step to step, those that are drawn from do not
  have hleft : ∀ s : Shelf, s.Drawn (fun column text => ∃ c ∈ calls, c.Puts column text) →
      ∀ rest, rest ⊆ calls →
        (left perform s rest).Drawn fun column text => ∃ c ∈ calls, c.Puts column text := by
    intro s hs rest
    induction rest generalizing s with
    | nil => exact fun _ => hs
    | cons c rest ih =>
      intro hrest
      rw [List.cons_subset] at hrest
      exact ih _ (hs.perform fun _ _ hc => ⟨c, hrest.1, hc⟩) hrest.2
  exact hleft empty nofun calls (List.Subset.refl calls)

end Shelf

/-! ### Required texts -/

/-- The columns of a draft whose text is **required**. -/
def requiredColumns : List Column := [.title, .author]

/-- A text that is put into a required column is not empty, and is blank only as a change. -/
theorem Call.Puts.ne_empty {c : Call} {column : Column} {text : String}
    (h : c.Puts column text) (hcolumn : column ∈ requiredColumns) :
    text ≠ "" ∧ (Text.trim text = "" → ∃ id r, c = .update id r ∧ r.text? column = some text) := by
  cases c with
  | create x =>
    obtain ⟨htext, htitle, hauthor⟩ := h
    -- a draft that misses nothing has no blank text in these columns
    have htrim : Text.trim text ≠ "" := by
      rw [requiredColumns, List.mem_pair] at hcolumn
      rcases hcolumn with rfl | rfl
      · obtain rfl := Option.some.inj htext
        exact htitle
      · obtain rfl := Option.some.inj htext
        exact hauthor
    refine ⟨?_, fun hblank => absurd hblank htrim⟩
    rintro rfl
    exact htrim rfl
  | update id r =>
    exact ⟨Revision.ne_empty_of_text? h, fun _ => ⟨id, r, rfl, h⟩⟩
  | delete id => exact h.elim
  | find id => exact h.elim

/-- **Required texts stay**, as far as they do. However books are added, changed, removed and looked
for, one call after another, beginning with an empty schema: no title and no author is ever empty,
and one that is blank was put there by a change. -/
theorem required_texts_stay (calls : List Call) :
    ∃ table, left Session.perform Session.schema calls = Session.onto table ∧
      ∀ row ∈ table.rows, ∀ column ∈ requiredColumns, ∀ text,
        row.texts.text? column = some text → text ≠ "" ∧
          (Text.trim text = "" → ∃ id r, .update id r ∈ calls ∧ r.text? column = some text) := by
  rw [Session.schema_eq]
  obtain ⟨table, hleft, hkept, hshelf⟩ :=
    Session.left_onto Table.kept_empty Shelf.sound_empty calls
  refine ⟨table, hleft, fun row hrow column hcolumn text htext => ?_⟩
  obtain ⟨id, hid⟩ := hkept.numbered row hrow
  have htexts : table.shelf.texts id = some row.texts :=
    congrArg (Option.map Row.texts) (hkept.row?_eq hrow hid)
  rw [hshelf, Table.shelf_empty] at htexts
  obtain ⟨c, hc, hputs⟩ := Shelf.drawn_left calls id row.texts htexts column text htext
  obtain ⟨hne, hblank⟩ := hputs.ne_empty hcolumn
  refine ⟨hne, fun htrim => ?_⟩
  obtain ⟨id', r, rfl, hr⟩ := hblank htrim
  exact ⟨id', r, hc, hr⟩

/-- A change that puts a blank title. -/
def blankTitle : Revision := ⟨some " ", none, none⟩

/-- **A blank title is stored** by a change, although no book can be added with it. -/
theorem blank_title_is_stored :
    Text.trim " " = "" ∧
    Session.perform Session.schema (.create ⟨" ", "Herge", ""⟩) =
      (.error (Shelf.incomplete ⟨" ", "Herge", ""⟩), Session.schema) ∧
    left Session.perform Session.schema
        [.create ⟨"Tintin in Tibet", "Herge", ""⟩, .update 1 blankTitle] =
      .onto ⟨[⟨some 1, " ", "Herge", ""⟩], 1, true⟩ := by
  refine ⟨?_, ?_, ?_⟩
  · rfl
  · rfl
  · rfl

end Store

end Catalogue
