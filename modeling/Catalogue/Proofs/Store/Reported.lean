import Catalogue.Proofs.Store.Among
import Catalogue.Proofs.Store.Interleaving

/-!
# What a reported change means

A change is answered by the book that it has written. That is so if the book was there when it was
read and the database did not refuse to write it; but it does not refuse to write into a row that is
not there, and nobody asks whether there was one. So among other requests the answer says how the
row of the book looks, if there is one (`Catalogue.Store.reported_update`).

There certainly is one if none of the others removes it. If one of them does, after the book was
read, then a change is reported although there is no book any more
(`Catalogue.Store.removed_book_reported_updated`).
-/

namespace Catalogue

namespace Store

/-! ### What the database answers to a change -/

namespace Session

variable {s : Session} {id : Int64} {b : Book}

/-- To look for a book does nothing. -/
theorem snd_put_book (s : Session) (id : Int64) : (s.put (.book id)).2 = s := by
  rw [put_eq rfl]
  cases hfree : s.availability.failure? with
  | some f => rw [s.execute_of_failure hfree]
  | none =>
    cases ht : s.table with
    | none =>
      rw [execute, hfree, ht]
      exact congrArg (fun t => { s with table := t }) ht.symm
    | some t => rw [s.execute_of_table hfree ht, Statement.executeOn_book, ← ht]

/-- With a connection and a table it is found whether there is a row. -/
theorem fst_put_book {t : Table} (hfree : s.availability = .free) (ht : s.table = some t) :
    (s.put (.book id)).1 = .ok ((s.row? id).map fun row => bookOf id row.texts) := by
  have hnone : s.availability.failure? = none := congrArg Availability.failure? hfree
  rw [put_eq rfl, s.execute_of_table hnone ht, Statement.executeOn_book, row?, ht]
  exact congrArg Except.ok (Option.map_map ..)

/-- A book that was found is that of a row. -/
theorem exists_row_of_put_book (h : (s.put (.book id)).1 = .ok (some b)) :
    ∃ row, s.row? id = some row ∧ b = bookOf id row.texts := by
  obtain ⟨t, ht, hfound, -⟩ := executed_of_put_ok h nofun
  rw [Statement.executeOn_book] at hfound
  obtain ⟨x, hx, rfl⟩ := Option.map_eq_some_iff.mp (Except.ok.inj hfound)
  obtain ⟨row, hrow, rfl⟩ := Option.map_eq_some_iff.mp hx
  refine ⟨row, ?_, rfl⟩
  rw [row?, ht]
  exact hrow

/-- A book that was written has put its texts into its row, **if there is a row**. -/
theorem row?_put_update (h : (s.put (.update b)).1 = .ok ()) :
    (s.put (.update b)).2.row? b.id = (s.row? b.id).map fun row => row.withTexts b := by
  obtain ⟨t, ht, hwritten, hput⟩ := executed_of_put_ok h nofun
  rw [hput, row?, row?, ht]
  cases hupdate : t.update? b with
  | none =>
    rw [Statement.executeOn, hupdate] at hwritten
    cases hwritten
  | some t' =>
    rw [Statement.executeOn, hupdate, Table.eq_changed_of_update? hupdate]
    -- writing changes the texts of the row of the book; it makes none
    change (t.changed b).row? b.id = (t.row? b.id).map _
    rw [Table.row?_changed]
    refine Option.map_congr fun row hrow => ?_
    rw [if_pos (Table.mem_of_row? hrow).2]

end Session

/-! ### The statements of a change -/

section Change

variable {s s' : Session} {others : List (Process β)} {d : Dialect} {id : Int64} {r : Revision}
  {b b' : Book} {moments : List Session} {answer : Except Fault Book}

/-- A book that is not there when it is read is not changed. -/
theorem Among.of_havingRead_none
    (h : Among s others (havingRead d id r (.ok none)) moments answer s') :
    answer = .error (Shelf.notThere id) :=
  h.of_done.2.1

/-- A change that comes to something goes on to write the book that it has read. -/
theorem Among.of_update_ok
    (h : Among s others (ExceptT.run (Request.update d id r)) moments (.ok b') s') :
    ∃ read others₁ moments₁ row, moments = read :: moments₁ ∧
      Meanwhile (s, others) (read, others₁) ∧ read.row? id = some row ∧
      Among read others₁ (writing d (bookOf id (revised r row.texts))) moments₁ (.ok b') s' := by
  rw [update_eq] at h
  obtain ⟨read, others₁, moments₁, rfl, hwait, hread⟩ := h.of_ask
  rw [Session.snd_put_book] at hread
  cases hfound : (read.put (.book id)).1 with
  | error f =>
    rw [hfound] at hread
    cases hread.of_done.2.1
  | ok found =>
    rw [hfound] at hread
    cases found with
    | none => cases hread.of_done.2.1
    | some b =>
      obtain ⟨row, hrow, rfl⟩ := Session.exists_row_of_put_book hfound
      refine ⟨read, others₁, moments₁, row, rfl, hwait, hrow, ?_⟩
      rw [← apply_bookOf]
      exact hread

/-- A request that writes, and comes to something, has put the texts of the book into its row, if
there was one when it was written. -/
theorem Among.of_writing_ok (h : Among s others (writing d b) moments (.ok b') s') :
    ∃ written others₁, moments = [written] ∧ b' = b ∧ Meanwhile (s, others) (written, others₁) ∧
      s'.row? b.id = (written.row? b.id).map fun row => row.withTexts b := by
  obtain ⟨written, others₁, moments₁, rfl, hwait, hwrite⟩ := h.of_ask
  cases hanswer : (written.put (.update b)).1 with
  | error f =>
    rw [hanswer] at hwrite
    cases hwrite.of_done.2.1
  | ok done =>
    rw [hanswer] at hwrite
    obtain ⟨rfl, hb, rfl⟩ := hwrite.of_done
    exact ⟨written, others₁, rfl, Except.ok.inj hb, hwait, Session.row?_put_update hanswer⟩

end Change

/-- **What a reported change means** among other requests that add, change, remove and look for
books.

It was read when there was a row, and answered by the book with the changes. After it was written
the row has the texts of that book, if there was still a row when it was written. There was one if
none of the others removes it. And if there was no row when the book was read, then it is reported
as not found. -/
theorem reported_update {d : Dialect} {id : Int64} {r : Revision} {s s' : Session}
    {calls : List Call} {moments : List Session} {answer : Except Fault Book}
    (h : Among s (calls.map fun c => ExceptT.run (c.request d))
      (ExceptT.run (Request.update d id r)) moments answer s') :
    (∀ b, answer = .ok b →
      ∃ read written row, moments = [read, written] ∧ read.row? id = some row ∧
        b = bookOf id (revised r row.texts) ∧
        s'.row? id = (written.row? id).map (fun row => row.withTexts b) ∧
        (.delete id ∉ calls →
          ∃ row', s'.row? id = some row' ∧ b = bookOf id row'.texts)) ∧
    ∀ read t, moments.head? = some read → read.availability = .free → read.table = some t →
      read.row? id = none → answer = .error (Shelf.notThere id) := by
  refine ⟨?_, ?_⟩
  · rintro b rfl
    obtain ⟨read, others₁, moments₁, row, rfl, hwait, hrow, hwriting⟩ := h.of_update_ok
    obtain ⟨written, others₂, rfl, rfl, hwait', hrow'⟩ := hwriting.of_writing_ok
    refine ⟨read, written, row, rfl, hrow, rfl, hrow', fun hcalls => ?_⟩
    have hothers : ∀ p ∈ calls.map fun c => ExceptT.run (c.request d),
        p.Only fun st => st ≠ .delete id := by
      rw [List.forall_mem_map]
      intro c hc
      exact c.only_request_of_ne d fun heq => hcalls (heq ▸ hc)
    -- the others keep the row from when it is read until it is written
    have hkept : (written.row? id).isSome :=
      (hwait'.keeps (I := fun x : Session => (x.row? id).isSome)
        (fun _ _ => Session.isSome_row?_put) (Option.isSome_of_eq_some hrow)
        (hwait.only hothers)).1
    obtain ⟨row', hrow''⟩ := Option.isSome_iff_exists.mp hkept
    exact ⟨_, hrow'.trans (congrArg _ hrow''), rfl⟩
  · -- no row is found, and so nothing is written
    intro read t hmoment hfree ht hrow
    rw [update_eq] at h
    obtain ⟨read', others₁, moments₁, rfl, -, hread⟩ := h.of_ask
    obtain rfl := Option.some.inj hmoment
    rw [Session.fst_put_book hfree ht, hrow] at hread
    exact hread.of_havingRead_none

/-- The title is changed while another request changes the author between reading and writing. -/
theorem reported_update_beside_another :
    Among (.onto (oneBook "Tintin in Tibet" "Herge"))
      ([.update 1 reattribute].map fun c => ExceptT.run (Call.request .sqlite c))
      (ExceptT.run (Request.update .sqlite 1 retitle))
      [.onto (oneBook "Tintin in Tibet" "Herge"), .onto (oneBook "Tintin in Tibet" "Georges Remi")]
      (.ok ⟨1, "Tintin in America", "Herge", "Yeti"⟩)
      (.onto (oneBook "Tintin in America" "Herge")) ∧
    ∃ row, (Session.onto (oneBook "Tintin in America" "Herge")).row? 1 = some row ∧
      ⟨1, "Tintin in America", "Herge", "Yeti"⟩ = bookOf 1 row.texts := by
  have hamong : Among (.onto (oneBook "Tintin in Tibet" "Herge"))
      ([.update 1 reattribute].map fun c => ExceptT.run (Call.request .sqlite c))
      (ExceptT.run (Request.update .sqlite 1 retitle))
      [.onto (oneBook "Tintin in Tibet" "Herge"), .onto (oneBook "Tintin in Tibet" "Georges Remi")]
      (.ok ⟨1, "Tintin in America", "Herge", "Yeti"⟩)
      (.onto (oneBook "Tintin in America" "Herge")) := by
    rw [update_eq]
    have hother := meanwhile_run [] [] (ExceptT.run (Call.request .sqlite (.update 1 reattribute)))
      (.onto (oneBook "Tintin in Tibet" "Herge"))
    exact .ask .refl (.ask hother (.done _ _ _))
  obtain ⟨read, written, row, -, -, -, -, hthere⟩ := (reported_update hamong).1 _ rfl
  exact ⟨hamong, hthere (by simp)⟩

/-- **A change is reported although the book was removed**: that happens after it was read and
before it is written, so that nothing is written anywhere. -/
theorem removed_book_reported_updated :
    Among (.onto (oneBook "Tintin in Tibet" "Herge"))
      ([.delete 1].map fun c => ExceptT.run (Call.request .sqlite c))
      (ExceptT.run (Request.update .sqlite 1 retitle))
      [.onto (oneBook "Tintin in Tibet" "Herge"), .onto ⟨[], 1, true⟩]
      (.ok ⟨1, "Tintin in America", "Herge", "Yeti"⟩) (.onto ⟨[], 1, true⟩) ∧
    (Session.onto ⟨[], 1, true⟩).row? 1 = none := by
  refine ⟨?_, rfl⟩
  rw [update_eq]
  have hother := meanwhile_run [] [] (ExceptT.run (Call.request .sqlite (.delete 1)))
    (.onto (oneBook "Tintin in Tibet" "Herge"))
  exact .ask .refl (.ask hother (.done _ _ _))

end Store

end Catalogue
