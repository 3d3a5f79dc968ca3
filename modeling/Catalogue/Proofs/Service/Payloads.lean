import Catalogue.Book
import Catalogue.Proofs.Json.Records
import Catalogue.Service.Paging

/-!
# What clients send and are shown loses nothing

Books, drafts, revisions and the parameters of a list are written as JSON and read back as they were
(`Catalogue.payloads_round_trip`), whatever texts they hold. Each of them leaves out something else:
a book a zero identifier and empty texts, a revision and the parameters what is absent, a draft
nothing. It is read back because that is just what the empty record of its type has there: a member
that is left out makes of a record what one that is shown would make of it.
-/

namespace Catalogue

open Json (Decoder)
open Json.Decoder (Makes)

section Members

variable {σ : Type} {fields : List (Decoder.Field σ)} {key : String} {a b : σ}

/-! ### Members that may be left out -/

/-- An identifier that is left out where it is zero makes of a record **what it would if it were
shown**. -/
theorem Book.makes_id {put : Int64 → σ → σ} {n : Int64}
    (hfield : fields.find? (·.name = "id") = some (.free "id" .int64 put)) (hzero : put 0 a = a)
    (hput : put n a = b) :
    Makes fields (if n = 0 then [] else [("id", .integer n.toInt)]) a b := by
  subst hput
  split_ifs with hn
  · rw [hn, hzero]
    exact .nil a
  · exact .field hfield (Decoder.readsBack_int64 n) (.nil _)

/-- A text that is left out where it is empty makes of a record what it would if it were shown. -/
theorem Book.makes_member {put : String → σ → σ} {s : String}
    (hfield : fields.find? (·.name = key) = some (.free key .text put)) (hempty : put "" a = a)
    (hput : put s a = b) : Makes fields (member key s) a b := by
  subst hput
  rw [member]
  split_ifs with hs
  · rw [String.isEmpty_iff.mp hs, hempty]
    exact .nil a
  · exact .field hfield (Decoder.readsBack_text s) (.nil _)

/-- A text that is left out where it is absent makes of a record what it would if `null` were shown.
An empty text is not absent. -/
theorem Revision.makes_member {put : Option String → σ → σ} {s : Option String}
    (hfield : fields.find? (·.name = key) = some (.free key (.optional .text) put))
    (habsent : put none a = a) (hput : put s a = b) : Makes fields (member key s) a b := by
  subst hput
  cases s with
  | none =>
    rw [habsent]
    exact .nil a
  | some s => exact .field hfield (Decoder.readsBack_optional_text s) (.nil _)

/-- A member that may be left out has its own key and no other. -/
theorem Book.map_member_sublist (key s : String) : ((member key s).map (·.1)).Sublist [key] := by
  rw [member]
  split_ifs
  · exact List.nil_sublist [key]
  · exact List.Sublist.refl [key]

theorem Revision.map_member_sublist (key : String) (s : Option String) :
    ((member key s).map (·.1)).Sublist [key] := by
  cases s with
  | none => exact List.nil_sublist [key]
  | some s => exact List.Sublist.refl [key]

end Members

/-! ### The four records -/

/-- **A book is read back**, with any identifier and any texts. -/
theorem Book.ofText?_compact (b : Book) : decoder.ofText? b.toJson.compact = .ok b := by
  refine Makes.ofText?_eq_ok (a := b) ?_ ?_ (by decide) "Book"
  · refine .append (b := { b with summary := "" }) ?_ (makes_member rfl rfl rfl)
    refine .append (b := { b with author := "", summary := "" }) ?_ (makes_member rfl rfl rfl)
    exact .append (makes_id rfl rfl rfl) (makes_member rfl rfl rfl)
  · have hid : ((if b.id = 0 then [] else [("id", Json.integer b.id.toInt)]).map (·.1)).Sublist
        ["id"] := by
      split_ifs
      · exact List.nil_sublist ["id"]
      · exact List.Sublist.refl ["id"]
    have hkeys := ((hid.append (map_member_sublist "title" b.title)).append
      (map_member_sublist "author" b.author)).append (map_member_sublist "summary" b.summary)
    simp only [List.map_append]
    exact hkeys.nodup (by decide)

/-- **A draft is read back**, with any texts. -/
theorem Draft.ofText?_compact (d : Draft) : decoder.ofText? d.toJson.compact = .ok d := by
  refine Makes.ofText?_eq_ok (a := d) ?_ ?_ (by decide) "NewBook"
  · exact .field rfl (Decoder.readsBack_text d.title) <|
      .field rfl (Decoder.readsBack_text d.author) <|
      .field rfl (Decoder.readsBack_text d.summary) (.nil d)
  · have hkeys : ["title", "author", "summary"].Nodup := by decide
    exact hkeys

/-- **A revision is read back**, whichever texts it has. -/
theorem Revision.ofText?_compact (r : Revision) : decoder.ofText? r.toJson.compact = .ok r := by
  refine Makes.ofText?_eq_ok (a := r) ?_ ?_ (by decide) "BookChanges"
  · refine .append (b := { r with summary := none }) ?_ (makes_member rfl rfl rfl)
    exact .append (makes_member rfl rfl rfl) (makes_member rfl rfl rfl)
  · have hkeys := ((map_member_sublist "title" r.title).append
      (map_member_sublist "author" r.author)).append (map_member_sublist "summary" r.summary)
    simp only [List.map_append]
    exact hkeys.nodup (by decide)

/-- **The parameters of a list are read back**, whichever there are. -/
theorem Service.ListParams.ofText?_compact (p : ListParams) :
    decoder.ofText? p.toJson.compact = .ok p := by
  refine Makes.ofText?_eq_ok (a := p) ?_ ?_ (by decide) "ListParams"
  · refine .append (b := { p with limit := .none }) ?_ (Revision.makes_member rfl rfl rfl)
    exact .append (Revision.makes_member rfl rfl rfl) (Revision.makes_member rfl rfl rfl)
  · have hkeys := ((Revision.map_member_sublist "query" p.query).append
      (Revision.map_member_sublist "offset" p.offset)).append
        (Revision.map_member_sublist "limit" p.limit)
    simp only [List.map_append]
    exact hkeys.nodup (by decide)

/-- **What is written loses nothing.** Every book, every draft, every revision and all parameters of
a list are read back from their own text as they were, with any identifier, any texts and any of the
parts that may be absent. So revisions that differ are written differently, and to make a text empty
is not written as to leave it alone. -/
theorem payloads_round_trip :
    (∀ b : Book, Book.decoder.ofText? b.toJson.compact = .ok b) ∧
      (∀ d : Draft, Draft.decoder.ofText? d.toJson.compact = .ok d) ∧
      (∀ r : Revision, Revision.decoder.ofText? r.toJson.compact = .ok r) ∧
      (∀ p : Service.ListParams, Service.ListParams.decoder.ofText? p.toJson.compact = .ok p) ∧
      Function.Injective fun r : Revision => r.toJson.compact := by
  refine ⟨Book.ofText?_compact, Draft.ofText?_compact, Revision.ofText?_compact,
    Service.ListParams.ofText?_compact, fun r r' h => ?_⟩
  have hread := r.ofText?_compact
  rw [show r.toJson.compact = r'.toJson.compact from h, r'.ofText?_compact] at hread
  exact (Except.ok.inj hread).symm

end Catalogue
