import Catalogue.Json.Reader
import Catalogue.Search

/-!
# Documents in a stream and documents in a text

A document comes in one of two ways. Either the whole text is read as JSON before the document is
judged (`Catalogue.readWhole`), as conditions and searches are read from a text; or the document is
read off the front of the text and judged, and only then comes what stands behind it
(`Catalogue.streamed`). A text can be wrong at its front, in its document and behind it, and the two
ways look for this in different orders.

What the two make of one text is the relation `Catalogue.ReadAlike`: they accept the same texts, and
what they refuse they refuse for the same reason, unless a rejected document has something behind it
(`Catalogue.streamed_readAlike`). For conditions and searches this is
`Catalogue.Search.streams_agree_with_texts`, which also says that the condition of a search is
rejected in its own words, whatever is wrong with the rest of the search.
-/

namespace Catalogue

variable {α : Type}

/-! ### Two ways to read a document -/

/-- Read the document that a **whole text** is: all of it has to be JSON before it is judged. -/
def readWhole (read : Json → Except Rejection α) (s : String) : Except Rejection α :=
  match Json.ofText? s with
  | .error f => .error (.ofFault f)
  | .ok j => read j

/-- Conditions are read from whole texts. -/
theorem Condition.ofText?_eq_readWhole (s : String) : ofText? s = readWhole ofJson? s := rfl

/-- Searches are read from whole texts. -/
theorem Search.ofText?_eq_readWhole (s : String) : ofText? s = readWhole ofJson? s := rfl

/-- What a stream and a whole text **make of the same text**. -/
inductive ReadAlike : Except StreamFault α → Except Rejection α → Prop
  /-- Both accept it and read the same. -/
  | accepted (a : α) : ReadAlike (.ok a) (.ok a)
  /-- It is no JSON text, at the same place for both. -/
  | text (f : Json.Fault) : ReadAlike (.error (.text f)) (.error (.ofFault f))
  /-- Both reject the document for the same reason. -/
  | document (r : Rejection) : ReadAlike (.error (.document r)) (.error r)
  /-- The document is rejected and something stands behind it: the stream names the one, the whole
  text the other. -/
  | followed (r : Rejection) (p : Position) :
    ReadAlike (.error (.document r)) (.error (.ofFault (.malformed .trailingCharacters p)))

/-- What is made of the same text is accepted in both ways or in neither. -/
theorem ReadAlike.eq_ok_iff {x : Except StreamFault α} {y : Except Rejection α}
    (h : ReadAlike x y) (a : α) : x = .ok a ↔ y = .ok a := by
  cases h with
  | accepted b => rw [Except.ok.injEq, Except.ok.injEq]
  | text f => exact iff_of_false nofun nofun
  | document r => exact iff_of_false nofun nofun
  | followed r p => exact iff_of_false nofun nofun

/-! ### Both ways on one text -/

/-- Behind a document, the only thing that can be wrong is that something stands there. -/
theorem Json.noMore_eq_error {c : Cursor} {f : Fault} (h : noMore c = .error f) :
    ∃ p, f = .malformed .trailingCharacters p := by
  rw [noMore] at h
  split at h
  · cases h
  · exact ⟨_, (Except.error.inj h).symm⟩

/-- A whole text is a document and nothing behind it. -/
theorem Json.exists_front_of_ofText? {s : String} {j : Json} (h : Json.ofText? s = .ok j) :
    ∃ c, front (Symbol.ofText s) = .ok (j, c) ∧ noMore c = .ok () := by
  rw [ofText?, ofSymbols?] at h
  split at h
  · cases h
  · rename_i k c hfront
    split at h
    · cases h
    · rename_i hmore
      cases h
      exact ⟨c, hfront, hmore⟩

/-- **A document is the same in a stream as in a text**, whatever it is read as. -/
theorem streamed_readAlike (read : Json → Except Rejection α) (s : String) :
    ReadAlike (streamed read s) (readWhole read s) := by
  rw [streamed, readWhole, Json.ofText?, Json.ofSymbols?]
  -- front, then document, then what is behind it: the order of the stream
  rcases Json.front (Symbol.ofText s) with f | ⟨j, c⟩
  · exact .text f
  · dsimp only
    rcases hmore : Json.noMore c with f | ⟨⟩
    · obtain ⟨p, rfl⟩ := Json.noMore_eq_error hmore
      rcases read j with r | a
      · exact .followed r p
      · exact .text _
    · rcases hread : read j with r | a
      · simp only [hread]
        exact .document r
      · simp only [hread]
        exact .accepted a

/-- A document that is rejected is rejected first in a stream. -/
theorem streamed_eq_error_of_front {read : Json → Except Rejection α} {s : String} {j : Json}
    {c : Json.Cursor} {r : Rejection} (hfront : Json.front (Symbol.ofText s) = .ok (j, c))
    (h : read j = .error r) : streamed read s = .error (.document r) := by
  rw [streamed, hfront]
  simp only [h]

namespace Search

/-! ### The condition of a search -/

variable {members : List (String × Json)} {w : Json}

/-- A member `where` that is not `null` is the condition. -/
theorem conditionOf_eq (hw : Json.member? "where" members = some w) (hnull : w ≠ .null) :
    conditionOf members = Condition.ofJson? w := by
  rw [conditionOf, hw]
  cases w with
  | null => exact absurd rfl hnull
  | _ => rfl

/-- A search is rejected in the words of its condition. -/
theorem ofJson?_eq_error_of_where (hw : Json.member? "where" members = some w) (hnull : w ≠ .null)
    {r : Rejection} (hr : Condition.ofJson? w = .error r) :
    ofJson? (.object members) = .error r := by
  rw [ofJson?, conditionOf_eq hw hnull, hr]

/-- A search that is read has the condition that is written in it. -/
theorem condition_of_ofJson? (hw : Json.member? "where" members = some w) (hnull : w ≠ .null)
    {q : Search} (hq : ofJson? (.object members) = .ok q) :
    Condition.ofJson? w = .ok q.condition := by
  rw [ofJson?, conditionOf_eq hw hnull] at hq
  split at hq
  · cases hq
  · rename_i c hc
    split at hq
    · cases hq
    · cases hq
      exact hc

/-- **Streams agree with texts.** A condition is read from a stream exactly if it is read from the
text, and so is a search; what is refused is refused for the same reason, unless a rejected document
has something behind it. And where a text is an object whose member `where` says something, the
search is rejected for the reason for which that member is no condition, whatever the other members
are, and has that member as its condition if it is read. -/
theorem streams_agree_with_texts :
    (∀ s : String, ReadAlike (streamed Condition.ofJson? s) (Condition.ofText? s)) ∧
    (∀ (s : String) (c : Condition),
      streamed Condition.ofJson? s = .ok c ↔ Condition.ofText? s = .ok c) ∧
    (∀ s : String, ReadAlike (streamed Search.ofJson? s) (Search.ofText? s)) ∧
    (∀ (s : String) (q : Search),
      streamed Search.ofJson? s = .ok q ↔ Search.ofText? s = .ok q) ∧
    ∀ (s : String) (members : List (String × Json)) (w : Json),
      Json.ofText? s = .ok (.object members) → Json.member? "where" members = some w →
        w ≠ .null →
          (∀ r, Condition.ofJson? w = .error r →
            Search.ofText? s = .error r ∧ streamed Search.ofJson? s = .error (.document r)) ∧
          ∀ q, Search.ofText? s = .ok q → Condition.ofJson? w = .ok q.condition := by
  have hconditions : ∀ s, ReadAlike (streamed Condition.ofJson? s) (Condition.ofText? s) :=
    streamed_readAlike Condition.ofJson?
  have hsearches : ∀ s, ReadAlike (streamed Search.ofJson? s) (Search.ofText? s) :=
    streamed_readAlike Search.ofJson?
  refine ⟨hconditions, fun s => (hconditions s).eq_ok_iff, hsearches,
    fun s => (hsearches s).eq_ok_iff, fun s members w hs hw hnull => ?_⟩
  have htext : Search.ofText? s = Search.ofJson? (.object members) := by
    rw [Search.ofText?_eq_readWhole, readWhole, hs]
  constructor
  · intro r hr
    have hreject := ofJson?_eq_error_of_where hw hnull hr
    obtain ⟨c, hfront, -⟩ := Json.exists_front_of_ofText? hs
    exact ⟨htext.trans hreject, streamed_eq_error_of_front hfront hreject⟩
  · intro q hq
    exact condition_of_ofJson? hw hnull (htext.symm.trans hq)

/-- A search that is wrong twice over, in its order and in its condition. -/
theorem streams_agree_with_texts_order :
    Search.ofText? "\x7b\"order_by\":7,\"where\":\x7b\"o\":\"XOR\",\"e\":[]\x7d\x7d" =
        .error (.unsupportedExpression "XOR" "\x7b\"e\":[],\"o\":\"XOR\"\x7d") ∧
      streamed Search.ofJson? "\x7b\"order_by\":7,\"where\":\x7b\"o\":\"XOR\",\"e\":[]\x7d\x7d" =
        .error (.document (.unsupportedExpression "XOR" "\x7b\"e\":[],\"o\":\"XOR\"\x7d")) :=
  (streams_agree_with_texts.2.2.2.2 _
    [("order_by", .integer 7), ("where", .object [("e", .array []), ("o", .text "XOR")])]
    (.object [("e", .array []), ("o", .text "XOR")]) (by rfl) (by rfl) nofun).1 _ (by rfl)

end Search

end Catalogue
