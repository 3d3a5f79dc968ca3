import Catalogue.Json.Decoder
import Catalogue.Proofs.Json.Written

/-!
# Written records are read back

A record is written as an object of those of its fields that are worth showing, and read back by
starting from the empty record and putting in one field after the other. What the members put in is
said by `Catalogue.Json.Decoder.Makes`: they **make** one record of another. Members that make a
record of the empty one are read back as that record (`Catalogue.Json.Decoder.Makes.ofText?_eq_ok`),
if no two of them have the same key and no field has to be there.

The proof is by induction on the members, over the loop that reads them. The loop remembers the keys
it has met, to refuse one that comes again, so the induction carries that the keys to come are new.
-/

namespace Catalogue

namespace Json

namespace Decoder

variable {α σ : Type}

/-! ### Values -/

/-- A decoder **reads back** a written value, with any fuel. -/
def ReadsBack (d : Decoder α) (v : Json) (a : α) : Prop := ∀ fuel, Reads (d.read fuel) v.chars a

/-- A value without parts is read back if it is accepted. -/
theorem readsBack_scalar {accept : Json → Except Mismatch α} {v : Json} {a : α}
    (hopen : Reads (opening true) v.chars (.scalar v)) (h : accept v = .ok a) :
    (scalar accept).ReadsBack v a := by
  intro fuel rest p hrest
  obtain ⟨q, hq⟩ := hopen rest p hrest
  refine ⟨q, ?_⟩
  simp only [scalar, hq, h]

/-- A string is read back. -/
theorem readsBack_text (s : String) : text.ReadsBack (.text s) s :=
  readsBack_scalar (opening_stringChars s) rfl

/-- **Every signed word is read back**, the negative ones too. -/
theorem readsBack_int64 (n : Int64) : int64.ReadsBack (.integer n.toInt) n := by
  have hsigned := Word.isSigned_toInt n
  have hfits : FitsWord n.toInt :=
    ⟨hsigned.1, Int.lt_trans hsigned.2 (by decide)⟩
  refine readsBack_scalar (opening_integerChars hfits) ?_
  simp only [if_pos hsigned, Int64.ofInt_toInt]

/-- A value that may be `null` is read back where it is not: its text does not begin like `null`. -/
theorem ReadsBack.optional {d : Decoder α} {v : Json} {a : α} (h : d.ReadsBack v a) {c : Char}
    {cs : List Char} (hchars : v.chars = c :: cs) (hspace : Cursor.isSpace c = false)
    (hnull : c ≠ 'n') : (optional d).ReadsBack v (some a) := by
  intro fuel rest p hrest
  obtain ⟨q, hq⟩ := h fuel rest p hrest
  refine ⟨q, ?_⟩
  have hhead : ¬(List.head? (Symbol.char c :: (written cs ++ rest)) = some (.char 'n')) :=
    fun heq => hnull (Symbol.char.inj (Option.some.inj heq))
  rw [hchars, written_cons, List.cons_append] at hq ⊢
  simp only [Decoder.optional, skipSpace_eq_self hspace, if_neg hhead, hq]

/-- A string that may be absent is read back where it is there. -/
theorem readsBack_optional_text (s : String) :
    (optional text).ReadsBack (.text s) (some s) :=
  (readsBack_text s).optional rfl (by decide) (by decide)

/-- What a field reads back it **puts into the record**. -/
theorem ReadsBack.free {d : Decoder α} {v : Json} {a : α} (h : d.ReadsBack v a) (name : String)
    (put : α → σ → σ) : (Field.free name d put).decode.ReadsBack v (put a) := by
  intro fuel rest p hrest
  obtain ⟨q, hq⟩ := h fuel rest p hrest
  refine ⟨q, ?_⟩
  simp only [Field.free, Field.of, hq]

/-! ### Members -/

/-- Members **make** one record of another: each is a field's, and its value is read back as what
that field puts into the record. -/
inductive Makes (fields : List (Field σ)) : List (String × Json) → σ → σ → Prop
  /-- No member changes nothing. -/
  | nil (a : σ) : Makes fields [] a a
  /-- A member changes the record by its field, and the members behind it go on from there. -/
  | cons {key : String} {v : Json} {f : Field σ} {put : σ → σ} {members : List (String × Json)}
    {a b : σ} (hfield : fields.find? (·.name = key) = some f) (hvalue : f.decode.ReadsBack v put)
    (hmembers : Makes fields members (put a) b) : Makes fields ((key, v) :: members) a b

namespace Makes

variable {fields : List (Field σ)} {members members' : List (String × Json)} {a b c : σ}

theorem append (h : Makes fields members a b) (h' : Makes fields members' b c) :
    Makes fields (members ++ members') a c := by
  induction h with
  | nil a => exact h'
  | cons hfield hvalue _ ih => exact .cons hfield hvalue (ih h')

/-- **A member** puts in what its field reads back. -/
theorem field {d : Decoder α} {name : String} {put : α → σ → σ} {v : Json} {x : α}
    (hfield : fields.find? (·.name = name) = some (.free name d put)) (h : d.ReadsBack v x)
    (hmembers : Makes fields members (put x a) b) : Makes fields ((name, v) :: members) a b :=
  .cons hfield (h.free name put) hmembers

end Makes

/-- Members as they stand **at the front of an object or behind another one**. -/
def membersFrom (first : Bool) : List (String × Json) → List Char
  | [] => []
  | (key, v) :: members =>
    lead first ++ stringChars key ++ ':' :: v.chars ++ furtherMembers members

theorem membersFrom_true (members : List (String × Json)) :
    membersFrom true members = memberChars members := by
  cases members with
  | nil => rfl
  | cons m members => exact (memberChars_cons m.1 m.2 members).symm

theorem membersFrom_false (members : List (String × Json)) :
    membersFrom false members = furtherMembers members := by
  cases members with
  | nil => rfl
  | cons m members => simp [membersFrom, furtherMembers, lead]

/-- **Members are read in a row into a record**, if each key is new when it comes. -/
theorem Makes.reads_foldMembers {fields : List (Field σ)} {members : List (String × Json)} {a b : σ}
    (h : Makes fields members a b) {names : List String} (hnodup : (members.map (·.1)).Nodup)
    (hnew : ∀ m ∈ members, m.1 ∉ names) {fuel : Nat} (hfuel : members.length < fuel)
    (fuel' : Nat) (first : Bool) :
    ∃ names', Reads
      (foldMembers
        (fun key (names, _) => if names.contains key then some (.duplicate key) else none)
        (readMember fuel' fields) fuel first (names, a))
      (membersFrom first members ++ ['\x7d']) (names', b) := by
  induction h generalizing names fuel first with
  | nil a =>
    obtain ⟨fuel, rfl⟩ := Nat.exists_eq_add_one_of_ne_zero (Nat.ne_zero_of_lt hfuel)
    exact ⟨names, foldMembers_nil _ _ fuel first (names, a)⟩
  | @cons key v f put members a b hfield hvalue _ ih =>
    obtain ⟨fuel, rfl⟩ := Nat.exists_eq_add_one_of_ne_zero (Nat.ne_zero_of_lt hfuel)
    rw [List.forall_mem_cons] at hnew
    rw [List.map_cons, List.nodup_cons] at hnodup
    have hnew' : ∀ m ∈ members, m.1 ∉ key :: names := fun m hm hmem => by
      rcases List.mem_cons.mp hmem with heq | hmem
      · exact hnodup.1 (List.mem_map.mpr ⟨m, hm, heq⟩)
      · exact hnew.2 m hm hmem
    obtain ⟨names', hrest⟩ := ih hnodup.2 hnew' (Nat.lt_of_succ_lt_succ hfuel) false
    have hread : Reads (readMember fuel' fields key (names, a)) v.chars (key :: names, put a) := by
      intro rest p hclosed
      obtain ⟨q, hq⟩ := hvalue fuel' rest p hclosed
      exact ⟨q, by simp only [readMember, hfield, hq]⟩
    have hrefuse : names.contains key = false := by simpa using hnew.1
    rw [membersFrom_false] at hrest
    have hturn : ReadsIf (True ∧ True)
        (foldMembers
          (fun key (names, _) => if names.contains key then some (.duplicate key) else none)
          (readMember fuel' fields) (fuel + 1) first (names, a))
        (lead first ++ stringChars key ++ ':' :: v.chars ++ (furtherMembers members ++ ['\x7d']))
        (names', b) :=
      foldMembers_cons (if_neg (by rw [hrefuse]; exact Bool.false_ne_true))
        (closed_furtherMembers members) (hread.readsIf trivial) (hrest.readsIf trivial)
    refine ⟨names', ?_⟩
    rw [membersFrom, List.append_assoc]
    exact hturn.1 ⟨trivial, trivial⟩

/-! ### Whole records -/

/-- Where nothing has to be there nothing is missing. -/
theorem missing?_eq_none_of_free {fields : List (Field σ)} (h : ∀ f ∈ fields, f.inObject = false)
    (names : List String) : missing? fields names = none := by
  rw [missing?, Option.map_eq_none_iff, List.find?_eq_none]
  intro f hf
  rw [h f hf, Bool.false_and]
  exact Bool.false_ne_true

/-- **A written record is read back**: members that make it of the empty record are decoded as that
record. -/
theorem Makes.ofText?_eq_ok {fields : List (Field σ)} {members : List (String × Json)}
    {empty a : σ} (h : Makes fields members empty a) (hnodup : (members.map (·.1)).Nodup)
    (hfree : ∀ f ∈ fields, f.inObject = false) (name : String) :
    (record name fields empty).ofText? (object members).compact = .ok a := by
  have hsymbols : Symbol.ofText (object members).compact =
      .char '\x7b' :: (written (membersFrom true members ++ ['\x7d']) ++ []) := by
    rw [compact, Symbol.ofText, String.toList_ofList, membersFrom_true, List.append_nil]
    rfl
  have hfuel : members.length < (Symbol.ofText (object members).compact).length := by
    have hmany := (length_le_furtherMembers members).1
    have hlt := length_furtherMembers_lt members
    rw [Symbol.ofText, compact, String.toList_ofList, List.length_map]
    omega
  obtain ⟨names, hmembers⟩ := h.reads_foldMembers hnodup (fun _ _ => List.not_mem_nil) hfuel
    (Symbol.ofText (object members).compact).length true
  obtain ⟨q, hq⟩ := hmembers [] (Position.start.after (.char '\x7b')) .nil
  have hopen : opening true (.start (Symbol.ofText (object members).compact)) =
      .ok (.object, .start (Symbol.ofText (object members).compact)) := by
    rw [hsymbols]
    rfl
  have hadvance : (Cursor.start (Symbol.ofText (object members).compact)).advance =
      ⟨written (membersFrom true members ++ ['\x7d']) ++ [],
        Position.start.after (.char '\x7b')⟩ := by
    rw [hsymbols]
    rfl
  simp only [ofText?, ofSymbols?, record, hopen, hadvance, hq, missing?_eq_none_of_free hfree]
  rfl

end Decoder

end Json

end Catalogue
