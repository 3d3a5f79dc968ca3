import Catalogue.Service.Paging
import Catalogue.Store.Statement
import Catalogue.Proofs.Decimal.Numeral

/-!
# Which numbers of rows can be asked for

A parameter asks for a number of rows by writing it, for no particular one by being absent or blank,
and for nothing else (`Catalogue.Service.ListParams.Asks`).
`Catalogue.Service.ListParams.window_accepts_exactly` says which windows can be asked for with which
parameters, and how all others are refused: the first parameter that asks for nothing is named, and
what stands between its blanks is quoted.

A number that a client asks for fits a signed word of 64 bits, as the database wants it. Nobody asks
whether the limit of the settings does: `Catalogue.Service.ListParams.window_fits` says that this is
the one way to a window which the database does not take.
-/

namespace Catalogue

namespace Service

namespace ListParams

/-! ### What a parameter asks for -/

/-- What a parameter **asks for**: no number in particular, or one that it writes. -/
inductive Asks : Option String → Option Nat → Prop where
  /-- Nothing is asked for without the parameter. -/
  | absent : Asks .none .none
  /-- Nothing is asked for by blanks. -/
  | blank {s : String} (h : Text.trim s = "") : Asks (some s) .none
  /-- A number is asked for by writing it, if it is not too great. -/
  | number {s : String} {n : Nat} (h : Numeral.Writes (Text.trim s) n) (hn : n ≤ 2 ^ 63 - 1) :
      Asks (some s) (some n)

/-- What is **wrong with a text** that asks for no number of rows. -/
inductive Amiss (t : String) : String → Prop where
  /-- It writes a number that only an unsigned word could hold. -/
  | tooGreat {n : Nat} (h : Numeral.Writes t n) (hlow : 2 ^ 63 ≤ n) (hhigh : n < 2 ^ 64) :
      Amiss t "must not exceed 9223372036854775807"
  /-- It writes no number that any word could hold. -/
  | noNumber (h : ∀ n, Numeral.Writes t n → 2 ^ 64 ≤ n) : Amiss t "expected a non-negative integer"

/-- How a parameter that asks for nothing is **refused**: by its name, and by the text between its
blanks. -/
def Refused (name : String) (s : Option String) (f : Fault) : Prop :=
  (∀ n, ¬Asks s n) ∧ ∃ raw why, s = some raw ∧ Amiss (Text.trim raw) why ∧
    f = .badRequest ("invalid " ++ name ++ " '" ++ Text.trim raw ++ "': " ++ why)

variable {name s : String} {n : Nat} {p : ListParams} {limits : Limits} {w : Window}

/-- No digits write nothing. -/
theorem ne_empty_of_writes (h : Numeral.Writes s n) : s ≠ "" := by
  rintro rfl
  obtain ⟨ds, hne, -, -, hs | hs⟩ := h
  · exact hne (List.map_eq_nil_iff.mp hs.symm)
  · cases hs

/-- A text that is not blank is looked at between its blanks. -/
theorem given?_of_trim_ne_empty (h : Text.trim s ≠ "") : given? (some s) = some (Text.trim s) := by
  simp [given?, h]

/-! ### One parameter -/

/-- What is asked for is what is read. -/
theorem count?_of_asks {param : Option String} {o : Option Nat} (h : Asks param o) (name : String) :
    count? name param = .ok o := by
  cases h with
  | absent => rfl
  | blank hblank => simp [count?, given?, hblank]
  | number hs hn =>
    have hle : _ ≤ greatestCount := hn
    simp only [count?, given?_of_trim_ne_empty (ne_empty_of_writes hs),
      Numeral.nat?_eq_some_iff.mpr hs, if_pos hle]

/-- A parameter asks for one thing at most. -/
theorem Asks.unique {param : Option String} {o o' : Option Nat} (h : Asks param o)
    (h' : Asks param o') : o = o' :=
  Except.ok.inj ((count?_of_asks h "").symm.trans (count?_of_asks h' ""))

/-- Nobody asks for more than a signed word can hold. -/
theorem Asks.le {param : Option String} (h : Asks param (some n)) : n ≤ 2 ^ 63 - 1 := by
  cases h
  assumption

/-- A text with something wrong is refused for that. -/
theorem count?_of_amiss {why : String} (hs : Text.trim s ≠ "") (h : Amiss (Text.trim s) why)
    (name : String) :
    count? name (some s) =
      .error (.badRequest ("invalid " ++ name ++ " '" ++ Text.trim s ++ "': " ++ why)) := by
  simp only [count?, given?_of_trim_ne_empty hs]
  cases h with
  | @tooGreat n hw hlow hhigh =>
    have hbeyond : ¬n ≤ greatestCount := fun hle =>
      Nat.not_succ_le_self _ (hlow.trans hle)
    have hsize : n < UInt64.size := hhigh
    simp only [Numeral.nat?_eq_some_iff.mpr hw, if_neg hbeyond, if_pos hsize]
    rfl
  | noNumber hnone =>
    cases hn : Numeral.nat? (Text.trim s) with
    | none => rfl
    | some n =>
      have hsize : ¬n < UInt64.size :=
        Nat.not_lt_of_le (hnone n (Numeral.nat?_eq_some_iff.mp hn))
      have hbeyond : ¬n ≤ greatestCount := fun hle => hsize (Nat.lt_of_le_of_lt hle (by decide))
      simp only [if_neg hbeyond, if_neg hsize]

/-- A parameter asks for something, or there is something wrong with it. -/
theorem asks_or_amiss (param : Option String) :
    (∃ o, Asks param o) ∨
      ∃ s why, param = some s ∧ Text.trim s ≠ "" ∧ Amiss (Text.trim s) why := by
  cases param with
  | none => exact Or.inl ⟨_, .absent⟩
  | some s =>
    by_cases hblank : Text.trim s = ""
    · exact Or.inl ⟨_, .blank hblank⟩
    · by_cases hword : ∃ n, Numeral.Writes (Text.trim s) n ∧ n < 2 ^ 64
      · obtain ⟨n, hs, hn⟩ := hword
        rcases Nat.lt_or_ge n (2 ^ 63) with hlow | hlow
        · exact Or.inl ⟨_, .number hs (Nat.le_pred_of_lt hlow)⟩
        · exact Or.inr ⟨s, _, rfl, hblank, .tooGreat hs hlow hn⟩
      · have hnone : ∀ n, Numeral.Writes (Text.trim s) n → 2 ^ 64 ≤ n := fun n hs =>
          Nat.le_of_not_lt fun hn => hword ⟨n, hs, hn⟩
        exact Or.inr ⟨s, _, rfl, hblank, .noNumber hnone⟩

/-- **A parameter is read as what it asks for.** -/
theorem count?_eq_ok_iff {param : Option String} {o : Option Nat} :
    count? name param = .ok o ↔ Asks param o := by
  refine ⟨fun h => ?_, fun h => count?_of_asks h name⟩
  rcases asks_or_amiss param with ⟨o', ho⟩ | ⟨s, why, rfl, hs, hwhy⟩
  · rw [count?_of_asks ho] at h
    cases h
    exact ho
  · rw [count?_of_amiss hs hwhy] at h
    cases h

/-- **A parameter that asks for nothing is refused.** -/
theorem count?_eq_error_iff {param : Option String} {f : Fault} :
    count? name param = .error f ↔ Refused name param f := by
  constructor
  · intro h
    have hnot : ∀ o, ¬Asks param o := by
      intro o ho
      rw [count?_of_asks ho] at h
      cases h
    rcases asks_or_amiss param with ⟨o, ho⟩ | ⟨s, why, rfl, hs, hwhy⟩
    · exact absurd ho (hnot o)
    · rw [count?_of_amiss hs hwhy] at h
      cases h
      exact ⟨hnot, s, why, rfl, hwhy, rfl⟩
  · rintro ⟨hnot, s, why, rfl, hwhy, rfl⟩
    exact count?_of_amiss (fun hblank => hnot _ (.blank hblank)) hwhy name

/-! ### Windows -/

/-- **Which windows can be asked for, and how.** A window is granted to parameters that both ask for
something, with the standard limit where none is asked for, and never more than the greatest one.
Otherwise the first parameter that asks for nothing is refused. -/
theorem window_accepts_exactly (p : ListParams) (limits : Limits) :
    (∀ w, p.window limits = .ok w ↔ ∃ offset limit, Asks p.offset offset ∧ Asks p.limit limit ∧
        w = ⟨offset.getD 0, min (limit.getD limits.standard.toNat) limits.most.toNat⟩) ∧
      ∀ f, p.window limits = .error f ↔ Refused "offset" p.offset f ∨
        (∃ offset, Asks p.offset offset) ∧ Refused "limit" p.limit f := by
  have hoffset : ∀ o, count? "offset" p.offset = .ok o ↔ Asks p.offset o := fun _ =>
    count?_eq_ok_iff
  have hlimit : ∀ o, count? "limit" p.limit = .ok o ↔ Asks p.limit o := fun _ => count?_eq_ok_iff
  simp only [← hoffset, ← hlimit, ← count?_eq_error_iff]
  unfold window
  cases count? "offset" p.offset with
  | error f => simp
  | ok offset =>
    cases count? "limit" p.limit with
    | error f => simp
    | ok limit => simp [Window.clamp, eq_comm]

/-- **A granted window fits the database, unless its limit is one of the settings.** It passes over
as many rows as a signed word can hold at most, and shows no more than the settings allow. It shows
more than a signed word can hold if no limit is asked for and both limits of the settings are as
great, and these are the windows that the database does not take. -/
theorem window_fits {p : ListParams} {limits : Limits} {w : Window}
    (h : p.window limits = .ok w) :
    w.offset ≤ 2 ^ 63 - 1 ∧ w.limit ≤ limits.most.toNat ∧
      (2 ^ 63 - 1 < w.limit ↔ Asks p.limit .none ∧
        2 ^ 63 - 1 < limits.standard.toNat ∧ 2 ^ 63 - 1 < limits.most.toNat) ∧
      (Store.Statement.windowFault? w = .none ↔ w.limit ≤ 2 ^ 63 - 1) := by
  obtain ⟨offset, limit, hoffset, hlimit, rfl⟩ := ((window_accepts_exactly p limits).1 w).mp h
  have hhalf : Word.half = 2 ^ 63 := rfl
  have hpassed : offset.getD 0 ≤ 2 ^ 63 - 1 := by
    cases offset with
    | none => exact Nat.zero_le _
    | some n => exact hoffset.le
  have hbeyond : 2 ^ 63 - 1 < min (limit.getD limits.standard.toNat) limits.most.toNat ↔
      Asks p.limit .none ∧ 2 ^ 63 - 1 < limits.standard.toNat ∧
        2 ^ 63 - 1 < limits.most.toNat := by
    rw [lt_min_iff]
    cases limit with
    | none => simp [hlimit]
    | some n =>
      have hasked : ¬Asks p.limit .none := fun hnone => by cases hlimit.unique hnone
      have hfits : ¬2 ^ 63 - 1 < n := Nat.not_lt_of_le hlimit.le
      simp only [Option.getD_some, hasked, hfits, false_and]
  refine ⟨hpassed, min_le_right _ _, hbeyond, ?_⟩
  simp only [Store.Statement.windowFault?, hhalf]
  generalize min (limit.getD limits.standard.toNat) limits.most.toNat = shown
  split <;> simp <;> omega

/-- A limit of the settings that only an unsigned word can hold. -/
theorem window_fits_barely :
    (⟨.none, some " +007 ", .none⟩ : ListParams).window ⟨0x8000000000000000, 0xFFFFFFFFFFFFFFFF⟩ =
        .ok ⟨7, 2 ^ 63⟩ ∧
      ((7 ≤ 2 ^ 63 - 1) ∧ 2 ^ 63 ≤ 2 ^ 64 - 1 ∧
        (2 ^ 63 - 1 < 2 ^ 63 ↔ Asks .none .none ∧ 2 ^ 63 - 1 < 2 ^ 63 ∧ 2 ^ 63 - 1 < 2 ^ 64 - 1) ∧
        (Store.Statement.windowFault? ⟨7, 2 ^ 63⟩ = .none ↔ 2 ^ 63 ≤ 2 ^ 63 - 1)) := by
  have h : (⟨.none, some " +007 ", .none⟩ : ListParams).window
      ⟨0x8000000000000000, 0xFFFFFFFFFFFFFFFF⟩ = .ok ⟨7, 2 ^ 63⟩ := by decide
  exact ⟨h, window_fits h⟩

/-- **The settings can grant what the database does not take**, and what no client could ask for. -/
theorem standard_limit_beyond_words :
    none.window ⟨0x8000000000000000, 0xFFFFFFFFFFFFFFFF⟩ = .ok ⟨0, 2 ^ 63⟩ ∧
      Store.Statement.windowFault? ⟨0, 2 ^ 63⟩ =
        some (Store.Statement.refusal "datatype mismatch") := by
  constructor <;> decide

end ListParams

end Service

end Catalogue
