import Catalogue.Database.Pool
import Mathlib.Algebra.Ring.Nat

/-!
# What trying again comes to

Attempts that fail are made again until one succeeds, or until as many have been made again as the
settings allow. Every attempt but the last has failed, the last one decides, and each wait between
two of them is twice the one before: such a course is a `Catalogue.Retry.Course.Proper` one, and
every course is (`Catalogue.Retry.run_proper`).

The waits double only as long as they can be counted (`Catalogue.Retry.Countable`): the factor is
kept in 32 bits and is zero from the thirty-third retry on, and a wait that does not fit 64 bits is
the end. The failures are counted in 32 bits, too, and where as many are allowed as can be counted,
their count goes back to zero instead of being too great
(`Catalogue.Retry.turn_error_of_uncounted`).
-/

namespace Catalogue

namespace Retry

/-! ### Waits -/

/-- The wait behind so many retries **can be counted**: the power of two in 32 bits, and the seconds
in 64. -/
def Countable (r : Retry) (k : Nat) : Prop := 2 ^ k < 2 ^ 32 ∧ r.delay.toNat * 2 ^ k < 2 ^ 64

variable {ε α : Type} {r : Retry} {attempt : Nat → Except ε α}

theorem factor_of_lt {k : Nat} (hk : k < 32) : (factor k).toNat = 2 ^ k := by
  have hsize : 2 ^ k < UInt32.size := Nat.pow_lt_pow_right (by decide) hk
  rw [factor, if_pos hk]
  exact UInt32.toNat_ofNat_of_lt hsize

/-- A wait that can be counted is the one that is due. -/
theorem wait?_of_countable {k : Nat} (h : r.Countable k) :
    r.wait? k = some (r.delay.toNat * 2 ^ k) := by
  have hk : k < 32 := (Nat.pow_lt_pow_iff_right (by decide)).mp h.1
  simp only [wait?, factor_of_lt hk]
  exact if_pos h.2

/-- There is no wait only where it cannot be counted. -/
theorem not_countable_of_wait? {k : Nat} (h : r.wait? k = none) : ¬r.Countable k := by
  intro hk
  rw [wait?_of_countable hk] at h
  cases h

/-! ### One attempt -/

theorem toNat_ofNat_add_one {made : Nat} (h : made + 1 < 2 ^ 32) :
    (UInt32.ofNat made + 1).toNat = made + 1 := by
  have hmade : (UInt32.ofNat made).toNat = made :=
    UInt32.toNat_ofNat_of_lt (Nat.lt_of_succ_lt h)
  rw [UInt32.toNat_add, hmade]
  exact Nat.mod_eq_of_lt h

/-- A failure with another attempt to come leads to a wait, if that can be counted. -/
theorem turn_error_of_lt {made : Nat} (h : made < r.times.toNat) (e : ε) :
    (r.turn (UInt32.ofNat made) (.error e) : Turn ε α) =
      (r.wait? made).elim (.over .overflow) .again := by
  have hsize := r.times.toNat_lt
  have hcount := toNat_ofNat_add_one (show made + 1 < 2 ^ 32 by omega)
  have hmore : ¬r.times < UInt32.ofNat made + 1 := by
    rw [UInt32.lt_iff_toNat_lt, hcount]
    omega
  simp only [turn, if_neg hmore, hcount, Nat.add_sub_cancel]
  cases r.wait? made <;> rfl

/-- The failure of the last attempt is the end, if it can be counted. -/
theorem turn_error_of_eq (h : r.times.toNat + 1 < 2 ^ 32) (e : ε) :
    (r.turn (UInt32.ofNat r.times.toNat) (.error e) : Turn ε α) = .over (.failed e) := by
  have hmore : r.times < UInt32.ofNat r.times.toNat + 1 := by
    rw [UInt32.lt_iff_toNat_lt, toNat_ofNat_add_one h]
    omega
  simp only [turn, if_pos hmore]

/-- **The failure of the last attempt is not the end if it cannot be counted**: the count of
failures is back at zero, and the attempts go on with the first wait. -/
theorem turn_error_of_uncounted (h : r.times.toNat + 1 = 2 ^ 32) (e : ε) :
    (r.turn (UInt32.ofNat r.times.toNat) (.error e) : Turn ε α) = .again r.delay.toNat := by
  have hzero : UInt32.ofNat r.times.toNat + 1 = 0 := by
    rw [UInt32.ofNat_toNat, ← UInt32.toNat_inj, UInt32.toNat_add]
    exact (congrArg (· % 2 ^ 32) h).trans (Nat.mod_self _)
  have hmore : ¬r.times < UInt32.ofNat r.times.toNat + 1 := by
    rw [hzero]
    exact UInt32.not_lt_zero
  have hwait : r.wait? 0 = some r.delay.toNat := by
    have h := wait?_of_countable (r := r) (k := 0) ⟨by decide, by simpa using r.delay.toNat_lt⟩
    rwa [pow_zero, Nat.mul_one] at h
  have hfirst : (UInt32.ofNat r.times.toNat + 1).toNat - 1 = 0 := by
    rw [hzero]
    rfl
  simp only [turn, if_neg hmore, hfirst, hwait]

/-! ### All attempts -/

/-- The course of attempts as it is **meant to be**. -/
structure Course.Proper (r : Retry) (attempt : Nat → Except ε α) (c : Course ε α) : Prop where
  /-- There is an attempt. -/
  attempts_pos : 0 < c.attempts
  /-- There is one attempt more than may be made again, at most. -/
  attempts_le : c.attempts ≤ r.times.toNat + 1
  /-- All attempts before the last have failed. -/
  failed_before : ∀ k, k + 1 < c.attempts → ∃ e, attempt k = .error e
  /-- What succeeds is the last attempt. -/
  of_connected : ∀ a, c.outcome = .connected a → attempt (c.attempts - 1) = .ok a
  /-- What fails is the last attempt that may be made, and the attempts can be counted. -/
  of_failed : ∀ e, c.outcome = .failed e → attempt (c.attempts - 1) = .error e ∧
    c.attempts = r.times.toNat + 1 ∧ c.attempts < 2 ^ 32
  /-- A count fails only where there is a wait, behind a failed attempt, that cannot be counted. -/
  of_overflow : c.outcome = .overflow → ∃ k, k < c.attempts ∧ k < r.times.toNat ∧
    (∃ e, attempt k = .error e) ∧ ¬r.Countable k
  /-- There is a wait between each two attempts that follow each other. -/
  length_waits : c.waits.length + 1 = c.attempts
  /-- The wait before each retry is twice the one before it, as long as it can be counted. -/
  wait_eq : ∀ k, k + 1 < c.attempts → r.Countable k →
    c.waits[k]? = some (r.delay.toNat * 2 ^ k)

/-- What holds behind so many attempts that have failed, with others to come: the waits were those
that were due, and there are no more attempts than may be made, unless these cannot be counted. -/
structure Underway (r : Retry) (attempt : Nat → Except ε α) (made : Nat) (waits : List Nat) :
    Prop where
  failed : ∀ k < made, ∃ e, attempt k = .error e
  length_waits : waits.length = made
  wait_eq : ∀ k < made, r.Countable k → waits.reverse[k]? = some (r.delay.toNat * 2 ^ k)
  made_le : r.times.toNat + 1 < 2 ^ 32 → made ≤ r.times.toNat

/-- Too many retries to be counted come with waits that cannot be counted either. -/
theorem not_countable_of_le {k : Nat} (hk : 32 ≤ k) : ¬r.Countable k := fun h =>
  Nat.not_lt_of_le (Nat.pow_le_pow_right (by decide) hk) h.1

/-- One more failure leaves the attempts underway. -/
theorem Underway.again {made w : Nat} {waits : List Nat} (h : Underway r attempt made waits) {e : ε}
    (he : attempt made = .error e) (hw : r.Countable made → w = r.delay.toNat * 2 ^ made)
    (hmade : r.times.toNat + 1 < 2 ^ 32 → made < r.times.toNat) :
    Underway r attempt (made + 1) (w :: waits) where
  failed k hk := (Nat.lt_succ_iff_lt_or_eq.mp hk).elim (h.failed k) fun hk => ⟨e, hk ▸ he⟩
  length_waits := congrArg (· + 1) h.length_waits
  wait_eq k hk hc := by
    have hlength : waits.reverse.length = made := List.length_reverse.trans h.length_waits
    rw [List.reverse_cons]
    rcases Nat.lt_succ_iff_lt_or_eq.mp hk with hlt | rfl
    · rw [List.getElem?_append_left (hlength.symm ▸ hlt)]
      exact h.wait_eq k hlt hc
    · rw [List.getElem?_append_right (Nat.le_of_eq hlength), hlength, Nat.sub_self, hw hc]
      rfl
  made_le := hmade

/-- A course that is over with one more attempt is proper if that attempt is what is told of it. -/
theorem Underway.proper_of_over {made : Nat} {waits : List Nat} {o : Outcome ε α}
    (h : Underway r attempt made waits) (hle : made ≤ r.times.toNat)
    (hconnected : ∀ a, o = .connected a → attempt made = .ok a)
    (hfailed : ∀ e, o = .failed e →
      attempt made = .error e ∧ made = r.times.toNat ∧ made + 1 < 2 ^ 32)
    (hoverflow : o = .overflow → made < r.times.toNat ∧ (∃ e, attempt made = .error e) ∧
      ¬r.Countable made) :
    (⟨made + 1, waits.reverse, o⟩ : Course ε α).Proper r attempt where
  attempts_pos := Nat.succ_pos made
  attempts_le := Nat.succ_le_succ hle
  failed_before k hk := h.failed k (Nat.lt_of_succ_lt_succ hk)
  of_connected := hconnected
  of_failed e he :=
    ⟨(hfailed e he).1, congrArg (· + 1) (hfailed e he).2.1, (hfailed e he).2.2⟩
  of_overflow ho := ⟨made, Nat.lt_succ_self made, hoverflow ho⟩
  length_waits := congrArg (· + 1) (List.length_reverse.trans h.length_waits)
  wait_eq k hk := h.wait_eq k (Nat.lt_of_succ_lt_succ hk)

/-- A course that is still underway behind all attempts has not been able to count them. -/
theorem Underway.proper_of_uncounted {waits : List Nat}
    (h : Underway r attempt (r.times.toNat + 1) waits) :
    (⟨r.times.toNat + 1, waits.tail.reverse, .overflow⟩ : Course ε α).Proper r attempt := by
  -- only the greatest number of times gets here, and there the thirty-third wait was not counted
  have hmany : 32 < r.times.toNat := by
    by_contra hfew
    have := h.made_le (by omega)
    omega
  obtain ⟨w, earlier, rfl⟩ := List.exists_cons_of_length_eq_add_one h.length_waits
  have hlength : earlier.length = r.times.toNat := Nat.succ.inj h.length_waits
  exact {
    attempts_pos := Nat.succ_pos _
    attempts_le := Nat.le_refl _
    failed_before := fun k hk => h.failed k (Nat.lt_of_succ_lt hk)
    of_connected := fun a ha => by cases ha
    of_failed := fun e he => by cases he
    of_overflow := fun _ => ⟨32, Nat.lt_succ_of_lt hmany, hmany,
      h.failed 32 (Nat.lt_succ_of_lt hmany), not_countable_of_le (Nat.le_refl 32)⟩
    length_waits := congrArg (· + 1) (List.length_reverse.trans hlength)
    wait_eq := fun k hk hc => by
      have hwait := h.wait_eq k (Nat.lt_of_succ_lt hk) hc
      have hin : k < earlier.reverse.length := by
        rw [List.length_reverse, hlength]
        exact Nat.lt_of_succ_lt_succ hk
      rwa [List.reverse_cons, List.getElem?_append_left hin] at hwait }

/-- **A course that is underway comes to its proper end**: by induction on the attempts that are
left, each of which is the last one or leaves the course underway. -/
theorem Underway.goOn_proper {most made : Nat} {waits : List Nat}
    (h : Underway r attempt made waits) (hmost : made + most = r.times.toNat + 1) :
    (goOn r attempt most made waits).Proper r attempt := by
  induction most generalizing made waits with
  | zero =>
    obtain rfl : made = r.times.toNat + 1 := hmost
    exact h.proper_of_uncounted
  | succ most ih =>
    have hle : made ≤ r.times.toNat := by omega
    cases hattempt : attempt made with
    | ok a =>
      simp only [goOn, hattempt, turn]
      refine h.proper_of_over hle (fun b hb => ?_) (fun e he => ?_) fun ho => ?_
      · cases hb
        exact hattempt
      · cases he
      · cases ho
    | error e =>
      rcases Nat.lt_or_eq_of_le hle with hlt | rfl
      · simp only [goOn, hattempt, turn_error_of_lt hlt]
        cases hwait : r.wait? made with
        | none =>
          refine h.proper_of_over hle (fun b hb => ?_) (fun f hf => ?_) fun _ =>
            ⟨hlt, ⟨e, hattempt⟩, not_countable_of_wait? hwait⟩
          · cases hb
          · cases hf
        | some w =>
          have hdue (hc : r.Countable made) : w = r.delay.toNat * 2 ^ made :=
            Option.some.inj (hwait.symm.trans (wait?_of_countable hc))
          exact ih (h.again hattempt hdue fun _ => hlt) (by omega)
      · -- the last attempt that is allowed: its failure is one too many if that many can be counted
        by_cases hcount : r.times.toNat + 1 < 2 ^ 32
        · simp only [goOn, hattempt, turn_error_of_eq hcount]
          refine h.proper_of_over hle (fun b hb => ?_) (fun f hf => ?_) fun ho => ?_
          · cases hb
          · cases hf
            exact ⟨hattempt, rfl, hcount⟩
          · cases ho
        · have hall : r.times.toNat + 1 = 2 ^ 32 := by
            have := r.times.toNat_lt
            omega
          have hdue (hc : r.Countable r.times.toNat) :
              r.delay.toNat = r.delay.toNat * 2 ^ r.times.toNat :=
            absurd hc (not_countable_of_le (by omega))
          simp only [goOn, hattempt, turn_error_of_uncounted hall]
          exact ih (h.again hattempt hdue fun hlt => absurd hlt hcount) (by omega)

/-- **Attempts are made again as they are meant to be**, in their number, in what they come to and
in the waits between them, until a wait is due that cannot be counted. -/
theorem run_proper (r : Retry) (attempt : Nat → Except ε α) :
    (r.run attempt).Proper r attempt := by
  have hstart : Underway r attempt 0 [] :=
    { failed := fun k hk => absurd hk (Nat.not_lt_zero k)
      length_waits := rfl
      wait_eq := fun k hk => absurd hk (Nat.not_lt_zero k)
      made_le := fun _ => Nat.zero_le _ }
  exact hstart.goOn_proper (Nat.zero_add _)

/-- **The thirty-third retry is made at once**, where it should have waited the longest; a wait that
cannot be doubled ends the attempts; and of an address that cannot be shown no failure is
reported. -/
theorem thirty_third_retry_at_once :
    ((⟨33, 1⟩ : Retry).run fun _ => (.error () : Except Unit Unit)) =
        ⟨34, (List.range 32).map (1 * 2 ^ ·) ++ [0], .failed ()⟩ ∧
      ((⟨2, 0x8000000000000000⟩ : Retry).run fun _ => (.error () : Except Unit Unit)) =
        ⟨2, [0x8000000000000000], .overflow⟩ ∧
      Pool.connect ⟨[], []⟩ "x@://" ⟨33, 0⟩ =
        ⟨1, [], .failed (.configuration "relative URL without a base")⟩ ∧
      Pool.Fault.display? "x@://" (.configuration "relative URL without a base") = none := by
  refine ⟨by decide, by decide, by decide, by decide⟩

end Retry

end Catalogue
