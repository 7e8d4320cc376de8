import GpuSched.Backoff
import GpuSched.Proofs.Respects

/-!
# Waits and clocks

A wait keeps what every question keeps, and where it ends with a yes it ends where the answer was
yes. By a clock that ends it is the same wait, as long as the clock can tell its times.
-/
namespace GpuSched

open Operation

variable {σ : Type} {ask : Operation σ Bool} {clock : Clock}

/-- Twice a shorter pause is a length of time as well. -/
theorem Clock.doubles_of_le {short long : Nat} (doubles : clock.doubles long = true)
    (le : short ≤ long) : clock.doubles short = true := by
  cases clock with
  | endless => rfl
  | ending left =>
    have fits : long * 2 < Clock.lengthLimit := of_decide_eq_true doubles
    exact decide_eq_true (Nat.lt_of_le_of_lt (Nat.mul_le_mul_right 2 le) fits)

namespace Backoff

/-- A clock can tell the times of a wait: when it ends, and twice each pause that it may come to. No
pause is longer than the longest one, nor than the first one and the time of the wait together. -/
structure Timely (clock : Clock) (backoff : Backoff) (timeout : Nat) : Prop where
  tells : clock.tells timeout = true
  doubles : clock.doubles (min (max backoff.longest backoff.initial) (backoff.initial + timeout)) =
    true

instance (clock : Clock) (backoff : Backoff) (timeout : Nat) :
    Decidable (backoff.Timely clock timeout) :=
  decidable_of_iff (clock.tells timeout = true ∧
    clock.doubles (min (max backoff.longest backoff.initial) (backoff.initial + timeout)) = true)
    ⟨fun ⟨tells, doubles⟩ => ⟨tells, doubles⟩, fun timely => ⟨timely.tells, timely.doubles⟩⟩

/-- A clock that does not end can tell every time. -/
theorem timely_endless (backoff : Backoff) (timeout : Nat) : backoff.Timely .endless timeout :=
  ⟨rfl, rfl⟩

/-- A pause that is doubled is spent before, so with what remains of the time it stays below a
bound; as long as the clock can double up to the bound, it could as well not end. -/
theorem poll_eq_endless {longest bound rounds delay remaining : Nat} (short : delay ≤ longest)
    (within : remaining ≠ 0 → delay + remaining ≤ bound)
    (doubles : clock.doubles (min longest bound) = true) :
    poll clock ask longest rounds delay remaining =
      poll .endless ask longest rounds delay remaining := by
  induction rounds generalizing delay remaining with
  | zero => rfl
  | succ rounds ih =>
    unfold poll
    congr 1
    funext answer
    by_cases spent : remaining = 0
    · simp only [if_pos spent]
    · have first : clock.doubles delay = true :=
        Clock.doubles_of_le doubles
          (Nat.le_min.mpr ⟨short, Nat.le_trans (Nat.le_add_right _ _) (within spent)⟩)
      have next : poll clock ask longest rounds (min (delay * 2) longest)
            (remaining - max 1 (min delay remaining)) =
          poll .endless ask longest rounds (min (delay * 2) longest)
            (remaining - max 1 (min delay remaining)) := by
        refine ih (Nat.min_le_right _ _) fun left => ?_
        have here := within spent
        omega
      have sure : Clock.doubles .endless delay = true := rfl
      simp only [if_neg spent, if_pos first, if_pos sure, next]

/-- A wait goes by a clock that can tell its times as by one that does not end. -/
theorem waitBy_eq_wait {backoff : Backoff} {timeout : Nat} (timely : backoff.Timely clock timeout) :
    backoff.waitBy clock timeout ask = backoff.wait timeout ask := by
  unfold wait waitBy
  rw [if_pos timely.tells, if_pos (timely_endless backoff timeout).tells]
  exact poll_eq_endless (Nat.le_max_right _ _) (fun _ => Nat.le_refl _) timely.doubles

/-- A wait respects what each question respects, whatever the clock can tell. -/
theorem respects_waitBy {related : σ → σ → Prop} [Std.Refl related] [IsTrans σ related]
    (asks : Respects related ask) (clock : Clock) (backoff : Backoff) (timeout : Nat) :
    Respects related (backoff.waitBy clock timeout ask) := by
  have polls : ∀ longest rounds delay remaining : Nat,
      Respects related (poll clock ask longest rounds delay remaining) := by
    intro longest rounds
    induction rounds with
    | zero => exact fun _ _ => respects_pure _
    | succ rounds ih =>
      intro delay remaining
      refine asks.bind fun answer => ?_
      split
      · exact respects_pure _
      · split
        · exact respects_pure _
        · split
          · exact ih _ _
          · exact respects_abort _
  unfold waitBy
  split
  · exact polls _ _ _ _
  · exact respects_abort _

/-- A wait keeps what every question keeps. -/
theorem yields_wait {bad : Failure → σ → Prop} {kept : σ → Prop}
    (each : ∀ state, kept state → ask.Yields state (fun _ after => kept after) bad)
    (backoff : Backoff) (timeout : Nat) {state : σ} (start : kept state) :
    (backoff.wait timeout ask).Yields state (fun _ after => kept after) bad := by
  have polls : ∀ longest rounds delay remaining : Nat, ∀ state : σ, kept state →
      (poll .endless ask longest rounds delay remaining).Yields state
        (fun _ after => kept after) bad := by
    intro longest rounds
    induction rounds with
    | zero => exact fun _ _ _ holds => holds
    | succ rounds ih =>
      intro delay remaining state holds
      unfold poll
      rw [yields_bind]
      refine (each state holds).imp fun answer after holds => ?_
      split
      · exact holds
      · split
        · exact holds
        · exact ih _ _ _ holds
  exact polls _ _ _ _ _ start

/-- A wait that ends with a yes ends where the answer was yes. If the first answer is yes, so is the
outcome. -/
theorem yields_wait_yes {met sure : σ → Prop}
    (each : ∀ state, ask.Yields state
      (fun answer after => (answer = true → met after) ∧ (sure state → answer = true))
      fun _ _ => False)
    (backoff : Backoff) (timeout : Nat) (state : σ) :
    (backoff.wait timeout ask).Yields state
      (fun answer after => (answer = true → met after) ∧ (sure state → answer = true))
      fun _ _ => False := by
  have polls : ∀ longest rounds delay remaining : Nat, ∀ state : σ,
      (poll .endless ask longest rounds delay remaining).Yields state
        (fun answer after => answer = true → met after) fun _ _ => False := by
    intro longest rounds
    induction rounds with
    | zero => exact fun _ _ _ yes => absurd yes (by decide)
    | succ rounds ih =>
      intro delay remaining state
      unfold poll
      rw [yields_bind]
      refine (each state).imp fun answer after heard => ?_
      split
      · exact fun _ => heard.1 ‹_›
      · split
        · exact fun yes => absurd yes (by decide)
        · exact ih _ _ _
  change (poll .endless ask _ (timeout + 1) backoff.initial timeout).Yields state _ _
  unfold poll
  rw [yields_bind]
  refine (each state).imp fun answer after heard => ?_
  split
  · exact ⟨fun _ => heard.1 ‹_›, fun _ => rfl⟩
  · have unsure : ¬ sure state := fun certain => absurd (heard.2 certain) ‹_›
    split
    · exact ⟨fun yes => absurd yes (by decide), fun certain => absurd certain unsure⟩
    · exact (polls _ _ _ _ _).imp fun _ _ found => ⟨found, fun certain => absurd certain unsure⟩

end Backoff

end GpuSched
