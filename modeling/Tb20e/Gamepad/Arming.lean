/-
# Gamepad.Arming -- when the neutral-toggle gate lets a message command motion

The gate remembers three things: since when the sticks have been in neutral, the
time of the last message and whether the button was pressed in it.
`Remembers` says what these are worth in terms of the calls made so far, one
clause for each state; `allowed_iff_armed` reads the gate's answer off the calls
alone.

Calls are numbered from zero.  `gateAt n` is the gate before call `n`.
-/
import Tb20e.Control.GamepadSafety
import Mathlib.Tactic.Linarith

namespace Tb20e.Gamepad

set_option autoImplicit false

open Tb20e.Theory Tb20e.Control
open Tb20e.Theory (Double)

/-- A call of the gate. -/
inductive GateCall where
  | update (axes : List Double) (buttonPressed : Bool) (nowSec : Double)
  | reset
  deriving DecidableEq

namespace GateCall

variable (mapping : Mapping)

def apply (gate : NeutralToggleGate) : GateCall → NeutralToggleGate × Bool
  | .update axes buttonPressed nowSec => gate.update axes mapping buttonPressed nowSec
  | .reset => (gate.reset, false)

/-- A finite time, and valid, finite mapped axes. -/
def readable : GateCall → Bool
  | .update axes _ nowSec => NeutralToggleGate.isReadable axes mapping nowSec
  | .reset => false

def neutral : GateCall → Bool
  | .update axes _ _ => NeutralToggleGate.isNeutral axes mapping
  | .reset => false

def pressed : GateCall → Bool
  | .update _ buttonPressed _ => buttonPressed
  | .reset => false

/-- The time of a call that has a finite one. -/
def time : GateCall → Time
  | .update _ _ (.finite nowSec) => nowSec
  | _ => 0

end GateCall

section Gate

variable (mapping : Mapping) (holdSec timeoutSec : Double) (calls : ℕ → GateCall)

/-- The gate before call `n`, starting from a fresh one. -/
def gateAt : ℕ → NeutralToggleGate
  | 0 => NeutralToggleGate.fresh holdSec timeoutSec
  | n + 1 => ((calls n).apply mapping (gateAt n)).1

/-- What call `n` returns. -/
def allowedAt (n : ℕ) : Bool := ((calls n).apply mapping (gateAt mapping holdSec timeoutSec calls n)).2

/-- Two calls that follow each other without a gap. -/
def InTime (earlier later : GateCall) : Prop :=
  0 ≤ later.time - earlier.time ∧ Double.finite (later.time - earlier.time) ≤ timeoutSec

/-- Calls `a..n` are readable updates, each in time after the one before. -/
structure Chained (a n : ℕ) : Prop where
  readable : ∀ i, a ≤ i → i ≤ n → (calls i).readable mapping = true
  inTime : ∀ i, a ≤ i → i < n → InTime timeoutSec (calls i) (calls (i + 1))

/-- Calls `a..n` are neutral with the button released. -/
def Resting (a n : ℕ) : Prop :=
  ∀ i, a ≤ i → i ≤ n → (calls i).neutral mapping = true ∧ (calls i).pressed = false

/-- Calls `a..n` arm the gate at call `p` and leave it armed: a chain that rests
for the hold time up to the call before `p`, a neutral press at `p` that finds
the gate not armed, and no press after that. -/
structure Armed (a p n : ℕ) : Prop where
  chained : Chained mapping timeoutSec calls a n
  resting : Resting mapping calls a (p - 1)
  held : holdSec ≤ Double.finite ((calls (p - 1)).time - (calls a).time)
  neutral : (calls p).neutral mapping = true
  pressed : (calls p).pressed = true
  disarmed : (gateAt mapping holdSec timeoutSec calls p).armed = false
  unbroken : ∀ i, p < i → i ≤ n → ¬ ((calls i).pressed = true ∧ (calls (i - 1)).pressed = false)

end Gate

section Chains

variable {mapping : Mapping} {timeoutSec : Double} {calls : ℕ → GateCall} {a n : ℕ}

theorem Chained.upTo (chained : Chained mapping timeoutSec calls a n) {m : ℕ} (shorter : m ≤ n) :
    Chained mapping timeoutSec calls a m where
  readable i after before := chained.readable i after (before.trans shorter)
  inTime i after before := chained.inTime i after (before.trans_le shorter)

theorem Chained.single (readable : (calls n).readable mapping = true) :
    Chained mapping timeoutSec calls n n where
  readable i after before := by rwa [le_antisymm before after]
  inTime i after before := absurd before (not_lt.mpr after)

theorem Chained.succ (chained : Chained mapping timeoutSec calls a n)
    (readable : (calls (n + 1)).readable mapping = true)
    (inTime : InTime timeoutSec (calls n) (calls (n + 1))) :
    Chained mapping timeoutSec calls a (n + 1) where
  readable i after before := by
    rcases before.eq_or_lt with rfl | earlier
    · exact readable
    · exact chained.readable i after (Nat.lt_succ_iff.mp earlier)
  inTime i after before := by
    rcases (Nat.lt_succ_iff.mp before).eq_or_lt with rfl | earlier
    · exact inTime
    · exact chained.inTime i after earlier

/-- Along a chain time does not go back. -/
theorem Chained.time_le (chained : Chained mapping timeoutSec calls a n) (after : a ≤ n) :
    (calls a).time ≤ (calls n).time := by
  induction n, after using Nat.le_induction with
  | base => exact le_rfl
  | succ m after ih =>
      exact (ih (chained.upTo m.le_succ)).trans
        (sub_nonneg.mp (chained.inTime m after m.lt_succ_self).1)

theorem Resting.single (neutral : (calls n).neutral mapping = true)
    (released : (calls n).pressed = false) : Resting mapping calls n n := by
  intro i after before
  rw [le_antisymm before after]
  exact ⟨neutral, released⟩

theorem Resting.succ (resting : Resting mapping calls a n)
    (neutral : (calls (n + 1)).neutral mapping = true)
    (released : (calls (n + 1)).pressed = false) : Resting mapping calls a (n + 1) := by
  intro i after before
  rcases before.eq_or_lt with rfl | earlier
  · exact ⟨neutral, released⟩
  · exact resting i after (Nat.lt_succ_iff.mp earlier)

theorem Resting.upTo (resting : Resting mapping calls a n) {m : ℕ} (shorter : m ≤ n) :
    Resting mapping calls a m :=
  fun i after before => resting i after (before.trans shorter)

end Chains

/-! ## What one call does -/

section Calls

variable {mapping : Mapping} {call : GateCall}

theorem apply_of_unreadable (gate : NeutralToggleGate) (unreadable : call.readable mapping = false) :
    call.apply mapping gate = (gate.reset, false) := by
  cases call with
  | reset => rfl
  | update axes buttonPressed nowSec => exact gate.update_of_unreadable unreadable

/-- A readable call is an update at its time. -/
theorem exists_update_of_readable (readable : call.readable mapping = true) :
    ∃ axes, call = .update axes call.pressed (Double.finite call.time) ∧
      NeutralToggleGate.isReadable axes mapping (Double.finite call.time) = true ∧
      call.neutral mapping = NeutralToggleGate.isNeutral axes mapping := by
  cases call with
  | reset => cases readable
  | update axes buttonPressed nowSec =>
      cases nowSec with
      | finite q => exact ⟨axes, rfl, readable, rfl⟩
      | inf negative => cases readable
      | nan => cases readable

theorem apply_of_sample {gate : NeutralToggleGate} (readable : call.readable mapping = true)
    (inTime : gate.isGap (Double.finite call.time) = false) :
    call.apply mapping gate =
      gate.sample (call.neutral mapping) call.pressed (Double.finite call.time) := by
  obtain ⟨axes, isUpdate, legible, sameNeutral⟩ := exists_update_of_readable readable
  rw [sameNeutral, isUpdate]
  exact gate.update_of_sample legible inTime

theorem apply_of_gap {gate : NeutralToggleGate} (readable : call.readable mapping = true)
    (gap : gate.isGap (Double.finite call.time) = true) :
    call.apply mapping gate =
      gate.reset.sample (call.neutral mapping) call.pressed (Double.finite call.time) := by
  obtain ⟨axes, isUpdate, legible, sameNeutral⟩ := exists_update_of_readable readable
  rw [sameNeutral, isUpdate]
  exact (gate.update_of_gap gap).trans (gate.reset.update_of_sample legible gate.isGap_reset)

/-- A gate that holds the time of an earlier call sees a gap exactly when the
two calls are not in time. -/
theorem isGap_eq_false_iff {gate : NeutralToggleGate} {earlier : GateCall}
    (last : gate.lastSampleTime = Double.finite earlier.time) (positive : 0 < gate.timeoutSec) :
    gate.isGap (Double.finite call.time) = false ↔ InTime gate.timeoutSec earlier call := by
  have total : (¬ Double.finite (call.time - earlier.time) > gate.timeoutSec) ↔
      Double.finite (call.time - earlier.time) ≤ gate.timeoutSec := by
    rcases Double.pos_cases positive with ⟨q, isFinite, -⟩ | isInf
    · rw [isFinite]; simp [not_lt]
    · rw [isInf]; exact ⟨fun _ => rfl, fun _ impossible => by cases impossible⟩
  unfold NeutralToggleGate.isGap InTime
  simp only [last, Double.isFinite_finite, Bool.true_and, Bool.or_eq_false_iff,
    decide_eq_false_iff_not, Double.sub_finite, total, Double.finite_lt_finite, not_lt, sub_nonneg]

end Calls

/-! ## What the gate remembers -/

section Memory

variable (mapping : Mapping) (holdSec timeoutSec : Double) (calls : ℕ → GateCall)

/-- The chain of resting calls that ends with call `m` starts at the time of call `a`. -/
structure RestsSince (a m : ℕ) : Prop where
  before : a ≤ m
  chained : Chained mapping timeoutSec calls a m
  resting : Resting mapping calls a m
  earliest : ∀ b, b ≤ m → Chained mapping timeoutSec calls b m → Resting mapping calls b m →
    (calls a).time ≤ (calls b).time

/-- What a gate is worth right after the readable call `m`. -/
structure Follows (gate : NeutralToggleGate) (m : ℕ) : Prop where
  readable : (calls m).readable mapping = true
  hold : gate.holdSec = holdSec
  timeout : gate.timeoutSec = timeoutSec
  last : gate.lastSampleTime = Double.finite (calls m).time
  previous : gate.previousButtonPressed = (calls m).pressed
  waitingNeutral : gate.state = .waitingNeutral →
    (gate.neutralSince = .nan ∧ ∀ b, b ≤ m → ¬ Resting mapping calls b m) ∨
      ∃ a, RestsSince mapping timeoutSec calls a m ∧
        gate.neutralSince = Double.finite (calls a).time ∧
        ¬ holdSec ≤ Double.finite ((calls m).time - (calls a).time)
  waitingPress : gate.state = .waitingPress →
    ∃ a, a ≤ m ∧ Chained mapping timeoutSec calls a m ∧ Resting mapping calls a m ∧
      holdSec ≤ Double.finite ((calls m).time - (calls a).time)
  active : gate.state = .active →
    ∃ a p, a < p ∧ p ≤ m ∧ Armed mapping holdSec timeoutSec calls a p m

/-- A gate is as its constructor left it and no readable call comes right before,
or it follows a readable call. -/
inductive Remembers (gate : NeutralToggleGate) : ℕ → Prop
  | fresh {n : ℕ} (isFresh : gate = NeutralToggleGate.fresh holdSec timeoutSec)
      (first : ∀ m, n = m + 1 → (calls m).readable mapping = false) : Remembers gate n
  | follows {m : ℕ} (follows : Follows mapping holdSec timeoutSec calls gate m) :
      Remembers gate (m + 1)

variable {mapping holdSec timeoutSec calls}

/-- A later instant has waited at least as long. -/
theorem held_mono {hold : Double} {waited longer : Time} (held : hold ≤ Double.finite waited)
    (le : waited ≤ longer) : hold ≤ Double.finite longer := by
  cases hold with
  | finite q => exact (Double.finite_le_finite _ _).mpr (((Double.finite_le_finite _ _).mp held).trans le)
  | inf negative => cases negative <;> [cases held; rfl]
  | nan => cases held

theorem not_resting_of_not_neutral {m : ℕ} (away : (calls m).neutral mapping = false) (b : ℕ)
    (before : b ≤ m) : ¬ Resting mapping calls b m := fun resting => by
  rw [(resting m before le_rfl).1] at away; cases away

theorem not_resting_of_pressed {m : ℕ} (pressed : (calls m).pressed = true) (b : ℕ)
    (before : b ≤ m) : ¬ Resting mapping calls b m := fun resting => by
  rw [(resting m before le_rfl).2] at pressed; cases pressed

/-- A resting call that no chain of resting calls leads up to starts one. -/
theorem RestsSince.start {n : ℕ} (readable : (calls n).readable mapping = true)
    (neutral : (calls n).neutral mapping = true) (released : (calls n).pressed = false)
    (alone : ∀ b, b < n →
      ¬ (Chained mapping timeoutSec calls b n ∧ Resting mapping calls b n)) :
    RestsSince mapping timeoutSec calls n n where
  before := le_rfl
  chained := .single readable
  resting := .single neutral released
  earliest b before chained resting := by
    rcases before.eq_or_lt with rfl | earlier
    · exact le_rfl
    · exact absurd ⟨chained, resting⟩ (alone b earlier)

/-- One more resting call goes on from where the chain started. -/
theorem RestsSince.succ {a m : ℕ} (rests : RestsSince mapping timeoutSec calls a m)
    (readable : (calls (m + 1)).readable mapping = true)
    (inTime : InTime timeoutSec (calls m) (calls (m + 1)))
    (neutral : (calls (m + 1)).neutral mapping = true)
    (released : (calls (m + 1)).pressed = false) :
    RestsSince mapping timeoutSec calls a (m + 1) where
  before := rests.before.trans m.le_succ
  chained := rests.chained.succ readable inTime
  resting := rests.resting.succ neutral released
  earliest b before chained resting := by
    rcases before.eq_or_lt with rfl | earlier
    · exact (rests.chained.succ readable inTime).time_le (rests.before.trans m.le_succ)
    · exact rests.earliest b (Nat.lt_succ_iff.mp earlier) (chained.upTo m.le_succ)
        (resting.upTo m.le_succ)

/-- A readable call `m` of a gate that waits for neutral: `since` is what
`neutralSince` becomes if the call rests. -/
theorem follows_of_waitingNeutral {gate : NeutralToggleGate} {m : ℕ}
    (waiting : gate.state = .waitingNeutral) (hold : gate.holdSec = holdSec)
    (timeout : gate.timeoutSec = timeoutSec) (readable : (calls m).readable mapping = true)
    (since : (calls m).neutral mapping = true → (calls m).pressed = false →
      ∃ a, RestsSince mapping timeoutSec calls a m ∧
        (if gate.neutralSince.isFinite = false then Double.finite (calls m).time
          else gate.neutralSince) = Double.finite (calls a).time) :
    Follows mapping holdSec timeoutSec calls
      (gate.sample ((calls m).neutral mapping) (calls m).pressed (Double.finite (calls m).time)).1
      m := by
  unfold NeutralToggleGate.sample
  rw [waiting]
  cases neutral : (calls m).neutral mapping with
  | false =>
      constructor <;> simp [readable, hold, timeout]
      exact not_resting_of_not_neutral neutral
  | true =>
      cases pressed : (calls m).pressed with
      | true =>
          constructor <;> simp [readable, hold, timeout, pressed]
          exact not_resting_of_pressed pressed
      | false =>
          obtain ⟨a, rests, same⟩ := since neutral pressed
          constructor <;> simp [readable, hold, timeout, pressed, same]
          · exact fun early => ⟨a, rests, rfl, early⟩
          · exact fun held => ⟨a, rests.before, rests.chained, rests.resting, held⟩
          · split <;> simp

/-- The first readable call of a fresh gate. -/
theorem follows_of_fresh {n : ℕ} (readable : (calls n).readable mapping = true)
    (alone : ∀ b, b < n → ¬ Chained mapping timeoutSec calls b n) :
    Follows mapping holdSec timeoutSec calls
      ((NeutralToggleGate.fresh holdSec timeoutSec).sample ((calls n).neutral mapping)
        (calls n).pressed (Double.finite (calls n).time)).1 n := by
  refine follows_of_waitingNeutral rfl rfl rfl readable ?_
  intro neutral released
  refine ⟨n, .start readable neutral released ?_, rfl⟩
  intro b earlier resting
  exact alone b earlier resting.1

/-- Being armed lasts while no message is a fresh press. -/
theorem Armed.succ {a p m : ℕ} (armed : Armed mapping holdSec timeoutSec calls a p m)
    (readable : (calls (m + 1)).readable mapping = true)
    (inTime : InTime timeoutSec (calls m) (calls (m + 1)))
    (quiet : ¬ ((calls (m + 1)).pressed = true ∧ (calls m).pressed = false)) :
    Armed mapping holdSec timeoutSec calls a p (m + 1) where
  chained := armed.chained.succ readable inTime
  resting := armed.resting
  held := armed.held
  neutral := armed.neutral
  pressed := armed.pressed
  disarmed := armed.disarmed
  unbroken i after within := by
    rcases within.eq_or_lt with rfl | earlier
    · exact quiet
    · exact armed.unbroken i after (Nat.lt_succ_iff.mp earlier)

/-- A readable call in time after the call that the gate follows. -/
theorem follows_of_follows {gate : NeutralToggleGate} {m : ℕ}
    (isGate : gate = gateAt mapping holdSec timeoutSec calls (m + 1))
    (follows : Follows mapping holdSec timeoutSec calls gate m)
    (readable : (calls (m + 1)).readable mapping = true)
    (inTime : InTime timeoutSec (calls m) (calls (m + 1))) :
    Follows mapping holdSec timeoutSec calls
      (gate.sample ((calls (m + 1)).neutral mapping) (calls (m + 1)).pressed
        (Double.finite (calls (m + 1)).time)).1 (m + 1) := by
  have hold := follows.hold
  have timeout := follows.timeout
  cases state : gate.state with
  | waitingNeutral =>
      refine follows_of_waitingNeutral state hold timeout readable ?_
      intro neutral released
      -- The rest starts here, or it goes on from where it started.
      rcases follows.waitingNeutral state with ⟨none, notResting⟩ | ⟨a, rests, since, -⟩
      · refine ⟨m + 1, .start readable neutral released ?_, by simp [none]⟩
        intro b earlier resting
        exact notResting b (Nat.lt_succ_iff.mp earlier) (resting.2.upTo m.le_succ)
      · exact ⟨a, rests.succ readable inTime neutral released, by simp [since]⟩
  | waitingPress =>
      obtain ⟨a, before, chained, resting, held⟩ := follows.waitingPress state
      have released : gate.previousButtonPressed = false :=
        follows.previous.trans (resting m before le_rfl).2
      unfold NeutralToggleGate.sample
      rw [state]
      cases neutral : (calls (m + 1)).neutral mapping with
      | false =>
          constructor <;> simp [readable, hold, timeout]
          exact not_resting_of_not_neutral neutral
      | true =>
          cases pressed : (calls (m + 1)).pressed with
          | false =>
              constructor <;> simp [readable, hold, timeout, pressed]
              refine ⟨a, before.trans m.le_succ, chained.succ readable inTime,
                resting.succ neutral pressed, held_mono held ?_⟩
              have forward := sub_nonneg.mp inTime.1
              linarith
          | true =>
              constructor <;> simp [readable, hold, timeout, pressed, released]
              exact ⟨a, m + 1, Nat.lt_succ_of_le before, le_rfl,
                { chained := chained.succ readable inTime
                  resting := resting
                  held := held
                  neutral := neutral
                  pressed := pressed
                  disarmed := by simp [← isGate, NeutralToggleGate.armed, state]
                  unbroken := fun i after upTo => absurd upTo (not_le.mpr after) }⟩
  | active =>
      obtain ⟨a, p, before, upTo, armed⟩ := follows.active state
      unfold NeutralToggleGate.sample
      rw [state]
      by_cases rising : ((calls (m + 1)).pressed && !gate.previousButtonPressed) = true
      · simp only [rising, if_true]
        have pressed : (calls (m + 1)).pressed = true := (Bool.and_eq_true_iff.mp rising).1
        constructor <;> simp [readable, hold, timeout]
        exact not_resting_of_pressed pressed
      · simp only [rising]
        constructor <;> simp [readable, hold, timeout]
        refine ⟨a, p, before, upTo.trans m.le_succ, armed.succ readable inTime ?_⟩
        rw [follows.previous] at rising
        simpa using rising

theorem Remembers.reset_eq {gate : NeutralToggleGate} {n : ℕ}
    (remembers : Remembers mapping holdSec timeoutSec calls gate n) :
    gate.reset = NeutralToggleGate.fresh holdSec timeoutSec := by
  cases remembers with
  | fresh isFresh first => subst isFresh; rfl
  | follows follows =>
      simp [NeutralToggleGate.reset, NeutralToggleGate.fresh, follows.hold, follows.timeout]

/-- A readable call after a call that was not readable, or after a gap, is not
the end of any longer chain. -/
theorem follows_apply {n : ℕ} (positive : 0 < timeoutSec)
    (remembers : Remembers mapping holdSec timeoutSec calls
      (gateAt mapping holdSec timeoutSec calls n) n)
    (readable : (calls n).readable mapping = true) :
    Follows mapping holdSec timeoutSec calls (gateAt mapping holdSec timeoutSec calls (n + 1)) n := by
  have reset := remembers.reset_eq
  rw [gateAt]
  generalize isGate : gateAt mapping holdSec timeoutSec calls n = gate at remembers reset ⊢
  cases gap : gate.isGap (Double.finite (calls n).time) with
  | true =>
      rw [apply_of_gap readable gap, reset]
      refine follows_of_fresh readable ?_
      intro b before chained
      cases remembers with
      | fresh isFresh first => subst isFresh; cases gap
      | @follows m follows =>
          have inTime := chained.inTime m (Nat.lt_succ_iff.mp before) m.lt_succ_self
          rw [← follows.timeout] at inTime positive
          rw [(isGap_eq_false_iff follows.last positive).mpr inTime] at gap
          cases gap
  | false =>
      rw [apply_of_sample readable gap]
      cases remembers with
      | fresh isFresh first =>
          subst isFresh
          refine follows_of_fresh readable ?_
          intro b before chained
          obtain ⟨m, rfl⟩ := Nat.exists_eq_succ_of_ne_zero (Nat.ne_zero_of_lt before)
          have unreadable := first m rfl
          rw [chained.readable m (Nat.lt_succ_iff.mp before) m.le_succ] at unreadable
          cases unreadable
      | @follows m follows =>
          refine follows_of_follows isGate.symm follows readable ?_
          rw [← follows.timeout] at positive
          exact follows.timeout ▸ (isGap_eq_false_iff follows.last positive).mp gap

/-- **Every gate remembers** what its clause says, after any calls. -/
theorem remembers_gateAt (mapping : Mapping) (holdSec : Double) (calls : ℕ → GateCall)
    (positive : 0 < timeoutSec) (n : ℕ) :
    Remembers mapping holdSec timeoutSec calls (gateAt mapping holdSec timeoutSec calls n) n := by
  induction n with
  | zero => exact .fresh rfl fun m impossible => by cases impossible
  | succ n ih =>
      cases readable : (calls n).readable mapping with
      | true => exact .follows (follows_apply positive ih readable)
      | false =>
          refine .fresh ?_ fun m same => by rwa [← Nat.succ.inj same]
          rw [gateAt, apply_of_unreadable _ readable]
          exact ih.reset_eq

/-! ## When motion is allowed -/

theorem sample_allowed_iff (gate : NeutralToggleGate) (neutral pressed : Bool) (nowSec : Double) :
    (gate.sample neutral pressed nowSec).2 = true ↔
      gate.state = .active ∧ ¬ (pressed = true ∧ gate.previousButtonPressed = false) := by
  unfold NeutralToggleGate.sample
  cases gate.state <;> cases neutral <;> cases pressed <;> cases gate.previousButtonPressed <;> simp

/-- The gate before a call that comes in time after a readable one. -/
theorem follows_gateAt (holdSec : Double) {m : ℕ} (positive : 0 < timeoutSec)
    (readable : (calls m).readable mapping = true) :
    Follows mapping holdSec timeoutSec calls (gateAt mapping holdSec timeoutSec calls (m + 1)) m :=
  follows_apply positive (remembers_gateAt mapping holdSec calls positive m) readable

theorem apply_of_inTime {m : ℕ} (positive : 0 < timeoutSec)
    (before : (calls m).readable mapping = true) (readable : (calls (m + 1)).readable mapping = true)
    (inTime : InTime timeoutSec (calls m) (calls (m + 1))) :
    (calls (m + 1)).apply mapping (gateAt mapping holdSec timeoutSec calls (m + 1)) =
      (gateAt mapping holdSec timeoutSec calls (m + 1)).sample ((calls (m + 1)).neutral mapping)
        (calls (m + 1)).pressed (Double.finite (calls (m + 1)).time) := by
  have follows := follows_gateAt holdSec positive before
  refine apply_of_sample readable ?_
  rw [← follows.timeout] at positive inTime
  exact (isGap_eq_false_iff follows.last positive).mpr inTime

/-- A call that may command motion comes in time after a readable one, finds the
gate active and does not press the button anew. -/
theorem active_of_allowed {n : ℕ} (positive : 0 < timeoutSec)
    (allowed : allowedAt mapping holdSec timeoutSec calls n = true) :
    ∃ m, n = m + 1 ∧ (calls n).readable mapping = true ∧ InTime timeoutSec (calls m) (calls n) ∧
      (∃ a p, a < p ∧ p ≤ m ∧ Armed mapping holdSec timeoutSec calls a p m) ∧
      ¬ ((calls n).pressed = true ∧ (calls m).pressed = false) := by
  have remembers := remembers_gateAt mapping holdSec calls positive n
  have reset := remembers.reset_eq
  unfold allowedAt at allowed
  generalize gateAt mapping holdSec timeoutSec calls n = gate at remembers reset allowed
  cases readable : (calls n).readable mapping with
  | false => rw [apply_of_unreadable _ readable] at allowed; cases allowed
  | true =>
      cases gap : gate.isGap (Double.finite (calls n).time) with
      | true =>
          rw [apply_of_gap readable gap, reset] at allowed
          cases ((sample_allowed_iff ..).mp allowed).1
      | false =>
          rw [apply_of_sample readable gap] at allowed
          obtain ⟨active, quiet⟩ := (sample_allowed_iff ..).mp allowed
          cases remembers with
          | fresh isFresh first => subst isFresh; cases active
          | @follows m follows =>
              rw [← follows.timeout] at positive
              refine ⟨m, rfl, rfl, ?_, follows.active active, ?_⟩
              · exact follows.timeout ▸ (isGap_eq_false_iff follows.last positive).mp gap
              · rwa [← follows.previous]

/-- A chain that arms the gate finds it waiting for the press. -/
theorem waitingPress_of_armed {a p n : ℕ} (positive : 0 < timeoutSec) (before : a < p) (upTo : p ≤ n)
    (armed : Armed mapping holdSec timeoutSec calls a p n) :
    (gateAt mapping holdSec timeoutSec calls p).state = .waitingPress := by
  obtain ⟨q, rfl⟩ := Nat.exists_eq_succ_of_ne_zero (Nat.ne_zero_of_lt before)
  have within := Nat.lt_succ_iff.mp before
  have chained := armed.chained.upTo (q.le_succ.trans upTo)
  have follows := follows_gateAt holdSec positive
    (chained.readable q within le_rfl)
  have resting : Resting mapping calls a q := armed.resting
  cases state : (gateAt mapping holdSec timeoutSec calls (q + 1)).state with
  | waitingPress => rfl
  | active =>
      have disarmed := armed.disarmed
      simp [NeutralToggleGate.armed, state] at disarmed
  | waitingNeutral =>
      rcases follows.waitingNeutral state with ⟨-, notResting⟩ | ⟨start, rests, -, early⟩
      · exact absurd resting (notResting a within)
      · refine absurd (held_mono armed.held ?_) early
        exact sub_le_sub_left (rests.earliest a within chained resting) _

/-- An armed gate stays active up to the end of its chain. -/
theorem active_of_armed {a p n : ℕ} (positive : 0 < timeoutSec) (before : a < p)
    (armed : Armed mapping holdSec timeoutSec calls a p n) {i : ℕ} (after : p < i) (upTo : i ≤ n) :
    (gateAt mapping holdSec timeoutSec calls i).state = .active := by
  have sampled {q : ℕ} (start : a ≤ q) (stop : q < n) :
      (gateAt mapping holdSec timeoutSec calls (q + 2)) =
        ((gateAt mapping holdSec timeoutSec calls (q + 1)).sample
          ((calls (q + 1)).neutral mapping) (calls (q + 1)).pressed
          (Double.finite (calls (q + 1)).time)).1 := by
    rw [gateAt, apply_of_inTime positive (armed.chained.readable q start stop.le)
      (armed.chained.readable (q + 1) (start.trans q.le_succ) stop) (armed.chained.inTime q start stop)]
  induction i, Nat.succ_le_of_lt after using Nat.le_induction with
  | base =>
      obtain ⟨q, rfl⟩ := Nat.exists_eq_succ_of_ne_zero (Nat.ne_zero_of_lt before)
      have within := Nat.lt_succ_iff.mp before
      have waiting := waitingPress_of_armed positive before (Nat.le_of_succ_le upTo) armed
      have follows := follows_gateAt holdSec positive
        (armed.chained.readable q within (by omega))
      have released := follows.previous.trans (armed.resting q within le_rfl).2
      rw [sampled within (by omega), NeutralToggleGate.sample, waiting]
      simp [armed.neutral, armed.pressed, released]
  | succ i later ih =>
      obtain ⟨q, rfl⟩ := Nat.exists_eq_succ_of_ne_zero (Nat.ne_zero_of_lt (Nat.lt_of_succ_le later))
      have active := ih (Nat.lt_of_succ_le later) (Nat.le_of_succ_le upTo)
      have follows := follows_gateAt holdSec positive
        (armed.chained.readable q (by omega) (by omega))
      have quiet := armed.unbroken (q + 1) (Nat.lt_of_succ_le later) (Nat.le_of_succ_le upTo)
      rw [sampled (by omega) (by omega), NeutralToggleGate.sample, active, follows.previous]
      simp only [Nat.add_sub_cancel] at quiet
      cases pressed : (calls (q + 1)).pressed <;> cases held : (calls q).pressed <;> simp_all

/-- **Arming.**  Call `n` may command motion exactly when some chain of calls
`a..n` armed the gate at a call `p` before it and left it armed. -/
theorem allowed_iff_armed (positive : 0 < timeoutSec) (n : ℕ) :
    allowedAt mapping holdSec timeoutSec calls n = true ↔
      ∃ a p, a < p ∧ p < n ∧ Armed mapping holdSec timeoutSec calls a p n := by
  constructor
  · intro allowed
    obtain ⟨m, rfl, readable, inTime, ⟨a, p, before, upTo, armed⟩, quiet⟩ :=
      active_of_allowed positive allowed
    exact ⟨a, p, before, Nat.lt_succ_of_le upTo, armed.succ readable inTime quiet⟩
  · rintro ⟨a, p, before, after, armed⟩
    obtain ⟨m, rfl⟩ := Nat.exists_eq_succ_of_ne_zero (Nat.ne_zero_of_lt after)
    have start : a ≤ m := before.le.trans (Nat.lt_succ_iff.mp after)
    have readable := armed.chained.readable m start m.le_succ
    have active := active_of_armed positive before armed after le_rfl
    have quiet := armed.unbroken (m + 1) after le_rfl
    have follows := follows_gateAt holdSec positive readable
    unfold allowedAt
    rw [apply_of_inTime positive readable
      (armed.chained.readable (m + 1) (start.trans m.le_succ) le_rfl)
      (armed.chained.inTime m start m.lt_succ_self), sample_allowed_iff, follows.previous]
    exact ⟨active, quiet⟩

/-- Sticks at rest every quarter second, and the button pressed in message three. -/
def startSequence (i : ℕ) : GateCall :=
  .update [0, 0, 0, 0] (i = 3) (Double.finite (i / 4))

theorem armed_by_startSequence :
    ∃ a p, a < p ∧ p < 4 ∧ Armed {} (1 / 2 : ℚ) (1 : ℚ) startSequence a p 4 :=
  (allowed_iff_armed (by decide +kernel) 4).mp (by decide +kernel)

end Memory

end Tb20e.Gamepad
