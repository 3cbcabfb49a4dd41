/-
# Hardware.Hearing -- what has been heard is stored

The executor thread stamps a message when it takes it and stores the sample later, while
the control thread forgets samples in the calls that reset.  `Marked` says that every
message on an axis has left its mark on the hardware, but for one that the executor thread
still holds, and that so has one of the messages with a store behind them (`HeardSince`);
`marked_step` is its induction step, for any mark that the threads keep.

From it `on_activate` succeeds whenever the machine speaks (`heard_machine_activates`): a
wait that ends when every axis has been heard within the state timeout activates the
hardware and clears the latch, whatever faults there have been before.
-/
import Tb20e.Hardware.LeverMessage

namespace Tb20e.Hardware

set_option autoImplicit false

open Tb20e.Theory Tb20e.Control
open Tb20e.Theory (Double)

def Label.isFeedback (axis : Axis) : Label → Bool
  | .deliver (.feedback a _) => a = axis
  | _ => false

def Label.isStore : Label → Bool
  | .store => true
  | _ => false

theorem Label.isFeedback_iff {axis : Axis} {label : Label} :
    label.isFeedback axis = true ↔ ∃ message, label = .deliver (.feedback axis message) := by
  cases label with
  | deliver callback => cases callback <;> simp [isFeedback, eq_comm]
  | call | advance | assignEffort | store => simp [isFeedback]

theorem Label.isStore_iff {label : Label} : label.isStore = true ↔ label = .store := by
  cases label <;> simp [isStore]

/-- A message on the axis that was received at the instant or later has been stored. -/
def HeardSince (past : List (Time × Label)) (axis : Axis) (since : Time) : Prop :=
  ∃ earlier later received message,
    past = earlier ++ (received, .deliver (.feedback axis message)) :: later ∧ since ≤ received ∧
      ∃ event ∈ later, event.2 = .store

/-- Whether a message on the axis was received at the instant or later and then stored. -/
def hears (axis : Axis) (since : Time) : List (Time × Label) → Bool
  | [] => false
  | (received, label) :: rest =>
      (label.isFeedback axis && decide (since ≤ received) && rest.any fun event => event.2.isStore) ||
        hears axis since rest

theorem hears_iff {axis : Axis} {since : Time} {past : List (Time × Label)} :
    hears axis since past = true ↔ HeardSince past axis since := by
  induction past with
  | nil => simp [hears, HeardSince]
  | cons event rest ih =>
      obtain ⟨now, label⟩ := event
      simp only [hears, Bool.or_eq_true, Bool.and_eq_true, decide_eq_true_eq, List.any_eq_true,
        Label.isFeedback_iff, Label.isStore_iff, ih]
      constructor
      · rintro (⟨⟨⟨message, rfl⟩, recent⟩, stores⟩ |
          ⟨earlier, later, received, message, rfl, recent, stores⟩)
        · exact ⟨[], rest, now, message, rfl, recent, stores⟩
        · exact ⟨(now, label) :: earlier, later, received, message, rfl, recent, stores⟩
      · rintro ⟨earlier, later, received, message, split, recent, stores⟩
        rcases List.cons_eq_append_iff.mp split with ⟨rfl, same⟩ | ⟨tail, rfl, rfl⟩
        · obtain ⟨⟨rfl, rfl⟩, rfl⟩ : (received = now ∧ _ = label) ∧ later = rest := by
            simpa using same
          exact .inl ⟨⟨⟨message, rfl⟩, recent⟩, stores⟩
        · exact .inr ⟨tail, later, received, message, rfl, recent, stores⟩

instance (past : List (Time × Label)) (axis : Axis) (since : Time) :
    Decidable (HeardSince past axis since) :=
  decidable_of_iff _ hears_iff

/-- What is heard after one more step was heard before it, unless the step stores. -/
theorem heardSince_concat {past : List (Time × Label)} {event : Time × Label} {axis : Axis}
    {since : Time} (heard : HeardSince (past ++ [event]) axis since) :
    HeardSince past axis since ∨ (event.2 = .store ∧ ∃ received message,
      (received, .deliver (.feedback axis message)) ∈ past ∧ since ≤ received) := by
  obtain ⟨earlier, later, received, message, split, recent, stores⟩ := heard
  rcases List.eq_nil_or_concat later with rfl | ⟨init, last, rfl⟩
  · simp at stores
  · rw [List.concat_eq_append, ← List.cons_append, ← List.append_assoc] at split
    obtain ⟨rfl, same⟩ := List.append_inj' split rfl
    obtain rfl := List.singleton_inj.mp same
    by_cases now : event.2 = .store
    · exact .inr ⟨now, received, message, by simp, recent⟩
    · refine .inl ⟨earlier, init, received, message, rfl, recent, ?_⟩
      obtain ⟨entry, member, stored⟩ := stores
      rw [List.concat_eq_append, List.mem_append, List.mem_singleton] at member
      rcases member with old | rfl
      · exact ⟨entry, old, stored⟩
      · exact absurd stored now

/-- What the messages received so far have left on the hardware. -/
structure Marked (mark : Axis → Time → LeverHardware → Prop) (past : List (Time × Label))
    (σ : Machine) : Prop where
  received : ∀ {axis received message}, (received, .deliver (.feedback axis message)) ∈ past →
    received ≤ σ.horizon
  held : ∀ {axis received message}, (received, .deliver (.feedback axis message)) ∈ past →
    (∃ positionRad stamp, σ.stamped = some (axis, positionRad, stamp)) ∨ mark axis received σ.hw
  heard : ∀ {axis since}, HeardSince past axis since → ∃ received message,
    (received, .deliver (.feedback axis message)) ∈ past ∧ since ≤ received ∧ mark axis received σ.hw

theorem marked_nil (mark : Axis → Time → LeverHardware → Prop) (σ : Machine) : Marked mark [] σ where
  received member := by cases member
  held member := by cases member
  heard heard := by
    obtain ⟨earlier, later, received, message, split, -⟩ := heard
    simp at split

section Marked

variable {P : Parameters} {throws : ℕ → Bool} {past : List (Time × Label)} {σ τ : Machine}
  {event : Time × Label} {mark : Axis → Time → LeverHardware → Prop}

/-- The horizon after a step; a message that the step takes is received at it. -/
theorem horizon_step (stamped : Stamped σ) (taken : step P throws σ event = some τ) :
    σ.horizon ≤ τ.horizon ∧
      ∀ axis message, event.2 = .deliver (.feedback axis message) → event.1 ≤ τ.horizon := by
  obtain ⟨now, label⟩ := event
  obtain ⟨forward, τ', moved, rfl⟩ := moved_of_step taken
  have toNow : σ.horizon ≤ now := stamped.horizon_le.trans forward
  have silent {ρ : Machine} (same : ρ.stamped = σ.stamped) (clock : ρ.clock = now) :
      σ.horizon ≤ ρ.horizon :=
    (horizon_mono same (forward.trans clock.ge) stamped.horizon_le).1
  have free {ρ : Machine} (none : ρ.stamped = none) (clock : ρ.clock = now) : now = ρ.horizon :=
    clock.symm.trans (horizon_of_free none).symm
  cases moved with
  | call | advance | assignEffort | mask => exact ⟨silent rfl rfl, by simp⟩
  | invalidate _ none => exact ⟨silent rfl rfl, fun _ _ _ => le_of_eq (free none rfl)⟩
  | stamp => exact ⟨toNow, fun _ _ _ => le_rfl⟩
  | store => exact ⟨toNow.trans_eq (free rfl rfl), by simp⟩

/-- **One step keeps the marks**: it keeps those there are, a rejected message leaves one by
itself, and a store marks the sample that the executor thread held. -/
theorem marked_step (inv : Marked mark past σ) (stamped : Stamped σ)
    (taken : step P throws σ event = some τ)
    (kept : ∀ axis received, received ≤ σ.horizon → mark axis received σ.hw → mark axis received τ.hw)
    (rejected : ∀ axis message, event.2 = .deliver (.feedback axis message) →
      acceptedPosition P axis message = none → mark axis event.1 τ.hw)
    (stored : ∀ axis positionRad stamp received, σ.stamped = some (axis, positionRad, stamp) →
      event.2 = .store → received ≤ stamp → mark axis received τ.hw) :
    Marked mark (past ++ [event]) τ := by
  obtain ⟨onwards, byNow⟩ := horizon_step stamped taken
  have old {axis : Axis} {received : Time} {message : Option Double}
      (member : (received, .deliver (.feedback axis message)) ∈ past) :
      (event.2 ≠ .store ∧ ∃ positionRad stamp, τ.stamped = some (axis, positionRad, stamp)) ∨
        mark axis received τ.hw := by
    have before := inv.received member
    rcases inv.held member with ⟨positionRad, stamp, holding⟩ | marked
    · obtain ⟨-, τ', moved, rfl⟩ := moved_of_step taken
      generalize event.1 = now at moved
      by_cases stores : event.2 = .store
      · exact .inr (stored axis positionRad stamp received holding stores
          (before.trans_eq (horizon_of_holding holding)))
      · refine .inl ⟨stores, positionRad, stamp, ?_⟩
        generalize event.2 = label at moved stores
        cases moved with
        | call | advance | assignEffort => exact holding
        | invalidate _ free | stamp _ free | mask _ free =>
            rw [free] at holding
            cases holding
        | store => exact absurd rfl stores
    · exact .inr (kept axis received before marked)
  refine ⟨fun {axis received message} member => ?_, fun {axis received message} member => ?_,
    fun {axis since} heard => ?_⟩
  · rcases List.mem_append.mp member with earlier | new
    · exact (inv.received earlier).trans onwards
    · obtain rfl := List.mem_singleton.mp new
      exact byNow axis message rfl
  · rcases List.mem_append.mp member with earlier | new
    · exact (old earlier).imp_left And.right
    · obtain rfl := List.mem_singleton.mp new
      obtain ⟨-, τ', moved, rfl⟩ := moved_of_step taken
      cases moved with
      | invalidate _ _ refused => exact .inr (rejected axis message rfl refused)
      | stamp => exact .inl ⟨_, _, rfl⟩
  · rcases heardSince_concat heard with before | ⟨stores, received, message, member, recent⟩
    · obtain ⟨received, message, member, recent, marked⟩ := inv.heard before
      exact ⟨received, message, List.mem_append_left _ member, recent,
        kept axis received (inv.received member) marked⟩
    · refine ⟨received, message, List.mem_append_left _ member, recent, ?_⟩
      exact (old member).resolve_left fun held => held.1 stores

end Marked

/-! ## An activation that is heard -/

/-- A step after which a sample may be forgotten: a rejected message, or a call that resets. -/
def Label.forgets (P : Parameters) : Label → Bool
  | .deliver (.feedback axis message) => (acceptedPosition P axis message).isNone
  | .call op => decide (Section.resetFeedback ∈ op.sections)
  | _ => false

/-- The sample of the axis is at least as recent as the instant. -/
def Stored (axis : Axis) (received : Time) (s : LeverHardware) : Prop :=
  (s.feedback axis).received = true ∧ received ≤ (s.feedback axis).receivedAt

/-- Since some state between two calls nothing has been forgotten, and no call has failed
before its last section. -/
structure Hearing (past : List (Time × Label)) (σ : Machine) : Prop where
  stamped : Stamped σ
  marked : Marked Stored past σ
  remembers : Section.resetFeedback ∉ σ.pending
  returned : σ.pending ≠ [] → σ.locals.returned = .ok

section Hearing

variable {P : Parameters} {throws : ℕ → Bool} {past : List (Time × Label)} {σ τ : Machine}
  {event : Time × Label}

/-- Only `reset_feedback` forgets. -/
theorem exec_feedback {now : Time} {sec : Section} (c : Control) (remembers : sec ≠ .resetFeedback) :
    (sec.exec P throws now c).hw.feedback = c.hw.feedback := by
  cases sec with
  | resetFeedback => exact absurd rfl remembers
  | _ =>
      simp only [Section.exec, readFeedback, latchVelocityFault, writeSnapshot, writeTest,
        writePublish_eq, copyFeedbackToStatesLocked, latchFaultAndPublishZero,
        publishZeroToAllAxesLocked_eq] <;> (try split) <;> (try split) <;> rfl

/-- A call that has sections left has not failed yet. -/
theorem exec_returned {now : Time} {sec next : Section} {rest : List Section} (c : Control)
    (underway : Underway (sec :: next :: rest)) :
    (sec.exec P throws now c).locals.returned = c.locals.returned := by
  have inside : (∀ starts, sec ≠ .startExecutor starts) ∧ sec ≠ .refuseUnlessReady ∧
      sec ≠ .writePublish := by
    obtain ⟨op, suffix⟩ := underway
    cases op <;> simp only [ControlOp.sections, List.suffix_cons_iff, List.cons.injEq] at suffix <;>
      grind
  obtain ⟨notStart, notRefuse, notPublish⟩ := inside
  cases sec with
  | startExecutor starts => exact absurd rfl (notStart starts)
  | refuseUnlessReady => exact absurd rfl notRefuse
  | writePublish => exact absurd rfl notPublish
  | waitForFeedback | latchVelocityFault =>
      simp only [Section.exec, latchVelocityFault]
      split <;> rfl
  | _ => rfl

/-- A step that forgets nothing keeps a sample that is recent enough. -/
theorem stored_step (inv : Hearing past σ) (keeps : event.2.forgets P = false)
    (taken : step P throws σ event = some τ) {axis : Axis} {received : Time}
    (before : received ≤ σ.horizon) (stored : Stored axis received σ.hw) :
    Stored axis received τ.hw := by
  obtain ⟨-, τ', moved, rfl⟩ := moved_of_step taken
  generalize event.2 = label at moved keeps
  cases moved with
  | call | assignEffort | stamp | mask => exact stored
  | @advance sec rest pending =>
      have remembers : sec ≠ .resetFeedback := by
        rintro rfl
        exact inv.remembers (by simp [pending])
      simpa only [Stored, Machine.hw, exec_feedback σ.control remembers] using stored
  | invalidate _ _ rejected => simp [Label.forgets, rejected] at keeps
  | @store a positionRad stamp holding =>
      by_cases same : axis = a
      · subst same
        simpa [Stored, storeSample, horizon_of_holding holding] using before
      · simpa [Stored, storeSample, same] using stored

theorem hearing_step (inv : Hearing past σ) (keeps : event.2.forgets P = false)
    (taken : step P throws σ event = some τ) : Hearing (past ++ [event]) τ := by
  have marked : Marked Stored (past ++ [event]) τ := by
    refine marked_step inv.marked inv.stamped taken
      (fun axis received before stored => stored_step inv keeps taken before stored) ?_ ?_
    · intro axis message delivers rejected
      rw [delivers] at keeps
      simp [Label.forgets, rejected] at keeps
    · intro axis positionRad stamp received holding stores before
      obtain ⟨-, τ', moved, rfl⟩ := moved_of_step taken
      rw [stores] at moved
      cases moved with
      | store held =>
          cases holding.symm.trans held
          simpa [Stored, storeSample] using before
  have stamped := stamped_step inv.stamped taken
  obtain ⟨-, τ', moved, rfl⟩ := moved_of_step taken
  obtain ⟨now, label⟩ := event
  cases moved with
  | call => exact ⟨stamped, marked, by simpa [Label.forgets] using keeps, fun _ => rfl⟩
  | @advance sec rest pending =>
      have underway := inv.stamped.good.underway
      rw [pending] at underway
      refine ⟨stamped, marked, fun (later : _ ∈ rest) => inv.remembers (by simp [pending, later]), ?_⟩
      intro (left : rest ≠ [])
      obtain ⟨next, later, rfl⟩ := List.exists_cons_of_ne_nil left
      exact (exec_returned σ.control underway).trans (inv.returned (by simp [pending]))
  | assignEffort | invalidate | stamp | mask | store =>
      exact ⟨stamped, marked, inv.remembers, inv.returned⟩

/-- A sample stored within the timeout is fresh: it was not stamped in the future. -/
theorem feedbackIsFresh_of_recent {now : Time} {axis : Axis} (stamped : Stamped σ)
    (forward : σ.clock ≤ now) (received : (σ.hw.feedback axis).received = true)
    (recent : now - P.stateTimeoutSec ≤ (σ.hw.feedback axis).receivedAt) :
    feedbackIsFresh P (σ.hw.feedback axis) now = true := by
  have behind : (σ.hw.feedback axis).receivedAt ≤ now :=
    (stamped.hw.stored axis received).1.trans (stamped.horizon_le.trans forward)
  simp only [feedbackIsFresh, received, Bool.true_and, Bool.and_eq_true, decide_eq_true_eq]
  exact ⟨sub_nonneg.mpr behind, by linarith⟩

/-- The rest of an activation that has what it needs. -/
structure Activating (σ : Machine) : Prop where
  left : σ.pending = [.refuseUnlessReady] ∨ σ.pending = []
  ready : σ.locals.feedbackReady = true
  returned : σ.locals.returned = .ok
  active : σ.hw.active = true
  unlatched : σ.hw.feedbackFaultLatched = false

theorem activating_step (inv : Activating σ) (keeps : event.2.forgets P = false)
    (uncalled : ∀ op, event.2 ≠ .call op) (taken : step P throws σ event = some τ) :
    Activating τ := by
  obtain ⟨-, τ', moved, rfl⟩ := moved_of_step taken
  generalize event.2 = label at moved keeps uncalled
  cases moved with
  | @call op => exact absurd rfl (uncalled op)
  | @advance sec rest pending =>
      rcases inv.left with refuses | none
      · cases pending.symm.trans refuses
        have unchanged : Section.exec P throws event.1 .refuseUnlessReady σ.control = σ.control := by
          simp only [Section.exec]
          rw [if_pos inv.ready]
        rw [unchanged]
        exact ⟨.inr rfl, inv.ready, inv.returned, inv.active, inv.unlatched⟩
      · cases pending.symm.trans none
  | invalidate _ _ rejected => simp [Label.forgets, rejected] at keeps
  | assignEffort | stamp | mask | store =>
      exact ⟨inv.left, inv.ready, inv.returned, inv.active, inv.unlatched⟩

/-- A wait that ends with every axis heard within the timeout. -/
theorem activating_of_heard {now : Time} (inv : Hearing past σ)
    (waits : σ.pending.head? = some .waitForFeedback)
    (heard : ∀ axis, HeardSince past axis (now - P.stateTimeoutSec))
    (taken : step P throws σ (now, .advance) = some τ) : Activating τ := by
  obtain ⟨forward, τ', moved, rfl⟩ := moved_of_step taken
  have fresh : allFeedbackIsFreshLocked P now σ.hw = true := by
    refine all_axes_iff.mpr fun axis => ?_
    obtain ⟨received, message, -, recent, stored, least⟩ := inv.marked.heard (heard axis)
    exact feedbackIsFresh_of_recent inv.stamped forward stored (recent.trans least)
  cases moved with
  | @advance sec rest pending =>
      have underway := inv.stamped.good.underway
      rw [pending] at underway waits
      cases Option.some.inj waits
      have returned := inv.returned (by simp [pending])
      simp only [Section.exec]
      rw [if_pos fresh]
      exact ⟨.inl (waitForFeedback_rest underway), rfl, returned, rfl, rfl⟩

/-- **An activation that is heard succeeds.**  From any state between two calls, latched or
not, let the messages be accepted and no call reset while the machine runs on to a wait of
`on_activate` that ends when every axis has been heard within the state timeout.  Then, until
the next call, the hardware is active with the latch clear, and this one returns OK. -/
theorem heard_machine_activates {stod : Stod} {baseOk : Bool} {info : HardwareInfo}
    {indices : List Axis} {hw : LeverHardware}
    (init : onInit stod baseOk info = .ok (P, indices, hw)) {clock now : Time} {σ₀ : Machine}
    {before since after : List (Time × Label)}
    (reached : runs (step P throws) (Machine.start clock hw) before = some σ₀)
    (idle : σ₀.pending = []) (keeps : ∀ event ∈ since ++ after, event.2.forgets P = false)
    (toWait : runs (step P throws) σ₀ since = some σ)
    (waits : σ.pending.head? = some .waitForFeedback)
    (heard : ∀ axis, HeardSince since axis (now - P.stateTimeoutSec))
    (uncalled : ∀ event ∈ after, ∀ op, event.2 ≠ .call op)
    (onward : runs (step P throws) σ ((now, .advance) :: after) = some τ) :
    τ.hw.active = true ∧ τ.hw.feedbackFaultLatched = false ∧
      (τ.pending = [] → τ.locals.returned = .ok) := by
  obtain ⟨-, -, rfl⟩ := onInit_eq_ok init
  have stamped : Stamped σ₀ :=
    runs_invariant (fun _ _ _ => stamped_step) reached (stamped_start P clock)
  have hearing : Hearing since σ := by
    refine runs_prefix_invariant (fun past event rest _ _ split _ inv taken =>
      hearing_step inv (keeps event (by simp [split])) taken) toWait ⟨stamped, marked_nil _ _, ?_, ?_⟩
    · simp [idle]
    · exact fun left => absurd idle left
  obtain ⟨σ₁, ended, rest⟩ := runs_cons_eq_some.mp onward
  have activating : Activating τ :=
    runs_invariant_on
      (fun event => event.2.forgets P = false ∧ ∀ op, event.2 ≠ .call op)
      (fun _ _ _ admitted inv taken => activating_step inv admitted.1 admitted.2 taken)
      (fun event member => ⟨keeps event (List.mem_append_right _ member), uncalled event member⟩)
      rest (activating_of_heard hearing waits heard ended)
  exact ⟨activating.active, activating.unlatched, fun _ => activating.returned⟩

/-- The boom's feedback is lost while the hardware is active, and it is deactivated. -/
def lostBoom : List (Time × Label) :=
  activation ++ [(1 / 20, .deliver (.feedback 1 none)), (1 / 20, .call .onDeactivate),
    (1 / 20, .advance), (1 / 20, .advance), (1 / 20, .advance)]

/-- Feedback on every axis again, and the next `on_activate` up to its wait. -/
def heardAgain : List (Time × Label) :=
  let labels : List Label :=
    [.deliver (.feedback 0 (some 0)), .store, .deliver (.feedback 1 (some 0)), .store,
      .deliver (.feedback 2 (some (90 : ℚ))), .store, .deliver (.feedback 3 (some 0)), .store,
      .call .onActivate] ++ List.replicate 4 .advance
  labels.map fun label => (1 / 20, label)

theorem heard_machine_activates_again :
    ∃ σ₀ τ, runs (step defaultParameters fun _ => false)
        (Machine.start 0 (initialHardware defaultParameters)) lostBoom = some σ₀ ∧
      σ₀.hw.feedbackFaultLatched = true ∧
      runs (step defaultParameters fun _ => false) σ₀
        (heardAgain ++ [(1 / 20, .advance), (1 / 20, .advance)]) = some τ ∧
      τ.hw.active = true ∧ τ.hw.feedbackFaultLatched = false ∧ τ.locals.returned = .ok := by
  obtain ⟨σ₀, reached, idle, latched, σ, toWait, waits, τ, onward, ended⟩ :
      ∃ σ₀ ∈ runs (step defaultParameters fun _ => false)
          (Machine.start 0 (initialHardware defaultParameters)) lostBoom,
        σ₀.pending = [] ∧ σ₀.hw.feedbackFaultLatched = true ∧
        ∃ σ ∈ runs (step defaultParameters fun _ => false) σ₀ heardAgain,
          σ.pending.head? = some .waitForFeedback ∧
          ∃ τ ∈ runs (step defaultParameters fun _ => false) σ [(1 / 20, .advance), (1 / 20, .advance)],
            τ.pending = [] := by
    decide +kernel
  obtain ⟨active, unlatched, returned⟩ :=
    heard_machine_activates (onInit_unset fun _ => .error "") reached idle (by decide +kernel) toWait
      waits (by decide +kernel) (by simp) onward
  exact ⟨σ₀, τ, reached, latched, runs_append_eq_some.mpr ⟨σ, toWait, onward⟩, active, unlatched,
    returned ended⟩

end Hearing

end Tb20e.Hardware
