/-
# Hardware.DeadBand -- the compensation is a Schmitt trigger on the write stream

Within one activation each `write` sees one bounded command for an axis and
either lets it through or not.  `writes` is that stream, read off a run.  The
direction that an axis's compensation is left in is a flag on the stream: raised
by a command past the start threshold, kept by one past the stop threshold in
the same direction, dropped by anything else (`lever_snd_iff`, `since_concat`).
Nothing between two writes touches it (`ran_activeDirection`), so after any run
it is `Since` of the stream, which is **`compensation_eq_schmittTrigger`**.
-/
import Tb20e.Theory.Since
import Tb20e.Hardware.LeverMessage

namespace Tb20e.Hardware

set_option autoImplicit false

open Tb20e.Theory Tb20e.Control
open Tb20e.Theory (Double)

namespace AxisConfig

variable {config : AxisConfig}

/-- The compensation minimum of a direction. -/
def minimumOf (config : AxisConfig) (direction : ℤ) : ℚ :=
  if 0 < direction then config.leverPositiveMin else config.leverNegativeMin

theorem minimumFor_eq (command : ℚ) :
    config.minimumFor command = config.minimumOf (directionOf command) := by
  simp only [minimumFor, minimumOf, directionOf_pos_iff]

/-- An effort as bounded by the source, which bounds one that is not finite to zero. -/
def boundedEffort (config : AxisConfig) : Double → ℚ
  | .finite effort => config.bounded effort
  | _ => 0

section Trigger

variable (valid : config.Valid) {direction activeDirection : ℤ} {command : ℚ}
  (compensated : 0 < config.minimumOf direction) (unit : direction = 1 ∨ direction = -1)
include compensated unit

/-- **One update of the flag**, for a direction that is compensated: raised from
the start threshold up, kept while above the stop threshold. -/
theorem lever_snd_iff :
    (config.lever command activeDirection).2 = direction ↔
      (directionOf command = direction ∧ config.leverStop < |command|) ∧
        (config.leverStart ≤ |command| ∨ activeDirection = direction) := by
  have nonzero : direction ≠ 0 := by rcases unit with rfl | rfl <;> decide
  simp only [lever, minimumFor_eq]
  split_ifs with free held
  · refine ⟨fun zero => absurd zero.symm nonzero, ?_⟩
    rintro ⟨⟨rfl, -⟩, -⟩
    exact absurd free compensated.ne'
  · refine ⟨fun zero => absurd zero.symm nonzero, ?_⟩
    rintro ⟨⟨rfl, moving⟩, started⟩
    rcases held with still | ⟨other, below⟩
    · exact absurd moving (not_lt.mpr still)
    · exact absurd started (not_or.mpr ⟨not_le.mpr below, other⟩)
  · simp only [not_or, not_and, not_le, not_lt] at held
    constructor
    · rintro rfl
      refine ⟨⟨rfl, held.1⟩, ?_⟩
      by_cases same : activeDirection = directionOf command
      · exact .inr same
      · exact .inl (held.2 same)
    · exact fun running => running.1.1

include valid

/-- The lever's own sign is the flag, in a direction that is compensated. -/
theorem directionOf_lever :
    directionOf (config.lever command activeDirection).1 = direction ↔
      (config.lever command activeDirection).2 = direction := by
  have nonzero : direction ≠ 0 := by rcases unit with rfl | rfl <;> decide
  simp only [lever, minimumFor_eq]
  split_ifs with free held
  · refine ⟨?_, fun zero => absurd zero.symm nonzero⟩
    rintro rfl
    exact absurd free compensated.ne'
  · rw [directionOf_zero]
  · have moving : config.leverStop < |command| := not_le.mp fun still => held (.inl still)
    have magnitude : 0 < max (config.minimumOf (directionOf command)) |command| :=
      lt_max_of_lt_right (valid.stop_nonneg.trans_lt moving)
    suffices same : directionOf (directionOf command *
        max (config.minimumOf (directionOf command)) |command|) = directionOf command by rw [same]
    generalize max (config.minimumOf (directionOf command)) |command| = value at magnitude
    rcases lt_trichotomy command 0 with neg | rfl | pos
    · rw [directionOf_of_neg neg]
      exact directionOf_of_neg (by push_cast; linarith)
    · simp
    · rw [directionOf_of_pos pos]
      exact directionOf_of_pos (by push_cast; linarith)

end Trigger

end AxisConfig

/-! ## The stream of writes -/

/-- What one `write` sees for an axis. -/
structure LeverWrite where
  isOpen : Bool
  bounded : ℚ
  deriving DecidableEq, Repr

namespace LeverWrite

/-- The lever of a write and the direction it leaves; a closed one has none. -/
def lever (config : AxisConfig) (w : LeverWrite) (activeDirection : ℤ) : ℚ × ℤ :=
  if w.isOpen then config.lever w.bounded activeDirection else (0, 0)

/-- An open write that keeps a direction going. -/
def Holds (config : AxisConfig) (direction : ℤ) (w : LeverWrite) : Prop :=
  w.isOpen = true ∧ directionOf w.bounded = direction ∧ config.leverStop < |w.bounded|

/-- An open write that starts a direction. -/
def Starts (config : AxisConfig) (direction : ℤ) (w : LeverWrite) : Prop :=
  w.Holds config direction ∧ config.leverStart ≤ |w.bounded|

variable {config : AxisConfig} {w : LeverWrite} {direction activeDirection : ℤ}

theorem lever_closed (closed : w.isOpen = false) : w.lever config activeDirection = (0, 0) := by
  simp [lever, closed]

/-- Without a minimum in its direction, an open command is passed on. -/
theorem lever_free (isOpen : w.isOpen = true)
    (free : config.minimumOf (directionOf w.bounded) = 0) :
    (w.lever config activeDirection).1 = w.bounded := by
  simp [lever, isOpen, AxisConfig.lever, AxisConfig.minimumFor_eq, free]

section Compensated

variable (compensated : 0 < config.minimumOf direction) (unit : direction = 1 ∨ direction = -1)
include compensated unit

/-- One write's update of the flag. -/
theorem lever_snd_iff :
    (w.lever config activeDirection).2 = direction ↔
      w.Starts config direction ∨ w.Holds config direction ∧ activeDirection = direction := by
  have nonzero : (0 : ℤ) ≠ direction := by rcases unit with rfl | rfl <;> decide
  simp only [lever, Starts, Holds]
  cases w.isOpen with
  | false => simp [nonzero]
  | true =>
      simp only [if_true, AxisConfig.lever_snd_iff compensated unit]
      tauto

/-- The lever has a direction's sign exactly when the flag is in that direction,
and is then the command raised to the minimum. -/
theorem directionOf_lever (w : LeverWrite) (activeDirection : ℤ) (valid : config.Valid) :
    (directionOf (w.lever config activeDirection).1 = direction ↔
      (w.lever config activeDirection).2 = direction) ∧
    (directionOf (w.lever config activeDirection).1 = direction →
      (w.lever config activeDirection).1 =
        direction * max (config.minimumOf direction) |w.bounded|) := by
  have nonzero : (0 : ℤ) ≠ direction := by rcases unit with rfl | rfl <;> decide
  cases isOpen : w.isOpen with
  | false => simp [lever_closed isOpen, nonzero]
  | true =>
      have flag : directionOf (config.lever w.bounded activeDirection).1 = direction ↔ _ :=
        AxisConfig.directionOf_lever valid compensated unit
      simp only [lever, isOpen, if_true]
      refine ⟨flag, ?_⟩
      intro signed
      have along := ((AxisConfig.lever_snd_iff compensated unit).mp (flag.mp signed)).1.1
      rw [(AxisConfig.lever_of_ne_zero fun zero => nonzero ?_).2, AxisConfig.minimumFor_eq, along]
      rw [← signed, zero, directionOf_zero]

end Compensated

end LeverWrite

section Stream

variable (P : Parameters) (throws : ℕ → Bool)

def leverWrite (now : Time) (s : LeverHardware) (axis : Axis) : LeverWrite where
  isOpen := openAt P now s axis
  bounded := (P.axisConfigs axis).boundedEffort (s.effortCommands axis)

/-- The write that a step is, if it is one. -/
def writeOf (axis : Axis) (s : LeverHardware) (event : Time × Op) : List LeverWrite :=
  match event.2 with
  | .call .write _ => [leverWrite P event.1 s axis]
  | _ => []

/-- The writes of a run, as an axis sees them. -/
def writes (axis : Axis) : System → List (Time × Op) → List LeverWrite
  | _, [] => []
  | σ, event :: rest =>
      writeOf P axis σ.hw event ++
        match System.step P throws σ event with
        | none => []
        | some σ' => writes axis σ' rest

end Stream

variable {P : Parameters} {throws : ℕ → Bool} {now : Time} {s : LeverHardware} {axis : Axis}
  {σ τ : System}

theorem writes_concat {events : List (Time × Op)} {event : Time × Op}
    (run : runs (System.step P throws) σ events = some τ) :
    writes P throws axis σ (events ++ [event]) =
      writes P throws axis σ events ++ writeOf P axis τ.hw event := by
  induction events generalizing σ with
  | nil =>
      obtain rfl : σ = τ := Option.some.inj run
      cases taken : System.step P throws σ event <;> simp [writes, taken]
  | cons first rest ih =>
      obtain ⟨σ', taken, later⟩ := runs_cons_eq_some.mp run
      simp only [List.cons_append, writes, taken, ih later, List.append_assoc]

/-- The lever of a write, from what the axis sees and the direction it is in. -/
theorem leverOf_eq (valid : P.Valid) :
    leverOf P (beforePublish P now s) axis =
      (let lever := (leverWrite P now s axis).lever (P.axisConfigs axis) (s.activeDirection axis)
       (Double.finite lever.1, lever.2)) := by
  cases isOpen : openAt P now s axis with
  | true =>
      obtain ⟨effort, commanded⟩ := Double.isFinite_iff.mp ((openAt_iff.mp isOpen).finite axis)
      rw [leverOf_open valid isOpen commanded]
      simp [LeverWrite.lever, leverWrite, isOpen, commanded, AxisConfig.boundedEffort]
  | false =>
      simp only [LeverWrite.lever, leverWrite, isOpen, Bool.false_eq_true, if_false]
      exact leverCommand_closed P isOpen

theorem leverMessage_eq (valid : P.Valid) :
    leverMessage P (beforePublish P now s) axis = Double.finite
      ((leverWrite P now s axis).lever (P.axisConfigs axis) (s.activeDirection axis)).1 := by
  simp [leverMessage, leverOf_eq valid]

/-- A whole `write` leaves each axis the direction of its lever. -/
theorem writePublish_activeDirection :
    (writePublish P throws (beforePublish P now s)).hw.activeDirection axis =
      (leverOf P (beforePublish P now s) axis).2 := by
  rw [writePublish_eq]
  simp only [publishZeroToAllAxesLocked_eq]
  split <;> rfl

/-- **Only a write touches the direction** of an axis between two lifecycle calls. -/
theorem ran_activeDirection {op : Op} {s' : LeverHardware} (ran : Ran P throws now s op s') :
    s'.activeDirection axis =
      match writeOf P axis s (now, op) with
      | [] => s.activeDirection axis
      | _ => (leverOf P (beforePublish P now s) axis).2 := by
  cases ran with
  | read =>
      simp only [writeOf, afterRead, latchVelocityFault, readFeedback, latchFaultAndPublishZero,
        publishZeroToAllAxesLocked_eq]
      split <;> (try split) <;> rfl
  | write => exact writePublish_activeDirection
  | assignEffort => rfl
  | @deliver callback =>
      cases callback with
      | mask data => rfl
      | feedback a message =>
          simp only [writeOf, Callback.exec]
          split
          · simp only [invalidateFeedback, publishZeroToAllAxesLocked_eq]
            split <;> rfl
          · rfl

/-! ## The flag, over a run -/

/-- **The compensation's direction is a Schmitt trigger**: after any steps
between two lifecycle calls it is the given one exactly when some write started
it and every later one held it. -/
theorem activeDirection_iff_since {direction : ℤ} (valid : P.Valid)
    (compensated : 0 < (P.axisConfigs axis).minimumOf direction)
    (unit : direction = 1 ∨ direction = -1) {events : List (Time × Op)}
    (rest : σ.hw.activeDirection axis = 0) (running : ∀ event ∈ events, event.2.running = true)
    (run : runs (System.step P throws) σ events = some τ) :
    τ.hw.activeDirection axis = direction ↔
      Since (LeverWrite.Holds (P.axisConfigs axis) direction)
        (LeverWrite.Starts (P.axisConfigs axis) direction) (writes P throws axis σ events) := by
  induction events using List.reverseRecOn generalizing τ with
  | nil =>
      obtain rfl : σ = τ := Option.some.inj run
      have nonzero : (0 : ℤ) ≠ direction := by rcases unit with rfl | rfl <;> decide
      simp [rest, nonzero, writes, not_since_nil]
  | append_singleton events event ih =>
      obtain ⟨μ, before, last⟩ := runs_append_eq_some.mp run
      have taken : System.step P throws μ event = some τ := runs_singleton.symm.trans last
      obtain ⟨-, -, ran⟩ := ran_of_step (running event (by simp)) taken
      have flag := ih (fun e member => running e (List.mem_append_left _ member)) before
      rw [ran_activeDirection ran, writes_concat before]
      obtain ⟨now, op⟩ := event
      generalize τ.hw = after at ran
      cases ran with
      | write =>
          simp only [writeOf, since_concat, ← flag, leverOf_eq valid]
          exact LeverWrite.lever_snd_iff compensated unit
      | read | assignEffort | deliver => simpa [writeOf] using flag

/-- The topic's last message after a loop that threw nowhere. -/
theorem lastMessage_loopCalls {c : Control} {earlier : List Attempt}
    (quiet : ∀ call ∈ loopCalls P throws c, call.threw = false) :
    lastMessage (loopCalls P throws c ++ earlier) axis = some (leverMessage P c axis) := by
  simp only [loopCalls, List.mem_cons, List.not_mem_nil, or_false, forall_eq_or_imp,
    forall_eq, add_zero] at quiet
  obtain ⟨bucket, arm, boom, swing⟩ := quiet
  unfold lastMessage loopCalls
  fin_cases axis <;> simp [swing, boom, arm, bucket]

/-- **Dead-band compensation is a Schmitt trigger on the write stream.**  Within
one activation, after any steps that are no lifecycle call, let a `write` throw
nowhere.  In a direction that is compensated its message is nonzero exactly when
some write of the activation passed the start threshold in that direction and
every write since, it included, was open, in that direction and past the stop
threshold; the message is then the command raised to the minimum.  An open write
in a direction without a minimum sends the command itself, and a closed one sends
zero and leaves no direction. -/
theorem compensation_eq_schmittTrigger {stod : Stod} {baseOk : Bool} {info : HardwareInfo}
    {indices : List Axis} {hw : LeverHardware} {clock activatedAt : Time}
    {earlier events : List (Time × Op)} {waited : List (Time × Callback)} {ρ μ : System}
    {calls : List Attempt} (init : onInit stod baseOk info = .ok (P, indices, hw))
    (reached : runs (System.step P throws) (System.start clock hw) earlier = some ρ)
    (activated : System.step P throws ρ (activatedAt, .call .onActivate waited) = some σ)
    (active : σ.hw.active = true) (running : ∀ event ∈ events, event.2.running = true)
    (run : runs (System.step P throws) σ events = some μ)
    (written : System.step P throws μ (now, .call .write []) = some τ)
    (published : τ.hw.attempts = calls ++ μ.hw.attempts)
    (quiet : ∀ call ∈ calls, call.threw = false) (axis : Axis) :
    let config := P.axisConfigs axis
    let history := writes P throws axis σ (events ++ [(now, .call .write [])])
    let last := leverWrite P now μ.hw axis
    ∃ message : ℚ, lastMessage τ.hw.attempts axis = some (Double.finite message) ∧
      (∀ direction, (direction = 1 ∨ direction = -1) → 0 < config.minimumOf direction →
        (directionOf message = direction ↔
          Since (LeverWrite.Holds config direction) (LeverWrite.Starts config direction) history) ∧
        (directionOf message = direction →
          message = direction * max (config.minimumOf direction) |last.bounded|)) ∧
      (last.isOpen = true → config.minimumOf (directionOf last.bounded) = 0 →
        message = last.bounded) ∧
      (last.isOpen = false → message = 0 ∧ τ.hw.activeDirection axis = 0) := by
  intro config history last
  obtain ⟨loaded, -, rfl⟩ := onInit_eq_ok init
  have valid := loadHardwareParameters_valid loaded
  have rest := (activated_of_call activated active).direction axis
  -- The direction after this write is the flag of the history that ends with it.
  have flag (direction : ℤ) (unit : direction = 1 ∨ direction = -1)
      (compensated : 0 < config.minimumOf direction) :
      τ.hw.activeDirection axis = direction ↔
        Since (LeverWrite.Holds config direction) (LeverWrite.Starts config direction) history := by
    refine activeDirection_iff_since valid compensated unit rest ?_
      (runs_append_eq_some.mpr ⟨μ, run, runs_singleton.trans written⟩)
    intro event member
    rcases List.mem_append.mp member with old | new
    · exact running event old
    · rw [List.mem_singleton.mp new]
      rfl
  obtain ⟨-, rfl⟩ := step_write_eq_some.mp written
  obtain rfl : calls = loopCalls P throws (beforePublish P now μ.hw) := write_calls published quiet
  have left : (writePublish P throws (beforePublish P now μ.hw)).hw.activeDirection axis =
      (last.lever config (μ.hw.activeDirection axis)).2 := by
    rw [writePublish_activeDirection, leverOf_eq valid]
  refine ⟨(last.lever config (μ.hw.activeDirection axis)).1, ?_, ?_,
    fun isOpen free => LeverWrite.lever_free isOpen free, ?_⟩
  · rw [published, lastMessage_loopCalls quiet, leverMessage_eq valid]
  · intro direction unit compensated
    obtain ⟨signed, raised⟩ := LeverWrite.directionOf_lever compensated unit last
      (μ.hw.activeDirection axis) (valid.axis axis)
    exact ⟨signed.trans (left ▸ flag direction unit compensated), raised⟩
  · intro closed
    rw [left, LeverWrite.lever_closed closed]
    exact ⟨rfl, rfl⟩

/-- A description that compensates the bucket's positive direction. -/
def bucketInfo : HardwareInfo :=
  standardInfo fun key => if key = "bucket_lever_positive_min" then some "45" else none

def bucketParameters : Parameters :=
  { defaultParameters with
    axisConfigs := fun
      | 0 => defaultAxisConfigs 0
      | 1 => defaultAxisConfigs 1
      | 2 => defaultAxisConfigs 2
      | 3 => { defaultAxisConfigs 3 with leverPositiveMin := 45 } }

/-- A write past the bucket's start threshold, and then an effort between the thresholds. -/
def startedBucket : List (Time × Op) :=
  [(0, .assignEffort 3 (3 : ℚ)), (0, .call .write []), (0, .assignEffort 3 (3 / 2 : ℚ))]

/-- The second write is held at the minimum by the first. -/
theorem compensation_eq_schmittTrigger_bucket :
    ∃ ρ σ μ τ : System,
      runs (System.step bucketParameters fun _ => false)
        (System.start 0 (initialHardware bucketParameters)) [(0, .call (.onConfigure true) [])] =
          some ρ ∧
      System.step bucketParameters (fun _ => false) ρ (0, .call .onActivate reports) = some σ ∧
      runs (System.step bucketParameters fun _ => false) σ startedBucket = some μ ∧
      System.step bucketParameters (fun _ => false) μ (0, .call .write []) = some τ ∧
      lastMessage τ.hw.attempts 3 = some (Double.finite 45) ∧
      Since (LeverWrite.Holds (bucketParameters.axisConfigs 3) 1)
        (LeverWrite.Starts (bucketParameters.axisConfigs 3) 1)
        (writes bucketParameters (fun _ => false) 3 σ
          (startedBucket ++ [(0, .call .write [])])) := by
  have init : onInit (fun _ => .ok ((45 : ℚ), 2)) true bucketInfo =
      .ok (bucketParameters, axes, initialHardware bucketParameters) :=
    onInit_of_loaded (by decide +kernel) (by decide +kernel)
  obtain ⟨ρ, reached, σ, activated, active, μ, run, τ, written, published, quiet, sent⟩ :
      ∃ ρ ∈ runs (System.step bucketParameters fun _ => false)
          (System.start 0 (initialHardware bucketParameters)) [(0, .call (.onConfigure true) [])],
        ∃ σ ∈ System.step bucketParameters (fun _ => false) ρ (0, .call .onActivate reports),
          σ.hw.active = true ∧
            ∃ μ ∈ runs (System.step bucketParameters fun _ => false) σ startedBucket,
              ∃ τ ∈ System.step bucketParameters (fun _ => false) μ (0, .call .write []),
                τ.hw.attempts = τ.hw.attempts.take 4 ++ μ.hw.attempts ∧
                  (∀ call ∈ τ.hw.attempts.take 4, call.threw = false) ∧
                    lastMessage τ.hw.attempts 3 = some (Double.finite 45) := by
    decide +kernel
  obtain ⟨message, last, trigger, -, -⟩ := compensation_eq_schmittTrigger init reached activated
    active (by decide) run written published quiet 3
  obtain rfl : message = 45 := by simpa [sent, eq_comm] using last
  exact ⟨ρ, σ, μ, τ, reached, activated, run, written, sent,
    ((trigger 1 (.inl rfl) (by decide +kernel)).1).mp (by decide +kernel)⟩

end Tb20e.Hardware
