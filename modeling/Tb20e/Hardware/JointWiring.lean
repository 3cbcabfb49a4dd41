/-
# Hardware.JointWiring -- every joint is wired to the axis of its name

The interfaces are exported joint by joint, in the order of the description, each
with a pointer into an array that is in the order of the axes; what connects the two
orders is `joint_axis_indices_`.  `validateJoints_eq_ok_iff` is what the loop of
`validate_joint_interfaces` accepts, one axis for each joint and none twice.  There
being as many joints as axes, every axis is then some joint's, and the exports are
those of the axes in another order (`Wired`).
-/
import Mathlib.Data.List.Forall2
import Tb20e.Hardware.State

namespace Tb20e.Hardware

set_option autoImplicit false

open Tb20e.Theory Tb20e.Control
open Tb20e.Theory (Double)

/-! ## The exported interfaces -/

/-- The variable that an interface points at. -/
inductive Slot where
  | positionStates (axis : Axis)
  | velocityStates (axis : Axis)
  | effortCommands (axis : Axis)
  deriving DecidableEq, Repr

/-- A state or command interface: the joint's name, its own, and what it points at. -/
structure Handle where
  prefixName : String
  interfaceName : String
  slot : Slot
  deriving DecidableEq, Repr

/-- `joint_axis_indices_[joint]`, for an index that is there. -/
def axisAt (jointAxisIndices : List Axis) (joint : ℕ) : Axis := jointAxisIndices.getD joint 0

/-- The interfaces that the loops export for one joint. -/
def stateHandles (name : String) (axis : Axis) : List Handle :=
  [⟨name, kPosition, .positionStates axis⟩, ⟨name, kVelocity, .velocityStates axis⟩]

def commandHandles (name : String) (axis : Axis) : List Handle :=
  [⟨name, kEffort, .effortCommands axis⟩]

def exportStateInterfaces (joints : List JointInfo) (jointAxisIndices : List Axis) :
    List Handle :=
  joints.zipIdx.flatMap fun (info, joint) =>
    let axis := axisAt jointAxisIndices joint
    stateHandles info.name axis

def exportCommandInterfaces (joints : List JointInfo) (jointAxisIndices : List Axis) :
    List Handle :=
  joints.zipIdx.flatMap fun (info, joint) =>
    let axis := axisAt jointAxisIndices joint
    commandHandles info.name axis

/-! ## What is accepted -/

/-- The joint declares exactly the interfaces that the hardware exports for it. -/
structure JointInfo.DeclaresInterfaces (joint : JointInfo) : Prop where
  command : joint.commandInterfaces.map (·.name) = [kEffort]
  state : (joint.stateInterfaces.map (·.name)).Perm [kPosition, kVelocity]

/-- The joint drives this axis. -/
structure Drives (axisConfigs : Axis → AxisConfig) (joint : JointInfo) (axis : Axis) : Prop where
  found : axisOfJoint axisConfigs joint.name = some axis
  declares : joint.DeclaresInterfaces

/-- The names of the joints in the table of `on_init`. -/
def expectedJoints : List String := axes.map fun axis => (defaultAxisConfigs axis).jointName

theorem expectedJoints_nodup : expectedJoints.Nodup := by decide

section Loop

variable {axisConfigs : Axis → AxisConfig}

/-- Two names with both kinds among them are one of each. -/
theorem perm_states_iff {names : List String} :
    names.Perm [kPosition, kVelocity] ↔
      names.length = 2 ∧ kPosition ∈ names ∧ kVelocity ∈ names := by
  constructor
  · intro perm
    exact ⟨perm.length_eq, perm.mem_iff.mpr (by simp), perm.mem_iff.mpr (by simp)⟩
  · rintro ⟨two, position, velocity⟩
    obtain ⟨first, second, rfl⟩ := List.length_eq_two.mp two
    have apart : kPosition ≠ kVelocity := by decide
    simp only [List.mem_cons, List.not_mem_nil, or_false] at position velocity
    rcases position with rfl | rfl
    · rcases velocity with same | rfl
      · exact absurd same.symm apart
      · exact .refl _
    · rcases velocity with rfl | same
      · exact .swap _ _ _
      · exact absurd same.symm apart

theorem validateInterfaces_eq_ok_iff {joint : JointInfo} {u : Unit} :
    validateInterfaces joint = .ok u ↔ joint.DeclaresInterfaces := by
  have state : (joint.stateInterfaces.length ≠ 2 ||
        !joint.stateInterfaces.any (fun state => state.name = kPosition) ||
        !joint.stateInterfaces.any fun state => state.name = kVelocity) = false ↔
      (joint.stateInterfaces.map (·.name)).Perm [kPosition, kVelocity] := by
    rw [perm_states_iff]
    simp [and_assoc]
  simp only [validateInterfaces, Load.bind_eq_ok, refuseIf_eq_ok, exists_const, state]
  constructor
  · rintro ⟨command, state⟩
    exact ⟨by simpa using command, state⟩
  · rintro ⟨command, state⟩
    exact ⟨by simpa using command, state⟩

theorem axisOfJoint_eq_some_iff
    (distinct : Function.Injective fun axis => (axisConfigs axis).jointName) {name : String}
    {axis : Axis} :
    axisOfJoint axisConfigs name = some axis ↔ (axisConfigs axis).jointName = name := by
  constructor
  · intro found
    simpa using List.find?_some found
  · rintro rfl
    cases found : axisOfJoint axisConfigs (axisConfigs axis).jointName with
    | none => simpa using List.find?_eq_none.mp found axis (mem_axes axis)
    | some other =>
        have same : (axisConfigs other).jointName = (axisConfigs axis).jointName := by
          simpa using List.find?_some found
        rw [distinct same]

theorem validateJoints_cons_eq_ok_iff {axisSeen : Axis → Bool} {joint : JointInfo}
    {rest : List JointInfo} {indices : List Axis} :
    validateJoints axisConfigs axisSeen (joint :: rest) = .ok indices ↔
      ∃ axis later, Drives axisConfigs joint axis ∧ axisSeen axis = false ∧
        validateJoints axisConfigs (Function.update axisSeen axis true) rest = .ok later ∧
        indices = axis :: later := by
  rw [validateJoints]
  cases found : axisOfJoint axisConfigs joint.name with
  | none =>
      constructor
      · intro impossible
        cases impossible
      · rintro ⟨axis, later, drives, -⟩
        rw [drives.found] at found
        cases found
  | some axis =>
      dsimp only
      cases seen : axisSeen axis with
      | true =>
          constructor
          · intro impossible
            cases impossible
          · rintro ⟨other, later, drives, unseen, -⟩
            obtain rfl := Option.some.inj (found.symm.trans drives.found)
            rw [seen] at unseen
            cases unseen
      | false =>
          simp only [Bool.false_eq_true, if_false, Load.bind_eq_ok, Load.pure_eq_ok,
            validateInterfaces_eq_ok_iff, exists_const]
          constructor
          · rintro ⟨declares, later, validated, rfl⟩
            exact ⟨axis, later, ⟨found, declares⟩, seen, validated, rfl⟩
          · rintro ⟨other, later, drives, -, validated, rfl⟩
            obtain rfl := Option.some.inj (found.symm.trans drives.found)
            exact ⟨drives.declares, later, validated, rfl⟩

/-- **The loop** accepts the joints that each drive an axis, no axis twice and none
that was seen before. -/
theorem validateJoints_eq_ok_iff {axisSeen : Axis → Bool} {joints : List JointInfo}
    {indices : List Axis} :
    validateJoints axisConfigs axisSeen joints = .ok indices ↔
      List.Forall₂ (Drives axisConfigs) joints indices ∧ indices.Nodup ∧
        ∀ axis ∈ indices, axisSeen axis = false := by
  induction joints generalizing axisSeen indices with
  | nil =>
      constructor
      · intro accepted
        cases accepted
        exact ⟨.nil, .nil, by simp⟩
      · rintro ⟨none, -, -⟩
        cases none
        rfl
  | cons joint rest ih =>
      rw [validateJoints_cons_eq_ok_iff]
      constructor
      · rintro ⟨axis, later, drives, unseen, validated, rfl⟩
        obtain ⟨others, nodup, apart⟩ := ih.mp validated
        -- An axis that is found later was not this one, which is seen by then.
        have different : ∀ other ∈ later, other ≠ axis ∧ axisSeen other = false := by
          intro other member
          have still := apart other member
          by_cases same : other = axis
          · rw [same, Function.update_self] at still
            cases still
          · rw [Function.update_of_ne same] at still
            exact ⟨same, still⟩
        refine ⟨.cons drives others, ?_, ?_⟩
        · rw [List.nodup_cons]
          exact ⟨fun member => (different axis member).1 rfl, nodup⟩
        · intro other member
          rcases List.mem_cons.mp member with rfl | member
          · exact unseen
          · exact (different other member).2
      · rintro ⟨drive, nodup, unseen⟩
        obtain ⟨axis, later, drives, others, rfl⟩ := List.forall₂_cons_left_iff.mp drive
        rw [List.nodup_cons] at nodup
        refine ⟨axis, later, drives, unseen axis List.mem_cons_self, ?_, rfl⟩
        refine ih.mpr ⟨others, nodup.2, ?_⟩
        intro other member
        have different : other ≠ axis := by
          rintro rfl
          exact nodup.1 member
        rw [Function.update_of_ne different]
        exact unseen other (List.mem_cons_of_mem _ member)

/-- As many axes as there are, none twice, are all of them. -/
theorem perm_axes_of_nodup {indices : List Axis} (nodup : indices.Nodup)
    (four : indices.length = kAxisCount) : indices.Perm axes := by
  have inside : indices.Subperm axes :=
    nodup.subperm fun axis _ => mem_axes axis
  exact inside.perm_of_length_le four.ge

/-- What `validate_joint_interfaces` accepts: the joints drive all axes. -/
theorem validateJointInterfaces_eq_ok_iff {joints : List JointInfo} {indices : List Axis} :
    validateJointInterfaces axisConfigs joints = .ok indices ↔
      List.Forall₂ (Drives axisConfigs) joints indices ∧ indices.Perm axes := by
  unfold validateJointInterfaces
  by_cases four : joints.length = kAxisCount
  · rw [if_neg (not_not.mpr four), validateJoints_eq_ok_iff]
    constructor
    · rintro ⟨drive, nodup, -⟩
      exact ⟨drive, perm_axes_of_nodup nodup (drive.length_eq ▸ four)⟩
    · rintro ⟨drive, all⟩
      exact ⟨drive, all.nodup_iff.mpr (by decide), by simp⟩
  · rw [if_pos four]
    constructor
    · intro impossible
      cases impossible
    · rintro ⟨drive, all⟩
      exact absurd (drive.length_eq.trans all.length_eq) four

end Loop

/-! ## What is exported -/

/-- A part of a concatenation over distinct indices is found by what holds of it alone. -/
theorem filter_flatMap_of_nodup {α β : Type} {l : List α} {f : α → List β} {p : β → Bool} {a : α}
    (nodup : l.Nodup) (member : a ∈ l) (own : ∀ b ∈ f a, p b = true)
    (others : ∀ x, x ≠ a → ∀ b ∈ f x, p b = false) : (l.flatMap f).filter p = f a := by
  obtain ⟨before, after, rfl⟩ := List.append_of_mem member
  have none (part : List α) (apart : a ∉ part) : (part.flatMap f).filter p = [] := by
    rw [List.filter_eq_nil_iff]
    intro b inside
    obtain ⟨x, inPart, inside⟩ := List.mem_flatMap.mp inside
    have different : x ≠ a := by
      rintro rfl
      exact apart inPart
    rw [others x different b inside]
    exact Bool.false_ne_true
  obtain ⟨notBefore, notAfter⟩ : a ∉ before ∧ a ∉ after := by
    rw [List.nodup_append, List.nodup_cons] at nodup
    refine ⟨?_, nodup.2.1.1⟩
    intro inside
    exact nodup.2.2 a inside a List.mem_cons_self rfl
  rw [List.flatMap_append, List.flatMap_cons, List.filter_append, List.filter_append,
    none before notBefore, none after notAfter, List.filter_eq_self.mpr own, List.nil_append,
    List.append_nil]

section Exports

variable {axisConfigs : Axis → AxisConfig} {joints : List JointInfo} {indices : List Axis}

/-- The joints are named as their axes are. -/
def Named (axisConfigs : Axis → AxisConfig) (joints : List JointInfo) (indices : List Axis) :
    Prop :=
  List.Forall₂ (fun joint axis => (axisConfigs axis).jointName = joint.name) joints indices

theorem Named.map_name (named : Named axisConfigs joints indices) :
    joints.map (·.name) = indices.map fun axis => (axisConfigs axis).jointName := by
  induction named with
  | nil => rfl
  | cons same rest ih => rw [List.map_cons, List.map_cons, ih, same]

theorem named_of_drives (distinct : Function.Injective fun axis => (axisConfigs axis).jointName)
    (drive : List.Forall₂ (Drives axisConfigs) joints indices) :
    Named axisConfigs joints indices := by
  apply drive.imp
  intro joint axis drives
  exact (axisOfJoint_eq_some_iff distinct).mp drives.found

/-- A loop over the joints that looks each one's axis up visits the axes, if the joints
are named as these. -/
theorem flatMap_axisAt (handles : String → Axis → List Handle)
    (named : Named axisConfigs joints indices) :
    (joints.zipIdx.flatMap fun (info, joint) => handles info.name (axisAt indices joint)) =
      indices.flatMap fun axis => handles (axisConfigs axis).jointName axis := by
  -- The loop counts on from the indices that are already used.
  have counting (used : List Axis) :
      ((joints.zipIdx used.length).flatMap fun (info, joint) =>
        handles info.name (axisAt (used ++ indices) joint)) =
      indices.flatMap fun axis => handles (axisConfigs axis).jointName axis := by
    induction named generalizing used with
    | nil => rfl
    | @cons joint axis joints indices same rest ih =>
        have here : axisAt (used ++ axis :: indices) used.length = axis := by
          simp [axisAt]
        have onward := ih (used ++ [axis])
        rw [List.length_append, List.length_singleton, List.append_assoc,
          List.singleton_append] at onward
        rw [List.zipIdx_cons, List.flatMap_cons, List.flatMap_cons, onward]
        simp only [here, same]
  exact counting []

/-- What validated joints and their exported interfaces are: each joint has exactly the
slots of the axis of its name, and every slot is exported exactly once. -/
structure Wired (axisConfigs : Axis → AxisConfig) (joints : List JointInfo)
    (indices : List Axis) : Prop where
  permutation : indices.Perm axes
  own : List.Forall₂
    (fun joint axis => (axisConfigs axis).jointName = joint.name ∧
      (exportCommandInterfaces joints indices).filter (·.prefixName = joint.name) =
        [⟨joint.name, kEffort, .effortCommands axis⟩] ∧
      (exportStateInterfaces joints indices).filter (·.prefixName = joint.name) =
        [⟨joint.name, kPosition, .positionStates axis⟩,
          ⟨joint.name, kVelocity, .velocityStates axis⟩])
    joints indices
  commandSlots : ((exportCommandInterfaces joints indices).map (·.slot)).Perm
    (axes.map .effortCommands)
  stateSlots : ((exportStateInterfaces joints indices).map (·.slot)).Perm
    (axes.flatMap fun axis => [.positionStates axis, .velocityStates axis])

theorem wired_of_named (distinct : Function.Injective fun axis => (axisConfigs axis).jointName)
    (named : Named axisConfigs joints indices) (all : indices.Perm axes) :
    Wired axisConfigs joints indices := by
  have nodup : indices.Nodup := all.nodup_iff.mpr (by decide)
  have commands : exportCommandInterfaces joints indices = _ :=
    flatMap_axisAt commandHandles named
  have states : exportStateInterfaces joints indices = _ := flatMap_axisAt stateHandles named
  refine ⟨all, ?_, ?_, ?_⟩
  · rw [commands, states]
    apply List.Forall₂.imp ?_ named
    intro joint axis same
    rw [← same]
    have member : axis ∈ indices := all.mem_iff.mpr (mem_axes axis)
    have others {other : Axis} (different : other ≠ axis) :
        (axisConfigs other).jointName ≠ (axisConfigs axis).jointName :=
      fun same => different (distinct same)
    refine ⟨rfl, ?_, ?_⟩
    · apply filter_flatMap_of_nodup nodup member
      · simp [commandHandles]
      · intro other different
        simpa [commandHandles] using others different
    · apply filter_flatMap_of_nodup nodup member
      · simp [stateHandles]
      · intro other different
        simpa [stateHandles] using others different
  · rw [commands, List.map_flatMap]
    exact all.flatMap_right _
  · rw [states, List.map_flatMap]
    exact all.flatMap_right _

end Exports

/-! ## The main result -/

section Validated

variable {axisConfigs : Axis → AxisConfig} {joints : List JointInfo} {indices : List Axis}
  (fromTable : ∀ axis, (axisConfigs axis).jointName = (defaultAxisConfigs axis).jointName)
include fromTable

theorem jointName_injective : Function.Injective fun axis => (axisConfigs axis).jointName := by
  have table : ∀ axis other : Axis,
      (defaultAxisConfigs axis).jointName = (defaultAxisConfigs other).jointName →
        axis = other := by
    decide
  intro axis other same
  apply table
  rw [← fromTable, ← fromTable]
  exact same

theorem wired_of_validated (validated : validateJointInterfaces axisConfigs joints = .ok indices) :
    Wired axisConfigs joints indices := by
  have distinct := jointName_injective fromTable
  obtain ⟨drive, all⟩ := validateJointInterfaces_eq_ok_iff.mp validated
  exact wired_of_named distinct (named_of_drives distinct drive) all

/-- The expected joints are accepted in any order. -/
theorem exists_validated (expected : (joints.map (·.name)).Perm expectedJoints)
    (declare : ∀ joint ∈ joints, joint.DeclaresInterfaces) :
    ∃ indices, validateJointInterfaces axisConfigs joints = .ok indices := by
  have distinct := jointName_injective fromTable
  have drives (joint : JointInfo) (member : joint ∈ joints) :
      ∃ axis, Drives axisConfigs joint axis := by
    have isExpected : joint.name ∈ expectedJoints :=
      expected.mem_iff.mp (List.mem_map_of_mem member)
    obtain ⟨axis, -, same⟩ := List.mem_map.mp isExpected
    refine ⟨axis, (axisOfJoint_eq_some_iff distinct).mpr ?_, declare joint member⟩
    rw [fromTable, same]
  choose axisOf isAxisOf using drives
  let indices := joints.attach.map fun joint => axisOf joint.1 joint.2
  have drive : List.Forall₂ (Drives axisConfigs) joints indices := by
    nth_rewrite 1 [← List.attach_map_subtype_val joints]
    rw [List.forall₂_map_left_iff, List.forall₂_map_right_iff, List.forall₂_same]
    intro joint _
    exact isAxisOf joint.1 joint.2
  have nodup : indices.Nodup := by
    apply List.Nodup.of_map fun axis => (axisConfigs axis).jointName
    rw [← (named_of_drives distinct drive).map_name]
    exact expected.nodup_iff.mpr expectedJoints_nodup
  have four : indices.length = kAxisCount := by
    rw [← drive.length_eq, ← List.length_map (·.name), expected.length_eq]
    rfl
  exact ⟨indices, validateJointInterfaces_eq_ok_iff.mpr ⟨drive, perm_axes_of_nodup nodup four⟩⟩

/-- What is accepted are the expected joints, with their interfaces. -/
theorem expected_of_validated
    (validated : validateJointInterfaces axisConfigs joints = .ok indices) :
    (joints.map (·.name)).Perm expectedJoints ∧ ∀ joint ∈ joints, joint.DeclaresInterfaces := by
  have distinct := jointName_injective fromTable
  obtain ⟨drive, all⟩ := validateJointInterfaces_eq_ok_iff.mp validated
  constructor
  · rw [(named_of_drives distinct drive).map_name, funext fromTable]
    exact all.map _
  · intro joint member
    obtain ⟨position, inside, rfl⟩ := List.getElem_of_mem member
    exact (drive.get inside (drive.length_eq ▸ inside)).declares

end Validated

/-- After an `on_init` that succeeds. -/
theorem onInit_wired {stod : Stod} {baseOk : Bool} {info : HardwareInfo} {P : Parameters}
    {indices : List Axis} {hw : LeverHardware}
    (init : onInit stod baseOk info = .ok (P, indices, hw)) :
    Wired P.axisConfigs info.joints indices := by
  obtain ⟨loaded, validated, -⟩ := onInit_eq_ok init
  exact wired_of_validated (loadHardwareParameters_valid loaded).jointName_eq validated

/-- **Every joint is wired to its own axis.**  The axes being named as `on_init`'s table
names them, whatever joints are described: if they are accepted, then the indices are a
permutation of the axes, each joint is exported exactly the slots of the axis of its
name, and every slot is exported once.  They are accepted exactly when they are the
expected joints in some order, each declaring just the interfaces it is exported. -/
theorem joints_wired_to_their_axes {axisConfigs : Axis → AxisConfig}
    (fromTable : ∀ axis, (axisConfigs axis).jointName = (defaultAxisConfigs axis).jointName)
    (joints : List JointInfo) :
    (∀ indices, validateJointInterfaces axisConfigs joints = .ok indices →
      Wired axisConfigs joints indices) ∧
    ((∃ indices, validateJointInterfaces axisConfigs joints = .ok indices) ↔
      (joints.map (·.name)).Perm expectedJoints ∧
        ∀ joint ∈ joints, joint.DeclaresInterfaces) := by
  refine ⟨fun indices => wired_of_validated fromTable, ?_, ?_⟩
  · rintro ⟨indices, validated⟩
    exact expected_of_validated fromTable validated
  · rintro ⟨expected, declare⟩
    exact exists_validated fromTable expected declare

/-- A description in the order bucket, swing, arm, boom. -/
def shuffledJoints : List JointInfo :=
  [.standard "bucket_joint", .standard "swing_joint", .standard "arm_joint",
    .standard "boom_joint"]

theorem joints_wired_to_their_axes_shuffled :
    Wired defaultAxisConfigs shuffledJoints [3, 0, 2, 1] ∧
      exportCommandInterfaces shuffledJoints [3, 0, 2, 1] =
        [⟨"bucket_joint", "effort", .effortCommands 3⟩,
          ⟨"swing_joint", "effort", .effortCommands 0⟩,
          ⟨"arm_joint", "effort", .effortCommands 2⟩,
          ⟨"boom_joint", "effort", .effortCommands 1⟩] :=
  ⟨(joints_wired_to_their_axes (fun _ => rfl) shuffledJoints).1 _ (by rfl), rfl⟩

end Tb20e.Hardware
