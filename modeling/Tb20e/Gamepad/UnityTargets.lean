/-
# Gamepad.UnityTargets -- the Unity targets as a fold over a block of ticks

While simulator feedback is fresh the node integrates the stick into joint
targets; when it is not, it publishes none, and the next fresh tick starts again
from the feedback held then.  `ticks` lists what each tick of a run saw, from the
events alone, and `blockTargets` folds the integration over a block of ticks.

`Tracks` ties the node's three flags, its clock and its targets to the maximal
block of fresh ticks that ends a history; `unity_eq_fold` reads the published
values off it.
-/
import Tb20e.Gamepad.JoyWatchdog
import Mathlib.Data.List.DropRight

namespace Tb20e.Gamepad

set_option autoImplicit false

open Tb20e.Theory Tb20e.Control
open Tb20e.Theory (Double)

/-! ## What a tick sees -/

structure Tick where
  time : Time
  previous : Time
  /-- For each axis when its last message came and the position it gave; nothing
  if there was none or it was not finite. -/
  feedback : Axis → Option (Time × Double)
  live : Bool
  command : Axis → Double

section Ticks

variable (params : Parameters)

/-- The feedback held for an axis after some events. -/
def heldFeedback (events : List (Time × Event)) (axis : Axis) : Option (Time × Double) :=
  events.foldl
    (fun held event =>
      match event with
      | (now, .simFeedback source data) =>
          if source ≠ axis then held
          else if data.isFinite then
            some (now, params.unityPositionSigns axis * degreesToRadians data)
          else none
      | _ => held)
    none

/-- The time of the last tick, or of the construction before the first. -/
def lastTickTime (constructed : Time) (events : List (Time × Event)) : Time :=
  events.foldl
    (fun last event =>
      match event with
      | (now, .tick) => now
      | _ => last)
    constructed

/-- Whether the last Joy message is well formed and recent. -/
def joyLive (history : List (Time × Joy)) (now : Time) : Bool :=
  match history.getLast? with
  | none => false
  | some (received, message) =>
      message.wellFormed params &&
        !decide (((now - received : ℚ) : Double) > params.joyTimeoutSec)

/-- A tick after some events. -/
def tickOf (constructed : Time) (past : List (Time × Event)) (now : Time) : Tick where
  time := now
  previous := lastTickTime constructed past
  feedback := heldFeedback params past
  live := joyLive params (joyHistory past) now
  command := referenceCommand params (joyHistory past) now

/-- The ticks of a run, each with the events before it. -/
def ticks (constructed : Time) (events : List (Time × Event)) : List Tick :=
  (events.foldl
    (fun (acc : List (Time × Event) × List Tick) event =>
      (acc.1 ++ [event],
        match event with
        | (now, .tick) => acc.2 ++ [tickOf params constructed acc.1 now]
        | _ => acc.2))
    ([], [])).2

namespace Tick

/-- Feedback is received on every axis and not too old. -/
def fresh (tick : Tick) : Bool :=
  axes.all fun axis =>
    match tick.feedback axis with
    | none => false
    | some (received, _) =>
        ((tick.time - received : ℚ) : Double) ≤ params.simFeedbackTimeoutSec

/-- The held positions, with the swing wrapped. -/
def held (tick : Tick) (axis : Axis) : Double :=
  let position := ((tick.feedback axis).map (·.2)).getD 0
  if axis = 0 then wrapToPi position else position

/-- One tick's integration: nothing while the Joy is timed out. -/
def integrate (targets : Axis → Double) (tick : Tick) : Axis → Double :=
  if tick.live then
    PositionCommand.advance targets tick.command params.positionConfig
      ((tick.time - tick.previous : ℚ) : Double)
  else targets

/-- What a tick contributes to its block apart from where the block starts. -/
def inputs (tick : Tick) : Time × Time × Bool × (Axis → Double) :=
  (tick.time, tick.previous, tick.live, tick.command)

end Tick

/-- The targets after a block of ticks, starting from the feedback at its first. -/
def blockTargets (block : List Tick) : Option (Axis → Double) :=
  block.head?.map fun first => block.foldl (Tick.integrate params) first.held

/-- The maximal block of fresh ticks at the end of a list of ticks. -/
def freshBlock (records : List Tick) : List Tick := records.rtakeWhile (Tick.fresh params)

end Ticks

/-! ## The definitions along a history -/

section Histories

variable {params : Parameters} {constructed : Time}

theorem ticks_fold (params : Parameters) (constructed : Time) (events : List (Time × Event)) :
    (events.foldl
      (fun (acc : List (Time × Event) × List Tick) event =>
        (acc.1 ++ [event],
          match event with
          | (now, .tick) => acc.2 ++ [tickOf params constructed acc.1 now]
          | _ => acc.2))
      ([], [])).1 = events := by
  induction events using List.reverseRecOn with
  | nil => rfl
  | append_singleton events event ih => rw [List.foldl_append, List.foldl_cons, List.foldl_nil, ih]

theorem ticks_concat_tick (past : List (Time × Event)) (now : Time) :
    ticks params constructed (past ++ [(now, .tick)]) =
      ticks params constructed past ++ [tickOf params constructed past now] := by
  have first := ticks_fold params constructed past
  simp only [ticks, List.foldl_append, List.foldl_cons, List.foldl_nil, first]

theorem ticks_concat_of_ne {past : List (Time × Event)} {event : Time × Event}
    (notTick : event.2 ≠ .tick) :
    ticks params constructed (past ++ [event]) = ticks params constructed past := by
  obtain ⟨now, event⟩ := event
  cases event with
  | tick => exact absurd rfl notTick
  | joy message => simp [ticks]
  | simFeedback axis data => simp [ticks]

theorem freshBlock_concat (records : List Tick) (tick : Tick) :
    freshBlock params (records ++ [tick]) =
      if tick.fresh params then freshBlock params records ++ [tick] else [] :=
  List.rtakeWhile_concat ..

theorem blockTargets_concat (block : List Tick) (tick : Tick) :
    blockTargets params (block ++ [tick]) =
      some (tick.integrate params ((blockTargets params block).getD tick.held)) := by
  cases block with
  | nil => rfl
  | cons first rest => simp [blockTargets]

theorem heldFeedback_concat_of_ne {past : List (Time × Event)} {event : Time × Event}
    (notFeedback : ∀ axis data, event.2 ≠ .simFeedback axis data) (axis : Axis) :
    heldFeedback params (past ++ [event]) axis = heldFeedback params past axis := by
  obtain ⟨now, event⟩ := event
  cases event with
  | simFeedback source data => exact absurd rfl (notFeedback source data)
  | joy message => simp [heldFeedback]
  | tick => simp [heldFeedback]

theorem heldFeedback_concat (past : List (Time × Event)) (now : Time) (source : Axis)
    (data : Double) (axis : Axis) :
    heldFeedback params (past ++ [(now, .simFeedback source data)]) axis =
      if source ≠ axis then heldFeedback params past axis
      else if data.isFinite then
        some (now, params.unityPositionSigns axis * degreesToRadians data)
      else none := by
  simp [heldFeedback]

theorem lastTickTime_concat_tick (past : List (Time × Event)) (now : Time) :
    lastTickTime constructed (past ++ [(now, .tick)]) = now := by
  simp [lastTickTime]

theorem lastTickTime_concat_of_ne {past : List (Time × Event)} {event : Time × Event}
    (notTick : event.2 ≠ .tick) :
    lastTickTime constructed (past ++ [event]) = lastTickTime constructed past := by
  obtain ⟨now, event⟩ := event
  cases event with
  | tick => exact absurd rfl notTick
  | joy message => simp [lastTickTime]
  | simFeedback axis data => simp [lastTickTime]

end Histories

/-! ## The node tracks its history -/

section Tracking

variable {params : Parameters} {constructed : Time}

/-- The Unity members of a node in terms of the events it has seen. -/
structure Tracks (params : Parameters) (constructed : Time) (past : List (Time × Event))
    (s : Node) : Prop where
  received : ∀ axis, s.simFeedbackReceived axis = (heldFeedback params past axis).isSome
  holds : ∀ axis received position, heldFeedback params past axis = some (received, position) →
    s.simFeedbackTimes axis = received ∧ s.simFeedbackPositions axis = position
  lastUpdate : s.lastPositionUpdate = lastTickTime constructed past
  wasFresh : s.simFeedbackWasFresh = !(freshBlock params (ticks params constructed past)).isEmpty
  targets : ∀ target,
    blockTargets params (freshBlock params (ticks params constructed past)) = some target →
      s.positionTargetsInitialized = true ∧ s.positionTargets = target

theorem tracks_start (joyTime positionTime : Time) :
    Tracks params positionTime [] (initialNode params joyTime positionTime) where
  received _ := rfl
  holds axis received position impossible := by cases impossible
  lastUpdate := rfl
  wasFresh := rfl
  targets target impossible := by cases impossible

/-- Simulator feedback replaces what is held of its axis. -/
theorem Tracks.simFeedback {past : List (Time × Event)} {s : Node}
    (tracks : Tracks params constructed past s) (now : Time) (source : Axis) (data : Double) :
    Tracks params constructed (past ++ [(now, .simFeedback source data)])
      (simFeedbackCallback params source data now s) := by
  have sameTicks : ticks params constructed (past ++ [(now, .simFeedback source data)]) =
      ticks params constructed past := ticks_concat_of_ne (by simp)
  refine ⟨?_, ?_, ?_, ?_, ?_⟩
  · intro axis
    have old := tracks.received axis
    rw [heldFeedback_concat]
    unfold simFeedbackCallback
    by_cases same : source = axis
    · subst same
      cases data.isFinite <;> simp
    · cases data.isFinite <;> simp [same, Function.update_of_ne (Ne.symm same), old]
  · intro axis received position isHeld
    rw [heldFeedback_concat] at isHeld
    unfold simFeedbackCallback
    by_cases same : source = axis
    · subst same
      cases finite : data.isFinite with
      | false => simp [finite] at isHeld
      | true =>
          simp only [finite, ne_eq, not_true_eq_false, if_false, if_true, Option.some.injEq,
            Prod.mk.injEq] at isHeld
          obtain ⟨rfl, rfl⟩ := isHeld
          simp
    · rw [if_pos same] at isHeld
      obtain ⟨time, kept⟩ := tracks.holds axis received position isHeld
      cases data.isFinite <;> simp [Function.update_of_ne (Ne.symm same), time, kept]
  · rw [lastTickTime_concat_of_ne (by simp), ← tracks.lastUpdate]
    unfold simFeedbackCallback
    split <;> rfl
  · rw [sameTicks, ← tracks.wasFresh]
    unfold simFeedbackCallback
    split <;> rfl
  · rw [sameTicks]
    unfold simFeedbackCallback
    split <;> exact tracks.targets

/-- A Joy message leaves the Unity members alone. -/
theorem Tracks.joy {past : List (Time × Event)} {s : Node}
    (tracks : Tracks params constructed past s) (now : Time) (message : Joy) :
    Tracks params constructed (past ++ [(now, .joy message)]) (joyCallback params message now s) := by
  have sameTicks : ticks params constructed (past ++ [(now, .joy message)]) =
      ticks params constructed past := ticks_concat_of_ne (by simp)
  have sameHeld (axis : Axis) : heldFeedback params (past ++ [(now, .joy message)]) axis =
      heldFeedback params past axis := heldFeedback_concat_of_ne (by simp) axis
  have sameTime : lastTickTime constructed (past ++ [(now, .joy message)]) =
      lastTickTime constructed past := lastTickTime_concat_of_ne (by simp)
  unfold joyCallback
  split <;>
    exact ⟨fun axis => by rw [sameHeld]; exact tracks.received axis,
      fun axis => by rw [sameHeld]; exact tracks.holds axis, by rw [sameTime]; exact tracks.lastUpdate,
      by rw [sameTicks]; exact tracks.wasFresh, by rw [sameTicks]; exact tracks.targets⟩

/-- The node finds the feedback fresh exactly when the tick is. -/
theorem Tracks.fresh_eq {past : List (Time × Event)} {s : Node}
    (tracks : Tracks params constructed past s) (now : Time) :
    simFeedbackFresh params now s = (tickOf params constructed past now).fresh params := by
  unfold simFeedbackFresh Tick.fresh
  congr 1
  funext axis
  simp only [tickOf, tracks.received axis]
  cases isHeld : heldFeedback params past axis with
  | none => rfl
  | some sample =>
      obtain ⟨received, position⟩ := sample
      rw [(tracks.holds axis received position isHeld).1]
      rfl

/-- At a fresh tick the held targets are the tick's. -/
theorem Tracks.heldTargets_eq {past : List (Time × Event)} {s : Node} {now : Time}
    (tracks : Tracks params constructed past s)
    (fresh : (tickOf params constructed past now).fresh params = true) :
    heldTargets s = (tickOf params constructed past now).held := by
  have position (axis : Axis) : s.simFeedbackPositions axis =
      ((heldFeedback params past axis).map (·.2)).getD 0 := by
    have onAxis := all_axes_iff.mp fresh axis
    cases isHeld : heldFeedback params past axis with
    | none => simp [tickOf, isHeld] at onAxis
    | some sample => simpa using (tracks.holds axis sample.1 sample.2 isHeld).2
  funext axis
  unfold heldTargets Tick.held
  by_cases swing : axis = 0
  · subst swing
    simp [tickOf, position]
  · simp [tickOf, swing, position]

/-- The node times out exactly when the Joy history is not live. -/
theorem timedOut_eq_not_joyLive {history : List (Time × Joy)} {g : ClockedNode}
    (sim : Simulates params history g) (now : Time) :
    timedOut params now g.node = !joyLive params history now := by
  rcases List.eq_nil_or_concat history with rfl | ⟨earlier, ⟨received, message⟩, rfl⟩
  · simp [timedOut, joyLive, sim.silent rfl]
  · obtain ⟨-, valid, held⟩ := sim.last earlier received message List.concat_eq_append
    cases wellFormed : message.wellFormed params with
    | false => simp [timedOut, joyLive, valid, wellFormed]
    | true => simp [timedOut, joyLive, valid, wellFormed, (held wellFormed).1]

/-- **One fresh tick** adds itself to the block. -/
theorem blockTargets_tick {past : List (Time × Event)} {g : ClockedNode} {now : Time}
    {timeout : ℚ} (isTimeout : params.joyTimeoutSec = timeout)
    (sim : Simulates params (joyHistory past) g) (tracks : Tracks params constructed past g.node)
    (forward : g.clock ≤ now) (fresh : (tickOf params constructed past now).fresh params = true) :
    blockTargets params (freshBlock params (ticks params constructed past) ++
      [tickOf params constructed past now]) = some (nextTargets params now g.node) := by
  rw [blockTargets_concat]
  -- Where the block so far ends is where the tick starts from.
  have base : baseTargets g.node =
      (blockTargets params (freshBlock params (ticks params constructed past))).getD
        (tickOf params constructed past now).held := by
    have wasFresh := tracks.wasFresh
    cases block : freshBlock params (ticks params constructed past) with
    | nil =>
        rw [block] at wasFresh
        simp only [baseTargets, reinitializes, wasFresh, List.isEmpty_nil, Bool.not_true, Bool.not_false,
          Bool.or_true, if_true, blockTargets, List.head?_nil, Option.map_none, Option.getD_none]
        exact tracks.heldTargets_eq fresh
    | cons first rest =>
        rw [block] at wasFresh
        have targets := tracks.targets
        rw [block] at targets
        obtain ⟨initialized, same⟩ := targets _ rfl
        simp [baseTargets, reinitializes, wasFresh, initialized, same, blockTargets]
  have live : timedOut params now g.node = !(tickOf params constructed past now).live :=
    timedOut_eq_not_joyLive sim now
  have command (isLive : (tickOf params constructed past now).live = true) :
      g.node.latestCommand = (tickOf params constructed past now).command := by
    have same := publishJoy_eq_reference isTimeout sim forward
    simp only [publishJoy, live, isLive, Bool.not_true, Bool.false_eq_true, if_false] at same
    exact same
  simp only [nextTargets, base, live]
  unfold Tick.integrate
  cases isLive : (tickOf params constructed past now).live with
  | false => simp
  | true => simp [command isLive, tracks.lastUpdate, tickOf]

/-- A tick, fresh or not. -/
theorem Tracks.tick {past : List (Time × Event)} {g : ClockedNode} {now : Time} {timeout : ℚ}
    (isTimeout : params.joyTimeoutSec = timeout)
    (enabled : params.unityPositionOutputEnabled = true)
    (sim : Simulates params (joyHistory past) g) (tracks : Tracks params constructed past g.node)
    (forward : g.clock ≤ now) :
    Tracks params constructed (past ++ [(now, .tick)]) (publishCommand params now g.node).1 := by
  have ticked := ticked_publishCommand params enabled now g.node
  have sameHeld (axis : Axis) : heldFeedback params (past ++ [(now, .tick)]) axis =
      heldFeedback params past axis := heldFeedback_concat_of_ne (by simp) axis
  have isFresh := tracks.fresh_eq now
  refine ⟨?_, ?_, ?_, ?_, ?_⟩
  · intro axis
    rw [sameHeld, ticked.received]; exact tracks.received axis
  · intro axis received position isHeld
    rw [sameHeld] at isHeld
    rw [ticked.times, ticked.positions]
    exact tracks.holds axis received position isHeld
  · rw [lastTickTime_concat_tick, ticked.lastUpdate]
  · rw [ticks_concat_tick, freshBlock_concat, ticked.wasFresh, isFresh]
    cases (tickOf params constructed past now).fresh params <;> simp
  · intro target isTarget
    rw [ticks_concat_tick, freshBlock_concat] at isTarget
    cases fresh : (tickOf params constructed past now).fresh params with
    | false => rw [fresh] at isTarget; cases isTarget
    | true =>
        rw [fresh, if_pos rfl, blockTargets_tick isTimeout sim tracks forward fresh,
          Option.some.injEq] at isTarget
        rw [ticked.initialized, ticked.targets, isFresh, fresh, if_pos rfl, isTarget]
        exact ⟨Bool.or_true _, rfl⟩

theorem tracks_run {joyTime positionTime clock : Time} {events : List (Time × Event)}
    {g : ClockedNode} (accepted : params.Accepted)
    (enabled : params.unityPositionOutputEnabled = true)
    (reached : runs (step params) (start params joyTime positionTime clock) events = some g) :
    Simulates params (joyHistory events) g ∧ Tracks params positionTime events g.node := by
  obtain ⟨timeout, isTimeout, -⟩ := accepted.joyTimeout
  refine ⟨simulates_run accepted reached, (runs_history_invariant
    (I := fun past g => Simulates params (joyHistory past) g ∧ Tracks params positionTime past g.node)
    (fun past s event s' inv taken => ⟨?_, ?_⟩) [] reached
    ⟨simulates_start .., tracks_start joyTime positionTime⟩).2⟩
  · exact simulates_step isTimeout inv.1 taken
  · obtain ⟨forward, -, rfl⟩ := step_eq_some.mp taken
    obtain ⟨now, event⟩ := event
    cases event with
    | joy message => exact inv.2.joy now message
    | simFeedback axis data => exact inv.2.simFeedback now axis data
    | tick => exact inv.2.tick isTimeout enabled inv.1 forward

/-- What a tick publishes on the Unity topics, from the ticks up to it. -/
def unityOf (params : Parameters) (records : List Tick) : Option (Axis → Double) :=
  (blockTargets params (freshBlock params records)).map fun target axis =>
    params.unityPositionSigns axis * target axis

/-- A block's targets depend on the feedback at its first tick and on the inputs of
its ticks alone. -/
theorem blockTargets_congr {block block' : List Tick}
    (held : block'.head?.map Tick.held = block.head?.map Tick.held)
    (inputs : block'.map Tick.inputs = block.map Tick.inputs) :
    blockTargets params block' = blockTargets params block := by
  have fold (records : List Tick) (targets : Axis → Double) :
      records.foldl (Tick.integrate params) targets =
        (records.map Tick.inputs).foldl
          (fun targets input => if input.2.2.1 then
            PositionCommand.advance targets input.2.2.2 params.positionConfig
              ((input.1 - input.2.1 : ℚ) : Double) else targets) targets := by
    rw [List.foldl_map]
    rfl
  have start (records : List Tick) : blockTargets params records =
      (records.head?.map Tick.held).map fun targets =>
        records.foldl (Tick.integrate params) targets := by
    cases records <;> rfl
  rw [start block', start block, held]
  simp only [fold, inputs]

theorem unity_eq_unityOf {g : ClockedNode} {now : Time} {past : List (Time × Event)} {timeout : ℚ}
    (isTimeout : params.joyTimeoutSec = timeout)
    (enabled : params.unityPositionOutputEnabled = true)
    (sim : Simulates params (joyHistory past) g) (tracks : Tracks params constructed past g.node)
    (forward : g.clock ≤ now) :
    (publishCommand params now g.node).2.unity =
      unityOf params (ticks params constructed (past ++ [(now, .tick)])) := by
  rw [(ticked_publishCommand params enabled now g.node).unity, tracks.fresh_eq, unityOf,
    ticks_concat_tick, freshBlock_concat]
  cases fresh : (tickOf params constructed past now).fresh params with
  | false => rfl
  | true =>
      rw [if_pos rfl, if_pos rfl, blockTargets_tick isTimeout sim tracks forward fresh]
      rfl

/-- **Unity targets are a fold over the block of fresh ticks.**  A tick without
fresh feedback publishes nothing.  Every other tick publishes the signed targets
that its block of consecutive fresh ticks integrates to, starting from the
feedback held at the block's first.  Two ticks of any two runs whose blocks start
from the same feedback and saw the same times, liveness and commands publish the
same. -/
theorem unity_eq_fold {joyTime positionTime clock now : Time} {events : List (Time × Event)}
    {g : ClockedNode} (passed : validateParameters params = .ok ())
    (enabled : params.unityPositionOutputEnabled = true)
    (reached : runs (step params) (start params joyTime positionTime clock) events = some g)
    (forward : g.clock ≤ now) :
    ((tickOf params positionTime events now).fresh params = false →
        (publishCommand params now g.node).2.unity = none) ∧
      (publishCommand params now g.node).2.unity =
        unityOf params (ticks params positionTime (events ++ [(now, .tick)])) ∧
      ∀ (joyTime' positionTime' clock' now' : Time) (events' : List (Time × Event))
        (g' : ClockedNode),
        runs (step params) (start params joyTime' positionTime' clock') events' = some g' →
        g'.clock ≤ now' →
        let block := freshBlock params (ticks params positionTime (events ++ [(now, .tick)]))
        let block' := freshBlock params (ticks params positionTime' (events' ++ [(now', .tick)]))
        block'.head?.map Tick.held = block.head?.map Tick.held →
        block'.map Tick.inputs = block.map Tick.inputs →
        (publishCommand params now' g'.node).2.unity = (publishCommand params now g.node).2.unity := by
  have accepted := accepted_of_validate passed
  obtain ⟨timeout, isTimeout, -⟩ := accepted.joyTimeout
  obtain ⟨sim, tracks⟩ := tracks_run accepted enabled reached
  have same := unity_eq_unityOf isTimeout enabled sim tracks forward
  refine ⟨?_, same, ?_⟩
  · intro stale
    rw [same, unityOf, ticks_concat_tick, freshBlock_concat, stale]
    rfl
  · intro joyTime' positionTime' clock' now' events' g' reached' forward' block block' held inputs
    obtain ⟨sim', tracks'⟩ := tracks_run accepted enabled reached'
    rw [unity_eq_unityOf isTimeout enabled sim' tracks' forward', same, unityOf, unityOf,
      blockTargets_congr held inputs]

/-- Feedback on every axis, the boom at the given angle, and one tick. -/
def feedbackThenTick (boomDegrees : ℚ) : List (Time × Event) :=
  [(0, .simFeedback 0 (10 : ℚ)), (0, .simFeedback 1 boomDegrees), (0, .simFeedback 2 (90 : ℚ)),
    (0, .simFeedback 3 (0 : ℚ)), (1 / 20, .tick)]

/-- A second tick continues the block; one after the feedback timeout publishes nothing. -/
theorem unity_eq_fold_feedbackThenTick :
    ∃ g, runs (step { unityPositionOutputEnabled := true })
        (start { unityPositionOutputEnabled := true } 0 0 0) (feedbackThenTick 20) = some g ∧
      (publishCommand { unityPositionOutputEnabled := true } (1 / 10) g.node).2.unity =
        unityOf { unityPositionOutputEnabled := true }
          (ticks { unityPositionOutputEnabled := true } 0
            (feedbackThenTick 20 ++ [(1 / 10, .tick)])) ∧
      (publishCommand { unityPositionOutputEnabled := true } 1 g.node).2.unity = none := by
  obtain ⟨g, reached, soon, late⟩ :
      ∃ g ∈ runs (step { unityPositionOutputEnabled := true })
          (start { unityPositionOutputEnabled := true } 0 0 0) (feedbackThenTick 20),
        g.clock ≤ 1 / 10 ∧ g.clock ≤ 1 := by
    decide +kernel
  exact ⟨g, reached,
    (unity_eq_fold (validateParameters_default true) rfl reached soon).2.1,
    (unity_eq_fold (validateParameters_default true) rfl reached late).1 (by decide +kernel)⟩

end Tracking

end Tb20e.Gamepad
