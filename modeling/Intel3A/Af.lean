import Intel3A.State
/-!
# The AF path

`updateAfParameter` runs in the sections its comments name: lens position, mode (a new
mode resets the AF block and the trigger machine), frame use, trigger (a rising START or
CANCEL edge runs its handler), region, and the manual lens position of AF mode off.
Each section is a definition of its own here, and `updateAfParameter` is their
composition.  `fillAfTriggerResult` feeds the engine's focus status back into the lock.

The facts proved here are per call: what the trigger section does on each edge, that a
mode change makes the result independent of the previous AF state
(`updateAfParameter_of_mode_change`), and the manual-focus law of AF mode off
(`afManualFocus_of_off`).
-/

namespace Intel3A

variable (env : Env)

/-- `updateAfParameterForAfTriggerStart`. -/
def updateAfParameterForAfTriggerStart (st : AfState) : AfState :=
  let st := { st with mDuringAfTriggerScan := true, mAfForceLock := false }
  match st.mAfMode with
  | .auto | .macroMode =>
    { st with mAfParams := { st.mAfParams with focusMode := .auto, triggerNewSearch := true } }
  | .continuousVideo => { st with mAfForceLock := true }
  | .continuousPicture => st
  | _ => st

/-- `updateAfParameterForAfTriggerCancel`. -/
def updateAfParameterForAfTriggerCancel (st : AfState) : AfState :=
  let st := { st with mDuringAfTriggerScan := false, mAfForceLock := false }
  match st.mAfMode with
  | .auto | .macroMode => { st with mAfParams := { st.mAfParams with focusMode := .infinity } }
  | _ => st

/-- `fillAfTriggerResult`; `none` is a null result. -/
def fillAfTriggerResult (st : AfState) : Option CcaAfResults → AfState
  | none => st
  | some afResults =>
    if !st.mAfForceLock then st
    else
      match st.mAfMode with
      | .continuousPicture | .auto | .macroMode =>
        { st with
          mAfForceLock :=
            afResults.status ≠ .localSearch && afResults.status ≠ .extendedSearch }
      | _ => st

/-! ## The sections of `updateAfParameter` -/

/-- The lens section: the lens position and its movement timestamp. -/
def afLensUpdate (param : AiqParameter) (st : AfState) : AfState :=
  { st with
    mAfParams :=
      { st.mAfParams with
        lensPosition := param.lensPosition
        lensMovementStartTimestamp := param.lensMovementStartTimestamp } }

/-- The mode section: a mode other than the stored one resets the AF block and the
trigger machine; the continuous modes start in auto focus. -/
def afModeUpdate (param : AiqParameter) (st : AfState) : AfState :=
  if st.mAfMode ≠ param.afMode then
    let p := initAfParameter env
    let p :=
      if param.afMode = .continuousPicture ∨ param.afMode = .continuousVideo then
        { p with focusMode := .auto }
      else p
    { mAfParams := p, mAfMode := param.afMode, mAfTrigger := .idle, mAfForceLock := false,
      mDuringAfTriggerScan := false }
  else st

/-- The trigger section: a rising START or CANCEL edge runs its handler, and the
request's trigger is stored. -/
def afTriggerUpdate (param : AiqParameter) (st : AfState) : AfState :=
  let st := { st with mAfParams := { st.mAfParams with triggerNewSearch := false } }
  let st :=
    if st.mAfTrigger ≠ .start ∧ param.afTrigger = .start then
      updateAfParameterForAfTriggerStart st
    else if st.mAfTrigger ≠ .cancel ∧ param.afTrigger = .cancel then
      updateAfParameterForAfTriggerCancel st
    else st
  { st with mAfTrigger := param.afTrigger }

/-- The region section: the last AF region, mapped to engine coordinates, when it has a
positive width and height; otherwise the empty rectangle. -/
def afFocusRect (param : AiqParameter) : IaRectangle :=
  match param.afRegions.getLast? with
  | some window =>
    if window.left < window.right ∧ window.top < window.bottom then
      let frameCoord : CameraCoordinateSystem :=
        ⟨0, 0, param.resolution.width, param.resolution.height⟩
      let window := env.convertToIaWindow frameCoord window
      { left := window.left, top := window.top, right := window.right, bottom := window.bottom }
    else {}
  | none => {}

/-- The focus distance of the manual section, in diopters, clamped to
`[0, minFocusDistance]` as the code does it. -/
def clampFocusDistance (param : AiqParameter) : ℚ :=
  if param.minFocusDistance < param.focusDistance then param.minFocusDistance
  else if param.focusDistance < 0 then 0
  else param.focusDistance

/-- The manual lens section: in AF mode off, focus at `1000 * (1.0f / distance)`
millimetres, computed in `float` and converted to `unsigned`, or at infinity for distance
zero; in any other mode the manual parameters are cleared. -/
def afManualFocus (param : AiqParameter) (mode : CameraAfMode) (p : CcaAfInputParams) :
    CcaAfInputParams :=
  if mode = .off then
    let p :=
      { p with
        focusMode := .manual
        manualFocusParameters := { p.manualFocusParameters with manualFocusAction := .none } }
    let focusDistance := clampFocusDistance param
    if focusDistance ≠ 0 then
      { p with
        manualFocusParameters :=
          { p.manualFocusParameters with
            manualFocusAction := .setDistance
            manualFocusDistance :=
              floatToUnsigned (round32 (1000 * round32 (1 / focusDistance))) } }
    else
      { p with
        focusMode := .infinity
        manualFocusParameters := { p.manualFocusParameters with manualFocusDistance := 0 } }
  else { p with manualFocusParameters := {} }

/-- `updateAfParameter`. -/
def updateAfParameter (param : AiqParameter) (st : AfState) : AfState :=
  let st := afModeUpdate env param (afLensUpdate param st)
  let st :=
    { st with
      mAfParams :=
        { st.mAfParams with frameUse := env.convertFrameUsageToIaFrameUsage param.frameUsage } }
  let st := afTriggerUpdate param st
  let st := { st with mAfParams := { st.mAfParams with focusRect := afFocusRect env param } }
  { st with mAfParams := afManualFocus param st.mAfMode st.mAfParams }

/-! ## What the handlers and sections do -/

section Lemmas

variable {env} (param : AiqParameter) (st : AfState)

theorem updateAfParameterForAfTriggerStart_eq :
    updateAfParameterForAfTriggerStart st =
      { st with
        mAfParams :=
          if st.mAfMode = .auto ∨ st.mAfMode = .macroMode then
            { st.mAfParams with focusMode := .auto, triggerNewSearch := true }
          else st.mAfParams
        mAfForceLock := decide (st.mAfMode = .continuousVideo)
        mDuringAfTriggerScan := true } := by
  cases h : st.mAfMode <;> simp [updateAfParameterForAfTriggerStart, h]

theorem updateAfParameterForAfTriggerCancel_eq :
    updateAfParameterForAfTriggerCancel st =
      { st with
        mAfParams :=
          if st.mAfMode = .auto ∨ st.mAfMode = .macroMode then
            { st.mAfParams with focusMode := .infinity }
          else st.mAfParams
        mAfForceLock := false
        mDuringAfTriggerScan := false } := by
  cases h : st.mAfMode <;> simp [updateAfParameterForAfTriggerCancel, h]

@[simp] theorem mAfMode_afTriggerUpdate : (afTriggerUpdate param st).mAfMode = st.mAfMode := by
  dsimp only [afTriggerUpdate]
  split_ifs
  · rw [updateAfParameterForAfTriggerStart_eq]
  · rw [updateAfParameterForAfTriggerCancel_eq]
  · rfl

theorem mAfMode_afModeUpdate : (afModeUpdate env param st).mAfMode = param.afMode := by
  by_cases h : st.mAfMode = param.afMode <;> simp [afModeUpdate, h]

theorem mAfTrigger_afModeUpdate :
    (afModeUpdate env param st).mAfTrigger =
      if st.mAfMode = param.afMode then st.mAfTrigger else .idle := by
  by_cases h : st.mAfMode = param.afMode <;> simp [afModeUpdate, h]

@[simp] theorem triggerNewSearch_afManualFocus (mode : CameraAfMode) (p : CcaAfInputParams) :
    (afManualFocus param mode p).triggerNewSearch = p.triggerNewSearch := by
  simp only [afManualFocus]; split_ifs <;> rfl

theorem mAfMode_updateAf : (updateAfParameter env param st).mAfMode = param.afMode := by
  simp [updateAfParameter, mAfMode_afModeUpdate]

theorem mAfTrigger_updateAf : (updateAfParameter env param st).mAfTrigger = param.afTrigger :=
  rfl

/-- A rising START edge in AF mode auto or macro, and only that, requests a new search. -/
theorem triggerNewSearch_afTriggerUpdate :
    (afTriggerUpdate param st).mAfParams.triggerNewSearch = true ↔
      (st.mAfMode = .auto ∨ st.mAfMode = .macroMode) ∧ st.mAfTrigger ≠ .start ∧
        param.afTrigger = .start := by
  simp only [afTriggerUpdate, updateAfParameterForAfTriggerStart_eq,
    updateAfParameterForAfTriggerCancel_eq]
  by_cases hstart : st.mAfTrigger ≠ .start ∧ param.afTrigger = .start
  · rw [if_pos hstart]
    split_ifs with hmode <;> simp [hmode, hstart]
  · rw [if_neg hstart]
    split_ifs <;> simp [hstart]

theorem triggerNewSearch_updateAf :
    (updateAfParameter env param st).mAfParams.triggerNewSearch = true ↔
      (param.afMode = .auto ∨ param.afMode = .macroMode) ∧ param.afTrigger = .start ∧
        (st.mAfMode ≠ param.afMode ∨ st.mAfTrigger ≠ .start) := by
  simp only [updateAfParameter, triggerNewSearch_afManualFocus]
  rw [triggerNewSearch_afTriggerUpdate]
  simp only [mAfMode_afModeUpdate, mAfTrigger_afModeUpdate]
  by_cases h : st.mAfMode = param.afMode <;> simp [afLensUpdate, h, and_comm]

/-- A mode change makes the AF update forget the previous AF state. -/
theorem updateAfParameter_of_mode_change {st₁ st₂ : AfState}
    (h₁ : st₁.mAfMode ≠ param.afMode) (h₂ : st₂.mAfMode ≠ param.afMode) :
    updateAfParameter env param st₁ = updateAfParameter env param st₂ := by
  have hreset : afModeUpdate env param (afLensUpdate param st₁) =
      afModeUpdate env param (afLensUpdate param st₂) := by
    simp only [afModeUpdate, afLensUpdate, if_pos h₁, if_pos h₂]
  simp only [updateAfParameter, hreset]

/-- The manual section in AF mode off: a zero distance focuses at infinity with no
action, any other distance sets `1000 * (1.0f / distance)` millimetres. -/
theorem afManualFocus_of_off (p : CcaAfInputParams) :
    let q := afManualFocus param .off p
    let d := clampFocusDistance param
    (d = 0 → q.focusMode = .infinity ∧ q.manualFocusParameters.manualFocusAction = .none ∧
        q.manualFocusParameters.manualFocusDistance = 0) ∧
      (d ≠ 0 → q.focusMode = .manual ∧
        q.manualFocusParameters.manualFocusAction = .setDistance ∧
        q.manualFocusParameters.manualFocusDistance =
          floatToUnsigned (round32 (1000 * round32 (1 / d)))) := by
  by_cases hd : clampFocusDistance param = 0 <;> simp [afManualFocus, hd]

/-- In AF mode off the update's AF block is what the manual section makes of it. -/
theorem afManualFocus_updateAf_of_off (hoff : param.afMode = .off) :
    let q := (updateAfParameter env param st).mAfParams
    let d := clampFocusDistance param
    (d = 0 → q.focusMode = .infinity ∧ q.manualFocusParameters.manualFocusAction = .none ∧
        q.manualFocusParameters.manualFocusDistance = 0) ∧
      (d ≠ 0 → q.focusMode = .manual ∧
        q.manualFocusParameters.manualFocusAction = .setDistance ∧
        q.manualFocusParameters.manualFocusDistance =
          floatToUnsigned (round32 (1000 * round32 (1 / d)))) := by
  simp only [updateAfParameter, mAfMode_afTriggerUpdate, mAfMode_afModeUpdate, hoff]
  exact afManualFocus_of_off param _

end Lemmas

end Intel3A
