import Intel3A.State
/-!
# The AE path

`updateAeParameter` rebuilds the AE block from one request: frame use and exposure count,
the manual limits of `setAeManualLimits`, flicker and distribution modes, the manual
arrays (cleared, then filled by `setManualGain`, `setManualIso` and `setManualExposure`
in manual mode), the convergence pacing and the metering coordinate.

The limits and the manual gain are computed in `float` and converted to `int`, as the
code does (`round32`, `floatToInt`).  The main facts here are the closed forms of the three
manual arrays (`manualExposureTimeUs_setAeManualValues`,
`manualAnalogGain_setAeManualValues`, `manualIso_setAeManualValues`), and that the
frame-time bounds are the only limits a request without a frame rate leaves as they were
(`frameTime_setAeManualLimits_of_noFps`).
-/

namespace Intel3A

variable (env : Env)

/-! ## Manual limits -/

/-- The expression `pow(10, (gain / 20))` of `convertdBGainToISO` and `setManualGain`,
stored as a `float`: the linear gain of a gain in dB. -/
def dbGainToLinear (gain : ℚ) : ℚ := round32 (env.pow 10 (round32 (gain / 20)))

/-- `convertdBGainToISO`: the linear gain times the base ISO, in `float`. -/
def convertdBGainToISO (sensitivityGain : ℚ) (baseIso : ℤ) : ℚ :=
  round32 (dbGainToLinear env sensitivityGain * round32 baseIso)

/-- The range `setAeManualLimits` derives for exposure time and for gain alike: a valid
request is clipped into the platform range when there is one (its upper bound against
the lower bound already clipped), a platform range stands alone, and without either the
range stays `{-1, -1}`.  `valid` is the request's own test on its lower bound. -/
def clipRange (valid : Prop) [Decidable valid] (requested : CameraRange)
    (platform : Option CameraRange) : CameraRange :=
  let range := platform.getD { min := -1, max := -1 }
  if valid ∧ requested.min ≤ requested.max then
    if platform.isSome then
      let min := clip requested.min range.max range.min
      { min := min, max := clip requested.max range.max min }
    else requested
  else range

/-- The frame-time bounds of `setAeManualLimits`, from the FPS range or else the FPS. -/
def frameTimeLimits (param : AiqParameter) (limit : IaAiqAeManualLimits) :
    IaAiqAeManualLimits :=
  if 0.01 < param.aeFpsRange.min ∧ param.aeFpsRange.min ≤ param.aeFpsRange.max then
    { limit with
      manualFrameTimeUsMax := floatToInt (round32 (1000000 / param.aeFpsRange.min))
      manualFrameTimeUsMin := floatToInt (round32 (1000000 / param.aeFpsRange.max)) }
  else if 0.01 < param.fps then
    { limit with
      manualFrameTimeUsMax := floatToInt (round32 (1000000 / param.fps))
      manualFrameTimeUsMin := floatToInt (round32 (1000000 / param.fps)) }
  else limit

/-- The ISO bounds of `setAeManualLimits`, set only from a non-negative ordered gain range
whose converted bounds pass the test against `INT_MAX`.  The test is made in `float`, where
`INT_MAX` becomes `2^31`. -/
def isoLimits (cameraId : ℤ) (param : AiqParameter) (gainRange : CameraRange)
    (limit : IaAiqAeManualLimits) : IaAiqAeManualLimits :=
  if 0 ≤ gainRange.min ∧ gainRange.min ≤ gainRange.max then
    match env.getCMC cameraId param.tuningMode with
    | some cmc =>
      if convertdBGainToISO env gainRange.min cmc.baseIso ≤ round32 2147483647 ∧
          convertdBGainToISO env gainRange.max cmc.baseIso ≤ round32 2147483647 then
        { limit with
          manualIsoMin := floatToInt (convertdBGainToISO env gainRange.min cmc.baseIso)
          manualIsoMax := floatToInt (convertdBGainToISO env gainRange.max cmc.baseIso) }
      else limit
    | none => limit
  else limit

/-- `setAeManualLimits`, on the first manual-limits entry. -/
def setAeManualLimits (cameraId : ℤ) (param : AiqParameter) (limit : IaAiqAeManualLimits) :
    IaAiqAeManualLimits :=
  let limit :=
    { limit with
      manualExposureTimeMax := -1, manualExposureTimeMin := -1
      manualIsoMin := -1, manualIsoMax := -1 }
  let limit := frameTimeLimits param limit
  let range := clipRange (0 < param.exposureTimeRange.min) param.exposureTimeRange
    (env.getSupportAeExposureTimeRange cameraId param.sceneMode)
  let limit :=
    { limit with
      manualExposureTimeMin := floatToInt range.min
      manualExposureTimeMax := floatToInt range.max }
  let gainRange := clipRange (0 ≤ param.sensitivityGainRange.min) param.sensitivityGainRange
    (env.getSupportAeGainRange cameraId param.sceneMode)
  isoLimits env cameraId param gainRange limit

/-! ## Manual exposure, gain and ISO -/

/-- The exposure time `setManualExposure` writes: the request's, clipped into the platform
exposure-time range when there is one.  `CLIP` mixes the `int64_t` time with the `float`
bounds, so it compares and returns in `float`, and the result is converted back. -/
def manualExposureTime (cameraId : ℤ) (param : AiqParameter) : ℤ :=
  match env.getSupportAeExposureTimeRange cameraId param.sceneMode with
  | some range => floatToInt64 (clip (round32 param.manualExpTimeUs) range.max range.min)
  | none => param.manualExpTimeUs

/-- `setManualExposure`: slots before the last get `-1`, the last the exposure time. -/
def setManualExposure (cameraId : ℤ) (param : AiqParameter) (p : CcaAeInputParams) :
    CcaAeInputParams :=
  if param.manualExpTimeUs ≤ 0 ∨ param.aeDistributionPriority = .iso then p
  else
    let last := (p.numExposures - 1).toNat
    { p with
      manualExposureTimeUs := Function.update (fillSlots p.manualExposureTimeUs (-1) last)
        last (manualExposureTime env cameraId param) }

/-- The gain in dB `setManualGain` converts: the request's, clipped into the platform gain
range when there is one.  Every comparison with NaN is false, so the clip keeps a NaN. -/
def manualGainDb (cameraId : ℤ) (param : AiqParameter) : CFloat :=
  match env.getSupportAeGainRange cameraId param.sceneMode with
  | some gainRange => param.manualGain.map fun gain => clip gain gainRange.max gainRange.min
  | none => param.manualGain

/-- `setManualGain`: every slot gets the linear analog gain `10^(gain/20)`. -/
def setManualGain (cameraId : ℤ) (param : AiqParameter) (p : CcaAeInputParams) :
    CcaAeInputParams :=
  if param.manualGain < 0 ∨ param.aeDistributionPriority = .shutter then p
  else
    { p with
      manualAnalogGain := fillSlots p.manualAnalogGain
        ((manualGainDb env cameraId param).map (dbGainToLinear env)) p.numExposures.toNat }

/-- `setManualIso`: every slot gets the requested ISO. -/
def setManualIso (param : AiqParameter) (p : CcaAeInputParams) : CcaAeInputParams :=
  if param.manualIso ≤ 0 ∨ param.aeDistributionPriority = .shutter then p
  else { p with manualIso := fillSlots p.manualIso param.manualIso p.numExposures.toNat }

/-! ## The AE update -/

/-- The tick count of the HAL-paced branch: how many frames pass between engine runs. -/
def perTicks : CameraConvergeSpeed → ℤ
  | .mid => 30
  | .low => 60
  | .normal => 1

/-- The metering coordinate: the centre of the last AE region, mapped to engine
coordinates, when back-light compensation is on and the region is not empty. -/
def aeExposureCoordinate (param : AiqParameter) : IaCoordinate :=
  if param.blcAreaMode = .on then
    match param.aeRegions.getLast? with
    | some window =>
      if window.left < window.right ∧ window.top < window.bottom then
        let coordinate : CameraCoordinate :=
          { x := window.left + (window.right - window.left) / 2
            y := window.top + (window.bottom - window.top) / 2 }
        let frameCoord : CameraCoordinateSystem :=
          ⟨0, 0, param.resolution.width, param.resolution.height⟩
        let coordinate := env.convertToIaCoordinate frameCoord coordinate
        { x := coordinate.x, y := coordinate.y }
      else {}
    | none => {}
  else {}

/-- The manual part of `updateAeParameter`: the three manual arrays are cleared, then
filled by the setters in manual mode; otherwise the EV shift is taken. -/
def setAeManualValues (cameraId : ℤ) (param : AiqParameter) (p : CcaAeInputParams) :
    CcaAeInputParams :=
  let p :=
    { p with
      manualExposureTimeUs := fun _ => 0, manualAnalogGain := fun _ => 0
      manualIso := fun _ => 0 }
  if param.aeMode = .manual then
    setManualExposure env cameraId param (setManualIso param (setManualGain env cameraId param p))
  else { p with evShift := param.evShift }

/-- The first part of `updateAeParameter`: frame use, exposure count, manual limits,
flicker reduction and exposure distribution. -/
def updateAeModes (cameraId : ℤ) (param : AiqParameter) (p : CcaAeInputParams) :
    CcaAeInputParams :=
  let p :=
    { p with
      frameUse := env.convertFrameUsageToIaFrameUsage param.frameUsage
      numExposures := intToUnsigned
        (env.getExposureNum cameraId (env.isMultiExposureCase param.tuningMode)) }
  let p := { p with manualLimits := setAeManualLimits env cameraId param p.manualLimits }
  let p :=
    { p with
      flickerReductionMode := match param.antibandingMode with
        | .auto => .auto
        | .hz50 => .hz50
        | .hz60 => .hz60
        | .off => .off }
  { p with
    exposureDistributionPriority := match param.aeDistributionPriority with
      | .auto => .auto
      | .shutter => .shutter
      | .iso => .iso
      | .aperture => .aperture }

/-- `updateAeParameter`. -/
def updateAeParameter (cameraId : ℤ) (param : AiqParameter) (st : AeState) : AeState :=
  let p := setAeManualValues env cameraId param (updateAeModes env cameraId param st.mAeParams)
  let st : AeState :=
    if param.aeConvergeSpeedMode = .aiq then
      { mAeParams :=
          { p with manualConvergenceTime := env.convertSpeedModeToTime param.aeConvergeSpeed }
        mAePerTicks := 1 }
    else
      { mAeParams := { p with manualConvergenceTime := -1 }
        mAePerTicks := perTicks param.aeConvergeSpeed }
  { st with mAeParams := { st.mAeParams with exposureCoordinate := aeExposureCoordinate env param } }

/-! ## What the setters write -/

section Setters

variable {env} (cameraId : ℤ) (param : AiqParameter) (p : CcaAeInputParams)

theorem setManualGain_eq :
    setManualGain env cameraId param p =
      { p with
        manualAnalogGain :=
          if param.manualGain < 0 ∨ param.aeDistributionPriority = .shutter then
            p.manualAnalogGain
          else
            fillSlots p.manualAnalogGain
              ((manualGainDb env cameraId param).map (dbGainToLinear env))
              p.numExposures.toNat } := by
  unfold setManualGain; split_ifs <;> rfl

theorem setManualIso_eq :
    setManualIso param p =
      { p with
        manualIso :=
          if param.manualIso ≤ 0 ∨ param.aeDistributionPriority = .shutter then p.manualIso
          else fillSlots p.manualIso param.manualIso p.numExposures.toNat } := by
  unfold setManualIso; split_ifs <;> rfl

theorem setManualExposure_eq :
    setManualExposure env cameraId param p =
      { p with
        manualExposureTimeUs :=
          if param.manualExpTimeUs ≤ 0 ∨ param.aeDistributionPriority = .iso then
            p.manualExposureTimeUs
          else
            Function.update
              (fillSlots p.manualExposureTimeUs (-1) (p.numExposures - 1).toNat)
              (p.numExposures - 1).toNat (manualExposureTime env cameraId param) } := by
  unfold setManualExposure; split_ifs <;> rfl

end Setters

/-! ## The manual arrays -/

section Arrays

variable {env} (cameraId : ℤ) (param : AiqParameter) (p : CcaAeInputParams) (st : AeState)

theorem updateAe_mAeParams :
    (updateAeParameter env cameraId param st).mAeParams =
      { setAeManualValues env cameraId param (updateAeModes env cameraId param st.mAeParams) with
        manualConvergenceTime :=
          if param.aeConvergeSpeedMode = .aiq then env.convertSpeedModeToTime param.aeConvergeSpeed
          else -1
        exposureCoordinate := aeExposureCoordinate env param } := by
  unfold updateAeParameter; split_ifs <;> rfl

@[simp] theorem numExposures_setAeManualValues :
    (setAeManualValues env cameraId param p).numExposures = p.numExposures := by
  unfold setAeManualValues
  split_ifs <;> simp only [setManualGain_eq, setManualIso_eq, setManualExposure_eq]

@[simp] theorem manualLimits_setAeManualValues :
    (setAeManualValues env cameraId param p).manualLimits = p.manualLimits := by
  unfold setAeManualValues
  split_ifs <;> simp only [setManualGain_eq, setManualIso_eq, setManualExposure_eq]

theorem manualLimits_updateAe :
    (updateAeParameter env cameraId param st).mAeParams.manualLimits =
      setAeManualLimits env cameraId param st.mAeParams.manualLimits := by
  simp [updateAe_mAeParams, updateAeModes]

theorem numExposures_updateAe :
    (updateAeParameter env cameraId param st).mAeParams.numExposures =
      intToUnsigned (env.getExposureNum cameraId (env.isMultiExposureCase param.tuningMode)) := by
  simp [updateAe_mAeParams, updateAeModes]

theorem manualAnalogGain_setAeManualValues (i : ℕ) :
    (setAeManualValues env cameraId param p).manualAnalogGain i =
      if param.aeMode = .manual ∧ ¬param.manualGain < 0 ∧
          param.aeDistributionPriority ≠ .shutter ∧ i < p.numExposures.toNat
      then (manualGainDb env cameraId param).map (dbGainToLinear env) else 0 := by
  unfold setAeManualValues
  by_cases hm : param.aeMode = .manual
  · simp only [hm, if_true, true_and, setManualExposure_eq, setManualIso_eq, setManualGain_eq,
      apply_ite (fun f : ℕ → CFloat => f i), fillSlots_apply, ite_or, ite_and, ne_eq, ite_not]
  · simp [hm]

theorem manualIso_setAeManualValues (i : ℕ) :
    (setAeManualValues env cameraId param p).manualIso i =
      if param.aeMode = .manual ∧ 0 < param.manualIso ∧
          param.aeDistributionPriority ≠ .shutter ∧ i < p.numExposures.toNat
      then param.manualIso else 0 := by
  unfold setAeManualValues
  by_cases hm : param.aeMode = .manual
  · simp only [hm, if_true, true_and, setManualExposure_eq, setManualIso_eq, setManualGain_eq,
      apply_ite (fun f : ℕ → ℤ => f i), fillSlots_apply, ite_or, ite_and, ← not_le, ne_eq, ite_not]
  · simp [hm]

theorem manualExposureTimeUs_setAeManualValues (i : ℕ) :
    (setAeManualValues env cameraId param p).manualExposureTimeUs i =
      if param.aeMode = .manual ∧ 0 < param.manualExpTimeUs ∧
          param.aeDistributionPriority ≠ .iso then
        if i < (p.numExposures - 1).toNat then -1
        else if i = (p.numExposures - 1).toNat then manualExposureTime env cameraId param
        else 0
      else 0 := by
  unfold setAeManualValues
  by_cases hm : param.aeMode = .manual
  · simp only [hm, if_true, true_and, setManualExposure_eq, setManualIso_eq, setManualGain_eq,
      apply_ite (fun f : ℕ → ℤ => f i), fillSlots_apply, Function.update_apply, ite_or, ite_and,
      ← not_le, ne_eq, ite_not]
    by_cases hi : i = (p.numExposures - 1).toNat
    · simp only [hi, le_refl, if_true]
    · simp only [hi, if_false]
  · simp [hm]

end Arrays

/-! ## The manual limits -/

section Limits

variable {env} {cameraId : ℤ} {param : AiqParameter} {limit : IaAiqAeManualLimits}

/-- `isoLimits` writes only the ISO bounds. -/
theorem isoLimits_keeps (gainRange : CameraRange) :
    (isoLimits env cameraId param gainRange limit).manualFrameTimeUsMin =
        limit.manualFrameTimeUsMin ∧
      (isoLimits env cameraId param gainRange limit).manualFrameTimeUsMax =
        limit.manualFrameTimeUsMax ∧
      (isoLimits env cameraId param gainRange limit).manualExposureTimeMin =
        limit.manualExposureTimeMin ∧
      (isoLimits env cameraId param gainRange limit).manualExposureTimeMax =
        limit.manualExposureTimeMax := by
  unfold isoLimits
  split_ifs
  · split
    · split_ifs <;> exact ⟨rfl, rfl, rfl, rfl⟩
    · exact ⟨rfl, rfl, rfl, rfl⟩
  · exact ⟨rfl, rfl, rfl, rfl⟩

/-- Without a platform range a valid requested range is taken as it is. -/
theorem clipRange_none (valid : Prop) [Decidable valid] {requested : CameraRange}
    (h : valid ∧ requested.min ≤ requested.max) : clipRange valid requested none = requested := by
  simp only [clipRange, if_pos h, Option.isSome_none, Bool.false_eq_true, if_false]

/-- The exposure-time bounds are the clipped range, converted to `int`. -/
theorem exposureTime_setAeManualLimits :
    let range := clipRange (0 < param.exposureTimeRange.min) param.exposureTimeRange
      (env.getSupportAeExposureTimeRange cameraId param.sceneMode)
    (setAeManualLimits env cameraId param limit).manualExposureTimeMin = floatToInt range.min ∧
      (setAeManualLimits env cameraId param limit).manualExposureTimeMax =
        floatToInt range.max := by
  simp only [setAeManualLimits, isoLimits_keeps, and_self]

/-- A request with neither a valid FPS range nor an FPS above `0.01` leaves the frame-time
bounds as the previous frame left them. -/
theorem frameTime_setAeManualLimits_of_noFps
    (hrange : ¬(0.01 < param.aeFpsRange.min ∧ param.aeFpsRange.min ≤ param.aeFpsRange.max))
    (hfps : ¬0.01 < param.fps) :
    (setAeManualLimits env cameraId param limit).manualFrameTimeUsMin =
        limit.manualFrameTimeUsMin ∧
      (setAeManualLimits env cameraId param limit).manualFrameTimeUsMax =
        limit.manualFrameTimeUsMax := by
  simp only [setAeManualLimits, isoLimits_keeps, frameTimeLimits, if_neg hrange, if_neg hfps,
    and_self]

end Limits

end Intel3A
