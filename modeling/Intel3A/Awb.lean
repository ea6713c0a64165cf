import Intel3A.Ae
/-!
# The AWB path and the result overrides

`updateAwbParameter` clears both manual-override flags, selects one AWB mode from the
request (a named illuminant, a manual CCT range, a manual white point, manual gains or a
manual colour transform), captures the gain shift and sets the convergence pacing.
`updatePaResult` and `updateAwbResult` apply the stored overrides to the engine's
results after each run.

The flags after an update are exactly the ones the request's mode selects
(`mUseManualAwbGain_updateAwb`, `mUseManualColorMatrix_updateAwb`); the tick count reads
the AE converge speed, not the AWB one (`mAwbPerTicks_updateAwb`).  Without a manual
override, `updateAwbResult` scales the engine's ratios by the clipped ratios of the
normalized gain shift (`updateAwbResult_of_gainShift`).
-/

namespace Intel3A

variable (env : Env)

/-- The first part of `updateAwbParameter`: the flags are cleared, the mode's branch is
taken and the gain shift is captured. -/
def updateAwbMode (param : AiqParameter) (st : AwbState) : AwbState :=
  let st := { st with mUseManualAwbGain := false, mUseManualColorMatrix := false }
  let st : AwbState := match param.awbMode with
    | .incandescent => { st with mAwbParams := { st.mAwbParams with sceneMode := .incandescent } }
    | .fluorescent => { st with mAwbParams := { st.mAwbParams with sceneMode := .fluorescent } }
    | .daylight => { st with mAwbParams := { st.mAwbParams with sceneMode := .daylight } }
    | .fullOvercast =>
      { st with mAwbParams := { st.mAwbParams with sceneMode := .fullyOvercast } }
    | .partlyOvercast =>
      { st with mAwbParams := { st.mAwbParams with sceneMode := .partlyOvercast } }
    | .sunset => { st with mAwbParams := { st.mAwbParams with sceneMode := .sunset } }
    | .videoConference =>
      { st with mAwbParams := { st.mAwbParams with sceneMode := .videoConference } }
    | .manualCctRange =>
      { st with
        mAwbParams :=
          { st.mAwbParams with
            sceneMode := .manualCctRange
            manualCctRange :=
              { minCct := floatToUnsigned (min param.cctRange.min param.cctRange.max)
                maxCct := floatToUnsigned (max param.cctRange.min param.cctRange.max) } } }
    | .manualWhitePoint =>
      let frameCoord : CameraCoordinateSystem :=
        ⟨0, 0, param.resolution.width, param.resolution.height⟩
      let iaCoord := env.convertToIaCoordinate frameCoord param.whitePoint
      { st with
        mAwbParams :=
          { st.mAwbParams with
            sceneMode := .manualWhite
            manualWhiteCoordinate := { x := iaCoord.x, y := iaCoord.y } } }
    | .manualGain =>
      { st with
        mAwbParams := { st.mAwbParams with sceneMode := .auto }
        mManualGains := param.awbManualGain
        mUseManualAwbGain := true }
    | .manualColorTransform =>
      { st with
        mAwbParams := { st.mAwbParams with sceneMode := .auto }
        mUseManualColorMatrix := true
        mColorMatrix := param.manualColorMatrix
        mColorGains := param.manualColorGains }
    | .auto => { st with mAwbParams := { st.mAwbParams with sceneMode := .auto } }
  { st with mAwbGainShift := param.awbGainShift }

/-- `updateAwbParameter`.  The HAL-paced branch reads `aeConvergeSpeed`. -/
def updateAwbParameter (param : AiqParameter) (st : AwbState) : AwbState :=
  let st := updateAwbMode env param st
  if param.awbConvergeSpeedMode = .aiq then
    { st with
      mAwbPerTicks := 1
      mAwbParams :=
        { st.mAwbParams with
          manualConvergenceTime := env.convertSpeedModeToTime param.awbConvergeSpeed } }
  else
    { st with
      mAwbParams := { st.mAwbParams with manualConvergenceTime := -1 }
      mAwbPerTicks := perTicks param.aeConvergeSpeed }

/-- `VALID_COLOR_GAINS`: all four channel gains are positive. -/
def validColorGains (colorGains : Fin 4 → ℚ) : Bool :=
  0 < colorGains 0 && 0 < colorGains 1 && 0 < colorGains 2 && 0 < colorGains 3

/-- `updatePaResult`; `none` is a null result, returned untouched. -/
def updatePaResult (st : AwbState) : Option CcaPaParams → Option CcaPaParams
  | none => none
  | some paResult =>
    let paResult := { paResult with enableManualSettings := false }
    if !st.mUseManualColorMatrix then some paResult
    else
      let gains := st.mColorGains.colorGainsRggb
      let paResult :=
        if validColorGains gains then
          { paResult with colorGains := { r := gains 0, gr := gains 1, gb := gains 2, b := gains 3 } }
        else paResult
      some
        { paResult with
          colorConversionMatrix := st.mColorMatrix.colorTransform
          enableManualSettings := true }

/-- `updateAwbResult`; `none` is a null result, returned untouched. -/
def updateAwbResult (st : AwbState) : Option CcaAwbResults → Option CcaAwbResults
  | none => none
  | some awbResult =>
    if st.mUseManualColorMatrix && validColorGains st.mColorGains.colorGainsRggb then
      let colorGains := st.mColorGains.colorGainsRggb
      let maxChroma := max 1 (colorGains 1)
      some
        { awbResult with
          accurateRPerG := maxChroma / colorGains 0
          accurateBPerG := maxChroma / colorGains 3 }
    else
      let gains := if st.mUseManualAwbGain then st.mManualGains else st.mAwbGainShift
      let normalizedR := env.normalizeAwbGain gains.rGain
      let normalizedG := env.normalizeAwbGain gains.gGain
      let normalizedB := env.normalizeAwbGain gains.bGain
      let maxPerG := env.awbGainNormalizedStart / env.awbGainNormalizedEnd
      let minPerG := 1 / maxPerG
      if st.mUseManualAwbGain then
        some
          { awbResult with
            accurateBPerG := clip (normalizedB / normalizedG) maxPerG minPerG
            accurateRPerG := clip (normalizedR / normalizedG) maxPerG minPerG }
      else
        some
          { awbResult with
            accurateBPerG :=
              awbResult.accurateBPerG * clip (normalizedB / normalizedG) maxPerG minPerG
            accurateRPerG :=
              awbResult.accurateRPerG * clip (normalizedR / normalizedG) maxPerG minPerG }

/-! ## What an update leaves -/

section Update

variable {env} (param : AiqParameter) (st : AwbState)

/-- The mode's branch sets at most the one flag it names. -/
theorem manualFlags_updateAwbMode :
    (updateAwbMode env param st).mUseManualAwbGain = decide (param.awbMode = .manualGain) ∧
      (updateAwbMode env param st).mUseManualColorMatrix =
        decide (param.awbMode = .manualColorTransform) := by
  unfold updateAwbMode
  cases param.awbMode <;> exact ⟨rfl, rfl⟩

theorem mUseManualAwbGain_updateAwb :
    (updateAwbParameter env param st).mUseManualAwbGain = decide (param.awbMode = .manualGain) := by
  unfold updateAwbParameter; split_ifs <;> exact (manualFlags_updateAwbMode param st).1

theorem mUseManualColorMatrix_updateAwb :
    (updateAwbParameter env param st).mUseManualColorMatrix =
      decide (param.awbMode = .manualColorTransform) := by
  unfold updateAwbParameter; split_ifs <;> exact (manualFlags_updateAwbMode param st).2

theorem mAwbPerTicks_updateAwb :
    (updateAwbParameter env param st).mAwbPerTicks =
      if param.awbConvergeSpeedMode = .aiq then 1 else perTicks param.aeConvergeSpeed := by
  unfold updateAwbParameter; split_ifs <;> rfl

theorem mAwbGainShift_updateAwb :
    (updateAwbParameter env param st).mAwbGainShift = param.awbGainShift := by
  unfold updateAwbParameter; split_ifs <;> rfl

theorem colorOverride_updateAwb (h : param.awbMode = .manualColorTransform) :
    (updateAwbParameter env param st).mColorMatrix = param.manualColorMatrix ∧
      (updateAwbParameter env param st).mColorGains = param.manualColorGains := by
  unfold updateAwbParameter updateAwbMode
  simp only [h]
  split_ifs <;> exact ⟨rfl, rfl⟩

end Update

/-! ## The result overrides -/

section Results

variable {env} (st : AwbState)

/-- `updateAwbResult` with neither manual gains nor valid manual colour gains: the engine's
ratios are scaled by the clipped ratios of the normalized gain shift. -/
theorem updateAwbResult_of_gainShift (awbResult : CcaAwbResults)
    (hgain : st.mUseManualAwbGain = false)
    (hmatrix : st.mUseManualColorMatrix = true →
      validColorGains st.mColorGains.colorGainsRggb = false) :
    let shift := st.mAwbGainShift
    let maxPerG := env.awbGainNormalizedStart / env.awbGainNormalizedEnd
    updateAwbResult env st (some awbResult) =
      some
        { awbResult with
          accurateBPerG := awbResult.accurateBPerG *
            clip (env.normalizeAwbGain shift.bGain / env.normalizeAwbGain shift.gGain)
              maxPerG (1 / maxPerG)
          accurateRPerG := awbResult.accurateRPerG *
            clip (env.normalizeAwbGain shift.rGain / env.normalizeAwbGain shift.gGain)
              maxPerG (1 / maxPerG) } := by
  have hoverride :
      (st.mUseManualColorMatrix && validColorGains st.mColorGains.colorGainsRggb) = false := by
    cases h : st.mUseManualColorMatrix
    · rfl
    · simp [hmatrix h]
  simp only [updateAwbResult, hoverride, hgain, Bool.false_eq_true, if_false]

end Results

end Intel3A
