import Intel3A.Machine
/-!
# Manual exposure over whole runs

The AE block an `updateParameter` call leaves, stated for every prior object: the layout
of the three manual arrays (`manual_arrays_after_update`), the NaN a NaN gain writes into
them (`manualAnalogGain_of_nan_gain`), and for an exposure count of zero the wrap of the
exposure loop's bound (`manual_exposure_index_wraps`).  For the manual limits: an
exposure-time bound past `INT_MAX` converts to `INT_MIN` and reverses the stored bounds
(`exposureTime_limits_reversed`), and the frame-time bounds are the one AE output that a
request without a frame rate does not rebuild (`frameTime_limits_of_noFps`,
`frameTime_limits_depend_on_history`).
-/

namespace Intel3A

variable (env : Env)

/-! ## The manual arrays -/

/-- `setManualGain` returns early on `manualGain < 0`, which is false for a NaN gain: in
manual mode without shutter priority every slot below the exposure count gets NaN, where the
design applies a gain only when it is non-negative. -/
theorem manualAnalogGain_of_nan_gain (s : Intel3AParameter) (param : AiqParameter)
    (hmanual : param.aeMode = .manual) (hnan : param.manualGain = .nan)
    (hprio : param.aeDistributionPriority ≠ .shutter) :
    let ae := (s.updateParameter env param).ae.mAeParams
    ∀ i < ae.numExposures.toNat, ae.manualAnalogGain i = .nan := by
  simp only [Intel3AParameter.updateParameter_ae, updateAe_mAeParams,
    numExposures_setAeManualValues]
  intro i hi
  rw [manualAnalogGain_setAeManualValues,
    if_pos ⟨hmanual, by rw [hnan]; exact CFloat.not_nan_lt 0, hprio, hi⟩, manualGainDb]
  split <;> simp only [hnan, CFloat.map_nan]

theorem manualAnalogGain_of_nan_gain_one_slot :
    let param : AiqParameter := { aeMode := .manual, manualGain := .nan }
    let ae := ((Intel3AParameter.new 0).updateParameter sampleEnv param).ae.mAeParams
    (param.aeMode = .manual ∧ param.manualGain = .nan ∧
      param.aeDistributionPriority ≠ .shutter) ∧
      ae.numExposures.toNat = 1 ∧ ∀ i < ae.numExposures.toNat, ae.manualAnalogGain i = .nan :=
  ⟨⟨rfl, rfl, by decide⟩, by simp [numExposures_updateAe, sampleEnv, intToUnsigned],
    manualAnalogGain_of_nan_gain sampleEnv _ _ rfl rfl (by decide)⟩

/-! ## An exposure count of zero -/

/-- When the platform reports no exposures, `num_exposures - 1` wraps to `2^32 - 1`: the
exposure loop writes `-1` into every slot below it and the time into slot `2^32 - 1`, while
the gain and ISO loops, bounded by `num_exposures` itself, write nothing. -/
theorem manual_exposure_index_wraps (s : Intel3AParameter) (param : AiqParameter)
    (hzero : env.getExposureNum s.mCameraId (env.isMultiExposureCase param.tuningMode) = 0)
    (hmanual : param.aeMode = .manual) (hexp : 0 < param.manualExpTimeUs)
    (hprio : param.aeDistributionPriority ≠ .iso) :
    let ae := (s.updateParameter env param).ae.mAeParams
    ae.numExposures.toNat = 0 ∧ (ae.numExposures - 1).toNat = 4294967295 ∧
      (∀ i < 4294967295, ae.manualExposureTimeUs i = -1) ∧
      ae.manualExposureTimeUs 4294967295 = manualExposureTime env s.mCameraId param ∧
      ∀ i, ae.manualAnalogGain i = 0 ∧ ae.manualIso i = 0 := by
  simp only [Intel3AParameter.updateParameter_ae, updateAe_mAeParams,
    numExposures_setAeManualValues, manualExposureTimeUs_setAeManualValues,
    manualAnalogGain_setAeManualValues, manualIso_setAeManualValues]
  have hn : (updateAeModes env s.mCameraId param s.ae.mAeParams).numExposures = 0 := by
    simp only [updateAeModes, hzero]; rfl
  have hwrap : ((0 : UInt32) - 1).toNat = 4294967295 := rfl
  simp only [hn, hwrap, hmanual, hexp, ne_eq, hprio, not_false_eq_true, and_self, if_true,
    lt_irrefl, if_false, UInt32.toNat_zero, Nat.not_lt_zero, and_false, true_and, and_true,
    implies_true]
  exact fun i hi => if_pos hi

theorem manual_exposure_index_wraps_zero_count :
    let env : Env := { sampleEnv with getExposureNum := fun _ _ => 0 }
    let s := Intel3AParameter.new 0
    let param : AiqParameter := { aeMode := .manual, manualExpTimeUs := 100 }
    let ae := (s.updateParameter env param).ae.mAeParams
    (env.getExposureNum s.mCameraId (env.isMultiExposureCase param.tuningMode) = 0 ∧
      param.aeMode = .manual ∧ 0 < param.manualExpTimeUs ∧
      param.aeDistributionPriority ≠ .iso) ∧
      (ae.numExposures.toNat = 0 ∧ (ae.numExposures - 1).toNat = 4294967295 ∧
        (∀ i < 4294967295, ae.manualExposureTimeUs i = -1) ∧
        ae.manualExposureTimeUs 4294967295 = manualExposureTime env s.mCameraId param ∧
        ∀ i, ae.manualAnalogGain i = 0 ∧ ae.manualIso i = 0) :=
  ⟨⟨rfl, rfl, by decide, by decide⟩,
    manual_exposure_index_wraps _ _ _ rfl rfl (by decide) (by decide)⟩

/-! ## The manual limits -/

/-- Without a platform exposure-time range, a valid requested range is stored as it is, and
an upper bound of at least `2^31` converts to `INT_MIN`: from every reachable object the
update reaches one whose exposure-time maximum lies below its minimum. -/
theorem exposureTime_limits_reversed {s : Intel3AParameter} (hs : Reachable env s)
    (param : AiqParameter)
    (hnone : env.getSupportAeExposureTimeRange s.mCameraId param.sceneMode = none)
    (hmin : 0 < param.exposureTimeRange.min) (hfit : param.exposureTimeRange.min < 2 ^ 31)
    (hmax : 2 ^ 31 ≤ param.exposureTimeRange.max) :
    let limit := (s.updateParameter env param).ae.mAeParams.manualLimits
    Reachable env (s.updateParameter env param) ∧
      limit.manualExposureTimeMax = -2147483648 ∧
      limit.manualExposureTimeMax < limit.manualExposureTimeMin := by
  have hrange := clipRange_none (0 < param.exposureTimeRange.min)
    ⟨hmin, hfit.le.trans hmax⟩
  obtain ⟨hlo, hhi⟩ := @exposureTime_setAeManualLimits env s.mCameraId param
    s.ae.mAeParams.manualLimits
  simp only [hnone, hrange] at hlo hhi
  have hstoredMax : floatToInt param.exposureTimeRange.max = -2147483648 :=
    floatToInt_of_le (by linarith)
  have hstoredMin := floatToInt_nonneg hmin.le (by linarith)
  simp only [Intel3AParameter.updateParameter_ae, manualLimits_updateAe, hlo, hhi]
  exact ⟨hs.next (.updateParameter param), hstoredMax, by omega⟩

theorem exposureTime_limits_reversed_ten_seconds :
    let param : AiqParameter := { exposureTimeRange := { min := 1000000000, max := 10000000000 } }
    let limit := ((Intel3AParameter.new 0).updateParameter sampleEnv param).ae.mAeParams.manualLimits
    (Reachable sampleEnv (Intel3AParameter.new 0) ∧
      sampleEnv.getSupportAeExposureTimeRange 0 param.sceneMode = none ∧
      0 < param.exposureTimeRange.min ∧ param.exposureTimeRange.min < 2 ^ 31 ∧
      2 ^ 31 ≤ param.exposureTimeRange.max) ∧
      (Reachable sampleEnv ((Intel3AParameter.new 0).updateParameter sampleEnv param) ∧
        limit.manualExposureTimeMax = -2147483648 ∧
        limit.manualExposureTimeMax < limit.manualExposureTimeMin) :=
  have hmin : (0 : ℚ) < 1000000000 := by norm_num
  have hfit : (1000000000 : ℚ) < 2 ^ 31 := by norm_num
  have hmax : (2 : ℚ) ^ 31 ≤ 10000000000 := by norm_num
  ⟨⟨.new 0, rfl, hmin, hfit, hmax⟩,
    exposureTime_limits_reversed sampleEnv (.new 0) _ rfl hmin hfit hmax⟩

/-- A request with neither a valid FPS range nor an FPS above `0.01` keeps the frame-time
bounds of the object it is applied to. -/
theorem frameTime_limits_of_noFps (s : Intel3AParameter) (param : AiqParameter)
    (hrange : ¬(0.01 < param.aeFpsRange.min ∧ param.aeFpsRange.min ≤ param.aeFpsRange.max))
    (hfps : ¬0.01 < param.fps) :
    let limit := (s.updateParameter env param).ae.mAeParams.manualLimits
    limit.manualFrameTimeUsMin = s.ae.mAeParams.manualLimits.manualFrameTimeUsMin ∧
      limit.manualFrameTimeUsMax = s.ae.mAeParams.manualLimits.manualFrameTimeUsMax := by
  simp only [Intel3AParameter.updateParameter_ae, manualLimits_updateAe]
  exact frameTime_setAeManualLimits_of_noFps hrange hfps

/-- The same request without a frame rate leaves a maximum frame time of `0` on a fresh
object and of `33333` µs on one that saw 30 fps; neither is the sentinel `-1`. -/
theorem frameTime_limits_depend_on_history :
    let noFps : AiqParameter := {}
    let fps30 : AiqParameter := { fps := 30 }
    let s₁ := (Intel3AParameter.new 0).updateParameter env noFps
    let s₂ := ((Intel3AParameter.new 0).updateParameter env fps30).updateParameter env noFps
    s₁.ae.mAeParams.manualLimits.manualFrameTimeUsMax = 0 ∧
      s₂.ae.mAeParams.manualLimits.manualFrameTimeUsMax = 33333 := by
  have hno : ¬(0.01 < (0 : ℚ) ∧ (0 : ℚ) ≤ 0) := by norm_num
  have hnofps : ¬(0.01 : ℚ) < 0 := by norm_num
  refine ⟨(frameTime_limits_of_noFps env _ {} hno hnofps).2, ?_⟩
  rw [(frameTime_limits_of_noFps env _ {} hno hnofps).2]
  -- `1000000 / 30` is stored as the `float` `33333.33203125`, which truncates to `33333`.
  have hround : round32 (1000000 / 30) = 8533333 / 256 := by
    rw [round32_eq_of_binade 15 8533333] <;> norm_num
  simp only [Intel3AParameter.updateParameter_ae, manualLimits_updateAe, setAeManualLimits,
    isoLimits_keeps, frameTimeLimits, hno, hround, if_false,
    if_pos (show (0.01 : ℚ) < 30 by norm_num)]
  rw [floatToInt_of_fits (by norm_num) (by norm_num), truncate, if_pos (by norm_num)]
  norm_num [Int.floor_eq_iff]

end Intel3A
