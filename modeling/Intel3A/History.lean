import Intel3A.Machine
/-!
# Replay, reordering and what an object remembers

A HAL that sends the same `aiq_parameter_t` frame after frame calls `updateParameter` with
one request again and again.  The AE and AWB updates are idempotent: every member they
write is a function of the request, or is kept and then never written again
(`updateAeParameter_idempotent`, `updateAwbParameter_idempotent`).  The AF update is not:
the first call of a new mode writes the lens position before the mode reset discards it,
and a START edge asks for a new search once.  The second call therefore writes the lens
position and clears the request, and from then on nothing changes
(`updateParameter_replay`).

What an object remembers of earlier calls: the AWB result override after an update reads
only members that update wrote from its request (`updateAwbResult_after_update`); the
frame-time bounds are those of the last request with a frame rate (`frameTime_run`); no
call but `setSensorInfo` reads or writes the sensor descriptor, so it commutes with every
run without another `setSensorInfo` (`run_setSensorInfo`).
-/

namespace Intel3A

variable {env : Env} {cameraId : ℤ} {param : AiqParameter}

/-! ## AE and AWB -/

theorem setAeManualLimits_idempotent (limit : IaAiqAeManualLimits) :
    setAeManualLimits env cameraId param (setAeManualLimits env cameraId param limit) =
      setAeManualLimits env cameraId param limit := by
  unfold setAeManualLimits
  simp only [isoLimits_keeps]
  unfold frameTimeLimits
  split_ifs <;> rfl

/-- `updateAeParameter` as the request's writes over the AE block. -/
theorem updateAeParameter_eq (st : AeState) :
    updateAeParameter env cameraId param st =
      { mAeParams :=
          { setAeManualValues env cameraId param
              (updateAeModes env cameraId param st.mAeParams) with
            manualConvergenceTime :=
              if param.aeConvergeSpeedMode = .aiq then
                env.convertSpeedModeToTime param.aeConvergeSpeed
              else -1
            exposureCoordinate := aeExposureCoordinate env param }
        mAePerTicks :=
          if param.aeConvergeSpeedMode = .aiq then 1 else perTicks param.aeConvergeSpeed } := by
  unfold updateAeParameter; split_ifs <;> rfl

theorem setAeManualValues_updateAeModes_idempotent (q : CcaAeInputParams) (time : ℚ)
    (coordinate : IaCoordinate) :
    setAeManualValues env cameraId param (updateAeModes env cameraId param
      { setAeManualValues env cameraId param (updateAeModes env cameraId param q) with
        manualConvergenceTime := time, exposureCoordinate := coordinate }) =
      { setAeManualValues env cameraId param (updateAeModes env cameraId param q) with
        manualConvergenceTime := time, exposureCoordinate := coordinate } := by
  unfold setAeManualValues updateAeModes
  split_ifs <;> simp only [setManualGain_eq, setManualIso_eq, setManualExposure_eq,
    setAeManualLimits_idempotent]

theorem updateAeParameter_idempotent (st : AeState) :
    updateAeParameter env cameraId param (updateAeParameter env cameraId param st) =
      updateAeParameter env cameraId param st := by
  rw [updateAeParameter_eq, updateAeParameter_eq st, setAeManualValues_updateAeModes_idempotent]

theorem updateAwbParameter_idempotent (st : AwbState) :
    updateAwbParameter env param (updateAwbParameter env param st) =
      updateAwbParameter env param st := by
  unfold updateAwbParameter
  split_ifs <;> unfold updateAwbMode <;> cases param.awbMode <;> rfl

/-! ## AF -/

section AfReplay

variable {st : AfState}

theorem afModeUpdate_of_eq (h : st.mAfMode = param.afMode) : afModeUpdate env param st = st := by
  simp [afModeUpdate, h]

theorem afTriggerUpdate_of_eq (h : st.mAfTrigger = param.afTrigger) :
    afTriggerUpdate param st =
      { st with mAfParams := { st.mAfParams with triggerNewSearch := false } } := by
  simp [afTriggerUpdate, h]

/-- An update in the stored mode with the stored trigger runs no handler and no reset: it
writes the lens, frame use and region, clears the request, and runs the manual section. -/
theorem updateAfParameter_of_settled (hmode : st.mAfMode = param.afMode)
    (htrigger : st.mAfTrigger = param.afTrigger) :
    updateAfParameter env param st =
      { st with
        mAfParams := afManualFocus param param.afMode
          { st.mAfParams with
            lensPosition := param.lensPosition
            lensMovementStartTimestamp := param.lensMovementStartTimestamp
            frameUse := env.convertFrameUsageToIaFrameUsage param.frameUsage
            triggerNewSearch := false
            focusRect := afFocusRect env param } } := by
  simp only [updateAfParameter, afLensUpdate, afModeUpdate_of_eq, afTriggerUpdate_of_eq, hmode,
    htrigger]

theorem frameUse_afTriggerUpdate :
    (afTriggerUpdate param st).mAfParams.frameUse = st.mAfParams.frameUse := by
  simp only [afTriggerUpdate, updateAfParameterForAfTriggerStart_eq,
    updateAfParameterForAfTriggerCancel_eq]
  split_ifs <;> rfl

@[simp] theorem frameUse_afManualFocus (mode : CameraAfMode) (p : CcaAfInputParams) :
    (afManualFocus param mode p).frameUse = p.frameUse := by
  simp only [afManualFocus]; split_ifs <;> rfl

@[simp] theorem focusRect_afManualFocus (mode : CameraAfMode) (p : CcaAfInputParams) :
    (afManualFocus param mode p).focusRect = p.focusRect := by
  simp only [afManualFocus]; split_ifs <;> rfl

theorem frameUse_updateAf :
    (updateAfParameter env param st).mAfParams.frameUse =
      env.convertFrameUsageToIaFrameUsage param.frameUsage := by
  simp only [updateAfParameter, frameUse_afManualFocus, frameUse_afTriggerUpdate]

theorem focusRect_updateAf :
    (updateAfParameter env param st).mAfParams.focusRect = afFocusRect env param := by
  simp only [updateAfParameter, focusRect_afManualFocus]

/-- The manual section writes the same manual fields again over its own result. -/
theorem afManualFocus_replay (mode : CameraAfMode) (q : CcaAfInputParams) (lensPosition : ℤ)
    (timestamp : ℕ) :
    afManualFocus param mode
        { afManualFocus param mode q with
          lensPosition := lensPosition, lensMovementStartTimestamp := timestamp
          triggerNewSearch := false } =
      { afManualFocus param mode q with
        lensPosition := lensPosition, lensMovementStartTimestamp := timestamp
        triggerNewSearch := false } := by
  simp only [afManualFocus]; split_ifs <;> rfl

theorem updateAfParameter_replay (st : AfState) :
    updateAfParameter env param (updateAfParameter env param st) =
      { updateAfParameter env param st with
        mAfParams :=
          { (updateAfParameter env param st).mAfParams with
            lensPosition := param.lensPosition
            lensMovementStartTimestamp := param.lensMovementStartTimestamp
            triggerNewSearch := false } } := by
  rw [updateAfParameter_of_settled (mAfMode_updateAf param st) (mAfTrigger_updateAf param st),
    ← frameUse_updateAf, ← focusRect_updateAf]
  obtain ⟨q, hq⟩ : ∃ q, (updateAfParameter env param st).mAfParams =
      afManualFocus param param.afMode q := by
    simp only [updateAfParameter, mAfMode_afTriggerUpdate, mAfMode_afModeUpdate]
    exact ⟨_, rfl⟩
  rw [hq, afManualFocus_replay]

end AfReplay

/-! ## The object -/

theorem updateParameter_updateParameter (s : Intel3AParameter) :
    (s.updateParameter env param).updateParameter env param =
      { s.updateParameter env param with
        af :=
          { (s.updateParameter env param).af with
            mAfParams :=
              { (s.updateParameter env param).af.mAfParams with
                lensPosition := param.lensPosition
                lensMovementStartTimestamp := param.lensMovementStartTimestamp
                triggerNewSearch := false } } } := by
  simp only [Intel3AParameter.updateParameter, updateAeParameter_idempotent,
    updateAwbParameter_idempotent, updateAfParameter_replay]

variable (env) in
/-- Sending one request twice differs from sending it once only in the AF block: the lens
position and its timestamp are the request's, and no new search is asked for.  A third
send changes nothing. -/
theorem updateParameter_replay (s : Intel3AParameter) (param : AiqParameter) :
    let s₁ := s.updateParameter env param
    let s₂ := s₁.updateParameter env param
    s₂ = { s₁ with
          af :=
            { s₁.af with
              mAfParams :=
                { s₁.af.mAfParams with
                  lensPosition := param.lensPosition
                  lensMovementStartTimestamp := param.lensMovementStartTimestamp
                  triggerNewSearch := false } } } ∧
      s₂.updateParameter env param = s₂ :=
  ⟨updateParameter_updateParameter s,
    by rw [updateParameter_updateParameter, updateParameter_updateParameter]⟩

/-! ## The sensor descriptor -/

theorem setAeManualValues_updateAeModes_sensorDescriptor (q : CcaAeInputParams)
    (descriptor : IaAiqExposureSensorDescriptor) :
    setAeManualValues env cameraId param
        (updateAeModes env cameraId param { q with sensorDescriptor := descriptor }) =
      { setAeManualValues env cameraId param (updateAeModes env cameraId param q) with
        sensorDescriptor := descriptor } := by
  unfold setAeManualValues updateAeModes
  split_ifs <;> simp only [setManualGain_eq, setManualIso_eq, setManualExposure_eq]

/-- The AE update neither reads nor writes the sensor descriptor. -/
theorem updateAeParameter_sensorDescriptor (st : AeState)
    (descriptor : IaAiqExposureSensorDescriptor) :
    updateAeParameter env cameraId param
        { st with mAeParams := { st.mAeParams with sensorDescriptor := descriptor } } =
      { updateAeParameter env cameraId param st with
        mAeParams :=
          { (updateAeParameter env cameraId param st).mAeParams with
            sensorDescriptor := descriptor } } := by
  rw [updateAeParameter_eq, updateAeParameter_eq st,
    setAeManualValues_updateAeModes_sensorDescriptor]

theorem step_setSensorInfo (s : Intel3AParameter) (descriptor : IaAiqExposureSensorDescriptor)
    {e : Event} (he : ∀ d, e ≠ .setSensorInfo d) :
    step env (s.setSensorInfo descriptor) e = (step env s e).setSensorInfo descriptor := by
  cases e with
  | setSensorInfo d => exact absurd rfl (he d)
  | updateParameter param =>
    simp only [step, Intel3AParameter.updateParameter, Intel3AParameter.setSensorInfo,
      updateAeParameter_sensorDescriptor]
  | _ => rfl

variable (env) in
/-- `setSensorInfo` commutes with every run without another `setSensorInfo`: no other call,
`init` included, reads or overwrites the descriptor. -/
theorem run_setSensorInfo (s : Intel3AParameter) (descriptor : IaAiqExposureSensorDescriptor)
    (es : List Event) (hes : ∀ e ∈ es, ∀ d, e ≠ .setSensorInfo d) :
    run env (s.setSensorInfo descriptor) es = (run env s es).setSensorInfo descriptor := by
  induction es generalizing s with
  | nil => rfl
  | cons e es ih =>
    rw [run, run, step_setSensorInfo s descriptor (hes e (List.mem_cons_self _ _)),
      ih _ fun e' he' => hes e' (List.mem_cons_of_mem _ he')]

theorem run_setSensorInfo_after_init :
    let es : List Event := [.init, .updateParameter { aeMode := .manual, fps := 30 }]
    let descriptor : IaAiqExposureSensorDescriptor := { pixelPeriodsPerLine := 4000 }
    (∀ e ∈ es, ∀ d, e ≠ .setSensorInfo d) ∧
      run sampleEnv ((Intel3AParameter.new 0).setSensorInfo descriptor) es =
        (run sampleEnv (Intel3AParameter.new 0) es).setSensorInfo descriptor :=
  have hes : ∀ e ∈ ([.init, .updateParameter { aeMode := .manual, fps := 30 }] : List Event),
      ∀ d, e ≠ .setSensorInfo d := by simp
  ⟨hes, run_setSensorInfo sampleEnv _ _ _ hes⟩

/-! ## What the AWB result reads -/

theorem mManualGains_updateAwb {st : AwbState} (h : param.awbMode = .manualGain) :
    (updateAwbParameter env param st).mManualGains = param.awbManualGain := by
  unfold updateAwbParameter updateAwbMode
  rw [h]
  split_ifs <;> rfl

variable (env) in
/-- After an update the AWB result override depends on that update's request alone: two
objects sent the same request report the same AWB results, whatever their history. -/
theorem updateAwbResult_after_update (s₁ s₂ : Intel3AParameter) (param : AiqParameter)
    (awbResult : Option CcaAwbResults) :
    updateAwbResult env (s₁.updateParameter env param).awb awbResult =
      updateAwbResult env (s₂.updateParameter env param).awb awbResult := by
  cases awbResult with
  | none => rfl
  | some r =>
    simp only [Intel3AParameter.updateParameter_awb, updateAwbResult,
      mUseManualColorMatrix_updateAwb, mUseManualAwbGain_updateAwb, mAwbGainShift_updateAwb]
    by_cases hmatrix : param.awbMode = .manualColorTransform
    · rw [(colorOverride_updateAwb param s₁.awb hmatrix).2,
        (colorOverride_updateAwb param s₂.awb hmatrix).2]
      simp only [hmatrix, reduceCtorEq, decide_False, Bool.false_eq_true, if_false]
    · simp only [hmatrix, decide_False, Bool.false_and, Bool.false_eq_true, if_false]
      by_cases hgain : param.awbMode = .manualGain
      · rw [mManualGains_updateAwb hgain, mManualGains_updateAwb hgain]
      · simp only [hgain, decide_False, Bool.false_eq_true, if_false]

/-! ## What the AE update remembers -/

/-- Whether a request carries a frame rate `setAeManualLimits` takes the frame-time bounds
from: a valid FPS range, or an FPS above `0.01`. -/
def AiqParameter.hasFrameRate (param : AiqParameter) : Bool :=
  decide ((0.01 < param.aeFpsRange.min ∧ param.aeFpsRange.min ≤ param.aeFpsRange.max) ∨
    0.01 < param.fps)

/-- The request a call carries, when it is `updateParameter` with a frame rate. -/
def Event.rateRequest? : Event → Option AiqParameter
  | .updateParameter param => if param.hasFrameRate then some param else none
  | _ => none

/-- The last request with a frame rate among the calls. -/
def lastRateRequest : List Event → Option AiqParameter
  | [] => none
  | e :: es =>
    match lastRateRequest es with
    | some param => some param
    | none => e.rateRequest?

/-- The frame-time bounds of a manual-limits entry. -/
def IaAiqAeManualLimits.frameTime (limit : IaAiqAeManualLimits) : ℤ × ℤ :=
  (limit.manualFrameTimeUsMin, limit.manualFrameTimeUsMax)

theorem frameTime_frameTimeLimits (limit : IaAiqAeManualLimits) :
    (frameTimeLimits param limit).frameTime =
      if param.hasFrameRate then (frameTimeLimits param {}).frameTime else limit.frameTime := by
  unfold frameTimeLimits AiqParameter.hasFrameRate
  by_cases hrange : 0.01 < param.aeFpsRange.min ∧ param.aeFpsRange.min ≤ param.aeFpsRange.max
  · simp only [hrange, and_self, true_or, decide_True, if_true, IaAiqAeManualLimits.frameTime]
  · by_cases hfps : 0.01 < param.fps
    · simp only [if_neg hrange, hfps, or_true, decide_True, if_true,
        IaAiqAeManualLimits.frameTime]
    · simp only [if_neg hrange, hfps, hrange, or_false, decide_False, Bool.false_eq_true,
        if_false]

theorem frameTime_step (s : Intel3AParameter) (e : Event) :
    (step env s e).ae.mAeParams.manualLimits.frameTime =
      match e.rateRequest? with
      | some param => (frameTimeLimits param {}).frameTime
      | none => s.ae.mAeParams.manualLimits.frameTime := by
  cases e with
  | updateParameter param =>
    have hframe : (setAeManualLimits env s.mCameraId param
        s.ae.mAeParams.manualLimits).frameTime =
        (frameTimeLimits param
          { s.ae.mAeParams.manualLimits with
            manualExposureTimeMax := -1, manualExposureTimeMin := -1
            manualIsoMin := -1, manualIsoMax := -1 }).frameTime := by
      simp only [IaAiqAeManualLimits.frameTime, setAeManualLimits, isoLimits_keeps]
    show (updateAeParameter env s.mCameraId param s.ae).mAeParams.manualLimits.frameTime = _
    rw [manualLimits_updateAe, hframe, frameTime_frameTimeLimits]
    simp only [Event.rateRequest?]
    split_ifs <;> rfl
  | _ => rfl

variable (env) in
/-- After any calls, the frame-time bounds are those of the last request that carried a frame
rate, or, when none did, those the object started with: `init` and requests without a
frame rate keep them. -/
theorem frameTime_run (s : Intel3AParameter) (es : List Event) :
    (run env s es).ae.mAeParams.manualLimits.frameTime =
      match lastRateRequest es with
      | some param => (frameTimeLimits param {}).frameTime
      | none => s.ae.mAeParams.manualLimits.frameTime := by
  induction es generalizing s with
  | nil => rfl
  | cons e es ih =>
    rw [run, ih (step env s e)]
    cases hlast : lastRateRequest es with
    | some param => simp only [lastRateRequest, hlast]
    | none => simp only [lastRateRequest, hlast, frameTime_step]

end Intel3A
