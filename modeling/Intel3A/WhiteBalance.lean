import Intel3A.Machine
/-!
# The manual white-balance overrides over whole runs

`updateAwbParameter` clears both override flags before it evaluates the request's mode,
so no reachable object ever holds both (`manual_awb_flags_exclusive`), and the PA override
after an update is a function of that update's request alone
(`updatePaResult_after_update`).  Without a manual override, `updateAwbResult` multiplies
the engine's ratios by the clipped ratios of the normalized gain shift; for a neutral shift
that factor is the clip of `1` into `[MIN_PER_G, MAX_PER_G]`, which is `1` exactly when
`AWB_GAIN_NORMALIZED_START / AWB_GAIN_NORMALIZED_END ≥ 1` (`updateAwbResult_neutral_shift`).
The two constants are not in the source and are parameters of the model.

The HAL-paced branch of `updateAwbParameter`, unlike the AE one and unlike its own
engine-paced branch, reads the AE converge speed, so the AWB tick count of a request
depends on a field outside the AWB inputs (`awbPerTicks_reads_aeConvergeSpeed`).
-/

namespace Intel3A

variable (env : Env)

/-! ## Exclusive overrides -/

/-- At most one of the manual-gain and manual-colour-transform flags is set. -/
def FlagsExclusive (st : AwbState) : Prop :=
  ¬(st.mUseManualAwbGain = true ∧ st.mUseManualColorMatrix = true)

theorem flagsExclusive_updateAwb (param : AiqParameter) (st : AwbState) :
    FlagsExclusive (updateAwbParameter env param st) := by
  rintro ⟨hgain, hmatrix⟩
  rw [mUseManualAwbGain_updateAwb, decide_eq_true_eq] at hgain
  rw [mUseManualColorMatrix_updateAwb, decide_eq_true_eq, hgain] at hmatrix
  exact nomatch hmatrix

theorem flagsExclusive_step {s : Intel3AParameter} (h : FlagsExclusive s.awb) (e : Event) :
    FlagsExclusive (step env s e).awb := by
  cases e with
  | init => exact fun hboth => nomatch hboth.2
  | updateParameter param => exact flagsExclusive_updateAwb env param s.awb
  | _ => exact h

/-- No reachable object holds both manual AWB overrides, and after an update a flag is set
only when the request's AWB mode selects it. -/
theorem manual_awb_flags_exclusive {s : Intel3AParameter} (hs : Reachable env s) :
    ¬(s.awb.mUseManualAwbGain = true ∧ s.awb.mUseManualColorMatrix = true) ∧
      ∀ param : AiqParameter,
        ((s.updateParameter env param).awb.mUseManualAwbGain = true →
          param.awbMode = .manualGain) ∧
        ((s.updateParameter env param).awb.mUseManualColorMatrix = true →
          param.awbMode = .manualColorTransform) := by
  refine ⟨Reachable.induction env (fun s => FlagsExclusive s.awb) (fun _ => nofun)
    (fun _ e _ h => flagsExclusive_step env h e) hs, fun param => ⟨fun h => ?_, fun h => ?_⟩⟩
  · simpa [mUseManualAwbGain_updateAwb] using h
  · simpa [mUseManualColorMatrix_updateAwb] using h

theorem manual_awb_flags_exclusive_after_manual_gain :
    let s := run sampleEnv (Intel3AParameter.new 0) [.updateParameter { awbMode := .manualGain }]
    Reachable sampleEnv s ∧ s.awb.mUseManualAwbGain = true ∧
      (¬(s.awb.mUseManualAwbGain = true ∧ s.awb.mUseManualColorMatrix = true) ∧
        ∀ param : AiqParameter,
          ((s.updateParameter sampleEnv param).awb.mUseManualAwbGain = true →
            param.awbMode = .manualGain) ∧
          ((s.updateParameter sampleEnv param).awb.mUseManualColorMatrix = true →
            param.awbMode = .manualColorTransform)) :=
  let hs := (Reachable.new 0).run sampleEnv _
  ⟨hs, rfl, manual_awb_flags_exclusive sampleEnv hs⟩

/-! ## The PA override -/

/-- After an update, `updatePaResult` enables the manual settings exactly when the request
selected a manual colour transform, and then writes the request's matrix and, when all four
are positive, its gains; any other request lets the engine's result through. -/
theorem updatePaResult_after_update (s : Intel3AParameter) (param : AiqParameter)
    (pa : CcaPaParams) :
    let g := param.manualColorGains.colorGainsRggb
    updatePaResult (s.updateParameter env param).awb (some pa) =
      some
        (if param.awbMode = .manualColorTransform then
          { pa with
            colorGains :=
              if validColorGains g then { r := g 0, gr := g 1, gb := g 2, b := g 3 }
              else pa.colorGains
            colorConversionMatrix := param.manualColorMatrix.colorTransform
            enableManualSettings := true }
        else { pa with enableManualSettings := false }) := by
  simp only [Intel3AParameter.updateParameter_awb, updatePaResult,
    mUseManualColorMatrix_updateAwb]
  by_cases h : param.awbMode = .manualColorTransform
  · obtain ⟨hmatrix, hgains⟩ := @colorOverride_updateAwb env param s.awb h
    simp only [h, hmatrix, hgains, decide_True, Bool.not_true, Bool.false_eq_true, if_false,
      if_true]
    split_ifs <;> rfl
  · simp only [h, decide_False, Bool.not_false, if_true, if_false]

/-! ## The gain-shift override -/

/-- The AWB block in which `updateAwbResult` takes the gain-shift branch with a neutral
shift: no manual gains, no valid manual colour gains, and equal shift components. -/
structure NeutralShift (st : AwbState) : Prop where
  noManualGain : st.mUseManualAwbGain = false
  noColorGains : st.mUseManualColorMatrix = true →
    validColorGains st.mColorGains.colorGainsRggb = false
  red : st.mAwbGainShift.rGain = st.mAwbGainShift.gGain
  blue : st.mAwbGainShift.bGain = st.mAwbGainShift.gGain

section Neutral

variable {env} {param : AiqParameter}

theorem neutralShift_updateAwb (st : AwbState) (hgain : param.awbMode ≠ .manualGain)
    (hmatrix : param.awbMode = .manualColorTransform →
      validColorGains param.manualColorGains.colorGainsRggb = false)
    (hshift : param.awbGainShift.rGain = param.awbGainShift.gGain ∧
      param.awbGainShift.bGain = param.awbGainShift.gGain) :
    NeutralShift (updateAwbParameter env param st) where
  noManualGain := by simpa [mUseManualAwbGain_updateAwb] using hgain
  noColorGains h := by
    have hmode : param.awbMode = .manualColorTransform := by
      simpa [mUseManualColorMatrix_updateAwb] using h
    rw [(colorOverride_updateAwb param st hmode).2]
    exact hmatrix hmode
  red := by rw [mAwbGainShift_updateAwb]; exact hshift.1
  blue := by rw [mAwbGainShift_updateAwb]; exact hshift.2

/-- Calls other than `updateParameter` keep a neutral shift; `init` sets one. -/
theorem neutralShift_step {s : Intel3AParameter} (h : NeutralShift s.awb) (e : Event)
    (he : e.request? = none) : NeutralShift (step env s e).awb := by
  cases e with
  | init => exact ⟨rfl, nofun, rfl, rfl⟩
  | updateParameter param => exact nomatch he
  | _ => exact h

theorem neutralShift_run {s : Intel3AParameter} (h : NeutralShift s.awb) (es : List Event)
    (hes : ∀ e ∈ es, e.request? = none) : NeutralShift (run env s es).awb := by
  induction es generalizing s with
  | nil => exact h
  | cons e es ih =>
    exact ih (neutralShift_step h e (hes e (List.mem_cons_self _ _)))
      fun e' he' => hes e' (List.mem_cons_of_mem _ he')

/-- With a neutral shift whose normalized gain is not zero, `updateAwbResult` scales both
ratios by the clip of `1` into the band `[MIN_PER_G, MAX_PER_G]`. -/
theorem updateAwbResult_of_neutralShift {st : AwbState} (h : NeutralShift st)
    (hnorm : env.normalizeAwbGain st.mAwbGainShift.gGain ≠ 0) (awbResult : CcaAwbResults) :
    let maxPerG := env.awbGainNormalizedStart / env.awbGainNormalizedEnd
    updateAwbResult env st (some awbResult) =
      some
        { awbResult with
          accurateBPerG := awbResult.accurateBPerG * clip 1 maxPerG (1 / maxPerG)
          accurateRPerG := awbResult.accurateRPerG * clip 1 maxPerG (1 / maxPerG) } := by
  rw [updateAwbResult_of_gainShift st awbResult h.noManualGain h.noColorGains]
  simp only [h.red, h.blue, div_self hnorm]

end Neutral

/-- After a request with neither manual gains nor valid manual colour gains and with a
neutral gain shift, and any later calls that make no request, `updateAwbResult` scales every
engine result by the clip of `1` into `[MIN_PER_G, MAX_PER_G]`; it leaves every result
unchanged exactly when `AWB_GAIN_NORMALIZED_START / AWB_GAIN_NORMALIZED_END ≥ 1`. -/
theorem updateAwbResult_neutral_shift (s : Intel3AParameter) (param : AiqParameter)
    (es : List Event) (hgain : param.awbMode ≠ .manualGain)
    (hmatrix : param.awbMode = .manualColorTransform →
      validColorGains param.manualColorGains.colorGainsRggb = false)
    (hshift : param.awbGainShift.rGain = param.awbGainShift.gGain ∧
      param.awbGainShift.bGain = param.awbGainShift.gGain)
    (hes : ∀ e ∈ es, e.request? = none) (hnorm : ∀ gain, env.normalizeAwbGain gain ≠ 0) :
    let maxPerG := env.awbGainNormalizedStart / env.awbGainNormalizedEnd
    let st := (run env (s.updateParameter env param) es).awb
    (∀ awbResult : CcaAwbResults,
      updateAwbResult env st (some awbResult) =
        some
          { awbResult with
            accurateBPerG := awbResult.accurateBPerG * clip 1 maxPerG (1 / maxPerG)
            accurateRPerG := awbResult.accurateRPerG * clip 1 maxPerG (1 / maxPerG) }) ∧
      ((∀ awbResult : CcaAwbResults, updateAwbResult env st (some awbResult) = some awbResult) ↔
        1 ≤ maxPerG) := by
  intro maxPerG st
  have hst : NeutralShift st :=
    neutralShift_run (neutralShift_updateAwb s.awb hgain hmatrix hshift) es hes
  have hscale := fun awbResult => updateAwbResult_of_neutralShift hst (hnorm _) awbResult
  refine ⟨hscale, fun hid => ?_, fun hband awbResult => ?_⟩
  · have hone := (hscale ⟨1, 1⟩).symm.trans (hid ⟨1, 1⟩)
    simp only [Option.some.injEq, CcaAwbResults.mk.injEq, one_mul] at hone
    exact (clip_one_eq_one_iff maxPerG).mp hone.1
  · rw [hscale, (clip_one_eq_one_iff maxPerG).mpr hband, mul_one, mul_one]

theorem updateAwbResult_neutral_shift_auto :
    let env : Env := { sampleEnv with normalizeAwbGain := fun _ => 1 }
    let s := Intel3AParameter.new 0
    let param : AiqParameter := {}
    let es : List Event := [.updatePaResult none]
    let maxPerG := env.awbGainNormalizedStart / env.awbGainNormalizedEnd
    let st := (run env (s.updateParameter env param) es).awb
    (param.awbMode ≠ .manualGain ∧
      (param.awbMode = .manualColorTransform →
        validColorGains param.manualColorGains.colorGainsRggb = false) ∧
      (param.awbGainShift.rGain = param.awbGainShift.gGain ∧
        param.awbGainShift.bGain = param.awbGainShift.gGain) ∧
      (∀ e ∈ es, e.request? = none) ∧ (∀ gain, env.normalizeAwbGain gain ≠ 0)) ∧
      ((∀ awbResult : CcaAwbResults,
        updateAwbResult env st (some awbResult) =
          some
            { awbResult with
              accurateBPerG := awbResult.accurateBPerG * clip 1 maxPerG (1 / maxPerG)
              accurateRPerG := awbResult.accurateRPerG * clip 1 maxPerG (1 / maxPerG) }) ∧
        ((∀ awbResult : CcaAwbResults,
          updateAwbResult env st (some awbResult) = some awbResult) ↔ 1 ≤ maxPerG)) :=
  have hgain : CameraAwbMode.auto ≠ .manualGain := by decide
  have hmatrix : CameraAwbMode.auto = .manualColorTransform →
      validColorGains (fun _ => 0) = false := nofun
  have hes : ∀ e ∈ [Event.updatePaResult none], e.request? = none := by
    simp [Event.request?]
  have hnorm : ∀ gain : ℤ, (1 : ℚ) ≠ 0 := fun _ => one_ne_zero
  ⟨⟨hgain, hmatrix, ⟨rfl, rfl⟩, hes, hnorm⟩,
    updateAwbResult_neutral_shift _ _ _ _ hgain hmatrix ⟨rfl, rfl⟩ hes hnorm⟩

/-! ## The AWB tick count -/

/-- Two requests that differ only in the AE converge speed leave AWB tick counts `1` and
`60` in the HAL-paced AWB mode, from any two objects. -/
theorem awbPerTicks_reads_aeConvergeSpeed (s₁ s₂ : Intel3AParameter) :
    let r₁ : AiqParameter := { awbConvergeSpeedMode := .hal, aeConvergeSpeed := .normal }
    let r₂ : AiqParameter := { awbConvergeSpeedMode := .hal, aeConvergeSpeed := .low }
    (s₁.updateParameter env r₁).awb.mAwbPerTicks = 1 ∧
      (s₂.updateParameter env r₂).awb.mAwbPerTicks = 60 := by
  simp [mAwbPerTicks_updateAwb, perTicks]

end Intel3A
