import Intel3A.Machine
/-!
# The AF trigger machine

The AF members of `Intel3AParameter` form a small state machine: the stored mode and
trigger, the force-lock and scan flags, and the engine focus mode.  `AfInv` is its
inductive invariant, preserved by every section of `updateAfParameter`, by `init` and by
`fillAfTriggerResult`, and so true of every reachable object (`afInv_of_reachable`).

The invariant says that only continuous video ever holds the lock.  Since
`fillAfTriggerResult` returns early unless the lock is held, and has no branch for
continuous video, it never changes a reachable object (`fillAfTriggerResult_of_afInv`):
the "lock after the scan settles" branch for auto, macro and continuous picture is dead.

Over runs, a new search starts exactly on a rising START edge in auto or macro mode, the
edge being taken against the previous request (`triggerNewSearch_iff_rising_start`).

In AF mode off the manual lens section converts `1000 * (1.0f / d)` millimetres to
`unsigned int`.  A distance with `1000 / d ≥ 2^32` makes that conversion leave the range of
the type (`manual_focus_distance_overflows`); inside the range the stored value is within
`1 + (1000 / d) / 2^22` of `1000 / d` (`manual_focus_distance_near`).
-/

namespace Intel3A

/-- The invariant of the AF trigger machine: a held START means a scan is running, only
continuous video ever holds the lock, auto and macro focus in auto mode exactly while a
scan runs, and the continuous modes always focus in auto mode. -/
structure AfInv (st : AfState) : Prop where
  scan_of_start : st.mAfTrigger = .start → st.mDuringAfTriggerScan = true
  video_of_lock : st.mAfForceLock = true →
    st.mAfMode = .continuousVideo ∧ st.mDuringAfTriggerScan = true
  auto_iff_scan : st.mAfMode = .auto ∨ st.mAfMode = .macroMode →
    (st.mAfParams.focusMode = .auto ↔ st.mDuringAfTriggerScan = true)
  auto_of_continuous : st.mAfMode = .continuousPicture ∨ st.mAfMode = .continuousVideo →
    st.mAfParams.focusMode = .auto

section Invariant

variable {env : Env} {param : AiqParameter} {st : AfState}

/-- The invariant reads only the mode, the trigger, the two flags and the focus mode. -/
theorem AfInv.of_eq {st' : AfState} (h : AfInv st) (hmode : st'.mAfMode = st.mAfMode)
    (htrigger : st'.mAfTrigger = st.mAfTrigger) (hlock : st'.mAfForceLock = st.mAfForceLock)
    (hscan : st'.mDuringAfTriggerScan = st.mDuringAfTriggerScan)
    (hfocus : st'.mAfParams.focusMode = st.mAfParams.focusMode) : AfInv st' := by
  obtain ⟨h1, h2, h3, h4⟩ := h
  constructor <;> simp only [hmode, htrigger, hlock, hscan, hfocus] <;> assumption

theorem afInv_afModeUpdate (h : AfInv st) : AfInv (afModeUpdate env param st) := by
  by_cases hmode : st.mAfMode = param.afMode
  · simpa [afModeUpdate, hmode] using h
  · simp only [afModeUpdate, ne_eq, hmode, not_false_eq_true, if_true]
    constructor <;> cases param.afMode <;> simp [initAfParameter]

theorem not_auto_of_continuous {mode : CameraAfMode}
    (h : mode = .continuousPicture ∨ mode = .continuousVideo) :
    ¬(mode = .auto ∨ mode = .macroMode) := by
  rcases h with rfl | rfl <;> simp

theorem afInv_triggerStart (h : AfInv st) (trigger : CameraAfTrigger) :
    AfInv { updateAfParameterForAfTriggerStart st with mAfTrigger := trigger } := by
  rw [updateAfParameterForAfTriggerStart_eq]
  refine ⟨fun _ => rfl, fun hlock => ⟨of_decide_eq_true hlock, rfl⟩, fun hauto => ?_,
    fun hcont => ?_⟩
  · dsimp only at hauto ⊢
    simp [hauto]
  · dsimp only at hcont ⊢
    rw [if_neg (not_auto_of_continuous hcont)]
    exact h.auto_of_continuous hcont

theorem afInv_triggerCancel (h : AfInv st) :
    AfInv { updateAfParameterForAfTriggerCancel st with mAfTrigger := .cancel } := by
  rw [updateAfParameterForAfTriggerCancel_eq]
  refine ⟨nofun, nofun, fun hauto => ?_, fun hcont => ?_⟩
  · dsimp only at hauto ⊢
    simp [hauto]
  · dsimp only at hcont ⊢
    rw [if_neg (not_auto_of_continuous hcont)]
    exact h.auto_of_continuous hcont

theorem afInv_afTriggerUpdate (h : AfInv st) : AfInv (afTriggerUpdate param st) := by
  have h0 : AfInv { st with mAfParams := { st.mAfParams with triggerNewSearch := false } } :=
    h.of_eq rfl rfl rfl rfl rfl
  simp only [afTriggerUpdate]
  split_ifs with hstart hcancel
  · exact afInv_triggerStart h0 param.afTrigger
  · rw [hcancel.2]
    exact afInv_triggerCancel h0
  · exact ⟨fun hparam => h.scan_of_start (not_not.mp fun hst => hstart ⟨hst, hparam⟩),
      h.video_of_lock, h.auto_iff_scan, h.auto_of_continuous⟩

theorem afInv_afManualFocus (h : AfInv st) :
    AfInv { st with mAfParams := afManualFocus param st.mAfMode st.mAfParams } := by
  by_cases hoff : st.mAfMode = .off
  · obtain ⟨h1, h2, h3, h4⟩ := h
    exact ⟨h1, h2, by simp [hoff], by simp [hoff]⟩
  · exact h.of_eq rfl rfl rfl rfl (by simp [afManualFocus, hoff])

theorem AfInv.of_params (h : AfInv st) {p : CcaAfInputParams}
    (hfocus : p.focusMode = st.mAfParams.focusMode) : AfInv { st with mAfParams := p } :=
  h.of_eq rfl rfl rfl rfl hfocus

theorem afInv_updateAf (h : AfInv st) : AfInv (updateAfParameter env param st) := by
  apply afInv_afManualFocus
  apply AfInv.of_params
  · apply afInv_afTriggerUpdate
    apply AfInv.of_params
    · exact afInv_afModeUpdate (h.of_params rfl)
    · rfl
  · rfl

/-- Under the invariant the lock is only ever held in continuous video, where the feedback
has no branch: `fillAfTriggerResult` changes nothing. -/
theorem fillAfTriggerResult_of_afInv (h : AfInv st) (afResults : Option CcaAfResults) :
    fillAfTriggerResult st afResults = st := by
  cases afResults with
  | none => rfl
  | some afResults =>
    cases hlock : st.mAfForceLock with
    | false => simp [fillAfTriggerResult, hlock]
    | true => simp [fillAfTriggerResult, hlock, (h.video_of_lock hlock).1]

theorem afInv_new (cameraId : ℤ) : AfInv (Intel3AParameter.new cameraId).af := by
  constructor <;> simp [Intel3AParameter.new]

theorem afInv_step {s : Intel3AParameter} (h : AfInv s.af) (e : Event) : AfInv (step env s e).af := by
  cases e with
  | init => constructor <;> simp [step, Intel3AParameter.init, initAfParameter]
  | updateParameter param => exact afInv_updateAf h
  | fillAfTriggerResult afResults => simpa [step, fillAfTriggerResult_of_afInv h] using h
  | _ => exact h

theorem afInv_of_reachable {s : Intel3AParameter} (hs : Reachable env s) : AfInv s.af :=
  Reachable.induction env (fun s => AfInv s.af) afInv_new (fun _ e _ h => afInv_step h e) hs

end Invariant

/-! ## The trigger machine on reachable objects -/

variable (env : Env)

/-- Every reachable object satisfies the four consistency conditions of the AF machine. -/
theorem af_trigger_state_invariant {s : Intel3AParameter} (hs : Reachable env s) :
    (s.af.mAfTrigger = .start → s.af.mDuringAfTriggerScan = true) ∧
      (s.af.mAfForceLock = true → s.af.mDuringAfTriggerScan = true ∧ s.af.mAfMode ≠ .off) ∧
      (s.af.mAfMode = .auto ∨ s.af.mAfMode = .macroMode →
        (s.af.mAfParams.focusMode = .auto ↔ s.af.mDuringAfTriggerScan = true)) ∧
      (s.af.mAfMode = .continuousPicture ∨ s.af.mAfMode = .continuousVideo →
        s.af.mAfParams.focusMode = .auto) := by
  have h := afInv_of_reachable hs
  refine ⟨h.scan_of_start, fun hlock => ?_, h.auto_iff_scan, h.auto_of_continuous⟩
  obtain ⟨hvideo, hscan⟩ := h.video_of_lock hlock
  exact ⟨hscan, by rw [hvideo]; decide⟩

theorem af_trigger_state_invariant_after_start :
    let s := run sampleEnv (Intel3AParameter.new 0)
      [.init, .updateParameter { afMode := .continuousVideo, afTrigger := .start }]
    Reachable sampleEnv s ∧
      ((s.af.mAfTrigger = .start → s.af.mDuringAfTriggerScan = true) ∧
        (s.af.mAfForceLock = true → s.af.mDuringAfTriggerScan = true ∧ s.af.mAfMode ≠ .off) ∧
        (s.af.mAfMode = .auto ∨ s.af.mAfMode = .macroMode →
          (s.af.mAfParams.focusMode = .auto ↔ s.af.mDuringAfTriggerScan = true)) ∧
        (s.af.mAfMode = .continuousPicture ∨ s.af.mAfMode = .continuousVideo →
          s.af.mAfParams.focusMode = .auto)) :=
  let hs := (Reachable.new 0).run sampleEnv _
  ⟨hs, af_trigger_state_invariant sampleEnv hs⟩

/-- After `init` and a START in AF mode auto, from any object, a scan is running, yet
feedback that the scan has settled leaves the lock off. -/
theorem fillAfTriggerResult_settled_scan_stays_unlocked (s₀ : Intel3AParameter) :
    let s := run env s₀ [.init, .updateParameter { afMode := .auto, afTrigger := .start }]
    s.af.mAfMode = .auto ∧ s.af.mDuringAfTriggerScan = true ∧
      (fillAfTriggerResult s.af (some { status := .success })).mAfForceLock = false :=
  ⟨rfl, rfl, rfl⟩

/-! ## Rising edges over runs -/

/-- `fillAfTriggerResult` writes the lock and nothing else. -/
theorem fillAfTriggerResult_frame (st : AfState) (afResults : Option CcaAfResults) :
    fillAfTriggerResult st afResults =
      { st with mAfForceLock := (fillAfTriggerResult st afResults).mAfForceLock } := by
  unfold fillAfTriggerResult
  split
  · rfl
  · split_ifs
    · rfl
    · split <;> rfl

@[simp] theorem fillAfTriggerResult_mAfMode (st : AfState) (afResults : Option CcaAfResults) :
    (fillAfTriggerResult st afResults).mAfMode = st.mAfMode := by
  rw [fillAfTriggerResult_frame]

@[simp] theorem fillAfTriggerResult_mAfTrigger (st : AfState)
    (afResults : Option CcaAfResults) :
    (fillAfTriggerResult st afResults).mAfTrigger = st.mAfTrigger := by
  rw [fillAfTriggerResult_frame]

/-- After frame calls the stored AF mode and trigger are those of the last request. -/
theorem afModeTrigger_run (s : Intel3AParameter) (es : List Event)
    (hes : ∀ e ∈ es, e.isFrameCall) :
    ((run env s es).af.mAfMode, (run env s es).af.mAfTrigger) =
      match lastRequest es with
      | some param => (param.afMode, param.afTrigger)
      | none => (s.af.mAfMode, s.af.mAfTrigger) := by
  induction es generalizing s with
  | nil => rfl
  | cons e es ih =>
    rw [run, ih (step env s e) fun e' he' => hes e' (List.mem_cons_of_mem _ he')]
    cases hlast : lastRequest es with
    | some param => simp [lastRequest, hlast]
    | none =>
      have he := hes e (List.mem_cons_self _ _)
      cases e with
      | updateParameter param =>
        simp [lastRequest, hlast, Event.request?, step, mAfMode_updateAf, mAfTrigger_updateAf]
      | fillAfTriggerResult afResults => simp [lastRequest, hlast, Event.request?, step]
      | _ => simp [Event.isFrameCall] at he

/-- In a run from `init`, a request starts a new search exactly when it asks for START in
auto or macro mode and the previous request, if any, was in another mode or did not ask
for START. -/
theorem triggerNewSearch_iff_rising_start (s : Intel3AParameter) (pre : List Event)
    (param : AiqParameter) (hpre : ∀ e ∈ pre, e.isFrameCall) :
    (run env (s.init env) (pre ++ [.updateParameter param])).af.mAfParams.triggerNewSearch =
        true ↔
      (param.afMode = .auto ∨ param.afMode = .macroMode) ∧ param.afTrigger = .start ∧
        ∀ prev, lastRequest pre = some prev →
          prev.afMode ≠ param.afMode ∨ prev.afTrigger ≠ .start := by
  have hrun := afModeTrigger_run env (s.init env) pre hpre
  simp only [run_append, run, step, Intel3AParameter.updateParameter_af,
    triggerNewSearch_updateAf]
  cases hlast : lastRequest pre with
  | none =>
    simp only [hlast, Prod.mk.injEq] at hrun
    rw [hrun.1, hrun.2]
    simp [Intel3AParameter.init]
  | some prev =>
    simp only [hlast, Prod.mk.injEq] at hrun
    simp [hrun.1, hrun.2]

theorem triggerNewSearch_held_start :
    let start : AiqParameter := { afMode := .auto, afTrigger := .start }
    (∀ e ∈ [Event.updateParameter start], e.isFrameCall) ∧
      ((run sampleEnv ((Intel3AParameter.new 0).init sampleEnv)
          ([.updateParameter start] ++ [.updateParameter start])).af.mAfParams.triggerNewSearch =
          true ↔
        (start.afMode = .auto ∨ start.afMode = .macroMode) ∧ start.afTrigger = .start ∧
          ∀ prev, lastRequest [.updateParameter start] = some prev →
            prev.afMode ≠ start.afMode ∨ prev.afTrigger ≠ .start) :=
  ⟨by decide, triggerNewSearch_iff_rising_start sampleEnv _ _ _ (by decide)⟩

/-! ## Mode changes and the manual lens -/

/-- A request whose AF mode differs from the stored one leaves the same AF state, whatever
the previous state was. -/
theorem updateParameter_af_of_mode_change (s₁ s₂ : Intel3AParameter) (param : AiqParameter)
    (h₁ : param.afMode ≠ s₁.af.mAfMode) (h₂ : param.afMode ≠ s₂.af.mAfMode) :
    (s₁.updateParameter env param).af = (s₂.updateParameter env param).af :=
  updateAfParameter_of_mode_change param (Ne.symm h₁) (Ne.symm h₂)

theorem updateParameter_af_of_mode_change_scan_lock :
    let param : AiqParameter := { afMode := .macroMode, afTrigger := .start }
    let s₁ := run sampleEnv (Intel3AParameter.new 0)
      [.init, .updateParameter { afMode := .auto, afTrigger := .start }]
    let s₂ := run sampleEnv (Intel3AParameter.new 0)
      [.updateParameter { afMode := .continuousVideo, afTrigger := .start }]
    s₁.af.mDuringAfTriggerScan = true ∧ s₂.af.mAfForceLock = true ∧
      param.afMode ≠ s₁.af.mAfMode ∧ param.afMode ≠ s₂.af.mAfMode ∧
      (s₁.updateParameter sampleEnv param).af = (s₂.updateParameter sampleEnv param).af :=
  ⟨rfl, rfl, by decide, by decide,
    updateParameter_af_of_mode_change sampleEnv _ _ _ (by decide) (by decide)⟩

/-- In AF mode off, a clamped focus distance `d > 0` with `1000 / d ≥ 2^32` makes the code
convert a `float` of at least `2^32` millimetres to `unsigned int`, outside the range of
the type, where C leaves the result undefined. -/
theorem manual_focus_distance_overflows (s : Intel3AParameter) (param : AiqParameter)
    (hoff : param.afMode = .off) (hpos : 0 < clampFocusDistance param)
    (hfar : 2 ^ 32 ≤ 1000 / clampFocusDistance param) :
    let q := (s.updateParameter env param).af.mAfParams
    let focusInMm := round32 (1000 * round32 (1 / clampFocusDistance param))
    q.manualFocusParameters.manualFocusAction = .setDistance ∧
      q.manualFocusParameters.manualFocusDistance = floatToUnsigned focusInMm ∧
      2 ^ 32 ≤ focusInMm := by
  have h := (@afManualFocus_updateAf_of_off env param s.af hoff).2 hpos.ne'
  refine ⟨h.2.1, h.2.2, ?_⟩
  have hrecip : 4294967296 / 1000 ≤ 1 / clampFocusDistance param := by
    rw [le_div_iff₀ hpos] at hfar ⊢
    linarith
  -- `2^32 / 1000` itself rounds up to `4294967.5`, whose product with `1000` exceeds `2^32`.
  have hround : round32 (4294967296 / 1000) = 8589935 / 2 := by
    rw [round32_eq_of_binade 22 8589935] <;> norm_num
  calc (2 : ℚ) ^ 32 = round32 (2 ^ 32) := (round32_two_pow 32).symm
    _ ≤ round32 (1000 * round32 (4294967296 / 1000)) := round32_mono (by rw [hround]; norm_num)
    _ ≤ round32 (1000 * round32 (1 / clampFocusDistance param)) :=
      round32_mono (mul_le_mul_of_nonneg_left (round32_mono hrecip) (by norm_num))

theorem manual_focus_distance_overflows_far :
    let param : AiqParameter :=
      { afMode := .off, focusDistance := 1 / 2 ^ 32, minFocusDistance := 1 }
    (param.afMode = .off ∧ 0 < clampFocusDistance param ∧
      2 ^ 32 ≤ 1000 / clampFocusDistance param) ∧
      let q := ((Intel3AParameter.new 0).updateParameter sampleEnv param).af.mAfParams
      let focusInMm := round32 (1000 * round32 (1 / clampFocusDistance param))
      q.manualFocusParameters.manualFocusAction = .setDistance ∧
        q.manualFocusParameters.manualFocusDistance = floatToUnsigned focusInMm ∧
        2 ^ 32 ≤ focusInMm := by
  intro param
  have hd : clampFocusDistance param = 1 / 2 ^ 32 := by norm_num [param, clampFocusDistance]
  have hpos : 0 < clampFocusDistance param := by rw [hd]; norm_num
  have hfar : 2 ^ 32 ≤ 1000 / clampFocusDistance param := by rw [hd]; norm_num
  exact ⟨⟨rfl, hpos, hfar⟩, manual_focus_distance_overflows sampleEnv _ param rfl hpos hfar⟩

/-- In AF mode off, a clamped focus distance `d > 0` (at most `2^126`, so that `1 / d` is a
normal `float`) with `1000 / d < 2^31` is stored as a number of millimetres that differs
from `1000 / d` by less than `1 + (1000 / d) / 2^22`: the two `float` roundings move it by
at most `2^-22` of its size and the conversion truncates. -/
theorem manual_focus_distance_near (s : Intel3AParameter) (param : AiqParameter)
    (hoff : param.afMode = .off) (hpos : 0 < clampFocusDistance param)
    (hnormal : clampFocusDistance param ≤ 2 ^ 126)
    (hfit : 1000 / clampFocusDistance param < 2 ^ 31) :
    let q := (s.updateParameter env param).af.mAfParams
    |(q.manualFocusParameters.manualFocusDistance.toNat : ℚ) - 1000 / clampFocusDistance param| <
      1 + 1000 / clampFocusDistance param / 2 ^ 22 := by
  have hstored := ((@afManualFocus_updateAf_of_off env param s.af hoff).2 hpos.ne').2.2
  set d := clampFocusDistance param
  have hx : 2 ^ (-126 : ℤ) ≤ 1 / d := by
    rw [show (2 : ℚ) ^ (-126 : ℤ) = 1 / 2 ^ 126 by norm_num]
    exact one_div_le_one_div_of_le hpos hnormal
  have herr := abs_round32_mul_round32_sub_le (c := 1000) (by norm_num) hx
  rw [mul_one_div] at herr
  obtain ⟨hlo, hhi⟩ := abs_le.mp herr
  have hquot : 0 < 1000 / d := div_pos (by norm_num) hpos
  have hnonneg : 0 ≤ round32 (1000 * round32 (1 / d)) := by linarith
  have htoNat := floatToUnsigned_toNat hnonneg (by linarith)
  simp only [Intel3AParameter.updateParameter_af, hstored, htoNat]
  have hfloor := Nat.floor_le hnonneg
  have hfloor' := Nat.lt_floor_add_one (round32 (1000 * round32 (1 / d)))
  rw [abs_sub_lt_iff]
  constructor <;> linarith

theorem manual_focus_distance_near_half_diopter :
    let param : AiqParameter :=
      { afMode := .off, focusDistance := 1 / 2, minFocusDistance := 1 }
    (param.afMode = .off ∧ 0 < clampFocusDistance param ∧ clampFocusDistance param ≤ 2 ^ 126 ∧
      1000 / clampFocusDistance param < 2 ^ 31) ∧
      let q := ((Intel3AParameter.new 0).updateParameter sampleEnv param).af.mAfParams
      |(q.manualFocusParameters.manualFocusDistance.toNat : ℚ) - 1000 / clampFocusDistance param| <
        1 + 1000 / clampFocusDistance param / 2 ^ 22 := by
  intro param
  have hd : clampFocusDistance param = 1 / 2 := by norm_num [param, clampFocusDistance]
  have hpos : 0 < clampFocusDistance param := by rw [hd]; norm_num
  have hnormal : clampFocusDistance param ≤ 2 ^ 126 := by rw [hd]; norm_num
  have hfit : 1000 / clampFocusDistance param < 2 ^ 31 := by rw [hd]; norm_num
  exact ⟨⟨rfl, hpos, hnormal, hfit⟩,
    manual_focus_distance_near sampleEnv _ param rfl hpos hnormal hfit⟩

end Intel3A
