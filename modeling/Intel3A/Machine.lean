import Intel3A.Awb
import Intel3A.Af
/-!
# The object as a state machine

The public operations of `Intel3AParameter` as events on its state: `init`,
`setSensorInfo`, `updateParameter`, the three result overrides and
`fillAfTriggerResult`.  The result overrides write only the engine's result, so they
leave the object as it is.  `Reachable` closes the constructor's state under every event
with every argument; the invariants of the later modules are proved over it.
-/

namespace Intel3A

variable (env : Env)

/-- `updateAeResult`: checks the pointer and changes nothing. -/
def updateAeResult (aeResult : Option CcaAeResults) : Option CcaAeResults := aeResult

namespace Intel3AParameter

/-- `updateParameter`: the AE, AWB and AF updates, in this order. -/
def updateParameter (s : Intel3AParameter) (param : AiqParameter) : Intel3AParameter :=
  let s := { s with ae := updateAeParameter env s.mCameraId param s.ae }
  let s := { s with awb := updateAwbParameter env param s.awb }
  { s with af := updateAfParameter env param s.af }

@[simp] theorem updateParameter_mCameraId (s : Intel3AParameter) (param : AiqParameter) :
    (s.updateParameter env param).mCameraId = s.mCameraId := rfl

@[simp] theorem updateParameter_ae (s : Intel3AParameter) (param : AiqParameter) :
    (s.updateParameter env param).ae = updateAeParameter env s.mCameraId param s.ae := rfl

@[simp] theorem updateParameter_awb (s : Intel3AParameter) (param : AiqParameter) :
    (s.updateParameter env param).awb = updateAwbParameter env param s.awb := rfl

@[simp] theorem updateParameter_af (s : Intel3AParameter) (param : AiqParameter) :
    (s.updateParameter env param).af = updateAfParameter env param s.af := rfl

end Intel3AParameter

/-- A call of one public operation, with its argument; `none` is a null result pointer. -/
inductive Event
  | init
  | setSensorInfo (descriptor : IaAiqExposureSensorDescriptor)
  | updateParameter (param : AiqParameter)
  | updateAeResult (aeResult : Option CcaAeResults)
  | updatePaResult (paResult : Option CcaPaParams)
  | updateAwbResult (awbResult : Option CcaAwbResults)
  | fillAfTriggerResult (afResults : Option CcaAfResults)

/-- The object after one call. -/
def step (s : Intel3AParameter) : Event → Intel3AParameter
  | .init => s.init env
  | .setSensorInfo descriptor => s.setSensorInfo descriptor
  | .updateParameter param => s.updateParameter env param
  | .updateAeResult _ | .updatePaResult _ | .updateAwbResult _ => s
  | .fillAfTriggerResult afResults => { s with af := fillAfTriggerResult s.af afResults }

/-- The object after a sequence of calls. -/
def run : Intel3AParameter → List Event → Intel3AParameter
  | s, [] => s
  | s, e :: es => run (step env s e) es

/-- `updateParameter` and `fillAfTriggerResult`, the calls made once per frame. -/
def Event.isFrameCall : Event → Bool
  | .updateParameter _ | .fillAfTriggerResult _ => true
  | _ => false

/-- The request a call carries, when it is `updateParameter`. -/
def Event.request? : Event → Option AiqParameter
  | .updateParameter param => some param
  | _ => none

/-- The request of the last `updateParameter` among the calls. -/
def lastRequest : List Event → Option AiqParameter
  | [] => none
  | e :: es =>
    match lastRequest es with
    | some param => some param
    | none => e.request?

/-- The states a constructed object reaches by any calls with any arguments. -/
inductive Reachable : Intel3AParameter → Prop
  | new (cameraId : ℤ) : Reachable (Intel3AParameter.new cameraId)
  | next {s : Intel3AParameter} (e : Event) : Reachable s → Reachable (step env s e)

theorem run_append (s : Intel3AParameter) (es es' : List Event) :
    run env s (es ++ es') = run env (run env s es) es' := by
  induction es generalizing s with
  | nil => rfl
  | cons e es ih => exact ih (step env s e)

theorem Reachable.run {s : Intel3AParameter} (hs : Reachable env s) (es : List Event) :
    Reachable env (Intel3A.run env s es) := by
  induction es generalizing s with
  | nil => exact hs
  | cons e es ih => exact ih (hs.next e)

/-- Induction over reachable states from one fact per kind of call. -/
theorem Reachable.induction (P : Intel3AParameter → Prop)
    (hnew : ∀ cameraId, P (Intel3AParameter.new cameraId))
    (hstep : ∀ s e, Reachable env s → P s → P (step env s e))
    {s : Intel3AParameter} (hs : Reachable env s) : P s := by
  induction hs with
  | new cameraId => exact hnew cameraId
  | next e hs ih => exact hstep _ e hs ih

/-- A collaborator set for concrete runs: no platform range, one exposure, no calibration
data, identity coordinate maps, and a `pow` that rounds its exponent down, so that it agrees
with `pow` at integer exponents. -/
def sampleEnv : Env where
  getSupportAeExposureTimeRange _ _ := none
  getSupportAeGainRange _ _ := none
  getExposureNum _ _ := 1
  isMultiExposureCase _ := false
  getCMC _ _ := none
  convertFrameUsageToIaFrameUsage _ := .video
  convertSpeedModeToTime _ := -1
  convertToIaCoordinate _ coordinate := coordinate
  convertToIaWindow _ window := window
  normalizeAwbGain gain := gain
  awbGainNormalizedStart := 4
  awbGainNormalizedEnd := 1
  maxFocusDistance := 0
  pow b x := b ^ ⌊x⌋
  pow_le_pow _ _ _ hb hxy := zpow_le_zpow_right₀ hb (Int.floor_mono hxy)

end Intel3A
