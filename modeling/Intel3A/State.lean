import Intel3A.Types
/-!
# The state of `Intel3AParameter`

The members of the class, grouped by the path that writes them: the AE path owns the AE
block and its tick count, the AWB path the AWB block, the manual-override flags and
their stored gains, and the AF path the AF block and the trigger machine.  No member is
written by two paths, so `updateParameter` is the composition of three updates on
disjoint parts.  `mWeightGridMode` is written by the constructor and `init` and read
nowhere, and is left out.
-/

namespace Intel3A

/-- The members the AE path writes. -/
structure AeState where
  mAeParams : CcaAeInputParams
  mAePerTicks : ℤ

/-- The members the AWB path writes. -/
structure AwbState where
  mAwbParams : CcaAwbInputParams
  mUseManualAwbGain : Bool
  mUseManualColorMatrix : Bool
  mAwbPerTicks : ℤ
  mColorMatrix : CameraColorTransform
  mColorGains : CameraColorGains
  mManualGains : CameraAwbGains
  mAwbGainShift : CameraAwbGains

/-- The members the AF path writes: the AF block and the trigger machine. -/
structure AfState where
  mAfParams : CcaAfInputParams
  mAfMode : CameraAfMode
  mAfTrigger : CameraAfTrigger
  mAfForceLock : Bool
  mDuringAfTriggerScan : Bool

/-- An `Intel3AParameter` object. -/
structure Intel3AParameter where
  mCameraId : ℤ
  ae : AeState
  awb : AwbState
  af : AfState

/-- The constructor `Intel3AParameter(cameraId)`: every block cleared, AF mode off. -/
def Intel3AParameter.new (cameraId : ℤ) : Intel3AParameter where
  mCameraId := cameraId
  ae := { mAeParams := {}, mAePerTicks := 1 }
  awb :=
    { mAwbParams := {}, mUseManualAwbGain := false, mUseManualColorMatrix := false,
      mAwbPerTicks := 1, mColorMatrix := {}, mColorGains := {}, mManualGains := {},
      mAwbGainShift := {} }
  af :=
    { mAfParams := {}, mAfMode := .off, mAfTrigger := .idle, mAfForceLock := false,
      mDuringAfTriggerScan := false }

/-- `initAeParameter`: the sensor descriptor and the manual limits are kept. -/
def initAeParameter (p : CcaAeInputParams) : CcaAeInputParams :=
  { p with
    isBypass := false
    numExposures := 1
    frameUse := .video
    flashMode := .off
    meteringMode := .evaluative
    priorityMode := .normal
    flickerReductionMode := .auto
    evShift := 0
    manualExposureTimeUs := fun _ => 0
    manualAnalogGain := fun _ => 0
    manualIso := fun _ => 0
    numSensorDescriptors := 1
    exposureWindow := {}
    exposureCoordinate := {}
    manualConvergenceTime := -1
    exposureDistributionPriority := .auto }

/-- `initAfParameter`, which sets every field of the AF block. -/
def initAfParameter (env : Env) : CcaAfInputParams where
  frameUse := .video
  lensPosition := 0
  lensMovementStartTimestamp := 0
  focusMode := .infinity
  flashMode := .off
  focusRect := {}
  manualFocusParameters :=
    { manualFocusAction := .none, manualFocusDistance := env.maxFocusDistance,
      manualLensPosition := 0 }
  triggerNewSearch := false

/-- `initAwbParameter`. -/
def initAwbParameter (st : AwbState) : AwbState :=
  { st with
    mAwbParams := { st.mAwbParams with sceneMode := .auto, manualConvergenceTime := -1 }
    mUseManualAwbGain := false
    mManualGains := {}
    mAwbGainShift := {} }

namespace Intel3AParameter

/-- `init`: default blocks, AF mode auto with an idle trigger, no manual override. -/
def init (env : Env) (s : Intel3AParameter) : Intel3AParameter :=
  { s with
    ae := { mAeParams := initAeParameter s.ae.mAeParams, mAePerTicks := 1 }
    awb :=
      { initAwbParameter s.awb with
        mAwbPerTicks := 1, mUseManualColorMatrix := false, mColorMatrix := {},
        mColorGains := {} }
    af :=
      { mAfParams := initAfParameter env, mAfMode := .auto, mAfForceLock := false,
        mAfTrigger := .idle, mDuringAfTriggerScan := false } }

/-- `setSensorInfo`: copies the descriptor into the first sensor descriptor. -/
def setSensorInfo (s : Intel3AParameter) (descriptor : IaAiqExposureSensorDescriptor) :
    Intel3AParameter :=
  { s with ae := { s.ae with mAeParams := { s.ae.mAeParams with sensorDescriptor := descriptor } } }

end Intel3AParameter

end Intel3A
