import Intel3A.Basic
/-!
# The request, the engine blocks and the collaborators

`Intel3AParameter` translates one `aiq_parameter_t` request per frame into the AE, AF and
AWB input blocks of the 3A engine (`cca_ae_input_params`, `cca_af_input_params`,
`cca_awb_input_params`) and rewrites some engine results afterwards.  Each type below
keeps exactly the fields that `Intel3AParameter.cpp` reads or writes.  An enum keeps the
enumerators the file names, in the order of their headers, so that its first constructor
is the value a cleared (`CLEAR`, `= {}`) block holds.

Everything the file calls but does not define (`PlatformData`, `AiqUtils`, `CameraUtils`,
`IntelCca` and `pow` of `<cmath>`) is a field of `Env`.
-/

namespace Intel3A

/-! ## Values of the application request -/

/-- `camera_range_t`. -/
structure CameraRange where
  min : ℚ := 0
  max : ℚ := 0

/-- `camera_resolution_t`. -/
structure CameraResolution where
  width : ℤ := 0
  height : ℤ := 0

/-- `camera_window_t`; its weight is not read by this file. -/
structure CameraWindow where
  left : ℤ := 0
  top : ℤ := 0
  right : ℤ := 0
  bottom : ℤ := 0

/-- `camera_coordinate_t`. -/
structure CameraCoordinate where
  x : ℤ := 0
  y : ℤ := 0

/-- `camera_coordinate_system_t`, the mapping domain of the coordinate converters. -/
structure CameraCoordinateSystem where
  left : ℤ
  top : ℤ
  right : ℤ
  bottom : ℤ

/-- `camera_awb_gains_t`. -/
structure CameraAwbGains where
  rGain : ℤ := 0
  gGain : ℤ := 0
  bGain : ℤ := 0

/-- `camera_color_transform_t`. -/
structure CameraColorTransform where
  colorTransform : Fin 3 → Fin 3 → ℚ := fun _ _ => 0

/-- `camera_color_gains_t`, ordered R, Gr, Gb, B. -/
structure CameraColorGains where
  colorGainsRggb : Fin 4 → ℚ := fun _ => 0

/-- `camera_frame_usage_t`. -/
inductive CameraFrameUsage
  | preview | video | still | continuous
  deriving DecidableEq, Repr

/-- `camera_ae_mode_t`. -/
inductive CameraAeMode
  | auto | manual
  deriving DecidableEq, Repr

/-- `camera_antibanding_mode_t`. -/
inductive CameraAntibandingMode
  | auto | hz50 | hz60 | off
  deriving DecidableEq, Repr

/-- `camera_ae_distribution_priority_t`. -/
inductive CameraAeDistributionPriority
  | auto | shutter | iso | aperture
  deriving DecidableEq, Repr

/-- `camera_converge_speed_mode_t`: the engine (`AIQ`) or the HAL paces convergence. -/
inductive CameraConvergeSpeedMode
  | aiq | hal
  deriving DecidableEq, Repr

/-- `camera_converge_speed_t`. -/
inductive CameraConvergeSpeed
  | normal | mid | low
  deriving DecidableEq, Repr

/-- `camera_blc_area_mode_t`. -/
inductive CameraBlcAreaMode
  | off | on
  deriving DecidableEq, Repr

/-- `camera_awb_mode_t`. -/
inductive CameraAwbMode
  | auto | incandescent | fluorescent | daylight | fullOvercast | partlyOvercast | sunset
  | videoConference | manualCctRange | manualWhitePoint | manualGain | manualColorTransform
  deriving DecidableEq, Repr

/-- `camera_af_mode_t`; `macroMode` is `AF_MODE_MACRO`. -/
inductive CameraAfMode
  | off | auto | macroMode | continuousVideo | continuousPicture
  deriving DecidableEq, Repr

/-- `camera_af_trigger_t`. -/
inductive CameraAfTrigger
  | idle | start | cancel
  deriving DecidableEq, Repr

/-- `aiq_parameter_t`, restricted to the fields this file reads.  The scene and tuning
modes are only forwarded to the collaborators.  Field defaults are zero values, so that
a request written in a proof names only the fields it sets.  The manual gain may be NaN:
it is the one `float` of the request that a `<` test guards before the code writes it to
the engine, and NaN passes that test. -/
structure AiqParameter where
  frameUsage : CameraFrameUsage := .preview
  tuningMode : ℕ := 0
  sceneMode : ℕ := 0
  aeMode : CameraAeMode := .auto
  aeDistributionPriority : CameraAeDistributionPriority := .auto
  antibandingMode : CameraAntibandingMode := .auto
  manualExpTimeUs : ℤ := 0
  manualGain : CFloat := 0
  manualIso : ℤ := 0
  evShift : ℚ := 0
  fps : ℚ := 0
  aeFpsRange : CameraRange := {}
  exposureTimeRange : CameraRange := {}
  sensitivityGainRange : CameraRange := {}
  aeConvergeSpeedMode : CameraConvergeSpeedMode := .aiq
  aeConvergeSpeed : CameraConvergeSpeed := .normal
  blcAreaMode : CameraBlcAreaMode := .off
  aeRegions : List CameraWindow := []
  resolution : CameraResolution := {}
  awbMode : CameraAwbMode := .auto
  cctRange : CameraRange := {}
  whitePoint : CameraCoordinate := {}
  awbManualGain : CameraAwbGains := {}
  manualColorMatrix : CameraColorTransform := {}
  manualColorGains : CameraColorGains := {}
  awbGainShift : CameraAwbGains := {}
  awbConvergeSpeedMode : CameraConvergeSpeedMode := .aiq
  awbConvergeSpeed : CameraConvergeSpeed := .normal
  afMode : CameraAfMode := .off
  afTrigger : CameraAfTrigger := .idle
  afRegions : List CameraWindow := []
  lensPosition : ℤ := 0
  lensMovementStartTimestamp : ℕ := 0
  focusDistance : ℚ := 0
  minFocusDistance : ℚ := 0

/-! ## Values of the engine blocks -/

/-- `ia_aiq_frame_use`. -/
inductive IaAiqFrameUse
  | preview | still | continuous | video
  deriving DecidableEq, Repr

/-- `ia_aiq_flash_mode`, as far as this file sets it. -/
inductive IaAiqFlashMode
  | off
  deriving DecidableEq, Repr

/-- `ia_aiq_ae_metering_mode`, as far as this file sets it. -/
inductive IaAiqAeMeteringMode
  | evaluative
  deriving DecidableEq, Repr

/-- `ia_aiq_ae_priority_mode`, as far as this file sets it. -/
inductive IaAiqAePriorityMode
  | normal
  deriving DecidableEq, Repr

/-- `ia_aiq_ae_flicker_reduction`. -/
inductive IaAiqAeFlickerReduction
  | off | hz50 | hz60 | auto
  deriving DecidableEq, Repr

/-- `ia_aiq_ae_exposure_distribution_priority`. -/
inductive IaAiqAeExposureDistributionPriority
  | auto | shutter | iso | aperture
  deriving DecidableEq, Repr

/-- `ia_aiq_af_operation_mode`. -/
inductive IaAiqAfOperationMode
  | auto | infinity | manual
  deriving DecidableEq, Repr

/-- `ia_aiq_manual_focus_action`. -/
inductive IaAiqManualFocusAction
  | none | setDistance
  deriving DecidableEq, Repr

/-- `ia_aiq_awb_operation_mode`. -/
inductive IaAiqAwbOperationMode
  | auto | incandescent | fluorescent | daylight | fullyOvercast | partlyOvercast | sunset
  | videoConference | manualCctRange | manualWhite
  deriving DecidableEq, Repr

/-- `ia_aiq_af_status`. -/
inductive IaAiqAfStatus
  | idle | localSearch | extendedSearch | success | fail
  deriving DecidableEq, Repr

/-- `ia_rectangle`. -/
structure IaRectangle where
  left : ℤ := 0
  top : ℤ := 0
  right : ℤ := 0
  bottom : ℤ := 0

/-- `ia_coordinate`. -/
structure IaCoordinate where
  x : ℤ := 0
  y : ℤ := 0

/-- `ia_aiq_ae_manual_limits`; `-1` means unbounded. -/
structure IaAiqAeManualLimits where
  manualExposureTimeMin : ℤ := 0
  manualExposureTimeMax : ℤ := 0
  manualFrameTimeUsMin : ℤ := 0
  manualFrameTimeUsMax : ℤ := 0
  manualIsoMin : ℤ := 0
  manualIsoMax : ℤ := 0

/-- `ia_aiq_exposure_sensor_descriptor`, the fields `setSensorInfo` copies. -/
structure IaAiqExposureSensorDescriptor where
  pixelClockFreqMhz : ℚ := 0
  pixelPeriodsPerLine : ℕ := 0
  linePeriodsPerField : ℕ := 0
  linePeriodsVerticalBlanking : ℕ := 0
  fineIntegrationTimeMin : ℕ := 0
  fineIntegrationTimeMaxMargin : ℕ := 0
  coarseIntegrationTimeMin : ℕ := 0
  coarseIntegrationTimeMaxMargin : ℕ := 0

/-- `cca_ae_input_params`.  The per-exposure arrays are indexed by slot; the sensor
descriptor and the manual limits are the first entries of their arrays, the only ones
this file touches. -/
structure CcaAeInputParams where
  isBypass : Bool := false
  numExposures : UInt32 := 0
  frameUse : IaAiqFrameUse := .preview
  flashMode : IaAiqFlashMode := .off
  meteringMode : IaAiqAeMeteringMode := .evaluative
  priorityMode : IaAiqAePriorityMode := .normal
  flickerReductionMode : IaAiqAeFlickerReduction := .off
  evShift : ℚ := 0
  manualExposureTimeUs : ℕ → ℤ := fun _ => 0
  manualAnalogGain : ℕ → CFloat := fun _ => 0
  manualIso : ℕ → ℤ := fun _ => 0
  numSensorDescriptors : ℕ := 0
  sensorDescriptor : IaAiqExposureSensorDescriptor := {}
  exposureWindow : IaRectangle := {}
  exposureCoordinate : IaCoordinate := {}
  manualConvergenceTime : ℚ := 0
  exposureDistributionPriority : IaAiqAeExposureDistributionPriority := .auto
  manualLimits : IaAiqAeManualLimits := {}

/-- `ia_aiq_manual_focus_parameters`. -/
structure IaAiqManualFocusParameters where
  manualFocusAction : IaAiqManualFocusAction := .none
  manualFocusDistance : UInt32 := 0
  manualLensPosition : ℤ := 0

/-- `cca_af_input_params`. -/
structure CcaAfInputParams where
  frameUse : IaAiqFrameUse := .preview
  lensPosition : ℤ := 0
  lensMovementStartTimestamp : ℕ := 0
  focusMode : IaAiqAfOperationMode := .auto
  flashMode : IaAiqFlashMode := .off
  focusRect : IaRectangle := {}
  manualFocusParameters : IaAiqManualFocusParameters := {}
  triggerNewSearch : Bool := false

/-- `ia_aiq_awb_manual_cct_range`. -/
structure IaAiqAwbManualCctRange where
  minCct : UInt32 := 0
  maxCct : UInt32 := 0

/-- `cca_awb_input_params`. -/
structure CcaAwbInputParams where
  sceneMode : IaAiqAwbOperationMode := .auto
  manualCctRange : IaAiqAwbManualCctRange := {}
  manualWhiteCoordinate : IaCoordinate := {}
  manualConvergenceTime : ℚ := 0

/-! ## Engine results and the collaborators -/

/-- `cca_ae_results`; `updateAeResult` reads none of its fields. -/
structure CcaAeResults

/-- `cca_af_results`, as far as `fillAfTriggerResult` reads it. -/
structure CcaAfResults where
  status : IaAiqAfStatus

/-- `ia_aiq_color_channels`. -/
structure IaAiqColorChannels where
  r : ℚ := 0
  gr : ℚ := 0
  gb : ℚ := 0
  b : ℚ := 0

/-- `cca_pa_params`, as far as `updatePaResult` writes it. -/
structure CcaPaParams where
  enableManualSettings : Bool := false
  colorGains : IaAiqColorChannels := {}
  colorConversionMatrix : Fin 3 → Fin 3 → ℚ := fun _ _ => 0

/-- `cca_awb_results`, as far as `updateAwbResult` writes it. -/
structure CcaAwbResults where
  accurateRPerG : ℚ := 0
  accurateBPerG : ℚ := 0

/-- `cca_cmc`, the static calibration record; only the base ISO is read. -/
structure CcaCmc where
  baseIso : ℤ

/-- The collaborators of `Intel3AParameter`: platform capability queries keyed by camera
id and scene mode (`none` when the query does not return `OK`), the calibration lookup
(`IntelCca::getInstance` then `getCMC`, `none` when either fails), the `AiqUtils`
converters and constants, and `pow` of `<cmath>` on the `double` values of its arguments,
which is increasing in its exponent for a base of at least one. -/
structure Env where
  getSupportAeExposureTimeRange : ℤ → ℕ → Option CameraRange
  getSupportAeGainRange : ℤ → ℕ → Option CameraRange
  getExposureNum : ℤ → Bool → ℤ
  isMultiExposureCase : ℕ → Bool
  getCMC : ℤ → ℕ → Option CcaCmc
  convertFrameUsageToIaFrameUsage : CameraFrameUsage → IaAiqFrameUse
  convertSpeedModeToTime : CameraConvergeSpeed → ℚ
  convertToIaCoordinate : CameraCoordinateSystem → CameraCoordinate → CameraCoordinate
  convertToIaWindow : CameraCoordinateSystem → CameraWindow → CameraWindow
  normalizeAwbGain : ℤ → ℚ
  awbGainNormalizedStart : ℚ
  awbGainNormalizedEnd : ℚ
  maxFocusDistance : UInt32
  pow : ℚ → ℚ → ℚ
  pow_le_pow : ∀ b x y, 1 ≤ b → x ≤ y → pow b x ≤ pow b y

end Intel3A
