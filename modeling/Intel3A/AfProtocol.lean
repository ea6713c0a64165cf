import Intel3A.AfTrigger
/-!
# The AF trigger protocol

The AF members of `Intel3AParameter` implement a small protocol, stated here on its own: the
AF mode, the stored trigger, the phase of a user scan (none, running, or running with the
lock held) and the one-frame request for a new search.  A request in another mode restarts
the protocol with an idle trigger; a rising START edge starts a scan, held with the lock in
continuous video, and in auto or macro mode asks for a new search; a rising CANCEL edge ends
the scan; `init` returns to auto mode.

`AfState.protocol` reads the protocol state off an AF block.  The mode and trigger sections
of `updateAfParameter` are the two halves of a protocol step and the other sections leave
the protocol state alone, so every update refines a step from any object
(`protocol_updateAf`); every other call does from a reachable one (`protocol_step`).  Every
run from a constructed object therefore follows the protocol (`af_follows_protocol`), and
what the protocol guarantees holds of every reachable object: a new search is asked for only
during a START scan in auto or macro mode (`triggerNewSearch_only_during_scan`), and a running
scan, with its lock, survives every call that neither changes the mode nor cancels nor
calls `init` (`scan_persists`).  `fillAfTriggerResult`, the one call the protocol does not
see, changes no reachable object (`fillAfTriggerResult_noop`).
-/

namespace Intel3A

/-- How far a user scan has got. -/
inductive AfPhase
  | idle
  | scanning
  | locked
  deriving DecidableEq, Repr

/-- The state of the AF trigger protocol. -/
structure AfProtocol where
  mode : CameraAfMode
  trigger : CameraAfTrigger
  phase : AfPhase
  newSearch : Bool
  deriving DecidableEq, Repr

/-- A call that keeps a running scan in `mode`: any call but `init`, a request in another
mode, or a request for CANCEL. -/
def Event.keepsScan (mode : CameraAfMode) : Event → Bool
  | .init => false
  | .updateParameter param => decide (param.afMode = mode ∧ param.afTrigger ≠ .cancel)
  | _ => true

namespace AfProtocol

/-- The protocol state of a constructed object. -/
def initial : AfProtocol := ⟨.off, .idle, .idle, false⟩

/-- Entering a mode: another mode restarts with an idle trigger and no scan. -/
def enter (a : AfProtocol) (mode : CameraAfMode) : AfProtocol :=
  if a.mode = mode then a else ⟨mode, .idle, .idle, false⟩

/-- The phase of a scan in a mode: continuous video holds the lock. -/
def scanPhase (mode : CameraAfMode) : AfPhase :=
  if mode = .continuousVideo then .locked else .scanning

/-- A trigger in the current mode: a rising START edge starts a scan, locked in continuous
video, and in auto or macro mode asks for a new search; a rising CANCEL edge ends it. -/
def edge (a : AfProtocol) (trigger : CameraAfTrigger) : AfProtocol :=
  let start := a.trigger ≠ .start ∧ trigger = .start
  { a with
    trigger := trigger
    phase :=
      if start then scanPhase a.mode
      else if a.trigger ≠ .cancel ∧ trigger = .cancel then .idle
      else a.phase
    newSearch := decide (start ∧ (a.mode = .auto ∨ a.mode = .macroMode)) }

/-- One call. -/
def step (a : AfProtocol) : Event → AfProtocol
  | .init => ⟨.auto, .idle, .idle, false⟩
  | .updateParameter param => (a.enter param.afMode).edge param.afTrigger
  | _ => a

/-- A sequence of calls. -/
def run (a : AfProtocol) : List Event → AfProtocol
  | [] => a
  | e :: es => (a.step e).run es

/-- What the protocol guarantees of a new-search request: it is made only while a scan
started by START runs, unlocked, in auto or macro mode. -/
def SearchInScan (a : AfProtocol) : Prop :=
  a.newSearch = true →
    a.phase = .scanning ∧ a.trigger = .start ∧ (a.mode = .auto ∨ a.mode = .macroMode)

/-- Every trigger step decides the request afresh, so it holds after any of them. -/
theorem searchInScan_edge (a : AfProtocol) (trigger : CameraAfTrigger) :
    (a.edge trigger).SearchInScan := by
  intro h
  obtain ⟨⟨hprev, rfl⟩, hmode⟩ := of_decide_eq_true h
  have hvideo : a.mode ≠ .continuousVideo := by rcases hmode with h | h <;> simp [h]
  exact ⟨by simp [edge, scanPhase, hprev, hvideo], rfl, hmode⟩

theorem searchInScan_step {a : AfProtocol} (h : a.SearchInScan) :
    ∀ e, (a.step e).SearchInScan
  | .init => nofun
  | .updateParameter param => searchInScan_edge _ param.afTrigger
  | .setSensorInfo _ | .updateAeResult _ | .updatePaResult _ | .updateAwbResult _
  | .fillAfTriggerResult _ => h

/-- A running scan has the phase of its mode. -/
def PhaseOfMode (a : AfProtocol) : Prop :=
  a.phase = .idle ∨ a.phase = scanPhase a.mode

theorem phaseOfMode_step {a : AfProtocol} (h : a.PhaseOfMode) : ∀ e, (a.step e).PhaseOfMode
  | .init => .inl rfl
  | .updateParameter param => by
    have henter : (a.enter param.afMode).PhaseOfMode := by
      unfold enter; split_ifs
      · exact h
      · exact .inl rfl
    unfold PhaseOfMode at henter ⊢
    simp only [step, edge]
    split_ifs
    · exact .inr rfl
    · exact .inl rfl
    · exact henter
  | .setSensorInfo _ | .updateAeResult _ | .updatePaResult _ | .updateAwbResult _
  | .fillAfTriggerResult _ => h

theorem step_of_keepsScan {a : AfProtocol} (h : a.PhaseOfMode) (hphase : a.phase ≠ .idle)
    {e : Event} (he : e.keepsScan a.mode) :
    (a.step e).mode = a.mode ∧ (a.step e).phase = a.phase := by
  cases e with
  | init => exact absurd he Bool.false_ne_true
  | updateParameter param =>
    obtain ⟨hmode, hcancel⟩ := of_decide_eq_true he
    have hscan : a.phase = scanPhase a.mode := h.resolve_left hphase
    simp only [step, enter, hmode, if_true, edge, hcancel, and_false, if_false]
    split_ifs <;> simp [hscan]
  | _ => exact ⟨rfl, rfl⟩

theorem phase_run_of_keepsScan {a : AfProtocol} (h : a.PhaseOfMode) (hphase : a.phase ≠ .idle)
    {es : List Event} (hes : ∀ e ∈ es, e.keepsScan a.mode) : (a.run es).phase = a.phase := by
  induction es generalizing a with
  | nil => rfl
  | cons e es ih =>
    obtain ⟨hmode, hstep⟩ := step_of_keepsScan h hphase (hes e (List.mem_cons_self _ _))
    rw [run, ih (phaseOfMode_step h e) (hstep ▸ hphase) fun e' he' =>
      hmode ▸ hes e' (List.mem_cons_of_mem _ he'), hstep]

end AfProtocol

/-- The phase the lock and scan flags encode. -/
def AfState.phase (st : AfState) : AfPhase :=
  if st.mAfForceLock then .locked else if st.mDuringAfTriggerScan then .scanning else .idle

/-- The protocol state of an AF block. -/
def AfState.protocol (st : AfState) : AfProtocol :=
  ⟨st.mAfMode, st.mAfTrigger, st.phase, st.mAfParams.triggerNewSearch⟩

theorem AfState.phase_eq_scanning {st : AfState} :
    st.phase = .scanning ↔ st.mAfForceLock = false ∧ st.mDuringAfTriggerScan = true := by
  unfold AfState.phase
  cases st.mAfForceLock <;> cases st.mDuringAfTriggerScan <;> decide

theorem AfState.phase_eq_locked {st : AfState} : st.phase = .locked ↔ st.mAfForceLock = true := by
  unfold AfState.phase
  cases st.mAfForceLock <;> cases st.mDuringAfTriggerScan <;> decide

/-! ## Each call is a protocol step -/

section Refinement

variable {env : Env} {param : AiqParameter} {st : AfState}

/-- The protocol state reads the mode, the trigger, the two flags and the new-search
request, and nothing else. -/
theorem AfState.protocol_congr {st' : AfState} (hmode : st'.mAfMode = st.mAfMode)
    (htrigger : st'.mAfTrigger = st.mAfTrigger) (hlock : st'.mAfForceLock = st.mAfForceLock)
    (hscan : st'.mDuringAfTriggerScan = st.mDuringAfTriggerScan)
    (hsearch : st'.mAfParams.triggerNewSearch = st.mAfParams.triggerNewSearch) :
    st'.protocol = st.protocol := by
  simp only [AfState.protocol, AfState.phase, hmode, htrigger, hlock, hscan, hsearch]

theorem protocol_afModeUpdate :
    (afModeUpdate env param st).protocol = st.protocol.enter param.afMode := by
  by_cases h : st.mAfMode = param.afMode
  · simp [afModeUpdate, AfProtocol.enter, AfState.protocol, h]
  · simp only [afModeUpdate, AfProtocol.enter, AfState.protocol, AfState.phase, ne_eq, h,
      not_false_eq_true, if_true, Bool.false_eq_true, if_false]
    split_ifs <;> rfl

theorem protocol_afTriggerUpdate :
    (afTriggerUpdate param st).protocol = st.protocol.edge param.afTrigger := by
  simp only [afTriggerUpdate, updateAfParameterForAfTriggerStart_eq,
    updateAfParameterForAfTriggerCancel_eq, AfProtocol.edge, AfProtocol.scanPhase,
    AfState.protocol]
  split_ifs <;> simp_all [AfState.phase]

theorem protocol_updateAf :
    (updateAfParameter env param st).protocol =
      (st.protocol.enter param.afMode).edge param.afTrigger := by
  have hsections : (updateAfParameter env param st).protocol =
      (afTriggerUpdate param
        { afModeUpdate env param (afLensUpdate param st) with
          mAfParams :=
            { (afModeUpdate env param (afLensUpdate param st)).mAfParams with
              frameUse := env.convertFrameUsageToIaFrameUsage param.frameUsage } }).protocol :=
    AfState.protocol_congr rfl rfl rfl rfl (triggerNewSearch_afManualFocus _ _ _)
  rw [hsections, protocol_afTriggerUpdate]
  exact congrArg (AfProtocol.edge · param.afTrigger) protocol_afModeUpdate

/-- From a reachable object every call moves the AF block by one protocol step. -/
theorem protocol_step {s : Intel3AParameter} (hs : Reachable env s) (e : Event) :
    (step env s e).af.protocol = s.af.protocol.step e := by
  cases e with
  | init => rfl
  | updateParameter param => exact protocol_updateAf
  | fillAfTriggerResult afResults =>
    show (fillAfTriggerResult s.af afResults).protocol = s.af.protocol
    rw [fillAfTriggerResult_of_afInv (afInv_of_reachable hs)]
  | _ => rfl

theorem protocol_run {s : Intel3AParameter} (hs : Reachable env s) (es : List Event) :
    (run env s es).af.protocol = s.af.protocol.run es := by
  induction es generalizing s with
  | nil => rfl
  | cons e es ih => rw [run, ih (hs.next e), AfProtocol.run, protocol_step hs]

/-- Every invariant of the protocol holds of the protocol state of every reachable object. -/
theorem protocol_invariant (P : AfProtocol → Prop) (hinitial : P AfProtocol.initial)
    (hstep : ∀ a e, P a → P (a.step e)) {s : Intel3AParameter} (hs : Reachable env s) :
    P s.af.protocol := by
  refine Reachable.induction env (fun s => P s.af.protocol) (fun _ => hinitial)
    (fun s e hs h => ?_) hs
  show P (step env s e).af.protocol
  rw [protocol_step hs]
  exact hstep _ e h

end Refinement

variable (env : Env)

/-- Every run from a constructed object moves its AF mode, stored trigger, scan phase and
new-search request exactly as the protocol does on the same calls. -/
theorem af_follows_protocol (cameraId : ℤ) (es : List Event) :
    (run env (Intel3AParameter.new cameraId) es).af.protocol = AfProtocol.initial.run es :=
  protocol_run (Reachable.new cameraId) es

/-- On a reachable object `fillAfTriggerResult` changes nothing, whatever the engine
reports: only continuous video holds the lock, and that mode has no branch. -/
theorem fillAfTriggerResult_noop {s : Intel3AParameter} (hs : Reachable env s)
    (afResults : Option CcaAfResults) : step env s (.fillAfTriggerResult afResults) = s := by
  show { s with af := fillAfTriggerResult s.af afResults } = s
  rw [fillAfTriggerResult_of_afInv (afInv_of_reachable hs)]

theorem fillAfTriggerResult_noop_locked :
    let s := run sampleEnv (Intel3AParameter.new 0)
      [.init, .updateParameter { afMode := .continuousVideo, afTrigger := .start }]
    Reachable sampleEnv s ∧ s.af.mAfForceLock = true ∧
      step sampleEnv s (.fillAfTriggerResult (some { status := .success })) = s :=
  let hs := (Reachable.new 0).run sampleEnv _
  ⟨hs, rfl, fillAfTriggerResult_noop sampleEnv hs _⟩

/-- In every reachable object the engine is asked for a new search only while an unlocked
scan started by START runs in auto or macro mode. -/
theorem triggerNewSearch_only_during_scan {s : Intel3AParameter} (hs : Reachable env s)
    (hsearch : s.af.mAfParams.triggerNewSearch = true) :
    s.af.mAfForceLock = false ∧ s.af.mDuringAfTriggerScan = true ∧
      s.af.mAfTrigger = .start ∧ (s.af.mAfMode = .auto ∨ s.af.mAfMode = .macroMode) := by
  have hinv : s.af.protocol.SearchInScan :=
    protocol_invariant AfProtocol.SearchInScan nofun
      (fun _ e h => AfProtocol.searchInScan_step h e) hs
  obtain ⟨hphase, htrigger, hmode⟩ := hinv hsearch
  exact ⟨(AfState.phase_eq_scanning.1 hphase).1, (AfState.phase_eq_scanning.1 hphase).2,
    htrigger, hmode⟩

theorem triggerNewSearch_only_during_scan_after_start :
    let s := run sampleEnv (Intel3AParameter.new 0)
      [.init, .updateParameter { afMode := .auto, afTrigger := .start }]
    Reachable sampleEnv s ∧ s.af.mAfParams.triggerNewSearch = true ∧
      (s.af.mAfForceLock = false ∧ s.af.mDuringAfTriggerScan = true ∧
        s.af.mAfTrigger = .start ∧ (s.af.mAfMode = .auto ∨ s.af.mAfMode = .macroMode)) :=
  let hs := (Reachable.new 0).run sampleEnv _
  ⟨hs, rfl, triggerNewSearch_only_during_scan sampleEnv hs rfl⟩

/-- A running user scan, and the lock continuous video holds during it, survive every
sequence of calls without `init`, a request in another AF mode, or a CANCEL: repeated START
or IDLE requests and any AF result leave them as they are. -/
theorem scan_persists {s : Intel3AParameter} (hs : Reachable env s)
    (hscan : s.af.mDuringAfTriggerScan = true) {es : List Event}
    (hes : ∀ e ∈ es, e.keepsScan s.af.mAfMode) :
    (run env s es).af.mDuringAfTriggerScan = true ∧
      (run env s es).af.mAfForceLock = s.af.mAfForceLock := by
  have hinv : s.af.protocol.PhaseOfMode :=
    protocol_invariant AfProtocol.PhaseOfMode (.inl rfl)
      (fun _ e h => AfProtocol.phaseOfMode_step h e) hs
  have hidle : s.af.protocol.phase ≠ .idle := by
    simp only [AfState.protocol, AfState.phase, hscan, if_true]
    split_ifs <;> simp
  have hphase : (run env s es).af.phase = s.af.phase := by
    have := AfProtocol.phase_run_of_keepsScan hinv hidle hes
    rwa [← protocol_run hs] at this
  have hafter := afInv_of_reachable (hs.run env es)
  cases hlock : s.af.mAfForceLock
  · obtain ⟨hrun, hrunScan⟩ := AfState.phase_eq_scanning.1
      (hphase.trans (AfState.phase_eq_scanning.2 ⟨hlock, hscan⟩))
    exact ⟨hrunScan, hrun⟩
  · have hrun : (run env s es).af.mAfForceLock = true :=
      AfState.phase_eq_locked.1 (hphase.trans (AfState.phase_eq_locked.2 hlock))
    exact ⟨(hafter.video_of_lock hrun).2, hrun⟩

theorem scan_persists_through_frames :
    let s := run sampleEnv (Intel3AParameter.new 0)
      [.init, .updateParameter { afMode := .auto, afTrigger := .start }]
    let es : List Event :=
      [.updateParameter { afMode := .auto, afTrigger := .idle },
        .fillAfTriggerResult (some { status := .success }),
        .updateParameter { afMode := .auto, afTrigger := .start }]
    Reachable sampleEnv s ∧ s.af.mDuringAfTriggerScan = true ∧
      (∀ e ∈ es, e.keepsScan s.af.mAfMode) ∧
      ((run sampleEnv s es).af.mDuringAfTriggerScan = true ∧
        (run sampleEnv s es).af.mAfForceLock = s.af.mAfForceLock) :=
  let hs := (Reachable.new 0).run sampleEnv
    [.init, .updateParameter { afMode := .auto, afTrigger := .start }]
  have hes : ∀ e ∈ ([.updateParameter { afMode := .auto, afTrigger := .idle },
      .fillAfTriggerResult (some { status := .success }),
      .updateParameter { afMode := .auto, afTrigger := .start }] : List Event),
      e.keepsScan .auto := by decide
  ⟨hs, rfl, hes, scan_persists sampleEnv hs rfl hes⟩

end Intel3A
